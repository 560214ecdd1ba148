import FunctionKit.Json.Basic

/-!
# Required tags

A rule's parameters name the tags that a resource must carry, and possibly their values. The
verdict lists the tags that are missing or different in ascending order.
-/

namespace FunctionKit.ConfigRule

set_option autoImplicit false

inductive Compliance
  | compliant
  | nonCompliant
  | notApplicable
deriving DecidableEq, Repr

namespace Compliance

def code : Compliance → String
  | .compliant => "COMPLIANT"
  | .nonCompliant => "NON_COMPLIANT"
  | .notApplicable => "NOT_APPLICABLE"

def title : Compliance → String
  | .compliant => "Compliant"
  | .nonCompliant => "NonCompliant"
  | .notApplicable => "NotApplicable"

end Compliance

structure Verdict where
  compliance : Compliance
  annotation : Option String
deriving DecidableEq, Repr

/-- The value of a tag of an item, if the item has tags and this one is text. -/
def tagValue? (item : Fields) (tag : String) : Option String :=
  ((Dict.get? "tags" item).bind Json.asObject?).bind fun tags =>
    (Dict.get? tag tags).bind Json.asString?

/-- A parameter asks for a tag; unless its value is empty it asks for that value. -/
def satisfies (item : Fields) (parameter : String × String) : Bool :=
  match tagValue? item parameter.1 with
  | some actual => parameter.2 = "" || actual = parameter.2
  | none => false

/-- The tags that are missing or different, whatever the order of the parameters. -/
def unsatisfied (item : Fields) (parameters : List (String × String)) : List String :=
  ((parameters.filter fun parameter => !satisfies item parameter).map Prod.fst).mergeSort
    fun first second => first ≤ second

def checkTags (item : Fields) (parameters : List (String × String)) : Verdict :=
  match unsatisfied item parameters with
  | [] => ⟨.compliant, none⟩
  | tags =>
    ⟨.nonCompliant, some ("missing or mismatched tags: " ++ String.intercalate ", " tags)⟩

end FunctionKit.ConfigRule
