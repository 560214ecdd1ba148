import FunctionKit.Logging.Handler
import FunctionKit.Logging.Record
import FunctionKit.Text.Encoding

/-!
# The registry of loggers

Loggers have dotted names: `a.b` lies below `a`, and everything lies below the root, whose name is
empty. An entry knows its parent, the nearest registered name above it. Registering a name puts it
between its parent and the entries below it, which are found by one scan of the ordered names.
-/

namespace FunctionKit.Logging

set_option autoImplicit false

structure Entry where
  handlers : List Handler
  level : Level
  propagate : Bool
  /-- The name of the entry above; only the root has none. -/
  parent : Option String
  /-- The keys of the formatter of the service that has the entry's name. -/
  boundKeys : Fields

def rootName : String := ""

structure Registry where
  root : Entry
  /-- Every entry but the root, in ascending order of names. -/
  named : Dict Entry

/-! ## Names -/

/-- The texts in front of the dots of a name, the shortest first. -/
def dottedStarts : List Char → List (List Char)
  | [] => []
  | c :: rest =>
    let longer := (dottedStarts rest).map (c :: ·)
    if c = '.' then [] :: longer else longer

/-- The names in front of the dots of a name, the nearest first. The root lies above all of them. -/
def namesAbove (name : String) : List String :=
  (dottedStarts name.toList).reverse.map String.ofList

/-- What the names below a name start with. -/
def stem (name : String) : String :=
  name ++ "."

def startsWith (start name : String) : Bool :=
  start.toList.isPrefixOf name.toList

def isBelow (name upper : String) : Bool :=
  startsWith (stem upper) name

namespace Entry

def fresh (name : String) (parent : Option String) : Entry :=
  { handlers := []
    level := .notSet
    propagate := true
    parent
    boundKeys := BoundKeys.initial name }

/-- Whether an entry hangs higher than a name: it has no parent, or one whose name has fewer
bytes. -/
def skips (name : String) (entry : Entry) : Bool :=
  entry.parent.all fun parent => (Text.utf8Bytes parent).length < (Text.utf8Bytes name).length

/-- Hangs an entry below a new name, unless its parent is nearer. Both are names above the entry,
so the longer one is the nearer. -/
def rehang (name : String) (entry : Entry) : Entry :=
  if entry.skips name then { entry with parent := some name } else entry

end Entry

namespace Registry

def empty : Registry :=
  { root := { Entry.fresh rootName none with level := .warning }
    named := [] }

def get? (registry : Registry) (name : String) : Option Entry :=
  if name = rootName then some registry.root else Dict.get? name registry.named

def isRegistered (registry : Registry) (name : String) : Bool :=
  (registry.get? name).isSome

/-- The registered names in ascending order, without the root. -/
def names (registry : Registry) : List String :=
  Dict.keys registry.named

def modify (registry : Registry) (name : String) (change : Entry → Entry) : Registry :=
  if name = rootName then { registry with root := change registry.root }
  else { registry with named := Dict.modify name change registry.named }

theorem get?_modify (registry : Registry) (name other : String) (change : Entry → Entry) :
    (registry.modify name change).get? other =
      if name = other then (registry.get? other).map change else registry.get? other := by
  by_cases atRoot : name = rootName
  · subst atRoot
    by_cases asked : other = rootName
    · simp [modify, get?, asked]
    · simp [modify, get?, asked, Ne.symm asked]
  · by_cases asked : other = rootName
    · subst asked
      simp [modify, get?, atRoot]
    · simp [modify, get?, atRoot, asked, Dict.get?_modify]

theorem names_modify (registry : Registry) (name : String) (change : Entry → Entry) :
    (registry.modify name change).names = registry.names := by
  by_cases atRoot : name = rootName
  · simp [modify, names, atRoot]
  · simp [modify, names, atRoot, Dict.keys_modify]

def nearestAbove (registry : Registry) (name : String) : String :=
  ((namesAbove name).find? fun upper => Dict.contains upper registry.named).getD rootName

/-- The entries with those below a name hung to it. Names that start with the stem stand together
in the order and begin at the first name that is not before the stem. -/
def adopt (name : String) (entries : Dict Entry) : Dict Entry :=
  let before := entries.takeWhile fun entry => entry.1 < stem name
  let onwards := entries.dropWhile fun entry => entry.1 < stem name
  let below := onwards.takeWhile fun entry => isBelow entry.1 name
  let after := onwards.dropWhile fun entry => isBelow entry.1 name
  before ++ below.map (fun entry => (entry.1, entry.2.rehang name)) ++ after

def register (registry : Registry) (name : String) : Registry :=
  if registry.isRegistered name then registry
  else
    let entry := Entry.fresh name (some (registry.nearestAbove name))
    { registry with named := Dict.insert name entry (adopt name registry.named) }

theorem register_registered (registry : Registry) (name : String)
    (registered : registry.isRegistered name = true) : registry.register name = registry := by
  simp [register, registered]

/-! ## The way up -/

/-- The entries from a name upwards with their names, at most as many as the bound. -/
def climb (registry : Registry) : Nat → String → List (String × Entry)
  | 0, _ => []
  | bound + 1, name =>
    match registry.get? name with
    | none => []
    | some entry =>
      (name, entry) ::
        match entry.parent with
        | none => []
        | some parent => climb registry bound parent

/-- The entries from a name up to the root. Every name on the way is shorter than the one before,
so their number is bounded by the length. -/
def lineage (registry : Registry) (name : String) : List (String × Entry) :=
  registry.climb (name.length + 1) name

def firstLevel : List (String × Entry) → Level
  | [] => .notSet
  | (_, entry) :: above => if entry.level = .notSet then firstLevel above else entry.level

def effectiveLevel (registry : Registry) (name : String) : Level :=
  firstLevel (registry.lineage name)

def isEnabled (registry : Registry) (name : String) (level : Level) : Bool :=
  level.passes (registry.effectiveLevel name)

/-- The handlers on the way up, until an entry keeps its records to itself. -/
def handlersUpwards : List (String × Entry) → List Handler
  | [] => []
  | (_, entry) :: above =>
    entry.handlers ++ if entry.propagate then handlersUpwards above else []

def audience (registry : Registry) (name : String) : List Handler :=
  handlersUpwards (registry.lineage name)

end Registry

end FunctionKit.Logging
