import FunctionKit.Json.Numeral

/-!
# Values without a JSON form

A value that has no JSON form says why in a text. A text that ends in a line and a column names a
place in a document. The place is kept as two numbers, so it is shown again without zeros in
front, and a place in line zero, which no document has, is not kept.
-/

namespace FunctionKit.Json

set_option autoImplicit false

open FunctionKit.Text

/-- A place in a document. Both numbers fit a word of 64 bits. -/
structure Place where
  line : Nat
  column : Nat
deriving DecidableEq, Repr

namespace Place

def lineMark : List Char :=
  " at line ".toList

def columnMark : List Char :=
  " column ".toList

/-- A number that fits a word at the front of a text, and the text after it. -/
def readCount? (text : List Char) : Option (Nat × List Char) :=
  let run := text.takeWhile Char.isDigit
  if !run.isEmpty && fitsWord (digitsValue run) then
    some (digitsValue run, text.dropWhile Char.isDigit)
  else none

/-- The place that a text names from its first to its last character. -/
def read? (text : List Char) : Option Place := do
  let (line, text) ← readCount? (← lineMark.isPrefixOf? text)
  let (column, text) ← readCount? (← columnMark.isPrefixOf? text)
  if text.isEmpty then some { line, column } else none

def render (place : Place) : List Char :=
  lineMark ++ digits place.line ++ columnMark ++ digits place.column

/-- What stands before the place at the end of a text, and the place. -/
def split? : List Char → Option (List Char × Place)
  | [] => none
  | c :: rest =>
    match read? (c :: rest) with
    | some place => some ([], place)
    | none => (split? rest).map fun (before, place) => (c :: before, place)

end Place

/-- Why a value has no JSON form, and the place in a document that has to do with it. -/
structure WriteError where
  reason : List Char
  place : Option Place
deriving DecidableEq, Repr

namespace WriteError

/-- The error that a text tells of. -/
def ofText (text : String) : WriteError :=
  match Place.split? text.toList with
  | none => { reason := text.toList, place := none }
  | some (reason, place) => { reason, place := if place.line = 0 then none else some place }

def message (error : WriteError) : String :=
  String.ofList (error.reason ++ (error.place.map Place.render).getD [])

end WriteError

end FunctionKit.Json
