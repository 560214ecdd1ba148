import FunctionKit.Json.Numeral

/-!
# Reading JSON text

One value with blanks around it. Reading is strict: no trailing comma, no raw control in a
string, no unpaired surrogate escape, at most 127 arrays and objects inside each other. Of
members with one key the last counts.
-/

namespace FunctionKit.Json

set_option autoImplicit false

open FunctionKit.Text

def isGap (c : Char) : Bool :=
  c = ' ' || c = '\t' || c = '\n' || c = '\r'

def skipGaps (text : List Char) : List Char :=
  text.dropWhile isGap

/-- The rest of a literal name whose first character has been read. -/
def readWord {α : Type} (value : α) : List Char → List Char → Reading α
  | [], text => .ok (value, text)
  | _ :: _, [] => .error .unfinished
  | expected :: more, c :: rest =>
    if c = expected then readWord value more rest else .error .malformed

/-! ## Strings -/

/-- What the next character of a string is read as. A pair of surrogate escapes keeps its high
half until the low one is complete. -/
inductive Awaited
  | plain
  | escaped
  | unit (digitsLeft : Nat) (value : Nat) (high : Option Nat)
  | pairSlash (high : Nat)
  | pairMark (high : Nat)

def shortOfFour (text : List Char) : Bool :=
  (text.take 4).foldl (fun bytes c => bytes + c.utf8Size) 0 < 4

/-- What a complete code unit stands for: a character, a high half that waits for its low one, or
a half out of place. -/
inductive UnitMeaning
  | character (c : Char)
  | high (unit : Nat)
  | stray

/-- The meaning of a code unit after the high half before it, if there is one. -/
def unitMeaning (high : Option Nat) (unit : Nat) : UnitMeaning :=
  let isLow := 0xDC00 ≤ unit && unit < 0xE000
  match high with
  | some high =>
    if isLow then .character (Char.ofNat (0x10000 + (high - 0xD800) * 0x400 + (unit - 0xDC00)))
    else .stray
  | none =>
    if isLow then .stray
    else if 0xD800 ≤ unit && unit < 0xDC00 then .high unit
    else .character (Char.ofNat unit)

/-- The characters that a backslash and one character stand for. -/
def shortEscape? (c : Char) : Option Char :=
  if c = '"' then some '"'
  else if c = '\\' then some '\\'
  else if c = '/' then some '/'
  else if c = 'b' then some '\x08'
  else if c = 'f' then some '\x0c'
  else if c = 'n' then some '\n'
  else if c = 'r' then some '\r'
  else if c = 't' then some '\t'
  else none

def prependTo (c : Char) : Reading (List Char) → Reading (List Char)
  | .ok (chars, rest) => .ok (c :: chars, rest)
  | .error fault => .error fault

/-- The characters of a string up to and without its closing quote. -/
def readChars : Awaited → List Char → Reading (List Char)
  | _, [] => .error .unfinished
  | .plain, c :: rest =>
    if c = '"' then .ok ([], rest)
    else if c = '\\' then readChars .escaped rest
    else if c.toNat < 0x20 then .error .malformed
    else prependTo c (readChars .plain rest)
  | .escaped, c :: rest =>
    if c = 'u' then
      if shortOfFour rest then .error .unfinished else readChars (.unit 3 0 none) rest
    else
      match shortEscape? c with
      | some meant => prependTo meant (readChars .plain rest)
      | none => .error .malformed
  | .unit (left + 1) value high, c :: rest =>
    match hexValue? c with
    | none => .error .malformed
    | some digit => readChars (.unit left (value * 16 + digit) high) rest
  | .unit 0 value high, c :: rest =>
    match hexValue? c with
    | none => .error .malformed
    | some digit =>
      match unitMeaning high (value * 16 + digit) with
      | .character meant => prependTo meant (readChars .plain rest)
      | .high unit => readChars (.pairSlash unit) rest
      | .stray => .error .malformed
  | .pairSlash high, c :: rest =>
    if c = '\\' then readChars (.pairMark high) rest else .error .malformed
  | .pairMark high, c :: rest =>
    if c = 'u' then
      if shortOfFour rest then .error .unfinished else readChars (.unit 3 0 (some high)) rest
    else .error .malformed

def readString (text : List Char) : Reading String :=
  match readChars .plain text with
  | .error fault => .error fault
  | .ok (chars, rest) => .ok (String.ofList chars, rest)

/-! ## Values -/

/-- A value whose arrays and objects are read by the given readers, which see the text after the
opening bracket. -/
def readStart (onArray onObject : List Char → Reading Json) (text : List Char) : Reading Json :=
  match skipGaps text with
  | [] => .error .unfinished
  | c :: rest =>
    if c = '[' then onArray rest
    else if c = '{' then onObject rest
    else if c = '"' then
      match readString rest with
      | .error fault => .error fault
      | .ok (value, rest) => .ok (.string value, rest)
    else if c = 'n' then readWord .null ['u', 'l', 'l'] rest
    else if c = 't' then readWord (.bool true) ['r', 'u', 'e'] rest
    else if c = 'f' then readWord (.bool false) ['a', 'l', 's', 'e'] rest
    else if c = '-' || c.isDigit then
      match readNumber (c :: rest) with
      | .error fault => .error fault
      | .ok (value, rest) => .ok (.number value, rest)
    else .error .malformed

/-- Items from just before one of them, at most as many as the bound. -/
def readItems (item : List Char → Reading Json) : Nat → List Char → Reading (List Json)
  | 0, _ => .error .unfinished
  | bound + 1, text =>
    match item text with
    | .error fault => .error fault
    | .ok (first, rest) =>
      match skipGaps rest with
      | [] => .error .unfinished
      | c :: rest =>
        if c = ']' then .ok ([first], rest)
        else if c = ',' then
          match readItems item bound rest with
          | .error fault => .error fault
          | .ok (others, rest) => .ok (first :: others, rest)
        else .error .malformed

/-- An array after its opening bracket. Every item takes at least one character, so the length of
the text bounds their number. -/
def readArray (item : List Char → Reading Json) (text : List Char) : Reading Json :=
  match skipGaps text with
  | [] => .error .unfinished
  | c :: rest =>
    if c = ']' then .ok (.array [], rest)
    else
      match readItems item text.length text with
      | .error fault => .error fault
      | .ok (items, rest) => .ok (.array items, rest)

def readMember {α : Type} (value : List Char → Reading α) (text : List Char) :
    Reading (String × α) :=
  match skipGaps text with
  | [] => .error .unfinished
  | c :: rest =>
    if c = '"' then
      match readString rest with
      | .error fault => .error fault
      | .ok (key, rest) =>
        match skipGaps rest with
        | [] => .error .unfinished
        | c :: rest =>
          if c = ':' then
            match value rest with
            | .error fault => .error fault
            | .ok (held, rest) => .ok ((key, held), rest)
          else .error .malformed
    else .error .malformed

/-- Members from just before one of them, at most as many as the bound. -/
def readMembers {α : Type} (value : List Char → Reading α) :
    Nat → List Char → Reading (List (String × α))
  | 0, _ => .error .unfinished
  | bound + 1, text =>
    match readMember value text with
    | .error fault => .error fault
    | .ok (first, rest) =>
      match skipGaps rest with
      | [] => .error .unfinished
      | c :: rest =>
        if c = '}' then .ok ([first], rest)
        else if c = ',' then
          match readMembers value bound rest with
          | .error fault => .error fault
          | .ok (others, rest) => .ok (first :: others, rest)
        else .error .malformed

/-- The members of an object after its opening brace, in the order of the text. -/
def readObject {α : Type} (value : List Char → Reading α) (text : List Char) :
    Reading (Dict α) :=
  match skipGaps text with
  | [] => .error .unfinished
  | c :: rest =>
    if c = '}' then .ok ([], rest)
    else
      match readMembers value text.length text with
      | .error fault => .error fault
      | .ok (members, rest) => .ok (Dict.ofPairs members, rest)

/-- One value that puts at most `depth` arrays and objects inside each other. -/
def readValue : Nat → List Char → Reading Json
  | 0, text => readStart (fun _ => .error .malformed) (fun _ => .error .malformed) text
  | depth + 1, text =>
    readStart (readArray (readValue depth))
      (fun rest =>
        match readObject (readValue depth) rest with
        | .error fault => .error fault
        | .ok (members, rest) => .ok (.object members, rest))
      text

def greatestDepth : Nat := 127

/-- Nothing but gaps may follow a document. -/
def atEnd {α : Type} : Reading α → Except ReadError α
  | .error fault => .error fault
  | .ok (value, rest) => if (skipGaps rest).isEmpty then .ok value else .error .malformed

/-- The value of a whole document. -/
def read (text : String) : Except ReadError Json :=
  atEnd (readValue greatestDepth text.toList)

/-! ## Objects of strings -/

/-- A value that is not an array or object; those are mismatched from their first character. -/
def readScalar (text : List Char) : Reading Json :=
  readStart (fun _ => .error .mismatched) (fun _ => .error .mismatched) text

def readStringValue (text : List Char) : Reading String :=
  match readScalar text with
  | .error fault => .error fault
  | .ok (.string value, rest) => .ok (value, rest)
  | .ok _ => .error .mismatched

/-- An object whose values are all strings. -/
def readStringObject (text : List Char) : Reading (Dict String) :=
  match skipGaps text with
  | '{' :: rest => readObject readStringValue rest
  | text =>
    match readScalar text with
    | .error fault => .error fault
    | .ok _ => .error .mismatched

/-- The entries of a document that is an object of strings. -/
def readStrings (text : String) : Except ReadError (Dict String) :=
  atEnd (readStringObject text.toList)

end FunctionKit.Json
