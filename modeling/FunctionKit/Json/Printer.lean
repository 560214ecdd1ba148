import FunctionKit.Binary64.Layout
import FunctionKit.Json.Basic

/-!
# Compact JSON text

A value as text without blanks. Only the quote, the backslash and the controls below the space
are escaped, so the text of a value is always a single line.
-/

namespace FunctionKit.Json

set_option autoImplicit false

open FunctionKit.Text

/-- Numbers from a hundred-thousandth up to below ten to the sixteenth are written out. -/
def fractionLayout : Binary64.Layout :=
  ⟨-5, 15, 'e'⟩

def renderNumber : Number → List Char
  | .whole value => signedDigits value
  | .fractional value =>
    if value.isFinite then value.render fractionLayout else ['n', 'u', 'l', 'l']

def escapedChar (c : Char) : List Char :=
  if c = '"' then ['\\', '"']
  else if c = '\\' then ['\\', '\\']
  else if c = '\x08' then ['\\', 'b']
  else if c = '\t' then ['\\', 't']
  else if c = '\n' then ['\\', 'n']
  else if c = '\x0c' then ['\\', 'f']
  else if c = '\r' then ['\\', 'r']
  else if c.toNat < 0x20 then '\\' :: 'u' :: hexDigitsPadded 4 c.toNat
  else [c]

/-- The characters of a text with escapes, and the quote that closes it. -/
def renderChars : List Char → List Char
  | [] => ['"']
  | c :: rest => escapedChar c ++ renderChars rest

def renderString (text : String) : List Char :=
  '"' :: renderChars text.toList

mutual

def render : Json → List Char
  | .null => ['n', 'u', 'l', 'l']
  | .bool true => ['t', 'r', 'u', 'e']
  | .bool false => ['f', 'a', 'l', 's', 'e']
  | .number value => renderNumber value
  | .string value => renderString value
  | .array [] => ['[', ']']
  | .array (first :: rest) => '[' :: (render first ++ renderItems rest)
  | .object [] => ['{', '}']
  | .object ((key, value) :: rest) =>
    '{' :: (renderString key ++ ':' :: (render value ++ renderMembers rest))

/-- The items after the first, and the closing bracket. -/
def renderItems : List Json → List Char
  | [] => [']']
  | item :: rest => ',' :: (render item ++ renderItems rest)

/-- The members after the first, and the closing brace. -/
def renderMembers : List (String × Json) → List Char
  | [] => ['}']
  | (key, value) :: rest =>
    ',' :: (renderString key ++ ':' :: (render value ++ renderMembers rest))

end

def compactText (value : Json) : String :=
  String.ofList (render value)

end FunctionKit.Json
