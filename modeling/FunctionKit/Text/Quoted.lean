import FunctionKit.Text.Decimal
import FunctionKit.Text.Printable

/-!
# Quoted text

A text between double quotes on one line. The quote, the backslash and the four common controls
are written with a backslash and one character, any other character that cannot be shown by its
code point in base sixteen.
-/

namespace FunctionKit.Text

set_option autoImplicit false

def quotedChar (c : Char) : List Char :=
  if c = '\x00' then ['\\', '0']
  else if c = '\t' then ['\\', 't']
  else if c = '\r' then ['\\', 'r']
  else if c = '\n' then ['\\', 'n']
  else if c = '\\' then ['\\', '\\']
  else if c = '"' then ['\\', '"']
  else if isShown c then [c]
  else ['\\', 'u', '{'] ++ hexDigits c.toNat ++ ['}']

def quoted (text : String) : String :=
  String.ofList ('"' :: text.toList.flatMap quotedChar ++ ['"'])

end FunctionKit.Text
