/-!
# Text as bytes

Lines leave the process, and variables enter it, as UTF-8.
-/

namespace FunctionKit.Text

set_option autoImplicit false

def utf8Bytes (text : String) : List UInt8 :=
  text.toUTF8.data.toList

/-- The text of bytes, if they are valid UTF-8. -/
def ofUtf8? (bytes : List UInt8) : Option String :=
  String.fromUTF8? ⟨bytes.toArray⟩

end FunctionKit.Text
