/-!
# Text in bytes

`decode?` is the text that bytes encode, if they are well formed: no stray or missing continuation
byte, no overlong form, no surrogate and nothing above U+10FFFF.
-/

namespace Switchboard.Text

/-- The text that the bytes encode in UTF-8. -/
def decode? (bytes : List UInt8) : Option String :=
  String.fromUTF8? (ByteArray.mk bytes.toArray)

end Switchboard.Text
