/-!
# Blanks

The characters with the white space property, and the text that is left when they are cut off at
both ends. `isBlank` is wider than the core class, which knows ASCII only: it also holds of the
vertical tab, the form feed, the next-line control and the spaces and separators of other scripts.
-/

namespace Switchboard.Text

/-- The character is white space: the ASCII blanks, the next line control, the no-break space, the
ogham space, the typographic spaces, the line and paragraph separators, the narrow and
mathematical spaces and the ideographic space. -/
def isBlank (c : Char) : Bool :=
  let code := c.toNat
  (9 ≤ code && code ≤ 13) || code == 32 || code == 0x85 || code == 0xA0 || code == 0x1680 ||
    (0x2000 ≤ code && code ≤ 0x200A) || code == 0x2028 || code == 0x2029 || code == 0x202F ||
    code == 0x205F || code == 0x3000

/-- The text without the blanks at its start and at its end. -/
def trim (text : String) : String :=
  String.ofList (((text.toList.dropWhile isBlank).reverse.dropWhile isBlank).reverse)

end Switchboard.Text
