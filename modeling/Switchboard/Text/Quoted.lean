import Switchboard.Text.Glyph

/-!
# Quoted text

`quoted` writes a text between double quotation marks so that every character is visible: tab,
line feed, carriage return, NUL, backslash and the quotation mark have a two-character escape, and
a character that would not be seen stands as its hexadecimal code point, as in `\u{200b}`.
`quotedPath` is the form for file names, which also escapes the apostrophe.
-/

namespace Switchboard.Text

/-- The digits of a number in base sixteen, lower case, without leading zeros. -/
def hex (n : Nat) : String :=
  String.ofList (Nat.toDigits 16 n)

/-- How one character is written between double quotation marks. -/
def escapeChar (c : Char) : String :=
  match c with
  | '\x00' => "\\0"
  | '\t' => "\\t"
  | '\r' => "\\r"
  | '\n' => "\\n"
  | '\\' => "\\\\"
  | '\x22' => "\\\""
  | _ =>
    if isUnprintable c || isCombining c then "\\u\x7b" ++ hex c.toNat ++ "\x7d"
    else String.singleton c

/-- The text between double quotation marks, every character visible. -/
def quoted (text : String) : String :=
  "\"" ++ String.join (text.toList.map escapeChar) ++ "\""

/-- How one character of a file name is written between double quotation marks. -/
def escapePathChar (c : Char) : String :=
  if c = '\x27' then "\\'" else escapeChar c

/-- The file name between double quotation marks, every character visible. -/
def quotedPath (path : String) : String :=
  "\"" ++ String.join (path.toList.map escapePathChar) ++ "\""

end Switchboard.Text
