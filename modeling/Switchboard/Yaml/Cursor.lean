/-!
# Places in a YAML stream

The character classes that the layout of YAML depends on, and `Cursor`, the rest of a stream with
the number of characters, lines and columns before it. A carriage return with a line feed after it
is one line break of two characters; `takeBreak` also gives the text that the break stands for, a
line feed except for the two separators of other scripts.
-/

namespace Switchboard.Yaml

/-- The character ends a line. -/
def isBreak (c : Char) : Bool :=
  c == '\r' || c == '\n' || c == '\u0085' || c == '\u2028' || c == '\u2029'

/-- The character is a space or a tab. -/
def isSpace (c : Char) : Bool :=
  c == ' ' || c == '\t'

/-- The text is at its end, or it goes on with a space, a tab or a line break. -/
def isBlankOrEnd : List Char → Bool
  | [] => true
  | c :: _ => isSpace c || isBreak c

/-- The text is at its end or at a line break. -/
def isBreakOrEnd : List Char → Bool
  | [] => true
  | c :: _ => isBreak c

/-- The character may stand in the name of an anchor, a directive or a tag handle. -/
def isWordChar (c : Char) : Bool :=
  ('0' ≤ c && c ≤ '9') || ('A' ≤ c && c ≤ 'Z') || ('a' ≤ c && c ≤ 'z') || c == '_' || c == '-'

/-- The character may stand in a stream at all. -/
def isAllowed (c : Char) : Bool :=
  let code := c.toNat
  code == 0x09 || code == 0x0A || code == 0x0D || (0x20 ≤ code && code ≤ 0x7E) || code == 0x85 ||
    (0xA0 ≤ code && code ≤ 0xD7FF) || (0xE000 ≤ code && code ≤ 0xFFFD) ||
    (0x10000 ≤ code && code ≤ 0x10FFFF)

/-- A number of characters, lines and columns. -/
structure Position where
  index : Nat
  line : Nat
  column : Nat
  deriving DecidableEq

namespace Position

/-- The position after one character of the same line. -/
def next (position : Position) : Position :=
  { position with index := position.index + 1, column := position.column + 1 }

/-- The position after the given number of characters of the same line. -/
def forward (position : Position) (count : Nat) : Position :=
  { position with index := position.index + count, column := position.column + count }

/-- The position after a line break of the given number of characters. -/
def nextLine (position : Position) (characters : Nat) : Position :=
  { index := position.index + characters, line := position.line + 1, column := 0 }

end Position

/-- The rest of a stream and the position at which it starts. -/
structure Cursor where
  rest : List Char
  position : Position

namespace Cursor

/-- The start of a stream. -/
def start (text : List Char) : Cursor :=
  { rest := text, position := { index := 0, line := 0, column := 0 } }

/-- The cursor after the given number of characters of the same line. -/
def skip (cursor : Cursor) (count : Nat) : Cursor :=
  { rest := cursor.rest.drop count, position := cursor.position.forward count }

/-- The characters of the same line up to the first one that a test refuses, and the cursor
there. -/
def takeWhile (cursor : Cursor) (test : Char → Bool) : List Char × Cursor :=
  let taken := cursor.rest.takeWhile test
  (taken, cursor.skip taken.length)

/-- The cursor after the characters of the same line that a test accepts. -/
def skipWhile (cursor : Cursor) (test : Char → Bool) : Cursor :=
  (cursor.takeWhile test).2

/-- The text that the line break at the cursor stands for, and the cursor on the next line; without
a line break there, nothing. -/
def takeBreak (cursor : Cursor) : List Char × Cursor :=
  match cursor.rest with
  | '\r' :: '\n' :: rest => (['\n'], { rest, position := cursor.position.nextLine 2 })
  | c :: rest =>
    if c == '\u2028' || c == '\u2029' then
      ([c], { rest, position := cursor.position.nextLine 1 })
    else if isBreak c then (['\n'], { rest, position := cursor.position.nextLine 1 })
    else ([], cursor)
  | [] => ([], cursor)

/-- The text goes on with three equal characters and then a blank or its end, as the marks of
documents do. -/
def isMark (mark : Char) : List Char → Bool
  | a :: b :: c :: rest => a == mark && b == mark && c == mark && isBlankOrEnd rest
  | _ => false

/-- A mark of a document stands at the cursor, which is the start of a line. -/
def isDocumentMark (rest : List Char) (position : Position) : Bool :=
  position.column == 0 && (isMark '-' rest || isMark '.' rest)

end Cursor

end Switchboard.Yaml
