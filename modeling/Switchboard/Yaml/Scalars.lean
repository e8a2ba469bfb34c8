import Switchboard.Yaml.Gap

/-!
# The text of scalars

Readers for the three ways in which a scalar is written: plain, between quotation marks, and as a
block of lines. Each takes the cursor at the start of the scalar and gives its text and the cursor
after it, or nothing if the scalar is malformed.
-/

namespace Switchboard.Yaml

/-- A scalar that was read: its text, the cursor after it, and whether a line break was passed after
its last word. -/
structure Scanned where
  text : String
  cursor : Cursor
  broken : Bool := false

namespace Plain

/-- A colon in a flow collection may not have one of these characters after it. -/
def isForbiddenAfterColon (c : Char) : Bool :=
  c == ',' || c == '?' || c == '[' || c == ']' || c == '\x7b' || c == '\x7d'

/-- The character separates or encloses the entries of flow collections. -/
def isFlowIndicator (c : Char) : Bool :=
  c == ',' || c == '[' || c == ']' || c == '\x7b' || c == '\x7d'

/-- A word may not go on here: a colon before a blank, or in a flow collection one of its
indicators. -/
def endsWord (inFlow : Bool) (c : Char) (rest : List Char) : Bool :=
  (c == ':' && isBlankOrEnd rest) || (inFlow && isFlowIndicator c)

/-- In a flow collection a colon stands directly before an indicator. -/
def isMisplacedColon (inFlow : Bool) (c : Char) (rest : List Char) : Bool :=
  inFlow && c == ':' && rest.head?.any isForbiddenAfterColon

/-- Read a plain scalar from a position on, given the text read so far, the last character first,
and the blanks since. Lines that go on with it are indented at least as far as `indent`. -/
def scan (inFlow : Bool) (indent : Int) :
    List Char → Position → List Char → Gap → Option Scanned
  | [], position, read, gap =>
    some ⟨String.ofList read.reverse, { rest := [], position }, gap.broken⟩
  | '\r' :: '\n' :: rest, position, read, gap =>
    scan inFlow indent rest (position.nextLine 2) read (gap.addBreak ['\n'])
  | c :: rest, position, read, gap =>
    let stop : Option Scanned :=
      some ⟨String.ofList read.reverse, { rest := c :: rest, position }, gap.broken⟩
    if isSpace c then
      if gap.broken && position.column < indent && c == '\t' then none
      else scan inFlow indent rest position.next read (gap.addSpace c)
    else if isBreak c then
      let text := if c == '\u2028' || c == '\u2029' then [c] else ['\n']
      scan inFlow indent rest (position.nextLine 1) read (gap.addBreak text)
    else if (gap.broken || !gap.spaces.isEmpty) &&
        ((!inFlow && position.column < indent) || Cursor.isDocumentMark (c :: rest) position ||
          c == '#') then stop
    else if isMisplacedColon inFlow c rest then none
    else if endsWord inFlow c rest then stop
    else scan inFlow indent rest position.next (c :: (gap.reversed ++ read)) .none

end Plain

namespace Quoted

/-- What the reader of a quoted scalar is in the middle of: nothing, or the digits of a numeric
escape, with how many are left and their value so far. -/
inductive Mode where
  | reading
  | escape (left value : Nat)

/-- The value of a hexadecimal digit. -/
def hexValue? (c : Char) : Option Nat :=
  if '0' ≤ c && c ≤ '9' then some (c.toNat - 48)
  else if 'a' ≤ c && c ≤ 'f' then some (c.toNat - 87)
  else if 'A' ≤ c && c ≤ 'F' then some (c.toNat - 55)
  else none

/-- The character with the given code point, unless it is a surrogate or none at all. -/
def charOf? (code : Nat) : Option Char :=
  if code < 0xD800 || (0xDFFF < code && code ≤ 0x10FFFF) then some (Char.ofNat code) else none

/-- The character that a one-letter escape stands for. -/
def letter? : Char → Option Char
  | '0' => some '\x00'
  | 'a' => some '\x07'
  | 'b' => some '\x08'
  | 't' | '\t' => some '\t'
  | 'n' => some '\n'
  | 'v' => some '\x0b'
  | 'f' => some '\x0c'
  | 'r' => some '\r'
  | 'e' => some '\x1b'
  | ' ' => some ' '
  | '\x22' => some '\x22'
  | '/' => some '/'
  | '\\' => some '\\'
  | 'N' => some '\u0085'
  | '_' => some '\u00a0'
  | 'L' => some '\u2028'
  | 'P' => some '\u2029'
  | _ => none

/-- The number of digits of a numeric escape. -/
def escapeLength? : Char → Option Nat
  | 'x' => some 2
  | 'u' => some 4
  | 'U' => some 8
  | _ => none

/-- Read a quoted scalar from a position after its opening mark on, given the text read so far, the
last character first, and the blanks since. -/
def scan (single : Bool) :
    List Char → Position → List Char → Gap → Mode → Option Scanned
  | [], _, _, _, _ => none
  | c :: rest, position, read, gap, .escape left value =>
    match hexValue? c with
    | none => none
    | some digit =>
      let value := 16 * value + digit
      if 1 < left then scan single rest position.next read gap (.escape (left - 1) value)
      else
        match charOf? value with
        | none => none
        | some decoded => scan single rest position.next (decoded :: read) gap .reading
  | '\r' :: '\n' :: rest, position, read, gap, .reading =>
    scan single rest (position.nextLine 2) read (gap.addBreak ['\n']) .reading
  | '\\' :: '\r' :: '\n' :: rest, position, read, gap, .reading =>
    if single then
      scan single rest (position.next.nextLine 2) ('\\' :: (gap.reversed ++ read))
        (Gap.none.addBreak ['\n']) .reading
    else scan single rest (position.next.nextLine 2) (gap.reversed ++ read) .escapedBreak .reading
  | c :: rest, position, read, gap, .reading =>
    if isSpace c then scan single rest position.next read (gap.addSpace c) .reading
    else if isBreak c then
      let text := if c == '\u2028' || c == '\u2029' then [c] else ['\n']
      scan single rest (position.nextLine 1) read (gap.addBreak text) .reading
    else if Cursor.isDocumentMark (c :: rest) position then none
    else
      let read := gap.reversed ++ read
      if single && c == '\x27' then
        match rest with
        | '\x27' :: rest => scan single rest (position.forward 2) ('\x27' :: read) .none .reading
        | _ => some { text := String.ofList read.reverse,
                      cursor := { rest, position := position.next } }
      else if !single && c == '\x22' then
        some { text := String.ofList read.reverse, cursor := { rest, position := position.next } }
      else if !single && c == '\\' then
        match rest with
        | [] => none
        | letter :: rest =>
          if isBreak letter then
            scan single rest (position.next.nextLine 1) read .escapedBreak .reading
          else
            match letter? letter, escapeLength? letter with
            | some decoded, _ =>
              scan single rest (position.forward 2) (decoded :: read) .none .reading
            | none, some digits =>
              scan single rest (position.forward 2) read .none (.escape digits 0)
            | none, none => none
      else scan single rest position.next (c :: read) .none .reading

end Quoted

namespace Block

/-- What happens to the line breaks at the end of a block scalar: the first one is kept, none is, or
all are. -/
inductive Chomping where
  | clip
  | strip
  | keep
  deriving DecidableEq

/-- The chomping that a character asks for. -/
def Chomping.ofChar? : Char → Option Chomping
  | '+' => some .keep
  | '-' => some .strip
  | _ => none

/-- The extra indentation that a digit asks for; zero is none. -/
def increment? (c : Char) : Option Nat :=
  if '1' ≤ c && c ≤ '9' then some (c.toNat - 48) else none

/-- The chomping and the extra indentation in the first line of a block scalar, in either order, and
the cursor after them. -/
def header? (cursor : Cursor) : Option (Chomping × Option Nat × Cursor) :=
  match cursor.rest with
  | [] => some (.clip, none, cursor)
  | first :: rest =>
    match Chomping.ofChar? first with
    | some chomping =>
      match rest with
      | second :: _ =>
        if second == '0' then none
        else
          match increment? second with
          | some increment => some (chomping, some increment, cursor.skip 2)
          | none => some (chomping, none, cursor.skip 1)
      | [] => some (chomping, none, cursor.skip 1)
    | none =>
      if first == '0' then none
      else
        match increment? first with
        | none => some (.clip, none, cursor)
        | some increment =>
          match rest.head?.bind Chomping.ofChar? with
          | some chomping => some (chomping, some increment, cursor.skip 2)
          | none => some (.clip, some increment, cursor.skip 1)

/-- The cursor after the blanks, the comment and the line break that end the first line. -/
def endHeader? (cursor : Cursor) : Option Cursor :=
  let blank := cursor.skipWhile isSpace
  let comment :=
    if blank.rest.head? == some '#' then blank.skipWhile (fun c ↦ !isBreak c) else blank
  if isBreakOrEnd comment.rest then some comment.takeBreak.2 else none

/-- Blank lines and indentation: spaces up to the indentation, or as many as there are while it is
not known, and line breaks. The widest indentation seen and the text of the line breaks, the last
character first, are given back with the cursor. -/
def breaks (indent : Option Nat) :
    List Char → Position → Nat → List Char → Option (Nat × List Char × Cursor)
  | [], position, widest, read =>
    some (max widest position.column, read, { rest := [], position })
  | '\r' :: '\n' :: rest, position, widest, read =>
    breaks indent rest (position.nextLine 2) (max widest position.column) ('\n' :: read)
  | c :: rest, position, widest, read =>
    let isIndentation := indent.all fun width ↦ position.column < width
    if isIndentation && c == ' ' then breaks indent rest position.next widest read
    else if isIndentation && c == '\t' then none
    else if isBreak c then
      let text := if c == '\u2028' || c == '\u2029' then c else '\n'
      breaks indent rest (position.nextLine 1) (max widest position.column) (text :: read)
    else some (max widest position.column, read, { rest := c :: rest, position })

/-- What has been read of a block scalar: the text, the line break after its last line, the blank
lines after that, each the last character first, and whether the last line starts with a blank. -/
structure Lines where
  text : List Char := []
  last : List Char := []
  blankLines : List Char := []
  indented : Bool := false

/-- The text with what the line breaks before the next line stand for. In a folded scalar a line
break between two lines that start with no blank is a space, or nothing if blank lines follow it. -/
def Lines.joined (isLiteral startsBlank : Bool) (lines : Lines) : List Char :=
  let folds := !isLiteral && lines.last == ['\n'] && !lines.indented && !startsBlank
  if folds && lines.blankLines.isEmpty then ' ' :: lines.text
  else if folds then lines.blankLines ++ lines.text
  else lines.blankLines ++ lines.last ++ lines.text

/-- Read the lines of a block scalar with a known indentation; the first argument bounds their
number. -/
def lines (isLiteral : Bool) (indent : Nat) : Nat → Cursor → Lines → Option (Lines × Cursor)
  | 0, cursor, read => some (read, cursor)
  | count + 1, cursor, read =>
    if cursor.rest.isEmpty || cursor.position.column != indent then some (read, cursor)
    else
      let startsBlank := cursor.rest.head?.any isSpace
      let (line, atBreak) := cursor.takeWhile fun c ↦ !isBreak c
      let (last, next) := atBreak.takeBreak
      match breaks (some indent) next.rest next.position 0 [] with
      | none => none
      | some (_, blankLines, following) =>
        lines isLiteral indent count following
          { text := line.reverse ++ read.joined isLiteral startsBlank, last := last.reverse,
            blankLines, indented := startsBlank }

/-- Read a block scalar from its indicator on, inside a block with the given indentation. -/
def scan (isLiteral : Bool) (parent : Int) (cursor : Cursor) : Option Scanned := do
  let (chomping, increment, afterHeader) ← header? (cursor.skip 1)
  let body ← endHeader? afterHeader
  let given := increment.map fun width ↦ (max parent 0).toNat + width
  let (widest, blankLines, start) ← breaks given body.rest body.position 0 []
  let indent := given.getD (max (max widest (parent + 1).toNat) 1)
  let (read, after) ← lines isLiteral indent (cursor.rest.length + 1) start { blankLines }
  let text :=
    match chomping with
    | .strip => read.text
    | .clip => read.last ++ read.text
    | .keep => read.blankLines ++ read.last ++ read.text
  return { text := String.ofList text.reverse, cursor := after }

end Block

end Switchboard.Yaml
