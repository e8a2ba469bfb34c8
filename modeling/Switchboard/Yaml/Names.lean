import Switchboard.Yaml.Cursor

/-!
# Names, tags and directives

Readers for what follows the indicators `&`, `*`, `!` and `%`. Each takes the cursor at the
indicator and gives what was read and the cursor after it, or nothing if it is malformed.
-/

namespace Switchboard.Yaml

namespace Anchor

/-- The character may follow the name of an anchor or an alias. -/
def mayFollow (c : Char) : Bool :=
  isSpace c || isBreak c || c == '?' || c == ':' || c == ',' || c == ']' || c == '\x7d' ||
    c == '%' || c == '@' || c == '\x60'

/-- Read the name of an anchor or an alias. -/
def scan (cursor : Cursor) : Option (String × Cursor) :=
  let (name, after) := (cursor.skip 1).takeWhile isWordChar
  if name.isEmpty || !after.rest.head?.all mayFollow then none
  else some (String.ofList name, after)

end Anchor

namespace Tag

/-- The character may stand in a tag; the second group only in a verbatim tag and in directives. -/
def isUriChar (verbatim : Bool) (c : Char) : Bool :=
  isWordChar c || (";/?:@&=+$.%!~*'()".toList.contains c) || (verbatim && ",[]".toList.contains c)

/-- The value of two hexadecimal digits. -/
def octet? (high low : Char) : Option Nat :=
  let value? (c : Char) : Option Nat :=
    if '0' ≤ c && c ≤ '9' then some (c.toNat - 48)
    else if 'a' ≤ c && c ≤ 'f' then some (c.toNat - 87)
    else if 'A' ≤ c && c ≤ 'F' then some (c.toNat - 55)
    else none
  (value? high).bind fun first ↦ (value? low).map fun second ↦ 16 * first + second

/-- How many octets a character has whose first octet is the given one. -/
def octetCount? (first : Nat) : Option Nat :=
  if first < 0x80 then some 1
  else if 0xC0 ≤ first && first < 0xE0 then some 2
  else if 0xE0 ≤ first && first < 0xF0 then some 3
  else if 0xF0 ≤ first && first < 0xF8 then some 4
  else none

/-- Read the characters of a tag, given how many octets of an escaped character are still to come.
An escape is a percent sign and two hexadecimal digits; a character of several octets is read as the
replacement character. -/
def scanUri (verbatim : Bool) : List Char → Position → Nat → List Char →
    Option (List Char × Cursor)
  | '%' :: high :: low :: rest, position, pending, read =>
    match octet? high low with
    | none => none
    | some octet =>
      if pending == 0 then
        match octetCount? octet with
        | none => none
        | some 1 => scanUri verbatim rest (position.forward 3) 0 (Char.ofNat octet :: read)
        | some count => scanUri verbatim rest (position.forward 3) (count - 1) ('\ufffd' :: read)
      else if 0x80 ≤ octet && octet < 0xC0 then
        scanUri verbatim rest (position.forward 3) (pending - 1) read
      else none
  | c :: rest, position, pending, read =>
    if pending != 0 || c == '%' then none
    else if isUriChar verbatim c then scanUri verbatim rest position.next 0 (c :: read)
    else some (read.reverse, { rest := c :: rest, position })
  | [], position, pending, read =>
    if pending != 0 then none else some (read.reverse, { rest := [], position })

/-- Read the handle of a tag: an exclamation mark, or a word between two of them. A word without the
second mark is the start of a local tag; a directive does not allow it. -/
def handle? (inDirective : Bool) (cursor : Cursor) : Option (String × Cursor) :=
  match cursor.rest with
  | '!' :: _ =>
    let (word, after) := (cursor.skip 1).takeWhile isWordChar
    match after.rest with
    | '!' :: _ => some (String.ofList ('!' :: word ++ ['!']), after.skip 1)
    | _ =>
      if inDirective && !word.isEmpty then none else some (String.ofList ('!' :: word), after)
  | _ => none

/-- Read a verbatim tag, `!<...>`. It has no handle. -/
def verbatim? (cursor : Cursor) : Option (String × String × Cursor) :=
  let start := cursor.skip 2
  match scanUri true start.rest start.position 0 [] with
  | some (suffix, after) =>
    if suffix.isEmpty then none
    else
      match after.rest with
      | '>' :: _ => some ("", String.ofList suffix, after.skip 1)
      | _ => none
  | none => none

/-- Read a tag with a handle, `!word!suffix`, or a local tag, `!suffix`. The lone mark `!` has no
handle and is its own suffix. -/
def shorthand? (cursor : Cursor) : Option (String × String × Cursor) := do
  let (handle, start) ← handle? false cursor
  let (suffix, after) ← scanUri false start.rest start.position 0 []
  if 1 < handle.length && handle.back == '!' then
    if suffix.isEmpty then none else some (handle, String.ofList suffix, after)
  else
    let suffix := String.ofList (handle.toList.drop 1 ++ suffix)
    if suffix.isEmpty then some ("", "!", after) else some ("!", suffix, after)

/-- Read a tag; a blank follows it, or in a flow collection a comma. -/
def scan (inFlow : Bool) (cursor : Cursor) : Option (String × String × Cursor) := do
  let tag ← if cursor.rest[1]? == some '<' then verbatim? cursor else shorthand? cursor
  let after := tag.2.2.rest
  if isBlankOrEnd after || (inFlow && after.head? == some ',') then some tag else none

end Tag

namespace Directive

/-- A directive that was read. -/
inductive Scanned where
  | version (major minor : Nat)
  | tag (handle expansion : String)

/-- A number of a version, of at most nine digits. -/
def number? (cursor : Cursor) : Option (Nat × Cursor) :=
  let (digits, after) := cursor.takeWhile fun c ↦ '0' ≤ c && c ≤ '9'
  if digits.isEmpty || 9 < digits.length then none
  else some (digits.foldl (fun value c ↦ 10 * value + (c.toNat - 48)) 0, after)

/-- Read the version of a version directive. -/
def version? (cursor : Cursor) : Option (Scanned × Cursor) := do
  let (major, point) ← number? (cursor.skipWhile isSpace)
  if point.rest.head? != some '.' then none
  else
    let (minor, after) ← number? (point.skip 1)
    return (.version major minor, after)

/-- Read the handle and the expansion of a tag directive. -/
def tag? (cursor : Cursor) : Option (Scanned × Cursor) := do
  let (handle, middle) ← Tag.handle? true (cursor.skipWhile isSpace)
  if !middle.rest.head?.any isSpace then none
  else
    let start := middle.skipWhile isSpace
    let (expansion, after) ← Tag.scanUri true start.rest start.position 0 []
    if expansion.isEmpty || !isBlankOrEnd after.rest then none
    else return (.tag handle (String.ofList expansion), after)

/-- Read a directive up to the end of its line, a comment included. -/
def scan (cursor : Cursor) : Option (Scanned × Cursor) := do
  let (name, afterName) := (cursor.skip 1).takeWhile isWordChar
  if name.isEmpty || !isBlankOrEnd afterName.rest then none
  else
    let (directive, after) ←
      if name == "YAML".toList then version? afterName
      else if name == "TAG".toList then tag? afterName
      else none
    let blank := after.skipWhile isSpace
    let comment :=
      if blank.rest.head? == some '#' then blank.skipWhile (fun c ↦ !isBreak c) else blank
    if isBreakOrEnd comment.rest then some (directive, comment.takeBreak.2) else none

end Directive

end Switchboard.Yaml
