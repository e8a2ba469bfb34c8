import Switchboard.Yaml.Names
import Switchboard.Yaml.Scalars
import Switchboard.Yaml.Token

/-!
# From text to tokens

`Token.ofText?` cuts a YAML stream into tokens, or gives nothing if the stream is malformed.

Two things are only known later than the text they concern. A collection in block style ends where a
line is indented less than it, so the indentations of the open blocks are kept. And a simple key, a
node on one line that turns out to be a key when a colon follows it, needs a token in front of it,
so the place of the last node that could be one is kept for the block level and for every open flow
collection.
-/

namespace Switchboard.Yaml

/-- A node that is a key if a colon follows it: the number of tokens before it, its position, and
whether it can be nothing but a key because it starts at the indentation of the block. -/
structure KeyPlace where
  before : Nat
  position : Position
  required : Bool

/-- The state of the lexer: the cursor, the tokens so far, the last one first, the column of the
innermost open block and of those around it, whether a simple key may start at the cursor, and the
possible keys of the open flow collections, the innermost first, and of the block level. -/
structure Lexer where
  cursor : Cursor
  tokens : List Token := []
  indent : Int := -1
  outer : List Int := []
  keyAllowed : Bool := true
  flowKeys : List (Option KeyPlace) := []
  blockKey : Option KeyPlace := none

namespace Lexer

/-- Whether the cursor is inside a flow collection. -/
def inFlow (lexer : Lexer) : Bool :=
  !lexer.flowKeys.isEmpty

/-- The column of the cursor. -/
def column (lexer : Lexer) : Int :=
  lexer.cursor.position.column

/-- One more token. -/
def emit (lexer : Lexer) (token : Token) : Lexer :=
  { lexer with tokens := token :: lexer.tokens }

/-- One more token, in front of all tokens but the given number of first ones. -/
def emitAfter (lexer : Lexer) (before : Nat) (token : Token) : Lexer :=
  { lexer with tokens := lexer.tokens.insertIdx (lexer.tokens.length - before) token }

/-- A token of the given number of characters at the cursor. -/
def emitMark (lexer : Lexer) (token : Token) (length : Nat) : Lexer :=
  { lexer.emit token with cursor := lexer.cursor.skip length }

/-- The possible key of the innermost open flow collection, or of the block level. -/
def possibleKey (lexer : Lexer) : Option KeyPlace :=
  match lexer.flowKeys with
  | [] => lexer.blockKey
  | key :: _ => key

/-- Replace the possible key of the innermost level. -/
def setKey (lexer : Lexer) (key : Option KeyPlace) : Lexer :=
  match lexer.flowKeys with
  | [] => { lexer with blockKey := key }
  | _ :: rest => { lexer with flowKeys := key :: rest }

/-- Give up the possible key; a required one must not be given up. -/
def dropKey? (lexer : Lexer) : Option Lexer :=
  if lexer.possibleKey.any KeyPlace.required then none else some (lexer.setKey none)

/-- Remember that the node at the cursor is a possible key, where one may start. -/
def saveKey? (lexer : Lexer) : Option Lexer :=
  if !lexer.keyAllowed then some lexer
  else
    lexer.dropKey?.map fun lexer ↦
      lexer.setKey <| some
        { before := lexer.tokens.length, position := lexer.cursor.position
          required := !lexer.inFlow && lexer.indent == lexer.column }

/-- A key ends on the line on which it starts, and within 1024 characters. -/
def isWithinReach (lexer : Lexer) (key : KeyPlace) : Bool :=
  key.position.line == lexer.cursor.position.line &&
    lexer.cursor.position.index ≤ key.position.index + 1024

/-- Allow or forbid simple keys at the cursor. -/
def allowKey (lexer : Lexer) (allowed : Bool) : Lexer :=
  { lexer with keyAllowed := allowed }

/-- Close the blocks that are indented further than the given column. -/
def closeBlocks (lexer : Lexer) (column : Int) : Lexer :=
  if lexer.inFlow then lexer
  else go lexer column lexer.outer
where
  /-- Close blocks from the innermost one outwards. -/
  go (lexer : Lexer) (column : Int) : List Int → Lexer
    | [] => lexer
    | around :: rest =>
      if column < lexer.indent then
        go { lexer.emit .blockEnd with indent := around, outer := rest } column rest
      else lexer

/-- Open a block at the given column if it is indented further than the innermost open one. Its
start goes in front of all tokens but the given number of first ones. -/
def openBlock (lexer : Lexer) (column : Int) (before : Nat) (token : Token) : Lexer :=
  if lexer.inFlow || column ≤ lexer.indent then lexer
  else
    { lexer.emitAfter before token with
      indent := column, outer := lexer.indent :: lexer.outer }

/-- Skip blanks, comments and line breaks up to the next token. Tabs are blanks where no simple key
may start, that is, not in the indentation of a block. The first argument bounds the number of
lines. -/
def skipToToken : Nat → Lexer → Lexer
  | 0, lexer => lexer
  | lines + 1, lexer =>
    let tabs := lexer.inFlow || !lexer.keyAllowed
    let blank := lexer.cursor.skipWhile fun c ↦ c == ' ' || (tabs && c == '\t')
    let comment :=
      if blank.rest.head? == some '#' then blank.skipWhile (fun c ↦ !isBreak c) else blank
    if comment.rest.head?.any isBreak then
      skipToToken lines
        { lexer with
          cursor := comment.takeBreak.2, keyAllowed := lexer.keyAllowed || !lexer.inFlow }
    else { lexer with cursor := comment }

/-- The end of the stream closes all blocks. -/
def endStream? (lexer : Lexer) : Option Lexer :=
  (lexer.closeBlocks (-1)).dropKey?.map fun lexer ↦ lexer.emit .streamEnd

/-- A directive or a mark of a document closes all blocks. -/
def leaveBlocks? (lexer : Lexer) : Option Lexer :=
  (lexer.closeBlocks (-1)).dropKey?.map fun lexer ↦ lexer.allowKey false

/-- Read a directive. -/
def directive? (lexer : Lexer) : Option Lexer := do
  let lexer ← lexer.leaveBlocks?
  let (directive, cursor) ← Directive.scan lexer.cursor
  let token :=
    match directive with
    | .version major minor => Token.versionDirective major minor
    | .tag handle expansion => Token.tagDirective handle expansion
  return { lexer.emit token with cursor }

/-- Open a flow collection; it may be a key itself. -/
def openFlow? (lexer : Lexer) (token : Token) : Option Lexer :=
  lexer.saveKey?.map fun lexer ↦
    ({ lexer with flowKeys := none :: lexer.flowKeys }.allowKey true).emitMark token 1

/-- Close a flow collection. -/
def closeFlow? (lexer : Lexer) (token : Token) : Option Lexer :=
  lexer.dropKey?.map fun lexer ↦
    ({ lexer with flowKeys := lexer.flowKeys.tail }.allowKey false).emitMark token 1

/-- The comma between the entries of a flow collection. -/
def flowEntry? (lexer : Lexer) : Option Lexer :=
  lexer.dropKey?.map fun lexer ↦ (lexer.allowKey true).emitMark .flowEntry 1

/-- The dash in front of an entry of a block sequence. -/
def blockEntry? (lexer : Lexer) : Option Lexer :=
  if !lexer.inFlow && !lexer.keyAllowed then none
  else
    (lexer.openBlock lexer.column lexer.tokens.length .blockSequenceStart).dropKey?.map
      fun lexer ↦ (lexer.allowKey true).emitMark .blockEntry 1

/-- The question mark in front of a key. -/
def key? (lexer : Lexer) : Option Lexer :=
  if !lexer.inFlow && !lexer.keyAllowed then none
  else
    (lexer.openBlock lexer.column lexer.tokens.length .blockMappingStart).dropKey?.map
      fun lexer ↦ (lexer.allowKey !lexer.inFlow).emitMark .key 1

/-- The colon in front of a value. If a possible key ends here it becomes one, and a mapping starts
at it if none is open at its column. -/
def value? (lexer : Lexer) : Option Lexer :=
  match lexer.possibleKey.filter lexer.isWithinReach with
  | some key =>
    let keyed := (lexer.emitAfter key.before .key).openBlock key.position.column key.before
      .blockMappingStart
    some (((keyed.setKey none).allowKey false).emitMark .value 1)
  | none =>
    if lexer.possibleKey.any KeyPlace.required then none
    else if lexer.inFlow then some ((lexer.setKey none |>.allowKey false).emitMark .value 1)
    else if !lexer.keyAllowed then none
    else
      some (((lexer.setKey none).openBlock lexer.column lexer.tokens.length
        .blockMappingStart |>.allowKey true).emitMark .value 1)

/-- An anchor or an alias; either may start a key. -/
def name? (lexer : Lexer) (token : String → Token) : Option Lexer := do
  let lexer ← lexer.saveKey?
  let (name, cursor) ← Anchor.scan lexer.cursor
  return { (lexer.allowKey false).emit (token name) with cursor }

/-- A tag; it may start a key. -/
def tag? (lexer : Lexer) : Option Lexer := do
  let lexer ← lexer.saveKey?
  let (handle, suffix, cursor) ← Tag.scan lexer.inFlow lexer.cursor
  return { (lexer.allowKey false).emit (.tag handle suffix) with cursor }

/-- A block scalar; it is no simple key, and one may start after it. -/
def blockScalar? (lexer : Lexer) (isLiteral : Bool) : Option Lexer := do
  let lexer ← lexer.dropKey?
  let scalar ← Block.scan isLiteral lexer.indent lexer.cursor
  let style := if isLiteral then Style.literal else Style.folded
  return { (lexer.allowKey true).emit (.scalar style scalar.text) with cursor := scalar.cursor }

/-- A quoted scalar; it may be a key. -/
def quotedScalar? (lexer : Lexer) (single : Bool) : Option Lexer := do
  let lexer ← lexer.saveKey?
  let start := lexer.cursor.skip 1
  let scalar ← Quoted.scan single start.rest start.position [] .none .reading
  let style := if single then Style.singleQuoted else Style.doubleQuoted
  return { (lexer.allowKey false).emit (.scalar style scalar.text) with cursor := scalar.cursor }

/-- A plain scalar; it may be a key. After one that ends with a line break a key may start. -/
def plainScalar? (lexer : Lexer) : Option Lexer := do
  let lexer ← lexer.saveKey?
  let scalar ← Plain.scan lexer.inFlow (lexer.indent + 1) lexer.cursor.rest lexer.cursor.position
    [] .none
  return { (lexer.allowKey scalar.broken).emit (.scalar .plain scalar.text) with
    cursor := scalar.cursor }

/-- The character is an indicator with which no plain scalar starts. -/
def isIndicator (c : Char) : Bool :=
  "-?:,[]\x7b\x7d#&*!|>'\"%@\x60".toList.contains c

/-- A plain scalar may start with this character and what follows it: no blank and no indicator, or
a dash, question mark or colon that no blank follows. -/
def startsPlain (inFlow : Bool) (c : Char) (rest : List Char) : Bool :=
  !(isSpace c || isBreak c || isIndicator c) || (c == '-' && !rest.head?.any isSpace) ||
    (!inFlow && (c == '?' || c == ':') && !isBlankOrEnd rest)

/-- Read the token at the cursor, which is not the end of the stream. -/
def token? (lexer : Lexer) : Option Lexer :=
  match lexer.cursor.rest with
  | [] => none
  | c :: rest =>
    let atLineStart := lexer.cursor.position.column == 0
    let standsAlone := isBlankOrEnd rest
    if atLineStart && c == '%' then lexer.directive?
    else if atLineStart && Cursor.isMark '-' (c :: rest) then
      lexer.leaveBlocks?.map fun lexer ↦ lexer.emitMark .documentStart 3
    else if atLineStart && Cursor.isMark '.' (c :: rest) then
      lexer.leaveBlocks?.map fun lexer ↦ lexer.emitMark .documentEnd 3
    else if c == '[' then lexer.openFlow? .flowSequenceStart
    else if c == '\x7b' then lexer.openFlow? .flowMappingStart
    else if c == ']' then lexer.closeFlow? .flowSequenceEnd
    else if c == '\x7d' then lexer.closeFlow? .flowMappingEnd
    else if c == ',' then lexer.flowEntry?
    else if c == '-' && standsAlone then lexer.blockEntry?
    else if c == '?' && (lexer.inFlow || standsAlone) then lexer.key?
    else if c == ':' && (lexer.inFlow || standsAlone) then lexer.value?
    else if c == '*' then lexer.name? .alias
    else if c == '&' then lexer.name? .anchor
    else if c == '!' then lexer.tag?
    else if c == '|' && !lexer.inFlow then lexer.blockScalar? true
    else if c == '>' && !lexer.inFlow then lexer.blockScalar? false
    else if c == '\x27' then lexer.quotedScalar? true
    else if c == '\x22' then lexer.quotedScalar? false
    else if startsPlain lexer.inFlow c rest then lexer.plainScalar?
    else none

/-- Read tokens up to the end of the stream. Every token but the last takes at least one character,
so their number is bounded by the first argument. -/
def run : Nat → Lexer → Option (List Token)
  | 0, _ => none
  | fuel + 1, lexer =>
    let next := lexer.skipToToken (lexer.cursor.rest.length + 1)
    let next := next.closeBlocks next.column
    if next.cursor.rest.isEmpty then next.endStream?.map fun last ↦ last.tokens.reverse
    else next.token?.bind (run fuel)

end Lexer

/-- The tokens of a stream. A byte order mark may stand at its start; it takes up a column. -/
def Token.ofText? (text : String) : Option (List Token) :=
  let characters := text.toList
  if !characters.all isAllowed then none
  else
    let start := Cursor.start characters
    let cursor := if characters.head? == some '\ufeff' then start.skip 1 else start
    Lexer.run (characters.length + 2) { cursor }

end Switchboard.Yaml
