import Switchboard.Yaml.Lexer

/-!
# From tokens to events

An event is a node of a document or an end of one: an alias, a scalar, or the start or the end of a
collection. `Event.ofTokens?` goes through the tokens of a stream and gives the documents in it,
each as the list of its events, or nothing if the tokens do not follow the grammar of YAML. The
grammar is a machine with a stack: `Phase` says what may come next, and the stack what comes after
the node that is being read. Where the grammar has a node and the stream leaves it out, there is an
empty plain scalar.
-/

namespace Switchboard.Yaml

/-- A node of a document, or the end of a collection. Tags are written out in full. -/
inductive Event where
  | alias (name : String)
  | scalar (anchor tag : Option String) (style : Style) (text : String)
  | sequenceStart (anchor tag : Option String)
  | sequenceEnd
  | mappingStart (anchor tag : Option String)
  | mappingEnd
  deriving DecidableEq

/-- What may come next in a stream. -/
inductive Phase where
  | documentStart (isFirst : Bool)
  | documentContent
  | documentEnd
  | node
  | blockSequence
  | indentlessSequence
  | blockMappingKey
  | blockMappingValue
  | flowSequence (isFirst : Bool)
  | flowPairKey
  | flowPairValue
  | flowPairEnd
  | flowMapping (isFirst : Bool)
  | flowMappingValue
  | flowMappingNoValue
  deriving DecidableEq

/-- The state of the machine: the tokens to come, what may come next, what comes after that, the tag
handles of the document, the events of the document so far, the last one first, and the finished
documents, the last one first. -/
structure Parser where
  tokens : List Token
  phase : Phase := .documentStart true
  stack : List Phase := []
  handles : List (String × String) := []
  events : List Event := []
  documents : List (List Event) := []

namespace Parser

/-- The next token; after the last one nothing comes. -/
def peek (parser : Parser) : Token :=
  parser.tokens.headD .streamEnd

/-- Leave the next token behind. -/
def drop (parser : Parser) : Parser :=
  { parser with tokens := parser.tokens.tail }

/-- Go on in a phase. -/
def goto (parser : Parser) (phase : Phase) : Parser :=
  { parser with phase }

/-- Come back to a phase later. -/
def later (parser : Parser) (phase : Phase) : Parser :=
  { parser with stack := phase :: parser.stack }

/-- Go on in the phase that was left for later. -/
def resume (parser : Parser) : Parser :=
  match parser.stack with
  | [] => parser.goto .documentEnd
  | phase :: stack => { parser with phase, stack }

/-- One more event. -/
def emit (parser : Parser) (event : Event) : Parser :=
  { parser with events := event :: parser.events }

/-- An empty node, which is a plain scalar without text. -/
def emptyNode (parser : Parser) : Parser :=
  parser.emit (.scalar none none .plain "")

/-- The token is one of several. -/
def isAmong (parser : Parser) (tokens : List Token) : Bool :=
  tokens.contains parser.peek

/-- The handles that every document has. -/
def standardHandles : List (String × String) :=
  [("!", "!"), ("!!", "tag:yaml.org,2002:")]

/-- Read the directives in front of a document, given whether the version and which handles were
declared already. Versions other than 1.1 and 1.2 are refused, and so are repeated declarations. The
standard handles stand for what they always do unless a directive declares them. -/
def directives? : List Token → Bool → List (String × String) →
    Option (List (String × String) × List Token)
  | .versionDirective major minor :: rest, seen, handles =>
    if seen || major != 1 || !(minor == 1 || minor == 2) then none
    else directives? rest true handles
  | .tagDirective handle expansion :: rest, seen, handles =>
    if handles.any (·.1 == handle) then none
    else directives? rest seen ((handle, expansion) :: handles)
  | tokens, _, handles => some (handles ++ standardHandles, tokens)

/-- A tag written out in full; its handle must be declared. The empty handle stands for nothing. -/
def fullTag? (parser : Parser) (handle suffix : String) : Option String :=
  if handle.isEmpty then some suffix
  else (parser.handles.find? (·.1 == handle)).map fun entry ↦ entry.2 ++ suffix

/-- The anchor and the tag in front of a node, in either order. -/
def properties? (parser : Parser) : Option (Option String × Option String × Parser) :=
  match parser.tokens with
  | .anchor name :: .tag handle suffix :: rest
  | .tag handle suffix :: .anchor name :: rest =>
    (parser.fullTag? handle suffix).map fun tag ↦
      (some name, some tag, { parser with tokens := rest })
  | .anchor name :: rest => some (some name, none, { parser with tokens := rest })
  | .tag handle suffix :: rest =>
    (parser.fullTag? handle suffix).map fun tag ↦ (none, some tag, { parser with tokens := rest })
  | _ => some (none, none, parser)

/-- Read a node: an alias, or an anchor and a tag followed by a scalar or the start of a collection.
Block collections are allowed where `block` says so, and sequences without indentation where
`indentless` does. A node that has an anchor or a tag may be left out. The lone tag `!` of a scalar
is no tag. -/
def node? (parser : Parser) (block indentless : Bool) : Option Parser :=
  match parser.tokens with
  | .alias name :: _ => some (parser.drop.resume.emit (.alias name))
  | _ =>
    parser.properties?.bind fun (anchor, tag, parser) ↦
      match parser.peek with
      | .scalar style text =>
        some (parser.drop.resume.emit (.scalar anchor (tag.filter (· != "!")) style text))
      | .flowSequenceStart =>
        some ((parser.goto (.flowSequence true)).drop.emit (.sequenceStart anchor tag))
      | .flowMappingStart =>
        some ((parser.goto (.flowMapping true)).drop.emit (.mappingStart anchor tag))
      | token =>
        if indentless && token == .blockEntry then
          some ((parser.goto .indentlessSequence).emit (.sequenceStart anchor tag))
        else if block && token == .blockSequenceStart then
          some ((parser.goto .blockSequence).drop.emit (.sequenceStart anchor tag))
        else if block && token == .blockMappingStart then
          some ((parser.goto .blockMappingKey).drop.emit (.mappingStart anchor tag))
        else if anchor.isSome || tag.isSome then
          some (parser.resume.emit (.scalar anchor tag .plain ""))
        else none

/-- Read a node and go on in a phase after it; if one of several tokens comes next the node is left
out. -/
def nodeUnless? (parser : Parser) (absent : List Token) (next : Phase) (block indentless : Bool) :
    Option Parser :=
  if parser.isAmong absent then some (parser.emptyNode.goto next)
  else (parser.later next).node? block indentless

/-- Start a document. The first one may do without directives and without its mark. -/
def startDocument? (parser : Parser) (isFirst : Bool) : Option Parser :=
  let tokens := if isFirst then parser.tokens else parser.tokens.dropWhile (· == .documentEnd)
  match directives? tokens false [] with
  | none => none
  | some (handles, rest) =>
    let parser := { parser with tokens := rest, handles }
    if parser.peek == .documentStart then
      some ((parser.drop.goto .documentContent).later .documentEnd)
    else if isFirst && rest.length == tokens.length then
      some ((parser.goto .node).later .documentEnd)
    else none

/-- End a document, with or without its mark. -/
def endDocument (parser : Parser) : Parser :=
  let parser := if parser.peek == .documentEnd then parser.drop else parser
  { parser.goto (.documentStart false) with
    events := [], documents := parser.events.reverse :: parser.documents }

/-- The end of a sequence. -/
def endSequence (parser : Parser) : Parser :=
  parser.resume.emit .sequenceEnd

/-- The end of a mapping. -/
def endMapping (parser : Parser) : Parser :=
  parser.resume.emit .mappingEnd

/-- The tokens before which the content of a document is left out. -/
def noContent (token : Token) : Bool :=
  match token with
  | .versionDirective .. | .tagDirective .. | .documentStart | .documentEnd | .streamEnd => true
  | _ => false

/-- Leave behind the comma in front of an entry of a flow collection. The first entry has none. -/
def comma? (parser : Parser) (isFirst : Bool) : Option Parser :=
  if isFirst then some parser
  else if parser.peek == .flowEntry then some parser.drop
  else none

/-- The next step of the machine, inside a document or in front of one. -/
def step? (parser : Parser) : Option Parser :=
  match parser.phase with
  | .documentStart isFirst => parser.startDocument? isFirst
  | .documentContent =>
    if noContent parser.peek then some parser.resume.emptyNode else parser.node? true false
  | .documentEnd => some parser.endDocument
  | .node => parser.node? true false
  | .blockSequence =>
    match parser.peek with
    | .blockEntry =>
      parser.drop.nodeUnless? [.blockEntry, .blockEnd] .blockSequence true false
    | .blockEnd => some parser.drop.endSequence
    | _ => none
  | .indentlessSequence =>
    match parser.peek with
    | .blockEntry =>
      parser.drop.nodeUnless? [.blockEntry, .key, .value, .blockEnd] .indentlessSequence true false
    | _ => some parser.endSequence
  | .blockMappingKey =>
    match parser.peek with
    | .key => parser.drop.nodeUnless? [.key, .value, .blockEnd] .blockMappingValue true true
    | .blockEnd => some parser.drop.endMapping
    | _ => none
  | .blockMappingValue =>
    match parser.peek with
    | .value => parser.drop.nodeUnless? [.key, .value, .blockEnd] .blockMappingKey true true
    | _ => some (parser.emptyNode.goto .blockMappingKey)
  | .flowSequence isFirst =>
    if parser.peek == .flowSequenceEnd then some parser.drop.endSequence
    else
      (parser.comma? isFirst).bind fun parser ↦
        match parser.peek with
        | .key => some ((parser.drop.goto .flowPairKey).emit (.mappingStart none none))
        | .flowSequenceEnd => some parser.drop.endSequence
        | _ => (parser.later (.flowSequence false)).node? false false
  | .flowPairKey =>
    if parser.isAmong [.value, .flowEntry, .flowSequenceEnd] then
      some (parser.drop.emptyNode.goto .flowPairValue)
    else (parser.later .flowPairValue).node? false false
  | .flowPairValue =>
    match parser.peek with
    | .value => parser.drop.nodeUnless? [.flowEntry, .flowSequenceEnd] .flowPairEnd false false
    | _ => some (parser.emptyNode.goto .flowPairEnd)
  | .flowPairEnd => some ((parser.emit .mappingEnd).goto (.flowSequence false))
  | .flowMapping isFirst =>
    if parser.peek == .flowMappingEnd then some parser.drop.endMapping
    else
      (parser.comma? isFirst).bind fun parser ↦
        match parser.peek with
        | .key =>
          parser.drop.nodeUnless? [.value, .flowEntry, .flowMappingEnd] .flowMappingValue
            false false
        | .flowMappingEnd => some parser.drop.endMapping
        | _ => (parser.later .flowMappingNoValue).node? false false
  | .flowMappingValue =>
    match parser.peek with
    | .value =>
      parser.drop.nodeUnless? [.flowEntry, .flowMappingEnd] (.flowMapping false) false false
    | _ => some (parser.emptyNode.goto (.flowMapping false))
  | .flowMappingNoValue => some (parser.emptyNode.goto (.flowMapping false))

/-- Whether the stream ends here. -/
def isAtEnd (parser : Parser) : Bool :=
  match parser.phase with
  | .documentStart isFirst =>
    let tokens := if isFirst then parser.tokens else parser.tokens.dropWhile (· == .documentEnd)
    tokens.headD .streamEnd == .streamEnd
  | _ => false

/-- Run the machine to the end of the stream. Between two steps that leave a token behind there are
at most two others, so the number of steps is bounded by the first argument. -/
def run : Nat → Parser → Option (List (List Event))
  | 0, _ => none
  | fuel + 1, parser =>
    if parser.isAtEnd then some parser.documents.reverse else parser.step?.bind (run fuel)

end Parser

/-- The documents of a stream, each as the list of its events. -/
def Event.ofTokens? (tokens : List Token) : Option (List (List Event)) :=
  Parser.run (8 * tokens.length + 16) { tokens }

end Switchboard.Yaml
