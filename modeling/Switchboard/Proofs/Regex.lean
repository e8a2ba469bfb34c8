import Switchboard.Proofs.Template.Lengths

/-!
# Regular expressions

The part of the syntax of regular expressions that the patterns of templates are written in, and
what such an expression finds. `Regex.read?` reads an expression: characters and classes with a
greedy quantifier, groups that capture and groups that do not, and the two anchors; whatever else
the syntax may have it rejects. `Regex.runs` lists the ways to match from a position, the
preferred one first, and a search takes the first way at the leftmost position that has one.
-/

namespace Switchboard

/-- How often a character of a class is repeated, more often rather than less. -/
inductive Quantifier where
  | once
  | optional
  | many
  | atLeastOnce

/-- A regular expression. A group that captures has a number. -/
inductive Regex where
  | empty
  | start
  | finish
  | chars (accepts : Char → Bool) (quantifier : Quantifier)
  | append (first second : Regex)
  | group (index : Option Nat) (body : Regex)

namespace Regex

/-! ### Reading -/

/-- The tokens of a regular expression. -/
inductive Token where
  | opened (capturing : Bool)
  | closed
  | start
  | finish
  | chars (accepts : Char → Bool)
  | quantifier (quantifier : Quantifier)

/-- The characters of a class, given what stands between its brackets. -/
def classChars : List Char → Char → Bool
  | low :: '-' :: high :: rest, c => (low ≤ c && c ≤ high) || classChars rest c
  | single :: rest, c => c == single || classChars rest c
  | [], _ => false

/-- The class with the given text between its brackets, if no character of it has another meaning
there. -/
def readClass (text : List Char) : Option (Char → Bool) :=
  if text.isEmpty || text.any (['^', '\\', '[', '&', '~'].contains ·) then none
  else some (classChars text)

/-- The token that a character is outside of a class, unless it begins a longer one. -/
def readPlain (c : Char) : Option Token :=
  match c with
  | '^' => some .start
  | '$' => some .finish
  | ')' => some .closed
  | '*' => some (.quantifier .many)
  | '+' => some (.quantifier .atLeastOnce)
  | '?' => some (.quantifier .optional)
  | '.' => some (.chars (· != '\n'))
  | '|' | '\x7b' | '\x7d' | ']' => none
  | _ => some (.chars (· == c))

/-- Where the reader of tokens is: between tokens, behind a backslash, behind an open parenthesis,
behind the question mark that may follow one, or in a class with what was read there, the last
character first. -/
inductive Mode where
  | plain
  | escaped
  | opened
  | flagged
  | listing (read : List Char)

/-- What the reader does with a character between tokens: the tokens that it completes, and where
it is then. -/
def readBetween (c : Char) : Option (List Token × Mode) :=
  if c = '\\' then some ([], .escaped)
  else if c = '[' then some ([], .listing [])
  else if c = '(' then some ([], .opened)
  else (readPlain c).map fun token ↦ ([token], .plain)

/-- What the reader does with a character. Without a question mark behind it a parenthesis opens a
group that captures, and with a question mark and a colon one that does not. -/
def readChar : Mode → Char → Option (List Token × Mode)
  | .plain, c => readBetween c
  | .escaped, c => if c ∈ metaCharacters then some ([.chars (· == c)], .plain) else none
  | .opened, c =>
    if c = '?' then some ([], .flagged)
    else (readBetween c).map fun (completed, mode) ↦ (.opened true :: completed, mode)
  | .flagged, c => if c = ':' then some ([.opened false], .plain) else none
  | .listing read, c =>
    if c = ']' then (readClass read.reverse).map fun accepts ↦ ([.chars accepts], .plain)
    else some ([], .listing (c :: read))

/-- The tokens of a text. -/
def tokens : Mode → List Char → Option (List Token)
  | .plain, [] => some []
  | _, [] => none
  | mode, c :: rest =>
    (readChar mode c).bind fun (completed, next) ↦ (tokens next rest).map (completed ++ ·)

/-- The expression of a list of tokens, given the groups that are open, each with what stands
before it, the expression read in the innermost one, and the number of groups that capture. -/
def parse : List (Option Nat × Regex) → Regex → Nat → List Token → Option Regex
  | [], current, _, [] => some current
  | _ :: _, _, _, [] => none
  | stack, current, groups, .opened true :: rest =>
    parse ((some (groups + 1), current) :: stack) .empty (groups + 1) rest
  | stack, current, groups, .opened false :: rest =>
    parse ((none, current) :: stack) .empty groups rest
  | [], _, _, .closed :: _ => none
  | (index, before) :: outer, current, groups, .closed :: rest =>
    parse outer (before.append (.group index current)) groups rest
  | stack, current, groups, .start :: rest => parse stack (current.append .start) groups rest
  | stack, current, groups, .finish :: rest => parse stack (current.append .finish) groups rest
  | stack, current, groups, .chars accepts :: rest =>
    parse stack (current.append (.chars accepts .once)) groups rest
  | stack, current, groups, .quantifier quantifier :: rest =>
    match current with
    | .append before (.chars accepts .once) =>
      parse stack (before.append (.chars accepts quantifier)) groups rest
    | _ => none

/-- The regular expression that a pattern is written for. -/
def read? (pattern : String) : Option Regex :=
  (tokens .plain pattern.toList).bind (parse [] .empty 0)

/-- The number of groups that capture. -/
def groups : Regex → Nat
  | .append first second => first.groups + second.groups
  | .group none body => body.groups
  | .group (some _) body => body.groups + 1
  | _ => 0

end Regex

/-! ### Searching -/

/-- The numbers of characters that can be taken from a text, the preferred one first. -/
def Quantifier.lengths (quantifier : Quantifier) (accepts : Char → Bool) (text : List Char) :
    List Nat :=
  match quantifier with
  | .once => takeOnce accepts text
  | .optional => takeOnce accepts text ++ [0]
  | .many => takeMany accepts text
  | .atLeastOnce => (takeMany accepts text).filter (0 < ·)

/-- A point of a search: its position, the text from there on, and what the groups have captured. -/
structure Cursor where
  position : Nat
  rest : List Char
  found : List (Nat × List Char)

namespace Cursor

/-- The cursor a number of characters further on. -/
def advance (cursor : Cursor) (n : Nat) : Cursor :=
  { cursor with position := cursor.position + n, rest := cursor.rest.drop n }

/-- The cursor with what a group has captured since an earlier point. -/
def capture (cursor : Cursor) (index : Option Nat) (since : Cursor) : Cursor :=
  match index with
  | none => cursor
  | some number =>
    { cursor with
      found := cursor.found ++ [(number, since.rest.take (cursor.position - since.position))] }

end Cursor

namespace Regex

/-- The points that a match from a point can reach, in the order of preference. -/
def runs : Regex → Cursor → List Cursor
  | .empty, cursor => [cursor]
  | .start, cursor => if cursor.position = 0 then [cursor] else []
  | .finish, cursor => if cursor.rest.isEmpty then [cursor] else []
  | .chars accepts quantifier, cursor => (quantifier.lengths accepts cursor.rest).map cursor.advance
  | .append first second, cursor => (first.runs cursor).flatMap second.runs
  | .group index body, cursor => (body.runs cursor).map (·.capture index cursor)

/-- The preferred match at the leftmost position that has one. -/
def find (regex : Regex) : Nat → List Char → Option Cursor
  | position, [] => (regex.runs ⟨position, [], []⟩).head?
  | position, c :: rest =>
    (regex.runs ⟨position, c :: rest, []⟩).head? <|> regex.find (position + 1) rest

/-- Whether the expression matches somewhere in a text. -/
def isMatch (regex : Regex) (text : String) : Bool :=
  (regex.find 0 text.toList).isSome

/-- What the groups capture in a text, from the first group on, up to a limit and up to the first
group that takes no part in the match. -/
def captures (regex : Regex) (text : String) (limit : Nat) : Option (List String) :=
  (regex.find 0 text.toList).map fun cursor ↦
    let groups := (List.range' 1 regex.groups).take limit
    let captured := groups.map fun group ↦ cursor.found.lookup group
    (captured.takeWhile Option.isSome).filterMap (·.map String.ofList)

end Regex

end Switchboard
