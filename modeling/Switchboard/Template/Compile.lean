import Switchboard.Template.Basic

/-!
# Compiling templates

`Template.read` reads the text of a template. Brackets enclose the name of a placeholder kind and
do not nest; all other characters stand for themselves. The reader goes through the text once and
stops at the first character at which no template can go on, so an error names the leftmost place
that is wrong, counted in characters.

`Template.compile` hands the pattern of what was read to the engine that is to run it. The engine is
not part of this library, so it is a parameter: a `Matcher` says which patterns it takes. A text
that is read without an error is rejected all the same, at its start, if the engine refuses its
pattern, which may be too large for it.
-/

namespace Switchboard

/-- The engine that runs patterns, as far as a template has to do with it: what it says against a
pattern, if it does not take it. -/
structure Matcher where
  refusal? : String → Option String

namespace Matcher

/-- The engine takes a pattern. -/
def Takes (matcher : Matcher) (pattern : String) : Prop :=
  matcher.refusal? pattern = none

/-- How many bytes a pattern may need when it is prepared for running. -/
def sizeLimit : Nat :=
  10485760

/-- An engine that refuses a pattern only for its size, and needs 32 bytes for each byte of the
pattern. That is what plain characters need; it says little about the size of slots. -/
def sized : Matcher where
  refusal? pattern :=
    if 32 * pattern.utf8ByteSize ≤ sizeLimit then none
    else
      some <| String.join
        ["Compiled regex exceeds size limit of ", toString sizeLimit, " bytes."]

end Matcher

/-- The ways in which a text can be malformed: its brackets are out of balance, or the engine
refuses its pattern. -/
inductive Malformation where
  | strayClose
  | nestedOpen
  | unclosed
  | refused (refusal : String)
  deriving DecidableEq

/-- The malformation in words. -/
def Malformation.reason : Malformation → String
  | .strayClose => "unexpected ']'"
  | .nestedOpen => "unexpected '['"
  | .unclosed => "'[' is never closed by ']'"
  | .refused refusal => "pattern rejected by matcher: " ++ refusal

/-- Why a text is not a template: it is malformed at a character, or a pair of brackets encloses no
name of a placeholder kind. -/
inductive TemplateFault where
  | malformed (template : String) (index : Nat) (malformation : Malformation)
  | unknownPlaceholder (template name : String)
  deriving DecidableEq

namespace TemplateFault

/-- The text that is not a template. -/
def template : TemplateFault → String
  | .malformed template _ _ => template
  | .unknownPlaceholder template _ => template

/-- The fault in words. -/
def message : TemplateFault → String
  | .malformed template index malformation =>
    String.join
      ["Malformed template '", template, "': ", malformation.reason, " at index ", toString index]
  | .unknownPlaceholder template name =>
    String.join ["Unknown type specifier '[", name, "]' in template '", template, "'"]

end TemplateFault

namespace Template

/-- Where the reader is: in literal text or between brackets, with the characters read there so
far, the last one first. -/
inductive Place where
  | text (read : List Char)
  | name (read : List Char)

/-- The literal that ends here, if it has any character, in front of the segments after it. -/
def closeLiteral (read : List Char) (rest : List Segment) : List Segment :=
  if read.isEmpty then rest else .literal (String.ofList read.reverse) :: rest

/-- Read segments from the character with the given index on. -/
def scan (whole : String) : Nat → Place → List Char → Except TemplateFault (List Segment)
  | _, .text read, [] => .ok (closeLiteral read [])
  | index, .name _, [] => .error (.malformed whole index .unclosed)
  | index, .text read, c :: rest =>
    if c = '[' then (scan whole (index + 1) (.name []) rest).map (closeLiteral read)
    else if c = ']' then .error (.malformed whole index .strayClose)
    else scan whole (index + 1) (.text (c :: read)) rest
  | index, .name read, c :: rest =>
    if c = '[' then .error (.malformed whole index .nestedOpen)
    else if c = ']' then
      match Placeholder.ofName? (String.ofList read.reverse) with
      | none => .error (.unknownPlaceholder whole (String.ofList read.reverse))
      | some kind =>
        (scan whole (index + 1) (.text []) rest).map fun segments ↦ .placeholder kind :: segments
    else scan whole (index + 1) (.name (c :: read)) rest

/-- The template that a text is written for, whether or not the engine takes its pattern. -/
def read (text : String) : Except TemplateFault Template :=
  (scan text 0 (.text []) text.toList).map Template.mk

/-- The template that a text is written for, if the engine takes its pattern. A refusal is reported
at the start of the text. -/
def compile (matcher : Matcher) (text : String) : Except TemplateFault Template :=
  (read text).bind fun template ↦
    match matcher.refusal? template.anchoredPattern with
    | none => .ok template
    | some refusal => .error (.malformed text 0 (.refused refusal))

end Template

end Switchboard
