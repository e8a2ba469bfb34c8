import Switchboard.Json.Token

/-!
# JSON values

`Json.Value.ofText?` reads a JSON text as one value. The reader goes through the tokens once and
keeps the collections that are open; `Expectation` says what may come next. `encodeText` writes a
text in JSON, with the short escapes where there are any and numeric ones for the other control
characters.
-/

namespace Switchboard.Json

/-- A JSON value. Numbers and truth values are told apart from other values and not from each other;
a text or a name that cannot be read is `none`. -/
inductive Value where
  | null
  | boolean
  | number
  | text (content : Option String)
  | array (items : List Value)
  | object (entries : List (Option String × Value))

/-- An open collection, with what it holds so far, the last one first; in an object the name of the
entry that is being read. -/
inductive Frame where
  | array (items : List Value)
  | object (entries : List (Option String × Value)) (name : Option String)

/-- What may come next. -/
inductive Expectation where
  | value
  | valueOrEnd
  | name
  | nameOrEnd
  | colon
  | commaOrEnd
  | nothing
  deriving DecidableEq

/-- The state of the reader: what may come next, the open collections, the innermost first, and the
value once it is complete. -/
structure Reader where
  expects : Expectation := .value
  frames : List Frame := []
  result : Option Value := none

namespace Reader

/-- Put a complete value where it belongs. -/
def place (reader : Reader) (value : Value) : Reader :=
  match reader.frames with
  | [] => { reader with expects := .nothing, result := some value }
  | .array items :: outer =>
    { reader with expects := .commaOrEnd, frames := .array (value :: items) :: outer }
  | .object entries name :: outer =>
    { reader with
      expects := .commaOrEnd, frames := .object ((name, value) :: entries) none :: outer }

/-- Open a collection. -/
def enter (reader : Reader) (frame : Frame) (expects : Expectation) : Reader :=
  { reader with expects, frames := frame :: reader.frames }

/-- A value may stand here. -/
def takesValue (reader : Reader) : Bool :=
  reader.expects == .value || reader.expects == .valueOrEnd

/-- Take in one token. -/
def step? (reader : Reader) (token : Token) : Option Reader :=
  match token, reader.frames with
  | .null, _ => if reader.takesValue then some (reader.place .null) else none
  | .boolean, _ => if reader.takesValue then some (reader.place .boolean) else none
  | .number, _ => if reader.takesValue then some (reader.place .number) else none
  | .bracketOpen, _ =>
    if reader.takesValue then some (reader.enter (.array []) .valueOrEnd) else none
  | .braceOpen, _ =>
    if reader.takesValue then some (reader.enter (.object [] none) .nameOrEnd) else none
  | .text content, frames =>
    if reader.takesValue then some (reader.place (.text content))
    else if reader.expects == .name || reader.expects == .nameOrEnd then
      match frames with
      | .object entries _ :: outer =>
        some { reader with expects := .colon, frames := .object entries content :: outer }
      | _ => none
    else none
  | .colon, _ => if reader.expects == .colon then some { reader with expects := .value } else none
  | .comma, .array _ :: _ =>
    if reader.expects == .commaOrEnd then some { reader with expects := .value } else none
  | .comma, .object _ _ :: _ =>
    if reader.expects == .commaOrEnd then some { reader with expects := .name } else none
  | .bracketClose, .array items :: outer =>
    if reader.expects == .commaOrEnd || reader.expects == .valueOrEnd then
      some ({ reader with frames := outer }.place (.array items.reverse))
    else none
  | .braceClose, .object entries _ :: outer =>
    if reader.expects == .commaOrEnd || reader.expects == .nameOrEnd then
      some ({ reader with frames := outer }.place (.object entries.reverse))
    else none
  | _, _ => none

end Reader

/-- The value that a text describes. -/
def Value.ofText? (text : String) : Option Value := do
  let tokens ← Token.ofText? text
  let reader ← tokens.foldlM Reader.step? {}
  reader.result

/-- The two lower digits of a control character in base sixteen. -/
def controlDigits (c : Char) : List Char :=
  [Nat.digitChar (c.toNat / 16), Nat.digitChar (c.toNat % 16)]

/-- A character as it is written in a text. -/
def encodeChar (c : Char) : List Char :=
  match c with
  | '\x22' => ['\\', '\x22']
  | '\\' => ['\\', '\\']
  | '\x08' => ['\\', 'b']
  | '\x0c' => ['\\', 'f']
  | '\n' => ['\\', 'n']
  | '\r' => ['\\', 'r']
  | '\t' => ['\\', 't']
  | _ => if c.toNat < 0x20 then ['\\', 'u', '0', '0'] ++ controlDigits c else [c]

/-- A text between quotation marks. -/
def encodeText (text : String) : String :=
  "\"" ++ String.ofList (text.toList.flatMap encodeChar) ++ "\""

/-- An array of values that are written already. -/
def encodeArray (items : List String) : String :=
  "[" ++ String.intercalate "," items ++ "]"

/-- An object of values that are written already, with their names. -/
def encodeObject (entries : List (String × String)) : String :=
  "\x7b" ++ String.intercalate "," (entries.map fun (name, value) ↦ encodeText name ++ ":" ++ value)
    ++ "\x7d"

end Switchboard.Json
