/-!
# Tokens of JSON

`Json.Token.ofText?` cuts a JSON text into tokens. It is strict: only four characters are blanks, a
text must not hold control characters, and numbers have no leading zeros. The value of a number is
not kept. A text with an escaped surrogate that has no partner is a token without content: it may
stand where nobody reads it.
-/

namespace Switchboard.Json

/-- A word of a JSON text. -/
inductive Token where
  | braceOpen
  | braceClose
  | bracketOpen
  | bracketClose
  | colon
  | comma
  | null
  | boolean
  | number
  | text (content : Option String)
  deriving DecidableEq

/-- A piece of a text: a character, or a code unit that was written as a numeric escape. -/
inductive Piece where
  | character (c : Char)
  | unit (code : Nat)

/-- The characters that the pieces of a text amount to. Two escaped surrogates, a high one and a low
one, are one character; any other surrogate is none. -/
def join? : List Piece → Option (List Char)
  | [] => some []
  | .character c :: rest => (join? rest).map fun text ↦ c :: text
  | .unit high :: .unit low :: rest =>
    if 0xD800 ≤ high && high < 0xDC00 then
      if 0xDC00 ≤ low && low < 0xE000 then
        (join? rest).map fun text ↦
          Char.ofNat (0x10000 + (high - 0xD800) * 0x400 + (low - 0xDC00)) :: text
      else none
    else if 0xDC00 ≤ high && high < 0xE000 then none
    else (join? (.unit low :: rest)).map fun text ↦ Char.ofNat high :: text
  | .unit code :: rest =>
    if 0xD800 ≤ code && code < 0xE000 then none
    else (join? rest).map fun text ↦ Char.ofNat code :: text

/-- The character that a one-letter escape stands for. -/
def escape? : Char → Option Char
  | '\x22' => some '\x22'
  | '\\' => some '\\'
  | '/' => some '/'
  | 'b' => some '\x08'
  | 'f' => some '\x0c'
  | 'n' => some '\n'
  | 'r' => some '\r'
  | 't' => some '\t'
  | _ => none

/-- The value of a hexadecimal digit. -/
def hexValue? (c : Char) : Option Nat :=
  if '0' ≤ c && c ≤ '9' then some (c.toNat - 48)
  else if 'a' ≤ c && c ≤ 'f' then some (c.toNat - 87)
  else if 'A' ≤ c && c ≤ 'F' then some (c.toNat - 55)
  else none

/-- The value of four hexadecimal digits. -/
def unit? (a b c d : Char) : Option Nat := do
  let values ← [a, b, c, d].mapM hexValue?
  return values.foldl (fun value digit ↦ 16 * value + digit) 0

/-- Read a text after its opening mark, given its pieces so far, the last one first. -/
def text? : List Char → List Piece → Option (Option String × List Char)
  | '\x22' :: rest, read => some ((join? read.reverse).map String.ofList, rest)
  | '\\' :: 'u' :: a :: b :: c :: d :: rest, read =>
    match unit? a b c d with
    | some code => text? rest (.unit code :: read)
    | none => none
  | '\\' :: c :: rest, read =>
    match escape? c with
    | some decoded => text? rest (.character decoded :: read)
    | none => none
  | c :: rest, read =>
    if c.toNat < 0x20 || c == '\\' then none else text? rest (.character c :: read)
  | [], _ => none

/-- The character is a decimal digit. -/
def isDigit (c : Char) : Bool :=
  '0' ≤ c && c ≤ '9'

/-- The text after a whole number without a leading zero. -/
def afterWhole? : List Char → Option (List Char)
  | '0' :: rest => some rest
  | c :: rest => if isDigit c then some (rest.dropWhile isDigit) else none
  | [] => none

/-- The text after at least one digit. -/
def afterDigits? : List Char → Option (List Char)
  | c :: rest => if isDigit c then some (rest.dropWhile isDigit) else none
  | [] => none

/-- The text after an optional fraction. -/
def afterFraction? : List Char → Option (List Char)
  | '.' :: rest => afterDigits? rest
  | rest => some rest

/-- The text after an optional exponent. -/
def afterExponent? : List Char → Option (List Char)
  | mark :: sign :: rest =>
    if mark == 'e' || mark == 'E' then
      if sign == '+' || sign == '-' then afterDigits? rest else afterDigits? (sign :: rest)
    else some (mark :: sign :: rest)
  | ['e'] | ['E'] => none
  | rest => some rest

/-- The text after a number. -/
def afterNumber? (text : List Char) : Option (List Char) :=
  let unsigned := if text.head? == some '-' then text.tail else text
  ((afterWhole? unsigned).bind afterFraction?).bind afterExponent?

/-- Read the token at the start of a text, which is neither empty nor a blank. -/
def Token.next? : List Char → Option (Token × List Char)
  | '\x7b' :: rest => some (.braceOpen, rest)
  | '\x7d' :: rest => some (.braceClose, rest)
  | '[' :: rest => some (.bracketOpen, rest)
  | ']' :: rest => some (.bracketClose, rest)
  | ':' :: rest => some (.colon, rest)
  | ',' :: rest => some (.comma, rest)
  | '\x22' :: rest => (text? rest []).map fun (content, rest) ↦ (.text content, rest)
  | 'n' :: 'u' :: 'l' :: 'l' :: rest => some (.null, rest)
  | 't' :: 'r' :: 'u' :: 'e' :: rest => some (.boolean, rest)
  | 'f' :: 'a' :: 'l' :: 's' :: 'e' :: rest => some (.boolean, rest)
  | rest => (afterNumber? rest).map fun rest ↦ (.number, rest)

/-- The character is a blank. -/
def isBlank (c : Char) : Bool :=
  c == ' ' || c == '\n' || c == '\t' || c == '\r'

/-- Cut a text into tokens. Every token has at least one character, so the length of the text bounds
their number. -/
def tokens? : Nat → List Char → Option (List Token)
  | 0, text => if (text.dropWhile isBlank).isEmpty then some [] else none
  | fuel + 1, text =>
    match text.dropWhile isBlank with
    | [] => some []
    | start => do
      let (token, rest) ← Token.next? start
      return token :: (← tokens? fuel rest)

/-- The tokens of a text. -/
def Token.ofText? (text : String) : Option (List Token) :=
  tokens? text.length text.toList

end Switchboard.Json
