import Switchboard.Decimal.Read
import Switchboard.Yaml.Token

/-!
# What scalars stand for

A plain scalar without a tag may stand for nothing, for a truth value or for a number; otherwise it
is a text, as every scalar between quotation marks and every block scalar is. A global tag of a
scalar decides instead. `Scalar.resolve?` says which kind of value a scalar is; it fails where a tag
and the text do not agree, for whole numbers of more than 64 bits and for local tags.
-/

namespace Switchboard.Yaml

/-- The kind of value that a scalar stands for. Of numbers only what is needed to tell them apart is
kept. -/
inductive Scalar where
  | null
  | boolean
  | unsigned (value : Nat)
  | negative
  | float
  | text (value : String)
  deriving DecidableEq

namespace Scalar

/-- The texts that stand for nothing. -/
def isNull (text : String) : Bool :=
  text == "null" || text == "Null" || text == "NULL" || text == "~"

/-- The texts that stand for truth values. -/
def isBoolean (text : String) : Bool :=
  ["true", "True", "TRUE", "false", "False", "FALSE"].contains text

/-- The text after an optional sign of either kind. -/
def dropSign : List Char → List Char
  | '-' :: rest | '+' :: rest => rest
  | bare => bare

/-- Digits with a leading zero are no number. -/
def isZeroPadded (text : List Char) : Bool :=
  match dropSign text with
  | '0' :: rest => !rest.isEmpty && rest.all Decimal.isDigit
  | _ => false

/-- The value of a digit in a base up to sixteen. -/
def digit? (base : Nat) (c : Char) : Option Nat :=
  let value? :=
    if Decimal.isDigit c then some (Decimal.digitValue c)
    else if 'a' ≤ c && c ≤ 'f' then some (c.toNat - 87)
    else if 'A' ≤ c && c ≤ 'F' then some (c.toNat - 55)
    else none
  value?.filter (· < base)

/-- The value of at least one digit in a base. -/
def digits? (base : Nat) (text : List Char) : Option Nat :=
  if text.isEmpty then none
  else
    text.foldl
      (fun value c ↦ value.bind fun value ↦ (digit? base c).map fun digit ↦ base * value + digit)
      (some 0)

/-- The value of a whole number without its sign: a hexadecimal, octal or binary one after its mark,
or a decimal one. Leading zeros are allowed after a mark only. -/
def magnitude? : List Char → Option Nat
  | '0' :: 'x' :: rest => digits? 16 rest
  | '0' :: 'o' :: rest => digits? 8 rest
  | '0' :: 'b' :: rest => digits? 2 rest
  | decimal => if isZeroPadded decimal then none else digits? 10 decimal

/-- The value of a whole number with an optional plus sign. -/
def unsigned? (text : List Char) : Option Nat :=
  magnitude? (Decimal.dropPlus text)

/-- The value of a whole number below 2^64 with an optional plus sign. -/
def natural? (text : String) : Option Nat :=
  (unsigned? text.toList).filter (· < Decimal.wordLimit)

/-- The number after a minus sign. -/
def negated? : List Char → Option Nat
  | '-' :: rest => magnitude? rest
  | _ => none

/-- The text is a number with a fraction, an exponent or a name: an infinity, no number, or a finite
decimal number. -/
def isFloat (text : String) : Bool :=
  let unsigned := String.ofList (Decimal.dropPlus text.toList)
  if unsigned != text && (unsigned.toList.head?.any fun c ↦ c == '+' || c == '-') then false
  else
    [".inf", ".Inf", ".INF"].contains unsigned || ["-.inf", "-.Inf", "-.INF"].contains text ||
      [".nan", ".NaN", ".NAN"].contains text ||
      (Decimal.float? unsigned).any Binary64.isFinite

/-- A whole number: an unsigned one of at most 64 bits, a negative one of at most 64 bits with its
sign, or `none` inside if it is longer but has at most 128 bits. Anything else is no whole
number. -/
def integer? (text : String) : Option (Option Scalar) :=
  match unsigned? text.toList, negated? text.toList with
  | some value, _ =>
    if value < Decimal.wordLimit then some (some (.unsigned value))
    else if value < Nat.pow 2 128 then some none
    else none
  | none, some value =>
    if value ≤ Nat.pow 2 63 then some (some .negative)
    else if value ≤ Nat.pow 2 127 then some none
    else none
  | none, none => none

/-- The value of a plain scalar without a tag. -/
def ofPlain? (text : String) : Option Scalar :=
  if text.isEmpty || isNull text then some .null
  else if isBoolean text then some .boolean
  else
    match integer? text with
    | some value => value
    | none =>
      if !isZeroPadded text.toList && isFloat text then some .float else some (.text text)

/-- The name of a global tag of the core kinds. -/
def coreTag (name : String) : String :=
  String.join ["tag:yaml.org,2002:", name]

/-- The tag is local to the document. -/
def isLocalTag (tag : Option String) : Bool :=
  tag.any fun tag ↦ tag.toList.head? == some '!'

/-- The value of a scalar. -/
def resolve? (tag : Option String) (style : Style) (text : String) : Option Scalar :=
  match tag with
  | none => if style == .plain then ofPlain? text else some (.text text)
  | some tag =>
    if isLocalTag (some tag) then none
    else if tag == coreTag "bool" then if isBoolean text then some .boolean else none
    else if tag == coreTag "int" then (integer? text).join
    else if tag == coreTag "float" then if isFloat text then some .float else none
    else if tag == coreTag "null" then if isNull text then some .null else none
    else some (.text text)

end Scalar

end Switchboard.Yaml
