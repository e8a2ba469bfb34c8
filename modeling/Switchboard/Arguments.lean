import Switchboard.Decimal.Read
import Switchboard.Fault

/-!
# Arguments of a command

The texts that a template took from a command, in the order of its slots. They are kept as text;
the accessors `text`, `natural` and `float` read one of them as what a handler expects and say which
argument is missing or has another form.
-/

namespace Switchboard

/-- The texts in the slots of a matched command, from left to right. -/
structure Arguments where
  values : List String
  deriving DecidableEq

namespace Arguments

/-- The number of arguments. -/
def size (arguments : Arguments) : Nat :=
  arguments.values.length

/-- The argument with the given index, counted from zero. -/
def get? (arguments : Arguments) (index : Nat) : Option String :=
  arguments.values[index]?

/-- The argument as text. -/
def text (arguments : Arguments) (index : Nat) : Except CommandFault String :=
  match arguments.get? index with
  | some value => .ok value
  | none => .error (.missingArgument index)

/-- The argument in the form that a reader expects. -/
def read {α : Type} (reader : String → Option α) (expected : Placeholder)
    (arguments : Arguments) (index : Nat) : Except CommandFault α :=
  (arguments.text index).bind fun value ↦
    match reader value with
    | some result => .ok result
    | none => .error (.invalidArgument index expected value)

/-- The argument as a whole number below 2^64. -/
def natural (arguments : Arguments) (index : Nat) : Except CommandFault Nat :=
  arguments.read Decimal.natural? .uint index

/-- The argument as a binary64 number. -/
def float (arguments : Arguments) (index : Nat) : Except CommandFault Binary64 :=
  arguments.read Decimal.float? .float index

end Arguments

end Switchboard
