import Switchboard.Aliases
import Switchboard.Json.Value
import Switchboard.Routes

/-!
# Records in JSON

The kinds of slots and outcomes and the records of commands and aliases, as JSON texts. A kind is
written as its name and read from its name or from an object whose only entry has that name and no
value. A record is written as an object and read from an object, in which further entries do not
count, or from an array of its parts in order.
-/

namespace Switchboard

open Json (Value)

/-- The name in a value that stands for one case of several. -/
def readCase : Value → Option String
  | .text content => content
  | .object [(name, .null)] => name
  | _ => none

/-- The value as a text. -/
def readText : Value → Option String
  | .text content => content
  | _ => none

/-- The value as a list of texts. -/
def readTexts : Value → Option (List String)
  | .array items => items.mapM readText
  | _ => none

/-- The values of the parts of a record with the given names. In an object all parts must be there,
none twice, and all names must be readable; an array has the parts in order and nothing else. -/
def readParts (names : List String) : Value → Option (List Value)
  | .array items => if items.length = names.length then some items else none
  | .object entries =>
    if entries.any fun entry ↦ entry.1.isNone then none
    else
      names.mapM fun name ↦
        match entries.filter fun entry ↦ entry.1 == some name with
        | [entry] => some entry.2
        | _ => none
  | _ => none

namespace Placeholder

/-- The kind of slot that a JSON text names. -/
def ofJson? (text : String) : Option Placeholder :=
  ((Value.ofText? text).bind readCase).bind ofName?

/-- The kind of slot as a JSON text. -/
def toJson (kind : Placeholder) : String :=
  Json.encodeText kind.name

end Placeholder

namespace OutcomeKind

/-- The kind of outcome that a JSON text names. -/
def ofJson? (text : String) : Option OutcomeKind :=
  ((Value.ofText? text).bind readCase).bind ofName?

/-- The kind of outcome as a JSON text. -/
def toJson (kind : OutcomeKind) : String :=
  Json.encodeText kind.name

end OutcomeKind

namespace CommandRecord

/-- The record that a JSON text describes. -/
def ofJson? (text : String) : Option CommandRecord := do
  match ← readParts ["template", "description"] (← Value.ofText? text) with
  | [template, description] =>
    return { template := ← readText template, description := ← readText description }
  | _ => none

/-- The record as a JSON text. -/
def toJson (record : CommandRecord) : String :=
  Json.encodeObject
    [("template", Json.encodeText record.template),
      ("description", Json.encodeText record.description)]

end CommandRecord

namespace AliasRecord

/-- The record that a JSON text describes. -/
def ofJson? (text : String) : Option AliasRecord := do
  match ← readParts ["name", "commands", "description"] (← Value.ofText? text) with
  | [name, commands, description] =>
    return { name := ← readText name, commands := ← readTexts commands,
             description := ← readText description }
  | _ => none

/-- The record as a JSON text. -/
def toJson (record : AliasRecord) : String :=
  Json.encodeObject
    [("name", Json.encodeText record.name),
      ("commands", Json.encodeArray (record.commands.map Json.encodeText)),
      ("description", Json.encodeText record.description)]

end AliasRecord

end Switchboard
