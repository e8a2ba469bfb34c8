import Switchboard.Aliases
import Switchboard.Yaml.Value

/-!
# Aliases in a document

A document maps names to definitions. A definition is one command, or a mapping with the entry
`commands`, one command or a list of commands, and optionally the entry `description`, a text. Other
entries of a definition do not count. Names are the texts of their scalars, whatever these stand
for.
-/

namespace Switchboard

namespace Alias

open Yaml (Value)

/-- The commands of an entry: one text or a list of texts. -/
def commands? : Value → Option (List String)
  | .scalar (.text command) => some [command]
  | .list items =>
    items.mapM fun
      | .scalar (.text command) => some command
      | _ => none
  | _ => none

/-- What a key of a definition names. -/
inductive Field where
  | commands
  | description
  | unknown
  deriving DecidableEq

/-- The field that a key names, by its name or by its number; a key of another kind names none. -/
def Field.ofKey? : Value → Option Field
  | .scalar (.text name) =>
    some (if name == "commands" then .commands
      else if name == "description" then .description else .unknown)
  | .scalar (.unsigned number) =>
    some (if number = 0 then .commands else if number = 1 then .description else .unknown)
  | _ => none

/-- What is known of a definition while its entries are read. -/
structure Draft where
  commands : Option (List String) := none
  description : Option String := none

/-- Take in an entry of a definition. A field must not be repeated and must have its form. -/
def Draft.add? (draft : Draft) (entry : Value × Value) : Option Draft :=
  match Field.ofKey? entry.1, entry.2 with
  | some .unknown, _ => some draft
  | some .commands, value =>
    if draft.commands.isSome then none
    else (commands? value).map fun commands ↦ { draft with commands := some commands }
  | some .description, .scalar (.text description) =>
    if draft.description.isSome then none else some { draft with description := some description }
  | _, _ => none

/-- The alias that a definition describes. -/
def ofValue? : Value → Option Alias
  | .scalar (.text command) => some { commands := [command], description := "" }
  | .map entries => do
    let draft ← entries.foldlM Draft.add? {}
    let commands ← draft.commands
    return { commands, description := draft.description.getD "" }
  | _ => none

end Alias

namespace AliasTable

/-- Read an entry of a document, a name and its definition. -/
def readEntry (document : Yaml.Document) (entry : Yaml.Node × Yaml.Node) :
    Yaml.Reader (String × Alias) := do
  let name ← document.textOf entry.1
  let value ← Yaml.Value.read document (Yaml.maxDepth - 1) entry.2
  return (name, ← (Alias.ofValue? value : Option Alias))

/-- The definitions in a text, in the order in which they stand there. -/
def definitions? (text : String) : Option (List (String × Alias)) := do
  let document ← Yaml.Document.ofText? text
  let entries ← document.entries?
  (entries.mapM (readEntry document)).run' document.aliasLimit

end AliasTable

end Switchboard
