import Switchboard.Commands

/-!
# Help

The listing of commands and aliases. Every bound template has a row, in ascending order; the
templates are padded with spaces to a common width, the length of the longest one in bytes of UTF-8.
No template has more characters than bytes, so the descriptions start in one column. The aliases
follow, if there are any.
-/

namespace Switchboard

namespace Help

/-- The text with spaces behind it up to a number of characters. -/
def pad (width : Nat) (text : String) : String :=
  text ++ String.ofList (List.replicate (width - text.length) ' ')

/-- The width of the column of templates. -/
def width (records : List CommandRecord) : Nat :=
  records.foldl (fun widest record ↦ max widest record.template.utf8ByteSize) 0

/-- The row of a command. -/
def commandRow (width : Nat) (record : CommandRecord) : String :=
  pad width record.template ++ "  " ++ record.description ++ "\n"

/-- What the row of an alias says: its description, or its commands if it has none. -/
def aliasText (record : AliasRecord) : String :=
  if record.description.isEmpty then String.intercalate "; " record.commands
  else record.description

/-- The row of an alias. -/
def aliasRow (record : AliasRecord) : String :=
  "  " ++ record.name ++ "  " ++ aliasText record ++ "\n"

/-- The rows of the aliases under their heading, if there are any. -/
def aliasPart (records : List AliasRecord) : String :=
  if records.isEmpty then ""
  else "\nAliases (vrun <name>):\n" ++ String.join (records.map aliasRow)

end Help

/-- The listing of the commands and aliases. -/
def Commands.help {σ : Type} (commands : Commands σ) : String :=
  let records := commands.routes.records
  String.join (records.map (Help.commandRow (Help.width records))) ++
    Help.aliasPart commands.aliases.records

end Switchboard
