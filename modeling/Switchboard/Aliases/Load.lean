import Switchboard.Aliases.Document
import Switchboard.Files

/-!
# Loading aliases

Loading defines every alias of a document, in ascending order of their names and each name once with
its last definition, or nothing at all if the document is malformed or any definition in it is.
-/

namespace Switchboard.AliasTable

/-- What loading gives: the number of names defined, the events on the way and the table after
it. -/
structure Loading where
  result : Except LoadFault Nat
  journal : List Event
  table : AliasTable

/-- Load the definitions of a text. -/
def loadFrom (table : AliasTable) (origin text : String) : Loading :=
  match definitions? text with
  | none => { result := .error (.malformed origin), journal := [], table }
  | some definitions =>
    let loaded := ofList definitions
    let (journal, defined) := table.defineAll loaded.entries
    { result := .ok loaded.size, journal, table := defined }

/-- Load the definitions of a text that comes from no file. -/
def load (table : AliasTable) (text : String) : Loading :=
  table.loadFrom "alias definitions" text

/-- Load the definitions of a file. -/
def loadFile (table : AliasTable) (files : FileSource) (path : String) : Loading :=
  match files.text path with
  | .error fault => { result := .error (.unreadable path fault), journal := [], table }
  | .ok text =>
    let loading := table.loadFrom (Text.quotedPath path) text
    match loading.result with
    | .error _ => loading
    | .ok count => { loading with journal := loading.journal ++ [.aliasesLoaded count path] }

end Switchboard.AliasTable
