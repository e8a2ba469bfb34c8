import Switchboard.Dictionary
import Switchboard.Journal

/-!
# Aliases

An alias is a named list of commands that run one after the other. `AliasTable` keeps the aliases in
ascending order of their names, each name once; defining a name again replaces the commands and the
description it had.
-/

namespace Switchboard

/-- What an alias stands for. -/
structure Alias where
  commands : List String
  description : String
  deriving DecidableEq

/-- The aliases in ascending order of their names. -/
structure AliasTable where
  entries : Dictionary Alias
  deriving DecidableEq

/-- An alias as help shows it. -/
structure AliasRecord where
  name : String
  commands : List String
  description : String
  deriving DecidableEq

namespace AliasTable

/-- The table without aliases. -/
def empty : AliasTable :=
  { entries := [] }

/-- The number of aliases. -/
def size (table : AliasTable) : Nat :=
  table.entries.length

/-- What the name stands for. -/
def get? (table : AliasTable) (name : String) : Option Alias :=
  (table.entries.find? fun entry ↦ entry.1 == name).map Prod.snd

/-- Whether the name is defined. -/
def contains (table : AliasTable) (name : String) : Bool :=
  (table.get? name).isSome

/-- The table in which the name stands for the given alias. -/
def insert (table : AliasTable) (name : String) (value : Alias) : AliasTable :=
  { entries := Dictionary.insert name value table.entries }

/-- The table of a list of definitions; of several definitions of a name the last one counts. -/
def ofList (definitions : List (String × Alias)) : AliasTable :=
  definitions.foldl (fun table (name, value) ↦ table.insert name value) empty

/-- Define a name and report it, also when it was defined before. -/
def define (table : AliasTable) (name : String) (value : Alias) : List Event × AliasTable :=
  let defined := Event.aliasDefined name value.commands.length
  (if table.contains name then [.aliasOverwritten name, defined] else [defined],
    table.insert name value)

/-- Define several names one after the other. -/
def defineAll (table : AliasTable) : List (String × Alias) → List Event × AliasTable
  | [] => ([], table)
  | (name, value) :: rest =>
    let (journal, next) := table.define name value
    let (later, last) := next.defineAll rest
    (journal ++ later, last)

/-- What help says about the aliases, in ascending order of their names. -/
def records (table : AliasTable) : List AliasRecord :=
  table.entries.map fun (name, value) ↦
    { name, commands := value.commands, description := value.description }

end AliasTable

end Switchboard
