import Switchboard.Aliases.Load
import Switchboard.Board

/-!
# Setting a switchboard up

A board starts with a running follower, the built-in runner of aliases and the aliases of the file
that the settings name. If that file cannot be loaded there is no board. Afterwards handlers are
bound and aliases are defined or loaded at any time.
-/

namespace Switchboard.Board

variable {σ κ : Type}

/-- The events of a start that defined the given aliases. -/
def startJournal (σ : Type) (settings : Settings) (journal : List Event) (aliases : AliasTable) :
    List Event :=
  [Follower.startEvent settings] ++ ((Routes.empty : Routes σ).insert Commands.aliasRoute).2.1 ++
    journal ++ [.ready aliases.size]

/-- Start a board with the aliases of the file that the settings name. -/
def start (settings : Settings) (files : FileSource) :
    Except LoadFault (List Event × Board σ κ) :=
  let loading : AliasTable.Loading :=
    match settings.aliasFile with
    | none => { result := .ok 0, journal := [], table := .empty }
    | some path => AliasTable.empty.loadFile files path
  loading.result.map fun _ ↦
    (startJournal σ settings loading.journal loading.table, .new settings loading.table)

/-- Bind a handler to a template. -/
def bind (board : Board σ κ) (matcher : Matcher) (text : String) (handler : Handler σ)
    (description : String) : Turn σ κ (Except TemplateFault Binding) :=
  let (value, journal, commands) := board.commands.bind matcher text handler description
  { value, board := { board with commands }, journal }

/-- The board with other aliases. -/
def withAliases (board : Board σ κ) (aliases : AliasTable) : Board σ κ :=
  { board with commands := { board.commands with aliases } }

/-- Define an alias. -/
def define (board : Board σ κ) (name : String) (value : Alias) : Turn σ κ Unit :=
  let (journal, aliases) := board.commands.aliases.define name value
  { value := (), board := board.withAliases aliases, journal }

/-- Run a command whose outcome goes to the caller, also while an asynchronous one is
outstanding. -/
def exec (board : Board σ κ) (command : String) (outside : Outside σ) : Run σ :=
  board.commands.exec command outside

end Switchboard.Board
