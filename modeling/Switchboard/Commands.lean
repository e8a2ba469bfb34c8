import Switchboard.Aliases
import Switchboard.Routes
import Switchboard.Settings

/-!
# Running commands

`Commands` is what a switchboard knows about commands: its settings, its routing table and its
aliases. `Commands.exec` runs a command through the first route that matches it. The built-in runner
of aliases runs the commands of the alias one after the other, puts their messages together and
reports those that fail or stay pending; neither stops the others nor changes the overall outcome.

Aliases may run aliases, also themselves. `Commands.execWithin` is told how many levels of aliases
may still be opened, and recursion is on that number, so every command comes to an end.
-/

namespace Switchboard

/-- What a switchboard knows about commands. -/
structure Commands (σ : Type) where
  settings : Settings
  routes : Routes σ
  aliases : AliasTable

/-- What running a command gives: its outcome, the events on the way and the world after it. -/
structure Run (σ : Type) where
  outcome : Outcome
  journal : List Event
  outside : Outside σ

namespace Run

variable {σ : Type}

/-- A run that fails at once and touches nothing. -/
def failed (fault : CommandFault) (outside : Outside σ) : Run σ :=
  { outcome := .failed fault, journal := [], outside }

/-- The run with an event in front of all others. -/
def after (event : Event) (run : Run σ) : Run σ :=
  { run with journal := event :: run.journal }

end Run

/-- What is reported about a command of an alias that did not end well. -/
def Alias.report (name command : String) : Outcome → List Event
  | .done _ => []
  | .failed fault => [.aliasCommandFailed name command fault]
  | .pending _ => [.aliasCommandPending name command]

/-- Run the commands of an alias one after the other. The messages are put together in order; a
pending outcome has none. -/
def Alias.runAll {σ : Type} (exec : String → Outside σ → Run σ) (name : String) :
    List String → Outside σ → String × List Event × Outside σ
  | [], outside => ("", [], outside)
  | command :: rest, outside =>
    let run := exec command outside
    let (message, journal, last) := Alias.runAll exec name rest run.outside
    (run.outcome.message ++ message,
      run.journal ++ Alias.report name command run.outcome ++ journal, last)

namespace Commands

variable {σ : Type}

/-- The template of the built-in runner of aliases. -/
def aliasTemplate : Template :=
  { segments := [.literal "vrun ", .placeholder .str] }

/-- The route of the built-in runner of aliases. -/
def aliasRoute : Route σ :=
  { template := aliasTemplate, handler := .runAlias, description := "Run an alias" }

/-- Run the first handler that matches the command, given what to do when that is the runner of
aliases. -/
def dispatch (commands : Commands σ) (runAlias : Arguments → Outside σ → Run σ) (command : String)
    (outside : Outside σ) : Run σ :=
  match commands.routes.find? command commands.settings.maxArguments with
  | none => (Run.failed (.noHandler command) outside).after (.handlerMissing command)
  | some (route, arguments) =>
    Run.after (.dispatched command route.template.raw arguments.values) <|
      match route.handler with
      | .external run =>
        let (outcome, after) := run arguments outside
        { outcome, journal := [], outside := after }
      | .runAlias => runAlias arguments outside

/-- The runner of aliases, given what to do with the commands of a defined alias. It takes exactly
one argument, the name. -/
def runAlias (commands : Commands σ) (enter : String → Alias → Outside σ → Run σ)
    (arguments : Arguments) (outside : Outside σ) : Run σ :=
  match arguments.values with
  | [name] =>
    match commands.aliases.get? name with
    | none => .failed (.unknownAlias name) outside
    | some value => enter name value outside
  | values => .failed (.wrongArity values.length) outside

/-- Run a command while the given number of levels of aliases may still be opened. -/
def execWithin (commands : Commands σ) : Nat → String → Outside σ → Run σ
  | 0 =>
    commands.dispatch <| commands.runAlias fun name _ outside ↦
      .failed (.aliasTooDeep name commands.settings.maxAliasDepth) outside
  | levels + 1 =>
    commands.dispatch <| commands.runAlias fun name value outside ↦
      let (message, journal, last) :=
        Alias.runAll (commands.execWithin levels) name value.commands outside
      { outcome := .done message, journal, outside := last }

/-- Run a command through the first route that matches it. -/
def exec (commands : Commands σ) (command : String) (outside : Outside σ) : Run σ :=
  commands.execWithin commands.settings.maxAliasDepth command outside

/-- Bind a handler to a template. -/
def bind (commands : Commands σ) (matcher : Matcher) (text : String) (handler : Handler σ)
    (description : String) : Except TemplateFault Binding × List Event × Commands σ :=
  let (result, journal, routes) := commands.routes.bind matcher text handler description
  (result, journal, { commands with routes })

end Commands

end Switchboard
