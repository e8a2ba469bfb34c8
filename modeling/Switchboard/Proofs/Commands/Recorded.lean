import Switchboard.Proofs.Commands.Dispatch

/-!
# The calls of handlers

Handlers act on the world in ways of their own, so the world after a command does not tell which
handlers were called. `Commands.recorded` replaces each handler by one that does the same and keeps
a record of the call, with its arguments and the world in which it was made, in a part of the world
that no other handler sees. `Commands.calls` is what the record holds after a command.
`exec_recorded` says that recording changes nothing else, so the calls recorded are those that the
command makes.
-/

namespace Switchboard

/-- A call of a handler: the template to which the handler is bound, the arguments, and the world
in which it was called. -/
structure Call (σ : Type) where
  template : Template
  arguments : Arguments
  world : Outside σ
  deriving DecidableEq

variable {σ : Type}

namespace Outside

/-- The world with a record of calls. -/
def record (outside : Outside σ) (calls : List (Call σ)) : Outside (σ × List (Call σ)) :=
  { channels := outside.channels, executor := outside.executor, own := (outside.own, calls) }

/-- The world without its record. -/
def unrecorded (outside : Outside (σ × List (Call σ))) : Outside σ :=
  { channels := outside.channels, executor := outside.executor, own := outside.own.1 }

/-- The record of a world. -/
def recorded (outside : Outside (σ × List (Call σ))) : List (Call σ) :=
  outside.own.2

end Outside

/-- The route with a handler that does the same and keeps a record of its calls. -/
def Route.recorded (route : Route σ) : Route (σ × List (Call σ)) where
  template := route.template
  handler :=
    match route.handler with
    | .external run => .external fun arguments outside ↦
      let (outcome, after) := run arguments outside.unrecorded
      (outcome,
        after.record (outside.recorded ++ [⟨route.template, arguments, outside.unrecorded⟩]))
    | .runAlias => .runAlias
  description := route.description

/-- A run with a record of calls in the world after it. -/
def Run.record (run : Run σ) (calls : List (Call σ)) : Run (σ × List (Call σ)) :=
  { outcome := run.outcome, journal := run.journal, outside := run.outside.record calls }

namespace Commands

/-- The same commands with handlers that keep a record of their calls. -/
def recorded (commands : Commands σ) : Commands (σ × List (Call σ)) where
  settings := commands.settings
  routes :=
    { entries := commands.routes.entries.map Route.recorded
      slots := commands.routes.slots
      descriptions := commands.routes.descriptions }
  aliases := commands.aliases

/-- The calls of handlers that running a command makes while the given number of levels of aliases
may still be opened. -/
def callsWithin (commands : Commands σ) (levels : Nat) (command : String) (outside : Outside σ) :
    List (Call σ) :=
  (commands.recorded.execWithin levels command (outside.record [])).outside.recorded

/-- The calls of handlers that running a command makes. -/
def calls (commands : Commands σ) (command : String) (outside : Outside σ) : List (Call σ) :=
  commands.callsWithin commands.settings.maxAliasDepth command outside

variable {commands : Commands σ} {command name : String} {value : Alias}

/-- Recording does not change the aliases. -/
@[simp] theorem recorded_aliases (commands : Commands σ) :
    commands.recorded.aliases = commands.aliases :=
  rfl

/-- Recording does not change where a command goes. -/
theorem route_recorded (commands : Commands σ) (command : String) :
    commands.recorded.route? command =
      (commands.route? command).map fun (route, arguments) ↦ (route.recorded, arguments) := by
  simp only [route?, recorded, Routes.find?, List.findSome?_map, Function.comp_def]
  induction commands.routes.entries with
  | nil => rfl
  | cons route rest ih =>
      rw [List.findSome?_cons, List.findSome?_cons, ih]
      cases hcaptures : route.template.captures command commands.settings.maxArguments <;>
        simp [Route.recorded, hcaptures]

/-- Recording does not change which alias a command runs. -/
theorem alias_run_recorded (commands : Commands σ) :
    commands.recorded.aliasRun? = commands.aliasRun? := by
  funext command
  have hname : commands.recorded.aliasName? command = commands.aliasName? command := by
    unfold aliasName?
    rw [route_recorded]
    cases commands.route? command with
    | none => rfl
    | some found =>
        obtain ⟨⟨template, handler, description⟩, ⟨values⟩⟩ := found
        cases handler with
        | external => rfl
        | runAlias => rcases values with - | ⟨first, - | ⟨second, rest⟩⟩ <;> rfl
  rw [aliasRun?, hname]
  rfl

/-- Running a command with recording handlers does what running it does and adds calls to the
record. -/
def Transparent (exec : String → Outside σ → Run σ)
    (recording : String → Outside (σ × List (Call σ)) → Run (σ × List (Call σ))) : Prop :=
  ∀ command outside, ∃ made, ∀ calls,
    recording command (outside.record calls) = (exec command outside).record (calls ++ made)

/-- If each command of an alias does the same with recording handlers, so do all of them. -/
theorem run_all_transparent {exec : String → Outside σ → Run σ}
    {recording : String → Outside (σ × List (Call σ)) → Run (σ × List (Call σ))}
    (htransparent : Transparent exec recording) (name : String) (texts : List String)
    (outside : Outside σ) :
    ∃ made, ∀ calls, Alias.runAll recording name texts (outside.record calls) =
      let (message, journal, last) := Alias.runAll exec name texts outside
      (message, journal, last.record (calls ++ made)) := by
  induction texts generalizing outside with
  | nil => exact ⟨[], fun calls ↦ by rw [List.append_nil]; rfl⟩
  | cons command rest ih =>
      obtain ⟨first, hfirst⟩ := htransparent command outside
      obtain ⟨others, hothers⟩ := ih (exec command outside).outside
      refine ⟨first ++ others, fun calls ↦ ?_⟩
      simp only [Alias.runAll, hfirst, Run.record, hothers, List.append_assoc]

/-- If entering an alias does the same with recording handlers, so does running a command. -/
theorem exec_within_transparent_of_enter {levels : Nat}
    (henter : ∀ name value outside, ∃ made, ∀ calls,
      commands.recorded.enter levels name value (outside.record calls) =
        (commands.enter levels name value outside).record (calls ++ made)) :
    Transparent (commands.execWithin levels) (commands.recorded.execWithin levels) := by
  intro command outside
  simp only [exec_within_route, route_recorded]
  cases commands.route? command with
  | none => exact ⟨[], fun calls ↦ by rw [List.append_nil]; rfl⟩
  | some found =>
      obtain ⟨⟨template, handler, description⟩, arguments⟩ := found
      cases handler with
      | external run => exact ⟨[⟨template, arguments, outside⟩], fun calls ↦ rfl⟩
      | runAlias =>
          simp only [Option.map_some, Route.recorded, runAlias, recorded_aliases]
          split
          · rename_i name hvalues
            cases commands.aliases.get? name with
            | none => exact ⟨[], fun calls ↦ by rw [List.append_nil]; rfl⟩
            | some value =>
                obtain ⟨made, hmade⟩ := henter name value outside
                exact ⟨made, fun calls ↦ by simp only [hmade]; rfl⟩
          · exact ⟨[], fun calls ↦ by rw [List.append_nil]; rfl⟩

/-- At every level, recording changes nothing but the record. -/
theorem exec_within_transparent (commands : Commands σ) (levels : Nat) :
    Transparent (commands.execWithin levels) (commands.recorded.execWithin levels) := by
  induction levels with
  | zero =>
      refine exec_within_transparent_of_enter fun name value outside ↦ ⟨[], fun calls ↦ ?_⟩
      rw [List.append_nil]
      rfl
  | succ levels ih =>
      refine exec_within_transparent_of_enter fun name value outside ↦ ?_
      obtain ⟨made, hmade⟩ := run_all_transparent ih name value.commands outside
      exact ⟨made, fun calls ↦ by simp only [enter, hmade]; rfl⟩

/-- Recording handlers do what the handlers do, and add the calls to the record. -/
theorem exec_recorded (commands : Commands σ) (command : String) (outside : Outside σ)
    (calls : List (Call σ)) :
    commands.recorded.exec command (outside.record calls) =
      (commands.exec command outside).record (calls ++ commands.calls command outside) := by
  obtain ⟨made, hmade⟩ :=
    exec_within_transparent commands commands.settings.maxAliasDepth command outside
  have hcalls : commands.calls command outside = made := by
    rw [Commands.calls, callsWithin, hmade []]
    rfl
  rw [hcalls]
  exact hmade calls

end Commands

end Switchboard
