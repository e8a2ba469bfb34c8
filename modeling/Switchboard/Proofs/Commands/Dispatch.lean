import Switchboard.Commands

/-!
# Where a command goes

A command goes to no route, to a handler, or to the built-in runner of aliases, and it is a run of
an alias if it gives the runner the name of a defined one. Only such a run depends on how many
levels of aliases may still be opened. `Commands.Plain` lists what all other commands do, and
`exec_within_plain` says that there is nothing else.
-/

namespace Switchboard.Commands

variable {σ : Type}

/-- What the built-in runner does with the commands of an alias while the given number of levels
may still be opened. -/
def enter (commands : Commands σ) : Nat → String → Alias → Outside σ → Run σ
  | 0, name, _, outside => .failed (.aliasTooDeep name commands.settings.maxAliasDepth) outside
  | levels + 1, name, value, outside =>
    let (message, journal, last) :=
      Alias.runAll (commands.execWithin levels) name value.commands outside
    { outcome := .done message, journal, outside := last }

/-- Run one handler, once. -/
def invoke (commands : Commands σ) (handler : Handler σ) (arguments : Arguments)
    (outside : Outside σ) : Run σ :=
  match handler with
  | .external run =>
    { outcome := (run arguments outside).1, journal := [], outside := (run arguments outside).2 }
  | .runAlias =>
    commands.runAlias (commands.enter commands.settings.maxAliasDepth) arguments outside

/-- The route that takes a command, and the arguments for its handler. -/
def route? (commands : Commands σ) (command : String) : Option (Route σ × Arguments) :=
  commands.routes.find? command commands.settings.maxArguments

/-- Running a command is dispatching it, and at most the runner of aliases knows of levels. -/
theorem exec_within_eq (commands : Commands σ) (levels : Nat) :
    commands.execWithin levels = commands.dispatch (commands.runAlias (commands.enter levels)) := by
  cases levels <;> rfl

/-- Running a command is giving it to the first route that matches it. -/
theorem exec_eq (commands : Commands σ) (command : String) (outside : Outside σ) :
    commands.exec command outside =
      match commands.routes.find? command commands.settings.maxArguments with
      | none => (Run.failed (.noHandler command) outside).after (.handlerMissing command)
      | some (route, arguments) =>
        (commands.invoke route.handler arguments outside).after
          (.dispatched command route.template.raw arguments.values) := by
  rw [exec, exec_within_eq, dispatch]
  cases commands.routes.find? command commands.settings.maxArguments with
  | none => rfl
  | some found =>
      obtain ⟨⟨template, handler, description⟩, arguments⟩ := found
      cases handler <;> rfl

/-- The name that a command gives to the built-in runner of aliases. -/
def aliasName? (commands : Commands σ) (command : String) : Option String :=
  match commands.route? command with
  | some (⟨_, .runAlias, _⟩, ⟨[name]⟩) => some name
  | _ => none

/-- The alias that a command runs, with its name. -/
def aliasRun? (commands : Commands σ) (command : String) : Option (String × Alias) :=
  (commands.aliasName? command).bind fun name ↦ (commands.aliases.get? name).map (name, ·)

/-- What a command does that is not a run of a defined alias: it goes to no route, or it calls a
handler once, or it goes to the runner of aliases with another number of arguments than one, or
with a name that is not defined. -/
inductive Plain (commands : Commands σ) (command : String) (outside : Outside σ) :
    Run σ → Prop where
  | unrouted : commands.route? command = none →
      Plain commands command outside
        ((Run.failed (.noHandler command) outside).after (.handlerMissing command))
  | handled {template : Template} {run : Arguments → Outside σ → Outcome × Outside σ}
      {description : String} {arguments : Arguments} :
      commands.route? command = some (⟨template, .external run, description⟩, arguments) →
      Plain commands command outside
        (Run.after (.dispatched command template.raw arguments.values)
          { outcome := (run arguments outside).1, journal := []
            outside := (run arguments outside).2 })
  | misused {template : Template} {description : String} {values : List String} :
      commands.route? command = some (⟨template, .runAlias, description⟩, ⟨values⟩) →
      values.length ≠ 1 →
      Plain commands command outside
        ((Run.failed (.wrongArity values.length) outside).after
          (.dispatched command template.raw values))
  | unknown {template : Template} {description name : String} :
      commands.route? command = some (⟨template, .runAlias, description⟩, ⟨[name]⟩) →
      commands.aliases.get? name = none →
      Plain commands command outside
        ((Run.failed (.unknownAlias name) outside).after (.dispatched command template.raw [name]))

variable {commands : Commands σ} {command name : String} {value : Alias} {outside : Outside σ}

/-- A command names an alias if the runner of aliases gets the name as its only argument. -/
theorem alias_name_iff :
    commands.aliasName? command = some name ↔
      ∃ template description,
        commands.route? command = some (⟨template, .runAlias, description⟩, ⟨[name]⟩) := by
  unfold aliasName?
  split
  · rename_i template description given hroute
    simp [hroute]
  · rename_i hother
    refine ⟨fun h ↦ (nomatch h), fun ⟨template, description, hroute⟩ ↦ ?_⟩
    exact absurd hroute (hother template description name)

/-- A command runs an alias if it names it and the name is defined. -/
theorem alias_run_iff :
    commands.aliasRun? command = some (name, value) ↔
      commands.aliasName? command = some name ∧ commands.aliases.get? name = some value := by
  simp [aliasRun?, Option.bind_eq_some_iff]

/-- What a command does by the route that takes it. -/
theorem exec_within_route (commands : Commands σ) (levels : Nat) (command : String)
    (outside : Outside σ) :
    commands.execWithin levels command outside =
      match commands.route? command with
      | none => (Run.failed (.noHandler command) outside).after (.handlerMissing command)
      | some (route, arguments) =>
        Run.after (.dispatched command route.template.raw arguments.values) <|
          match route.handler with
          | .external run =>
            { outcome := (run arguments outside).1, journal := []
              outside := (run arguments outside).2 }
          | .runAlias => commands.runAlias (commands.enter levels) arguments outside := by
  rw [exec_within_eq]
  rfl

/-- A command that runs no alias does something plain, at every level. -/
theorem exec_within_plain (hplain : commands.aliasRun? command = none) (levels : Nat)
    (outside : Outside σ) :
    commands.Plain command outside (commands.execWithin levels command outside) := by
  rw [exec_within_route]
  cases hroute : commands.route? command with
  | none => exact .unrouted hroute
  | some found =>
      obtain ⟨⟨template, handler, description⟩, ⟨values⟩⟩ := found
      cases handler with
      | external run => exact .handled hroute
      | runAlias =>
          by_cases hvalues : values.length = 1
          · obtain ⟨name, rfl⟩ := List.length_eq_one_iff.mp hvalues
            have hname := alias_name_iff.mpr ⟨template, description, hroute⟩
            have hunknown : commands.aliases.get? name = none := by
              simpa [aliasRun?, hname] using hplain
            simpa only [runAlias, hunknown] using Plain.unknown hroute hunknown
          · have hmisused : commands.runAlias (commands.enter levels) ⟨values⟩ outside =
                .failed (.wrongArity values.length) outside := by
              unfold runAlias
              split
              · rename_i name hone
                exact absurd (congrArg List.length hone) hvalues
              · rfl
            simpa only [hmisused] using Plain.misused hroute hvalues

/-- A command that runs an alias makes the runner enter it. -/
theorem exec_within_alias (hrun : commands.aliasRun? command = some (name, value)) :
    ∃ template description,
      commands.route? command = some (⟨template, .runAlias, description⟩, ⟨[name]⟩) ∧
      ∀ levels outside, commands.execWithin levels command outside =
        (commands.enter levels name value outside).after
          (.dispatched command template.raw [name]) := by
  obtain ⟨hname, hvalue⟩ := alias_run_iff.mp hrun
  obtain ⟨template, description, hroute⟩ := alias_name_iff.mp hname
  refine ⟨template, description, hroute, fun levels outside ↦ ?_⟩
  rw [exec_within_route, hroute]
  simp only [runAlias, hvalue]

/-- A command that gives the runner the name of a defined alias runs the alias. -/
theorem alias_run_of_route {template : Template} {description : String}
    (hroute : commands.route? command = some (⟨template, .runAlias, description⟩, ⟨[name]⟩))
    (hvalue : commands.aliases.get? name = some value) :
    commands.aliasRun? command = some (name, value) :=
  alias_run_iff.mpr ⟨alias_name_iff.mpr ⟨template, description, hroute⟩, hvalue⟩

/-- A plain command runs no alias. -/
theorem plain_alias_run {run : Run σ} (hplain : commands.Plain command outside run) :
    commands.aliasRun? command = none := by
  cases hplain with
  | unrouted hroute => simp [aliasRun?, aliasName?, hroute]
  | handled hroute => simp [aliasRun?, aliasName?, hroute]
  | misused hroute hvalues =>
      have hname : commands.aliasName? command = none := by
        rw [Option.eq_none_iff_forall_ne_some]
        intro name hname
        obtain ⟨template, description, hother⟩ := alias_name_iff.mp hname
        cases hroute.symm.trans hother
        exact hvalues rfl
      simp [aliasRun?, hname]
  | unknown hroute hvalue =>
      simp [aliasRun?, alias_name_iff.mpr ⟨_, _, hroute⟩, hvalue]

/-- A plain command does one thing. -/
theorem plain_unique {first second : Run σ} (hfirst : commands.Plain command outside first)
    (hsecond : commands.Plain command outside second) : first = second := by
  cases hfirst <;> cases hsecond <;> grind

/-- What a plain command does has nothing to do with levels. -/
theorem exec_within_eq_exec (hplain : commands.aliasRun? command = none) (levels : Nat)
    (outside : Outside σ) :
    commands.execWithin levels command outside = commands.exec command outside :=
  plain_unique (exec_within_plain hplain levels outside) (exec_within_plain hplain _ outside)

end Switchboard.Commands
