import Switchboard.Proofs.Routing
import Switchboard.Proofs.Template.Decomposition

/-!
# The runner of aliases

The built-in runner of aliases is bound before anything else and the first route stays where it is,
so a command that begins with the word of the runner goes to it, whatever else is bound.
`runner_reached` says which alias such a command runs and what it can come to, at the end of every
course.
-/

namespace Switchboard

variable {σ κ : Type}

namespace Commands

/-! ### The commands of the runner -/

/-- In a decomposition by the template of the runner, a command is the word of the runner with a
name behind it, and the name has no line feed. -/
theorem alias_decomposes_iff (texts : List String) (command : String) :
    aliasTemplate.Decomposes texts command ↔
      ∃ name : String, '\n' ∉ name.toList ∧ texts = [name] ∧ command = "vrun " ++ name := by
  have hrender (name : String) : aliasTemplate.render [name] = "vrun " ++ name := by
    simp [Template.render, aliasTemplate, Segment.render]
  constructor
  · rintro ⟨hadmits, hcommand⟩
    have hslots : aliasTemplate.placeholders = [.str] := rfl
    rw [hslots] at hadmits
    cases hadmits with
    | @cons _ name _ _ hline hrest =>
        cases hrest
        exact ⟨name, hline, rfl, hcommand.symm.trans (hrender name)⟩
  · rintro ⟨name, hline, rfl, rfl⟩
    exact ⟨.cons hline .nil, hrender name⟩

/-- The runner gets the name that stands behind its word. -/
theorem alias_slots {name : String} (hline : '\n' ∉ name.toList) :
    aliasTemplate.slots? ("vrun " ++ name) = some [name] := by
  obtain ⟨slots, hslots⟩ := Template.slots_of_decomposes
    ((alias_decomposes_iff [name] _).mpr ⟨name, hline, rfl, rfl⟩)
  obtain ⟨other, -, rfl, hcommand⟩ := (alias_decomposes_iff slots _).mp
    (Template.greatest_of_slots hslots).toDecomposes
  have hsame : name = other := by simpa [← String.toList_inj] using hcommand
  rw [hslots, hsame]

/-- The commands that match the template of the runner. -/
theorem alias_match_iff (command : String) :
    aliasTemplate.isMatch command = true ↔
      ∃ name : String, '\n' ∉ name.toList ∧ command = "vrun " ++ name := by
  rw [← Routes.slots_isSome, Option.isSome_iff_exists]
  constructor
  · rintro ⟨slots, hslots⟩
    obtain ⟨name, hline, -, hcommand⟩ := (alias_decomposes_iff slots command).mp
      (Template.greatest_of_slots hslots).toDecomposes
    exact ⟨name, hline, hcommand⟩
  · rintro ⟨name, hline, rfl⟩
    exact ⟨[name], alias_slots hline⟩

/-! ### What the runner does -/

/-- What a name comes to that is given to the runner: no alias has the name; or the alias may not
be opened any more; or it is opened, and its messages are put together. -/
inductive Called (commands : Commands σ) (levels : Nat) (name : String) (world : Outside σ) :
    Outcome → Prop where
  | unknown : commands.aliases.get? name = none →
      Called commands levels name world (.failed (.unknownAlias name))
  | tooDeep {value : Alias} : commands.aliases.get? name = some value → levels = 0 →
      Called commands levels name world
        (.failed (.aliasTooDeep name commands.settings.maxAliasDepth))
  | opened {value : Alias} {inner : Nat} :
      commands.aliases.get? name = some value → levels = inner + 1 →
      Called commands levels name world
        (.done (Alias.runAll (commands.execWithin inner) name value.commands world).1)

/-- A name that is given to the runner comes to one of these things. -/
theorem called_run (commands : Commands σ) (levels : Nat) (name : String) (world : Outside σ) :
    commands.Called levels name world
      (commands.runAlias (commands.enter levels) ⟨[name]⟩ world).outcome := by
  simp only [runAlias]
  cases hvalue : commands.aliases.get? name with
  | none => exact .unknown hvalue
  | some value =>
      cases levels with
      | zero => exact .tooDeep hvalue rfl
      | succ inner => exact .opened hvalue rfl

variable {commands : Commands σ} {route : Route σ} {rest : List (Route σ)}

/-- A command goes to the first route if it matches that route, whatever else it matches. -/
theorem find_first_iff (hentries : commands.routes.entries = route :: rest) (command : String)
    (limit : Nat) :
    (commands.routes.find? command limit).map Prod.fst = some route ↔
      route.template.isMatch command = true := by
  rw [Routes.find_fst, hentries, List.find?_cons]
  cases hmatch : route.template.isMatch command with
  | true => simp
  | false =>
      -- The route that the command goes to matches it, and the first one does not.
      refine ⟨fun hfound ↦ ?_, fun h ↦ (nomatch h)⟩
      have hfoundMatch := List.find?_some hfound
      exact hmatch.symm.trans hfoundMatch

/-- If the runner has the first route, a command that begins with its word gives it the name that
stands behind the word, or nothing if no argument is allowed. -/
theorem exec_first (hentries : commands.routes.entries = route :: rest)
    (htemplate : route.template = aliasTemplate) (hhandler : route.handler = .runAlias)
    {name : String} (hline : '\n' ∉ name.toList) (world : Outside σ) :
    (commands.exec ("vrun " ++ name) world).outcome =
      (commands.runAlias (commands.enter commands.settings.maxAliasDepth)
        ⟨[name].take commands.settings.maxArguments⟩ world).outcome := by
  have hslots : route.template.slots? ("vrun " ++ name) = some [name] :=
    htemplate ▸ alias_slots hline
  have hmatch : route.template.isMatch ("vrun " ++ name) = true := by
    rw [← Routes.slots_isSome, hslots]
    rfl
  have hfound : commands.routes.find? ("vrun " ++ name) commands.settings.maxArguments =
      some (route, ⟨[name].take commands.settings.maxArguments⟩) := by
    rw [Routes.find_route, hentries, List.find?_cons, hmatch]
    simp only [Option.bind_some, hslots, Option.map_some]
  rw [exec_eq, hfound]
  simp only [hhandler, invoke, Run.after]

end Commands

/-! ### The first route -/

namespace Scene

/-- A text that no action binds has no binding in what the actions add. -/
theorem bindings_fresh {text : String} {actions : List (Action σ κ)}
    (hfree : ∀ matcher run description, .bind matcher text run description ∉ actions) :
    ∀ later ∈ actions.flatMap Action.bindings, later.1 ≠ text := by
  intro later hlater
  obtain ⟨action, haction, hmem⟩ := List.mem_flatMap.mp hlater
  cases action with
  | bind matcher other run description =>
      rw [mem_binding hmem]
      rintro rfl
      exact hfree matcher run description haction
  | _ => cases hmem

variable [Producer σ]

/-- At the end of a course the first route has the template of the runner. If the course does not
bind it again, its handler is the runner. -/
theorem first_route (settings : Settings) (aliases : AliasTable) (outside : Outside σ)
    (actions : List (Action σ κ)) :
    ∃ route rest,
      ((start settings aliases outside).run actions).board.commands.routes.entries = route :: rest ∧
      route.template = Commands.aliasTemplate ∧
      ((∀ matcher run description, .bind matcher "vrun [str]" run description ∉ actions) →
        route.handler = .runAlias) := by
  have hreads := (configured_run settings aliases outside actions).reads
  obtain ⟨others, horder⟩ := Bindings.order_cons Commands.aliasTemplate.raw
    (.runAlias : Handler σ) (actions.flatMap Action.bindings)
  obtain ⟨route, rest, hentries, hraw, -⟩ := List.map_eq_cons_iff.mp (hreads.order.trans horder)
  have hmem :
      route ∈ ((start settings aliases outside).run actions).board.commands.routes.entries :=
    hentries ▸ List.mem_cons_self
  refine ⟨route, rest, hentries, ?_, fun hfree ↦ ?_⟩
  · have hread := hreads.read route hmem
    rw [hraw] at hread
    exact Except.ok.inj (hread.symm.trans Commands.read_alias_template)
  · have hlatest := hreads.handler route hmem
    rw [hraw] at hlatest
    have hfirst := Bindings.latest_cons_fresh (bindings_fresh hfree) (.runAlias : Handler σ)
    exact Option.some.inj (hlatest.symm.trans hfirst)

/-- Whatever happens in a course, the runner of aliases has the first route, and the commands that
go there are its word with a line behind it. Unless the template of the runner is bound again, such
a command runs the alias that has this line as its name. The runner fails for want of an argument if
the settings allow none, for an unknown name, and for an alias that may not be opened; otherwise it
puts the messages of the alias together. Nothing stays pending. -/
theorem runner_reached (settings : Settings) (aliases : AliasTable) (outside : Outside σ)
    (actions : List (Action σ κ)) :
    let board := ((start settings aliases outside).run actions).board
    let commands := board.commands
    commands.routes.entries[0]?.map (·.template.raw) = some "vrun [str]" ∧
    (∀ command limit,
      (commands.routes.find? command limit).map Prod.fst = commands.routes.entries[0]? ↔
        ∃ name : String, '\n' ∉ name.toList ∧ command = "vrun " ++ name) ∧
    ((∀ matcher run description, .bind matcher "vrun [str]" run description ∉ actions) →
      ∀ (name : String) (world : Outside σ), '\n' ∉ name.toList →
        let outcome := (board.exec ("vrun " ++ name) world).outcome
        (settings.maxArguments = 0 → outcome = .failed (.wrongArity 0)) ∧
        (1 ≤ settings.maxArguments →
          (∀ got, outcome ≠ .failed (.wrongArity got)) ∧
          (outcome = .failed (.unknownAlias name) ↔ commands.aliases.get? name = none) ∧
          (outcome = .failed (.aliasTooDeep name 0) ↔
            (commands.aliases.get? name).isSome ∧ settings.maxAliasDepth = 0) ∧
          ∀ value levels, commands.aliases.get? name = some value →
            settings.maxAliasDepth = levels + 1 → outcome =
              .done (Alias.runAll (commands.execWithin levels) name value.commands world).1) ∧
        ∀ promise, outcome ≠ .pending promise) := by
  intro board commands
  obtain ⟨route, rest, hentries, htemplate, hhandler⟩ :=
    first_route settings aliases outside actions
  have hsettings : commands.settings = settings :=
    (configured_run settings aliases outside actions).settings
  have hfirst : commands.routes.entries[0]? = some route := by
    rw [hentries]
    rfl
  refine ⟨?_, fun command limit ↦ ?_, fun hfree name world hline ↦ ?_⟩
  · rw [hfirst, Option.map_some, htemplate]
    rfl
  · rw [hfirst, Commands.find_first_iff hentries, htemplate, Commands.alias_match_iff]
  · intro outcome
    have hrun : outcome = (commands.runAlias (commands.enter settings.maxAliasDepth)
        ⟨[name].take settings.maxArguments⟩ world).outcome :=
      hsettings ▸ Commands.exec_first hentries htemplate (hhandler hfree) hline world
    have hnone : settings.maxArguments = 0 → outcome = .failed (.wrongArity 0) := by
      intro hzero
      rw [hrun, hzero]
      rfl
    have hcalled : 1 ≤ settings.maxArguments →
        commands.Called settings.maxAliasDepth name world outcome := by
      intro hone
      rw [hrun, List.take_of_length_le hone]
      exact commands.called_run settings.maxAliasDepth name world
    clear_value outcome
    refine ⟨hnone, fun hone ↦ ?_, fun promise ↦ ?_⟩
    · cases hcalled hone with
      | unknown hvalue => simp [hvalue]
      | tooDeep hvalue hdepth => simp [hvalue, hdepth, hsettings]
      | opened hvalue hdepth => simp +contextual [hvalue, hdepth]
    · rcases Nat.eq_zero_or_pos settings.maxArguments with hzero | hone
      · rw [hnone hzero]
        exact nofun
      · cases hcalled hone <;> exact nofun

/-- Other templates are bound that match the commands of the runner, and an alias is defined whose
name has a blank. -/
def sampleRivals : List (Action Unit String) :=
  [.bind .sized "[str]" (sayingHandler "any") "",
    .bind .sized "vrun two words" (sayingHandler "fixed") "",
    .bind .sized "vrun [uint]" (sayingHandler "number") "",
    .withAliases (.ofList [("two words", ⟨["go", "vrun two words"], ""⟩)])]

/-- The runner gets the commands nevertheless, and takes all that stands behind its word as the
name. -/
theorem sample_runner_reached :
    let board := ((start {} .empty (.new ())).run sampleRivals).board
    (board.commands.routes.find? "vrun 7" 9).map Prod.fst = board.commands.routes.entries[0]? ∧
    (board.exec "vrun 7" (.new ())).outcome = .failed (.unknownAlias "7") ∧
    ∃ message, (board.exec "vrun two words" (.new ())).outcome = .done message := by
  intro board
  obtain ⟨-, hfind, hrun⟩ := runner_reached {} .empty (.new ()) sampleRivals
  have hfree : ∀ matcher run description,
      .bind matcher "vrun [str]" run description ∉ sampleRivals := by
    simp [sampleRivals]
  obtain ⟨-, hseven, -⟩ := hrun hfree "7" (.new ()) (by decide)
  obtain ⟨-, hwords, -⟩ := hrun hfree "two words" (.new ()) (by decide)
  refine ⟨(hfind "vrun 7" 9).mpr ⟨"7", by decide, rfl⟩, ?_, ?_⟩
  · exact (hseven (by decide)).2.1.mpr rfl
  · exact ⟨_, (hwords (by decide)).2.2.2 _ _ rfl rfl⟩

end Scene

end Switchboard
