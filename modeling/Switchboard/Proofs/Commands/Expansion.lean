import Switchboard.Proofs.Commands.Recorded

/-!
# Aliases as macros

A run of an alias stands for the commands of the alias, and some of these may stand for others in
turn. `Macros.Expands` says which commands a list of commands comes down to, and `Macros.Nested` how
deep macros are nested in a command. `run_all_expands` relates the runner of aliases, which counts
levels, to a list that is run at top level, which does not; `exec_expands` is what follows for a
run of an alias.
-/

namespace Switchboard

/-- The commands that a command stands for, if it stands for others. -/
abbrev Macros := String → Option (List String)

namespace Macros

/-- The commands that a list of commands comes down to: one that stands for others is replaced by
what these come down to, and any other is kept. -/
inductive Expands (macros : Macros) : List String → List String → Prop where
  | nil : Expands macros [] []
  | kept {command : String} {rest texts : List String} : macros command = none →
      Expands macros rest texts → Expands macros (command :: rest) (command :: texts)
  | opened {command : String} {inner rest first texts : List String} :
      macros command = some inner → Expands macros inner first → Expands macros rest texts →
      Expands macros (command :: rest) (first ++ texts)

/-- A command stands for others, one of these for others in turn, and so on, the given number of
levels deep. If a command is met again on the way down there is no end to the levels. -/
inductive Nested (macros : Macros) : String → Nat → Prop where
  | innermost {command : String} {inner : List String} : macros command = some inner →
      Nested macros command 1
  | within {command other : String} {inner : List String} {levels : Nat} :
      macros command = some inner → other ∈ inner → Nested macros other levels →
      Nested macros command (levels + 1)

/-- Whether macros are nested at most the given number of levels deep in a command. -/
def fits (macros : Macros) : Nat → String → Bool
  | 0, command => (macros command).isNone
  | levels + 1, command =>
    match macros command with
    | none => true
    | some inner => inner.all (macros.fits levels)

variable {macros : Macros} {command : String} {commands first second : List String} {levels : Nat}

/-- What fits within some levels has no deeper nesting. -/
theorem fits_iff (macros : Macros) (levels : Nat) (command : String) :
    macros.fits levels command = true ↔ ∀ depth, macros.Nested command depth → depth ≤ levels := by
  induction levels generalizing command with
  | zero =>
      rw [fits, Option.isNone_iff_eq_none]
      constructor
      · intro hnone depth hnested
        cases hnested <;> simp_all
      · intro hdepth
        cases hopens : macros command with
        | none => rfl
        | some inner => exact absurd (hdepth 1 (.innermost hopens)) (by omega)
  | succ levels ih =>
      cases hopens : macros command with
      | none =>
          simp only [fits, hopens, true_iff]
          intro depth hnested
          cases hnested <;> simp_all
      | some inner =>
          simp only [fits, hopens, List.all_eq_true]
          constructor
          · intro hinner depth hnested
            cases hnested with
            | innermost => omega
            | within hother hmem hdeeper =>
                rw [hopens, Option.some.injEq] at hother
                subst hother
                exact Nat.succ_le_succ ((ih _).mp (hinner _ hmem) _ hdeeper)
          · intro hdepth other hmem
            refine (ih other).mpr fun depth hdeeper ↦ ?_
            exact Nat.le_of_succ_le_succ (hdepth _ (.within hopens hmem hdeeper))

/-- Commands come down to one list of commands. -/
theorem expands_unique (hfirst : macros.Expands commands first)
    (hsecond : macros.Expands commands second) : first = second := by
  induction hfirst generalizing second with
  | nil => cases hsecond; rfl
  | kept hopens _ ih =>
      cases hsecond with
      | kept _ hrest => rw [ih hrest]
      | opened hother => cases hopens.symm.trans hother
  | opened hopens _ _ ihinner ihrest =>
      cases hsecond with
      | kept hother => cases hopens.symm.trans hother
      | opened hother hinner hrest =>
          rw [hopens, Option.some.injEq] at hother
          subst hother
          rw [ihinner hinner, ihrest hrest]

/-- If what each command stands for comes down to some list, so do the commands. -/
theorem expands_of_inner
    (hinner : ∀ command ∈ commands, ∀ inner, macros command = some inner →
      ∃ texts, macros.Expands inner texts) : ∃ texts, macros.Expands commands texts := by
  induction commands with
  | nil => exact ⟨[], .nil⟩
  | cons command rest ih =>
      obtain ⟨hhead, hrest⟩ := List.forall_mem_cons.mp hinner
      obtain ⟨texts, htexts⟩ := ih hrest
      cases hopens : macros command with
      | none => exact ⟨command :: texts, .kept hopens htexts⟩
      | some inner =>
          obtain ⟨first, hfirst⟩ := hhead inner hopens
          exact ⟨first ++ texts, .opened hopens hfirst htexts⟩

/-- Commands in which macros are nested to a bounded depth come down to some list. -/
theorem expands_of_fits (hfits : ∀ command ∈ commands, macros.fits levels command = true) :
    ∃ texts, macros.Expands commands texts := by
  induction levels generalizing commands with
  | zero =>
      refine expands_of_inner fun command hmem inner hopens ↦ ?_
      have hnone := hfits command hmem
      simp [fits, hopens] at hnone
  | succ levels ih =>
      refine expands_of_inner fun command hmem inner hopens ↦ ih fun other hother ↦ ?_
      have hall := hfits command hmem
      simp only [fits, hopens, List.all_eq_true] at hall
      exact hall other hother

end Macros

namespace Commands

variable {σ : Type} {commands : Commands σ} {command name : String} {value : Alias}

/-- The commands that a command stands for: those of the alias that it runs. -/
def macros (commands : Commands σ) : Macros :=
  fun command ↦ (commands.aliasRun? command).map (·.2.commands)

/-- Run commands one after the other at top level, each in the world that the one before left. -/
def execEach (commands : Commands σ) : List String → Outside σ → List Outcome × Outside σ
  | [], outside => ([], outside)
  | command :: rest, outside =>
    let run := commands.exec command outside
    let (outcomes, last) := commands.execEach rest run.outside
    (run.outcome :: outcomes, last)

/-- The calls of handlers that commands make when they are run one after the other at top level. -/
def callsEach (commands : Commands σ) : List String → Outside σ → List (Call σ)
  | [], _ => []
  | command :: rest, outside =>
    commands.calls command outside ++
      commands.callsEach rest (commands.exec command outside).outside

/-- Running one list of commands and then another is running both in a row. -/
theorem exec_each_append (commands : Commands σ) (first second : List String)
    (outside : Outside σ) :
    commands.execEach (first ++ second) outside =
      let (outcomes, between) := commands.execEach first outside
      let (others, last) := commands.execEach second between
      (outcomes ++ others, last) := by
  induction first generalizing outside with
  | nil => rfl
  | cons command rest ih => simp only [List.cons_append, execEach, ih]

/-- When commands are run one after the other with recording handlers, the record gets the calls
of each of them. -/
theorem exec_each_recorded (commands : Commands σ) (texts : List String) (outside : Outside σ)
    (calls : List (Call σ)) :
    commands.recorded.execEach texts (outside.record calls) =
      ((commands.execEach texts outside).1,
        (commands.execEach texts outside).2.record
          (calls ++ commands.callsEach texts outside)) := by
  induction texts generalizing outside calls with
  | nil => simp [execEach, callsEach]
  | cons command rest ih =>
      simp only [execEach, callsEach, exec_recorded, Run.record, ih, List.append_assoc]

/-- A command that stands for no others runs no alias. -/
theorem macros_eq_none (hopens : commands.macros command = none) :
    commands.aliasRun? command = none :=
  Option.map_eq_none_iff.mp hopens

/-- A command that stands for others runs an alias with them as its commands. -/
theorem macros_eq_some {inner : List String} (hopens : commands.macros command = some inner) :
    ∃ name value, commands.aliasRun? command = some (name, value) ∧ value.commands = inner := by
  obtain ⟨⟨name, value⟩, hrun, hinner⟩ := Option.map_eq_some_iff.mp hopens
  exact ⟨name, value, hrun, hinner⟩

/-- The runner of aliases does with the commands of an alias what is done with the commands that
they come down to at top level, and puts the messages of those together. -/
theorem run_all_expands {inner texts : List String} (hexpands : commands.macros.Expands inner texts)
    {levels : Nat} (hfits : ∀ command ∈ inner, commands.macros.fits levels command = true)
    (name : String) (outside : Outside σ) :
    (Alias.runAll (commands.execWithin levels) name inner outside).1 =
        String.join ((commands.execEach texts outside).1.map Outcome.message) ∧
      (Alias.runAll (commands.execWithin levels) name inner outside).2.2 =
        (commands.execEach texts outside).2 := by
  induction hexpands generalizing levels name outside with
  | nil => exact ⟨rfl, rfl⟩
  | @kept command rest texts hopens _ ih =>
      obtain ⟨-, hrest⟩ := List.forall_mem_cons.mp hfits
      obtain ⟨hmessage, hlast⟩ := ih hrest name (commands.exec command outside).outside
      -- At every level the command does what it does at top level.
      have hsame := exec_within_eq_exec (macros_eq_none hopens) levels outside
      simp only [Alias.runAll, hsame, execEach, List.map_cons, String.join_cons]
      exact ⟨congrArg _ hmessage, hlast⟩
  | @opened command inner rest first texts hopens _ _ ihinner ihrest =>
      obtain ⟨hhead, hrest⟩ := List.forall_mem_cons.mp hfits
      obtain ⟨other, value, hrun, rfl⟩ := macros_eq_some hopens
      cases levels with
      | zero => simp [Macros.fits, hopens] at hhead
      | succ levels =>
          simp only [Macros.fits, hopens, List.all_eq_true] at hhead
          -- The inner alias is entered with one level less, and its commands come first.
          obtain ⟨hfirst, hbetween⟩ := ihinner hhead other outside
          obtain ⟨hmessage, hlast⟩ := ihrest hrest name (commands.execEach first outside).2
          obtain ⟨template, -, -, hwithin⟩ := exec_within_alias hrun
          simp only [Alias.runAll, hwithin, enter, Run.after, Outcome.message, exec_each_append,
            List.map_append, String.join_append, hfirst, hbetween]
          exact ⟨congrArg _ hmessage, hlast⟩

/-- A run of an alias does what is done with the commands that it comes down to at top level. -/
theorem exec_expands (hrun : commands.aliasRun? command = some (name, value))
    (hfits : commands.macros.fits commands.settings.maxAliasDepth command = true)
    {texts : List String} (hexpands : commands.macros.Expands [command] texts)
    (outside : Outside σ) :
    (commands.exec command outside).outcome =
        .done (String.join ((commands.execEach texts outside).1.map Outcome.message)) ∧
      (commands.exec command outside).outside = (commands.execEach texts outside).2 := by
  have hopens : commands.macros command = some value.commands := by simp [macros, hrun]
  cases hexpands with
  | kept hother => cases hopens.symm.trans hother
  | @opened _ inner _ first texts hother hinner hrest =>
      rw [hopens, Option.some.injEq] at hother
      subst hother
      cases hrest
      rw [List.append_nil]
      obtain ⟨template, -, -, hwithin⟩ := exec_within_alias hrun
      rw [exec, hwithin]
      cases hlimit : commands.settings.maxAliasDepth with
      | zero => simp [hlimit, Macros.fits, hopens] at hfits
      | succ levels =>
          simp only [hlimit, Macros.fits, hopens, List.all_eq_true] at hfits
          obtain ⟨hmessage, hlast⟩ := run_all_expands hinner hfits name outside
          simp only [enter, Run.after, hmessage, hlast, and_self]

/-- A run of an alias is macro expansion. If aliases are nested in a command at most as deep as the
settings allow, there is one list of commands that it comes down to. Running the command makes the
same calls of handlers and leaves the same world as running these one after the other at top level,
and it is done with their messages put together in order, whatever they come to. -/
theorem alias_run_expands (commands : Commands σ) {command name : String} {value : Alias}
    (hrun : commands.aliasRun? command = some (name, value))
    (hdepth : ∀ depth, commands.macros.Nested command depth →
      depth ≤ commands.settings.maxAliasDepth) (outside : Outside σ) :
    ∃ texts, (∀ other, commands.macros.Expands [command] other ↔ other = texts) ∧
      (commands.exec command outside).outcome =
        .done (String.join ((commands.execEach texts outside).1.map Outcome.message)) ∧
      (commands.exec command outside).outside = (commands.execEach texts outside).2 ∧
      commands.calls command outside = commands.callsEach texts outside := by
  have hfits := (commands.macros.fits_iff _ command).mpr hdepth
  obtain ⟨texts, hexpands⟩ := Macros.expands_of_fits (List.forall_mem_singleton.mpr hfits)
  obtain ⟨houtcome, hlast⟩ := exec_expands hrun hfits hexpands outside
  refine ⟨texts, fun other ↦ ⟨fun h ↦ Macros.expands_unique h hexpands, fun h ↦ h ▸ hexpands⟩,
    houtcome, hlast, ?_⟩
  -- Recording handlers expand the same macros, so what is recorded agrees as the worlds do.
  have hsame : commands.recorded.macros = commands.macros := by
    unfold macros
    rw [alias_run_recorded]
  have hrecorded : commands.recorded.aliasRun? command = some (name, value) := by
    rw [alias_run_recorded, hrun]
  obtain ⟨-, hrecord⟩ :=
    exec_expands hrecorded (hsame ▸ hfits) (hsame ▸ hexpands) (outside.record [])
  rw [exec_recorded, exec_each_recorded] at hrecord
  exact congrArg Outside.recorded hrecord

/-- A handler that counts how often it was called, and says only whether it was called before. -/
def tickHandler (_ : Arguments) (outside : Outside Nat) : Outcome × Outside Nat :=
  (.done (if outside.own = 0 then "first," else "again,"), { outside with own := outside.own + 1 })

/-- An alias runs another one twice, and in between a name that is not defined and a command that
no route takes. Two levels of aliases may be opened, and that is just enough. -/
def sampleCommands : Commands Nat where
  settings := { maxAliasDepth := 2 }
  routes := ((Routes.empty.insert aliasRoute).2.2.insert
    ⟨⟨[.literal "tick"]⟩, .external tickHandler, ""⟩).2.2
  aliases := .ofList [("pair", ⟨["tick", "tick"], ""⟩),
    ("all", ⟨["vrun pair", "vrun none", "tock", "vrun pair"], ""⟩)]

/-- The sample alias comes down to six commands, four of which call the handler, each in the world
that the ones before left. -/
theorem sample_expansion :
    sampleCommands.macros.Expands ["vrun all"]
      ["tick", "tick", "vrun none", "tock", "tick", "tick"] ∧
    (sampleCommands.exec "vrun all" (.new 0)).outcome =
      .done "first,again,Unrecognized alias noneCan not find a handler for URI 'tock'again,again," ∧
    (sampleCommands.calls "vrun all" (.new 0)).map (·.world.own) = [0, 1, 2, 3] := by
  have hdepth : ∀ depth, sampleCommands.macros.Nested "vrun all" depth → depth ≤ 2 :=
    (Macros.fits_iff _ 2 _).mp (by decide)
  obtain ⟨texts, hexpands, houtcome, -, hcalls⟩ :=
    alias_run_expands sampleCommands (by decide : sampleCommands.aliasRun? "vrun all" =
      some ("all", ⟨["vrun pair", "vrun none", "tock", "vrun pair"], ""⟩)) hdepth (.new 0)
  have htexts : sampleCommands.macros.Expands ["vrun all"]
      ["tick", "tick", "vrun none", "tock", "tick", "tick"] := by
    have hpair : sampleCommands.macros.Expands ["tick", "tick"] ["tick", "tick"] :=
      .kept (by decide) (.kept (by decide) .nil)
    exact .opened (by decide : _ = some ["vrun pair", "vrun none", "tock", "vrun pair"])
      (.opened (by decide : _ = some ["tick", "tick"]) hpair (.kept (by decide) (.kept (by decide)
        (.opened (by decide : _ = some ["tick", "tick"]) hpair .nil)))) .nil
  obtain rfl := (hexpands _).mp htexts
  refine ⟨htexts, houtcome.trans (by decide), ?_⟩
  rw [hcalls]
  decide

end Commands

end Switchboard
