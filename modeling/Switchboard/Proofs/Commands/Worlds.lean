import Switchboard.Proofs.Commands.Dispatch

/-!
# The same command in different worlds

Handlers may look at the world and change it, and nothing is said about either. Here it is taken as
known what each handler of a collaborator does in one call, and concluded what a whole command does,
through all levels of aliases. If no handler lets the world tell on its outcome, neither does any
command (`exec_alike`), and whatever is kept by every handler is kept by every command
(`exec_keeps`).
-/

namespace Switchboard

variable {σ : Type}

/-- Two outcomes say the same: they are equal, or both are still to come. -/
def Outcome.Alike (first second : Outcome) : Prop :=
  first = second ∨ (first.isPending = true ∧ second.isPending = true)

namespace Outcome.Alike

variable {first second : Outcome}

/-- Every outcome says the same as itself. -/
protected theorem refl (outcome : Outcome) : outcome.Alike outcome :=
  .inl rfl

/-- Outcomes that say the same have the same message, for a pending one has none. -/
theorem message_eq (h : first.Alike second) : first.message = second.message := by
  cases h with
  | inl heq => rw [heq]
  | inr hpending => cases first <;> cases second <;> simp_all [isPending, message]

/-- Outcomes that say the same are of one kind. -/
theorem kind_eq (h : first.Alike second) : first.kind = second.kind := by
  cases h with
  | inl heq => rw [heq]
  | inr hpending => cases first <;> cases second <;> simp_all [isPending, kind]

/-- Outcomes that say the same are equal if one of them is not to come. -/
theorem eq_of_final (h : first.Alike second) (hfinal : first.isPending = false) :
    first = second := by
  cases h with
  | inl heq => exact heq
  | inr hpending => exact absurd hpending.1 (by simp [hfinal])

end Outcome.Alike

/-- What a handler of a collaborator does. -/
abbrev Effect (σ : Type) := Arguments → Outside σ → Outcome × Outside σ

namespace Effect

/-- The world does not tell on the outcome. -/
def Steady (effect : Effect σ) : Prop :=
  ∀ arguments first second, (effect arguments first).1.Alike (effect arguments second).1

/-- The world before and the world after stand in a relation. -/
def Keeps (effect : Effect σ) (relation : Outside σ → Outside σ → Prop) : Prop :=
  ∀ arguments outside, relation outside (effect arguments outside).2

end Effect

namespace Commands

/-- Every handler of a collaborator that is bound has a property. -/
def Handled (commands : Commands σ) (property : Effect σ → Prop) : Prop :=
  ∀ route ∈ commands.routes.entries, ∀ effect, route.handler = .external effect → property effect

variable {commands : Commands σ} {command : String} {outside : Outside σ}

/-- The route that takes a command is bound. -/
theorem route_mem {route : Route σ} {arguments : Arguments}
    (hroute : commands.route? command = some (route, arguments)) :
    route ∈ commands.routes.entries := by
  obtain ⟨other, hmem, hother⟩ := List.exists_of_findSome?_eq_some hroute
  simp only [Option.map_eq_some_iff, Prod.mk.injEq] at hother
  obtain ⟨values, -, rfl, -⟩ := hother
  exact hmem

/-- Inserting a route adds no other one. -/
theorem mem_inserted {routes : Routes σ} {route other : Route σ}
    (hmem : other ∈ (routes.insert route).2.2.entries) :
    other = route ∨ other ∈ routes.entries := by
  unfold Routes.insert at hmem
  split at hmem
  · exact (List.mem_or_eq_of_mem_set hmem).symm
  · exact (List.mem_append.mp hmem).symm.imp_left List.mem_singleton.mp

/-- Binding a handler adds no other one. -/
theorem handled_bind {property : Effect σ → Prop} (h : commands.Handled property)
    (matcher : Matcher) (text : String) {handler : Handler σ}
    (hnew : ∀ effect, handler = .external effect → property effect) (description : String) :
    (commands.bind matcher text handler description).2.2.Handled property := by
  intro route hmem
  simp only [bind, Routes.bind] at hmem
  cases hcompile : Template.compile matcher text with
  | error fault =>
      rw [hcompile] at hmem
      exact h route hmem
  | ok template =>
      rw [hcompile] at hmem
      cases mem_inserted hmem with
      | inl hbound => exact hbound ▸ hnew
      | inr hold => exact h route hold

/-! ### Outcomes -/

/-- If the world does not tell on the outcomes of the commands of an alias, it does not tell on
their messages together. -/
theorem run_all_message {exec : String → Outside σ → Run σ}
    (hexec : ∀ command first second,
      (exec command first).outcome.Alike (exec command second).outcome)
    (name : String) (texts : List String) (first second : Outside σ) :
    (Alias.runAll exec name texts first).1 = (Alias.runAll exec name texts second).1 := by
  induction texts generalizing first second with
  | nil => rfl
  | cons command rest ih =>
      show (exec command first).outcome.message ++ _ = (exec command second).outcome.message ++ _
      rw [(hexec command first second).message_eq, ih]

/-- If the world does not tell on what entering an alias comes to, it does not tell on what a
command comes to. -/
theorem exec_within_alike_of_enter {levels : Nat} (hsteady : commands.Handled Effect.Steady)
    (henter : ∀ name value first second, (commands.enter levels name value first).outcome =
      (commands.enter levels name value second).outcome)
    (command : String) (first second : Outside σ) :
    (commands.execWithin levels command first).outcome.Alike
      (commands.execWithin levels command second).outcome := by
  simp only [exec_within_route]
  cases hroute : commands.route? command with
  | none => exact .refl _
  | some found =>
      obtain ⟨⟨template, handler, description⟩, arguments⟩ := found
      cases handler with
      | external effect => exact hsteady _ (route_mem hroute) effect rfl arguments first second
      | runAlias =>
          left
          show (commands.runAlias (commands.enter levels) arguments first).outcome =
            (commands.runAlias (commands.enter levels) arguments second).outcome
          unfold runAlias
          split
          · rename_i name hvalues
            cases commands.aliases.get? name with
            | none => rfl
            | some value => exact henter name value first second
          · rfl

/-- At every level, the world does not tell on what a command comes to. -/
theorem exec_within_alike (hsteady : commands.Handled Effect.Steady) (levels : Nat)
    (command : String) (first second : Outside σ) :
    (commands.execWithin levels command first).outcome.Alike
      (commands.execWithin levels command second).outcome := by
  induction levels generalizing command first second with
  | zero =>
      have henter : ∀ name value first second, (commands.enter 0 name value first).outcome =
          (commands.enter 0 name value second).outcome := fun _ _ _ _ ↦ rfl
      exact exec_within_alike_of_enter hsteady henter command first second
  | succ levels ih =>
      refine exec_within_alike_of_enter hsteady (fun name value first second ↦ ?_) command first
        second
      exact congrArg Outcome.done (run_all_message ih name value.commands first second)

/-- The world does not tell on what a command comes to. -/
theorem exec_alike (hsteady : commands.Handled Effect.Steady) (command : String)
    (first second : Outside σ) :
    (commands.exec command first).outcome.Alike (commands.exec command second).outcome :=
  exec_within_alike hsteady _ command first second

/-- Only the handler to which a command goes itself leaves it pending; what an alias runs does
not. -/
theorem exec_pending (hpending : (commands.exec command outside).outcome.isPending = true) :
    ∃ route effect arguments, commands.route? command = some (route, arguments) ∧
      route.handler = .external effect ∧
      ∀ world, (commands.exec command world).outcome = (effect arguments world).1 ∧
        (commands.exec command world).outside = (effect arguments world).2 := by
  simp only [exec, exec_within_route] at hpending ⊢
  cases hroute : commands.route? command with
  | none => simp [hroute, Run.after, Run.failed, Outcome.isPending] at hpending
  | some found =>
      obtain ⟨⟨template, handler, description⟩, arguments⟩ := found
      cases handler with
      | external effect => exact ⟨_, effect, arguments, rfl, rfl, fun world ↦ ⟨rfl, rfl⟩⟩
      | runAlias =>
          rw [hroute] at hpending
          replace hpending : (commands.runAlias (commands.enter commands.settings.maxAliasDepth)
            arguments outside).outcome.isPending = true := hpending
          unfold runAlias at hpending
          split at hpending
          · split at hpending
            · cases hpending
            · cases hlevels : commands.settings.maxAliasDepth <;>
                rw [hlevels] at hpending <;> cases hpending
          · cases hpending

/-! ### Worlds -/

variable {relation : Outside σ → Outside σ → Prop} (hrefl : ∀ world, relation world world)
  (htrans : ∀ {first second third}, relation first second → relation second third →
    relation first third)

include hrefl htrans in
/-- What every command of an alias keeps they keep together. -/
theorem run_all_keeps {exec : String → Outside σ → Run σ}
    (hexec : ∀ command outside, relation outside (exec command outside).outside)
    (name : String) (texts : List String) (outside : Outside σ) :
    relation outside (Alias.runAll exec name texts outside).2.2 := by
  induction texts generalizing outside with
  | nil => exact hrefl outside
  | cons command rest ih => exact htrans (hexec command outside) (ih _)

include hrefl in
/-- What entering an alias keeps and every handler keeps is kept by a command. -/
theorem exec_within_keeps_of_enter {levels : Nat}
    (hkeeps : commands.Handled (Effect.Keeps · relation))
    (henter : ∀ name value outside,
      relation outside (commands.enter levels name value outside).outside)
    (command : String) (outside : Outside σ) :
    relation outside (commands.execWithin levels command outside).outside := by
  rw [exec_within_route]
  cases hroute : commands.route? command with
  | none => exact hrefl outside
  | some found =>
      obtain ⟨⟨template, handler, description⟩, arguments⟩ := found
      cases handler with
      | external effect => exact hkeeps _ (route_mem hroute) effect rfl arguments outside
      | runAlias =>
          show relation outside
            (commands.runAlias (commands.enter levels) arguments outside).outside
          unfold runAlias
          split
          · rename_i name hvalues
            cases commands.aliases.get? name with
            | none => exact hrefl outside
            | some value => exact henter name value outside
          · exact hrefl outside

include hrefl htrans in
/-- What every handler keeps is kept by every command, if it holds of a world that nothing was done
to and goes on from world to world. -/
theorem exec_keeps (hkeeps : commands.Handled (Effect.Keeps · relation)) (command : String)
    (outside : Outside σ) : relation outside (commands.exec command outside).outside := by
  unfold exec
  induction commands.settings.maxAliasDepth generalizing command outside with
  | zero =>
      have henter : ∀ name value outside,
          relation outside (commands.enter 0 name value outside).outside :=
        fun _ _ outside ↦ hrefl outside
      exact exec_within_keeps_of_enter hrefl hkeeps henter command outside
  | succ levels ih =>
      refine exec_within_keeps_of_enter hrefl hkeeps (fun name value outside ↦ ?_) command outside
      exact run_all_keeps hrefl htrans ih name value.commands outside

end Commands

end Switchboard
