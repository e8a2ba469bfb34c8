import Mathlib.Data.List.Basic
import Switchboard.Proofs.Board.Scene

/-!
# The ledger of callbacks

Every callback that is given to a board has one fate: it is served, it is discarded, or it is
still parked. `Scene.Accounted` says so of a history and the scene at its end, as a permutation of
the callbacks given and of those in the three places, and says that outside a shutdown only
refused callbacks are discarded. It is kept by every action. If callbacks are told apart by the
number of the action that gave them (`numbered`), the permutation leaves no room for a callback
with two fates.
-/

namespace Switchboard

open List (Perm)
open scoped List

variable {σ κ : Type}

namespace Note

/-- The callback whose submission a note tells of. -/
@[simp] def given? : Note σ κ → Option κ
  | .refused callback _ | .accepted callback .. => some callback
  | _ => none

/-- The callback whose fate a note tells. -/
@[simp] def closed? : Note σ κ → Option κ
  | .served callback _ | .discarded callback _ => some callback
  | _ => none

/-- The look that a note tells of. -/
@[simp] def look? : Note σ κ → Option (Look σ)
  | .looked look => some look
  | _ => none

end Note

/-- What notes of looks tell of are the looks. -/
theorem looks_looked (looks : List (Look σ)) :
    (looks.map (Note.looked (κ := κ))).filterMap Note.look? = looks := by
  simp [List.filterMap_map, Function.comp_def]

/-- The callbacks served are among those whose fate is told. -/
theorem served_sublist (told : List (Note σ κ)) :
    ((told.filterMap Note.served?).map Prod.fst).Sublist (told.filterMap Note.closed?) := by
  induction told with
  | nil => exact .slnil
  | cons note rest ih =>
      cases note with
      | served => exact ih.cons_cons _
      | discarded => exact ih.cons _
      | _ => exact ih

/-- A turn gives no callback. -/
theorem given_notes {α : Type} (turn : Turn σ κ α) (stopping : Bool) :
    (turn.notes stopping).filterMap Note.given? = [] := by
  simp [Turn.notes, List.filterMap_map, Function.comp_def]

/-- What receiving completions takes from the slot it gives to a callback. -/
theorem receives_parked {board after : Board σ κ} {delivered : List (κ × Outcome)}
    (h : board.Receives after delivered) :
    board.parked.toList = delivered.map Prod.fst ++ after.parked.toList := by
  cases h with
  | nothing => rfl
  | dropped => rfl
  | served hparked => rw [hparked]; rfl

namespace Scene

/-- The callbacks given are those served or discarded and the one that is parked, and outside a
shutdown the callbacks discarded are those refused. -/
structure Accounted (told : List (Note σ κ)) (scene : Scene σ κ) : Prop where
  conserved : (told.filterMap Note.given?).Perm
    (told.filterMap Note.closed? ++ scene.board.parked.toList)
  refused : ∀ callback fault, .refused callback fault ∈ told → .discarded callback false ∈ told
  discarded : ∀ callback, .discarded callback false ∈ told →
    ∃ fault, .refused callback fault ∈ told

/-- A scene in which nothing is parked is accounted for as long as nothing is told. -/
theorem accounted_nil {scene : Scene σ κ} (hparked : scene.board.parked = none) :
    Accounted [] scene where
  conserved := by simp [hparked]
  refused _ _ h := nomatch h
  discarded _ h := nomatch h

variable [Producer σ] {scene next : Scene σ κ} {notes : List (Note σ κ)}

/-- Whatever happens to a callback is in the books. -/
theorem conserved_becomes (h : scene.Becomes notes next) :
    (scene.board.parked.toList ++ notes.filterMap Note.given?).Perm
      (notes.filterMap Note.closed? ++ next.board.parked.toList) := by
  cases h with
  | submitted hsubmitted =>
      cases hsubmitted with
      | refused => simp [List.filterMap_cons]
      | served outside hrunning hparked => simp [List.filterMap_cons, hparked]
      | handed promise outside hrunning hparked => simp [List.filterMap_cons, hparked]
  | received hreceives =>
      rw [receives_parked hreceives]
      simp [List.filterMap_map, Function.comp_def]
  | stopped => simp [List.filterMap_map, Function.comp_def, Board.shutdown]
  | advanced => simp [List.filterMap_map, Function.comp_def]
  | aborted => simp
  | elsewhere outside hfollower hparked => simp [hparked]

/-- A callback is refused and discarded at once, and none is discarded otherwise before a
shutdown. -/
theorem refused_becomes (h : scene.Becomes notes next) (callback : κ) :
    (∃ fault, .refused callback fault ∈ notes) ↔ .discarded callback false ∈ notes := by
  cases h with
  | submitted hsubmitted => cases hsubmitted <;> simp
  | received | stopped | advanced => simp
  | aborted | elsewhere => simp

/-- The books are kept whatever happens. -/
theorem accounted_becomes {told : List (Note σ κ)} (haccounted : Accounted told scene)
    (h : scene.Becomes notes next) : Accounted (told ++ notes) next where
  conserved := by
    simp only [List.filterMap_append]
    calc
      told.filterMap Note.given? ++ notes.filterMap Note.given?
      _ ~ (told.filterMap Note.closed? ++ scene.board.parked.toList) ++
            notes.filterMap Note.given? := haccounted.conserved.append_right _
      _ = told.filterMap Note.closed? ++
            (scene.board.parked.toList ++ notes.filterMap Note.given?) := List.append_assoc ..
      _ ~ told.filterMap Note.closed? ++
            (notes.filterMap Note.closed? ++ next.board.parked.toList) :=
          (conserved_becomes h).append_left _
      _ = told.filterMap Note.closed? ++ notes.filterMap Note.closed? ++
            next.board.parked.toList := (List.append_assoc ..).symm
  refused callback fault hmem := by
    rcases List.mem_append.mp hmem with hold | hnew
    · exact List.mem_append_left _ (haccounted.refused callback fault hold)
    · exact List.mem_append_right _ ((refused_becomes h callback).mp ⟨fault, hnew⟩)
  discarded callback hmem := by
    rcases List.mem_append.mp hmem with hold | hnew
    · obtain ⟨fault, hrefused⟩ := haccounted.discarded callback hold
      exact ⟨fault, List.mem_append_left _ hrefused⟩
    · obtain ⟨fault, hrefused⟩ := (refused_becomes h callback).mpr hnew
      exact ⟨fault, List.mem_append_right _ hrefused⟩

/-- A submission gives its callback. -/
theorem submitted_given {command : String} {callback : κ}
    (h : scene.Submitted command callback notes next) :
    notes.filterMap Note.given? = [callback] := by
  cases h <;> rfl

/-- An action gives the callback that it has. -/
theorem notes_given (scene : Scene σ κ) (action : Action σ κ) :
    (scene.notes action).filterMap Note.given? = action.callback?.toList := by
  cases action with
  | submit command callback => exact submitted_given (scene.submitted command callback)
  | pump | round | collect | shutdown => exact given_notes _ _
  | advance => simp [notes, List.filterMap_map, Function.comp_def, Action.callback?]
  | _ => rfl

/-- A history tells of the callbacks given, in the order in which they were given. -/
theorem history_given (scene : Scene σ κ) (actions : List (Action σ κ)) :
    (scene.history actions).filterMap Note.given? = actions.filterMap Action.callback? := by
  induction actions generalizing scene with
  | nil => rfl
  | cons action rest ih =>
      rw [history, List.filterMap_append, notes_given, ih, List.filterMap_cons]
      cases action.callback? <;> rfl

/-- The books of every course are kept. -/
theorem accounted_run (settings : Settings) (aliases : AliasTable) (outside : Outside σ)
    (actions : List (Action σ κ)) :
    Accounted ((start settings aliases outside).history actions)
      ((start settings aliases outside).run actions) :=
  run_induction (motive := Accounted) (accounted_nil rfl)
    (fun _ _ _ _ haccounted h ↦ accounted_becomes haccounted h) actions

end Scene

/-! ### Callbacks with numbers -/

/-- The actions with each callback numbered by the place of its action. -/
def numbered : Nat → List (Action σ κ) → List (Action σ (Nat × κ))
  | _, [] => []
  | number, action :: rest => action.map (number, ·) :: numbered (number + 1) rest

/-- Numbers go up. -/
theorem le_of_mem_numbered {number : Nat} {actions : List (Action σ κ)} {callback : Nat × κ}
    (h : callback ∈ (numbered number actions).filterMap Action.callback?) :
    number ≤ callback.1 := by
  induction actions generalizing number with
  | nil => cases h
  | cons action rest ih =>
      cases action with
      | submit command own =>
          simp only [numbered, Action.map, List.filterMap_cons, Action.callback?,
            List.mem_cons] at h
          rcases h with rfl | hrest
          · exact Nat.le_refl number
          · exact Nat.le_of_succ_le (ih hrest)
      | _ => exact Nat.le_of_succ_le (ih h)

/-- No two numbered callbacks are the same. -/
theorem numbered_nodup (number : Nat) (actions : List (Action σ κ)) :
    ((numbered number actions).filterMap Action.callback?).Nodup := by
  induction actions generalizing number with
  | nil => exact .nil
  | cons action rest ih =>
      cases action with
      | submit command own =>
          simp only [numbered, Action.map, List.filterMap_cons, Action.callback?,
            List.nodup_cons]
          -- The numbers of the rest are greater than that of the head.
          refine ⟨fun hmem ↦ ?_, ih (number + 1)⟩
          exact Nat.not_succ_le_self number (le_of_mem_numbered hmem)
      | _ => exact ih (number + 1)

/-- If a partial function finds no value twice in a list, it finds each value in one member only. -/
theorem eq_of_nodup_filterMap {α β : Type} {f : α → Option β} {members : List α}
    (hnodup : (members.filterMap f).Nodup) {first second : α} (hfirst : first ∈ members)
    (hsecond : second ∈ members) {value : β} (hvalue : f first = some value)
    (hsame : f second = some value) : first = second := by
  induction members with
  | nil => cases hfirst
  | cons member rest ih =>
      have hrest : (rest.filterMap f).Nodup := hnodup.sublist (by
        rw [List.filterMap_cons]
        split
        · exact List.Sublist.refl _
        · exact List.sublist_cons_self ..)
      -- A value found at the head is found nowhere in the rest.
      have hunique {other : α} (hother : other ∈ rest) (hhead : f member = some value)
          (htail : f other = some value) : False := by
        rw [List.filterMap_cons_some hhead, List.nodup_cons] at hnodup
        exact hnodup.1 (List.mem_filterMap.mpr ⟨other, hother, htail⟩)
      rcases List.mem_cons.mp hfirst with rfl | hleft
      · rcases List.mem_cons.mp hsecond with rfl | hright
        · rfl
        · exact (hunique hright hvalue hsame).elim
      · rcases List.mem_cons.mp hsecond with rfl | hright
        · exact (hunique hleft hsame hvalue).elim
        · exact ih hrest hleft hright

/-! ### One fate each -/

namespace Scene.Accounted

variable {told : List (Note σ κ)} {scene : Scene σ κ}

/-- If no callback is given twice, none has two fates. -/
theorem closed_nodup (haccounted : Accounted told scene)
    (hgiven : (told.filterMap Note.given?).Nodup) : (told.filterMap Note.closed?).Nodup :=
  (List.nodup_append.mp (haccounted.conserved.nodup_iff.mp hgiven)).1

/-- If no callback is given twice, none is served twice. -/
theorem served_nodup (haccounted : Accounted told scene)
    (hgiven : (told.filterMap Note.given?).Nodup) :
    ((told.filterMap Note.served?).map Prod.fst).Nodup :=
  (haccounted.closed_nodup hgiven).sublist (served_sublist told)

/-- A callback that is discarded is not served. -/
theorem unserved_of_discarded (haccounted : Accounted told scene)
    (hgiven : (told.filterMap Note.given?).Nodup) {callback : κ} {stopping : Bool}
    (hdiscarded : .discarded callback stopping ∈ told) {outcome : Outcome} :
    .served callback outcome ∉ told := by
  intro hserved
  have heq := eq_of_nodup_filterMap (haccounted.closed_nodup hgiven) hdiscarded hserved rfl rfl
  cases heq

/-- An accepted callback was not refused. -/
theorem not_refused_of_accepted (hgiven : (told.filterMap Note.given?).Nodup) {callback : κ}
    {command : String} {returned : Outcome} {reached : Bool}
    (haccepted : .accepted callback command returned reached ∈ told) {fault : CommandFault} :
    .refused callback fault ∉ told := by
  intro hrefused
  have heq := eq_of_nodup_filterMap hgiven haccepted hrefused rfl rfl
  cases heq

/-- An accepted callback is served, or parked, or discarded by a shutdown. -/
theorem accepted_fate (haccounted : Accounted told scene)
    (hgiven : (told.filterMap Note.given?).Nodup) {callback : κ} {command : String}
    {returned : Outcome} {reached : Bool}
    (haccepted : .accepted callback command returned reached ∈ told) :
    (∃ outcome, .served callback outcome ∈ told) ∨ scene.board.parked = some callback ∨
      .discarded callback true ∈ told := by
  have hgave : callback ∈ told.filterMap Note.given? :=
    List.mem_filterMap.mpr ⟨_, haccepted, rfl⟩
  rcases List.mem_append.mp (haccounted.conserved.mem_iff.mp hgave) with hclosed | hparked
  · -- Discarded outside a shutdown it would have been refused as well.
    obtain ⟨note, hnote, hfate⟩ := List.mem_filterMap.mp hclosed
    cases note with
    | served _ outcome =>
        cases hfate
        exact .inl ⟨outcome, hnote⟩
    | discarded _ stopping =>
        cases hfate
        cases stopping with
        | true => exact .inr (.inr hnote)
        | false =>
            obtain ⟨fault, hrefused⟩ := haccounted.discarded callback hnote
            exact absurd hrefused (not_refused_of_accepted hgiven haccepted)
    | _ => cases hfate
  · exact .inr (.inl (Option.mem_toList.mp hparked))

end Scene.Accounted

end Switchboard
