import Mathlib.Data.List.Nodup
import Mathlib.Data.List.Perm.Basic
import Switchboard.Console.Clock
import Switchboard.Proofs.Outside

/-!
# Timers keep their promises

A timer resolves a channel, and a channel takes one outcome, so a promise is kept only if no two
timers have one channel and nobody else sends on it. `Clock.Sound` says this of a world and is kept
by starting timers and by the course of time. `Clock.Due` says that an outcome is on its way: a
running timer will send it, or it was sent. It stays so whatever time passes (`due_elapse`), until
the outcome is received (`await_due`).
-/

namespace Switchboard

namespace Console.Clock

variable {outside : Outside Clock} {timer : Timer} {timers due running : List Timer} {id : Nat}
  {outcome : Outcome}

/-- Each timer has a channel of its own that waits for it. -/
structure Armed (timers : List Timer) (outside : Outside Clock) : Prop where
  waiting : ∀ timer ∈ timers, outside.channel timer.channel = .waiting
  distinct : (timers.map Timer.channel).Nodup

/-- An outcome is on its way over a channel: it has been sent, or one of the timers will send it. -/
inductive Due (timers : List Timer) (id : Nat) (outcome : Outcome) (outside : Outside Clock) :
    Prop where
  | sent : outside.channel id = .holding outcome → Due timers id outcome outside
  | running (timer : Timer) : timer ∈ timers → timer.channel = id → message timer = outcome →
      Due timers id outcome outside

/-- The executor is up and the timers of the world are armed. -/
structure Sound (outside : Outside Clock) : Prop where
  executor : outside.executor = true
  armed : Armed outside.own.timers outside

/-- A world without timers is sound. -/
theorem sound_new : Sound (.new .start) where
  executor := rfl
  armed := ⟨fun _ hmem ↦ (nomatch hmem), List.nodup_nil⟩

/-! ### Firing -/

/-- Resolve the channels of some timers. -/
def resolveAll (due : List Timer) (outside : Outside Clock) : Outside Clock :=
  due.foldl (fun outside timer ↦ outside.resolve timer.channel (message timer)) outside

/-- When a timer fires the others stay armed. -/
theorem armed_resolve (h : Armed (timer :: timers) outside) :
    Armed timers (outside.resolve timer.channel (message timer)) := by
  obtain ⟨hnew, hdistinct⟩ := List.nodup_cons.mp h.distinct
  refine ⟨fun other hmem ↦ ?_, hdistinct⟩
  have hother : other.channel ≠ timer.channel := by
    intro heq
    exact hnew (heq ▸ List.mem_map_of_mem hmem)
  rw [Outside.channel_resolve_other hother]
  exact h.waiting other (List.mem_cons_of_mem _ hmem)

/-- When a timer fires, what was on its way still is. -/
theorem due_resolve (h : Armed (timer :: timers) outside)
    (hdue : Due (timer :: timers) id outcome outside) :
    Due timers id outcome (outside.resolve timer.channel (message timer)) := by
  have hwaiting := h.waiting timer List.mem_cons_self
  cases hdue with
  | sent hsent =>
      have hother : id ≠ timer.channel := by
        intro heq
        rw [heq, hwaiting] at hsent
        cases hsent
      exact .sent (by rw [Outside.channel_resolve_other hother, hsent])
  | running other hmem hchannel hmessage =>
      cases List.mem_cons.mp hmem with
      | inl heq =>
          subst heq hchannel hmessage
          exact .sent (Outside.channel_resolve_self hwaiting)
      | inr hrest => exact .running other hrest hchannel hmessage

/-- When some timers fire the others stay armed, and what was on its way still is. -/
theorem resolve_all (h : Armed (due ++ running) outside) :
    Armed running (resolveAll due outside) ∧
      ∀ id outcome, Due (due ++ running) id outcome outside →
        Due running id outcome (resolveAll due outside) := by
  induction due generalizing outside with
  | nil => exact ⟨h, fun _ _ hdue ↦ hdue⟩
  | cons timer rest ih =>
      obtain ⟨harmed, hkept⟩ := ih (armed_resolve h)
      exact ⟨harmed, fun id outcome hdue ↦ hkept id outcome (due_resolve h hdue)⟩

/-- Firing does not touch the executor and the clock. -/
theorem resolve_all_own (due : List Timer) (outside : Outside Clock) :
    (resolveAll due outside).executor = outside.executor ∧
      (resolveAll due outside).own = outside.own := by
  induction due generalizing outside with
  | nil => exact ⟨rfl, rfl⟩
  | cons timer rest ih =>
      obtain ⟨hexecutor, hown⟩ := ih (outside.resolve timer.channel (message timer))
      obtain ⟨hfirst, hclock⟩ := outside.resolve_own timer.channel (message timer)
      exact ⟨hexecutor.trans hfirst, hown.trans hclock⟩

/-- Firing resolves the channels of some timers and lets the others run on. -/
theorem fire_cases (outside : Outside Clock) :
    ∃ due running, (due ++ running).Perm outside.own.timers ∧
      fire outside =
        resolveAll due { outside with own := { outside.own with timers := running } } := by
  refine ⟨_, _, List.filter_append_perm (fun timer ↦ timer.due ≤ outside.own.now) _, ?_⟩
  simp only [fire, List.partition_eq_filter_filter]
  rfl

/-- Firing keeps a world sound, and what was on its way still is. -/
theorem fire_keeps (h : Sound outside) :
    Sound (fire outside) ∧ ∀ id outcome, Due outside.own.timers id outcome outside →
      Due (fire outside).own.timers id outcome (fire outside) := by
  obtain ⟨due, running, hperm, hfire⟩ := fire_cases outside
  have harmed : Armed (due ++ running)
      { outside with own := { outside.own with timers := running } } :=
    ⟨fun timer hmem ↦ h.armed.waiting timer (hperm.subset hmem),
      (hperm.map _).nodup_iff.mpr h.armed.distinct⟩
  obtain ⟨hrunning, hkept⟩ := resolve_all harmed
  obtain ⟨hexecutor, hown⟩ :=
    resolve_all_own due { outside with own := { outside.own with timers := running } }
  rw [hfire, hown]
  refine ⟨⟨hexecutor.trans h.executor, by rw [hown]; exact hrunning⟩, fun id outcome hdue ↦ ?_⟩
  refine hkept id outcome ?_
  cases hdue with
  | sent hsent => exact .sent hsent
  | running timer hmem hchannel hmessage =>
      exact .running timer (hperm.symm.subset hmem) hchannel hmessage

/-- Time passes in a sound world, and what was on its way still is. -/
theorem elapse_keeps (h : Sound outside) (milliseconds : Nat) :
    Sound (elapse milliseconds outside) ∧
      ∀ id outcome, Due outside.own.timers id outcome outside →
        Due (elapse milliseconds outside).own.timers id outcome (elapse milliseconds outside) := by
  have hlater : Sound
      { outside with own := { outside.own with now := outside.own.now + milliseconds } } :=
    ⟨h.executor, h.armed.waiting, h.armed.distinct⟩
  obtain ⟨hsound, hkept⟩ := fire_keeps hlater
  refine ⟨hsound, fun id outcome hdue ↦ hkept id outcome ?_⟩
  cases hdue with
  | sent hsent => exact .sent hsent
  | running timer hmem hchannel hmessage => exact .running timer hmem hchannel hmessage

/-! ### Starting timers and receiving outcomes -/

/-- Starting a timer keeps the world sound. -/
theorem sound_sleep (h : Sound outside) (span : Nat) : Sound (sleep span outside).2 := by
  have hopened (timer : Timer) (hmem : timer ∈ outside.own.timers) :
      timer.channel < outside.channels.length :=
    Outside.lt_of_waiting (h.armed.waiting timer hmem)
  refine ⟨h.executor, fun timer hmem ↦ ?_, ?_⟩
  · show outside.openChannel.2.channel timer.channel = .waiting
    cases List.mem_append.mp hmem with
    | inl hold =>
        rw [Outside.channel_open_other (hopened timer hold)]
        exact h.armed.waiting timer hold
    | inr hnew =>
        rw [List.mem_singleton.mp hnew]
        exact Outside.channel_open_new outside
  · show ((outside.own.timers ++ [_]).map Timer.channel).Nodup
    rw [List.map_append, List.map_singleton, List.nodup_append_comm, List.singleton_append,
      List.nodup_cons]
    refine ⟨fun hmem ↦ ?_, h.armed.distinct⟩
    obtain ⟨timer, htimer, hchannel⟩ := List.mem_map.mp hmem
    have hlt := hopened timer htimer
    rw [hchannel] at hlt
    exact Nat.lt_irrefl _ hlt

/-- The outcome of a timer is on its way when the timer was started. -/
theorem due_sleep (span : Nat) (outside : Outside Clock) :
    Due (sleep span outside).2.own.timers outside.channels.length
      (.done ("slept " ++ toString span ++ " ms")) (sleep span outside).2 :=
  .running _ (List.mem_append_right _ List.mem_cons_self) rfl rfl

/-- Setting a channel that does not wait keeps the world sound. -/
theorem sound_set (h : Sound outside) (hwaiting : outside.channel id ≠ .waiting)
    (channel : Channel) : Sound (outside.setChannel id channel) := by
  refine ⟨h.executor, fun timer hmem ↦ ?_, h.armed.distinct⟩
  have hold := h.armed.waiting timer hmem
  have hother : timer.channel ≠ id := by
    intro heq
    exact hwaiting (heq ▸ hold)
  rw [Outside.channel_set_other hother]
  exact hold

/-- Looking for an outcome that is on its way finds nothing yet, or the outcome. -/
theorem await_due (h : Sound outside) (hdue : Due outside.own.timers id outcome outside) :
    (Promise.channel id).await outside = (.notYet, outside) ∨
      ∃ after, (Promise.channel id).await outside = (.ready outcome, after) ∧ Sound after := by
  cases hdue with
  | sent hsent =>
      have hwaiting : outside.channel id ≠ .waiting := hsent.trans_ne nofun
      exact .inr ⟨_, Promise.await_holding hsent, sound_set h hwaiting _⟩
  | running timer hmem hchannel hmessage =>
      left
      have hwaiting := h.armed.waiting timer hmem
      rw [hchannel] at hwaiting
      exact Promise.await_waiting hwaiting

end Console.Clock

end Switchboard
