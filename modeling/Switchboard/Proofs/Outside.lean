import Mathlib.Data.List.GetD
import Switchboard.Outside

/-!
# What is done to channels

Opening a channel, sending on it and leaving it change the state of this one channel. The lemmas
here say so of `Outside.setChannel`, `Outside.resolve`, `Outside.abandon` and `Outside.openChannel`,
so that nobody has to look into the list of channels, and what a look that waits comes to in each
state of a channel.
-/

namespace Switchboard

namespace Outside

variable {σ : Type} {outside : Outside σ} {id other : Nat} {outcome : Outcome}

/-- A channel that was never opened reads as abandoned. -/
theorem channel_unopened (hlarge : outside.channels.length ≤ id) :
    outside.channel id = .abandoned :=
  List.getD_eq_default _ _ hlarge

/-- A channel that waits was opened. -/
theorem lt_of_waiting (hwaiting : outside.channel id = .waiting) :
    id < outside.channels.length := by
  refine Nat.lt_of_not_le fun hlarge ↦ ?_
  rw [channel_unopened hlarge] at hwaiting
  cases hwaiting

/-- A channel that holds an outcome was opened. -/
theorem lt_of_holding (hholding : outside.channel id = .holding outcome) :
    id < outside.channels.length := by
  refine Nat.lt_of_not_le fun hlarge ↦ ?_
  rw [channel_unopened hlarge] at hholding
  cases hholding

/-- Only the state of the one channel is set. -/
theorem channel_set_other (hother : other ≠ id) (channel : Channel) :
    (outside.setChannel id channel).channel other = outside.channel other := by
  show (outside.channels.set id channel).getD other .abandoned = _
  rw [List.getD_eq_getElem?_getD, List.getElem?_set_ne hother.symm]
  exact (List.getD_eq_getElem?_getD ..).symm

/-- A channel that was opened is in the state that is set. -/
theorem channel_set_self (hlt : id < outside.channels.length) (channel : Channel) :
    (outside.setChannel id channel).channel id = channel := by
  show (outside.channels.set id channel).getD id .abandoned = _
  rw [List.getD_eq_getElem?_getD, List.getElem?_set_self hlt]
  rfl

/-- A channel that waits holds what is sent on it. -/
theorem channel_resolve_self (hwaiting : outside.channel id = .waiting) :
    (outside.resolve id outcome).channel id = .holding outcome := by
  rw [resolve, hwaiting]
  exact channel_set_self (lt_of_waiting hwaiting) _

/-- A channel that waits is abandoned when its resolver goes away. -/
theorem channel_abandon_self (hwaiting : outside.channel id = .waiting) :
    (outside.abandon id).channel id = .abandoned := by
  rw [abandon, hwaiting]
  exact channel_set_self (lt_of_waiting hwaiting) _

/-- Sending on one channel leaves the others alone. -/
theorem channel_resolve_other (hother : other ≠ id) :
    (outside.resolve id outcome).channel other = outside.channel other := by
  unfold resolve
  split
  · exact channel_set_other hother _
  · rfl

/-- Sending on a channel does not touch the executor and the collaborators. -/
theorem resolve_own (outside : Outside σ) (id : Nat) (outcome : Outcome) :
    (outside.resolve id outcome).executor = outside.executor ∧
      (outside.resolve id outcome).own = outside.own := by
  unfold resolve
  split <;> exact ⟨rfl, rfl⟩

/-- Opening a channel leaves those alone that were opened before. -/
theorem channel_open_other (hlt : id < outside.channels.length) :
    outside.openChannel.2.channel id = outside.channel id := by
  show (outside.channels ++ [Channel.waiting]).getD id .abandoned = _
  rw [List.getD_append _ _ _ _ hlt]
  rfl

/-- A channel that was just opened waits. -/
theorem channel_open_new (outside : Outside σ) :
    outside.openChannel.2.channel outside.channels.length = .waiting := by
  show (outside.channels ++ [Channel.waiting]).getD outside.channels.length .abandoned = _
  rw [List.getD_append_right _ _ _ _ (Nat.le_refl _), Nat.sub_self]
  rfl

end Outside

namespace Promise

variable {σ : Type} [Producer σ] {outside : Outside σ} {id : Nat} {outcome : Outcome}

/-- Who looks at a channel that waits finds nothing yet. -/
theorem await_waiting (hwaiting : outside.channel id = .waiting) :
    (channel id).await outside = (.notYet, outside) := by
  simp only [await, hwaiting]

/-- Who looks at a channel that holds an outcome takes it. -/
theorem await_holding (hholding : outside.channel id = .holding outcome) :
    (channel id).await outside = (.ready outcome, outside.setChannel id .spent) := by
  simp only [await, hholding]

/-- Who looks at a channel that was abandoned learns that the promise was dropped. -/
theorem await_abandoned (habandoned : outside.channel id = .abandoned) :
    (channel id).await outside =
      (.ready (.failed .promiseDropped), outside.setChannel id .spent) := by
  simp only [await, habandoned]

end Promise

end Switchboard
