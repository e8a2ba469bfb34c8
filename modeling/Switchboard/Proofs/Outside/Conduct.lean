import Switchboard.Proofs.Outside.Looks

/-!
# Checking a promise and waiting for it

There are two ways to the outcome of a promise: to check it until there is an answer, and to wait
for it. `Conduct` says how the producer of a promise behaves, whatever looks are taken, and
`Conduct.Fresh` that nothing has been taken from the promise. `check_await_agree` says that both
ways then lead to the same end in every course, that the conduct alone decides what this is, and
that a channel hands it out once.
-/

namespace Switchboard

variable {σ : Type} {stir : Outside σ → Outside σ → Prop} {world : Outside σ} {id : Nat}

/-- How the producer of a promise behaves: the resolver of a channel does its deed when it likes,
and the function of a poll has nothing yet for a number of calls and then answers an outcome. -/
inductive Conduct where
  | channel (id : Nat) (deed : Deed)
  | poll (id vain : Nat) (outcome : Outcome)
  deriving DecidableEq

namespace Conduct

/-- The promise whose producer behaves so. -/
def promise : Conduct → Promise
  | .channel id _ => .channel id
  | .poll id _ _ => .poll id

/-- The outcome that the promise comes to. -/
def outcome : Conduct → Outcome
  | .channel _ deed => deed.outcome
  | .poll _ _ outcome => outcome

/-- The world after the producer has done its deed. The function of a poll does nothing unasked. -/
def act : Conduct → Outside σ → Outside σ
  | .channel id deed => deed.act id
  | .poll .. => fun world ↦ world

/-- How many looks of a course come too early: at a channel that waits those before the deed, and at
a poll those that its function lets go by. -/
def early (world : Outside σ) (course : List (Moment stir)) : Conduct → Nat
  | .channel id _ => if world.channel id = .waiting then Moment.early course else 0
  | .poll _ vain _ => vain

/-- Nothing has been taken from the promise: its channel waits or is as the deed leaves it, or its
function has still to be called as often. What goes on elsewhere does not touch this. -/
def Fresh [Producer σ] (stir : Outside σ → Outside σ → Prop) (world : Outside σ) : Conduct → Prop
  | .channel id deed =>
    (∀ before after, stir before after → after.channel id = before.channel id) ∧
      (world.channel id = .waiting ∨ world.channel id = deed.channel)
  | .poll id vain outcome => world.Ripens stir id outcome vain

variable [Producer σ] {conduct : Conduct}

/-- A promise that is fresh comes to the same in both ways. -/
theorem fresh_alike (hfresh : conduct.Fresh stir world) (course : List (Moment stir)) :
    conduct.promise.attend Promise.check conduct.act course world =
      conduct.promise.attend Promise.await conduct.act course world := by
  cases conduct with
  | poll id vain outcome =>
      have huntaken (world : Outside σ) : (Promise.poll id).Untaken world := trivial
      exact Promise.attend_alike (huntaken world) (fun world _ ↦ huntaken _)
        (fun _ after _ _ ↦ huntaken after) course
  | channel id deed =>
      obtain ⟨hspared, hstate⟩ := hfresh
      have huntaken : (Promise.channel id).Untaken world := by
        rcases hstate with hwaiting | hleft
        · exact hwaiting.trans_ne nofun
        · exact hleft.trans_ne deed.channel_ne_spent
      exact Promise.attend_alike huntaken (fun _ ↦ Promise.untaken_act deed)
        (fun before after hstir ↦ (hspared before after hstir).trans_ne) course

/-- The checks of a channel find what is expected of it. -/
theorem checks_channel {deed : Deed} (hfresh : (channel id deed).Fresh stir world)
    (course : List (Moment stir)) :
    (Promise.channel id).checks (deed.act id) course world =
      (List.range (Moment.looks course)).map
        (.expected ((channel id deed).early world course) deed.outcome) := by
  obtain ⟨hspared, hstate⟩ := hfresh
  by_cases hwaiting : world.channel id = .waiting
  · rw [early, if_pos hwaiting]
    exact Promise.checks_waiting hspared hwaiting course
  · rw [early, if_neg hwaiting]
    exact Promise.checks_left hspared (hstate.resolve_left hwaiting) course

/-- Somebody who checks until there is an answer gets the outcome if he takes more looks than come
too early. -/
theorem attend_fresh (hfresh : conduct.Fresh stir world) (course : List (Moment stir)) :
    (conduct.promise.attend Promise.check conduct.act course world).1 =
      if conduct.early world course < Moment.looks course then .ready conduct.outcome
      else .notYet := by
  refine Promise.attend_of_expected fun number hle hlt ↦ ?_
  cases conduct with
  | poll id vain outcome => exact Promise.checks_poll hfresh course number hle hlt
  | channel id deed =>
      have hchecks := checks_channel hfresh course
      exact hchecks ▸ by simp [hlt, outcome]

/-- Checking a promise until there is an answer and waiting for it come to the same answer in the
same world, whenever looks are taken and the producer does its deed. The answer is the outcome that
the conduct of the producer alone decides, so it is the same in two different courses too, and it is
there as soon as a look does not come too early. The function of a poll is called for each look that
comes too early and once more. All checks of a channel before the deed find nothing yet, the next
finds the outcome, and from then on all find that the promise was dropped. If nothing else goes on,
settling the promise is checking it until there is an answer. -/
theorem check_await_agree (hfresh : conduct.Fresh stir world) :
    (∀ course : List (Moment stir),
      let looks := Moment.looks course
      let early := conduct.early world course
      let checked := conduct.promise.attend Promise.check conduct.act course world
      checked = conduct.promise.attend Promise.await conduct.act course world ∧
      checked.1 = (if early < looks then .ready conduct.outcome else .notYet) ∧
      (∀ id vain outcome calls, conduct = .poll id vain outcome → Outside.Counts stir id calls →
        early < looks → calls checked.2 = calls world + (vain + 1)) ∧
      ∀ id deed, conduct = .channel id deed →
        conduct.promise.checks conduct.act course world =
          (List.range looks).map (.expected early conduct.outcome)) ∧
    ∀ looks, conduct.promise.settle looks world =
      let checked := conduct.promise.attend Promise.check conduct.act
        (.replicate looks (.look : Moment stir)) world
      (checked.1.outcome?, checked.2) := by
  refine ⟨fun course ↦ ⟨fresh_alike hfresh course, attend_fresh hfresh course, ?_, ?_⟩,
    fun looks ↦ ?_⟩
  · rintro id vain outcome calls rfl hcounts hlooks
    have hvain : vain < Moment.looks course := hlooks
    exact (Promise.calls_poll hfresh hcounts course).trans
      (congrArg _ (Nat.min_eq_right hvain))
  · rintro id deed rfl
    exact checks_channel hfresh course
  · rw [fresh_alike hfresh]
    exact Promise.settle_eq_attend ..

/-- A collaborator who counts how often its poll was asked, and has nothing yet for two times. -/
structure Tally where
  asked : Nat

instance : Producer Tally where
  poll _ outside :=
    (if outside.own.asked < 2 then .notYet else .ready (.done "ready"),
      { outside with own := ⟨outside.own.asked + 1⟩ })

/-- What leaves the collaborator and the first channel alone. -/
def SampleStir (before after : Outside Tally) : Prop :=
  after.own = before.own ∧ after.channel 0 = before.channel 0

/-- A world with two channels, where the poll has not been asked yet. -/
def sampleWorld : Outside Tally :=
  { channels := [.waiting, .waiting], executor := true, own := ⟨0⟩ }

/-- Two looks before the deed and two behind it, while the other channel is resolved. -/
def sampleCourse : List (Moment SampleStir) :=
  [.look,
    .elsewhere (·.resolve 1 (.done "other")) fun world ↦
      ⟨(Outside.resolve_own world 1 _).2, Outside.channel_resolve_other Nat.zero_ne_one⟩,
    .look, .deed, .look, .look]

/-- In the sample course the poll is asked three times in both ways, and the value sent on the
channel is found once. -/
theorem sample_both_ways :
    (∀ look ∈ [Promise.check, Promise.await],
      let found := (Promise.poll 0).attend look (fun world ↦ world) sampleCourse sampleWorld
      found.1 = .ready (.done "ready") ∧ found.2.own.asked = 3) ∧
    (Promise.channel 0).checks (Deed.act (.send (.done "rendered")) 0) sampleCourse sampleWorld =
      [.notYet, .notYet, .ready (.done "rendered"), .ready (.failed .promiseDropped)] := by
  have hpoll : (poll 0 2 (.done "ready")).Fresh SampleStir sampleWorld := by
    -- What is counted down are the calls that are missing to two.
    let left (world : Outside Tally) : Nat := 2 - world.own.asked
    have hkept (before after : Outside Tally) (hstir : SampleStir before after) :
        left after = left before := congrArg (2 - Tally.asked ·) hstir.1
    refine Outside.ripens_of_countdown hkept (fun world hleft ↦ ?_) (fun world hleft ↦ ?_)
      sampleWorld
    · have hasked : world.own.asked < 2 := Nat.lt_of_sub_ne_zero hleft
      refine ⟨if_pos hasked, ?_⟩
      show 2 - (world.own.asked + 1) + 1 = 2 - world.own.asked
      omega
    · exact if_neg (Nat.not_lt.mpr (Nat.le_of_sub_eq_zero hleft))
  have hcounts : Outside.Counts SampleStir 0 fun world : Outside Tally ↦ world.own.asked :=
    ⟨fun _ ↦ rfl, fun _ _ hstir ↦ congrArg Tally.asked hstir.1⟩
  obtain ⟨halike, hready, hcalls, -⟩ := (check_await_agree hpoll).1 sampleCourse
  have hchannel : (channel 0 (.send (.done "rendered"))).Fresh SampleStir sampleWorld :=
    ⟨fun _ _ hstir ↦ hstir.2, .inl rfl⟩
  obtain ⟨-, -, -, hchecks⟩ := (check_await_agree hchannel).1 sampleCourse
  have hlate : (poll 0 2 (.done "ready")).early sampleWorld sampleCourse <
      Moment.looks sampleCourse := by decide
  rw [if_pos hlate] at hready
  have hasked := hcalls 0 2 (.done "ready") _ rfl hcounts hlate
  refine ⟨?_, hchecks 0 _ rfl⟩
  simp only [List.forall_mem_cons]
  exact ⟨⟨hready, hasked⟩, ⟨halike ▸ hready, halike ▸ hasked⟩, nofun⟩

end Conduct

end Switchboard
