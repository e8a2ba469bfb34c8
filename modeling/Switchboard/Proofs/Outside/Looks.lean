import Mathlib.Data.List.Range
import Mathlib.Logic.Relation
import Switchboard.Follower.Pursue
import Switchboard.Proofs.Outside

/-!
# Looking at a promise again and again

A course of `Moment`s says when somebody looks at a promise, when its producer does its deed, and
what else goes on. `Promise.checks` are the answers of all checks in a course, and `Promise.attend`
looks until there is an answer, be it that each look is a check or that it waits. A look that waits
is no different from a check unless the value was taken before (`check_eq_await_iff`), so both go
the same way (`attend_alike`).

What the checks find is up to the producer. The function of a poll has to be called as often as
`Outside.Ripens` says (`checks_poll`, `calls_poll`). A channel waits for the `Deed` of its resolver
(`checks_waiting`), hands out what this has left once (`checks_left`), and has nothing to give from
then on (`checks_gone`).
-/

namespace Switchboard

variable {σ : Type} {stir : Outside σ → Outside σ → Prop} {world : Outside σ} {id : Nat}

/-- Whether there is nothing to be had from a channel any more but the news that it was dropped. -/
def Channel.Gone (channel : Channel) : Prop :=
  channel = .abandoned ∨ channel = .spent

/-- A channel that has nothing to give any more does not wait. -/
theorem Channel.Gone.ne_waiting {channel : Channel} (h : channel.Gone) : channel ≠ .waiting := by
  rcases h with rfl | rfl <;> exact nofun

/-- What the resolver of a channel does in the end: it sends an outcome, or it goes away without. -/
inductive Deed where
  | send (outcome : Outcome)
  | leave
  deriving DecidableEq

namespace Deed

/-- The state in which the deed leaves a channel that waits. -/
def channel : Deed → Channel
  | .send outcome => .holding outcome
  | .leave => .abandoned

/-- The outcome that the deed makes the channel stand for. -/
def outcome : Deed → Outcome
  | .send outcome => outcome
  | .leave => .failed .promiseDropped

/-- The world after the resolver of a channel has done the deed. -/
def act (deed : Deed) (id : Nat) (world : Outside σ) : Outside σ :=
  match deed with
  | .send outcome => world.resolve id outcome
  | .leave => world.abandon id

variable {deed : Deed}

/-- A channel does not wait behind the deed. -/
theorem channel_ne_waiting (deed : Deed) : deed.channel ≠ .waiting := by
  cases deed <;> exact nofun

/-- The deed takes nothing from a channel. -/
theorem channel_ne_spent (deed : Deed) : deed.channel ≠ .spent := by
  cases deed <;> exact nofun

/-- The deed changes a channel that waits. -/
theorem act_waiting (hwaiting : world.channel id = .waiting) :
    (deed.act id world).channel id = deed.channel := by
  cases deed with
  | send outcome => exact Outside.channel_resolve_self hwaiting
  | leave => exact Outside.channel_abandon_self hwaiting

/-- The deed makes no difference to a channel that does not wait. -/
theorem act_done (hdone : world.channel id ≠ .waiting) : deed.act id world = world := by
  cases deed <;> simp only [act, Outside.resolve, Outside.abandon]

end Deed

/-- What may happen while somebody looks at a promise: a look is taken, its producer does its deed,
or something goes on elsewhere, where nobody does more than `stir`. -/
inductive Moment (stir : Outside σ → Outside σ → Prop) where
  | look
  | deed
  | elsewhere (change : Outside σ → Outside σ) (within : ∀ world, stir world (change world))

namespace Moment

/-- Whether a look is taken. -/
def isLook : Moment stir → Bool
  | .look => true
  | _ => false

/-- Whether the producer does its deed. -/
def isDeed : Moment stir → Bool
  | .deed => true
  | _ => false

/-- How many looks are taken in a course. -/
def looks (course : List (Moment stir)) : Nat :=
  course.countP isLook

/-- How many looks are taken before the producer does its deed. -/
def early (course : List (Moment stir)) : Nat :=
  looks (course.takeWhile (!·.isDeed))

variable (course : List (Moment stir)) {change : Outside σ → Outside σ}
  (within : ∀ world, stir world (change world))

/-- A look is counted. -/
@[simp] theorem looks_look : looks (.look :: course) = looks course + 1 :=
  List.countP_cons_of_pos rfl

/-- The deed of the producer is no look. -/
@[simp] theorem looks_deed : looks (.deed :: course) = looks course :=
  List.countP_cons_of_neg nofun

/-- What goes on elsewhere is no look. -/
@[simp] theorem looks_elsewhere : looks (.elsewhere change within :: course) = looks course :=
  List.countP_cons_of_neg nofun

/-- A look in front of everything else comes before the deed. -/
@[simp] theorem early_look : early (.look :: course) = early course + 1 :=
  looks_look _

/-- No look comes before a deed that is done first. -/
@[simp] theorem early_deed : early (.deed :: course) = 0 :=
  rfl

/-- What goes on elsewhere makes no look early. -/
@[simp] theorem early_elsewhere : early (.elsewhere change within :: course) = early course :=
  looks_elsewhere _ within

end Moment

namespace Answer

/-- The outcome that somebody who waits makes of an answer, if there is one. -/
def outcome? : Answer → Option Outcome
  | .notYet => none
  | .ready outcome => some outcome
  | .panicked => some (.failed .promisePanicked)

/-- What the check with a given number finds at a channel, when so many checks come too early:
nothing yet, then the outcome, once, and from then on that the promise was dropped. -/
def expected (early : Nat) (outcome : Outcome) (number : Nat) : Answer :=
  if number < early then .notYet
  else if number = early then .ready outcome
  else .ready (.failed .promiseDropped)

variable (early number : Nat) (outcome : Outcome)

/-- The first check finds nothing if it comes too early. -/
@[simp] theorem expected_early : expected (early + 1) outcome 0 = .notYet :=
  rfl

/-- The first check finds the outcome if none comes too early. -/
@[simp] theorem expected_due : expected 0 outcome 0 = .ready outcome :=
  rfl

/-- After the check that found the outcome there is none any more. -/
@[simp] theorem expected_late :
    expected 0 outcome (number + 1) = .ready (.failed .promiseDropped) :=
  rfl

/-- After a check that came too early the others find what they find without it. -/
@[simp] theorem expected_succ :
    expected (early + 1) outcome (number + 1) = expected early outcome number := by
  simp only [expected, Nat.add_lt_add_iff_right, Nat.add_right_cancel_iff]

end Answer

namespace Outside

/-- A counter of the calls of a poll: every call adds one, and what goes on elsewhere does not
touch it. -/
structure Counts [Producer σ] (stir : Outside σ → Outside σ → Prop) (id : Nat)
    (calls : Outside σ → Nat) : Prop where
  called : ∀ world, calls (Producer.poll id world).2 = calls world + 1
  kept : ∀ before after, stir before after → calls after = calls before

/-- The function of a poll has nothing yet for a number of calls, and then answers an outcome,
whatever goes on elsewhere before and between the calls. -/
def Ripens [Producer σ] (stir : Outside σ → Outside σ → Prop) (id : Nat) (outcome : Outcome) :
    Nat → Outside σ → Prop
  | 0, world => ∀ later, Relation.ReflTransGen stir world later →
      (Producer.poll id later).1 = .ready outcome
  | vain + 1, world => ∀ later, Relation.ReflTransGen stir world later →
      (Producer.poll id later).1 = .notYet ∧ Ripens stir id outcome vain (Producer.poll id later).2

/-- What goes on elsewhere does not make a poll answer earlier or later. -/
theorem ripens_stirred [Producer σ] {outcome : Outcome} {vain : Nat} {after : Outside σ}
    (h : Ripens stir id outcome vain world) (hstir : stir world after) :
    Ripens stir id outcome vain after := by
  cases vain with
  | zero => exact fun later hlater ↦ h later (.head hstir hlater)
  | succ vain => exact fun later hlater ↦ h later (.head hstir hlater)

/-- A poll whose function counts down a number that nobody else touches answers when this is
zero. -/
theorem ripens_of_countdown [Producer σ] {outcome : Outcome} {left : Outside σ → Nat}
    (hkept : ∀ before after, stir before after → left after = left before)
    (hvain : ∀ world, left world ≠ 0 → (Producer.poll id world).1 = .notYet ∧
      left (Producer.poll id world).2 + 1 = left world)
    (hready : ∀ world, left world = 0 → (Producer.poll id world).1 = .ready outcome)
    (world : Outside σ) : Ripens stir id outcome (left world) world := by
  have hsame {before after : Outside σ} (h : Relation.ReflTransGen stir before after) :
      left after = left before := by
    induction h with
    | refl => rfl
    | tail _ hlast ih => exact (hkept _ _ hlast).trans ih
  generalize hleft : left world = vain
  induction vain generalizing world with
  | zero => exact fun later hlater ↦ hready later ((hsame hlater).trans hleft)
  | succ vain ih =>
      intro later hlater
      have hlater := (hsame hlater).trans hleft
      obtain ⟨hnone, hless⟩ := hvain later (by omega)
      exact ⟨hnone, ih _ (by omega)⟩

/-- A channel that is spent has nothing to give any more, whether it was ever opened or not. -/
theorem gone_set_spent (world : Outside σ) (id : Nat) :
    ((world.setChannel id .spent).channel id).Gone := by
  by_cases hopened : id < world.channels.length
  · exact .inr (channel_set_self hopened _)
  · refine .inl (channel_unopened ?_)
    rw [setChannel, List.length_set]
    exact Nat.le_of_not_lt hopened

end Outside

namespace Promise

/-- Whether nothing has been taken from the promise yet. -/
def Untaken (world : Outside σ) : Promise → Prop
  | .channel id => world.channel id ≠ .spent
  | .poll _ => True

/-- The deed takes nothing from the promise of a channel. -/
theorem untaken_act (deed : Deed) (huntaken : (channel id).Untaken world) :
    (channel id).Untaken (deed.act id world) := by
  by_cases hwaiting : world.channel id = .waiting
  · exact (deed.act_waiting hwaiting).trans_ne deed.channel_ne_spent
  · rwa [deed.act_done hwaiting]

/-- Look at a promise again and again in a course until there is an answer, and leave the rest of
the course alone. Without an answer it is that there is nothing yet. -/
def attend (look : Promise → Outside σ → Answer × Outside σ) (promise : Promise)
    (act : Outside σ → Outside σ) : List (Moment stir) → Outside σ → Answer × Outside σ
  | [], world => (.notYet, world)
  | .look :: course, world =>
    match look promise world with
    | (.notYet, after) => attend look promise act course after
    | found => found
  | .deed :: course, world => attend look promise act course (act world)
  | .elsewhere change _ :: course, world => attend look promise act course (change world)

/-- After a look that finds nothing the party goes on, after any other it does not. -/
theorem attend_look (look : Promise → Outside σ → Answer × Outside σ) (promise : Promise)
    (act : Outside σ → Outside σ) (course : List (Moment stir)) (world : Outside σ) :
    attend look promise act (.look :: course) world =
      if (look promise world).1 = .notYet then
        attend look promise act course (look promise world).2
      else look promise world := by
  rcases hlook : look promise world with ⟨answer, after⟩
  cases answer <;> simp [attend, hlook]

variable [Producer σ]

/-- The answers of all checks in a course, when the producer's deed is the given one. -/
def checks (promise : Promise) (act : Outside σ → Outside σ) :
    List (Moment stir) → Outside σ → List Answer
  | [], _ => []
  | .look :: course, world =>
    (promise.check world).1 :: promise.checks act course (promise.check world).2
  | .deed :: course, world => promise.checks act course (act world)
  | .elsewhere change _ :: course, world => promise.checks act course (change world)

/-- A look that waits is no different from a check, unless the value was taken before. -/
theorem check_eq_await_iff (promise : Promise) (world : Outside σ) :
    promise.check world = promise.await world ↔ promise.Untaken world := by
  cases promise with
  | poll id => exact ⟨fun _ ↦ trivial, fun _ ↦ rfl⟩
  | channel id =>
      cases hchannel : world.channel id <;> simp [check, await, Untaken, hchannel]

/-- A check of a channel that waits finds nothing and does nothing. -/
theorem check_waiting (hwaiting : world.channel id = .waiting) :
    (channel id).check world = (.notYet, world) := by
  simp only [check, hwaiting]

/-- A check finds what the deed has left in a channel, and takes it. -/
theorem check_left {deed : Deed} (hleft : world.channel id = deed.channel) :
    ((channel id).check world).1 = .ready deed.outcome ∧
      (((channel id).check world).2.channel id).Gone := by
  cases deed <;>
    simp only [check, hleft, Deed.channel, Deed.outcome, Outside.gone_set_spent, and_self]

/-- A check of a channel that has nothing to give any more finds that the promise was dropped. -/
theorem check_gone (hgone : (world.channel id).Gone) :
    ((channel id).check world).1 = .ready (.failed .promiseDropped) ∧
      (((channel id).check world).2.channel id).Gone := by
  rcases hgone with habandoned | hspent
  · have hleft : world.channel id = Deed.leave.channel := habandoned
    exact check_left hleft
  · simp only [check, hspent, Outside.gone_set_spent, and_self]

/-- A check of a poll that is ripe finds the outcome. -/
theorem check_ripe {outcome : Outcome} (hripens : world.Ripens stir id outcome 0) :
    ((poll id).check world).1 = .ready outcome :=
  hripens world .refl

/-- A check of a poll that is not ripe finds nothing yet, and takes it one call further. -/
theorem check_unripe {outcome : Outcome} {vain : Nat}
    (hripens : world.Ripens stir id outcome (vain + 1)) :
    ((poll id).check world).1 = .notYet ∧
      ((poll id).check world).2.Ripens stir id outcome vain :=
  hripens world .refl

variable {promise : Promise}

/-- A check that finds nothing takes nothing. -/
theorem untaken_vain (huntaken : promise.Untaken world)
    (hvain : (promise.check world).1 = .notYet) : promise.Untaken (promise.check world).2 := by
  cases promise with
  | poll => trivial
  | channel id =>
      cases hchannel : world.channel id <;> simp_all [check, Untaken]

variable {act : Outside σ → Outside σ} {outcome : Outcome} {early vain : Nat}

/-- Checking until there is an answer and waiting for it come to the same, in a course in which
nobody else takes the value. -/
theorem attend_alike (huntaken : promise.Untaken world)
    (hact : ∀ world, promise.Untaken world → promise.Untaken (act world))
    (hstir : ∀ before after, stir before after → promise.Untaken before → promise.Untaken after)
    (course : List (Moment stir)) :
    promise.attend check act course world = promise.attend await act course world := by
  -- The value is untaken as long as the party goes on, for the only look that takes it is the last.
  induction course generalizing world with
  | nil => rfl
  | cons moment course ih =>
      cases moment with
      | look =>
          rw [attend_look, attend_look, ← (check_eq_await_iff promise world).mpr huntaken]
          split
          · rename_i hvain
            exact ih (untaken_vain huntaken hvain)
          · rfl
      | deed => exact ih (hact world huntaken)
      | elsewhere change within => exact ih (hstir _ _ (within world) huntaken)

/-- If nothing goes on but looks, waiting is settling. -/
theorem settle_eq_attend (promise : Promise) (act : Outside σ → Outside σ) (looks : Nat)
    (world : Outside σ) :
    promise.settle looks world =
      let found := promise.attend await act (.replicate looks (.look : Moment stir)) world
      (found.1.outcome?, found.2) := by
  induction looks generalizing world with
  | zero => rfl
  | succ looks ih =>
      rw [List.replicate_succ, settle, attend]
      rcases promise.await world with ⟨answer, after⟩
      cases answer with
      | notYet => exact ih after
      | ready | panicked => rfl

/-- Somebody who checks until there is an answer gets the outcome if he takes more looks than come
too early. -/
theorem attend_of_expected {course : List (Moment stir)}
    (hchecks : ∀ number ≤ early, number < Moment.looks course →
      (promise.checks act course world)[number]? = some (.expected early outcome number)) :
    (promise.attend check act course world).1 =
      if early < Moment.looks course then .ready outcome else .notYet := by
  -- Behind a look that came too early the checks are those of the rest, each with the number
  -- before.
  induction course generalizing early world with
  | nil => rfl
  | cons moment course ih =>
      cases moment with
      | look =>
          rw [Moment.looks_look] at hchecks ⊢
          have hfirst : (promise.check world).1 = .expected early outcome 0 :=
            Option.some.inj (hchecks 0 (Nat.zero_le _) (Nat.zero_lt_succ _))
          rw [attend_look, hfirst]
          cases early with
          | zero =>
              rw [Answer.expected_due, if_neg nofun, if_pos (Nat.zero_lt_succ _), hfirst,
                Answer.expected_due]
          | succ early =>
              rw [Answer.expected_early, if_pos rfl]
              simp only [Nat.add_lt_add_iff_right]
              refine ih fun number hle hlt ↦ ?_
              rw [← Answer.expected_succ]
              exact hchecks (number + 1) (Nat.succ_le_succ hle) (Nat.succ_lt_succ hlt)
      | deed =>
          rw [Moment.looks_deed] at hchecks ⊢
          exact ih hchecks
      | elsewhere change within =>
          rw [Moment.looks_elsewhere] at hchecks ⊢
          exact ih hchecks

/-- Checks of a poll find nothing yet until it has been called often enough, and then the
outcome. -/
theorem checks_poll (hripens : world.Ripens stir id outcome vain) (course : List (Moment stir)) :
    ∀ number ≤ vain, number < Moment.looks course →
      ((poll id).checks (fun world ↦ world) course world)[number]? =
        some (.expected vain outcome number) := by
  induction course generalizing vain world with
  | nil => exact fun number _ hlt ↦ absurd hlt (Nat.not_lt_zero _)
  | cons moment course ih =>
      intro number hle hlt
      cases moment with
      | look =>
          rw [Moment.looks_look] at hlt
          cases vain with
          | zero =>
              -- Nothing is known about the checks behind the one that finds the outcome.
              obtain rfl := Nat.le_zero.mp hle
              exact congrArg some (check_ripe hripens)
          | succ vain =>
              obtain ⟨hvain, hrest⟩ := check_unripe hripens
              cases number with
              | zero => exact congrArg some hvain
              | succ number =>
                  rw [Answer.expected_succ]
                  exact ih hrest number (Nat.le_of_succ_le_succ hle) (Nat.lt_of_succ_lt_succ hlt)
      | deed =>
          rw [Moment.looks_deed] at hlt
          exact ih hripens number hle hlt
      | elsewhere change within =>
          rw [Moment.looks_elsewhere] at hlt
          exact ih (Outside.ripens_stirred hripens (within world)) number hle hlt

/-- Somebody who checks a poll until there is an answer calls its function once for every look,
until it has answered. -/
theorem calls_poll (hripens : world.Ripens stir id outcome vain) {calls : Outside σ → Nat}
    (hcounts : Outside.Counts stir id calls) (course : List (Moment stir)) :
    calls ((poll id).attend check (fun world ↦ world) course world).2 =
      calls world + min (Moment.looks course) (vain + 1) := by
  induction course generalizing vain world with
  | nil => simp [attend, Moment.looks]
  | cons moment course ih =>
      cases moment with
      | look =>
          have hcalled : calls ((poll id).check world).2 = calls world + 1 := hcounts.called world
          rw [attend_look, Moment.looks_look]
          cases vain with
          | zero =>
              rw [check_ripe hripens, if_neg nofun, hcalled]
              omega
          | succ vain =>
              obtain ⟨hvain, hrest⟩ := check_unripe hripens
              rw [if_pos hvain, ih hrest, hcalled]
              omega
      | deed =>
          rw [Moment.looks_deed]
          exact ih hripens
      | elsewhere change within =>
          rw [Moment.looks_elsewhere, ← hcounts.kept _ _ (within world)]
          exact ih (Outside.ripens_stirred hripens (within world))

section Channel

variable {deed : Deed}
  (hspared : ∀ before after : Outside σ, stir before after → after.channel id = before.channel id)

include hspared

/-- Checks of a channel that has nothing to give any more all find that the promise was dropped. -/
theorem checks_gone (hgone : (world.channel id).Gone) (course : List (Moment stir)) :
    (channel id).checks (deed.act id) course world =
      .replicate (Moment.looks course) (.ready (.failed .promiseDropped)) := by
  induction course generalizing world with
  | nil => rfl
  | cons moment course ih =>
      cases moment with
      | look =>
          obtain ⟨hdropped, hrest⟩ := check_gone hgone
          rw [checks, hdropped, ih hrest, Moment.looks_look, List.replicate_succ]
      | deed => rw [checks, deed.act_done hgone.ne_waiting, ih hgone, Moment.looks_deed]
      | elsewhere change within =>
          have hkept := hspared _ _ (within world)
          rw [checks, ih (hkept.symm ▸ hgone), Moment.looks_elsewhere]

/-- The first check of a channel behind the deed finds the outcome, and all others that the promise
was dropped. -/
theorem checks_left (hleft : world.channel id = deed.channel) (course : List (Moment stir)) :
    (channel id).checks (deed.act id) course world =
      (List.range (Moment.looks course)).map (.expected 0 deed.outcome) := by
  induction course generalizing world with
  | nil => rfl
  | cons moment course ih =>
      cases moment with
      | look =>
          obtain ⟨hfound, hrest⟩ := check_left hleft
          rw [checks, hfound, checks_gone hspared hrest, Moment.looks_look, List.range_succ_eq_map,
            List.map_cons, List.map_map, Answer.expected_due]
          refine congrArg (_ :: ·) (List.eq_replicate_iff.mpr ⟨?_, ?_⟩).symm <;> simp
      | deed =>
          have hdone := hleft.trans_ne deed.channel_ne_waiting
          rw [checks, deed.act_done hdone, ih hleft, Moment.looks_deed]
      | elsewhere change within =>
          rw [checks, ih ((hspared _ _ (within world)).trans hleft), Moment.looks_elsewhere]

/-- Checks of a channel that waits find nothing yet until the deed is done. -/
theorem checks_waiting (hwaiting : world.channel id = .waiting) (course : List (Moment stir)) :
    (channel id).checks (deed.act id) course world =
      (List.range (Moment.looks course)).map (.expected (Moment.early course) deed.outcome) := by
  induction course generalizing world with
  | nil => rfl
  | cons moment course ih =>
      cases moment with
      | look =>
          rw [checks, check_waiting hwaiting, ih hwaiting, Moment.looks_look, Moment.early_look,
            List.range_succ_eq_map, List.map_cons, List.map_map, Answer.expected_early]
          exact congrArg (_ :: ·) (List.map_congr_left fun number _ ↦
            (Answer.expected_succ _ number deed.outcome).symm)
      | deed =>
          rw [checks, checks_left hspared (deed.act_waiting hwaiting), Moment.looks_deed,
            Moment.early_deed]
      | elsewhere change within =>
          rw [checks, ih ((hspared _ _ (within world)).trans hwaiting), Moment.looks_elsewhere,
            Moment.early_elsewhere]

end Channel

end Promise

end Switchboard
