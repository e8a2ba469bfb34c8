import Switchboard.Follower

/-!
# Chains of promises

A promise may turn out to stand for a further promise, and so on until an outcome that is not
pending. `Promise.Shows` says what a look finds at a promise, and `Promise.Follows` that looks, each
with the world in which it was taken, lead along such a chain to its end. `follows_unique` says that
the looks leave no choice of the end. `Promise.Leads` says how far looks have led that have not
reached it; `leads_after_look` and `after_look_settled` say that the follower goes along the chain.
`Outcome.Yields` says what is due to the callback of a command.
-/

namespace Switchboard

/-- A look: the promise that was looked at, and the world at that moment. -/
abbrev Look (σ : Type) := Promise × Outside σ

namespace Promise

variable {σ : Type} [Producer σ]

/-- What somebody who waits for a promise finds when he looks at it. A resolver that went away
leaves the news that the promise was dropped, and waiting for a value that was taken before
panics. -/
inductive Shows : Promise → Outside σ → Answer → Prop where
  | waiting {id : Nat} {outside : Outside σ} :
      outside.channel id = .waiting → Shows (.channel id) outside .notYet
  | sent {id : Nat} {outside : Outside σ} {outcome : Outcome} :
      outside.channel id = .holding outcome → Shows (.channel id) outside (.ready outcome)
  | abandoned {id : Nat} {outside : Outside σ} :
      outside.channel id = .abandoned →
      Shows (.channel id) outside (.ready (.failed .promiseDropped))
  | taken {id : Nat} {outside : Outside σ} :
      outside.channel id = .spent → Shows (.channel id) outside .panicked
  | polled (id : Nat) (outside : Outside σ) :
      Shows (.poll id) outside (Producer.poll id outside).1

/-- The looks lead from a promise along its chain to the outcome that is its end: a link that holds
another promise is followed, and a link that panics ends the chain with that fault. -/
inductive Follows : Promise → List (Look σ) → Outcome → Prop where
  | ended {promise : Promise} {outside : Outside σ} {outcome : Outcome} :
      Shows promise outside (.ready outcome) → outcome.isPending = false →
      Follows promise [(promise, outside)] outcome
  | panicked {promise : Promise} {outside : Outside σ} :
      Shows promise outside .panicked →
      Follows promise [(promise, outside)] (.failed .promisePanicked)
  | waited {promise : Promise} {outside : Outside σ} {looks : List (Look σ)} {outcome : Outcome} :
      Shows promise outside .notYet → Follows promise looks outcome →
      Follows promise ((promise, outside) :: looks) outcome
  | linked {promise next : Promise} {outside : Outside σ} {looks : List (Look σ)}
      {outcome : Outcome} :
      Shows promise outside (.ready (.pending next)) → Follows next looks outcome →
      Follows promise ((promise, outside) :: looks) outcome

/-- `await` answers what the promise shows. -/
theorem await_shows (promise : Promise) (outside : Outside σ) :
    Shows promise outside (promise.await outside).1 := by
  cases promise with
  | poll id => exact .polled id outside
  | channel id =>
      cases hchannel : outside.channel id with
      | waiting => simpa [await, hchannel] using Shows.waiting hchannel
      | holding outcome => simpa [await, hchannel] using Shows.sent hchannel
      | abandoned => simpa [await, hchannel] using Shows.abandoned hchannel
      | spent => simpa [await, hchannel] using Shows.taken hchannel

/-- A promise shows one answer. -/
theorem shows_unique {promise : Promise} {outside : Outside σ} {first second : Answer}
    (hfirst : Shows promise outside first) (hsecond : Shows promise outside second) :
    first = second := by
  cases hfirst <;> cases hsecond <;> simp_all

/-- The end of a chain is never pending. -/
theorem follows_not_pending {promise : Promise} {looks : List (Look σ)} {outcome : Outcome}
    (h : Follows promise looks outcome) : outcome.isPending = false := by
  induction h with
  | ended _ hfinal => exact hfinal
  | panicked => rfl
  | waited _ _ ih => exact ih
  | linked _ _ ih => exact ih

/-- No look leads to no end. -/
theorem not_follows_nil {promise : Promise} {outcome : Outcome} :
    ¬ Follows (σ := σ) promise [] outcome := by
  intro h
  cases h

/-- The looks determine the end of the chain. -/
theorem follows_unique {promise : Promise} {looks : List (Look σ)} {first second : Outcome}
    (hfirst : Follows promise looks first) (hsecond : Follows promise looks second) :
    first = second := by
  -- A look shows one answer, so both ways have to take the same step.
  induction hfirst with
  | ended hshows hfinal =>
      cases hsecond with
      | ended hother _ => exact Answer.ready.inj (shows_unique hshows hother)
      | panicked hother => cases shows_unique hshows hother
      | waited _ hrest => exact absurd hrest not_follows_nil
      | linked _ hrest => exact absurd hrest not_follows_nil
  | panicked hshows =>
      cases hsecond with
      | ended hother _ => cases shows_unique hshows hother
      | panicked => rfl
      | waited _ hrest => exact absurd hrest not_follows_nil
      | linked _ hrest => exact absurd hrest not_follows_nil
  | waited hshows hfollows ih =>
      cases hsecond with
      | ended => exact absurd hfollows not_follows_nil
      | panicked => exact absurd hfollows not_follows_nil
      | waited _ hrest => exact ih hrest
      | linked hother _ => cases shows_unique hshows hother
  | linked hshows hfollows ih =>
      cases hsecond with
      | ended => exact absurd hfollows not_follows_nil
      | panicked => exact absurd hfollows not_follows_nil
      | waited hother _ => cases shows_unique hshows hother
      | linked hother hrest =>
          cases shows_unique hshows hother
          exact ih hrest

/-- The looks lead from a promise to the link of its chain that is looked at next. -/
inductive Leads (promise : Promise) : List (Look σ) → Promise → Prop where
  | start : Leads promise [] promise
  | waited {next : Promise} {outside : Outside σ} {looks : List (Look σ)} :
      Leads promise looks next → Shows next outside .notYet →
      Leads promise (looks ++ [(next, outside)]) next
  | linked {next further : Promise} {outside : Outside σ} {looks : List (Look σ)} :
      Leads promise looks next → Shows next outside (.ready (.pending further)) →
      Leads promise (looks ++ [(next, outside)]) further

/-- From where the looks have led, the chain goes on as it does from the promise. -/
theorem leads_follows_iff {promise next : Promise} {looks : List (Look σ)}
    (hleads : promise.Leads looks next) (more : List (Look σ)) (outcome : Outcome) :
    promise.Follows (looks ++ more) outcome ↔ next.Follows more outcome := by
  induction hleads generalizing more with
  | start => exact Iff.rfl
  | waited _ hshows ih =>
      rw [List.append_assoc, ih]
      refine ⟨fun h ↦ ?_, fun h ↦ .waited hshows h⟩
      cases h with
      | ended hother => cases shows_unique hshows hother
      | panicked hother => cases shows_unique hshows hother
      | waited _ hrest => exact hrest
      | linked hother => cases shows_unique hshows hother
  | linked _ hshows ih =>
      rw [List.append_assoc, ih]
      refine ⟨fun h ↦ ?_, fun h ↦ .linked hshows h⟩
      cases h with
      | ended hother hfinal =>
          cases shows_unique hshows hother
          cases hfinal
      | panicked hother => cases shows_unique hshows hother
      | waited hother => cases shows_unique hshows hother
      | linked hother hrest =>
          cases shows_unique hshows hother
          exact hrest

/-- While there is a link to be looked at, the chain has not been followed to its end. -/
theorem leads_not_follows {promise next : Promise} {looks : List (Look σ)}
    (hleads : promise.Leads looks next) (outcome : Outcome) : ¬ promise.Follows looks outcome := by
  intro hfollows
  rw [← List.append_nil looks, leads_follows_iff hleads] at hfollows
  exact not_follows_nil hfollows

/-- If the follower goes on after a look, the looks lead to where it goes on. -/
theorem leads_after_look {promise next further : Promise} {outside : Outside σ} {answer : Answer}
    {looks : List (Look σ)} (hleads : promise.Leads looks next)
    (hshows : Shows next outside answer)
    (hlook : Follower.afterLook next answer = .following further) :
    promise.Leads (looks ++ [(next, outside)]) further := by
  cases answer with
  | notYet =>
      cases hlook
      exact .waited hleads hshows
  | panicked => cases hlook
  | ready shown =>
      cases shown with
      | done => cases hlook
      | failed => cases hlook
      | pending =>
          cases hlook
          exact .linked hleads hshows

/-- If the follower goes on with a promise after a look, the look prolongs every way from there. -/
theorem after_look_following {promise next : Promise} {outside : Outside σ} {answer : Answer}
    (hshows : Shows promise outside answer)
    (hlook : Follower.afterLook promise answer = .following next) {looks : List (Look σ)}
    {outcome : Outcome} (hrest : Follows next looks outcome) :
    Follows promise ((promise, outside) :: looks) outcome :=
  (leads_follows_iff (leads_after_look .start hshows hlook) looks outcome).mpr hrest

/-- If the follower knows the outcome after a look, the chain has ended with it. -/
theorem after_look_settled {promise : Promise} {outside : Outside σ} {answer : Answer}
    {outcome : Outcome} (hshows : Shows promise outside answer)
    (hlook : Follower.afterLook promise answer = .settled outcome) :
    Follows promise [(promise, outside)] outcome := by
  cases answer with
  | notYet => cases hlook
  | panicked =>
      cases hlook
      exact .panicked hshows
  | ready shown =>
      cases shown with
      | pending => cases hlook
      | done =>
          cases hlook
          exact .ended hshows rfl
      | failed =>
          cases hlook
          exact .ended hshows rfl

end Promise

/-- What is due to the callback of a command, by the outcome that the command returned, whether
the follower could be reached then, and the looks taken since: the outcome itself, or the news
that the follower has stopped, or the end of the chain of the promise returned. -/
inductive Outcome.Yields {σ : Type} [Producer σ] :
    Outcome → Bool → List (Look σ) → Outcome → Prop where
  | atOnce {outcome : Outcome} (reached : Bool) : outcome.isPending = false →
      Yields outcome reached [] outcome
  | lost (promise : Promise) : Yields (.pending promise) false [] (.failed .followerStopped)
  | followed {promise : Promise} {looks : List (Look σ)} {outcome : Outcome} :
      promise.Follows looks outcome → Yields (.pending promise) true looks outcome

end Switchboard
