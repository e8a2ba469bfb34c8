import Mathlib.Data.List.Nodup
import Switchboard.Proofs.Follower.Relay
import Switchboard.Proofs.Outside

/-!
# Chains whose links are known

On which outcome a promise ends is up to whoever resolves it, and so is when. `Promise.Chain` says
which promises are the links of a chain when the former is given; no promise is a link twice
(`chain_nodup`). Of the latter nothing is said: `Outside.Bears` says of a world that what is due can
be had from the links, be it that it is still to come or that it waits to be taken, and
`Outside.Serves` of a change that it takes nothing of this away. Resolvers do no harm in this sense
when they send what is due or go away, in whatever order (`serves_resolve`, `serves_abandon`). A
look at the first link finds nothing yet or what is due from it, and leaves the others as they are
(`await_bears`).
-/

namespace Switchboard

variable {σ : Type}

namespace Promise

/-- The links of a chain and the outcome at its end, when each promise ends on the outcome that is
due from it: a promise that ends on a further promise is followed by that one. -/
inductive Chain (due : Promise → Outcome) : Promise → List Promise → Outcome → Prop where
  | last {promise : Promise} : (due promise).isPending = false →
      Chain due promise [promise] (due promise)
  | link {promise next : Promise} {links : List Promise} {outcome : Outcome} :
      due promise = .pending next → Chain due next links outcome →
      Chain due promise (promise :: links) outcome

/-- Whether the promise has been made: a channel must have been opened. -/
def Made (world : Outside σ) : Promise → Prop
  | .channel id => id < world.channels.length
  | .poll _ => True

variable {due : Promise → Outcome} {promise link : Promise} {links : List Promise}
  {outcome : Outcome}

/-- The outcome at the end of a chain is not pending. -/
theorem chain_not_pending (h : Chain due promise links outcome) : outcome.isPending = false := by
  induction h with
  | last hfinal => exact hfinal
  | link _ _ ih => exact ih

/-- A chain begins with its first link. -/
theorem chain_head (h : Chain due promise links outcome) : ∃ rest, links = promise :: rest := by
  cases h with
  | last => exact ⟨[], rfl⟩
  | link => exact ⟨_, rfl⟩

/-- The outcome at the end is what is due from the last link. -/
theorem chain_end (h : Chain due promise links outcome) :
    links.getLast?.map due = some outcome := by
  induction h with
  | last => rfl
  | link _ hrest ih =>
      obtain ⟨rest, rfl⟩ := chain_head hrest
      rwa [List.getLast?_cons_cons]

/-- What is due from the promises leaves no choice of the links. -/
theorem chain_unique {others : List Promise} {other : Outcome}
    (hfirst : Chain due promise links outcome) (hsecond : Chain due promise others other) :
    links = others := by
  induction hfirst generalizing others other with
  | last hfinal =>
      cases hsecond with
      | last => rfl
      | link hpending =>
          rw [hpending] at hfinal
          cases hfinal
  | link hpending _ ih =>
      cases hsecond with
      | last hfinal =>
          rw [hpending] at hfinal
          cases hfinal
      | link hother hrest =>
          cases hpending.symm.trans hother
          rw [ih hrest]

/-- From each link a chain goes on that is no longer than the whole one. -/
theorem chain_from (h : Chain due promise links outcome) (hmem : link ∈ links) :
    ∃ rest, Chain due link rest outcome ∧ rest.length ≤ links.length := by
  induction h with
  | last hfinal =>
      rw [List.mem_singleton.mp hmem]
      exact ⟨_, .last hfinal, Nat.le_refl _⟩
  | link hpending hrest ih =>
      rcases List.mem_cons.mp hmem with rfl | hlater
      · exact ⟨_, .link hpending hrest, Nat.le_refl _⟩
      · obtain ⟨rest, hchain, hlength⟩ := ih hlater
        exact ⟨rest, hchain, Nat.le_succ_of_le hlength⟩

/-- A link from which no further promise is due is the last one. -/
theorem chain_last (h : Chain due promise links outcome) (hmem : link ∈ links)
    (hfinal : (due link).isPending = false) : links.getLast? = some link := by
  induction h with
  | last =>
      rw [List.mem_singleton.mp hmem]
      rfl
  | link hpending hrest ih =>
      rcases List.mem_cons.mp hmem with rfl | hlater
      · rw [hpending] at hfinal
        cases hfinal
      · obtain ⟨rest, rfl⟩ := chain_head hrest
        exact List.getLast?_cons_cons.trans (ih hlater)

/-- No promise is a link of a chain twice, or the chain would go on forever. -/
theorem chain_nodup (h : Chain due promise links outcome) : links.Nodup := by
  induction h with
  | last => exact List.nodup_singleton _
  | @link promise next links outcome hpending hrest ih =>
      refine List.nodup_cons.mpr ⟨fun hagain ↦ ?_, ih⟩
      obtain ⟨rest, hchain, hlength⟩ := chain_from hrest hagain
      rw [← chain_unique (.link hpending hrest) hchain, List.length_cons] at hlength
      exact Nat.not_succ_le_self _ hlength

end Promise

/-- What is due can still be had from a channel: nothing has been sent, or just this and it has not
been taken, or the resolver has gone away and that is what is due. -/
def Channel.Owes (due : Outcome) : Channel → Prop
  | .waiting => True
  | .holding outcome => outcome = due
  | .abandoned => due = .failed .promiseDropped
  | .spent => False

namespace Outside

/-- What is due can be had from each of the links, as far as it has been made, and the executor is
up. A promise that is held has been made before it was sent. -/
structure Bears (due : Promise → Outcome) (links : List Promise) (world : Outside σ) : Prop where
  executor : world.executor = true
  owes : ∀ id, .channel id ∈ links → id < world.channels.length →
    (world.channel id).Owes (due (.channel id))
  made : ∀ id next, .channel id ∈ links → world.channel id = .holding (.pending next) →
    next.Made world

/-- A change of the world that does no harm to the links: promises remain, and what could be had
from links can be had from them afterwards. -/
structure Serves (due : Promise → Outcome) (links : List Promise) (before after : Outside σ) :
    Prop where
  made : ∀ promise : Promise, promise.Made before → promise.Made after
  bears : ∀ rest, rest ⊆ links → before.Bears due rest → after.Bears due rest

variable {due : Promise → Outcome} {links rest : List Promise} {link : Promise} {id : Nat}
  {world : Outside σ}

/-- What can be had from all links can be had from those behind the first. -/
theorem Bears.tail (h : world.Bears due (link :: rest)) : world.Bears due rest where
  executor := h.executor
  owes id hmem := h.owes id (List.mem_cons_of_mem _ hmem)
  made id next hmem := h.made id next (List.mem_cons_of_mem _ hmem)

/-- Setting a channel makes no promise and unmakes none. -/
theorem made_set (promise : Promise) (world : Outside σ) (id : Nat) (channel : Channel) :
    promise.Made (world.setChannel id channel) ↔ promise.Made world := by
  cases promise with
  | poll => exact Iff.rfl
  | channel other =>
      show other < (world.channels.set id channel).length ↔ other < world.channels.length
      rw [List.length_set]

/-- Setting a channel does no harm if what is due can be had from it then. -/
theorem bears_set (h : world.Bears due rest) {channel : Channel}
    (howes : .channel id ∈ rest → channel.Owes (due (.channel id)))
    (hmade : ∀ next, channel = .holding (.pending next) → next.Made world) :
    (world.setChannel id channel).Bears due rest where
  executor := h.executor
  owes other hmem hopened := by
    rw [setChannel, List.length_set] at hopened
    by_cases hsame : other = id
    · subst hsame
      rw [channel_set_self hopened]
      exact howes hmem
    · rw [channel_set_other hsame]
      exact h.owes other hmem hopened
  made other next hmem hholding := by
    rw [made_set]
    have hopened := lt_of_holding hholding
    rw [setChannel, List.length_set] at hopened
    by_cases hsame : other = id
    · subst hsame
      rw [channel_set_self hopened] at hholding
      exact hmade next hholding
    · rw [channel_set_other hsame] at hholding
      exact h.made other next hmem hholding

/-- What goes on elsewhere does no harm. -/
theorem serves_own (world : Outside σ) (own : σ) : world.Serves due links { world with own } where
  made _ hmade := hmade
  bears _ _ h := ⟨h.executor, h.owes, h.made⟩

/-- A change to a channel does no harm if what is due can be had from it then. -/
theorem serves_set {channel : Channel}
    (howes : .channel id ∈ links → channel.Owes (due (.channel id)))
    (hmade : ∀ next, channel = .holding (.pending next) → next.Made world) :
    world.Serves due links (world.setChannel id channel) where
  made promise := (made_set promise world id channel).mpr
  bears _ hrest h := bears_set h (fun hmem ↦ howes (hrest hmem)) hmade

/-- A resolver does no harm if it sends what is due, and a promise only when that has been made. -/
theorem serves_resolve {outcome : Outcome}
    (hdue : .channel id ∈ links → outcome = due (.channel id))
    (hmade : ∀ next, outcome = .pending next → next.Made world) :
    world.Serves due links (world.resolve id outcome) := by
  unfold resolve
  split
  · exact serves_set hdue fun next hnext ↦ hmade next (Channel.holding.inj hnext)
  · exact serves_own world world.own

/-- A resolver does no harm when it goes away if that is what is due. -/
theorem serves_abandon (hdue : .channel id ∈ links → due (.channel id) = .failed .promiseDropped) :
    world.Serves due links (world.abandon id) := by
  unfold abandon
  split
  · exact serves_set hdue nofun
  · exact serves_own world world.own

/-- Opening a channel does no harm. -/
theorem serves_open (world : Outside σ) : world.Serves due links world.openChannel.2 := by
  have hlength : world.openChannel.2.channels.length = world.channels.length + 1 :=
    List.length_append
  have hmade : ∀ promise : Promise, promise.Made world → promise.Made world.openChannel.2 := by
    intro promise hmade
    cases promise with
    | poll => trivial
    | channel id =>
        show id < world.openChannel.2.channels.length
        rw [hlength]
        exact Nat.lt_succ_of_lt hmade
  refine ⟨hmade, fun rest _ h ↦ ⟨h.executor, fun id hmem hopened ↦ ?_, fun id next hmem hnext ↦ ?_⟩⟩
  · rw [hlength] at hopened
    rcases Nat.lt_succ_iff_lt_or_eq.mp hopened with hbefore | rfl
    · rw [channel_open_other hbefore]
      exact h.owes id hmem hbefore
    · rw [channel_open_new]
      trivial
  · have hopened := lt_of_holding hnext
    rw [hlength] at hopened
    rcases Nat.lt_succ_iff_lt_or_eq.mp hopened with hbefore | rfl
    · rw [channel_open_other hbefore] at hnext
      exact hmade next (h.made id next hmem hnext)
    · rw [channel_open_new] at hnext
      cases hnext

end Outside

variable [Producer σ] {due : Promise → Outcome} {promise : Promise} {links rest : List Promise}
  {outcome : Outcome}

/-- What the producer of a poll does when it is asked in a world: it has no answer yet or gives the
one that is due, and does no harm to the links. A promise that it gives has been made. -/
structure Promise.Asked (due : Promise → Outcome) (links : List Promise) (id : Nat)
    (world : Outside σ) : Prop where
  answers : (Producer.poll id world).1 = .notYet ∨
    (Producer.poll id world).1 = .ready (due (.poll id))
  serves : world.Serves due links (Producer.poll id world).2
  made : ∀ next, (Producer.poll id world).1 = .ready (.pending next) →
    next.Made (Producer.poll id world).2

/-- A look at the first of the links finds nothing yet, and then what is due can still be had from
all of them; or it finds what is due from this one, and then the others are still untouched. -/
theorem Outside.await_bears {link : Promise} {world : Outside σ}
    (hbears : world.Bears due (link :: rest)) (hmade : link.Made world) (hfirst : link ∉ rest)
    (hlinks : link :: rest ⊆ links)
    (hasked : ∀ id, link = .poll id → Promise.Asked due links id world) :
    (link.await world).1 = .notYet ∧ (link.await world).2.Bears due (link :: rest) ∧
      link.Made (link.await world).2 ∨
    (link.await world).1 = .ready (due link) ∧ (link.await world).2.Bears due rest ∧
      ∀ next, due link = .pending next → next.Made (link.await world).2 := by
  cases link with
  | poll id =>
      obtain ⟨hanswers, hserves, hnext⟩ := hasked id rfl
      rcases hanswers with hnone | hready
      · exact .inl ⟨hnone, hserves.bears _ hlinks hbears, trivial⟩
      · refine .inr ⟨hready, (hserves.bears _ hlinks hbears).tail, fun next hpending ↦ ?_⟩
        exact hnext next (hready.trans (congrArg Answer.ready hpending))
  | channel id =>
      have howes := hbears.owes id List.mem_cons_self hmade
      have htaken : (world.setChannel id .spent).Bears due rest :=
        bears_set hbears.tail (fun hmem ↦ absurd hmem hfirst) nofun
      cases hchannel : world.channel id with
      | waiting =>
          rw [Promise.await_waiting hchannel]
          exact .inl ⟨rfl, hbears, hmade⟩
      | spent =>
          rw [hchannel] at howes
          exact howes.elim
      | abandoned =>
          rw [hchannel] at howes
          have hdue : due (.channel id) = .failed .promiseDropped := howes
          rw [Promise.await_abandoned hchannel, hdue]
          refine .inr ⟨rfl, htaken, fun next hpending ↦ ?_⟩
          cases hpending
      | holding outcome =>
          rw [hchannel] at howes
          have hdue : outcome = due (.channel id) := howes
          rw [Promise.await_holding hchannel, ← hdue]
          refine .inr ⟨rfl, htaken, fun next hpending ↦ ?_⟩
          rw [made_set]
          exact hbears.made id next List.mem_cons_self (hpending ▸ hchannel)

end Switchboard
