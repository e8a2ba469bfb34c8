import Switchboard.Proofs.Board.Ledger
import Switchboard.Proofs.Board.Slot

/-!
# Delivery of outcomes

Completions do not say whose they are. That each goes to the callback of its own command rests on
there being one command in the slot. `Follower.Holds` says where its promise is and that the looks
taken so far lead there; `Scene.Outstanding` says so of the promise of the parked callback, and
`Scene.Attributed` that every callback served so far got what was due to it. They are kept by
every action, together with the balance of the board.
-/

namespace Switchboard

variable {σ κ : Type}

/-- What is due to a callback is never pending. -/
theorem Outcome.yields_not_pending [Producer σ] {returned outcome : Outcome} {reached : Bool}
    {looks : List (Look σ)} (h : returned.Yields reached looks outcome) :
    outcome.isPending = false := by
  cases h with
  | atOnce _ hfinal => exact hfinal
  | lost => rfl
  | followed hfollows => exact Promise.follows_not_pending hfollows

namespace Follower

/-- The follower holds nothing but one promise, or what it has become: the promise is in the
queue, or the looks lead from it to the link that is looked at next, or they have reached the
outcome, which is known or has been sent. -/
inductive Holds [Producer σ] (promise : Promise) (looks : List (Look σ)) (follower : Follower) :
    Prop where
  | queued : follower.queue = [promise] → follower.pursuit = none → follower.completions = [] →
      looks = [] → Holds promise looks follower
  | following (next : Promise) : follower.queue = [] →
      follower.pursuit = some (.following next) → follower.completions = [] →
      (∀ more outcome, next.Follows more outcome → promise.Follows (looks ++ more) outcome) →
      Holds promise looks follower
  | settled (outcome : Outcome) : follower.queue = [] →
      follower.pursuit = some (.settled outcome) → follower.completions = [] →
      promise.Follows looks outcome → Holds promise looks follower
  | completed (outcome : Outcome) : follower.queue = [] → follower.pursuit = none →
      follower.completions = [outcome] → promise.Follows looks outcome →
      Holds promise looks follower

variable [Producer σ] {follower : Follower} {promise : Promise} {looks : List (Look σ)}

/-- What a follower with nothing in flight is given is all that it holds. -/
theorem holds_queued (hnone : follower.inFlight = 0) (promise : Promise) (busy : Bool) :
    Holds (σ := σ) promise [] { follower with queue := follower.queue ++ [promise], busy } := by
  unfold inFlight at hnone
  have hqueue : follower.queue = [] := List.eq_nil_of_length_eq_zero (by omega)
  have hcompletions : follower.completions = [] := List.eq_nil_of_length_eq_zero (by omega)
  have hpursuit : follower.pursuit = none :=
    Option.toList_eq_nil_iff.mp (List.eq_nil_of_length_eq_zero (by omega))
  exact .queued (by rw [hqueue]; rfl) hpursuit hcompletions rfl

/-- A look leads on along the chain, or reaches its end. -/
theorem holds_looked {next : Promise} {answer : Answer} {outside : Outside σ}
    (hqueue : follower.queue = []) (hcompletions : follower.completions = [])
    (hshows : next.Shows outside answer)
    (hlead : ∀ more outcome, next.Follows more outcome → promise.Follows (looks ++ more) outcome) :
    Holds promise (looks ++ [(next, outside)])
      { follower with pursuit := some (afterLook next answer) } := by
  cases hafter : afterLook next answer with
  | following further =>
      refine .following further hqueue rfl hcompletions fun more outcome hfollows ↦ ?_
      rw [List.append_assoc]
      exact hlead _ _ (Promise.after_look_following hshows hafter hfollows)
  | settled outcome =>
      refine .settled outcome hqueue rfl hcompletions (hlead _ _ ?_)
      exact Promise.after_look_settled hshows hafter

/-- A step of the task takes the promise one step on its way. -/
theorem holds_advances (hholds : follower.Holds promise looks) {outside : Outside σ}
    {taken : List (Look σ)} {next : Follower × Outside σ}
    (h : follower.Advances outside taken next) : next.1.Holds promise (looks ++ taken) := by
  cases h with
  | stalled => simpa using hholds
  | idled hpursuit hqueue =>
      cases hholds with
      | queued hqueued => simp [hqueue] at hqueued
      | following _ _ hfollowing => simp [hpursuit] at hfollowing
      | settled _ _ hsettled => simp [hpursuit] at hsettled
      | completed outcome _ _ hcompletions hfollows =>
          exact .completed outcome hqueue hpursuit hcompletions (by simpa using hfollows)
  | took hpursuit hqueue =>
      cases hholds with
      | queued hqueued _ hcompletions hlooks =>
          rw [hqueue, List.cons.injEq] at hqueued
          obtain ⟨rfl, rfl⟩ := hqueued
          subst hlooks
          exact .following _ rfl rfl hcompletions fun _ _ hfollows ↦ hfollows
      | following _ _ hfollowing => simp [hpursuit] at hfollowing
      | settled _ _ hsettled => simp [hpursuit] at hsettled
      | completed _ hempty => simp [hqueue] at hempty
  | looked hpursuit hshows =>
      cases hholds with
      | queued _ hnone => simp [hpursuit] at hnone
      | following next hqueue hfollowing hcompletions hlead =>
          rw [hpursuit] at hfollowing
          cases hfollowing
          exact holds_looked hqueue hcompletions hshows hlead
      | settled _ _ hsettled => simp [hpursuit] at hsettled
      | completed _ _ hnone => simp [hpursuit] at hnone
  | sent hpursuit =>
      cases hholds with
      | queued _ hnone => simp [hpursuit] at hnone
      | following _ _ hfollowing => simp [hpursuit] at hfollowing
      | settled known hqueue hsettled hcompletions hfollows =>
          rw [hpursuit, Option.some.injEq, Pursuit.settled.injEq] at hsettled
          subst hsettled
          exact .completed _ hqueue rfl (by rw [hcompletions]; rfl) (by simpa using hfollows)
      | completed _ _ hnone => simp [hpursuit] at hnone

/-- A completion that was sent is the end of the chain. -/
theorem follows_of_completed (hholds : follower.Holds promise looks) {outcome : Outcome}
    {rest : List Outcome} (hcompletions : follower.completions = outcome :: rest) :
    promise.Follows looks outcome := by
  cases hholds with
  | queued _ _ hempty | following _ _ _ hempty | settled _ _ _ hempty =>
      simp [hcompletions] at hempty
  | completed _ _ _ hone hfollows =>
      rw [hcompletions, List.cons.injEq] at hone
      exact hone.1 ▸ hfollows

end Follower

namespace Scene

variable [Producer σ]

/-- Before this point of a history the callback's own command was accepted, and the outcome is
what the outcome returned by that command yields with the looks taken since. -/
def OwnOutcome (before : List (Note σ κ)) (callback : κ) (outcome : Outcome) : Prop :=
  ∃ earlier command returned reached since,
    before = earlier ++ .accepted callback command returned reached :: since ∧
      returned.Yields reached (since.filterMap Note.look?) outcome

/-- Every callback served was given the outcome due to it. -/
def Attributed (told : List (Note σ κ)) : Prop :=
  ∀ before callback outcome after,
    told = before ++ .served callback outcome :: after → OwnOutcome before callback outcome

/-- The follower holds the promise that the parked callback's own command returned, and has taken
no look since but at its chain. -/
def Outstanding (told : List (Note σ κ)) (scene : Scene σ κ) : Prop :=
  ∀ callback, scene.board.parked = some callback →
    ∃ earlier command promise since,
      told = earlier ++ .accepted callback command (.pending promise) true :: since ∧
        scene.board.follower.Holds promise (since.filterMap Note.look?)

/-- No callback waits where none is parked. -/
theorem outstanding_unparked (told : List (Note σ κ)) {scene : Scene σ κ}
    (hparked : scene.board.parked = none) : Outstanding told scene := by
  intro callback hsome
  rw [hparked] at hsome
  cases hsome

/-- Nothing was attributed wrongly before anything was told. -/
theorem attributed_nil : Attributed ([] : List (Note σ κ)) := by
  intro before callback outcome after hnil
  simp at hnil

/-- What was told before does not change what is told after it. -/
theorem attributed_append {told notes : List (Note σ κ)} (htold : Attributed told)
    (hnotes : ∀ before callback outcome after, notes = before ++ .served callback outcome :: after →
      OwnOutcome (told ++ before) callback outcome) : Attributed (told ++ notes) := by
  intro before callback outcome after hsplit
  -- The callback is served in the new notes, or in what was told before.
  rcases List.append_eq_append_iff.mp hsplit with ⟨middle, rfl, hlate⟩ | ⟨middle, hearly, hlate⟩
  · exact hnotes middle callback outcome after hlate
  · cases middle with
    | nil =>
        rw [List.append_nil] at hearly
        subst hearly
        simpa using hnotes [] callback outcome after hlate.symm
    | cons note rest =>
        rw [List.cons_append, List.cons.injEq] at hlate
        obtain ⟨rfl, -⟩ := hlate
        exact htold before callback outcome rest hearly

/-- Notes that serve no callback attribute nothing. -/
theorem attributed_unserved {told notes : List (Note σ κ)} (htold : Attributed told)
    (hnone : ∀ callback outcome, .served callback outcome ∉ notes) : Attributed (told ++ notes) :=
  attributed_append htold fun before callback outcome _ hsplit ↦
    absurd (hsplit ▸ List.mem_append_right before List.mem_cons_self) (hnone callback outcome)

/-- A history goes on to attribute outcomes rightly if the next callback is served its own. -/
theorem attributed_concat {told : List (Note σ κ)} (htold : Attributed told) {callback : κ}
    {outcome : Outcome} (hown : OwnOutcome told callback outcome) :
    Attributed (told ++ [.served callback outcome]) := by
  refine attributed_append htold fun before other given after hsplit ↦ ?_
  cases before with
  | nil =>
      rw [List.nil_append, List.cons.injEq, Note.served.injEq] at hsplit
      obtain ⟨⟨rfl, rfl⟩, -⟩ := hsplit
      rwa [List.append_nil]
  | cons _ rest =>
      cases rest <;> simp at hsplit

/-- What keeps delivery right from one action to the next. -/
structure Delivering (told : List (Note σ κ)) (scene : Scene σ κ) : Prop where
  balanced : scene.board.Balanced
  attributed : Attributed told
  outstanding : Outstanding told scene

variable {scene next : Scene σ κ} {told notes : List (Note σ κ)}

/-- While the parked callback and the follower stay as they are, and no look is taken, the promise
is where it was. -/
theorem outstanding_kept (houtstanding : Outstanding told scene)
    (hparked : next.board.parked = scene.board.parked)
    (hfollower : next.board.follower = scene.board.follower)
    (hlooks : notes.filterMap Note.look? = []) : Outstanding (told ++ notes) next := by
  intro callback hsome
  obtain ⟨earlier, command, promise, since, htold, hholds⟩ :=
    houtstanding callback (hparked ▸ hsome)
  refine ⟨earlier, command, promise, since ++ notes, by rw [htold]; simp, ?_⟩
  rw [List.filterMap_append, hlooks, List.append_nil, hfollower]
  exact hholds

/-- Submitting a command delivers at once what is due at once, and otherwise hands over its
promise. -/
theorem delivering_submitted (h : Delivering told scene) {command : String} {callback : κ}
    (hsubmitted : scene.Submitted command callback notes next) :
    Attributed (told ++ notes) ∧ Outstanding (told ++ notes) next := by
  cases hsubmitted with
  | refused =>
      refine ⟨attributed_unserved h.attributed (by simp), ?_⟩
      exact outstanding_kept h.outstanding rfl rfl rfl
  | @served returned outcome reached outside hrunning hparked hyields =>
      refine ⟨?_, outstanding_unparked _ hparked⟩
      have haccepted : Attributed (told ++ [.accepted callback command returned reached]) :=
        attributed_unserved h.attributed (by simp)
      have hown : OwnOutcome (told ++ [.accepted callback command returned reached])
          callback outcome := ⟨told, command, returned, reached, [], rfl, hyields⟩
      simpa using attributed_concat haccepted hown
  | handed promise outside hrunning hparked =>
      refine ⟨attributed_unserved h.attributed (by simp), ?_⟩
      intro other hsome
      rw [Option.some.injEq] at hsome
      subst hsome
      -- The slot was free, so the promise is the only one that the follower holds.
      have hnone := h.balanced.inFlight (Board.accepting_of_running hrunning)
      rw [hparked] at hnone
      exact ⟨told, command, promise, [], rfl, Follower.holds_queued hnone promise true⟩

/-- Receiving completions gives the parked callback its own. -/
theorem delivering_received (h : Delivering told scene) {board : Board σ κ}
    {delivered : List (κ × Outcome)} (hreceives : scene.board.Receives board delivered) :
    let notes := delivered.map fun (callback, outcome) ↦ Note.served callback outcome
    Attributed (told ++ notes) ∧ Outstanding (told ++ notes) { scene with board } := by
  cases hreceives with
  | nothing => simpa using ⟨h.attributed, h.outstanding⟩
  | dropped hparked => simpa using ⟨h.attributed, outstanding_unparked _ hparked⟩
  | @served callback outcome rest kept hparked hcompletions =>
      refine ⟨attributed_concat h.attributed ?_, outstanding_unparked _ rfl⟩
      -- The completion is the end of the chain of the promise that is held, and that is the
      -- parked callback's.
      obtain ⟨earlier, command, promise, since, htold, hholds⟩ := h.outstanding callback hparked
      have hfollows := Follower.follows_of_completed hholds hcompletions
      exact ⟨earlier, command, _, true, since, htold, .followed hfollows⟩

/-- A step of the follower's task takes the promise of the parked callback one step on. -/
theorem delivering_advanced (h : Delivering told scene) {looks : List (Look σ)}
    {after : Follower × Outside σ}
    (hadvances : scene.board.follower.Advances scene.outside looks after) :
    Attributed (told ++ looks.map .looked) ∧
      Outstanding (told ++ looks.map .looked)
        { board := { scene.board with follower := after.1 }, outside := after.2 } := by
  refine ⟨attributed_unserved h.attributed (by simp), ?_⟩
  intro callback hsome
  obtain ⟨earlier, command, promise, since, htold, hholds⟩ := h.outstanding callback hsome
  refine ⟨earlier, command, promise, since ++ looks.map .looked, by rw [htold]; simp, ?_⟩
  rw [List.filterMap_append, looks_looked]
  exact Follower.holds_advances hholds hadvances

/-- Whatever happens, delivery stays right. -/
theorem delivering_becomes (h : Delivering told scene) (hbecomes : scene.Becomes notes next) :
    Delivering (told ++ notes) next := by
  have hbalanced := balanced_becomes h.balanced hbecomes
  suffices hdelivery : Attributed (told ++ notes) ∧ Outstanding (told ++ notes) next from
    ⟨hbalanced, hdelivery.1, hdelivery.2⟩
  cases hbecomes with
  | submitted hsubmitted => exact delivering_submitted h hsubmitted
  | received hreceives => exact delivering_received h hreceives
  | stopped =>
      exact ⟨attributed_unserved h.attributed (by simp), outstanding_unparked _ rfl⟩
  | advanced hadvances => exact delivering_advanced h hadvances
  | aborted =>
      refine ⟨attributed_unserved h.attributed (by simp), ?_⟩
      -- The task gives up only what it was told to, and then no callback is parked.
      cases haccepting : scene.board.follower.accepting with
      | true => exact outstanding_kept h.outstanding rfl (by simp [Follower.abort, haccepting]) rfl
      | false => exact outstanding_unparked _ (h.balanced.stopped haccepting)
  | elsewhere outside hfollower hparked =>
      refine ⟨attributed_unserved h.attributed (by simp), ?_⟩
      exact outstanding_kept h.outstanding hparked hfollower rfl

/-- Delivery is right at the end of every course. -/
theorem delivering_run (settings : Settings) (aliases : AliasTable) (outside : Outside σ)
    (actions : List (Action σ κ)) :
    Delivering ((start settings aliases outside).history actions)
      ((start settings aliases outside).run actions) :=
  run_induction (motive := Delivering)
    ⟨Board.balanced_new settings aliases, attributed_nil, outstanding_unparked _ rfl⟩
    (fun _ _ _ _ hdelivering h ↦ delivering_becomes hdelivering h) actions

/-- Only a submission tells of a submission, and it tells how it was answered. -/
theorem notes_submission {scene : Scene σ κ} {action : Action σ κ} {note : Note σ κ}
    (hmem : note ∈ scene.notes action) {callback : κ} (hgiven : note.given? = some callback) :
    ∃ command, action = .submit command callback ∧ note = scene.submission command callback := by
  have hcallback : callback ∈ action.callback?.toList :=
    notes_given scene action ▸ List.mem_filterMap.mpr ⟨note, hmem, hgiven⟩
  cases action with
  | submit command own =>
      obtain rfl : callback = own := by simpa [Action.callback?] using hcallback
      rcases List.mem_cons.mp hmem with rfl | hturn
      · exact ⟨command, rfl, rfl⟩
      · have hnone := given_notes (scene.board.submit command callback scene.outside).1 false
        exact absurd hgiven (by rw [List.filterMap_eq_nil_iff.mp hnone note hturn]; simp)
  | _ => cases hcallback

/-- What a history tells of a submission is how it was answered when the command was submitted. -/
theorem history_submission {scene : Scene σ κ} {actions : List (Action σ κ)} {note : Note σ κ}
    (hmem : note ∈ scene.history actions) {callback : κ} (hgiven : note.given? = some callback) :
    ∃ earlier command later, actions = earlier ++ .submit command callback :: later ∧
      note = (scene.run earlier).submission command callback := by
  induction actions generalizing scene with
  | nil => cases hmem
  | cons action rest ih =>
      rcases List.mem_append.mp hmem with hnow | hlater
      · obtain ⟨command, rfl, hnote⟩ := notes_submission hnow hgiven
        exact ⟨[], command, rest, rfl, hnote⟩
      · obtain ⟨earlier, command, later, hsplit, hnote⟩ := ih hlater
        exact ⟨action :: earlier, command, later, by rw [hsplit]; rfl, hnote⟩

omit [Producer σ] in
/-- Only a shutdown discards a callback in the course of a shutdown, and it is the one that was
parked. -/
theorem notes_discarded {scene : Scene σ κ} {action : Action σ κ} {callback : κ}
    (hmem : .discarded callback true ∈ scene.notes action) :
    action = .shutdown ∧ scene.board.parked = some callback := by
  have hturn {α : Type} (turn : Turn σ κ α) : .discarded callback true ∉ turn.notes false := by
    simp [Turn.notes]
  cases action with
  | shutdown => exact ⟨rfl, by simpa [notes, Turn.notes, Board.shutdown] using hmem⟩
  | pump | round | collect => exact absurd hmem (hturn _)
  | submit command own =>
      rcases List.mem_cons.mp hmem with hsubmission | hrest
      · unfold submission at hsubmission
        split at hsubmission <;> cases hsubmission
      · exact absurd hrest (hturn _)
  | advance => simp [notes] at hmem
  | _ => cases hmem

/-- If a history tells that a callback was discarded in the course of a shutdown, it was parked
when the board was shut down. -/
theorem history_discarded {scene : Scene σ κ} {actions : List (Action σ κ)} {callback : κ}
    (hmem : .discarded callback true ∈ scene.history actions) :
    ∃ earlier later, actions = earlier ++ .shutdown :: later ∧
      (scene.run earlier).board.parked = some callback := by
  induction actions generalizing scene with
  | nil => cases hmem
  | cons action rest ih =>
      rcases List.mem_append.mp hmem with hnow | hlater
      · obtain ⟨rfl, hparked⟩ := notes_discarded hnow
        exact ⟨[], rest, rfl, hparked⟩
      · obtain ⟨earlier, later, hsplit, hparked⟩ := ih hlater
        exact ⟨action :: earlier, later, by rw [hsplit]; rfl, hparked⟩

/-- Every callback is served once at most, and with its own outcome. Callbacks are told apart by
the numbers of the actions that gave them. Of each submission the history tells how it was
answered. A callback that is served gets an outcome that is not pending: the outcome of its own
command, or the end of the chain of the promise that its own command returned, or the news that
the promise could not be handed over. A callback that was refused is never served. One that was
accepted is served, or still parked in the end, or was parked when the board was shut down and
discarded then, and if it is discarded it is not served. -/
theorem served_once_with_own_outcome (settings : Settings) (aliases : AliasTable)
    (outside : Outside σ) (actions : List (Action σ κ)) :
    let course := numbered 0 actions
    let scene := start settings aliases outside
    let told := scene.history course
    told.filterMap Note.given? = course.filterMap Action.callback? ∧
    (∀ note ∈ told, ∀ callback, note.given? = some callback →
      ∃ earlier command later, course = earlier ++ .submit command callback :: later ∧
        note = (scene.run earlier).submission command callback) ∧
    ((told.filterMap Note.served?).map Prod.fst).Nodup ∧
    (∀ before callback outcome after, told = before ++ .served callback outcome :: after →
      outcome.isPending = false ∧ OwnOutcome before callback outcome) ∧
    (∀ callback fault outcome, .refused callback fault ∈ told → .served callback outcome ∉ told) ∧
    (∀ callback command returned reached, .accepted callback command returned reached ∈ told →
      .discarded callback false ∉ told ∧
      ((∃ outcome, .served callback outcome ∈ told) ∨
        (scene.run course).board.parked = some callback ∨ .discarded callback true ∈ told)) ∧
    (∀ callback, .discarded callback true ∈ told →
      ∃ earlier later, course = earlier ++ .shutdown :: later ∧
        (scene.run earlier).board.parked = some callback) ∧
    (∀ callback stopping outcome, .discarded callback stopping ∈ told →
      .served callback outcome ∉ told) := by
  intro course scene told
  have haccounted := accounted_run settings aliases outside course
  have hdelivering := delivering_run settings aliases outside course
  have hgiven : told.filterMap Note.given? = course.filterMap Action.callback? :=
    history_given scene course
  have hnodup : (told.filterMap Note.given?).Nodup := hgiven ▸ numbered_nodup 0 actions
  refine ⟨hgiven, fun note hmem callback ↦ history_submission hmem, haccounted.served_nodup hnodup,
    ?_, ?_, ?_, fun callback ↦ history_discarded, ?_⟩
  · intro before callback outcome after hsplit
    obtain ⟨earlier, command, returned, reached, since, hbefore, hyields⟩ :=
      hdelivering.attributed before callback outcome after hsplit
    exact ⟨Outcome.yields_not_pending hyields,
      earlier, command, returned, reached, since, hbefore, hyields⟩
  · intro callback fault outcome hrefused
    exact haccounted.unserved_of_discarded hnodup (haccounted.refused callback fault hrefused)
  · intro callback command returned reached haccepted
    refine ⟨fun hdiscarded ↦ ?_, haccounted.accepted_fate hnodup haccepted⟩
    obtain ⟨fault, hrefused⟩ := haccounted.discarded callback hdiscarded
    exact Accounted.not_refused_of_accepted hnodup haccepted hrefused
  · intro callback stopping outcome hdiscarded
    exact haccounted.unserved_of_discarded hnodup hdiscarded

/-- In the sample course the first callback is served the end of its chain, and the second, which
was refused, is never served. -/
theorem sample_own_outcome :
    let told := (start {} .empty (.new ())).history (numbered 0 (sampleCourse ++ [.pump]))
    (∃ before, told = before ++ [.served (2, "first") (.failed .promiseDropped)] ∧
      OwnOutcome before (2, "first") (.failed .promiseDropped)) ∧
    Note.refused (5, "second") .followerBusy ∈ told ∧
    ∀ outcome, Note.served (5, "second") outcome ∉ told := by
  intro told
  obtain ⟨-, -, -, hown, hrefused, -⟩ :=
    served_once_with_own_outcome {} .empty (.new ()) (sampleCourse ++ [.pump])
  have hsplit : told = told.dropLast ++ [.served (2, "first") (.failed .promiseDropped)] := by
    decide
  have hmem : Note.refused (5, "second") .followerBusy ∈ told := by decide
  exact ⟨⟨told.dropLast, hsplit, (hown _ _ _ [] hsplit).2⟩, hmem, fun outcome ↦
    hrefused _ _ outcome hmem⟩

end Scene

end Switchboard
