import Switchboard.Proofs.Follower.Compared

/-!
# The order of completions

A follower takes promises one at a time, so what its task did is the work for the promises that it
has done with, one after the other, and then the looks at the one that it has come to. `InOrder`
says so of a history and the relay at its end, and that no promise and no completion has been lost.
Every action keeps it (`in_order_becomes`), so it holds at the end of every course.
-/

namespace Switchboard

variable {σ : Type}

/-- A promise that the task has done with: the looks that it took, and the outcome that it sent. -/
structure Job (σ : Type) where
  promise : Promise
  looks : List (Look σ)
  outcome : Outcome

/-- What a history tells of the work for a promise: the looks, and then the outcome. -/
def Job.notes (job : Job σ) : List (Relay.Note σ) :=
  job.looks.map .looked ++ [.sent job.outcome]

variable [Producer σ]

/-- The looks were taken along the chain of the earliest of the promises. -/
inductive Promise.Begun : List Promise → List (Look σ) → Prop where
  | untouched (remaining : List Promise) : Begun remaining []
  | following {promise next : Promise} {rest : List Promise} {looks : List (Look σ)} :
      promise.Leads looks next → Begun (promise :: rest) looks
  | settled {promise : Promise} {rest : List Promise} {looks : List (Look σ)}
      {outcome : Outcome} :
      promise.Follows looks outcome → Begun (promise :: rest) looks

/-- Where the task is with the promises that it has not done with, the earliest first, after the
looks that it has taken at the first of them: it has taken none, or is on the way along its chain,
or has reached the end of the chain and will send the outcome next. -/
inductive Pursuit.Reached (queue : List Promise) :
    Option Pursuit → List Promise → List (Look σ) → Prop where
  | waiting : Reached queue none queue []
  | following {promise next : Promise} {looks : List (Look σ)} :
      promise.Leads looks next → Reached queue (some (.following next)) (promise :: queue) looks
  | settled {promise : Promise} {outcome : Outcome} {looks : List (Look σ)} :
      promise.Follows looks outcome →
      Reached queue (some (.settled outcome)) (promise :: queue) looks

variable {queue remaining : List Promise} {pursuit : Option Pursuit} {looks : List (Look σ)}

/-- A promise that is handed over goes behind those that remain. -/
theorem Pursuit.Reached.watched (h : Reached queue pursuit remaining looks) (promise : Promise) :
    Reached (queue ++ [promise]) pursuit (remaining ++ [promise]) looks := by
  cases h with
  | waiting => exact .waiting
  | following hleads => exact .following hleads
  | settled hfollows => exact .settled hfollows

/-- Looks that were begun are begun with more promises behind. -/
theorem Promise.Begun.watched (h : Begun remaining looks) (promise : Promise) :
    Begun (remaining ++ [promise]) looks := by
  cases h with
  | untouched => exact .untouched _
  | following hleads => exact .following hleads
  | settled hfollows => exact .settled hfollows

/-- Wherever the task is, its looks were taken along the chain of the earliest promise. -/
theorem Pursuit.Reached.begun (h : Reached queue pursuit remaining looks) :
    Promise.Begun remaining looks := by
  cases h with
  | waiting => exact .untouched queue
  | following hleads => exact .following hleads
  | settled hfollows => exact .settled hfollows

namespace Relay

/-- What holds of a history and the relay at its end, for the promises done with, those that
remain and the looks at the first of these. The promises accepted are these, in their order; the
task did the work for each before that for the next; each ended as its chain did; the outcomes
were received or wait to be; and unless the task has ended, what remains is what it has before
it. -/
structure InOrder (jobs : List (Job σ)) (remaining : List Promise) (looks : List (Look σ))
    (told : List (Note σ)) (relay : Relay σ) : Prop where
  accepted : told.filterMap Note.accepted? = jobs.map (·.promise) ++ remaining
  work : told.filter Note.isWork = jobs.flatMap Job.notes ++ looks.map .looked
  followed : ∀ job ∈ jobs, job.promise.Follows job.looks job.outcome
  begun : Promise.Begun remaining looks
  received : told.filterMap Note.received? ++ relay.follower.completions = jobs.map (·.outcome)
  reached : relay.follower.ended = false →
    Pursuit.Reached relay.follower.queue relay.follower.pursuit remaining looks
  ended : relay.follower.ended = true →
    relay.follower.accepting = false ∧ relay.follower.pursuit = none ∧ relay.follower.queue = []

/-- Nothing has been done and nothing remains at first. -/
theorem in_order_start (outside : Outside σ) : InOrder [] [] [] [] (start outside) where
  accepted := rfl
  work := rfl
  followed := by simp
  begun := .untouched []
  received := rfl
  reached _ := .waiting
  ended h := nomatch h

variable {jobs : List (Job σ)} {told notes : List (Note σ)} {relay next : Relay σ}

/-- A task that promises can be handed to, or that has one to follow, has not ended. -/
theorem in_order_going (h : InOrder jobs remaining looks told relay)
    (hgoing : relay.follower.accepting = true ∨ relay.follower.pursuit ≠ none ∨
      relay.follower.queue ≠ []) : relay.follower.ended = false := by
  rw [← Bool.not_eq_true]
  intro hended
  obtain ⟨haccepting, hpursuit, hqueue⟩ := h.ended hended
  rcases hgoing with hgoing | hgoing | hgoing
  · cases haccepting.symm.trans hgoing
  · exact hgoing hpursuit
  · exact hgoing hqueue

/-- A promise that is accepted remains to be done. -/
theorem in_order_accepted (h : InOrder jobs remaining looks told relay)
    (hrunning : relay.isRunning = true) (promise : Promise) :
    InOrder jobs (remaining ++ [promise]) looks (told ++ [.accepted promise])
      { relay with follower := { relay.follower with
          queue := relay.follower.queue ++ [promise] } } where
  accepted := by simp [h.accepted]
  work := by simpa using h.work
  followed := h.followed
  begun := h.begun.watched promise
  received := by simpa [List.filterMap_cons] using h.received
  reached hended := (h.reached hended).watched promise
  ended hended := by
    simp only [isRunning, Follower.isRunning, Bool.and_eq_true] at hrunning
    cases (in_order_going h (.inl hrunning.1.1)).symm.trans hended

/-- A completion that is received is the earliest that waits. -/
theorem in_order_received (h : InOrder jobs remaining looks told relay) {outcome : Outcome}
    {rest : List Outcome} (hcompletions : relay.follower.completions = outcome :: rest) :
    InOrder jobs remaining looks (told ++ [.received outcome])
      { relay with follower := { relay.follower with completions := rest } } where
  accepted := by simpa [List.filterMap_cons] using h.accepted
  work := by simpa using h.work
  followed := h.followed
  begun := h.begun
  received := by simpa [hcompletions] using h.received
  reached := h.reached
  ended := h.ended

/-- If nothing is told, it is enough that the task has what remains before it. -/
theorem in_order_moved (h : InOrder jobs remaining looks told relay)
    (hcompletions : next.follower.completions = relay.follower.completions)
    (hreached : next.follower.ended = false →
      Pursuit.Reached next.follower.queue next.follower.pursuit remaining looks)
    (hended : next.follower.ended = true →
      next.follower.accepting = false ∧ next.follower.pursuit = none ∧
        next.follower.queue = []) : InOrder jobs remaining looks told next where
  accepted := h.accepted
  work := h.work
  followed := h.followed
  begun := h.begun
  received := hcompletions ▸ h.received
  reached := hreached
  ended := hended

/-- A look at the promise that is followed is the next along its chain. -/
theorem in_order_looked (h : InOrder jobs remaining looks told relay) {promise : Promise}
    {answer : Answer} (hended : relay.follower.ended = false)
    (hpursuit : relay.follower.pursuit = some (.following promise))
    (hshows : promise.Shows relay.outside answer) (after : Outside σ) :
    InOrder jobs remaining (looks ++ [(promise, relay.outside)])
      (told ++ [.looked (promise, relay.outside)])
      { follower := { relay.follower with
          pursuit := some (Follower.afterLook promise answer) }, outside := after } := by
  have hreached : Pursuit.Reached relay.follower.queue
      (some (Follower.afterLook promise answer)) remaining
      (looks ++ [(promise, relay.outside)]) := by
    have hbefore := h.reached hended
    rw [hpursuit] at hbefore
    cases hbefore with
    | following hleads =>
        cases hlook : Follower.afterLook promise answer with
        | following further =>
            exact .following (Promise.leads_after_look hleads hshows hlook)
        | settled outcome =>
            exact .settled ((Promise.leads_follows_iff hleads _ outcome).mpr
              (Promise.after_look_settled hshows hlook))
  exact {
    accepted := by simpa [List.filterMap_cons] using h.accepted
    work := by simp [h.work]
    followed := h.followed
    begun := hreached.begun
    received := by simpa [List.filterMap_cons] using h.received
    reached _ := hreached
    ended hnext := nomatch hended.symm.trans hnext }

/-- When the outcome that was reached is sent, the first of the promises is done with. -/
theorem in_order_sent (h : InOrder jobs remaining looks told relay) {outcome : Outcome}
    (hended : relay.follower.ended = false)
    (hpursuit : relay.follower.pursuit = some (.settled outcome)) :
    ∃ promise, remaining = promise :: relay.follower.queue ∧
      InOrder (jobs ++ [⟨promise, looks, outcome⟩]) relay.follower.queue []
        (told ++ [.sent outcome])
        { relay with follower := { relay.follower with
            pursuit := none, completions := relay.follower.completions ++ [outcome] } } := by
  have hreached := h.reached hended
  rw [hpursuit] at hreached
  generalize hqueue : relay.follower.queue = queue at hreached
  cases hreached with
  | @settled promise _ _ hfollows =>
      refine ⟨promise, rfl, ?_⟩
      exact {
        accepted := by simpa [List.filterMap_cons] using h.accepted
        work := by simp [h.work, Job.notes]
        followed := by
          intro job hjob
          rcases List.mem_append.mp hjob with hjob | hjob
          · exact h.followed job hjob
          · rw [List.mem_singleton.mp hjob]
            exact hfollows
        begun := .untouched queue
        received := by
          rw [List.map_append, ← h.received]
          simp [List.filterMap_cons]
        reached _ := hqueue ▸ .waiting
        ended hnext := nomatch hended.symm.trans hnext }

/-- Every step of the task keeps the order. -/
theorem in_order_advanced (h : InOrder jobs remaining looks told relay) {more : List (Look σ)}
    {sent : List Outcome} {next : Follower × Outside σ}
    (hadvances : relay.follower.Advances relay.outside more next)
    (hcompletions : next.1.completions = relay.follower.completions ++ sent) :
    ∃ jobs remaining looks,
      InOrder jobs remaining looks (told ++ (more.map .looked ++ sent.map .sent))
        { follower := next.1, outside := next.2 } := by
  cases hadvances with
  | stalled =>
      obtain rfl := List.self_eq_append_right.mp hcompletions
      exact ⟨jobs, remaining, looks, by simpa using h⟩
  | idled hpursuit hqueue =>
      obtain rfl := List.self_eq_append_right.mp hcompletions
      refine ⟨jobs, remaining, looks, ?_⟩
      rw [List.map_nil, List.map_nil, List.append_nil, List.append_nil]
      refine in_order_moved h rfl (fun hnext ↦ h.reached ?_) (fun hnext ↦ ?_)
      · exact in_order_going h (.inl (by simpa using hnext))
      · exact ⟨by simpa using hnext, hpursuit, hqueue⟩
  | @took promise rest hpursuit hqueue =>
      obtain rfl := List.self_eq_append_right.mp hcompletions
      have hended := in_order_going h (.inr (.inr (by simp [hqueue])))
      have hreached := h.reached hended
      rw [hpursuit, hqueue] at hreached
      cases hreached
      refine ⟨jobs, promise :: rest, [], ?_⟩
      rw [List.map_nil, List.map_nil, List.append_nil, List.append_nil]
      exact in_order_moved h rfl (fun _ ↦ .following .start)
        (fun hnext ↦ nomatch hended.symm.trans hnext)
  | looked hpursuit hshows =>
      obtain rfl := List.self_eq_append_right.mp hcompletions
      have hended := in_order_going h (.inr (.inl (by simp [hpursuit])))
      exact ⟨_, _, _, in_order_looked h hended hpursuit hshows _⟩
  | sent hpursuit =>
      obtain rfl := List.append_cancel_left hcompletions
      have hended := in_order_going h (.inr (.inl (by simp [hpursuit])))
      obtain ⟨promise, -, hnext⟩ := in_order_sent h hended hpursuit
      exact ⟨_, _, _, hnext⟩

/-- Every action keeps the order. -/
theorem in_order_becomes (h : InOrder jobs remaining looks told relay)
    (hbecomes : relay.Becomes notes next) :
    ∃ jobs remaining looks, InOrder jobs remaining looks (told ++ notes) next := by
  cases hbecomes with
  | accepted promise hrunning => exact ⟨_, _, _, in_order_accepted h hrunning promise⟩
  | refused promise hrunning =>
      refine ⟨jobs, remaining, looks, ?_⟩
      exact {
        accepted := by simpa [List.filterMap_cons] using h.accepted
        work := by simpa using h.work
        followed := h.followed
        begun := h.begun
        received := by simpa [List.filterMap_cons] using h.received
        reached := h.reached
        ended := h.ended }
  | received hcompletions => exact ⟨_, _, _, in_order_received h hcompletions⟩
  | advanced hadvances hcompletions => exact in_order_advanced h hadvances hcompletions
  | stopped =>
      refine ⟨jobs, remaining, looks, ?_⟩
      rw [List.append_nil]
      exact in_order_moved h rfl h.reached (fun hended ↦ ⟨rfl, (h.ended hended).2⟩)
  | aborted haccepting =>
      refine ⟨jobs, remaining, looks, ?_⟩
      rw [List.append_nil]
      exact in_order_moved h rfl (fun hended ↦ nomatch hended) (fun _ ↦ ⟨haccepting, rfl, rfl⟩)
  | elsewhere busy outside =>
      refine ⟨jobs, remaining, looks, ?_⟩
      rw [List.append_nil]
      exact in_order_moved h rfl h.reached h.ended

/-- Every course keeps the order. -/
theorem in_order_run (outside : Outside σ) (actions : List (Action σ)) :
    ∃ jobs remaining looks,
      InOrder jobs remaining looks ((start outside).history actions)
        ((start outside).run actions) := by
  refine course_induction
    (motive := fun told relay ↦ ∃ jobs remaining looks, InOrder jobs remaining looks told relay)
    ⟨[], [], [], in_order_start outside⟩ ?_ actions
  rintro told relay notes next ⟨jobs, remaining, looks, h⟩ hbecomes
  exact in_order_becomes h hbecomes

omit [Producer σ] in
/-- The outcomes that are sent can be read off the work. -/
theorem sent_of_work (told : List (Note σ)) :
    told.filterMap Note.sent? = (told.filter Note.isWork).filterMap Note.sent? := by
  induction told with
  | nil => rfl
  | cons note rest ih =>
      cases note with
      | sent outcome => exact congrArg (outcome :: ·) ih
      | accepted | refused | looked | received => exact ih

omit [Producer σ] in
/-- In the work for promises, one outcome is sent for each. -/
theorem sent_work_jobs (jobs : List (Job σ)) (looks : List (Look σ)) :
    (jobs.flatMap Job.notes ++ looks.map Note.looked).filterMap Note.sent? =
      jobs.map (·.outcome) := by
  have hlooks : ∀ looks : List (Look σ),
      (looks.map Note.looked).filterMap Note.sent? = [] := by
    intro looks
    simp
  induction jobs with
  | nil => exact hlooks looks
  | cons job rest ih =>
      simp only [List.flatMap_cons, Job.notes, List.append_assoc, List.filterMap_append, hlooks,
        List.nil_append] at ih ⊢
      rw [ih]
      rfl

/-- The outcomes sent are those of the promises done with. -/
theorem in_order_sent_eq (h : InOrder jobs remaining looks told relay) :
    told.filterMap Note.sent? = jobs.map (·.outcome) := by
  rw [sent_of_work, h.work, sent_work_jobs]

/-- The completions received are the first of those that were sent. -/
theorem received_prefix_sent (outside : Outside σ) (actions : List (Action σ)) :
    (start outside).received actions <+: (start outside).sent actions := by
  obtain ⟨jobs, remaining, looks, h⟩ := in_order_run outside actions
  rw [received, sent, in_order_sent_eq h, ← h.received]
  exact List.prefix_append _ _

/-- If the first of the promises that remain has been followed to its end, the next step of the
task sends the outcome. -/
theorem in_order_sends (h : InOrder jobs remaining looks told relay)
    (hended : relay.follower.ended = false) (hexecutor : relay.outside.executor = true)
    {promise : Promise} {rest : List Promise} {outcome : Outcome}
    (hremaining : remaining = promise :: rest) (hfollows : promise.Follows looks outcome) :
    relay.notes .advance = [.sent outcome] := by
  have hreached := h.reached hended
  generalize hpursuit : relay.follower.pursuit = pursuit at hreached
  generalize relay.follower.queue = queue at hreached
  subst hremaining
  cases hreached with
  | waiting => exact absurd hfollows Promise.not_follows_nil
  | following hleads => exact absurd hfollows (Promise.leads_not_follows hleads outcome)
  | settled hother =>
      cases Promise.follows_unique hother hfollows
      simp [notes, Follower.looks, Follower.sends, hended, hexecutor, hpursuit]

/-- What the task has sent and what it goes on to send, if it was told to stop, is the beginning
of what it would have sent otherwise. -/
theorem sent_shutdown (relay : Relay σ) (earlier later : List (Action σ)) :
    relay.sent (earlier ++ .shutdown :: later) <+: relay.sent (earlier ++ later) := by
  simp only [sent, history_append, history, notes, List.nil_append, List.filterMap_append]
  rw [List.prefix_append_right_inj]
  exact sent_prefix (shadows_shutdown (relay.run earlier)) later

/-- A follower relays the outcomes of promises in the order in which the promises were handed over.
In every course, the task has done with the first of the promises that were accepted, one after
the other, so that none was looked at before the outcome of the one before it was sent; for each
it sent the outcome at the end of its chain, and these were received in their order or wait to be;
a promise that has been followed to its end is the next to have its outcome sent. Had a promise
ended with another outcome, such as a fault, the work for those behind it would be the same, and so
would be whether promises are accepted. As long as the follower was not told to stop, promises are
accepted while the executor is up and none is given up; and once it was told to stop, every promise
is refused, and the outcomes received are the first of those that it would have sent otherwise. -/
theorem relays_in_order (outside : Outside σ) (actions : List (Action σ)) :
    let relay := (start outside).run actions
    (∃ jobs remaining looks,
      InOrder jobs remaining looks ((start outside).history actions) relay ∧
      (relay.follower.ended = false → relay.outside.executor = true →
        ∀ promise rest outcome, remaining = promise :: rest → promise.Follows looks outcome →
          relay.notes .advance = [.sent outcome])) ∧
    (∀ outcome, relay.follower.pursuit = some (.settled outcome) → ∀ other later,
      ((relay.settle other).run later).isRunning = (relay.run later).isRunning ∧
      ((relay.settle other).work later).tail = (relay.work later).tail) ∧
    (.shutdown ∉ actions →
      relay.follower.ended = false ∧ relay.isRunning = relay.outside.executor) ∧
    ∀ earlier later, actions = earlier ++ .shutdown :: later →
      (∀ promise, relay.follower.watch relay.outside promise = .error .followerStopped) ∧
      (start outside).received actions <+: (start outside).sent (earlier ++ later) := by
  intro relay
  obtain ⟨jobs, remaining, looks, horder⟩ := in_order_run outside actions
  refine ⟨⟨jobs, remaining, looks, horder, ?_⟩, ?_, ?_, ?_⟩
  · intro hended hexecutor promise rest outcome hremaining hfollows
    exact in_order_sends horder hended hexecutor hremaining hfollows
  · intro outcome hpursuit other later
    have hsettle : relay.settle outcome = relay := by
      rw [settle, ← hpursuit]
    have hsame := work_settle relay other outcome later
    rwa [hsettle] at hsame
  · intro hopen
    have haccepting : relay.follower.accepting = true := accepting_run.mpr ⟨rfl, hopen⟩
    have hended : relay.follower.ended = false := in_order_going horder (.inl haccepting)
    exact ⟨hended, by simp [isRunning, Follower.isRunning, haccepting, hended]⟩
  · rintro earlier later rfl
    refine ⟨fun promise ↦ ?_,
      (received_prefix_sent outside _).trans (sent_shutdown _ earlier later)⟩
    have haccepting : relay.follower.accepting = false := by
      rw [← Bool.not_eq_true, accepting_run]
      simp
    simp [Follower.watch, Follower.isRunning, haccepting]

/-- Collaborators whose polls panic. -/
inductive Hasty where
  | only
  deriving DecidableEq

instance : Producer Hasty where
  poll _ outside := (.panicked, outside)

/-- Two channels on which nothing has been sent. -/
def sampleWorld : Outside Hasty :=
  { channels := [.waiting, .waiting], executor := true, own := .only }

/-- Three promises are handed over. The last is resolved first, the first is abandoned after the
task has looked at it, and the second is a poll, which panics. -/
def sampleRelayed : List (Action Hasty) :=
  [.watch (.channel 0), .watch (.poll 0), .watch (.channel 1),
    .change (·.resolve 1 (.done "late")), .advance, .advance, .change (·.abandon 0), .advance,
    .advance, .receive, .advance, .advance]

/-- In the sample course the first outcome has been received, and the task has the fault of the
second promise. The third is relayed as it would be after an outcome without a fault. If the
follower is told to stop then, it still sends the fault, but nothing behind it. -/
theorem sample_relay_order :
    let relay := (start sampleWorld).run sampleRelayed
    let stopped := sampleRelayed ++ .shutdown :: [.advance, .abort, .advance, .receive]
    relay.isRunning = true ∧
    (start sampleWorld).received sampleRelayed = [.failed .promiseDropped] ∧
    relay.work [.advance, .advance, .advance, .advance] =
      [.sent (.failed .promisePanicked),
        .looked (.channel 1,
          { sampleWorld with channels := [.spent, .holding (.done "late")] }),
        .sent (.done "late")] ∧
    ((relay.settle (.done "fine")).work [.advance, .advance, .advance, .advance]).tail =
      (relay.work [.advance, .advance, .advance, .advance]).tail ∧
    ((start sampleWorld).run stopped).follower.watch
      ((start sampleWorld).run stopped).outside (.poll 1) = .error .followerStopped ∧
    (start sampleWorld).received stopped = [.failed .promiseDropped, .failed .promisePanicked] ∧
    (start sampleWorld).received stopped <+:
      (start sampleWorld).sent (sampleRelayed ++ [.advance, .abort, .advance, .receive]) := by
  intro relay stopped
  obtain ⟨-, hother, hopen, -⟩ := relays_in_order sampleWorld sampleRelayed
  obtain ⟨-, -, -, hstopped⟩ := relays_in_order sampleWorld stopped
  obtain ⟨hrefused, hprefix⟩ := hstopped _ _ rfl
  have hpursuit : relay.follower.pursuit = some (.settled (.failed .promisePanicked)) := rfl
  exact ⟨(hopen (by simp [sampleRelayed])).2, by decide, by decide,
    (hother _ hpursuit _ _).2, hrefused _, by decide, hprefix⟩

end Relay

end Switchboard
