import Switchboard.Proofs.Follower.Links

/-!
# The end of a chain

A follower to which a promise has been handed over goes along its chain. `Relay.Supplied` is a
course in which the producers do as they like with the links but for what nobody can do to a promise
that was given away. `Progress` says how far the task has come in such a course: which links it has
passed, with the looks it took at each, and which are left, untouched. Changes of the world and
steps of the task keep it, so it holds at the end of every course. `chain_followed` reads off what
the task comes to, and how often it looks at each link.
-/

namespace Switchboard

variable {σ : Type}

/-- A link that has been passed: the worlds in which a look at it found nothing, and the world in
which a look found its outcome. -/
structure Passage (σ : Type) where
  link : Promise
  waits : List (Outside σ)
  found : Outside σ

/-- The looks at a link that has been passed. -/
def Passage.looks (passage : Passage σ) : List (Look σ) :=
  (passage.waits ++ [passage.found]).map (passage.link, ·)

/-- The looks in the given worlds at the first of the links that are left. -/
def looksAt : List Promise → List (Outside σ) → List (Look σ)
  | [], _ => []
  | link :: _, worlds => worlds.map (link, ·)

/-- The looks found nothing, until the last found what is due from the link. -/
structure Passage.Sound [Producer σ] (due : Promise → Outcome) (passage : Passage σ) : Prop where
  waited : ∀ world ∈ passage.waits, passage.link.Shows world .notYet
  yielded : passage.link.Shows passage.found (.ready (due passage.link))

/-- When a look finds an outcome that is not pending, the task knows it. -/
theorem Follower.after_look_final (promise : Promise) {outcome : Outcome}
    (hfinal : outcome.isPending = false) :
    afterLook promise (.ready outcome) = .settled outcome := by
  cases outcome with
  | done | failed => rfl
  | pending => cases hfinal

/-- The outcome that the task knows, if it does. -/
def Pursuit.outcome? : Pursuit → Option Outcome
  | .following _ => none
  | .settled outcome => some outcome

namespace Relay

/-- Whether the task takes a step. -/
def Action.isAdvance : Action σ → Bool
  | .advance => true
  | _ => false

/-- The look that a note tells of. -/
@[simp] def Note.look? : Note σ → Option (Look σ)
  | .looked look => some look
  | _ => none

/-- The outcomes that the task has come to: those that it has sent and that have not been received,
and the one that it will send next. -/
def outcomes (relay : Relay σ) : List Outcome :=
  relay.follower.completions ++ (relay.follower.pursuit.bind Pursuit.outcome?).toList

variable [Producer σ]

/-- The looks that the task takes in a course. -/
def looks (relay : Relay σ) (actions : List (Action σ)) : List (Look σ) :=
  (relay.history actions).filterMap Note.look?

/-- A course, behind the given looks, in which nothing happens to a follower but steps of its task
and changes of the world. The changes do no harm to the links. A poll that is a link keeps to what
is due as long as it has not answered; nothing is known about it when it is asked again. -/
inductive Supplied (due : Promise → Outcome) (links : List Promise) :
    List (Look σ) → Relay σ → List (Action σ) → Prop where
  | nil {looks : List (Look σ)} {relay : Relay σ} : Supplied due links looks relay []
  | change {looks : List (Look σ)} {relay : Relay σ} {other : Outside σ → Outside σ}
      {rest : List (Action σ)} :
      relay.outside.Serves due links (other relay.outside) →
      Supplied due links looks (relay.step (.change other)) rest →
      Supplied due links looks relay (.change other :: rest)
  | advance {looks : List (Look σ)} {relay : Relay σ} {rest : List (Action σ)} :
      (∀ id, .poll id ∈ links → relay.follower.pursuit = some (.following (.poll id)) →
        (∀ world, (.poll id, world) ∈ looks → (Promise.poll id).Shows world .notYet) →
        Promise.Asked due links id relay.outside) →
      Supplied due links (looks ++ relay.follower.looks relay.outside) (relay.step .advance) rest →
      Supplied due links looks relay (.advance :: rest)

/-- Where the task of a follower is to which just one promise has been handed over, with the links
that it has not passed: the first of these waits in the queue, or is followed, or there is none, and
the outcome is known, or has been sent. -/
inductive Stands (outcome : Outcome) : List Promise → Follower → Prop where
  | queued (link : Promise) (rest : List Promise) :
      Stands outcome (link :: rest) { Follower.new with queue := [link] }
  | following (link : Promise) (rest : List Promise) :
      Stands outcome (link :: rest) { Follower.new with pursuit := some (.following link) }
  | settled : Stands outcome [] { Follower.new with pursuit := some (.settled outcome) }
  | sent : Stands outcome [] { Follower.new with completions := [outcome] }

/-- How far the task has come after the given looks and a number of steps: the links are those that
it has passed and those that are left; it has waited in vain at the first of these, so that what is
due can still be had from all of them; and until nothing is left, every step is a look, but for the
one that took the promise from the queue. -/
structure Progress (due : Promise → Outcome) (links : List Promise) (outcome : Outcome)
    (passed : List (Passage σ)) (rest : List Promise) (waits : List (Outside σ))
    (looks : List (Look σ)) (steps : Nat) (relay : Relay σ) : Prop where
  links_eq : links = passed.map (·.link) ++ rest
  sound : ∀ passage ∈ passed, passage.Sound due
  waited : ∀ look ∈ looksAt rest waits, look.1.Shows look.2 .notYet
  looks_eq : looks = passed.flatMap Passage.looks ++ looksAt rest waits
  chain : ∀ link ∈ rest.head?, link.Chain due rest outcome ∧ link.Made relay.outside
  bears : relay.outside.Bears due rest
  stands : Stands outcome rest relay.follower
  steps_le : rest ≠ [] → steps ≤ looks.length + relay.follower.pursuit.toList.length

variable {due : Promise → Outcome} {promise : Promise} {links rest : List Promise}
  {outcome : Outcome} {passed : List (Passage σ)} {waits : List (Outside σ)}
  {before : List (Look σ)} {steps : Nat} {relay : Relay σ}

omit [Producer σ] in
/-- The looks at links that have been passed are looks at these links. -/
theorem link_of_passed {look : Look σ} (hmem : look ∈ passed.flatMap Passage.looks) :
    ∃ passage ∈ passed, look.1 = passage.link ∧
      (look.2 ∈ passage.waits ∨ look.2 = passage.found) := by
  obtain ⟨passage, hpassage, hlook⟩ := List.mem_flatMap.mp hmem
  obtain ⟨world, hworld, rfl⟩ := List.mem_map.mp hlook
  refine ⟨passage, hpassage, rfl, ?_⟩
  rcases List.mem_append.mp hworld with hwait | hfound
  · exact .inl hwait
  · exact .inr (List.mem_singleton.mp hfound)

omit [Producer σ] in
/-- The looks at the first of the links that are left are looks at one of these. -/
theorem link_of_left {look : Look σ} (hmem : look ∈ looksAt rest waits) : look.1 ∈ rest := by
  cases rest with
  | nil => cases hmem
  | cons link rest =>
      obtain ⟨world, -, rfl⟩ := List.mem_map.mp hmem
      exact List.mem_cons_self

/-- When nothing has been done, all links are left. -/
theorem progress_start {world : Outside σ} (hchain : promise.Chain due links outcome)
    (hmade : promise.Made world) (hbears : world.Bears due links) :
    Progress due links outcome [] links [] [] 0
      ((start world).step (.watch promise)) := by
  have hrunning : (start world).isRunning = true := hbears.executor
  rw [(watch_accepted hrunning promise).1]
  obtain ⟨others, rfl⟩ := Promise.chain_head hchain
  refine ⟨rfl, nofun, nofun, rfl, ?_, hbears, .queued promise others, fun _ ↦ Nat.zero_le _⟩
  intro link hlink
  obtain rfl := Option.mem_some_iff.mp hlink
  exact ⟨hchain, hmade⟩

/-- A change that does no harm to the links makes no difference to the task. -/
theorem progress_change
    (h : Progress due links outcome passed rest waits before steps relay)
    {after : Outside σ} (hserves : relay.outside.Serves due links after) :
    Progress due links outcome passed rest waits before steps
      { relay with outside := after } where
  links_eq := h.links_eq
  sound := h.sound
  waited := h.waited
  looks_eq := h.looks_eq
  chain link hlink := ⟨(h.chain link hlink).1, hserves.made link (h.chain link hlink).2⟩
  bears := hserves.bears rest (h.links_eq ▸ List.subset_append_right _ _) h.bears
  stands := h.stands
  steps_le := h.steps_le

/-- A link that is left has not been passed. -/
theorem not_passed (h : Progress due links outcome passed rest waits before steps relay)
    (hnodup : links.Nodup) {link : Promise} (hleft : link ∈ rest) :
    ∀ passage ∈ passed, passage.link ≠ link := by
  intro passage hpassage
  rw [h.links_eq] at hnodup
  exact (List.nodup_append.mp hnodup).2.2 _ (List.mem_map_of_mem hpassage) link hleft

/-- A link that is left has only been looked at in vain. -/
theorem progress_fresh {link : Promise}
    (h : Progress due links outcome passed (link :: rest) waits before steps relay)
    (hnodup : links.Nodup) {world : Outside σ} (hmem : (link, world) ∈ before) :
    link.Shows world .notYet := by
  rw [h.looks_eq] at hmem
  rcases List.mem_append.mp hmem with hpassed | hleft
  · obtain ⟨passage, hpassage, hlink, -⟩ := link_of_passed hpassed
    exact absurd hlink.symm (not_passed h hnodup List.mem_cons_self passage hpassage)
  · exact h.waited _ hleft

/-- The task takes the promise from the queue. -/
theorem step_queued (link : Promise) {world : Outside σ} (hexecutor : world.executor = true) :
    Follower.looks { Follower.new with queue := [link] } world = [] ∧
      step ⟨{ Follower.new with queue := [link] }, world⟩ .advance =
        ⟨{ Follower.new with pursuit := some (.following link) }, world⟩ := by
  simp [step, Follower.looks, Follower.advance, Follower.new, hexecutor]

/-- The task looks at the link that it follows. -/
theorem step_following (link : Promise) {world : Outside σ} (hexecutor : world.executor = true) :
    Follower.looks { Follower.new with pursuit := some (.following link) } world =
        [(link, world)] ∧
      step ⟨{ Follower.new with pursuit := some (.following link) }, world⟩ .advance =
        ⟨{ Follower.new with
            pursuit := some (Follower.afterLook link (link.await world).1) },
          (link.await world).2⟩ := by
  simp [step, Follower.looks, Follower.advance, Follower.new, hexecutor]

/-- The task sends the outcome that it knows. -/
theorem step_settled (outcome : Outcome) {world : Outside σ} (hexecutor : world.executor = true) :
    Follower.looks { Follower.new with pursuit := some (.settled outcome) } world = [] ∧
      step ⟨{ Follower.new with pursuit := some (.settled outcome) }, world⟩ .advance =
        ⟨{ Follower.new with completions := [outcome] }, world⟩ := by
  simp [step, Follower.looks, Follower.advance, Follower.new, hexecutor]

/-- The task has nothing left to do. -/
theorem step_sent (outcome : Outcome) {world : Outside σ} (hexecutor : world.executor = true) :
    Follower.looks { Follower.new with completions := [outcome] } world = [] ∧
      step ⟨{ Follower.new with completions := [outcome] }, world⟩ .advance =
        ⟨{ Follower.new with completions := [outcome] }, world⟩ := by
  simp [step, Follower.looks, Follower.advance, Follower.new, hexecutor]

/-- A look that finds nothing leaves the task where it is. -/
theorem progress_waited {link : Promise} {world after : Outside σ}
    (h : Progress due links outcome passed (link :: rest) waits before steps
      ⟨{ Follower.new with pursuit := some (.following link) }, world⟩)
    (hshows : link.Shows world .notYet) (hbears : after.Bears due (link :: rest))
    (hmade : link.Made after) :
    Progress due links outcome passed (link :: rest) (waits ++ [world])
      (before ++ [(link, world)]) (steps + 1)
      ⟨{ Follower.new with pursuit := some (.following link) }, after⟩ where
  links_eq := h.links_eq
  sound := h.sound
  waited look hlook := by
    rw [looksAt, List.map_append] at hlook
    rcases List.mem_append.mp hlook with hbefore | hnow
    · exact h.waited look hbefore
    · rw [List.mem_singleton.mp hnow]
      exact hshows
  looks_eq := by
    rw [h.looks_eq, looksAt, looksAt, List.map_append, List.append_assoc]
    rfl
  chain other hother := by
    obtain rfl := Option.mem_some_iff.mp hother
    exact ⟨(h.chain _ rfl).1, hmade⟩
  bears := hbears
  stands := .following link rest
  steps_le _ := by
    have hsteps := h.steps_le (List.cons_ne_nil _ _)
    rw [List.length_append, List.length_singleton]
    simp only [Option.toList, List.length_singleton] at hsteps ⊢
    omega

/-- A look that finds what is due from a link puts the link behind those that have been passed. -/
theorem progress_passed {link : Promise} {world : Outside σ}
    (h : Progress due links outcome passed (link :: rest) waits before steps relay)
    (hshows : link.Shows world (.ready (due link))) :
    let more : List (Passage σ) := passed ++ [⟨link, waits, world⟩]
    links = more.map (·.link) ++ rest ∧ (∀ passage ∈ more, passage.Sound due) ∧
      before ++ [(link, world)] = more.flatMap Passage.looks ++ looksAt rest [] := by
  intro more
  have hnone : looksAt rest ([] : List (Outside σ)) = [] := by
    cases rest <;> rfl
  refine ⟨?_, fun passage hmem ↦ ?_, ?_⟩
  · rw [h.links_eq, List.map_append, List.append_assoc]
    rfl
  · rcases List.mem_append.mp hmem with hbefore | hnow
    · exact h.sound passage hbefore
    · rw [List.mem_singleton.mp hnow]
      exact ⟨fun other hother ↦ h.waited (link, other) (List.mem_map_of_mem hother), hshows⟩
  · rw [hnone, h.looks_eq, List.flatMap_append, List.append_nil, List.append_assoc,
      List.flatMap_singleton, Passage.looks, List.map_append]
    rfl

/-- A look that finds what is due from a link takes the task to the next one, or to the end. -/
theorem progress_yielded {link : Promise} {world after : Outside σ}
    (h : Progress due links outcome passed (link :: rest) waits before steps
      ⟨{ Follower.new with pursuit := some (.following link) }, world⟩)
    (hshows : link.Shows world (.ready (due link))) (hbears : after.Bears due rest)
    (hmade : ∀ next, due link = .pending next → next.Made after) :
    Progress due links outcome (passed ++ [⟨link, waits, world⟩]) rest []
      (before ++ [(link, world)]) (steps + 1)
      ⟨{ Follower.new with pursuit := some (Follower.afterLook link (.ready (due link))) },
        after⟩ := by
  obtain ⟨hlinks, hsound, hlooks⟩ := progress_passed h hshows
  have hsteps := h.steps_le (List.cons_ne_nil _ _)
  simp only [Option.toList, List.length_singleton] at hsteps
  have hchain := (h.chain link rfl).1
  generalize hrest : link :: rest = left at hchain
  cases hchain with
  | last hfinal =>
      obtain ⟨-, rfl⟩ := List.cons.inj hrest
      rw [Follower.after_look_final link hfinal]
      exact ⟨hlinks, hsound, nofun, hlooks, nofun, hbears, .settled, fun hleft ↦ absurd rfl hleft⟩
  | link hpending hnext =>
      obtain ⟨-, rfl⟩ := List.cons.inj hrest
      obtain ⟨others, rfl⟩ := Promise.chain_head hnext
      rw [hpending]
      refine ⟨hlinks, hsound, nofun, hlooks, ?_, hbears, .following _ _, fun _ ↦ ?_⟩
      · intro other hother
        obtain rfl := Option.mem_some_iff.mp hother
        exact ⟨hnext, hmade _ hpending⟩
      · rw [List.length_append, List.length_singleton]
        simp only [Option.toList, List.length_singleton]
        omega

/-- The task takes the promise from the queue, or sends the outcome, or has nothing left to do. -/
theorem progress_moved
    (h : Progress due links outcome passed rest waits before steps relay) {follower : Follower}
    (hstands : Stands outcome rest follower)
    (hbegun : rest ≠ [] → relay.follower.pursuit = none ∧ follower.pursuit ≠ none) :
    Progress due links outcome passed rest waits before (steps + 1)
      ⟨follower, relay.outside⟩ where
  links_eq := h.links_eq
  sound := h.sound
  waited := h.waited
  looks_eq := h.looks_eq
  chain := h.chain
  bears := h.bears
  stands := hstands
  steps_le hleft := by
    obtain ⟨hnone, hsome⟩ := hbegun hleft
    obtain ⟨pursuit, hpursuit⟩ := Option.ne_none_iff_exists'.mp hsome
    have hsteps := h.steps_le hleft
    rw [hnone] at hsteps
    rw [hpursuit]
    exact Nat.succ_le_succ hsteps

/-- Every step of the task keeps the progress. -/
theorem progress_advance
    (h : Progress due links outcome passed rest waits before steps relay)
    (hnodup : links.Nodup)
    (hasked : ∀ id, .poll id ∈ links → relay.follower.pursuit = some (.following (.poll id)) →
      (∀ world, (.poll id, world) ∈ before → (Promise.poll id).Shows world .notYet) →
      Promise.Asked due links id relay.outside) :
    ∃ passed rest waits,
      Progress due links outcome passed rest waits
        (before ++ relay.follower.looks relay.outside) (steps + 1) (relay.step .advance) := by
  obtain ⟨follower, world⟩ := relay
  have hexecutor : world.executor = true := h.bears.executor
  have hstands : Stands outcome rest follower := h.stands
  cases hstands with
  | queued link rest =>
      obtain ⟨hlooks, hstep⟩ := step_queued link hexecutor
      rw [hlooks, hstep, List.append_nil]
      exact ⟨_, _, _, progress_moved h (.following link rest) fun _ ↦ ⟨rfl, nofun⟩⟩
  | following link rest =>
      obtain ⟨hlooks, hstep⟩ := step_following link hexecutor
      have hlinks : link :: rest ⊆ links := h.links_eq ▸ List.subset_append_right _ _
      have hfirst : link ∉ rest := by
        rw [h.links_eq] at hnodup
        exact (List.nodup_cons.mp (List.nodup_append.mp hnodup).2.1).1
      have hpoll : ∀ id, link = .poll id → Promise.Asked due links id world := by
        rintro id rfl
        exact hasked id (hlinks List.mem_cons_self) rfl fun _ ↦ progress_fresh h hnodup
      have hshows := link.await_shows world
      rw [hlooks, hstep]
      rcases Outside.await_bears h.bears (h.chain link rfl).2 hfirst hlinks hpoll with
        ⟨hnone, hbears, hmade⟩ | ⟨hready, hbears, hmade⟩
      · rw [hnone] at hshows ⊢
        exact ⟨_, _, _, progress_waited h hshows hbears hmade⟩
      · rw [hready] at hshows ⊢
        exact ⟨_, _, _, progress_yielded h hshows hbears hmade⟩
  | settled =>
      obtain ⟨hlooks, hstep⟩ := step_settled outcome hexecutor
      rw [hlooks, hstep, List.append_nil]
      exact ⟨_, _, _, progress_moved h .sent fun hleft ↦ absurd rfl hleft⟩
  | sent =>
      obtain ⟨hlooks, hstep⟩ := step_sent outcome hexecutor
      rw [hlooks, hstep, List.append_nil]
      exact ⟨_, _, _, progress_moved h .sent fun hleft ↦ absurd rfl hleft⟩

/-- The looks of a course that begins with a step of the task are the look of this step, if it takes
one, and those of the rest. -/
theorem looks_advance (relay : Relay σ) (actions : List (Action σ)) :
    relay.looks (.advance :: actions) =
      relay.follower.looks relay.outside ++ (relay.step .advance).looks actions := by
  simp [looks, history, notes, List.filterMap_append, List.filterMap_map, Function.comp_def]

/-- A supplied course keeps the progress. -/
theorem progress_run {actions : List (Action σ)}
    (h : Progress due links outcome passed rest waits before steps relay) (hnodup : links.Nodup)
    (hsupplied : Supplied due links before relay actions) :
    ∃ passed rest waits,
      Progress due links outcome passed rest waits (before ++ relay.looks actions)
        (steps + actions.countP Action.isAdvance) (relay.run actions) := by
  induction hsupplied generalizing passed rest waits steps with
  | @nil looks relay =>
      have hnone : looks ++ relay.looks [] = looks := List.append_nil looks
      rw [hnone]
      exact ⟨_, _, _, h⟩
  | change hserves _ ih => exact ih (progress_change h hserves)
  | @advance looks relay actions hasked _ ih =>
      obtain ⟨passed, rest, waits, hnext⟩ := progress_advance h hnodup hasked
      obtain ⟨passed, rest, waits, hend⟩ := ih hnext
      have hsteps : steps + (Action.advance :: actions).countP Action.isAdvance =
          steps + 1 + actions.countP Action.isAdvance := by
        rw [List.countP_cons_of_pos rfl]
        omega
      rw [looks_advance, ← List.append_assoc, hsteps]
      exact ⟨passed, rest, waits, hend⟩

omit [Producer σ] in
/-- What the task has come to: nothing as long as links are left, and then the outcome. -/
theorem outcomes_stands {follower : Follower} (h : Stands outcome rest follower)
    (world : Outside σ) :
    Relay.outcomes ⟨follower, world⟩ = if rest = [] then [outcome] else [] := by
  cases h <;> rfl

/-- A link that has been passed is looked at once more than it was looked at in vain. -/
theorem count_passed {passage : Passage σ}
    (h : Progress due links outcome passed rest waits before steps relay) (hnodup : links.Nodup)
    (hmem : passage ∈ passed) :
    before.countP (fun look ↦ look.1 = passage.link) = passage.waits.length + 1 := by
  obtain ⟨front, back, rfl⟩ := List.append_of_mem hmem
  rw [h.links_eq, List.map_append, List.map_cons, List.append_assoc, List.cons_append,
    List.nodup_middle] at hnodup
  have hother := (List.nodup_cons.mp hnodup).1
  rw [List.mem_append, List.mem_append, not_or, not_or] at hother
  obtain ⟨hfront, hback, hrest⟩ := hother
  have hnone : ∀ others : List (Passage σ), passage.link ∉ others.map (·.link) →
      (others.flatMap Passage.looks).countP (fun look ↦ look.1 = passage.link) = 0 := by
    intro others hothers
    refine List.countP_eq_zero.mpr fun look hlook hsame ↦ hothers ?_
    obtain ⟨other, hthere, hlink, -⟩ := link_of_passed hlook
    rw [← of_decide_eq_true hsame, hlink]
    exact List.mem_map_of_mem hthere
  have hleft : (looksAt rest waits).countP (fun look ↦ look.1 = passage.link) = 0 := by
    refine List.countP_eq_zero.mpr fun look hlook hsame ↦ hrest ?_
    rw [← of_decide_eq_true hsame]
    exact link_of_left hlook
  have hself : passage.looks.countP (fun look ↦ look.1 = passage.link) =
      passage.waits.length + 1 := by
    rw [List.countP_eq_length.mpr, Passage.looks, List.length_map, List.length_append]
    · rfl
    · intro look hlook
      obtain ⟨world, -, rfl⟩ := List.mem_map.mp hlook
      exact decide_eq_true rfl
  rw [h.looks_eq, List.flatMap_append, List.flatMap_cons, List.countP_append, List.countP_append,
    List.countP_append, hnone front hfront, hself, hnone back hback, hleft]
  omega

/-- Each link that has been passed took one look that was not in vain. -/
theorem count_vain (hsound : ∀ passage ∈ passed, passage.Sound due) :
    (passed.flatMap Passage.looks).countP (fun look ↦ (look.1.await look.2).1 = .notYet) +
      passed.length = (passed.flatMap Passage.looks).length := by
  induction passed with
  | nil => rfl
  | cons passage others ih =>
      obtain ⟨⟨hwaited, hyielded⟩, hothers⟩ := List.forall_mem_cons.mp hsound
      have hvain : (passage.waits.map (passage.link, ·)).countP
          (fun look ↦ (look.1.await look.2).1 = .notYet) = passage.waits.length := by
        rw [List.countP_eq_length.mpr, List.length_map]
        intro look hlook
        obtain ⟨world, hworld, rfl⟩ := List.mem_map.mp hlook
        exact decide_eq_true (Promise.shows_unique (Promise.await_shows _ _) (hwaited world hworld))
      have hfound : (passage.link.await passage.found).1 ≠ .notYet := by
        rw [Promise.shows_unique (Promise.await_shows _ _) hyielded]
        exact nofun
      have hrest := ih hothers
      simp only [List.flatMap_cons, Passage.looks, List.map_append, List.countP_append, hvain,
        List.map_singleton, List.countP_singleton, hfound, decide_false, Bool.false_eq_true,
        if_false, List.length_append, List.length_map, List.length_cons, List.length_nil] at hrest ⊢
      omega

/-- As long as links are left, the steps are no more than the links and the looks in vain. -/
theorem progress_bounded
    (h : Progress due links outcome passed rest waits before steps relay) (hleft : rest ≠ []) :
    steps ≤ links.length + before.countP fun look ↦ (look.1.await look.2).1 = .notYet := by
  have hvain : (looksAt rest waits).countP (fun look ↦ (look.1.await look.2).1 = .notYet) =
      (looksAt rest waits).length := by
    refine List.countP_eq_length.mpr fun look hlook ↦ decide_eq_true ?_
    exact Promise.shows_unique (Promise.await_shows _ _) (h.waited look hlook)
  have hpassed := count_vain h.sound
  have hsteps := h.steps_le hleft
  have hone : relay.follower.pursuit.toList.length ≤ 1 := by
    cases relay.follower.pursuit <;> simp
  have hlinks : passed.length < links.length := by
    rw [h.links_eq, List.length_append, List.length_map]
    exact Nat.lt_add_of_pos_right (List.length_pos_iff.mpr hleft)
  rw [h.looks_eq, List.countP_append, hvain]
  rw [h.looks_eq, List.length_append] at hsteps
  omega

/-- A link that is abandoned is the last one. -/
theorem progress_abandoned {id : Nat} {world : Outside σ}
    (h : Progress due links outcome passed rest waits before steps relay)
    (hchain : promise.Chain due links outcome) (hmem : (.channel id, world) ∈ before)
    (habandoned : world.channel id = .abandoned) :
    rest = [] ∧ outcome = .failed .promiseDropped := by
  have hshows : (Promise.channel id).Shows world (.ready (.failed .promiseDropped)) :=
    .abandoned habandoned
  rw [h.looks_eq] at hmem
  rcases List.mem_append.mp hmem with hpassed | hleft
  · obtain ⟨passage, hpassage, hlink, hwait | hfound⟩ := link_of_passed hpassed
    · have hvain := (h.sound passage hpassage).waited world hwait
      rw [← hlink] at hvain
      cases Promise.shows_unique hshows hvain
    · have hyielded := (h.sound passage hpassage).yielded
      rw [← hlink, ← hfound] at hyielded
      have hdue : due (.channel id) = .failed .promiseDropped :=
        (Answer.ready.inj (Promise.shows_unique hshows hyielded)).symm
      have hlinks : Promise.channel id ∈ links := by
        rw [h.links_eq]
        exact List.mem_append_left _ (List.mem_map.mpr ⟨passage, hpassage, hlink.symm⟩)
      have hlast := Promise.chain_last hchain hlinks (by rw [hdue]; rfl)
      have houtcome := Promise.chain_end hchain
      rw [hlast, Option.map_some, hdue] at houtcome
      refine ⟨?_, (Option.some.inj houtcome).symm⟩
      by_contra hleft
      rw [h.links_eq, List.getLast?_append_of_ne_nil _ hleft] at hlast
      exact not_passed h (Promise.chain_nodup hchain) (List.mem_of_getLast? hlast) passage hpassage
        hlink.symm
  · cases Promise.shows_unique hshows (h.waited _ hleft)

/-- The task of a follower goes along the chain of a promise to the outcome of its last link, which
is not pending. It does so whenever and in whatever order the producers resolve the links, be it
before the promise is handed over, and however far apart its looks are. It passes the links one
after the other. Each look at a link finds nothing until one finds what is due from it, and no look
at the next one is earlier than this and none at this one is later, so that a poll is asked once
more than it answered that it has nothing yet. What is due from the links that are left has not been
taken. The outcome is known as soon as none is left, and that is so at the latest when the task has
taken more steps than there are links and looks in vain. An abandoned link ends the chain. -/
theorem chain_followed (hchain : promise.Chain due links outcome) :
    outcome.isPending = false ∧ links.getLast?.map due = some outcome ∧
    ∀ (world : Outside σ) (actions : List (Action σ)),
      let relay := (start world).step (.watch promise)
      let looks := relay.looks actions
      world.Bears due links → promise.Made world → Supplied due links [] relay actions →
      ∃ (passed : List (Passage σ)) (rest : List Promise) (waits : List (Outside σ)),
        links = passed.map (·.link) ++ rest ∧
        looks = passed.flatMap Passage.looks ++ looksAt rest waits ∧
        (∀ passage ∈ passed, passage.Sound due ∧
          looks.countP (fun look ↦ look.1 = passage.link) = passage.waits.length + 1) ∧
        (∀ look ∈ looksAt rest waits, look.1.Shows look.2 .notYet) ∧
        (relay.run actions).outside.Bears due rest ∧
        (relay.run actions).outcomes = (if rest = [] then [outcome] else []) ∧
        (links.length + looks.countP (fun look ↦ (look.1.await look.2).1 = .notYet) <
          actions.countP Action.isAdvance → rest = []) ∧
        ∀ id world, (.channel id, world) ∈ looks → world.channel id = .abandoned →
          rest = [] ∧ outcome = .failed .promiseDropped := by
  refine ⟨Promise.chain_not_pending hchain, Promise.chain_end hchain, ?_⟩
  intro world actions relay looks hbears hmade hsupplied
  have hnodup := Promise.chain_nodup hchain
  obtain ⟨passed, rest, waits, h⟩ :=
    progress_run (progress_start hchain hmade hbears) hnodup hsupplied
  rw [List.nil_append, Nat.zero_add] at h
  refine ⟨passed, rest, waits, h.links_eq, h.looks_eq,
    fun passage hmem ↦ ⟨h.sound passage hmem, count_passed h hnodup hmem⟩, h.waited, h.bears,
    outcomes_stands h.stands _, fun hmany ↦ ?_, fun id world ↦ progress_abandoned h hchain⟩
  by_contra hleft
  exact Nat.not_lt_of_le (progress_bounded h hleft) hmany

/-- A collaborator whose poll has nothing yet for a number of times. -/
structure Countdown where
  left : Nat

instance : Producer Countdown where
  poll _ outside :=
    match outside.own.left with
    | 0 => (.ready (.pending (.channel 1)), outside)
    | left + 1 => (.notYet, { outside with own := ⟨left⟩ })

/-- The first channel leads to the poll and this to the second channel, which is left. -/
def sampleDue : Promise → Outcome
  | .channel 0 => .pending (.poll 0)
  | .poll _ => .pending (.channel 1)
  | .channel _ => .failed .promiseDropped

/-- A world with one channel, where the poll has nothing yet for two times. -/
def sampleSource : Outside Countdown :=
  { channels := [.waiting], executor := true, own := ⟨2⟩ }

/-- The channel that is the last link is opened and abandoned before anything happens to the others,
and the first link is resolved when the task has looked at it in vain. -/
def sampleSupply : List (Action Countdown) :=
  [.change (·.openChannel.2), .change (·.abandon 1), .advance, .advance,
    .change (·.resolve 0 (.pending (.poll 0))), .advance, .advance, .advance, .advance, .advance]

/-- The sample chain ends with the news that its last link was abandoned, and the poll was asked
three times. -/
theorem sample_chain_followed :
    let relay : Relay Countdown := (start sampleSource).step (.watch (.channel 0))
    (relay.run sampleSupply).outcomes = [.failed .promiseDropped] ∧
    (relay.looks sampleSupply).countP (fun look ↦ look.1 = .poll 0) = 3 ∧
    ∃ passage : Passage Countdown, passage.link = .poll 0 ∧ passage.Sound sampleDue ∧
      passage.waits.length = 2 := by
  intro relay
  have hchain : (Promise.channel 0).Chain sampleDue [.channel 0, .poll 0, .channel 1]
      (.failed .promiseDropped) := .link rfl (.link rfl (.last rfl))
  have hbears : sampleSource.Bears sampleDue [.channel 0, .poll 0, .channel 1] := by
    refine ⟨rfl, fun id _ hopened ↦ ?_, fun id next _ hnext ↦ ?_⟩
    · obtain rfl : id = 0 := Nat.lt_one_iff.mp hopened
      trivial
    · obtain rfl : id = 0 := Nat.lt_one_iff.mp (Outside.lt_of_holding hnext)
      cases hnext
  -- When the second channel has been opened, the poll keeps to what is due whenever it is asked.
  have hasked {looks : List (Look Countdown)} (relay : Relay Countdown)
      (hopened : 1 < relay.outside.channels.length) (id : Nat)
      (_ : .poll id ∈ [Promise.channel 0, .poll 0, .channel 1])
      (_ : relay.follower.pursuit = some (.following (.poll id)))
      (_ : ∀ world, (.poll id, world) ∈ looks → (Promise.poll id).Shows world .notYet) :
      Promise.Asked sampleDue [.channel 0, .poll 0, .channel 1] id relay.outside := by
    obtain ⟨follower, channels, executor, left⟩ := relay
    rcases left with ⟨_ | left⟩
    · refine ⟨.inr rfl, Outside.serves_own _ _, fun next hnext ↦ ?_⟩
      cases hnext
      exact hopened
    · exact ⟨.inl rfl, Outside.serves_own _ _, nofun⟩
  have hpolls {world : Outside Countdown} (next : Promise)
      (hnext : Outcome.pending (.poll 0) = .pending next) : next.Made world := by
    cases hnext
    trivial
  have hsupplied : Supplied sampleDue [.channel 0, .poll 0, .channel 1] [] relay sampleSupply := by
    refine .change (Outside.serves_open _) (.change (Outside.serves_abandon fun _ ↦ rfl) ?_)
    refine .advance (hasked _ (by decide)) (.advance (hasked _ (by decide)) ?_)
    refine .change (Outside.serves_resolve (fun _ ↦ rfl) hpolls) ?_
    refine .advance (hasked _ (by decide)) (.advance (hasked _ (by decide)) ?_)
    refine .advance (hasked _ (by decide)) (.advance (hasked _ (by decide)) ?_)
    exact .advance (hasked _ (by decide)) .nil
  have hmade : (Promise.channel 0).Made sampleSource := Nat.zero_lt_one
  obtain ⟨passed, rest, waits, hlinks, -, hpassed, -, -, houtcomes, hend, -⟩ :=
    (chain_followed hchain).2.2 sampleSource sampleSupply hbears hmade hsupplied
  obtain rfl := hend (by decide)
  have hcount : (relay.looks sampleSupply).countP (fun look ↦ look.1 = .poll 0) = 3 := by decide
  have hmem : Promise.poll 0 ∈ passed.map (·.link) := by
    rw [List.append_nil] at hlinks
    rw [← hlinks]
    decide
  obtain ⟨passage, hpassage, hlink⟩ := List.mem_map.mp hmem
  obtain ⟨hsound, hlooks⟩ := hpassed passage hpassage
  rw [hlink, hcount] at hlooks
  exact ⟨houtcomes, hcount, passage, hlink, hsound, by omega⟩

end Relay

end Switchboard
