import Switchboard.Proofs.Routes

/-!
# Tables made by bindings

Handlers are proposed one after the other, some with texts that are no templates, or whose patterns
the engine refuses, and some with texts that were bound before. `Routes.bindAll` makes a table of
them. `parts_agree` says that its parts agree at every point, and what the next binding does to
them: a text that was bound before replaces one route and its description, a new one adds both, and
one that is rejected changes nothing.
-/

namespace Switchboard

variable {σ : Type}

/-- A handler with the text and the description under which it is to be bound. -/
structure Proposal (σ : Type) where
  text : String
  handler : Handler σ
  description : String

namespace Routes

open Bindings

/-- The table after several handlers were bound, or not, one after the other. -/
def bindAll (routes : Routes σ) (matcher : Matcher) (proposals : List (Proposal σ)) : Routes σ :=
  proposals.foldl
    (fun routes proposal ↦
      (routes.bind matcher proposal.text proposal.handler proposal.description).2.2)
    routes

/-- One of the proposals was to bind the text, and it succeeded when its turn came. -/
def Bound (matcher : Matcher) (proposals : List (Proposal σ)) (text : String) : Prop :=
  ∃ earlier proposal later binding, proposals = earlier ++ proposal :: later ∧
    proposal.text = text ∧
    ((empty.bindAll matcher earlier).bind matcher proposal.text proposal.handler
      proposal.description).1 = .ok binding

/-- A table is what its history says with the bindings of the proposals. -/
theorem reads_bind_all {routes : Routes σ} {history : Bindings σ} (hreads : routes.Reads history)
    (matcher : Matcher) (proposals : List (Proposal σ)) :
    (routes.bindAll matcher proposals).Reads
      (history ++
        proposals.flatMap fun proposal ↦ binding matcher proposal.text proposal.handler) := by
  induction proposals generalizing routes history with
  | nil =>
      rw [List.flatMap_nil, List.append_nil]
      exact hreads
  | cons proposal rest ih =>
      rw [List.flatMap_cons, ← List.append_assoc]
      exact ih (reads_bind hreads matcher proposal.text proposal.handler proposal.description)

/-- Whether a binding fails has nothing to do with the table. -/
theorem bind_error_iff (routes : Routes σ) (matcher : Matcher) (text : String)
    (handler : Handler σ) (description : String) (fault : TemplateFault) :
    (routes.bind matcher text handler description).1 = .error fault ↔
      Template.compile matcher text = .error fault := by
  unfold bind
  cases Template.compile matcher text <;> simp

/-- The texts of a table are those that were bound before. -/
theorem mem_raws_iff (matcher : Matcher) (proposals : List (Proposal σ)) (text : String) :
    text ∈ ((empty : Routes σ).bindAll matcher proposals).entries.map (·.template.raw) ↔
      Bound matcher proposals text := by
  have hreads := reads_bind_all (reads_empty (σ := σ)) matcher proposals
  rw [hreads.order, order, List.mem_eraseDups, List.nil_append, List.mem_map]
  constructor
  · rintro ⟨entry, hentry, rfl⟩
    obtain ⟨proposal, hproposal, hbinding⟩ := List.mem_flatMap.mp hentry
    obtain ⟨earlier, later, rfl⟩ := List.append_of_mem hproposal
    unfold binding at hbinding
    cases hcompile : Template.compile matcher proposal.text with
    | error => simp [hcompile] at hbinding
    | ok template =>
        obtain rfl : entry = (proposal.text, proposal.handler) := by
          simpa [hcompile] using hbinding
        cases hresult : ((empty.bindAll matcher earlier).bind matcher proposal.text
            proposal.handler proposal.description).1 with
        | error fault => simp [(bind_error_iff ..).mp hresult] at hcompile
        | ok kind => exact ⟨earlier, proposal, later, kind, rfl, rfl, hresult⟩
  · rintro ⟨earlier, proposal, later, kind, rfl, rfl, hresult⟩
    refine ⟨(proposal.text, proposal.handler), List.mem_flatMap.mpr ⟨proposal, by simp, ?_⟩, rfl⟩
    unfold binding
    cases hcompile : Template.compile matcher proposal.text with
    | error fault => simp [(bind_error_iff ..).mpr hcompile] at hresult
    | ok template => simp

/-- The parts of a table agree whatever was bound, and they are maps: no pattern is there twice, a
pattern has a place if and only if the route at this place has it, a text has a description if and
only if a route has both, and all parts have one size. The next binding fails exactly if its text
cannot be compiled, and then nothing changes. It replaces a route exactly if its text is one that
was bound before; then the handler and the description of this route change, and nothing else. With
any other text the route goes behind all others. -/
theorem parts_agree (matcher : Matcher) (proposals : List (Proposal σ)) :
    let routes := (empty : Routes σ).bindAll matcher proposals
    (routes.entries.map (·.template.pattern)).Nodup ∧
    (∀ pattern slot, routes.slots.lookup pattern = some slot ↔
      routes.entries[slot]?.map (·.template.pattern) = some pattern) ∧
    (∀ pattern, routes.contains pattern = true ↔
      ∃ route ∈ routes.entries, route.template.pattern = pattern) ∧
    (∀ raw description, routes.descriptions.lookup raw = some description ↔
      ∃ route ∈ routes.entries, route.template.raw = raw ∧ route.description = description) ∧
    (routes.slots.map Prod.fst).Nodup ∧ (routes.descriptions.map Prod.fst).Nodup ∧
    routes.slots.length = routes.entries.length ∧
    routes.descriptions.length = routes.entries.length ∧
    ∀ text handler description,
      let result := (routes.bind matcher text handler description).1
      let after := (routes.bind matcher text handler description).2.2
      (∀ fault, result = .error fault ↔ Template.compile matcher text = .error fault) ∧
      (∀ fault, result = .error fault → after = routes) ∧
      (result = .ok .replaced ↔ Bound matcher proposals text) ∧
      (result = .ok .replaced → ∃ slot previous, routes.entries[slot]? = some previous ∧
        previous.template.raw = text ∧
        after.entries = routes.entries.set slot ⟨previous.template, handler, description⟩ ∧
        after.slots = routes.slots ∧
        ∀ raw, after.descriptions.lookup raw =
          if raw = text then some description else routes.descriptions.lookup raw) ∧
      (result = .ok .inserted → ∃ template, template.raw = text ∧
        after.entries = routes.entries ++ [⟨template, handler, description⟩]) := by
  intro routes
  have haligned : routes.Aligned := (reads_bind_all reads_empty matcher proposals).toAligned
  refine ⟨haligned.patterns_nodup, haligned.place, haligned.contains_iff, haligned.described,
    haligned.places, Dictionary.names_nodup haligned.ascending, haligned.slots_length,
    haligned.descriptions_length, fun text handler description ↦ ?_⟩
  intro result after
  refine ⟨bind_error_iff routes matcher text handler description, ?_⟩
  have hbound : text ∈ routes.entries.map (·.template.raw) ↔ Bound matcher proposals text :=
    mem_raws_iff matcher proposals text
  rw [← hbound]
  have hbinds := bind_cases haligned matcher text handler description
  simp only [result, after]
  generalize routes.bind matcher text handler description = outcome at hbinds ⊢
  cases hbinds with
  | @rejected fault hcompile =>
      have hunbound : text ∉ routes.entries.map (·.template.raw) := by
        -- A text in the table was compiled when it was bound.
        rw [hbound]
        rintro ⟨_, proposal, _, kind, -, rfl, hresult⟩
        rw [(bind_error_iff ..).mpr hcompile] at hresult
        cases hresult
      refine ⟨fun _ _ ↦ rfl, iff_of_false ?_ hunbound, ?_, ?_⟩ <;> intro h <;> cases h
  | @bound template _ _ _ hraw hinserts =>
      subst hraw
      refine ⟨fun _ h ↦ (nomatch h), ?_⟩
      cases hinserts with
      | @replaced slot previous hprevious htemplate =>
          obtain rfl : previous.template = template := htemplate
          have hmem := List.mem_map_of_mem (f := (·.template.raw)) (List.mem_of_getElem? hprevious)
          refine ⟨iff_of_true rfl hmem, fun _ ↦ ?_, fun h ↦ (nomatch h)⟩
          refine ⟨slot, previous, hprevious, rfl, rfl, rfl, fun raw ↦ ?_⟩
          exact Dictionary.lookup_insert _ raw description routes.descriptions
      | inserted hnew =>
          exact ⟨iff_of_false (fun h ↦ (nomatch h)) hnew, fun h ↦ (nomatch h),
            fun _ ↦ ⟨template, rfl, rfl⟩⟩

/-- Two texts are bound, one that is no template, and the first one again. -/
def sampleProposals : List (Proposal Unit) :=
  [⟨"go [uint]", .runAlias, "first"⟩, ⟨"go", .runAlias, "second"⟩, ⟨"go [", .runAlias, "third"⟩,
    ⟨"go [uint]", .runAlias, "fourth"⟩]

/-- The sample table has two routes. Binding the first text once more leaves the places as they are,
replaces its description, and does not touch the other one. -/
theorem sample_rebinding :
    let routes := (empty : Routes Unit).bindAll .sized sampleProposals
    let after := (routes.bind .sized "go [uint]" .runAlias "fifth").2.2
    routes.descriptions.length = 2 ∧ routes.slots.lookup "go" = some 1 ∧
    Bound .sized sampleProposals "go [uint]" ∧ after.slots = routes.slots ∧
    after.descriptions.lookup "go [uint]" = some "fifth" ∧
    after.descriptions.lookup "go" = some "second" ∧
    (routes.bind .sized "go ]" .runAlias "").2.2 = routes := by
  intro routes after
  obtain ⟨-, hplace, -, -, -, -, -, hsize, hbind⟩ := parts_agree .sized sampleProposals
  obtain ⟨-, -, hbound, hreplaced, -⟩ := hbind "go [uint]" .runAlias "fifth"
  obtain ⟨-, -, -, -, -, hslots, hdescriptions⟩ := hreplaced rfl
  obtain ⟨-, hkept, -⟩ := hbind "go ]" .runAlias ""
  exact ⟨hsize, (hplace "go" 1).mpr rfl, hbound.mp rfl, hslots, hdescriptions "go [uint]",
    hdescriptions "go", hkept _ rfl⟩

end Routes

end Switchboard
