import Switchboard.Proofs.Routes.Proposals

/-!
# Telling templates apart by their patterns

A routing table finds the route that a binding replaces by the pattern of its template. That is
right because a pattern belongs to one template only: literals may hold any piece of a pattern, but
in a pattern they are spelled so that they cannot be taken for a slot (`Item.code_injective`). So a
route is only ever replaced by one whose template has the same text, and its description stays where
it is (`vacate_kept`).
-/

namespace Switchboard

namespace Routes

variable {σ : Type}

/-- A route that has the pattern of a template has its text as well, so making room for the template
takes no description away. -/
theorem vacate_kept {routes : Routes σ} (haligned : routes.Aligned) {text : String}
    {template : Template} (hread : Template.read text = .ok template) {slot : Nat}
    (hslot : routes.slot? template.pattern = some slot) :
    ∃ previous, routes.entries[slot]? = some previous ∧ previous.template.raw = text ∧
      ∀ descriptions, routes.vacate slot template.raw descriptions = descriptions := by
  obtain ⟨previous, hprevious, hpattern⟩ :=
    Option.map_eq_some_iff.mp ((haligned.place _ _).mp hslot)
  have hmem := List.mem_of_getElem? hprevious
  have hraw : previous.template.raw = text :=
    Template.text_of_pattern (haligned.read previous hmem) hread hpattern
  refine ⟨previous, hprevious, hraw, fun descriptions ↦ ?_⟩
  rw [vacate, hprevious, Template.raw_of_read hread]
  exact if_pos hraw

/-- The pattern of a template tells its segments, and the segments tell the text that it was
compiled from; so templates with one pattern match the same commands and take the same arguments
from them. Whatever was bound to a table, a route in the place of a pattern was bound to the text
that the pattern belongs to, and no description goes when it is replaced. -/
theorem pattern_identifies (matcher : Matcher) :
    (∀ first second left right, Template.compile matcher first = .ok left →
      Template.compile matcher second = .ok right →
      (left.pattern = right.pattern ↔ left.segments = right.segments) ∧
      (left.segments = right.segments ↔ first = second) ∧
      (left.pattern = right.pattern → ∀ command, left.isMatch command = right.isMatch command ∧
        ∀ limit, left.captures command limit = right.captures command limit)) ∧
    ∀ (proposals : List (Proposal σ)) (text : String) (template : Template) (slot : Nat),
      let routes := (empty : Routes σ).bindAll matcher proposals
      Template.compile matcher text = .ok template → routes.slot? template.pattern = some slot →
      ∃ previous, routes.entries[slot]? = some previous ∧ previous.template.raw = text ∧
        ∀ descriptions, routes.vacate slot template.raw descriptions = descriptions := by
  constructor
  · intro first second left right hfirst hsecond
    have hleft := Template.read_of_compile hfirst
    have hright := Template.read_of_compile hsecond
    have hpattern (h : left.pattern = right.pattern) : left = right :=
      Template.eq_of_pattern hleft hright h
    have hsegments (h : left.segments = right.segments) : left.pattern = right.pattern :=
      congrArg (fun segments ↦ Template.pattern ⟨segments⟩) h
    refine ⟨⟨?_, hsegments⟩, ⟨?_, ?_⟩, ?_⟩
    · intro h
      rw [hpattern h]
    · intro h
      exact Template.text_of_pattern hleft hright (hsegments h)
    · rintro rfl
      rw [Except.ok.inj (hleft.symm.trans hright)]
    · intro h command
      rw [hpattern h]
      exact ⟨rfl, fun _ ↦ rfl⟩
  · intro proposals text template slot routes hcompile hslot
    have haligned := (reads_bind_all reads_empty matcher proposals).toAligned
    exact vacate_kept haligned (Template.read_of_compile hcompile) hslot

/-- A slot, and the same slot as a literal that is spelled like its group. -/
def sampleGroups : List (Proposal Unit) :=
  [⟨"go [str]", .runAlias, "slot"⟩, ⟨"go (.*)", .runAlias, "literal"⟩]

/-- The literal does not have the pattern of the slot, and it is found in its own place. -/
theorem sample_groups :
    let routes := (empty : Routes Unit).bindAll .sized sampleGroups
    Template.pattern ⟨[.literal "go ", .placeholder .str]⟩ ≠
        Template.pattern ⟨[.literal "go (.*)"]⟩ ∧
      ∃ previous, routes.entries[1]? = some previous ∧ previous.template.raw = "go (.*)" ∧
        ∀ descriptions, routes.vacate 1 "go (.*)" descriptions = descriptions := by
  intro routes
  have hslot : Template.compile .sized "go [str]" =
      .ok ⟨[.literal "go ", .placeholder .str]⟩ := by
    decide
  have hliteral : Template.compile .sized "go (.*)" = .ok ⟨[.literal "go (.*)"]⟩ := by decide
  obtain ⟨hpatterns, hkept⟩ := pattern_identifies (σ := Unit) .sized
  obtain ⟨hsegments, htexts, -⟩ := hpatterns _ _ _ _ hslot hliteral
  refine ⟨fun hpattern ↦ ?_, hkept sampleGroups "go (.*)" _ 1 hliteral (by decide)⟩
  exact absurd (htexts.mp (hsegments.mp hpattern)) (by decide)

end Routes

end Switchboard
