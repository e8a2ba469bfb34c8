import Switchboard.Proofs.Dictionary
import Switchboard.Proofs.Template.Grammar
import Switchboard.Routes

/-!
# The parts of a routing table

A routing table keeps its routes, the places of their patterns and their descriptions, each under a
key of its own. `Routes.Aligned` says that the three parts agree. That rests on a fact about
templates which a table never checks: the pattern determines the text (`Template.raw_of_pattern`),
and the text the template. `Routes.Inserts` lists what inserting a route does to such a table, and
`aligned_insert` says that the parts go on to agree.
-/

namespace Switchboard.Routes

variable {σ : Type}

/-- The parts of the table agree. Its templates were read from different texts; a pattern has a
place if and only if the route at this place has the pattern; a text has a description if and only
if a route with this text has it; and no part has two entries under one key. -/
structure Aligned (routes : Routes σ) : Prop where
  read : ∀ route ∈ routes.entries, Template.read route.template.raw = .ok route.template
  nodup : (routes.entries.map (·.template.raw)).Nodup
  place : ∀ pattern slot, routes.slot? pattern = some slot ↔
    routes.entries[slot]?.map (·.template.pattern) = some pattern
  places : (routes.slots.map Prod.fst).Nodup
  described : ∀ raw description, routes.descriptions.lookup raw = some description ↔
    ∃ route ∈ routes.entries, route.template.raw = raw ∧ route.description = description
  ascending : Dictionary.Ascending routes.descriptions

/-- The parts of the table without routes agree. -/
theorem aligned_empty : (empty : Routes σ).Aligned where
  read _ h := nomatch h
  nodup := .nil
  place pattern slot := by simp [empty, slot?]
  places := .nil
  described raw description := by simp [empty]
  ascending := .nil

namespace Aligned

variable {routes : Routes σ}

/-- A table contains the patterns of its routes. -/
theorem contains_iff (haligned : routes.Aligned) (pattern : String) :
    routes.contains pattern = true ↔
      ∃ route ∈ routes.entries, route.template.pattern = pattern := by
  rw [contains, Option.isSome_iff_exists]
  constructor
  · rintro ⟨slot, hslot⟩
    obtain ⟨route, hroute, hpattern⟩ :=
      Option.map_eq_some_iff.mp ((haligned.place pattern slot).mp hslot)
    exact ⟨route, List.mem_of_getElem? hroute, hpattern⟩
  · rintro ⟨route, hroute, hpattern⟩
    obtain ⟨slot, hslot⟩ := List.getElem?_of_mem hroute
    exact ⟨slot, (haligned.place pattern slot).mpr (by rw [hslot, Option.map_some, hpattern])⟩

/-- No two routes have the same pattern. -/
theorem patterns_nodup (haligned : routes.Aligned) :
    (routes.entries.map (·.template.pattern)).Nodup := by
  have hinj := List.inj_on_of_nodup_map haligned.nodup
  refine (List.Nodup.of_map _ haligned.nodup).map_on fun first hfirst second hsecond hpattern ↦ ?_
  exact hinj hfirst hsecond (Template.raw_of_pattern hpattern)

/-- There are as many places as routes. -/
theorem slots_length (haligned : routes.Aligned) :
    routes.slots.length = routes.entries.length := by
  have hlength : (routes.entries.map (·.template.pattern)).length = routes.entries.length :=
    List.length_map _
  rw [← hlength]
  refine Dictionary.length_eq_of_names haligned.places haligned.patterns_nodup fun pattern ↦ ?_
  exact (haligned.contains_iff pattern).trans List.mem_map.symm

/-- There are as many descriptions as routes. -/
theorem descriptions_length (haligned : routes.Aligned) :
    routes.descriptions.length = routes.entries.length := by
  have hlength : (routes.entries.map (·.template.raw)).length = routes.entries.length :=
    List.length_map _
  rw [← hlength]
  refine Dictionary.length_eq_of_names (Dictionary.names_nodup haligned.ascending) haligned.nodup
    fun raw ↦ ?_
  rw [Option.isSome_iff_exists, List.mem_map]
  constructor
  · rintro ⟨description, hdescribed⟩
    obtain ⟨route, hroute, hraw, -⟩ := (haligned.described raw description).mp hdescribed
    exact ⟨route, hroute, hraw⟩
  · rintro ⟨route, hroute, hraw⟩
    exact ⟨route.description, (haligned.described raw _).mpr ⟨route, hroute, hraw, rfl⟩⟩

end Aligned

/-- What inserting a route does: the route takes the place of the one whose template has the same
text, or it goes behind all others. Its description is kept under its text in both cases, and no
other description is touched. -/
inductive Inserts (routes : Routes σ) (route : Route σ) :
    Binding × List Event × Routes σ → Prop where
  | replaced {slot : Nat} {previous : Route σ} : routes.entries[slot]? = some previous →
      previous.template = route.template →
      Inserts routes route
        (.replaced, [.templateOverwritten route.template.pattern],
          { routes with
            entries := routes.entries.set slot route
            descriptions :=
              Dictionary.insert route.template.raw route.description routes.descriptions })
  | inserted : route.template.raw ∉ routes.entries.map (·.template.raw) →
      Inserts routes route
        (.inserted, [.templateBound route.template.raw],
          { entries := routes.entries ++ [route]
            slots := (route.template.pattern, routes.size) :: routes.slots
            descriptions :=
              Dictionary.insert route.template.raw route.description routes.descriptions })

variable {routes : Routes σ} {route : Route σ} {slot : Nat} {previous : Route σ}

/-- A table tells its templates apart by their texts. -/
theorem template_of_pattern (haligned : routes.Aligned)
    (hread : Template.read route.template.raw = .ok route.template) {other : Route σ}
    (hother : other ∈ routes.entries) (hpattern : other.template.pattern = route.template.pattern) :
    other.template = route.template :=
  Template.eq_of_pattern (haligned.read other hother) hread hpattern

/-- Inserting a route does one of these things. -/
theorem insert_cases (haligned : routes.Aligned)
    (hread : Template.read route.template.raw = .ok route.template) :
    Inserts routes route (routes.insert route) := by
  unfold insert
  cases hslot : routes.slot? route.template.pattern with
  | none =>
      refine .inserted fun hmem ↦ ?_
      -- A route with the same text would have the same template, and its pattern a place.
      obtain ⟨other, hother, hraw⟩ := List.mem_map.mp hmem
      obtain ⟨index, hindex⟩ := List.getElem?_of_mem hother
      have hcompiled := haligned.read other hother
      rw [hraw, hread, Except.ok.injEq] at hcompiled
      have hplace : routes.slot? route.template.pattern = some index :=
        (haligned.place _ _).mpr (by rw [hindex, hcompiled]; rfl)
      rw [hslot] at hplace
      cases hplace
  | some slot =>
      obtain ⟨previous, hprevious, hpattern⟩ :=
        Option.map_eq_some_iff.mp ((haligned.place _ _).mp hslot)
      have htemplate : previous.template = route.template :=
        template_of_pattern haligned hread (List.mem_of_getElem? hprevious) hpattern
      simp only [vacate, hprevious, htemplate, if_true]
      exact .replaced hprevious htemplate

/-- Putting a route in the place of one with the same template leaves the templates as they were. -/
theorem templates_set (hprevious : routes.entries[slot]? = some previous)
    (htemplate : previous.template = route.template) :
    (routes.entries.set slot route).map (·.template) = routes.entries.map (·.template) := by
  obtain ⟨hslot, hthere⟩ := List.getElem?_eq_some_iff.mp hprevious
  have hlength : slot < (routes.entries.map (·.template)).length := by simpa using hslot
  have hsame : (routes.entries.map (·.template))[slot] = route.template := by
    rw [List.getElem_map, hthere, htemplate]
  rw [List.map_set, ← hsame, List.set_getElem_self]

/-- After a route was put in the place of one with the same template, the routes are this one and
all that have other texts. -/
theorem mem_set (haligned : routes.Aligned) (hprevious : routes.entries[slot]? = some previous)
    (htemplate : previous.template = route.template) (other : Route σ) :
    other ∈ routes.entries.set slot route ↔
      other = route ∨ other ∈ routes.entries ∧ other.template.raw ≠ route.template.raw := by
  obtain ⟨hslot, hthere⟩ := List.getElem?_eq_some_iff.mp hprevious
  -- Each text is there once, so the text of the route is at its place only.
  have honly (index : Nat) (h : index < routes.entries.length) :
      (routes.entries[index]).template.raw = route.template.raw ↔ index = slot := by
    have hindex : index < (routes.entries.map (·.template.raw)).length := by simpa using h
    have hplace : slot < (routes.entries.map (·.template.raw)).length := by simpa using hslot
    have hinj : (routes.entries.map (·.template.raw))[index] =
        (routes.entries.map (·.template.raw))[slot] ↔ index = slot :=
      haligned.nodup.getElem_inj_iff
    rwa [List.getElem_map, List.getElem_map, hthere, htemplate] at hinj
  constructor
  · intro hmem
    obtain ⟨index, hindex, rfl⟩ := List.getElem_of_mem hmem
    rw [List.length_set] at hindex
    rw [List.getElem_set]
    split
    · exact .inl rfl
    · rename_i hother
      exact .inr ⟨List.getElem_mem hindex, fun hraw ↦ hother ((honly index hindex).mp hraw).symm⟩
  · rintro (rfl | ⟨hmem, hraw⟩)
    · exact List.mem_set hslot other
    · obtain ⟨index, hindex, rfl⟩ := List.getElem_of_mem hmem
      have hother : slot ≠ index := fun hsame ↦ hraw ((honly index hindex).mpr hsame.symm)
      have hkept : (routes.entries.set slot route)[index]? = some routes.entries[index] := by
        rw [List.getElem?_set_ne hother, List.getElem?_eq_getElem hindex]
      exact List.mem_of_getElem? hkept

/-- A description is kept under a text after a route was inserted if the route has both, or if it
was kept before and the text is another one. -/
theorem described_inserted (haligned : routes.Aligned) (raw description : String) :
    (Dictionary.insert route.template.raw route.description routes.descriptions).lookup raw =
        some description ↔
      route.template.raw = raw ∧ route.description = description ∨
        ∃ other ∈ routes.entries, other.template.raw ≠ route.template.raw ∧
          other.template.raw = raw ∧ other.description = description := by
  rw [Dictionary.lookup_insert]
  by_cases hraw : raw = route.template.raw
  · subst hraw
    rw [if_pos rfl, Option.some.injEq]
    refine ⟨fun h ↦ .inl ⟨rfl, h⟩, ?_⟩
    rintro (⟨-, h⟩ | ⟨other, -, hother, hsame, -⟩)
    · exact h
    · exact absurd hsame hother
  · rw [if_neg hraw, haligned.described]
    constructor
    · rintro ⟨other, hmem, rfl, rfl⟩
      exact .inr ⟨other, hmem, hraw, rfl, rfl⟩
    · rintro (⟨hsame, -⟩ | ⟨other, hmem, -, hsame, hdescription⟩)
      · exact absurd hsame.symm hraw
      · exact ⟨other, hmem, hsame, hdescription⟩

/-- The parts agree after a route took the place of another one. -/
theorem aligned_replaced (haligned : routes.Aligned)
    (hread : Template.read route.template.raw = .ok route.template)
    (hprevious : routes.entries[slot]? = some previous)
    (htemplate : previous.template = route.template) :
    Aligned { routes with
      entries := routes.entries.set slot route
      descriptions :=
        Dictionary.insert route.template.raw route.description routes.descriptions } := by
  have htemplates := templates_set hprevious htemplate
  have hmem := mem_set haligned hprevious htemplate
  refine ⟨fun other hother ↦ ?_, ?_, fun pattern index ↦ ?_, haligned.places,
    fun raw description ↦ ?_, Dictionary.ascending_insert haligned.ascending _ _⟩
  · rcases (hmem other).mp hother with rfl | ⟨hold, -⟩
    · exact hread
    · exact haligned.read other hold
  · have hraws := congrArg (List.map Template.raw) htemplates
    simp only [List.map_map] at hraws
    exact hraws ▸ haligned.nodup
  · have hpattern := congrArg (fun templates ↦ (templates[index]?).map Template.pattern) htemplates
    simp only [List.getElem?_map, Option.map_map] at hpattern
    exact (haligned.place pattern index).trans (Eq.congr_left hpattern).symm
  · rw [described_inserted haligned]
    constructor
    · rintro (⟨hraw, hdescription⟩ | ⟨other, hold, hne, hraw, hdescription⟩)
      · exact ⟨route, (hmem route).mpr (.inl rfl), hraw, hdescription⟩
      · exact ⟨other, (hmem other).mpr (.inr ⟨hold, hne⟩), hraw, hdescription⟩
    · rintro ⟨other, hother, hraw, hdescription⟩
      rcases (hmem other).mp hother with rfl | ⟨hold, hne⟩
      · exact .inl ⟨hraw, hdescription⟩
      · exact .inr ⟨other, hold, hne, hraw, hdescription⟩

/-- Behind the other routes a route has the last place, and the others have theirs. -/
theorem place_concat (entries : List (Route σ)) (route : Route σ) (index : Nat)
    (pattern : String) :
    (entries ++ [route])[index]?.map (·.template.pattern) = some pattern ↔
      index = entries.length ∧ route.template.pattern = pattern ∨
        entries[index]?.map (·.template.pattern) = some pattern := by
  rcases Nat.lt_trichotomy index entries.length with hbefore | rfl | hbehind
  · rw [List.getElem?_append_left hbefore]
    simp [Nat.ne_of_lt hbefore]
  · simp
  · have hend : (entries ++ [route]).length ≤ index := by
      rw [List.length_append]
      exact hbehind
    rw [List.getElem?_eq_none hend, List.getElem?_eq_none (Nat.le_of_lt hbehind)]
    simp [Nat.ne_of_gt hbehind]

/-- The parts agree after a route with a new text went behind all others. -/
theorem aligned_inserted (haligned : routes.Aligned)
    (hread : Template.read route.template.raw = .ok route.template)
    (hnew : route.template.raw ∉ routes.entries.map (·.template.raw)) :
    Aligned
      { entries := routes.entries ++ [route]
        slots := (route.template.pattern, routes.size) :: routes.slots
        descriptions :=
          Dictionary.insert route.template.raw route.description routes.descriptions } := by
  have hothers (other : Route σ) (hother : other ∈ routes.entries) :
      other.template.raw ≠ route.template.raw :=
    fun hraw ↦ hnew (hraw ▸ List.mem_map_of_mem hother)
  -- The pattern is new as well, because it determines the text.
  have hunplaced (index : Nat) :
      routes.entries[index]?.map (·.template.pattern) ≠ some route.template.pattern := by
    intro hpattern
    obtain ⟨other, hindex, hsame⟩ := Option.map_eq_some_iff.mp hpattern
    exact hothers other (List.mem_of_getElem? hindex) (Template.raw_of_pattern hsame)
  refine ⟨fun other hother ↦ ?_, ?_, fun pattern index ↦ ?_, ?_, fun raw description ↦ ?_,
    Dictionary.ascending_insert haligned.ascending _ _⟩
  · rcases List.mem_append.mp hother with hold | hlast
    · exact haligned.read other hold
    · rw [List.mem_singleton.mp hlast]
      exact hread
  · rw [List.map_append, List.map_singleton, List.nodup_append]
    refine ⟨haligned.nodup, List.nodup_singleton _, ?_⟩
    intro text htext other hother heq
    rw [List.mem_singleton.mp hother] at heq
    exact hnew (heq ▸ htext)
  · rw [place_concat, ← haligned.place, slot?, slot?, Dictionary.lookup_first]
    split
    · rename_i hsame
      have hfree : routes.slots.lookup pattern ≠ some index :=
        fun hplace ↦ hunplaced index (hsame ▸ (haligned.place _ _).mp hplace)
      simp [hsame ▸ hfree, size, eq_comm (a := index), hsame]
    · rename_i hdiffers
      simp [Ne.symm hdiffers]
  · refine List.nodup_cons.mpr ⟨fun hmem ↦ ?_, haligned.places⟩
    obtain ⟨⟨_, index⟩, hentry, rfl⟩ := List.mem_map.mp hmem
    have hsome : (routes.slots.lookup route.template.pattern).isSome = true :=
      List.lookup_isSome_iff.mpr ⟨_, hentry, beq_self_eq_true _⟩
    obtain ⟨place, hplace⟩ := Option.isSome_iff_exists.mp hsome
    exact hunplaced place ((haligned.place _ _).mp hplace)
  · rw [described_inserted haligned]
    constructor
    · rintro (⟨hraw, hdescription⟩ | ⟨other, hold, -, hraw, hdescription⟩)
      · exact ⟨route, List.mem_append_right _ List.mem_cons_self, hraw, hdescription⟩
      · exact ⟨other, List.mem_append_left _ hold, hraw, hdescription⟩
    · rintro ⟨other, hother, hraw, hdescription⟩
      rcases List.mem_append.mp hother with hold | hlast
      · exact .inr ⟨other, hold, hothers other hold, hraw, hdescription⟩
      · obtain rfl := List.mem_singleton.mp hlast
        exact .inl ⟨hraw, hdescription⟩

/-- The parts go on to agree when a route is inserted. -/
theorem aligned_insert (haligned : routes.Aligned)
    (hread : Template.read route.template.raw = .ok route.template)
    {result : Binding × List Event × Routes σ} (h : Inserts routes route result) :
    result.2.2.Aligned := by
  cases h with
  | replaced hprevious htemplate => exact aligned_replaced haligned hread hprevious htemplate
  | inserted hnew => exact aligned_inserted haligned hread hnew

/-- What binding a handler to a text does: a text that is no template, or whose pattern the engine
refuses, is reported and leaves the table as it was; a route with any other is inserted. -/
inductive Binds (routes : Routes σ) (matcher : Matcher) (text : String) (handler : Handler σ)
    (description : String) : Except TemplateFault Binding × List Event × Routes σ → Prop where
  | rejected {fault : TemplateFault} : Template.compile matcher text = .error fault →
      Binds routes matcher text handler description
        (.error fault, [.templateMalformed text fault], routes)
  | bound {template : Template} {result : Binding × List Event × Routes σ} :
      Template.compile matcher text = .ok template → Template.read text = .ok template →
      template.raw = text → Inserts routes ⟨template, handler, description⟩ result →
      Binds routes matcher text handler description (.ok result.1, result.2)

/-- Binding a handler does one of these things. -/
theorem bind_cases (haligned : routes.Aligned) (matcher : Matcher) (text : String)
    (handler : Handler σ) (description : String) :
    Binds routes matcher text handler description
      (routes.bind matcher text handler description) := by
  unfold bind
  cases hcompile : Template.compile matcher text with
  | error fault => exact .rejected hcompile
  | ok template =>
      have hread := Template.read_of_compile hcompile
      have hraw := Template.raw_of_read hread
      exact .bound hcompile hread hraw (insert_cases haligned (hraw.symm ▸ hread))

end Switchboard.Routes
