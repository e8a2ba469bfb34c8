import Switchboard.Proofs.Template.Decomposition

/-!
# Templates whose slots are kept apart

A character keeps the slots of a template apart if each two neighbouring slots have a literal with
this character between them. Then texts without the character can be put into the slots and taken
out again (`captures_rendered`), even if they hold pieces of the literals. The argument counts: in
any other way to cut the command the literals use up all occurrences of the character
(`free_of_render`), so the first occurrence behind a slot is the one of the next literal, and the
text in the slot ends at the same place (`render_injective`).
-/

namespace Switchboard

namespace Segment

/-- Between each two neighbouring slots there is a literal with the character. -/
def Separated (separator : Char) (segments : List Segment) : Prop :=
  ∀ before first between second after,
    segments = before ++ .placeholder first :: (between ++ .placeholder second :: after) →
    (∀ segment ∈ between, segment.placeholder? = none) →
    ∃ text, .literal text ∈ between ∧ separator ∈ text.toList

variable {separator : Char} {segment : Segment} {segments : List Segment}

/-- The slots of the segments behind the first one are kept apart as well. -/
theorem Separated.tail (h : Separated separator (segment :: segments)) :
    Separated separator segments := by
  intro before first between second after hsplit hbetween
  exact h (segment :: before) first between second after (by rw [hsplit]; rfl) hbetween

/-- Segments without slots are written alike whatever the texts are, and use up none of them. -/
theorem render_literals {between : List Segment}
    (hbetween : ∀ segment ∈ between, segment.placeholder? = none) (rest : List Segment)
    (texts : List String) :
    render (between ++ rest) texts = render between [] ++ render rest texts := by
  induction between with
  | nil => simp [render]
  | cons segment others ih =>
      obtain ⟨hsegment, hothers⟩ := List.forall_mem_cons.mp hbetween
      cases segment with
      | literal text => rw [List.cons_append, render, render, ih hothers, String.append_assoc]
      | placeholder kind => cases hsegment

/-- The characters of a literal are written, also if there is nothing to put into the slots. -/
theorem mem_render_of_literal {text : String} (hmem : .literal text ∈ segments) {c : Char}
    (hc : c ∈ text.toList) : c ∈ (render segments []).toList := by
  induction segments with
  | nil => cases hmem
  | cons segment rest ih =>
      rcases List.mem_cons.mp hmem with rfl | hrest
      · rw [render, String.toList_append]
        exact List.mem_append_left _ hc
      · cases segment with
        | placeholder kind => exact ih hrest
        | literal other =>
            rw [render, String.toList_append]
            exact List.mem_append_right _ (ih hrest)

/-- What follows a slot has no slots, or is written alike up to its first separator. -/
theorem gap_behind {kind : Placeholder} (h : Separated separator (.placeholder kind :: segments)) :
    segments.filterMap placeholder? = [] ∨ ∃ gap, separator ∉ gap ∧
      ∀ texts, ∃ tail, (render segments texts).toList = gap ++ separator :: tail := by
  cases hnext : segments.find? (·.placeholder?.isSome) with
  | none =>
      left
      rw [List.filterMap_eq_nil_iff]
      intro segment hsegment
      simpa using List.find?_eq_none.mp hnext segment hsegment
  | some slot =>
      right
      obtain ⟨hslot, between, after, rfl, hbetween⟩ := List.find?_eq_some_iff_append.mp hnext
      have hliterals : ∀ segment ∈ between, segment.placeholder? = none := by
        intro segment hsegment
        simpa using hbetween segment hsegment
      cases slot with
      | literal text => cases hslot
      | placeholder second =>
          obtain ⟨text, hliteral, hseparator⟩ := h [] kind between second after rfl hliterals
          obtain ⟨gap, rest, hgap, hfree⟩ :=
            List.eq_append_cons_of_mem (mem_render_of_literal hliteral hseparator)
          refine ⟨gap, hfree, fun texts ↦ ?_⟩
          refine ⟨rest ++ (render (.placeholder second :: after) texts).toList, ?_⟩
          rw [render_literals hliterals, String.toList_append, hgap, List.append_assoc,
            List.cons_append]

/-! ### Counting separators -/

/-- A character occurs as often as in the literals and in the texts in the slots together. -/
theorem count_render (c : Char) {texts : List String}
    (hlength : texts.length = (segments.filterMap placeholder?).length) :
    (render segments texts).toList.count c =
      (render segments []).toList.count c + (texts.flatMap String.toList).count c := by
  induction segments generalizing texts with
  | nil =>
      obtain rfl : texts = [] := List.length_eq_zero_iff.mp hlength
      rfl
  | cons segment rest ih =>
      cases segment with
      | literal text =>
          simp only [render, String.toList_append, List.count_append]
          rw [ih hlength, Nat.add_assoc]
      | placeholder kind =>
          cases texts with
          | nil => simp [placeholder?] at hlength
          | cons text others =>
              have hothers : others.length = (rest.filterMap placeholder?).length := by
                simpa [placeholder?] using hlength
              simp only [render, String.toList_append, List.count_append, List.flatMap_cons]
              rw [ih hothers]
              omega

/-- If the whole is to stay the same, texts without a character can only be replaced by such. -/
theorem free_of_render {c : Char} {texts others : List String}
    (htexts : texts.length = (segments.filterMap placeholder?).length)
    (hothers : others.length = (segments.filterMap placeholder?).length)
    (hfree : ∀ text ∈ texts, c ∉ text.toList)
    (hsame : render segments others = render segments texts) :
    ∀ other ∈ others, c ∉ other.toList := by
  have hnone : (texts.flatMap String.toList).count c = 0 := by
    rw [List.count_eq_zero, List.mem_flatMap]
    rintro ⟨text, htext, hc⟩
    exact hfree text htext hc
  have hcount := count_render c hothers
  rw [hsame, count_render c htexts, hnone] at hcount
  have hzero : (others.flatMap String.toList).count c = 0 := by omega
  intro other hother hc
  exact List.count_eq_zero.mp hzero (List.mem_flatMap.mpr ⟨other, hother, hc⟩)

/-! ### Cutting at the separators -/

/-- Before the first separator stands what has none. -/
theorem takeWhile_separator {before : List Char} (hfree : separator ∉ before) (after : List Char) :
    (before ++ separator :: after).takeWhile (· != separator) = before := by
  have hall : ∀ c ∈ before, (c != separator) = true := by
    rintro c hc
    exact bne_iff_ne.mpr fun hsame ↦ hfree (hsame ▸ hc)
  rw [List.takeWhile_append_of_pos hall, List.takeWhile_cons]
  simp

/-- A text without separators ends where the segments behind its slot begin. -/
theorem slot_ends {kind : Placeholder} (h : Separated separator (.placeholder kind :: segments))
    {first second : List Char} (hfirst : separator ∉ first) (hsecond : separator ∉ second)
    {firsts seconds : List String}
    (hfirsts : firsts.length = (segments.filterMap placeholder?).length)
    (hseconds : seconds.length = (segments.filterMap placeholder?).length)
    (hsame : first ++ (render segments firsts).toList =
      second ++ (render segments seconds).toList) : first = second := by
  rcases gap_behind h with hslots | ⟨gap, hgap, hrest⟩
  · -- Behind the last slot there are literals only, and they are the same on both sides.
    rw [hslots] at hfirsts hseconds
    rw [List.length_eq_zero_iff.mp hfirsts, List.length_eq_zero_iff.mp hseconds] at hsame
    exact List.append_cancel_right hsame
  · obtain ⟨tail, htail⟩ := hrest firsts
    obtain ⟨otherTail, hotherTail⟩ := hrest seconds
    rw [htail, hotherTail, ← List.append_assoc, ← List.append_assoc] at hsame
    have hbefore := congrArg (List.takeWhile (· != separator)) hsame
    rw [takeWhile_separator (by simp [hfirst, hgap]),
      takeWhile_separator (by simp [hsecond, hgap])] at hbefore
    exact List.append_cancel_right hbefore

/-- If the slots are kept apart by a character that no text has, the whole determines the texts. -/
theorem render_injective (hseparated : Separated separator segments) {left right : List String}
    (hleft : left.length = (segments.filterMap placeholder?).length)
    (hright : right.length = (segments.filterMap placeholder?).length)
    (hleftFree : ∀ text ∈ left, separator ∉ text.toList)
    (hrightFree : ∀ text ∈ right, separator ∉ text.toList)
    (hsame : (render segments left).toList = (render segments right).toList) : left = right := by
  induction segments generalizing left right with
  | nil => rw [List.length_eq_zero_iff.mp hleft, List.length_eq_zero_iff.mp hright]
  | cons segment rest ih =>
      cases segment with
      | literal text =>
          simp only [render, String.toList_append] at hsame
          exact ih hseparated.tail hleft hright hleftFree hrightFree (List.append_cancel_left hsame)
      | placeholder kind =>
          obtain ⟨first, firsts, rfl⟩ := List.exists_cons_of_length_eq_add_one hleft
          obtain ⟨second, seconds, rfl⟩ := List.exists_cons_of_length_eq_add_one hright
          have hfirsts : firsts.length = (rest.filterMap placeholder?).length :=
            Nat.succ.inj hleft
          have hseconds : seconds.length = (rest.filterMap placeholder?).length :=
            Nat.succ.inj hright
          obtain ⟨hfirst, hfirstsFree⟩ := List.forall_mem_cons.mp hleftFree
          obtain ⟨hsecond, hsecondsFree⟩ := List.forall_mem_cons.mp hrightFree
          simp only [render, String.toList_append] at hsame
          have hhead := slot_ends hseparated hfirst hsecond hfirsts hseconds hsame
          rw [hhead] at hsame
          have hothers := ih hseparated.tail hfirsts hseconds hfirstsFree hsecondsFree
            (List.append_cancel_left hsame)
          rw [String.toList_inj.mp hhead, hothers]

end Segment

namespace Template

/-- A command that was written with texts in the slots has no other decomposition, if a character
that none of them has keeps the slots apart. -/
theorem decomposes_unique {template : Template} {separator : Char}
    (hseparated : Segment.Separated separator template.segments) {values others : List String}
    (hfree : ∀ value ∈ values, separator ∉ value.toList) {command : String}
    (hvalues : template.Decomposes values command) (hothers : template.Decomposes others command) :
    others = values := by
  have hlength := hvalues.admits.length_eq.symm
  have hotherLength := hothers.admits.length_eq.symm
  have hsame : template.render others = template.render values :=
    hothers.render.trans hvalues.render.symm
  exact Segment.render_injective hseparated hotherLength hlength
    (Segment.free_of_render hlength hotherLength hfree hsame) hfree (congrArg String.toList hsame)

/-- If a character keeps the slots of a template apart, texts of the languages of the slots that do
not have this character are taken out of a command as they were put into it: all of them, or as many
as the limit allows. The command has no other decomposition. -/
theorem captures_rendered (template : Template) (separator : Char)
    (hseparated : Segment.Separated separator template.segments) (values : List String)
    (hadmits : List.Forall₂ (fun kind value ↦ kind.Admits value.toList)
      template.placeholders values)
    (hfree : ∀ value ∈ values, separator ∉ value.toList) :
    (∀ limit, template.arity ≤ limit →
      template.captures (template.render values) limit = some values) ∧
    (∀ limit, template.captures (template.render values) limit = some (values.take limit)) ∧
    ∀ others, template.Decomposes others (template.render values) → others = values := by
  have hvalues : template.Decomposes values (template.render values) := ⟨hadmits, rfl⟩
  have honly (others : List String)
      (hothers : template.Decomposes others (template.render values)) : others = values :=
    decomposes_unique hseparated hfree hvalues hothers
  have hcaptures (limit : Nat) :
      template.captures (template.render values) limit = some (values.take limit) := by
    obtain ⟨slots, hslots⟩ := slots_of_decomposes hvalues
    rw [captures, hslots, honly slots (greatest_of_slots hslots).toDecomposes]
    rfl
  refine ⟨fun limit hlimit ↦ ?_, hcaptures, honly⟩
  have hlength : values.length ≤ limit := hadmits.length_eq ▸ hlimit
  rw [hcaptures, List.take_of_length_le hlength]

/-- The blank keeps these two slots apart, so the first one may hold the beginning of the literal
behind it. -/
theorem sample_separated :
    let template : Template := ⟨[.placeholder .str, .literal "/turn ", .placeholder .float]⟩
    Segment.Separated ' ' template.segments ∧
      template.captures "a/turn/turn -.5" 2 = some ["a/turn", "-.5"] ∧
      template.captures "a/turn/turn -.5" 1 = some ["a/turn"] := by
  intro template
  have hseparated : Segment.Separated ' ' template.segments := by
    intro before first between second after hsplit _
    obtain ⟨-, -, hbetween⟩ : before = [] ∧ first = .str ∧
        between ++ .placeholder second :: after = [.literal "/turn ", .placeholder .float] := by
      simpa [template, List.cons_eq_append_iff] using hsplit
    cases between with
    | nil => cases hbetween
    | cons segment rest =>
        obtain ⟨rfl, -⟩ := List.cons.inj hbetween
        exact ⟨_, List.mem_cons_self, by decide⟩
  have hadmits : List.Forall₂ (fun kind value ↦ kind.Admits value.toList) template.placeholders
      ["a/turn", "-.5"] := by
    refine .cons ?_ (.cons ?_ .nil)
    · show '\n' ∉ "a/turn".toList
      decide
    · refine ⟨['-'], [], ['5'], by decide, by decide, fun _ h ↦ (nomatch h), by decide, ?_⟩
      exact List.forall_mem_singleton.mpr rfl
  have hfree : ∀ value ∈ ["a/turn", "-.5"], ' ' ∉ value.toList := by decide
  obtain ⟨hall, hsome, -⟩ := captures_rendered template ' ' hseparated _ hadmits hfree
  exact ⟨hseparated, hall 2 (by decide), hsome 1⟩

end Template

end Switchboard
