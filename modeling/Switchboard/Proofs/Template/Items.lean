import Switchboard.Template.Compile

/-!
# The items of a template

A template is a list of items, characters that stand for themselves and slots. Its text and its
pattern are spelled item by item. The spelling in a pattern is a prefix code, so the pattern
determines the items and with them the text (`raw_of_pattern`).
-/

namespace Switchboard

/-- One item of a template: a character that stands for itself, or a slot. -/
inductive Item where
  | character (c : Char)
  | slot (kind : Placeholder)

namespace Item

/-- How an item is written in the text of a template. -/
def written : Item → List Char
  | character c => [c]
  | slot kind => '[' :: (kind.name.toList ++ [']'])

/-- How an item is written in the pattern of a template. -/
def code : Item → List Char
  | character c => escapeMeta c
  | slot kind => kind.pattern.toList

/-- No item has an empty code. -/
theorem code_ne_nil (item : Item) : item.code ≠ [] := by
  cases item with
  | character c =>
      simp only [code, escapeMeta]
      split <;> simp
  | slot kind => cases kind <;> simp [code, Placeholder.pattern]

/-- A character that stands for itself can be told from what follows it. -/
theorem escape_prefix_free {left right : Char} {after rest : List Char}
    (h : escapeMeta left ++ after = escapeMeta right ++ rest) : left = right ∧ after = rest := by
  unfold escapeMeta at h
  split at h <;> split at h
  · simpa using h
  · -- The backslash has to be escaped itself, so it begins no character that is not.
    rename_i _ hplain
    obtain ⟨rfl, -⟩ := List.cons.inj h
    exact absurd (by decide) hplain
  · rename_i hplain _
    obtain ⟨rfl, -⟩ := List.cons.inj h
    exact absurd (by decide) hplain
  · simpa using h

/-- A group begins with a parenthesis, and a character that stands for itself does not. -/
theorem escape_ne_group (c : Char) (kind : Placeholder) (after rest : List Char) :
    escapeMeta c ++ after ≠ kind.pattern.toList ++ rest := by
  intro h
  have hgroup : ∃ inner, kind.pattern.toList = '(' :: inner := by
    cases kind <;> exact ⟨_, rfl⟩
  obtain ⟨inner, hinner⟩ := hgroup
  rw [hinner] at h
  unfold escapeMeta at h
  split at h
  · simp at h
  · rename_i hplain
    obtain ⟨rfl, -⟩ := List.cons.inj h
    exact hplain (by decide)

/-- No code is the beginning of another one. -/
theorem code_prefix_free {left right : Item} {after rest : List Char}
    (h : left.code ++ after = right.code ++ rest) : left = right ∧ after = rest := by
  cases left with
  | character c =>
      cases right with
      | character d =>
          obtain ⟨rfl, hafter⟩ := escape_prefix_free h
          exact ⟨rfl, hafter⟩
      | slot kind => exact absurd h (escape_ne_group c kind after rest)
  | slot kind =>
      cases right with
      | character d => exact absurd h.symm (escape_ne_group d kind rest after)
      | slot other =>
          cases kind <;> cases other <;> simp_all [code, Placeholder.pattern]

/-- What is spelled with the codes can be read in one way only. -/
theorem code_injective {left right : List Item}
    (h : left.flatMap code = right.flatMap code) : left = right := by
  induction left generalizing right with
  | nil =>
      cases right with
      | nil => rfl
      | cons item rest =>
          have hnil := (List.append_eq_nil_iff.mp h.symm).1
          exact absurd hnil item.code_ne_nil
  | cons item rest ih =>
      cases right with
      | nil =>
          have hnil := (List.append_eq_nil_iff.mp h).1
          exact absurd hnil item.code_ne_nil
      | cons other others =>
          obtain ⟨rfl, hrest⟩ := code_prefix_free h
          rw [ih hrest]

end Item

/-- The items of a segment. -/
def Segment.items : Segment → List Item
  | .literal text => text.toList.map .character
  | .placeholder kind => [.slot kind]

/-- A segment is written item by item. -/
theorem Segment.raw_items (segment : Segment) :
    segment.raw.toList = segment.items.flatMap Item.written := by
  cases segment with
  | literal text => simp [raw, items, List.flatMap_map, Item.written]
  | placeholder kind => simp [raw, items, Item.written]

/-- The pattern of a segment is made item by item. -/
theorem Segment.pattern_items (segment : Segment) :
    segment.pattern.toList = segment.items.flatMap Item.code := by
  cases segment with
  | literal text => simp [pattern, items, List.flatMap_map, Item.code]
  | placeholder kind => simp [pattern, items, Item.code]

namespace Template

/-- The items of a template. -/
def items (template : Template) : List Item :=
  template.segments.flatMap Segment.items

/-- The text of a template is written item by item. -/
theorem raw_items (template : Template) :
    template.raw.toList = template.items.flatMap Item.written := by
  simp [raw, items, String.toList_join, List.flatMap_map, List.flatMap_assoc, Segment.raw_items]

/-- The pattern of a template is made item by item. -/
theorem pattern_items (template : Template) :
    template.pattern.toList = template.items.flatMap Item.code := by
  simp [pattern, items, String.toList_join, List.flatMap_map, List.flatMap_assoc,
    Segment.pattern_items]

/-- Templates with one pattern are written alike. -/
theorem raw_of_pattern {left right : Template} (h : left.pattern = right.pattern) :
    left.raw = right.raw := by
  have hitems : left.items = right.items := by
    apply Item.code_injective
    rw [← pattern_items, ← pattern_items, h]
  rw [← String.toList_inj, raw_items, raw_items, hitems]

/-! ### Reading -/

/-- A name of a kind of slots is the name of that kind. -/
theorem name_of_of_name {name : String} {kind : Placeholder}
    (h : Placeholder.ofName? name = some kind) : kind.name = name := by
  have hfound := List.find?_some h
  simpa using hfound

/-- If a result is mapped to a good one, it was good before. -/
theorem ok_of_map {ε α β : Type} {f : α → β} {result : Except ε α} {value : β}
    (h : result.map f = .ok value) : ∃ before, result = .ok before ∧ f before = value := by
  cases result with
  | error fault => cases h
  | ok before => exact ⟨before, rfl, Except.ok.inj h⟩

/-- A result is mapped to an error if and only if it is this error. -/
theorem map_eq_error_iff {ε α β : Type} {f : α → β} {result : Except ε α} {fault : ε} :
    result.map f = .error fault ↔ result = .error fault := by
  cases result <;> simp [Except.map]

end Template

end Switchboard
