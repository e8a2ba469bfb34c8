import Mathlib.Data.List.TakeWhile
import Switchboard.Proofs.Template.Engine

/-!
# What matching a template means

A template matches the commands that have a decomposition, and gives the greatest decomposition of
a command, up to the limit of arguments. The anchored pattern of the template, searched for as a
regular expression, says the same: every group takes part in a match, so extraction never stops
before the limit.
-/

namespace Switchboard

namespace Regex

/-- An expression with items behind it has their groups besides its own. -/
theorem groups_joined (groups : Nat) (current : Regex) (items : List Item) :
    (joined groups current items).groups = current.groups + Item.allGroups items := by
  induction items generalizing groups current with
  | nil => rfl
  | cons item rest ih =>
      have hitem : (item.regex (groups + 1)).groups = item.groups := by
        cases item with
        | character c => rfl
        | slot kind => cases kind <;> rfl
      rw [joined, ih, Regex.groups, hitem, Item.allGroups, Nat.add_assoc]

/-- The items of segments have a group for each slot. -/
theorem all_groups_items (segments : List Segment) :
    Item.allGroups (segments.flatMap Segment.items) =
      (segments.filterMap Segment.placeholder?).length := by
  induction segments with
  | nil => rfl
  | cons segment rest ih =>
      cases segment with
      | placeholder kind =>
          have hstep : Item.allGroups ((Segment.placeholder kind :: rest).flatMap Segment.items) =
              1 + Item.allGroups (rest.flatMap Segment.items) := rfl
          rw [hstep, ih, Nat.add_comm]
          rfl
      | literal text =>
          have hnone (chars : List Char) (others : List Item) :
              Item.allGroups (chars.map Item.character ++ others) = Item.allGroups others := by
            induction chars with
            | nil => rfl
            | cons c rest ih =>
                rw [List.map_cons, List.cons_append, Item.allGroups, ih, Item.groups, Nat.zero_add]
          rw [List.flatMap_cons, Segment.items, hnone, ih]
          rfl

/-- The expression of a template has a group for each slot. -/
theorem groups_regex (template : Template) : template.regex.groups = template.arity := by
  have hbody : (joined 0 .empty template.items).groups = template.arity := by
    have hempty : Regex.empty.groups = 0 := rfl
    rw [groups_joined, Template.items, all_groups_items, hempty, Nat.zero_add]
    rfl
  simpa [Template.regex, Regex.groups] using hbody

/-- Every group has captured what is in its slot. -/
theorem lookup_indexed (number : Nat) (slots : List (List Char)) :
    (List.range' number slots.length).map (fun group ↦ (indexed number slots).lookup group) =
      slots.map some := by
  induction slots generalizing number with
  | nil => rfl
  | cons slot rest ih =>
      rw [List.length_cons, List.range'_succ, List.map_cons, indexed, List.lookup_cons_self,
        List.map_cons, ← ih (number + 1)]
      congr 1
      -- The other groups have greater numbers, so the first entry is not theirs.
      refine List.map_congr_left fun group hgroup ↦ ?_
      have hne : group ≠ number := by
        have hle := (List.mem_range'_1.mp hgroup).1
        omega
      rw [List.lookup_cons, beq_eq_false_iff_ne.mpr hne]

/-- Searching for the pattern of a template tells whether a command matches it. -/
theorem match_agrees (template : Template) (command : String) :
    template.regex.isMatch command = template.isMatch command := by
  have hfind := congrArg Option.isSome (find_fill template command.toList)
  rw [Option.isSome_map, Option.isSome_map] at hfind
  rw [isMatch, hfind, Template.match_eq_fill]

/-- Searching for the pattern of a template gives the arguments of a command. -/
theorem captures_agrees (template : Template) (command : String) (limit : Nat) :
    template.regex.captures command limit = template.captures command limit := by
  have hfind := find_fill template command.toList
  rw [Template.captures, Template.slots_eq_fill, captures]
  cases hslots : Template.fill template.segments command.toList with
  | none =>
      rw [hslots, Option.map_none, Option.map_eq_none_iff] at hfind
      rw [hfind]
      rfl
  | some slots =>
      rw [hslots, Option.map_some, Option.map_eq_some_iff] at hfind
      obtain ⟨last, hlast, hfound⟩ := hfind
      have hlength : template.regex.groups = slots.length := by
        have hfilled : template.slots? command = some (slots.map String.ofList) := by
          rw [Template.slots_eq_fill, hslots]
          rfl
        have hgreatest := Template.greatest_of_slots hfilled
        rw [groups_regex, Template.arity, hgreatest.admits.length_eq, List.length_map]
      -- Every group has captured something, so nothing is cut off.
      have hall : ((slots.map some).take limit).takeWhile Option.isSome =
          (slots.map some).take limit := by
        rw [List.takeWhile_eq_self_iff]
        intro found hmem
        obtain ⟨slot, -, rfl⟩ := List.mem_map.mp (List.mem_of_mem_take hmem)
        rfl
      rw [hlast, Option.map_some, hfound, hlength]
      simp only [List.map_take, lookup_indexed, Option.map_some, hall]
      rw [← List.map_take, List.filterMap_map, ← List.map_take]
      simp

end Regex

namespace Template

/-- A template matches exactly the commands that have a decomposition. It gives no arguments to
others, and to these the texts of the greatest decomposition, which there is, as many as the limit
allows. That is what searching for the anchored pattern of the template gives: the pattern is a
regular expression, it matches where the template does, and its groups capture these texts. -/
theorem match_decomposes (template : Template) (command : String) :
    (template.isMatch command = true ↔ ∃ texts, template.Decomposes texts command) ∧
    (∀ limit, template.captures command limit = none ↔
      ¬ ∃ texts, template.Decomposes texts command) ∧
    ((∃ texts, template.Decomposes texts command) → ∃ texts, template.Greatest texts command) ∧
    (∀ texts limit, template.Greatest texts command →
      template.captures command limit = some (texts.take (min limit template.arity))) ∧
    ∃ regex, Regex.read? template.anchoredPattern = some regex ∧
      regex.isMatch command = template.isMatch command ∧
      ∀ limit, regex.captures command limit = template.captures command limit := by
  have hmatch : template.isMatch command = (template.slots? command).isSome := by
    rw [match_eq_fill, slots_eq_fill, Option.isSome_map]
  have hsome : (template.slots? command).isSome = true ↔
      ∃ texts, template.Decomposes texts command := by
    rw [Option.isSome_iff_exists]
    constructor
    · rintro ⟨texts, hslots⟩
      exact ⟨texts, (greatest_of_slots hslots).toDecomposes⟩
    · rintro ⟨texts, hdecomposes⟩
      exact slots_of_decomposes hdecomposes
  refine ⟨hmatch ▸ hsome, fun limit ↦ ?_, ?_, ?_, template.regex, Regex.read_anchored template,
    Regex.match_agrees template command, Regex.captures_agrees template command⟩
  · rw [captures, Option.map_eq_none_iff, ← Option.not_isSome_iff_eq_none, hsome]
  · intro hdecomposes
    obtain ⟨texts, hslots⟩ := Option.isSome_iff_exists.mp (hsome.mpr hdecomposes)
    exact ⟨texts, greatest_of_slots hslots⟩
  · intro texts limit hgreatest
    obtain ⟨slots, hslots⟩ := slots_of_decomposes hgreatest.toDecomposes
    obtain rfl : slots = texts := greatest_unique (greatest_of_slots hslots) hgreatest
    have hlength : slots.length = template.arity := hgreatest.admits.length_eq.symm
    rw [captures, hslots, Option.map_some, ← hlength, ← List.take_eq_take_min]

/-- Of the ways to cut this command the template takes the one whose first text is the longest. -/
theorem sample_greatest :
    let template : Template := ⟨[.placeholder .str, .placeholder .uint]⟩
    template.Decomposes ["a", "12"] "a12" ∧ template.Greatest ["a12", ""] "a12" ∧
      template.captures "a12" 1 = some ["a12"] := by
  intro template
  have hdecomposes : template.Decomposes ["a", "12"] "a12" := by
    refine ⟨.cons ?_ (.cons ?_ .nil), by decide⟩
    · show '\n' ∉ "a".toList
      decide
    · have hdigits : "12".toList.all Decimal.isDigit = true := by decide
      exact List.all_eq_true.mp hdigits
  obtain ⟨-, -, hexists, hcaptures, -⟩ := match_decomposes template "a12"
  obtain ⟨texts, hgreatest⟩ := hexists ⟨_, hdecomposes⟩
  have hall : template.captures "a12" 2 = some ["a12", ""] := by decide
  have htexts : texts = ["a12", ""] := by
    have hlength : texts.length = 2 := hgreatest.admits.length_eq.symm
    have htake : texts.take 2 = ["a12", ""] :=
      Option.some.inj ((hcaptures texts 2 hgreatest).symm.trans hall)
    rwa [List.take_of_length_le (Nat.le_of_eq hlength)] at htake
  subst htexts
  exact ⟨hdecomposes, hgreatest, hcaptures _ 1 hgreatest⟩

end Template

end Switchboard
