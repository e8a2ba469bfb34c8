import Switchboard.Proofs.Template.Decomposition
import Switchboard.Proofs.Template.Expression

/-!
# Matching as a regular expression

A search for the expression of a template finds what the chart finds. The expression of a segment
can take what the segment can take, in the same order of preference (`runs_literal`, `runs_slot`),
so the first match of the whole expression is the first way to fill the slots (`find_fill`), and
its groups hold the texts in the slots.
-/

namespace Switchboard

namespace Cursor

/-- Going nowhere. -/
@[simp] theorem advance_zero (cursor : Cursor) : cursor.advance 0 = cursor := rfl

/-- Going on twice. -/
@[simp] theorem advance_advance (cursor : Cursor) (first second : Nat) :
    (cursor.advance first).advance second = cursor.advance (second + first) := by
  rw [advance, advance, advance, List.drop_drop, Nat.add_assoc, Nat.add_comm second]

/-- Going on takes characters from the text. -/
@[simp] theorem advance_rest (cursor : Cursor) (n : Nat) :
    (cursor.advance n).rest = cursor.rest.drop n := rfl

end Cursor

/-- Parts one after the other take what the first ones and then the others take. -/
theorem take_all_append (first second : List Part) (text : List Char) :
    takeAll (first ++ second) text =
      (takeAll first text).flatMap fun n ↦ (takeAll second (text.drop n)).map (· + n) := by
  induction first generalizing text with
  | nil => simp [takeAll]
  | cons part rest ih =>
      simp [takeAll, ih, List.flatMap_assoc, List.map_flatMap, List.flatMap_map, Function.comp_def,
        Nat.add_comm, Nat.add_left_comm]

/-- Going on by what parts can take, and then by what further parts can take from there. -/
theorem advance_take_all (first second : List Part) (cursor : Cursor) :
    (takeAll (first ++ second) cursor.rest).map cursor.advance =
      ((takeAll first cursor.rest).map cursor.advance).flatMap fun middle ↦
        (takeAll second middle.rest).map middle.advance := by
  rw [take_all_append, List.map_flatMap, List.flatMap_map]
  congr 1
  funext n
  rw [List.map_map, Cursor.advance_rest]
  congr 1
  funext more
  exact (cursor.advance_advance n more).symm

namespace Regex

/-- The expression goes on by what the parts can take, in the same order of preference. -/
def Takes (regex : Regex) (parts : List Part) : Prop :=
  ∀ cursor : Cursor, regex.runs cursor = (takeAll parts cursor.rest).map cursor.advance

/-- The empty expression takes nothing. -/
theorem takes_empty : Regex.empty.Takes [] := fun _ ↦ rfl

/-- Expressions one after the other take what their parts take one after the other. -/
theorem Takes.append {first second : Regex} {firstParts secondParts : List Part}
    (hfirst : first.Takes firstParts) (hsecond : second.Takes secondParts) :
    (first.append second).Takes (firstParts ++ secondParts) := by
  intro cursor
  rw [advance_take_all, runs, hfirst cursor]
  congr 1
  funext middle
  exact hsecond middle

/-- A character takes what a part that occurs once takes. -/
theorem takes_once (accepts : Char → Bool) : (chars accepts .once).Takes [⟨accepts, .once⟩] := by
  intro cursor
  rw [take_all_singleton]
  rfl

/-- A character that may be missing takes what such a part takes. -/
theorem takes_optional (accepts : Char → Bool) :
    (chars accepts .optional).Takes [⟨accepts, .optional⟩] := by
  intro cursor
  rw [take_all_singleton]
  rfl

/-- A repeated character takes what such a part takes. -/
theorem takes_many (accepts : Char → Bool) : (chars accepts .many).Takes [⟨accepts, .many⟩] := by
  intro cursor
  rw [take_all_singleton]
  rfl

/-- A character that is there at least once takes what such a part takes and a repeated one behind
it. -/
theorem takes_at_least_once (accepts : Char → Bool) :
    (chars accepts .atLeastOnce).Takes [⟨accepts, .once⟩, ⟨accepts, .many⟩] := by
  intro cursor
  rw [runs]
  congr 1
  cases cursor.rest with
  | nil => rfl
  | cons c rest =>
      cases haccepts : accepts c with
      | false => simp [Quantifier.lengths, takeAll, Part.lengths, takeOnce, takeMany, haccepts]
      | true =>
          simp [Quantifier.lengths, takeAll, Part.lengths, takeOnce, takeMany, haccepts,
            List.filter_map, Function.comp_def]

/-- The expression in the group of a slot takes what the parts of the slot take. -/
theorem takes_placeholder (kind : Placeholder) : kind.regex.Takes kind.parts := by
  cases kind with
  | str => exact takes_empty.append (takes_many _)
  | uint => exact takes_empty.append (takes_many _)
  | float =>
      exact (((takes_empty.append (takes_optional _)).append (takes_many _)).append
        (takes_once _)).append (takes_at_least_once _)

/-! ### Items and segments -/

/-- The points that items one after the other can reach, given the number of groups before them. -/
def runsItems : Nat → List Item → Cursor → List Cursor
  | _, [], cursor => [cursor]
  | groups, item :: rest, cursor =>
    ((item.regex (groups + 1)).runs cursor).flatMap (runsItems (groups + item.groups) rest)

/-- The expression of items goes on as the items do. -/
theorem runs_joined (groups : Nat) (current : Regex) (items : List Item) (cursor : Cursor) :
    (joined groups current items).runs cursor =
      (current.runs cursor).flatMap (runsItems groups items) := by
  induction items generalizing groups current with
  | nil => simp [joined, runsItems]
  | cons item rest ih =>
      rw [joined, ih, runs, List.flatMap_assoc]
      rfl

/-- The items of a literal go on by what the literal can take. -/
theorem runs_literal (groups : Nat) (text : List Char) (rest : List Item) (cursor : Cursor) :
    runsItems groups (text.map .character ++ rest) cursor =
      (takeAll (text.map fun c ↦ ⟨(· == c), .once⟩) cursor.rest).flatMap fun n ↦
        runsItems groups rest (cursor.advance n) := by
  induction text generalizing cursor with
  | nil => simp [takeAll]
  | cons c others ih =>
      -- The first character and the others are parts one after the other, and so are their
      -- expressions.
      have hsplit : takeAll ((c :: others).map fun c ↦ ⟨(· == c), .once⟩) cursor.rest =
          (takeAll [⟨(· == c), .once⟩] cursor.rest).flatMap fun n ↦
            (takeAll (others.map fun c ↦ ⟨(· == c), .once⟩) (cursor.rest.drop n)).map (· + n) :=
        take_all_append [⟨(· == c), .once⟩] _ cursor.rest
      rw [hsplit, List.map_cons, List.cons_append, runsItems, Item.regex, takes_once _ cursor,
        List.flatMap_map, List.flatMap_assoc]
      congr 1
      funext n
      rw [Item.groups, Nat.add_zero, ih, List.flatMap_map]
      simp

/-- The item of a slot goes on by what the slot can take, and its group captures that. -/
theorem runs_slot (groups : Nat) (kind : Placeholder) (rest : List Item) (cursor : Cursor) :
    runsItems groups (.slot kind :: rest) cursor =
      (takeAll kind.parts cursor.rest).flatMap fun n ↦
        runsItems (groups + 1) rest
          ((cursor.advance n).capture (some (groups + 1)) cursor) := by
  rw [runsItems, Item.regex, runs, takes_placeholder kind cursor, List.map_map, List.flatMap_map]
  rfl

/-- What the groups have captured when the expressions of some segments, and then the end, match
from a point in the preferred way. -/
def capturesFrom (groups : Nat) (segments : List Segment) (cursor : Cursor) :
    Option (List (Nat × List Char)) :=
  ((runsItems groups (segments.flatMap Segment.items) cursor).findSome? fun last ↦
    (Regex.finish.runs last).head?).map (·.found)

/-- The slots with the numbers of their groups. -/
def indexed : Nat → List (List Char) → List (Nat × List Char)
  | _, [] => []
  | number, slot :: rest => (number, slot) :: indexed (number + 1) rest

/-- The groups capture what the slots are filled with. -/
theorem captures_fill (groups : Nat) (segments : List Segment) (cursor : Cursor) :
    capturesFrom groups segments cursor =
      (Template.fill segments cursor.rest).map fun slots ↦
        cursor.found ++ indexed (groups + 1) slots := by
  induction segments generalizing groups cursor with
  | nil =>
      rw [capturesFrom, List.flatMap_nil, runsItems, Template.fill, List.findSome?_singleton, runs]
      split
      · simp [indexed]
      · rfl
  | cons segment rest ih =>
      cases segment with
      | literal text =>
          rw [capturesFrom, List.flatMap_cons, Segment.items, runs_literal, findSome_flatMap,
            List.map_findSome?, Template.fill, List.map_findSome?]
          congr 1
          funext n
          have hrest := ih groups (cursor.advance n)
          rw [capturesFrom] at hrest
          simpa [Function.comp_def, Segment.placeholder?, Cursor.advance] using hrest
      | placeholder kind =>
          rw [capturesFrom, List.flatMap_cons, Segment.items, List.singleton_append, runs_slot,
            findSome_flatMap, List.map_findSome?, Template.fill, List.map_findSome?]
          congr 1
          funext n
          have hrest := ih (groups + 1) ((cursor.advance n).capture (some (groups + 1)) cursor)
          rw [capturesFrom] at hrest
          simpa [Function.comp_def, Segment.placeholder?, Cursor.capture, Cursor.advance, indexed]
            using hrest

/-! ### The whole expression -/

/-- The expression of a template matches at the start of a text or nowhere. -/
theorem find_later (template : Template) {position : Nat} (hlater : 0 < position)
    (text : List Char) : template.regex.find position text = none := by
  have hnone (position : Nat) (hlater : 0 < position) (text : List Char) :
      (template.regex.runs ⟨position, text, []⟩).head? = none := by
    have hne : position ≠ 0 := by omega
    simp [Template.regex, runs, hne]
  induction text generalizing position with
  | nil => exact hnone position hlater []
  | cons c rest ih =>
      rw [find, hnone position hlater, ih (Nat.lt_succ_of_lt hlater)]
      rfl

/-- What the expression of a template finds in a text is the first way to fill the slots. -/
theorem find_fill (template : Template) (text : List Char) :
    (template.regex.find 0 text).map (·.found) =
      (Template.fill template.segments text).map (indexed 1) := by
  -- Only the first position counts, and there the anchors leave the items and the end.
  have hfind : template.regex.find 0 text =
      (template.regex.runs ⟨0, text, []⟩).head? := by
    cases text with
    | nil => rfl
    | cons c rest =>
        rw [find, find_later template Nat.zero_lt_one]
        simp
  have hruns : template.regex.runs ⟨0, text, []⟩ =
      (runsItems 0 template.items ⟨0, text, []⟩).flatMap finish.runs := by
    simp [Template.regex, runs, runs_joined, Cursor.capture]
  have hcaptures := captures_fill 0 template.segments ⟨0, text, []⟩
  rw [hfind, hruns, List.head?_flatMap]
  exact hcaptures

end Regex

end Switchboard
