import Switchboard.Proofs.Template.Lengths

/-!
# What the chart computes

A row of the chart has one entry for each position of the text, and the entry depends only on the
text from there on. So a row is the list of the values of one function (`rowOf`), and the chart is
a search: of the lengths that a segment can take, `fill` takes the first one after which the
segments that follow can take the rest of the text. `slots_eq_fill` says that the chart finds what
this search finds.
-/

namespace Switchboard

/-- For each position of a text the value of a function at the text from there on. -/
def rowOf (f : List Char → Option Nat) : List Char → Row
  | [] => [f []]
  | c :: rest => f (c :: rest) :: rowOf f rest

section Rows

variable (f g : List Char → Option Nat)

/-- The first entry of a row is the value at the whole text. -/
@[simp] theorem row_of_head (text : List Char) : (rowOf f text).headD none = f text := by
  cases text <;> rfl

/-- The entry of a row at a position is the value at the text from there on. -/
theorem row_of_at (before text : List Char) :
    (rowOf f (before ++ text)).getD before.length none = f text := by
  induction before with
  | nil => cases text <;> rfl
  | cons c rest ih => simpa [rowOf] using ih

/-- A row mapped entry by entry. -/
theorem row_of_map (change : Option Nat → Option Nat) (text : List Char) :
    (rowOf f text).map change = rowOf (fun suffix ↦ change (f suffix)) text := by
  induction text with
  | nil => rfl
  | cons c rest ih => simp [rowOf, ih]

/-- Two rows joined entry by entry. -/
theorem row_of_or (text : List Char) :
    List.zipWith (· <|> ·) (rowOf f text) (rowOf g text) =
      rowOf (fun suffix ↦ f suffix <|> g suffix) text := by
  induction text with
  | nil => rfl
  | cons c rest ih => rw [rowOf, rowOf, List.zipWith_cons_cons, ih, rowOf]

end Rows

/-! ### Parts -/

/-- What is taken in all if one of the given lengths is taken first and `next` says what is taken
after it: the first length counts after which something can be taken. -/
def prefer (lengths : List Char → List Nat) (next : List Char → Option Nat) (text : List Char) :
    Option Nat :=
  (lengths text).findSome? fun n ↦ (next (text.drop n)).map (· + n)

namespace Part

variable (accepts : Char → Bool) (next : List Char → Option Nat)

/-- Taking one character and then what follows. -/
theorem take_one (c : Char) (rest : List Char) :
    takeOne accepts c (next rest) = prefer (takeOnce accepts) next (c :: rest) := by
  unfold takeOne prefer
  rw [takeOnce]
  cases accepts c <;> simp

/-- The row of a character that occurs once. -/
theorem once_row (text : List Char) :
    onceRow accepts text (rowOf next text) = rowOf (prefer (takeOnce accepts) next) text := by
  induction text with
  | nil => rfl
  | cons c rest ih =>
      have htail : onceRow accepts (c :: rest) (rowOf next (c :: rest)) =
          takeOne accepts c (next rest) :: onceRow accepts rest (rowOf next rest) := by
        cases rest <;> rfl
      rw [htail, ih, take_one, rowOf]

/-- Taking accepted characters as long as it can be done, and none if what follows wants it so. -/
theorem prefer_many (c : Char) (rest : List Char) :
    prefer (takeMany accepts) next (c :: rest) =
      (takeOne accepts c (prefer (takeMany accepts) next rest) <|> next (c :: rest)) := by
  unfold prefer takeOne
  rw [takeMany]
  cases accepts c with
  | false => simp
  | true =>
      simp [List.findSome?_map, Function.comp_def, List.map_findSome?, Nat.add_assoc]

/-- The row of a character that occurs any number of times. -/
theorem many_row (text : List Char) :
    manyRow accepts text (rowOf next text) = rowOf (prefer (takeMany accepts) next) text := by
  induction text with
  | nil => simp [manyRow, rowOf, prefer, takeMany]
  | cons c rest ih =>
      have hstep : manyRow accepts (c :: rest) (rowOf next (c :: rest)) =
          (takeOne accepts c ((manyRow accepts rest (rowOf next rest)).headD none) <|>
            next (c :: rest)) :: manyRow accepts rest (rowOf next rest) := rfl
      rw [hstep, ih, row_of_head, ← prefer_many, rowOf]

/-- The row of a part is what it takes from each position when the next row says what follows. -/
theorem row_eq (part : Part) (text : List Char) :
    part.row text (rowOf next text) = rowOf (prefer part.lengths next) text := by
  rcases part with ⟨accepts, occurs⟩
  cases occurs with
  | once => exact once_row accepts next text
  | many => exact many_row accepts next text
  | optional =>
      simp only [row, once_row, row_of_or]
      congr 1
      funext suffix
      simp [prefer, lengths]

end Part

/-- The first value found over lists put together is the first one found over the lists. -/
theorem findSome_flatMap {α β γ : Type} (members : List α) (f : α → List β) (g : β → Option γ) :
    (members.flatMap f).findSome? g = members.findSome? fun member ↦ (f member).findSome? g := by
  induction members with
  | nil => rfl
  | cons member rest ih =>
      rw [List.flatMap_cons, List.findSome?_append, ih, List.findSome?_cons]
      cases (f member).findSome? g <;> rfl

/-- Parts prefer the first of their lengths after which something can be taken. -/
theorem prefer_all (parts : List Part) (next : List Char → Option Nat) (text : List Char) :
    parts.foldr (fun part following ↦ prefer part.lengths following)
        (fun suffix ↦ (next suffix).map fun _ ↦ 0) text =
      (takeAll parts text).findSome? fun n ↦ (next (text.drop n)).map fun _ ↦ n := by
  induction parts generalizing text with
  | nil => simp [takeAll]
  | cons part rest ih =>
      rw [List.foldr_cons, prefer, takeAll, findSome_flatMap]
      congr 1
      funext n
      rw [ih, List.map_findSome?, List.findSome?_map]
      simp [Function.comp_def, Nat.add_comm]

/-! ### Segments -/

/-- The row of a segment is what it takes from each position when the next row says where the rest
can be taken. -/
theorem Segment.row_eq (segment : Segment) (next : List Char → Option Nat) (text : List Char) :
    segment.row text (rowOf next text) =
      rowOf (fun suffix ↦ (segment.lengths suffix).findSome? fun n ↦
        (next (suffix.drop n)).map fun _ ↦ n) text := by
  have hparts (parts : List Part) :
      parts.foldr (fun part row ↦ part.row text row)
          (rowOf (fun suffix ↦ (next suffix).map fun _ ↦ 0) text) =
        rowOf (parts.foldr (fun part following ↦ prefer part.lengths following)
          (fun suffix ↦ (next suffix).map fun _ ↦ 0)) text := by
    induction parts with
    | nil => rfl
    | cons part rest ih => rw [List.foldr_cons, ih, Part.row_eq, List.foldr_cons]
  rw [row, row_of_map, hparts]
  congr 1
  funext suffix
  exact prefer_all segment.parts next suffix

namespace Template

/-- The number of characters that the first of some segments takes from the start of a text so
that the others can take the rest: the first of its lengths after which they can. -/
def lengthAt : List Segment → List Char → Option Nat
  | [], text => if text.isEmpty then some 0 else none
  | segment :: rest, text =>
    (segment.lengths text).findSome? fun n ↦ (lengthAt rest (text.drop n)).map fun _ ↦ n

/-- The texts in the slots when some segments take a whole text. -/
def fill : List Segment → List Char → Option (List (List Char))
  | [], text => if text.isEmpty then some [] else none
  | segment :: rest, text =>
    (segment.lengths text).findSome? fun n ↦
      (fill rest (text.drop n)).map (segment.placeholder?.toList.map (fun _ ↦ text.take n) ++ ·)

/-- The row of the end says where the text is empty. -/
theorem end_row_eq (text : List Char) : endRow text = rowOf (lengthAt []) text := by
  induction text with
  | nil => rfl
  | cons c rest ih =>
      have hstep : endRow (c :: rest) = none :: endRow rest := by
        simp [endRow, List.replicate_succ]
      rw [hstep, ih]
      rfl

/-- The first row of the chart has the lengths that the first segment takes. -/
theorem chart_head (segments : List Segment) (text : List Char) :
    (chart segments text).headD [] = rowOf (lengthAt segments) text := by
  induction segments with
  | nil => exact end_row_eq text
  | cons segment rest ih =>
      have hstep : (chart (segment :: rest) text).headD [] =
          segment.row text ((chart rest text).headD []) := rfl
      rw [hstep, ih, Segment.row_eq]
      rfl

/-- The chart of several segments is a row and the chart of all but the first one. -/
theorem chart_cons (segment : Segment) (rest : List Segment) (text : List Char) :
    chart (segment :: rest) text =
      rowOf (lengthAt (segment :: rest)) text :: chart rest text := by
  have hstep : chart (segment :: rest) text =
      (chart (segment :: rest) text).headD [] :: chart rest text := rfl
  rw [hstep, chart_head]

/-- The slots can be filled where the first segment can take something. -/
theorem fill_isSome (segments : List Segment) (text : List Char) :
    (fill segments text).isSome = (lengthAt segments text).isSome := by
  induction segments generalizing text with
  | nil =>
      unfold fill lengthAt
      split <;> rfl
  | cons segment rest ih =>
      rw [fill, lengthAt, Bool.eq_iff_iff, List.findSome?_isSome_iff, List.findSome?_isSome_iff]
      simp only [Option.isSome_map, ih]

/-- The first member for which there is a value decides what is found. -/
theorem findSome_of_first {α β γ : Type} {members : List α} {first : α} {f : α → Option β}
    {g : α → Option γ}
    (hfirst : (members.findSome? fun member ↦ (f member).map fun _ ↦ member) = some first)
    (hsame : ∀ member, (f member).isSome = (g member).isSome) : members.findSome? g = g first := by
  induction members with
  | nil => cases hfirst
  | cons member rest ih =>
      rw [List.findSome?_cons] at hfirst ⊢
      have hmember := hsame member
      cases hf : f member with
      | none =>
          rw [hf] at hfirst hmember
          rw [Option.isNone_iff_eq_none.mp (Option.isSome_eq_false_iff.mp hmember.symm)]
          exact ih hfirst
      | some value =>
          rw [hf] at hfirst hmember
          obtain rfl : member = first := Option.some.inj hfirst
          obtain ⟨found, hfound⟩ := Option.isSome_iff_exists.mp hmember.symm
          rw [hfound]

/-- The length that the first segment takes says how the slots are filled. -/
theorem fill_cons {segment : Segment} {rest : List Segment} {text : List Char} {n : Nat}
    (hn : lengthAt (segment :: rest) text = some n) :
    n ≤ text.length ∧ fill (segment :: rest) text =
      (fill rest (text.drop n)).map
        (segment.placeholder?.toList.map (fun _ ↦ text.take n) ++ ·) := by
  constructor
  · obtain ⟨before, length, after, hlengths, hlength, -⟩ := List.findSome?_eq_some_iff.mp hn
    obtain ⟨_, -, rfl⟩ := Option.map_eq_some_iff.mp hlength
    have hmem : length ∈ segment.lengths text := by
      rw [hlengths]
      exact List.mem_append_right _ List.mem_cons_self
    exact ((segment.mem_lengths text length).mp hmem).1
  · refine findSome_of_first hn fun member ↦ ?_
    rw [Option.isSome_map, fill_isSome]

/-- The chart cuts a text into pieces so that the slots are filled. -/
theorem pieces_eq (segments : List Segment) (before text : List Char) {slots : List (List Char)}
    (hslots : fill segments text = some slots) :
    (segments.zip (pieces (chart segments (before ++ text)) before.length text)).filterMap
        (fun (segment, piece) ↦ segment.placeholder?.map fun _ ↦ String.ofList piece) =
      slots.map String.ofList := by
  induction segments generalizing before text slots with
  | nil =>
      rw [fill] at hslots
      split at hslots
      · cases hslots
        rfl
      · cases hslots
  | cons segment rest ih =>
      have hsome : (lengthAt (segment :: rest) text).isSome = true := by
        rw [← fill_isSome, hslots]
        rfl
      obtain ⟨n, hn⟩ := Option.isSome_iff_exists.mp hsome
      obtain ⟨hle, hfill⟩ := fill_cons hn
      rw [hfill, Option.map_eq_some_iff] at hslots
      obtain ⟨others, hothers, rfl⟩ := hslots
      -- The row says at the present position how long the first piece is, and the rest is cut
      -- from behind it.
      have hat : (rowOf (lengthAt (segment :: rest)) (before ++ text)).getD before.length none =
          some n := by
        rw [row_of_at, hn]
      have hsplit : before ++ text = (before ++ text.take n) ++ text.drop n := by
        rw [List.append_assoc, List.take_append_drop]
      have hlength : before.length + n = (before ++ text.take n).length := by
        rw [List.length_append, List.length_take, Nat.min_eq_left hle]
      have hrest := ih (before ++ text.take n) (text.drop n) hothers
      rw [← hsplit, ← hlength] at hrest
      simp only [chart_cons, pieces, hat, Option.getD_some, List.zip_cons_cons, List.filterMap_cons,
        hrest]
      cases segment <;> simp [Segment.placeholder?]

/-- The chart fills the slots as the search does. -/
theorem slots_eq_fill (template : Template) (command : String) :
    template.slots? command =
      (fill template.segments command.toList).map (List.map String.ofList) := by
  have hstart : start (chart template.segments command.toList) =
      lengthAt template.segments command.toList := by
    rw [start, chart_head, row_of_head]
  have hsome := fill_isSome template.segments command.toList
  simp only [slots?, hstart, ← hsome]
  cases hfill : fill template.segments command.toList with
  | none => rfl
  | some slots =>
      have hpieces := pieces_eq template.segments [] command.toList hfill
      simpa using hpieces

/-- A command matches a template if the slots can be filled. -/
theorem match_eq_fill (template : Template) (command : String) :
    template.isMatch command = (fill template.segments command.toList).isSome := by
  rw [fill_isSome, isMatch, start, chart_head, row_of_head]

end Template

end Switchboard
