import Mathlib.Data.List.Forall2
import Switchboard.Proofs.Template.Chart

/-!
# Decompositions of a command

A decomposition of a command has one text for each slot of a template, each in the language of its
slot, so that the template with these texts in its slots is the command. A command may have
several; one is the greatest, which is to say that the lengths of its texts come last in the
lexicographic order. `slots_of_decomposes` says that the slots can be filled where there is a
decomposition, and `greatest_of_slots` that they are filled with the greatest one.
-/

namespace Switchboard

/-- The language of a slot: text without a line feed, digits, or a number with a point and a digit
behind it. -/
def Placeholder.Admits : Placeholder → List Char → Prop
  | .str, text => '\n' ∉ text
  | .uint, text => ∀ c ∈ text, Decimal.isDigit c = true
  | .float, text => ∃ sign whole fraction, text = sign ++ whole ++ '.' :: fraction ∧
      (sign = [] ∨ sign = ['-'] ∨ sign = ['+']) ∧ (∀ c ∈ whole, Decimal.isDigit c = true) ∧
      fraction ≠ [] ∧ ∀ c ∈ fraction, Decimal.isDigit c = true

/-- The texts are a decomposition of a command: there is one for each slot, in its language, and
the template with these texts in its slots is the command. -/
structure Template.Decomposes (template : Template) (texts : List String) (command : String) :
    Prop where
  admits : List.Forall₂ (fun kind text ↦ kind.Admits text.toList) template.placeholders texts
  render : template.render texts = command

/-- The lexicographic order of lists of lengths: the first difference decides. -/
def LexLe : List Nat → List Nat → Prop
  | [], _ => True
  | _ :: _, [] => False
  | first :: rest, other :: others => first < other ∨ first = other ∧ LexLe rest others

/-- Lists of lengths that come before each other are the same. -/
theorem lex_antisymm {left right : List Nat} (hleft : LexLe left right)
    (hright : LexLe right left) : left = right := by
  induction left generalizing right with
  | nil =>
      cases right with
      | nil => rfl
      | cons => cases hright
  | cons first rest ih =>
      cases right with
      | nil => cases hleft
      | cons other others =>
          rcases hleft with hlt | ⟨rfl, hrest⟩
          · rcases hright with hgt | ⟨rfl, -⟩ <;> omega
          · rcases hright with hgt | ⟨-, hothers⟩
            · omega
            · rw [ih hrest hothers]

/-- The texts are the decomposition of a command whose lengths are lexicographically greatest. -/
structure Template.Greatest (template : Template) (texts : List String) (command : String) :
    Prop extends template.Decomposes texts command where
  greatest : ∀ others, template.Decomposes others command →
    LexLe (others.map String.length) (texts.map String.length)

/-! ### What the parts of a segment spell -/

/-- A character that occurs any number of times spells runs of accepted characters. -/
theorem spells_many (accepts : Char → Bool) (piece : List Char) :
    Spells [⟨accepts, .many⟩] piece ↔ ∀ c ∈ piece, accepts c = true := by
  simp [Spells, Part.Admits]

/-- A literal spells its own text only. -/
theorem spells_literal (text piece : List Char) :
    Spells (text.map fun c ↦ ⟨(· == c), .once⟩) piece ↔ piece = text := by
  induction text generalizing piece with
  | nil => rfl
  | cons c rest ih =>
      simp only [List.map_cons, Spells, ih, Part.Admits, List.length_eq_one_iff]
      constructor
      · rintro ⟨first, others, rfl, ⟨haccepts, d, rfl⟩, rfl⟩
        have hsame : d = c := by simpa using haccepts
        rw [hsame]
        rfl
      · rintro rfl
        exact ⟨[c], rest, rfl, ⟨by simp, c, rfl⟩, rfl⟩

/-- A sign that may be missing is one of the two signs or nothing. -/
theorem admits_sign (piece : List Char) :
    Part.Admits ⟨fun c ↦ c == '-' || c == '+', .optional⟩ piece ↔
      piece = [] ∨ piece = ['-'] ∨ piece = ['+'] := by
  cases piece with
  | nil => simp [Part.Admits]
  | cons c rest => cases rest <;> simp [Part.Admits]

/-- A character that occurs once is one accepted character. -/
theorem admits_once (accepts : Char → Bool) (piece : List Char) :
    Part.Admits ⟨accepts, .once⟩ piece ↔ ∃ c, piece = [c] ∧ accepts c = true := by
  simp only [Part.Admits, List.length_eq_one_iff]
  constructor
  · rintro ⟨haccepts, c, rfl⟩
    exact ⟨c, rfl, haccepts c List.mem_cons_self⟩
  · rintro ⟨c, rfl, haccepts⟩
    exact ⟨by simpa using haccepts, c, rfl⟩

/-- The parts of a number spell the numbers with a point and a digit behind it. -/
theorem spells_number (piece : List Char) :
    Spells (Placeholder.parts .float) piece ↔ Placeholder.Admits .float piece := by
  constructor
  · rintro ⟨sign, _, rfl, hsign, whole, _, rfl, hwhole, _, _, rfl, hpoint, _, digits, rfl, hdigit,
      hdigits⟩
    obtain ⟨point, rfl, hdot⟩ := (admits_once _ _).mp hpoint
    obtain ⟨digit, rfl, hfirst⟩ := (admits_once _ _).mp hdigit
    rw [beq_iff_eq.mp hdot]
    refine ⟨sign, whole, digit :: digits, by simp, (admits_sign sign).mp hsign, hwhole.1,
      by simp, ?_⟩
    exact List.forall_mem_cons.mpr ⟨hfirst, (spells_many _ digits).mp hdigits⟩
  · rintro ⟨sign, whole, fraction, rfl, hsign, hwhole, hsome, hfraction⟩
    cases fraction with
    | nil => exact absurd rfl hsome
    | cons digit digits =>
        obtain ⟨hdigit, hdigits⟩ := List.forall_mem_cons.mp hfraction
        refine ⟨sign, whole ++ '.' :: digit :: digits, by simp, (admits_sign sign).mpr hsign, whole,
          '.' :: digit :: digits, rfl, ⟨hwhole, trivial⟩, ['.'], digit :: digits, rfl, ?_, [digit],
          digits, rfl, ?_, (spells_many _ digits).mpr hdigits⟩
        · exact (admits_once _ _).mpr ⟨'.', rfl, rfl⟩
        · exact (admits_once _ _).mpr ⟨digit, rfl, hdigit⟩

/-- The parts of a slot spell the language of the slot. -/
theorem spells_placeholder (kind : Placeholder) (piece : List Char) :
    Spells kind.parts piece ↔ kind.Admits piece := by
  cases kind with
  | str =>
      rw [Placeholder.parts, spells_many, Placeholder.Admits]
      constructor
      · intro haccepts hmem
        have hfeed := haccepts '\n' hmem
        simp at hfeed
      · intro hnone c hmem
        simp only [bne_iff_ne]
        rintro rfl
        exact hnone hmem
  | uint => exact spells_many _ piece
  | float => exact spells_number piece

/-! ### Cutting a text -/

namespace Template

/-- The segments cut a text into pieces that they spell, and the slots are the pieces of the
placeholders. -/
def Cuts : List Segment → List (List Char) → List Char → Prop
  | [], slots, text => slots = [] ∧ text = []
  | segment :: rest, slots, text => ∃ piece tail others, text = piece ++ tail ∧
      Spells segment.parts piece ∧
      slots = segment.placeholder?.toList.map (fun _ ↦ piece) ++ others ∧ Cuts rest others tail

/-- A literal cuts off its own text. -/
theorem cuts_literal (text : String) (rest : List Segment) (slots : List (List Char))
    (whole : List Char) :
    Cuts (.literal text :: rest) slots whole ↔
      ∃ tail, whole = text.toList ++ tail ∧ Cuts rest slots tail := by
  simp only [Cuts, Segment.parts, spells_literal, Segment.placeholder?]
  constructor
  · rintro ⟨piece, tail, others, rfl, rfl, rfl, hrest⟩
    exact ⟨tail, rfl, hrest⟩
  · rintro ⟨tail, rfl, hrest⟩
    exact ⟨text.toList, tail, slots, rfl, rfl, rfl, hrest⟩

/-- A placeholder cuts off a text of its language. -/
theorem cuts_placeholder (kind : Placeholder) (rest : List Segment) (slots : List (List Char))
    (whole : List Char) :
    Cuts (.placeholder kind :: rest) slots whole ↔
      ∃ piece tail others, whole = piece ++ tail ∧ kind.Admits piece ∧ slots = piece :: others ∧
        Cuts rest others tail := by
  simp only [Cuts, Segment.parts, spells_placeholder, Segment.placeholder?]
  rfl

/-- Texts of the languages of the slots are what the rendered text can be cut into. -/
theorem cuts_iff (segments : List Segment) (texts : List String) (command : List Char) :
    Cuts segments (texts.map String.toList) command ↔
      List.Forall₂ (fun kind text ↦ kind.Admits text.toList)
          (segments.filterMap Segment.placeholder?) texts ∧
        (Segment.render segments texts).toList = command := by
  induction segments generalizing texts command with
  | nil =>
      simp only [Cuts, List.map_eq_nil_iff, List.filterMap_nil, List.forall₂_nil_left_iff,
        Segment.render, eq_comm (a := command)]
      rfl
  | cons segment rest ih =>
      cases segment with
      | literal text =>
          rw [cuts_literal]
          simp only [ih, List.filterMap_cons, Segment.placeholder?, Segment.render,
            String.toList_append]
          constructor
          · rintro ⟨tail, rfl, hadmits, rfl⟩
            exact ⟨hadmits, rfl⟩
          · rintro ⟨hadmits, rfl⟩
            exact ⟨_, rfl, hadmits, rfl⟩
      | placeholder kind =>
          rw [cuts_placeholder]
          simp only [List.filterMap_cons, Segment.placeholder?]
          constructor
          · rintro ⟨piece, tail, others, rfl, hadmits, htexts, hrest⟩
            cases texts with
            | nil => cases htexts
            | cons text texts =>
                obtain ⟨rfl, rfl⟩ := List.cons.inj htexts
                obtain ⟨hothers, rfl⟩ := (ih texts tail).mp hrest
                refine ⟨.cons hadmits hothers, ?_⟩
                rw [Segment.render, String.toList_append]
          · rintro ⟨hadmits, rfl⟩
            cases hadmits with
            | @cons _ text _ texts hadmits hothers =>
                refine ⟨text.toList, _, _, ?_, hadmits, rfl, (ih texts _).mpr ⟨hothers, rfl⟩⟩
                rw [Segment.render, String.toList_append]

/-- A decomposition is a way to cut the command. -/
theorem decomposes_iff_cuts (template : Template) (texts : List String) (command : String) :
    template.Decomposes texts command ↔
      Cuts template.segments (texts.map String.toList) command.toList := by
  rw [cuts_iff]
  constructor
  · rintro ⟨hadmits, hrender⟩
    exact ⟨hadmits, congrArg String.toList hrender⟩
  · rintro ⟨hadmits, hrender⟩
    exact ⟨hadmits, String.toList_inj.mp hrender⟩

/-! ### The greatest decomposition -/

/-- What the slots are filled with is cut from the text. -/
theorem cuts_of_fill {segments : List Segment} {text : List Char} {slots : List (List Char)}
    (hfill : fill segments text = some slots) : Cuts segments slots text := by
  induction segments generalizing text slots with
  | nil =>
      rw [fill] at hfill
      split at hfill
      · rename_i hempty
        cases hfill
        exact ⟨rfl, List.isEmpty_iff.mp hempty⟩
      · cases hfill
  | cons segment rest ih =>
      rw [fill] at hfill
      obtain ⟨_, n, _, hlengths, hrest, -⟩ := List.findSome?_eq_some_iff.mp hfill
      obtain ⟨others, hothers, rfl⟩ := Option.map_eq_some_iff.mp hrest
      have hmem : n ∈ segment.lengths text := by
        rw [hlengths]
        exact List.mem_append_right _ List.mem_cons_self
      obtain ⟨-, hspells⟩ := (segment.mem_lengths text n).mp hmem
      exact ⟨text.take n, text.drop n, others, (List.take_append_drop n text).symm, hspells, rfl,
        ih hothers⟩

/-- In a descending list the first member for which there is a value is the greatest one. -/
theorem first_greatest {α : Type} {f : Nat → Option α} {lengths : List Nat}
    (hdescending : lengths.Pairwise (· ≥ ·)) {n : Nat} (hn : n ∈ lengths)
    (hvalue : (f n).isSome = true) :
    ∃ most, (lengths.findSome? fun length ↦ (f length).map fun _ ↦ length) = some most ∧
      most ∈ lengths ∧ n ≤ most := by
  induction lengths with
  | nil => cases hn
  | cons first others ih =>
      rw [List.pairwise_cons] at hdescending
      rw [List.findSome?_cons]
      cases hfirst : f first with
      | some value =>
          refine ⟨first, rfl, List.mem_cons_self, ?_⟩
          rcases List.mem_cons.mp hn with rfl | hothers
          · exact Nat.le_refl n
          · exact hdescending.1 n hothers
      | none =>
          -- There is a value for n and none for the head, so n comes later.
          have hne : n ≠ first := by
            rintro rfl
            simp [hfirst] at hvalue
          obtain ⟨most, hfound, hmem, hle⟩ :=
            ih hdescending.2 (List.mem_of_ne_of_mem hne hn)
          exact ⟨most, hfound, List.mem_cons_of_mem _ hmem, hle⟩

/-- A literal can take its own length only. -/
theorem length_of_literal {text : String} {whole : List Char} {n : Nat}
    (hn : n ∈ (Segment.literal text).lengths whole) : n = text.toList.length := by
  obtain ⟨hle, hspells⟩ := ((Segment.literal text).mem_lengths whole n).mp hn
  have htake := congrArg List.length ((spells_literal text.toList _).mp hspells)
  rw [List.length_take] at htake
  omega

/-- If a text can be cut, the slots are filled, and no cut has lengths that come behind theirs. -/
theorem fill_of_cuts {segments : List Segment} {text : List Char} {slots : List (List Char)}
    (hcuts : Cuts segments slots text) :
    ∃ best, fill segments text = some best ∧
      LexLe (slots.map List.length) (best.map List.length) := by
  induction segments generalizing text slots with
  | nil =>
      obtain ⟨rfl, rfl⟩ := hcuts
      exact ⟨[], rfl, trivial⟩
  | cons segment rest ih =>
      obtain ⟨piece, tail, others, rfl, hspells, rfl, hrest⟩ := hcuts
      obtain ⟨bestRest, hbestRest, hle⟩ := ih hrest
      have hpiece : piece.length ∈ segment.lengths (piece ++ tail) := by
        rw [segment.mem_lengths, List.take_left]
        exact ⟨by simp, hspells⟩
      have hvalue : (lengthAt rest ((piece ++ tail).drop piece.length)).isSome = true := by
        rw [List.drop_left, ← fill_isSome, hbestRest]
        rfl
      obtain ⟨most, hfound, hmem, hmore⟩ := first_greatest
        (f := fun n ↦ lengthAt rest ((piece ++ tail).drop n)) (segment.lengths_descending _) hpiece
        hvalue
      have hmost : lengthAt (segment :: rest) (piece ++ tail) = some most := hfound
      obtain ⟨hinside, hfill⟩ := fill_cons hmost
      by_cases hsame : piece.length = most
      · -- The cut begins as the greatest one does, so the rest decides.
        rw [← hsame, List.take_left, List.drop_left, hbestRest] at hfill
        refine ⟨_, hfill, ?_⟩
        cases segment with
        | literal => exact hle
        | placeholder => exact .inr ⟨rfl, hle⟩
      · cases segment with
        | literal =>
            exact absurd ((length_of_literal hpiece).trans (length_of_literal hmem).symm) hsame
        | placeholder kind =>
            -- The greatest cut begins with a longer text, and that decides.
            have hsome : (fill (.placeholder kind :: rest) (piece ++ tail)).isSome = true := by
              rw [fill_isSome, hmost]
              rfl
            obtain ⟨best, hbest⟩ := Option.isSome_iff_exists.mp hsome
            obtain ⟨bestOthers, -, hothers⟩ := Option.map_eq_some_iff.mp (hfill.symm.trans hbest)
            refine ⟨best, hbest, ?_⟩
            rw [← hothers]
            refine .inl ?_
            rw [List.length_take, Nat.min_eq_left hinside]
            exact Nat.lt_of_le_of_ne hmore hsame

/-- The lengths of the texts in the slots determine the cut. -/
theorem cuts_unique {segments : List Segment} {text : List Char} {left right : List (List Char)}
    (hleft : Cuts segments left text) (hright : Cuts segments right text)
    (hlengths : left.map List.length = right.map List.length) : left = right := by
  induction segments generalizing text left right with
  | nil => rw [hleft.1, hright.1]
  | cons segment rest ih =>
      cases segment with
      | literal literal =>
          obtain ⟨tail, rfl, hrest⟩ := (cuts_literal ..).mp hleft
          obtain ⟨otherTail, htail, hotherRest⟩ := (cuts_literal ..).mp hright
          rw [← List.append_cancel_left htail] at hotherRest
          exact ih hrest hotherRest hlengths
      | placeholder kind =>
          obtain ⟨piece, tail, others, rfl, -, rfl, hrest⟩ := (cuts_placeholder ..).mp hleft
          obtain ⟨otherPiece, otherTail, otherOthers, hsplit, -, rfl, hotherRest⟩ :=
            (cuts_placeholder ..).mp hright
          obtain ⟨hlength, hothers⟩ := List.cons.inj hlengths
          obtain ⟨rfl, rfl⟩ := List.append_inj hsplit hlength
          rw [ih hrest hotherRest hothers]

/-- The lengths of texts are the lengths of their lists of characters. -/
theorem length_toList (texts : List String) :
    (texts.map String.toList).map List.length = texts.map String.length := by
  rw [List.map_map]
  rfl

/-- A command has one greatest decomposition at most. -/
theorem greatest_unique {template : Template} {command : String} {left right : List String}
    (hleft : template.Greatest left command) (hright : template.Greatest right command) :
    left = right := by
  have hlengths : left.map String.length = right.map String.length :=
    lex_antisymm (hright.greatest left hleft.toDecomposes)
      (hleft.greatest right hright.toDecomposes)
  have hcuts := cuts_unique ((decomposes_iff_cuts ..).mp hleft.toDecomposes)
    ((decomposes_iff_cuts ..).mp hright.toDecomposes)
    (by rw [length_toList, length_toList, hlengths])
  exact List.map_injective_iff.mpr (fun _ _ ↦ String.toList_inj.mp) hcuts

/-- Slots that are filled hold the greatest decomposition of the command. -/
theorem greatest_of_slots {template : Template} {command : String} {texts : List String}
    (hslots : template.slots? command = some texts) : template.Greatest texts command := by
  rw [slots_eq_fill] at hslots
  obtain ⟨slots, hfill, rfl⟩ := Option.map_eq_some_iff.mp hslots
  have hlists : (slots.map String.ofList).map String.toList = slots := by
    simp [Function.comp_def]
  refine ⟨(decomposes_iff_cuts ..).mpr (hlists.symm ▸ cuts_of_fill hfill), fun others hothers ↦ ?_⟩
  obtain ⟨best, hbest, hle⟩ := fill_of_cuts ((decomposes_iff_cuts ..).mp hothers)
  obtain rfl : slots = best := Option.some.inj (hfill.symm.trans hbest)
  rw [← length_toList, ← length_toList, hlists]
  exact hle

/-- The slots can be filled if the command has a decomposition. -/
theorem slots_of_decomposes {template : Template} {command : String} {texts : List String}
    (h : template.Decomposes texts command) : ∃ slots, template.slots? command = some slots := by
  obtain ⟨best, hbest, -⟩ := fill_of_cuts ((decomposes_iff_cuts ..).mp h)
  exact ⟨best.map String.ofList, by rw [slots_eq_fill, hbest]; rfl⟩

end Template

end Switchboard
