import Switchboard.Template.Match

/-!
# How much a segment can take

`Segment.lengths` lists the numbers of characters that a segment can take from the start of a
text, the preferred one first. `mem_lengths` says that these are the lengths of the beginnings
that the parts of the segment spell, and `lengths_descending` that a segment prefers the longer
one of any two, which is not so for every sequence of parts.
-/

namespace Switchboard

/-- The one character that can be taken from the start of a text, if it is accepted. -/
def takeOnce (accepts : Char → Bool) : List Char → List Nat
  | [] => []
  | c :: _ => if accepts c then [1] else []

/-- The numbers of accepted characters that can be taken from the start of a text, the greatest
first. -/
def takeMany (accepts : Char → Bool) : List Char → List Nat
  | [] => [0]
  | c :: rest => if accepts c then (takeMany accepts rest).map (· + 1) ++ [0] else [0]

/-- The numbers of characters that a part can take from the start of a text, the preferred one
first. -/
def Part.lengths (part : Part) (text : List Char) : List Nat :=
  match part.occurs with
  | .once => takeOnce part.accepts text
  | .optional => takeOnce part.accepts text ++ [0]
  | .many => takeMany part.accepts text

/-- The numbers of characters that parts can take one after the other, the preferred one first. -/
def takeAll : List Part → List Char → List Nat
  | [], _ => [0]
  | part :: rest, text =>
    (part.lengths text).flatMap fun n ↦ (takeAll rest (text.drop n)).map (· + n)

/-- The numbers of characters that a segment can take from the start of a text, the preferred one
first. -/
def Segment.lengths (segment : Segment) (text : List Char) : List Nat :=
  takeAll segment.parts text

/-- The texts of a part: accepted characters, as many as may occur. -/
def Part.Admits (part : Part) (piece : List Char) : Prop :=
  (∀ c ∈ piece, part.accepts c = true) ∧
    match part.occurs with
    | .once => piece.length = 1
    | .optional => piece.length ≤ 1
    | .many => True

/-- The texts that parts spell one after the other. -/
def Spells : List Part → List Char → Prop
  | [], piece => piece = []
  | part :: rest, piece =>
    ∃ first others, piece = first ++ others ∧ part.Admits first ∧ Spells rest others

/-! ### What can be taken -/

/-- One character can be taken if the text has one and it is accepted. -/
theorem mem_take_once (accepts : Char → Bool) (text : List Char) (n : Nat) :
    n ∈ takeOnce accepts text ↔
      n ≤ text.length ∧ (∀ c ∈ text.take n, accepts c = true) ∧ (text.take n).length = 1 := by
  cases text with
  | nil => simp [takeOnce]
  | cons c rest =>
      rw [takeOnce]
      by_cases hone : n = 1
      · subst hone
        cases haccepts : accepts c <;> simp [haccepts]
      · have hlength : n ≤ (c :: rest).length → ((c :: rest).take n).length ≠ 1 := by
          intro hle heq
          rw [List.length_take] at heq
          omega
        constructor
        · intro hmem
          split at hmem
          · exact absurd (List.mem_singleton.mp hmem) hone
          · cases hmem
        · rintro ⟨hle, -, heq⟩
          exact absurd heq (hlength hle)

/-- Any number of accepted characters can be taken, up to the first one that is not accepted. -/
theorem mem_take_many (accepts : Char → Bool) (text : List Char) (n : Nat) :
    n ∈ takeMany accepts text ↔ n ≤ text.length ∧ ∀ c ∈ text.take n, accepts c = true := by
  induction text generalizing n with
  | nil => simp [takeMany]
  | cons c rest ih =>
      rw [takeMany]
      cases n with
      | zero => split <;> simp
      | succ n =>
          cases haccepts : accepts c with
          | false => simp [haccepts]
          | true => simp [haccepts, ih]

/-- A part can take the beginnings of the text that it admits. -/
theorem Part.mem_lengths (part : Part) (text : List Char) (n : Nat) :
    n ∈ part.lengths text ↔ n ≤ text.length ∧ part.Admits (text.take n) := by
  rcases part with ⟨accepts, occurs⟩
  cases occurs with
  | once => exact mem_take_once accepts text n
  | many => simp [lengths, Admits, mem_take_many]
  | optional =>
      simp only [lengths, Admits, List.mem_append, List.mem_singleton, mem_take_once]
      constructor
      · rintro (⟨hle, haccepts, hone⟩ | rfl)
        · exact ⟨hle, haccepts, Nat.le_of_eq hone⟩
        · simp
      · rintro ⟨hle, haccepts, hlength⟩
        rw [List.length_take] at hlength
        by_cases hzero : n = 0
        · exact .inr hzero
        · refine .inl ⟨hle, haccepts, ?_⟩
          rw [List.length_take]
          omega

/-- Parts can take the beginnings of the text that they spell. -/
theorem mem_take_all (parts : List Part) (text : List Char) (n : Nat) :
    n ∈ takeAll parts text ↔ n ≤ text.length ∧ Spells parts (text.take n) := by
  induction parts generalizing text n with
  | nil =>
      rw [takeAll, List.mem_singleton, Spells, List.take_eq_nil_iff]
      constructor
      · rintro rfl
        exact ⟨Nat.zero_le _, .inl rfl⟩
      · rintro ⟨hle, hzero | rfl⟩
        · exact hzero
        · exact Nat.le_zero.mp hle
  | cons part rest ih =>
      simp only [takeAll, Spells, List.mem_flatMap, List.mem_map, ih, Part.mem_lengths]
      constructor
      · rintro ⟨first, ⟨hfirst, hadmits⟩, others, ⟨hothers, hspells⟩, rfl⟩
        rw [List.length_drop] at hothers
        refine ⟨by omega, text.take first, (text.drop first).take others, ?_, hadmits, hspells⟩
        rw [Nat.add_comm, List.take_add]
      · rintro ⟨hle, first, others, hsplit, hadmits, hspells⟩
        -- The pieces are as long as the beginning that they spell, so they are cut from the text.
        have hlength : n = others.length + first.length := by
          have htake := congrArg List.length hsplit
          rw [List.length_take, List.length_append] at htake
          omega
        subst hlength
        rw [Nat.add_comm, List.take_add] at hsplit
        obtain ⟨hfirst, hothers⟩ := List.append_inj hsplit (by rw [List.length_take]; omega)
        refine ⟨first.length, ⟨by omega, ?_⟩, others.length, ⟨?_, ?_⟩, rfl⟩
        · rw [hfirst]
          exact hadmits
        · rw [List.length_drop]
          omega
        · rw [hothers]
          exact hspells

/-- A segment can take the beginnings of the text that its parts spell. -/
theorem Segment.mem_lengths (segment : Segment) (text : List Char) (n : Nat) :
    n ∈ segment.lengths text ↔ n ≤ text.length ∧ Spells segment.parts (text.take n) :=
  mem_take_all segment.parts text n

/-! ### What is preferred -/

/-- Of one kind of characters more are preferred to less. -/
theorem take_many_descending (accepts : Char → Bool) (text : List Char) :
    (takeMany accepts text).Pairwise (· ≥ ·) := by
  induction text with
  | nil => exact List.pairwise_singleton ..
  | cons c rest ih =>
      rw [takeMany]
      split
      · rw [List.pairwise_append, List.pairwise_map]
        refine ⟨ih.imp fun hge ↦ Nat.succ_le_succ hge, List.pairwise_singleton .., ?_⟩
        intro many _ none hnone
        rw [List.mem_singleton.mp hnone]
        exact Nat.zero_le many
      · exact List.pairwise_singleton ..

/-- A character in front changes nothing about what is preferred behind it. -/
theorem once_descending {parts : List Part}
    (hparts : ∀ text, (takeAll parts text).Pairwise (· ≥ ·)) (accepts : Char → Bool)
    (text : List Char) : (takeAll (⟨accepts, .once⟩ :: parts) text).Pairwise (· ≥ ·) := by
  cases text with
  | nil => exact .nil
  | cons c rest =>
      have hlengths : Part.lengths ⟨accepts, .once⟩ (c :: rest) =
          if accepts c then [1] else [] := rfl
      rw [takeAll, hlengths]
      split
      · rw [List.flatMap_singleton, List.pairwise_map]
        exact (hparts rest).imp fun hge ↦ Nat.succ_le_succ hge
      · exact .nil

/-- A part that stands alone takes what it can take. -/
theorem take_all_singleton (part : Part) (text : List Char) :
    takeAll [part] text = part.lengths text := by
  simp [takeAll]

/-- Before a character of another kind all of the characters are taken. -/
theorem take_many_before (accepts : Char → Bool) (other : Char → Bool) (parts : List Part)
    (hother : ∀ c, accepts c = true → other c = false) (c : Char) (rest : List Char)
    (haccepts : accepts c = true) :
    takeAll (⟨accepts, .many⟩ :: ⟨other, .once⟩ :: parts) (c :: rest) =
      (takeAll (⟨accepts, .many⟩ :: ⟨other, .once⟩ :: parts) rest).map (· + 1) := by
  -- Stopping in front of the character leaves it to the other kind, which does not accept it.
  have hnone : takeAll (⟨other, .once⟩ :: parts) (c :: rest) = [] := by
    simp [takeAll, Part.lengths, takeOnce, hother c haccepts]
  rw [takeAll, Part.lengths, takeMany, if_pos haccepts, List.flatMap_append, List.flatMap_map]
  simp only [List.drop_succ_cons, List.flatMap_singleton, List.drop_zero, hnone]
  simp [takeAll, Part.lengths, List.map_flatMap, Function.comp_def, Nat.add_assoc]

/-- The parts of a decimal number behind its sign. -/
def unsignedParts : List Part :=
  [⟨Decimal.isDigit, .many⟩, ⟨(· == '.'), .once⟩, ⟨Decimal.isDigit, .once⟩,
    ⟨Decimal.isDigit, .many⟩]

/-- Of the texts of a number without a sign the longer ones are preferred. -/
theorem take_unsigned_descending (text : List Char) :
    (takeAll unsignedParts text).Pairwise (· ≥ ·) := by
  induction text with
  | nil => exact .nil
  | cons c rest ih =>
      cases hdigit : Decimal.isDigit c with
      | true =>
          have hpoint (d : Char) (hd : Decimal.isDigit d = true) : (d == '.') = false := by
            cases hequal : d == '.' with
            | false => rfl
            | true =>
                rw [beq_iff_eq.mp hequal] at hd
                exact absurd hd (by decide)
          rw [unsignedParts, take_many_before _ _ _ hpoint c rest hdigit, List.pairwise_map]
          exact ih.imp fun hge ↦ Nat.succ_le_succ hge
      | false =>
          have hnone : takeAll unsignedParts (c :: rest) =
              takeAll unsignedParts.tail (c :: rest) := by
            simp [unsignedParts, takeAll, Part.lengths, takeMany, hdigit]
          rw [hnone]
          refine once_descending (once_descending (fun suffix ↦ ?_) _) _ _
          rw [take_all_singleton]
          exact take_many_descending _ suffix

/-- A sign is no part of a number without a sign. -/
theorem take_unsigned_sign {c : Char} (hsign : (c == '-' || c == '+') = true) (rest : List Char) :
    takeAll unsignedParts (c :: rest) = [] := by
  rcases Bool.or_eq_true_iff.mp hsign with hminus | hplus
  · rw [beq_iff_eq.mp hminus]
    rfl
  · rw [beq_iff_eq.mp hplus]
    rfl

/-- Of the texts of a number the longer ones are preferred. -/
theorem take_number_descending (text : List Char) :
    (takeAll (Placeholder.parts .float) text).Pairwise (· ≥ ·) := by
  have hparts : Placeholder.parts .float =
      ⟨fun c ↦ c == '-' || c == '+', .optional⟩ :: unsignedParts := rfl
  rw [hparts, takeAll]
  cases text with
  | nil => exact .nil
  | cons c rest =>
      cases hsign : (c == '-' || c == '+') with
      | false => simpa [Part.lengths, takeOnce, hsign] using take_unsigned_descending (c :: rest)
      | true =>
          -- The sign may be left out, but nothing can be taken then.
          have hlengths : Part.lengths ⟨fun c ↦ c == '-' || c == '+', .optional⟩ (c :: rest) =
              [1, 0] := by
            simp [Part.lengths, takeOnce, hsign]
          rw [hlengths]
          simp only [List.flatMap_cons, List.flatMap_nil, List.drop_succ_cons, List.drop_zero,
            take_unsigned_sign hsign, List.map_nil, List.append_nil, List.pairwise_map]
          exact (take_unsigned_descending rest).imp fun hge ↦ Nat.succ_le_succ hge

/-- The characters of a literal can be taken in one way at most. -/
theorem take_literal_descending (expected text : List Char) :
    (takeAll (expected.map fun c ↦ ⟨(· == c), .once⟩) text).Pairwise (· ≥ ·) := by
  induction expected generalizing text with
  | nil => exact List.pairwise_singleton ..
  | cons c others ih => exact once_descending ih _ text

/-- A segment prefers the longer one of any two texts that it can take. -/
theorem Segment.lengths_descending (segment : Segment) (text : List Char) :
    (segment.lengths text).Pairwise (· ≥ ·) := by
  cases segment with
  | literal expected => exact take_literal_descending expected.toList text
  | placeholder kind =>
      cases kind with
      | float => exact take_number_descending text
      | str | uint =>
          rw [lengths, parts, Placeholder.parts, take_all_singleton]
          exact take_many_descending _ text

end Switchboard
