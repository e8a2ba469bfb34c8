import Switchboard.Proofs.Regex
import Switchboard.Proofs.Template.Items

/-!
# The expression of a template

The pattern of a template, anchored at both ends, is written in the syntax of regular expressions.
`read_anchored` says what expression it is: the expressions of the items one after the other, a
character for a character and a group that captures for a slot, however the characters are
spelled.
-/

namespace Switchboard

open Regex (Token)

/-- The tokens of the group of a slot without its parentheses. -/
def Placeholder.tokens : Placeholder → List Token
  | .str => [.chars (· != '\n'), .quantifier .many]
  | .uint => [.chars Decimal.isDigit, .quantifier .many]
  | .float =>
    [.chars fun c ↦ c == '-' || c == '+', .quantifier .optional, .chars Decimal.isDigit,
      .quantifier .many, .chars (· == '.'), .chars Decimal.isDigit, .quantifier .atLeastOnce]

/-- The expression in the group of a slot. -/
def Placeholder.regex : Placeholder → Regex
  | .str => .append .empty (.chars (· != '\n') .many)
  | .uint => .append .empty (.chars Decimal.isDigit .many)
  | .float =>
    .append
      (.append
        (.append (.append .empty (.chars (fun c ↦ c == '-' || c == '+') .optional))
          (.chars Decimal.isDigit .many))
        (.chars (· == '.') .once))
      (.chars Decimal.isDigit .atLeastOnce)

namespace Item

/-- The tokens of an item. -/
def tokens : Item → List Token
  | character c => [.chars (· == c)]
  | slot kind => .opened true :: (kind.tokens ++ [.closed])

/-- The expression of an item, given the number of the group that it would be. -/
def regex (number : Nat) : Item → Regex
  | character c => .chars (· == c) .once
  | slot kind => .group (some number) kind.regex

/-- The number of groups of an item. -/
def groups : Item → Nat
  | character _ => 0
  | slot _ => 1

/-- The number of groups of several items. -/
def allGroups : List Item → Nat
  | [] => 0
  | item :: rest => item.groups + allGroups rest

end Item

/-- An expression with those of some items behind it, given the number of groups in it. -/
def joined : Nat → Regex → List Item → Regex
  | _, current, [] => current
  | groups, current, item :: rest =>
    joined (groups + item.groups) (current.append (item.regex (groups + 1))) rest

/-- The expression of a template: it matches whole texts only. -/
def Template.regex (template : Template) : Regex :=
  ((Regex.empty.append .start).append (.group none (joined 0 .empty template.items))).append .finish

namespace Regex

/-! ### Tokens -/

/-- What the reader does with several characters: the tokens that they complete, and where it is
then. -/
def readChars : Mode → List Char → Option (List Token × Mode)
  | mode, [] => some ([], mode)
  | mode, c :: rest =>
    (readChar mode c).bind fun (completed, next) ↦
      (readChars next rest).map fun (later, last) ↦ (completed ++ later, last)

/-- The tokens of a text are those that its beginning completes and those read from there on. -/
theorem tokens_append {mode next : Mode} {text : List Char} {completed : List Token}
    (hread : readChars mode text = some (completed, next)) (rest : List Char) :
    tokens mode (text ++ rest) = (tokens next rest).map (completed ++ ·) := by
  induction text generalizing mode completed with
  | nil =>
      obtain ⟨rfl, rfl⟩ := Prod.mk.inj (Option.some.inj hread)
      simp
  | cons c others ih =>
      rw [readChars, Option.bind_eq_some_iff] at hread
      obtain ⟨⟨first, middle⟩, hfirst, hothers⟩ := hread
      obtain ⟨⟨later, last⟩, hlater, hpair⟩ := Option.map_eq_some_iff.mp hothers
      obtain ⟨rfl, rfl⟩ := Prod.mk.inj hpair
      have hstep : tokens mode (c :: (others ++ rest)) =
          (readChar mode c).bind fun (completed, next) ↦
            (tokens next (others ++ rest)).map (completed ++ ·) := by
        cases mode <;> rfl
      rw [List.cons_append, hstep, hfirst]
      simp [ih hlater, Function.comp_def]

/-- The class of the digits. -/
theorem read_digits : readClass ['0', '-', '9'] = some Decimal.isDigit := by
  have hclass : classChars ['0', '-', '9'] = Decimal.isDigit := by
    funext c
    simp [classChars, Decimal.isDigit]
  rw [← hclass]
  rfl

/-- The class of the signs. -/
theorem read_signs : readClass ['-', '+'] = some fun c ↦ c == '-' || c == '+' := by
  have hclass : classChars ['-', '+'] = fun c ↦ c == '-' || c == '+' := by
    funext c
    simp [classChars]
  rw [← hclass]
  rfl

/-- A character without a meaning of its own stands for itself. -/
theorem read_between_plain {c : Char} (hplain : c ∉ metaCharacters) :
    readBetween c = some ([.chars (· == c)], .plain) := by
  have hne (d : Char) (hd : d ∈ metaCharacters) : c ≠ d := fun heq ↦ hplain (heq ▸ hd)
  have hread : readPlain c = some (.chars (· == c)) := by
    -- Each character that has a meaning of its own is one of those that are escaped.
    unfold readPlain
    split <;> first | rfl | exact absurd rfl (hne _ (by decide))
  rw [readBetween, if_neg (hne _ (by decide)), if_neg (hne _ (by decide)),
    if_neg (hne _ (by decide)), hread]
  rfl

/-- A character that stands for itself is read as such, however it is spelled. -/
theorem read_escape (c : Char) :
    readChars .plain (escapeMeta c) = some ([.chars (· == c)], .plain) := by
  unfold escapeMeta
  split
  · rename_i hmeta
    have hescaped : readChar .escaped c = some ([.chars (· == c)], .plain) := if_pos hmeta
    have hslash : readChar .plain '\\' = some ([], .escaped) := rfl
    simp [readChars, hslash, hescaped]
  · rename_i hplain
    have hread : readChar .plain c = some ([.chars (· == c)], .plain) := read_between_plain hplain
    simp [readChars, hread]

/-- The group of a slot is read as its tokens. -/
theorem read_placeholder (kind : Placeholder) :
    readChars .plain kind.pattern.toList = some ((Item.slot kind).tokens, .plain) := by
  cases kind with
  | str => rfl
  | uint =>
      have hread : readChars .plain (Placeholder.pattern .uint).toList =
          (readClass ['0', '-', '9']).map fun digits ↦
            ([.opened true, .chars digits, .quantifier .many, .closed], .plain) := rfl
      rw [hread, read_digits]
      rfl
  | float =>
      have hread : readChars .plain (Placeholder.pattern .float).toList =
          (readClass ['-', '+']).bind fun signs ↦ (readClass ['0', '-', '9']).map fun digits ↦
            ([.opened true, .chars signs, .quantifier .optional, .chars digits, .quantifier .many,
              .chars (· == '.'), .chars digits, .quantifier .atLeastOnce, .closed], .plain) := rfl
      rw [hread, read_signs, read_digits]
      rfl

/-- The code of an item is read as its tokens. -/
theorem read_code (item : Item) : readChars .plain item.code = some (item.tokens, .plain) := by
  cases item with
  | character c => exact read_escape c
  | slot kind => exact read_placeholder kind

/-- What is spelled with the codes of items is read as their tokens. -/
theorem tokens_items (items : List Item) (rest : List Char) :
    tokens .plain (items.flatMap Item.code ++ rest) =
      (tokens .plain rest).map (items.flatMap Item.tokens ++ ·) := by
  induction items with
  | nil => simp
  | cons item others ih =>
      rw [List.flatMap_cons, List.append_assoc, tokens_append (read_code item), ih]
      simp [Function.comp_def]

/-! ### Expressions -/

/-- The tokens of an item stand for its expression. -/
theorem parse_item (stack : List (Option Nat × Regex)) (current : Regex) (groups : Nat)
    (item : Item) (rest : List Token) :
    parse stack current groups (item.tokens ++ rest) =
      parse stack (current.append (item.regex (groups + 1))) (groups + item.groups) rest := by
  cases item with
  | character c => simp [Item.tokens, parse, Item.regex, Item.groups]
  | slot kind =>
      cases kind <;>
        simp [Item.tokens, Placeholder.tokens, parse, Item.regex, Placeholder.regex, Item.groups]

/-- The tokens of items stand for their expressions one after the other. -/
theorem parse_items (stack : List (Option Nat × Regex)) (current : Regex) (groups : Nat)
    (items : List Item) (rest : List Token) :
    parse stack current groups (items.flatMap Item.tokens ++ rest) =
      parse stack (joined groups current items) (groups + Item.allGroups items) rest := by
  induction items generalizing current groups with
  | nil => rfl
  | cons item others ih =>
      rw [List.flatMap_cons, List.append_assoc, parse_item, ih, joined, Item.allGroups,
        Nat.add_assoc]

/-- The anchored pattern of a template is written for its expression. -/
theorem read_anchored (template : Template) :
    read? template.anchoredPattern = some template.regex := by
  have htokens : tokens .plain template.anchoredPattern.toList =
      some ([.start, .opened false] ++
        (template.items.flatMap Item.tokens ++ [.closed, .finish])) := by
    have hbegin : readChars .plain "^(?:".toList = some ([.start, .opened false], .plain) := rfl
    have hend : tokens .plain ")$".toList = some [.closed, .finish] := rfl
    rw [Template.anchoredPattern, Template.anchored, String.toList_append, String.toList_append,
      Template.pattern_items, List.append_assoc, tokens_append hbegin, tokens_items, hend]
    rfl
  rw [read?, htokens, Option.bind_some]
  simp only [List.cons_append, List.nil_append, parse]
  rw [parse_items]
  simp [parse, Template.regex]

end Regex

end Switchboard
