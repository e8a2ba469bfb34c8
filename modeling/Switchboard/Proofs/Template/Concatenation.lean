import Switchboard.Proofs.Template.Decomposition
import Switchboard.Proofs.Template.Faults

/-!
# Templates in a row

The text of a template with the text of another one behind it can be read as well. Its items are
those of the first and then those of the second, and so are its pattern and its slots. The segments
are not: a literal that is open where the first text ends goes on in the second, so a literal at the
end and one at the start become one (`Segment.joined`). That makes no difference to what can be cut
(`cuts_joined`), so a command matches both templates in a row if and only if it can be divided
between them. All this holds of what is compiled if the engine takes both patterns in a row
(`compile_append`). It may take each of them and not both, if they are too large together
(`long_halves_refused`).
-/

namespace Switchboard

namespace Segment

/-- Segments with others behind them. A literal at the end of the first and a literal at the start
of the second become one literal. -/
def joined : List Segment → List Segment → List Segment
  | [], second => second
  | [.literal text], .literal other :: rest => .literal (text ++ other) :: rest
  | segment :: rest, second => segment :: joined rest second

/-- Behind a slot no literal is open. -/
theorem joined_placeholder (kind : Placeholder) (rest second : List Segment) :
    joined (.placeholder kind :: rest) second = .placeholder kind :: joined rest second := by
  cases second <;> rfl

/-- A literal with a slot behind it is closed. -/
theorem joined_closed (text : String) (kind : Placeholder) (rest second : List Segment) :
    joined (.literal text :: .placeholder kind :: rest) second =
      .literal text :: .placeholder kind :: joined rest second := by
  rw [← joined_placeholder]
  cases second <;> rfl

/-- A literal stays as it is in front of segments that begin with a slot. -/
theorem joined_open (text : String) {second : List Segment}
    (hslot : ∀ segment ∈ second.head?, segment.placeholder?.isSome) :
    joined [.literal text] second = .literal text :: second := by
  cases second with
  | nil => rfl
  | cons segment rest =>
      cases segment with
      | literal other => cases hslot _ rfl
      | placeholder kind => rfl

end Segment

namespace Template

open Segment (joined)

/-! ### Reading -/

/-- A literal that goes on over a boundary is the two literals that it is divided into, joined. -/
theorem close_literal_joined (read before : List Char) {rest : List Segment}
    (hslot : ∀ segment ∈ rest.head?, segment.placeholder?.isSome) :
    closeLiteral (before ++ read) rest =
      joined (closeLiteral read []) (closeLiteral before rest) := by
  cases read with
  | nil =>
      rw [List.append_nil]
      rfl
  | cons c read =>
      have hread : closeLiteral (c :: read) [] =
          [.literal (String.ofList (c :: read).reverse)] := rfl
      rw [hread]
      cases before with
      | nil => exact (Segment.joined_open _ hslot).symm
      | cons d before =>
          show [Segment.literal (String.ofList (d :: before ++ c :: read).reverse)] ++ rest =
            .literal (String.ofList (c :: read).reverse ++ String.ofList (d :: before).reverse) ::
              rest
          rw [List.reverse_append, String.ofList_append]
          rfl

/-- The segments behind a literal that goes on are joined to this literal. -/
theorem segments_behind (read before : List Char) (items : List Item) :
    Item.segments (before ++ read) items =
      joined (closeLiteral read []) (Item.segments before items) := by
  induction items generalizing before with
  | nil => exact close_literal_joined read before (fun _ h ↦ nomatch h)
  | cons item rest ih =>
      cases item with
      | character c => exact ih (c :: before)
      | slot kind =>
          refine close_literal_joined read before fun segment hsegment ↦ ?_
          obtain rfl := Option.mem_some_iff.mp hsegment
          rfl

/-- The segments of items with others behind them are the segments of both, joined. -/
theorem segments_append (read : List Char) (items others : List Item) :
    Item.segments read (items ++ others) =
      joined (Item.segments read items) (Item.segments [] others) := by
  induction items generalizing read with
  | nil => exact segments_behind read [] others
  | cons item rest ih =>
      cases item with
      | character c => exact ih (c :: read)
      | slot kind =>
          have hrest := ih []
          simp only [List.cons_append, Item.segments, hrest]
          cases read with
          | nil => exact (Segment.joined_placeholder kind _ _).symm
          | cons c read => exact (Segment.joined_closed _ kind _ _).symm

/-! ### Matching -/

variable {first second : List Segment} {slots : List (List Char)} {text : List Char}

/-- Segments with others behind them cut a text that can be divided between the two. -/
theorem cuts_append :
    Cuts (first ++ second) slots text ↔
      ∃ left right before behind, slots = left ++ right ∧ text = before ++ behind ∧
        Cuts first left before ∧ Cuts second right behind := by
  induction first generalizing slots text with
  | nil =>
      constructor
      · intro hcuts
        exact ⟨[], slots, [], text, rfl, rfl, ⟨rfl, rfl⟩, hcuts⟩
      · rintro ⟨left, right, before, behind, rfl, rfl, ⟨rfl, rfl⟩, hcuts⟩
        exact hcuts
  | cons segment rest ih =>
      constructor
      · rintro ⟨piece, tail, others, rfl, hspells, rfl, hrest⟩
        obtain ⟨left, right, before, behind, rfl, rfl, hleft, hright⟩ := ih.mp hrest
        refine ⟨_, right, piece ++ before, behind, (List.append_assoc ..).symm,
          (List.append_assoc ..).symm, ?_, hright⟩
        exact ⟨piece, before, left, rfl, hspells, rfl, hleft⟩
      · rintro ⟨_, right, _, behind, rfl, rfl, ⟨piece, tail, others, rfl, hspells, rfl, hrest⟩,
          hright⟩
        refine ⟨piece, tail ++ behind, others ++ right, List.append_assoc .., hspells,
          List.append_assoc .., ?_⟩
        exact ih.mpr ⟨others, right, tail, behind, rfl, rfl, hrest, hright⟩

/-- Joining a literal to another one does not change what is cut. -/
theorem cuts_joined :
    Cuts (joined first second) slots text ↔ Cuts (first ++ second) slots text := by
  fun_induction joined first second generalizing slots text with
  | case1 => rfl
  | case2 left right rest =>
      simp only [List.singleton_append, cuts_literal, String.toList_append]
      constructor
      · rintro ⟨tail, rfl, hrest⟩
        exact ⟨_, List.append_assoc .., tail, rfl, hrest⟩
      · rintro ⟨_, rfl, tail, rfl, hrest⟩
        exact ⟨tail, (List.append_assoc ..).symm, hrest⟩
  | case3 segment rest second _ ih => simp only [List.cons_append, Cuts, ih]

/-- A template matches the commands that its segments can cut. -/
theorem match_iff_cuts (template : Template) (command : String) :
    template.isMatch command = true ↔ ∃ slots, Cuts template.segments slots command.toList := by
  rw [match_eq_fill, Option.isSome_iff_exists]
  constructor
  · rintro ⟨slots, hfill⟩
    exact ⟨slots, cuts_of_fill hfill⟩
  · rintro ⟨slots, hcuts⟩
    obtain ⟨best, hbest, -⟩ := fill_of_cuts hcuts
    exact ⟨best, hbest⟩

/-- Templates whose segments are joined match a command that can be divided between them. -/
theorem match_joined_iff (left right : Template) (command : String) :
    Template.isMatch ⟨joined left.segments right.segments⟩ command = true ↔
      ∃ before behind, command = before ++ behind ∧ left.isMatch before = true ∧
        right.isMatch behind = true := by
  simp only [match_iff_cuts, cuts_joined, cuts_append]
  constructor
  · rintro ⟨_, slots, others, before, behind, rfl, hcommand, hleft, hright⟩
    refine ⟨String.ofList before, String.ofList behind, ?_, ⟨slots, ?_⟩, others, ?_⟩
    · rw [← String.toList_inj, hcommand, String.toList_append, String.toList_ofList,
        String.toList_ofList]
    · rwa [String.toList_ofList]
    · rwa [String.toList_ofList]
  · rintro ⟨before, behind, rfl, ⟨slots, hleft⟩, others, hright⟩
    exact ⟨_, slots, others, before.toList, behind.toList, rfl, String.toList_append .., hleft,
      hright⟩

/-! ### Both -/

/-- If two texts can be read, so can the one with the other behind it. Its pattern is the pattern of
the first with that of the second behind it, its slots are those of the first and then those of the
second, and its segments are the segments of both, joined. -/
theorem read_append {first second : String} {left right : Template}
    (hleft : read first = .ok left) (hright : read second = .ok right) :
    ∃ whole, read (first ++ second) = .ok whole ∧
      whole.pattern = left.pattern ++ right.pattern ∧
      whole.placeholders = left.placeholders ++ right.placeholders ∧
      whole.segments = joined left.segments right.segments := by
  obtain ⟨items, hplain, hfirst, rfl⟩ := (read_iff first left).mp hleft
  obtain ⟨others, hothers, hsecond, rfl⟩ := (read_iff second right).mp hright
  have hitems : ∀ list, Template.items ⟨Item.segments [] list⟩ = list :=
    fun list ↦ Item.items_segments [] list
  have hwhole : read (first ++ second) = .ok ⟨Item.segments [] (items ++ others)⟩ := by
    refine (read_iff _ _).mpr ⟨items ++ others, ?_, ?_, rfl⟩
    · exact List.forall_mem_append.mpr ⟨hplain, hothers⟩
    · rw [String.toList_append, hfirst, hsecond, List.flatMap_append]
  refine ⟨_, hwhole, ?_, ?_, segments_append [] items others⟩
  · simp only [pattern_segments, List.flatMap_append, String.ofList_append]
  · simp only [placeholders_items, hitems, List.filterMap_append]

/-- If two texts are templates, and the engine takes the pattern of the first with that of the
second behind it, then the first text with the second behind it is a template. It has this pattern,
its slots are those of the first and then those of the second, and its segments are the segments of
both, joined. A command matches it if and only if the command has a first part that matches the
first and a second part that matches the second. If the engine refuses the pattern, the two texts in
a row are rejected with what it says. -/
theorem compile_append {matcher : Matcher} {first second : String} {left right : Template}
    (hleft : compile matcher first = .ok left) (hright : compile matcher second = .ok right) :
    (matcher.Takes (anchored (left.pattern ++ right.pattern)) →
      ∃ whole, compile matcher (first ++ second) = .ok whole ∧
        whole.pattern = left.pattern ++ right.pattern ∧
        whole.placeholders = left.placeholders ++ right.placeholders ∧
        whole.arity = left.arity + right.arity ∧
        whole.segments = joined left.segments right.segments ∧
        ∀ command, whole.isMatch command = true ↔
          ∃ before behind, command = before ++ behind ∧ left.isMatch before = true ∧
            right.isMatch behind = true) ∧
    ∀ refusal, matcher.refusal? (anchored (left.pattern ++ right.pattern)) = some refusal →
      compile matcher (first ++ second) =
        .error (.malformed (first ++ second) 0 (.refused refusal)) := by
  obtain ⟨whole, hread, hpattern, hslots, hsegments⟩ :=
    read_append (read_of_compile hleft) (read_of_compile hright)
  have hanchored : anchored (left.pattern ++ right.pattern) = whole.anchoredPattern := by
    rw [anchoredPattern, hpattern]
  rw [hanchored]
  refine ⟨fun htakes ↦ ?_, fun refusal hrefused ↦ ?_⟩
  · have hcompile := (compile_ok_iff matcher (first ++ second) whole).mpr ⟨hread, htakes⟩
    refine ⟨whole, hcompile, hpattern, hslots, ?_, hsegments, fun command ↦ ?_⟩
    · simp only [arity, hslots, List.length_append]
    · obtain ⟨segments⟩ := whole
      obtain rfl : segments = joined left.segments right.segments := hsegments
      exact match_joined_iff left right command
  · exact (compile_error_iff ..).mpr (.inr ⟨whole, refusal, hread, hrefused, rfl⟩)

/-- Two templates meet in the middle of a word. In a row they have one literal there, and they match
a command that each of them matches in part. -/
theorem sample_append :
    compile .sized "go [uint] no" = .ok ⟨[.literal "go ", .placeholder .uint, .literal " no"]⟩ ∧
    compile .sized "rth[str]" = .ok ⟨[.literal "rth", .placeholder .str]⟩ ∧
    ∃ whole, compile .sized "go [uint] north[str]" = .ok whole ∧
      whole.segments = [.literal "go ", .placeholder .uint, .literal " north", .placeholder .str] ∧
      whole.isMatch "go 7 north-east" = true := by
  have hleft : compile .sized "go [uint] no" =
      .ok ⟨[.literal "go ", .placeholder .uint, .literal " no"]⟩ := by decide
  have hright : compile .sized "rth[str]" = .ok ⟨[.literal "rth", .placeholder .str]⟩ := by decide
  obtain ⟨whole, hwhole, -, -, -, hsegments, hmatch⟩ := (compile_append hleft hright).1 rfl
  refine ⟨hleft, hright, whole, hwhole, hsegments.trans (by decide), ?_⟩
  exact (hmatch _).mpr ⟨"go 7 no", "rth-east", by decide, by decide, by decide⟩

/-- A run of letters is a template, and the same run twice in a row is not: its pattern is too large
for the engine. -/
theorem long_halves_refused :
    let half := letters 250000
    (∃ template, compile .sized half = .ok template) ∧
      ¬ ∃ whole, compile .sized (half ++ half) = .ok whole := by
  intro half
  have hhalf : compile .sized half = .ok ⟨[.literal half]⟩ := by
    rw [compile_letters (by decide), if_pos (by decide)]
  refine ⟨⟨_, hhalf⟩, ?_⟩
  rintro ⟨whole, hwhole⟩
  rw [← letters_add, compile_letters (by decide), if_neg (by decide)] at hwhole
  cases hwhole

end Template

end Switchboard
