import Mathlib.Data.List.Chain
import Switchboard.Proofs.Template.Items

/-!
# The grammar of templates

A text is a template if it is written with items: characters that are no brackets, and slots, each
written as its name in brackets. The reader accepts these texts and no others, and the segments that
it gives are the items with neighbouring characters joined to literals (`read_iff`). Such segments
are normal, and normal segments are what is read from the text that they are written as
(`read_normal`). What is read is compiled if the engine takes its pattern (`compile_ok_iff`), so as
far as the engine goes along, compiling and writing are inverse to each other (`compile_lossless`).
-/

namespace Switchboard

namespace Item

/-- A character that stands for itself is not a bracket. -/
def Plain : Item → Prop
  | character c => c ≠ '[' ∧ c ≠ ']'
  | slot _ => True

/-- The kind of slot, if the item is one. -/
def slot? : Item → Option Placeholder
  | character _ => none
  | slot kind => some kind

/-- The segments of the items behind the characters of a literal that goes on, the last one
first. -/
def segments : List Char → List Item → List Segment
  | read, [] => Template.closeLiteral read []
  | read, character c :: rest => segments (c :: read) rest
  | read, slot kind :: rest => Template.closeLiteral read (.placeholder kind :: segments [] rest)

/-- The characters of the literal that goes on behind the item. -/
def goOn (read : List Char) : Item → List Char
  | character c => c :: read
  | slot _ => []

/-- The segments that end with the item, in front of those behind it. -/
def close (read : List Char) : Item → List Segment → List Segment
  | character _, rest => rest
  | slot kind, rest => Template.closeLiteral read (.placeholder kind :: rest)

/-- The segments of items are those that end with the first one and those of the others. -/
theorem segments_cons (read : List Char) (item : Item) (rest : List Item) :
    segments read (item :: rest) = item.close read (segments (item.goOn read) rest) := by
  cases item <;> rfl

end Item

/-- A literal that is closed has the characters read there as its items. -/
theorem Template.items_close_literal (read : List Char) (rest : List Segment) :
    (closeLiteral read rest).flatMap Segment.items =
      read.reverse.map .character ++ rest.flatMap Segment.items := by
  unfold closeLiteral
  split
  · rename_i hempty
    rw [List.isEmpty_iff.mp hempty]
    rfl
  · simp [Segment.items]

namespace Item

/-- The segments of items have these items. -/
theorem items_segments (read : List Char) (items : List Item) :
    (segments read items).flatMap Segment.items = read.reverse.map character ++ items := by
  induction items generalizing read with
  | nil => exact Template.items_close_literal read []
  | cons item rest ih =>
      cases item with
      | character c => simp [segments, ih]
      | slot kind => simp [segments, Template.items_close_literal, Segment.items, ih]

end Item

namespace Template

/-! ### What the reader accepts -/

/-- What the reader can make of a text from a place on: in a literal the text is written with
items, and in brackets it ends a name and then is written with items. -/
inductive Place.Reads : Place → List Char → List Segment → Prop where
  | text {items : List Item} (read : List Char) : (∀ item ∈ items, item.Plain) →
      Reads (.text read) (items.flatMap Item.written) (Item.segments read items)
  | name {items : List Item} {kind : Placeholder} {read rest : List Char} :
      (∀ item ∈ items, item.Plain) → read.reverse ++ rest = kind.name.toList →
      Reads (.name read) (rest ++ ']' :: items.flatMap Item.written)
        (.placeholder kind :: Item.segments [] items)

/-- The name of a kind of slots has no brackets. -/
theorem name_plain (kind : Placeholder) : ∀ c ∈ kind.name.toList, c ≠ '[' ∧ c ≠ ']' := by
  cases kind <;> simp [Placeholder.name]

/-- A name stands for the kind of slots that has it. -/
theorem of_name_name (kind : Placeholder) : Placeholder.ofName? kind.name = some kind := by
  cases kind <;> rfl

/-- Between brackets the reader goes over anything but brackets. -/
theorem scan_name (whole : String) (index : Nat) (read : List Char) {name : List Char}
    (hplain : ∀ c ∈ name, c ≠ '[' ∧ c ≠ ']') (rest : List Char) :
    scan whole index (.name read) (name ++ rest) =
      scan whole (index + name.length) (.name (name.reverse ++ read)) rest := by
  induction name generalizing index read with
  | nil => rfl
  | cons c name ih =>
      obtain ⟨hc, hname⟩ := List.forall_mem_cons.mp hplain
      rw [List.cons_append, scan, if_neg hc.1, if_neg hc.2, ih _ _ hname]
      simp [Nat.add_assoc, Nat.add_comm 1]

/-- An item behind a literal is read as this item, and the literal goes on or is closed. -/
theorem scan_item (whole : String) (index : Nat) (read : List Char) {item : Item}
    (hplain : item.Plain) (rest : List Char) :
    scan whole index (.text read) (item.written ++ rest) =
      (scan whole (index + item.written.length) (.text (item.goOn read)) rest).map
        (item.close read) := by
  cases item with
  | character c =>
      rw [Item.written, List.singleton_append, scan, if_neg hplain.1, if_neg hplain.2]
      show _ = (scan whole (index + 1) (.text (c :: read)) rest).map fun rest ↦ rest
      cases scan whole (index + 1) (.text (c :: read)) rest <;> rfl
  | slot kind =>
      have hwritten : (Item.slot kind).written ++ rest =
          '[' :: (kind.name.toList ++ ']' :: rest) := by
        simp [Item.written]
      have hlength : index + (Item.slot kind).written.length =
          index + 1 + kind.name.toList.length + 1 := by
        simp [Item.written]
        omega
      rw [hwritten, hlength, scan, if_pos rfl, scan_name _ _ _ (name_plain kind), scan,
        if_neg (by decide), if_pos rfl, List.append_nil, List.reverse_reverse, String.ofList_toList,
        of_name_name, Item.goOn]
      cases scan whole (index + 1 + kind.name.toList.length + 1) (.text []) rest <;> rfl

/-- The reader gives what a place reads. -/
theorem scan_of_reads {place : Place} {text : List Char} {segments : List Segment}
    (h : place.Reads text segments) (whole : String) (index : Nat) :
    scan whole index place text = .ok segments := by
  -- Going on behind a slot is going on with an empty literal, so texts come first.
  have htext {items : List Item} (hplain : ∀ item ∈ items, item.Plain) (read : List Char)
      (index : Nat) :
      scan whole index (.text read) (items.flatMap Item.written) =
        .ok (Item.segments read items) := by
    induction items generalizing read index with
    | nil => rfl
    | cons item rest ih =>
        obtain ⟨hitem, hrest⟩ := List.forall_mem_cons.mp hplain
        rw [List.flatMap_cons, scan_item _ _ _ hitem, ih hrest, Item.segments_cons]
        rfl
  cases h with
  | text read hplain => exact htext hplain read index
  | @name items kind read rest hplain hname =>
      have hrest : ∀ c ∈ rest, c ≠ '[' ∧ c ≠ ']' := fun c hc ↦
        name_plain kind c (hname ▸ List.mem_append_right _ hc)
      have hwhole : (rest.reverse ++ read).reverse = kind.name.toList := by
        rw [List.reverse_append, List.reverse_reverse, hname]
      rw [scan_name _ _ _ hrest, scan, if_neg (by decide), if_pos rfl, hwhole,
        String.ofList_toList, of_name_name]
      simp only [htext hplain]
      rfl

/-- What the reader gives is what the place reads. -/
theorem reads_of_scan {whole : String} {index : Nat} {place : Place} {text : List Char}
    {segments : List Segment} (h : scan whole index place text = .ok segments) :
    place.Reads text segments := by
  induction text generalizing index place segments with
  | nil =>
      cases place with
      | text read =>
          obtain rfl : closeLiteral read [] = segments := by simpa [scan] using h
          exact @Place.Reads.text [] read (fun _ h ↦ nomatch h)
      | name read => simp [scan] at h
  | cons c rest ih =>
      cases place with
      | text read =>
          rw [scan] at h
          split at h
          · rename_i hopen
            obtain ⟨inner, hinner, rfl⟩ := ok_of_map h
            cases ih hinner with
            | @name items kind _ name hplain hname =>
                have hwritten : c :: (name ++ ']' :: items.flatMap Item.written) =
                    (Item.slot kind :: items).flatMap Item.written := by
                  rw [List.flatMap_cons, Item.written, ← hname, hopen]
                  simp
                rw [hwritten]
                exact .text read (List.forall_mem_cons.mpr ⟨trivial, hplain⟩)
          · split at h
            · cases h
            · rename_i hopen hclose
              cases ih h with
              | @text items _ hplain =>
                  exact @Place.Reads.text (.character c :: items) read
                    (List.forall_mem_cons.mpr ⟨⟨hopen, hclose⟩, hplain⟩)
      | name read =>
          rw [scan] at h
          split at h
          · cases h
          · split at h
            · rename_i hclose
              split at h
              · cases h
              · rename_i kind hkind
                obtain ⟨inner, hinner, rfl⟩ := ok_of_map h
                cases ih hinner with
                | text _ hplain =>
                    have hname : read.reverse ++ [] = kind.name.toList := by
                      rw [List.append_nil, name_of_of_name hkind, String.toList_ofList]
                    exact hclose ▸ .name hplain hname
            · cases ih h with
              | @name items kind _ name hplain hname =>
                  refine @Place.Reads.name items kind read (c :: name) hplain ?_
                  simpa using hname

/-- The templates are the texts that are written with items, and they are read as the segments of
the items. -/
theorem read_iff (text : String) (template : Template) :
    read text = .ok template ↔
      ∃ items : List Item, (∀ item ∈ items, item.Plain) ∧
        text.toList = items.flatMap Item.written ∧ template = ⟨Item.segments [] items⟩ := by
  constructor
  · intro h
    obtain ⟨segments, hscan, rfl⟩ := ok_of_map h
    generalize text.toList = written at hscan ⊢
    cases reads_of_scan hscan with
    | @text items _ hplain => exact ⟨items, hplain, rfl, rfl⟩
  · rintro ⟨items, hplain, hwritten, rfl⟩
    rw [read, hwritten, scan_of_reads (.text [] hplain)]
    rfl

/-- A template that was read from a text was written as this text. -/
theorem raw_of_read {text : String} {template : Template} (h : read text = .ok template) :
    template.raw = text := by
  obtain ⟨items, -, hwritten, rfl⟩ := (read_iff text template).mp h
  rw [← String.toList_inj, raw_items, hwritten, Template.items, Item.items_segments]
  rfl

/-- Texts from which templates with one pattern are read are the same. -/
theorem text_of_pattern {first second : String} {left right : Template}
    (hleft : read first = .ok left) (hright : read second = .ok right)
    (hpattern : left.pattern = right.pattern) : first = second := by
  rw [← raw_of_read hleft, ← raw_of_read hright, raw_of_pattern hpattern]

/-- Templates that were read from texts and have one pattern are the same. -/
theorem eq_of_pattern {first second : String} {left right : Template}
    (hleft : read first = .ok left) (hright : read second = .ok right)
    (hpattern : left.pattern = right.pattern) : left = right := by
  rw [text_of_pattern hleft hright hpattern, hright] at hleft
  exact (Except.ok.inj hleft).symm

/-! ### What the engine takes -/

/-- A template that was read is compiled if the engine takes its pattern, and its text is rejected
with what the engine says against it otherwise. -/
theorem compile_of_read {text : String} {template : Template} (h : read text = .ok template)
    (matcher : Matcher) :
    compile matcher text =
      match matcher.refusal? template.anchoredPattern with
      | none => .ok template
      | some refusal => .error (.malformed text 0 (.refused refusal)) := by
  rw [compile, h]
  rfl

/-- A text is compiled if a template is read from it and the engine takes the pattern of this
template. -/
theorem compile_ok_iff (matcher : Matcher) (text : String) (template : Template) :
    compile matcher text = .ok template ↔
      read text = .ok template ∧ matcher.Takes template.anchoredPattern := by
  unfold Matcher.Takes
  cases hread : read text with
  | error fault => simp [compile, hread, Except.bind]
  | ok found =>
      rw [compile_of_read hread, Except.ok.injEq]
      cases hrefusal : matcher.refusal? found.anchoredPattern with
      | none =>
          refine ⟨fun h ↦ ?_, fun h ↦ congrArg Except.ok h.1⟩
          obtain rfl := Except.ok.inj h
          exact ⟨rfl, hrefusal⟩
      | some refusal =>
          refine ⟨fun h ↦ (nomatch h), ?_⟩
          rintro ⟨rfl, htakes⟩
          rw [hrefusal] at htakes
          cases htakes

/-- A template that was compiled was read. -/
theorem read_of_compile {matcher : Matcher} {text : String} {template : Template}
    (h : compile matcher text = .ok template) : read text = .ok template :=
  ((compile_ok_iff matcher text template).mp h).1

end Template

/-! ### Normal segments -/

/-- A literal that can stand in the result of reading: it has characters, and none is a bracket. -/
def Segment.Plain : Segment → Prop
  | literal text => text ≠ "" ∧ ∀ c ∈ text.toList, c ≠ '[' ∧ c ≠ ']'
  | placeholder _ => True

/-- Segments are normal if their literals have characters, none of them a bracket, and no two
literals stand side by side. -/
structure Segment.Normal (segments : List Segment) : Prop where
  plain : ∀ segment ∈ segments, segment.Plain
  apart : segments.IsChain fun first second ↦
    first.placeholder?.isSome ∨ second.placeholder?.isSome

namespace Segment

/-- A slot can stand in front of any normal segments. -/
theorem normal_placeholder (kind : Placeholder) {rest : List Segment} (hrest : Normal rest) :
    Normal (.placeholder kind :: rest) where
  plain := List.forall_mem_cons.mpr ⟨trivial, hrest.plain⟩
  apart := List.isChain_cons.mpr ⟨fun _ _ ↦ .inl rfl, hrest.apart⟩

/-- A literal that is closed can stand in front of normal segments that begin with a slot. -/
theorem normal_close_literal {read : List Char} {rest : List Segment}
    (hread : ∀ c ∈ read, c ≠ '[' ∧ c ≠ ']') (hrest : Normal rest)
    (hslot : ∀ segment ∈ rest.head?, segment.placeholder?.isSome) :
    Normal (Template.closeLiteral read rest) := by
  unfold Template.closeLiteral
  split
  · exact hrest
  · rename_i hempty
    have hplain : (Segment.literal (String.ofList read.reverse)).Plain := by
      refine ⟨fun hnil ↦ hempty ?_, fun c hc ↦ hread c ?_⟩
      · simpa using hnil
      · simpa using hc
    exact ⟨List.forall_mem_cons.mpr ⟨hplain, hrest.plain⟩,
      List.isChain_cons.mpr ⟨fun segment hsegment ↦ .inr (hslot segment hsegment), hrest.apart⟩⟩

/-- Normal segments have no item but slots and characters that are no brackets. -/
theorem Normal.items_plain {segments : List Segment} (hnormal : Normal segments) :
    ∀ item ∈ segments.flatMap items, item.Plain := by
  intro item hitem
  obtain ⟨segment, hsegment, hmem⟩ := List.mem_flatMap.mp hitem
  cases segment with
  | literal text =>
      obtain ⟨c, hc, rfl⟩ := List.mem_map.mp hmem
      exact (hnormal.plain _ hsegment).2 c hc
  | placeholder kind =>
      obtain rfl := List.mem_singleton.mp hmem
      trivial

end Segment

namespace Item

/-- The segments of items are normal. -/
theorem segments_normal {read : List Char} {items : List Item}
    (hread : ∀ c ∈ read, c ≠ '[' ∧ c ≠ ']') (hplain : ∀ item ∈ items, item.Plain) :
    Segment.Normal (segments read items) := by
  induction items generalizing read with
  | nil =>
      exact Segment.normal_close_literal hread ⟨fun _ h ↦ (nomatch h), .nil⟩ fun _ h ↦ (nomatch h)
  | cons item rest ih =>
      obtain ⟨hitem, hrest⟩ := List.forall_mem_cons.mp hplain
      cases item with
      | character c => exact ih (List.forall_mem_cons.mpr ⟨hitem, hread⟩) hrest
      | slot kind =>
          have hafter : Segment.Normal (segments [] rest) := ih (fun _ h ↦ (nomatch h)) hrest
          refine Segment.normal_close_literal hread (Segment.normal_placeholder kind hafter)
            fun segment hsegment ↦ ?_
          obtain rfl := Option.mem_some_iff.mp hsegment
          rfl

/-- Characters are put into the literal that goes on. -/
theorem segments_characters (read text : List Char) (items : List Item) :
    segments read (text.map character ++ items) = segments (text.reverse ++ read) items := by
  induction text generalizing read with
  | nil => rfl
  | cons c rest ih => simp [segments, ih]

/-- Normal segments are the segments of their items. -/
theorem segments_of_normal {list : List Segment} (hnormal : Segment.Normal list) :
    segments [] (list.flatMap Segment.items) = list := by
  induction list with
  | nil => rfl
  | cons segment rest ih =>
      obtain ⟨hapart, hchain⟩ := List.isChain_cons.mp hnormal.apart
      obtain ⟨hsegment, hplain⟩ := List.forall_mem_cons.mp hnormal.plain
      have hrest := ih ⟨hplain, hchain⟩
      rw [List.flatMap_cons]
      cases segment with
      | placeholder kind => exact congrArg (.placeholder kind :: ·) hrest
      | literal text =>
          have hclosed (after : List Segment) :
              Template.closeLiteral text.toList.reverse after = .literal text :: after := by
            rw [Template.closeLiteral, if_neg (by simpa using hsegment.1), List.reverse_reverse,
              String.ofList_toList]
          rw [Segment.items, segments_characters, List.append_nil]
          -- The literal is closed by the end or by a slot, as the next segment is no literal.
          cases rest with
          | nil => exact hclosed []
          | cons next after =>
              cases next with
              | literal other => simpa [Segment.placeholder?] using hapart _ rfl
              | placeholder kind => exact (hclosed _).trans (congrArg _ hrest)

end Item

namespace Template

/-- The kinds of the slots are those of the items that are slots. -/
theorem placeholders_items (template : Template) :
    template.placeholders = template.items.filterMap Item.slot? := by
  rw [placeholders, items, List.filterMap_flatMap, List.filterMap_eq_flatMap_toList]
  refine List.flatMap_congr fun segment _ ↦ ?_
  cases segment with
  | literal text => simp [Segment.placeholder?, Segment.items, Item.slot?, List.filterMap_map]
  | placeholder kind => rfl

/-- The pattern of the segments of items is made of the codes of the items. -/
theorem pattern_segments (items : List Item) :
    (Template.mk (Item.segments [] items)).pattern = String.ofList (items.flatMap Item.code) := by
  rw [← String.toList_inj, String.toList_ofList, pattern_items, Template.items,
    Item.items_segments]
  rfl

/-- Normal segments are read from the text that they are written as. -/
theorem read_normal {segments : List Segment} (hnormal : Segment.Normal segments) :
    read (Template.mk segments).raw = .ok ⟨segments⟩ := by
  refine (read_iff _ _).mpr ⟨segments.flatMap Segment.items, hnormal.items_plain, ?_, ?_⟩
  · exact raw_items ⟨segments⟩
  · rw [Item.segments_of_normal hnormal]

/-- A text is compiled if and only if it is written with items and the engine takes the pattern that
is made of their codes. What is compiled is normal, is written as the text and has the slots of the
text in their order; and all normal segments are compiled from the text that they are written as, if
the engine takes their pattern. -/
theorem compile_lossless (matcher : Matcher) :
    (∀ text : String, (∃ template, compile matcher text = .ok template) ↔
      ∃ items : List Item, (∀ item ∈ items, item.Plain) ∧
        text.toList = items.flatMap Item.written ∧
        matcher.Takes (anchored (String.ofList (items.flatMap Item.code)))) ∧
    (∀ (text : String) (template : Template), compile matcher text = .ok template →
      Segment.Normal template.segments ∧ template.raw = text ∧
      ∀ items : List Item, (∀ item ∈ items, item.Plain) → text.toList = items.flatMap Item.written →
        template.placeholders = items.filterMap Item.slot?) ∧
    ∀ segments : List Segment, Segment.Normal segments →
      matcher.Takes (Template.mk segments).anchoredPattern →
      compile matcher (Template.mk segments).raw = .ok ⟨segments⟩ := by
  refine ⟨fun text ↦ ⟨?_, ?_⟩, fun text template hcompile ↦ ?_, fun segments hnormal htakes ↦ ?_⟩
  · rintro ⟨template, hcompile⟩
    obtain ⟨hread, htakes⟩ := (compile_ok_iff matcher text template).mp hcompile
    obtain ⟨items, hplain, hwritten, rfl⟩ := (read_iff text template).mp hread
    exact ⟨items, hplain, hwritten, pattern_segments items ▸ htakes⟩
  · rintro ⟨items, hplain, hwritten, htakes⟩
    rw [← pattern_segments] at htakes
    have hread := (read_iff text _).mpr ⟨items, hplain, hwritten, rfl⟩
    exact ⟨_, (compile_ok_iff matcher text _).mpr ⟨hread, htakes⟩⟩
  · have hread := read_of_compile hcompile
    refine ⟨?_, raw_of_read hread, fun items hplain hwritten ↦ ?_⟩
    · obtain ⟨items, hplain, -, rfl⟩ := (read_iff text template).mp hread
      exact Item.segments_normal (fun _ h ↦ (nomatch h)) hplain
    · have hagain := (read_iff text _).mpr ⟨items, hplain, hwritten, rfl⟩
      obtain rfl := Except.ok.inj (hread.symm.trans hagain)
      rw [placeholders_items, Template.items, Item.items_segments]
      rfl
  · exact (compile_ok_iff ..).mpr ⟨read_normal hnormal, htakes⟩

/-- A template with two slots side by side between two literals. -/
theorem sample_lossless :
    Segment.Normal [.literal "put ", .placeholder .uint, .placeholder .str, .literal "!"] ∧
      compile .sized "put [uint][str]!" =
        .ok ⟨[.literal "put ", .placeholder .uint, .placeholder .str, .literal "!"]⟩ ∧
      Template.placeholders ⟨[.literal "put ", .placeholder .uint, .placeholder .str, .literal "!"]⟩
        = [.uint, .str] := by
  have hnormal : Segment.Normal
      [.literal "put ", .placeholder .uint, .placeholder .str, .literal "!"] :=
    ⟨by simp [Segment.Plain], by decide⟩
  obtain ⟨-, hslots, hcompile⟩ := compile_lossless .sized
  have hcompiled := hcompile _ hnormal (by rfl)
  refine ⟨hnormal, hcompiled, ?_⟩
  refine (hslots _ _ hcompiled).2.2
    (("put ".toList.map .character) ++ [.slot .uint, .slot .str, .character '!']) ?_ (by decide)
  simp [Item.Plain]

end Template

end Switchboard
