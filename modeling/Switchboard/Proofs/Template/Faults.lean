import Switchboard.Proofs.Template.Grammar

/-!
# Where a text stops being a template

A text that is no template has one place at which this shows first: a bracket that cannot stand
there, a name that stands for no kind of slots, or the end of the text between brackets. What is
before the place is a template or would become one, and what is behind it does not matter.
`Template.Leftmost` says this without the reader. `Place.Behind` is what the reader knows about the
characters that it has read; every step keeps it or shows the fault (`scan_step`), so an error of
the reader is the leftmost fault (`leftmost_of_scan`), and the leftmost fault is what the reader
comes to (`scan_of_leftmost`).

A text without such a place can still be rejected, as a whole, because the engine does not take its
pattern (`compile_error_iff`). For an engine with a limit of size, a run of letters is such a text,
if it is long enough (`compile_letters`).
-/

namespace Switchboard

namespace Template

/-- The characters are those of a template, whether or not the engine takes its pattern. -/
def Readable (text : List Char) : Prop :=
  ∃ template, read (String.ofList text) = .ok template

/-- None of the characters is a bracket. -/
def Unbracketed (text : List Char) : Prop :=
  ∀ c ∈ text, c ≠ '[' ∧ c ≠ ']'

/-- The fault of a text that is no template, with the number of characters before the place where it
shows first. Behind a template there is a closing bracket; or there is an opening bracket, and then,
before any other bracket closes it, another one; or the brackets enclose a name that stands for no
kind of slots; or the text ends before a bracket closes it. -/
inductive Leftmost (text : String) : TemplateFault → Prop where
  | strayClose {before after : List Char} : Readable before →
      text.toList = before ++ ']' :: after →
      Leftmost text (.malformed text before.length .strayClose)
  | nestedOpen {before name after : List Char} : Readable before → Unbracketed name →
      text.toList = (before ++ '[' :: name) ++ '[' :: after →
      Leftmost text (.malformed text (before ++ '[' :: name).length .nestedOpen)
  | unknownName {before name after : List Char} : Readable before → Unbracketed name →
      (∀ kind : Placeholder, kind.name ≠ String.ofList name) →
      text.toList = (before ++ '[' :: name) ++ ']' :: after →
      Leftmost text (.unknownPlaceholder text (String.ofList name))
  | unclosed {before name : List Char} : Readable before → Unbracketed name →
      text.toList = before ++ '[' :: name →
      Leftmost text (.malformed text text.length .unclosed)

/-! ### Beginnings that are templates -/

/-- The texts of templates are written with items. -/
theorem readable_iff (text : List Char) :
    Readable text ↔ ∃ items : List Item, (∀ item ∈ items, item.Plain) ∧
      text = items.flatMap Item.written := by
  unfold Readable
  constructor
  · rintro ⟨template, hread⟩
    obtain ⟨items, hplain, hwritten, -⟩ := (read_iff _ _).mp hread
    exact ⟨items, hplain, by rw [← hwritten, String.toList_ofList]⟩
  · rintro ⟨items, hplain, rfl⟩
    exact ⟨_, (read_iff _ _).mpr ⟨items, hplain, String.toList_ofList, rfl⟩⟩

/-- The empty text is a template. -/
theorem readable_nil : Readable [] :=
  (readable_iff []).mpr ⟨[], fun _ h ↦ (nomatch h), rfl⟩

/-- A template with one more item is a template. -/
theorem readable_concat {before : List Char} (hbefore : Readable before) (item : Item)
    (hitem : item.Plain) : Readable (before ++ item.written) := by
  obtain ⟨items, hplain, rfl⟩ := (readable_iff before).mp hbefore
  refine (readable_iff _).mpr ⟨items ++ [item], ?_, ?_⟩
  · intro other hother
    rcases List.mem_append.mp hother with hmem | hlast
    · exact hplain other hmem
    · rw [List.mem_singleton.mp hlast]
      exact hitem
  · rw [List.flatMap_append, List.flatMap_singleton]

/-- A name stands for no kind of slots if it is the name of none. -/
theorem of_name_eq_none_iff (name : String) :
    Placeholder.ofName? name = none ↔ ∀ kind : Placeholder, kind.name ≠ name := by
  constructor
  · rintro hnone kind rfl
    rw [of_name_name] at hnone
    cases hnone
  · intro hnames
    cases hname : Placeholder.ofName? name with
    | none => rfl
    | some kind => exact absurd (name_of_of_name hname) (hnames kind)

/-! ### Errors of the reader -/

/-- What the reader knows at a place about the characters before it: in a literal they are those of
a template, and in brackets a template, the opening bracket and what was read since then. -/
inductive Place.Behind : Place → List Char → Prop where
  | text {before : List Char} (read : List Char) : Readable before → Behind (.text read) before
  | name {before read : List Char} : Readable before → Unbracketed read.reverse →
      Behind (.name read) (before ++ '[' :: read.reverse)

/-- An opening bracket may stand behind a template. -/
theorem behind_open {before : List Char} (hbefore : Readable before) :
    (Place.name []).Behind (before ++ ['[']) :=
  .name hbefore fun _ h ↦ (nomatch h)

/-- A closing bracket may stand behind the name of a kind of slots. -/
theorem behind_close {before read : List Char} {kind : Placeholder} (hbefore : Readable before)
    (hname : Placeholder.ofName? (String.ofList read.reverse) = some kind) :
    (Place.text []).Behind ((before ++ '[' :: read.reverse) ++ [']']) := by
  have hslot : (before ++ '[' :: read.reverse) ++ [']'] = before ++ (Item.slot kind).written := by
    rw [Item.written, name_of_of_name hname, String.toList_ofList, List.append_assoc,
      List.cons_append]
  rw [hslot]
  exact .text [] (readable_concat hbefore (.slot kind) trivial)

/-- Any other character may stand between brackets. -/
theorem behind_name {before read : List Char} {c : Char} (hbefore : Readable before)
    (hread : Unbracketed read.reverse) (hc : c ≠ '[' ∧ c ≠ ']') :
    (Place.name (c :: read)).Behind ((before ++ '[' :: read.reverse) ++ [c]) := by
  have hreverse : (c :: read).reverse = read.reverse ++ [c] := List.reverse_cons
  have hmore : Unbracketed (c :: read).reverse := by
    intro d hd
    rw [hreverse, List.mem_append, List.mem_singleton] at hd
    rcases hd with hmem | rfl
    · exact hread d hmem
    · exact hc
  rw [List.append_assoc, List.cons_append, ← hreverse]
  exact .name hbefore hmore

/-- If the reader comes to an error, the next character shows the leftmost fault, or the reader goes
on and knows about one character more. -/
theorem scan_step {whole : String} {place : Place} {before rest : List Char} {c : Char}
    {fault : TemplateFault} (hbehind : place.Behind before)
    (hwhole : whole.toList = before ++ c :: rest)
    (h : scan whole before.length place (c :: rest) = .error fault) :
    Leftmost whole fault ∨ ∃ later : Place, later.Behind (before ++ [c]) ∧
      scan whole (before.length + 1) later rest = .error fault := by
  cases hbehind with
  | text read hbefore =>
      rw [scan] at h
      split at h
      · rename_i hopen
        subst hopen
        exact .inr ⟨_, behind_open hbefore, map_eq_error_iff.mp h⟩
      · split at h
        · rename_i hclose
          subst hclose
          cases h
          exact .inl (.strayClose hbefore hwhole)
        · rename_i hopen hclose
          have hmore := readable_concat hbefore (.character c) ⟨hopen, hclose⟩
          exact .inr ⟨_, .text _ hmore, h⟩
  | name hbefore hread =>
      rw [scan] at h
      split at h
      · rename_i hopen
        subst hopen
        cases h
        exact .inl (.nestedOpen hbefore hread hwhole)
      · split at h
        · rename_i hclose
          subst hclose
          split at h
          · rename_i hname
            cases h
            exact .inl (.unknownName hbefore hread ((of_name_eq_none_iff _).mp hname) hwhole)
          · rename_i kind hname
            exact .inr ⟨_, behind_close hbefore hname, map_eq_error_iff.mp h⟩
        · rename_i hopen hclose
          exact .inr ⟨_, behind_name hbefore hread ⟨hopen, hclose⟩, h⟩

/-- An error of the reader is the leftmost fault of the whole text. -/
theorem leftmost_of_scan {whole : String} {place : Place} {before rest : List Char}
    {fault : TemplateFault} (hbehind : place.Behind before)
    (hwhole : whole.toList = before ++ rest)
    (h : scan whole before.length place rest = .error fault) : Leftmost whole fault := by
  induction rest generalizing place before with
  | nil =>
      rw [List.append_nil] at hwhole
      cases hbehind with
      | text read hbefore => simp [scan] at h
      | name hbefore hread =>
          rw [scan, ← hwhole, String.length_toList] at h
          cases h
          exact .unclosed hbefore hread hwhole
  | cons c rest ih =>
      rcases scan_step hbehind hwhole h with hleftmost | ⟨later, hlater, hscan⟩
      · exact hleftmost
      · refine ih hlater ?_ ?_
        · rw [hwhole, List.append_assoc, List.singleton_append]
        · rw [List.length_append]
          exact hscan

/-- If the reader fails on what stands behind a template, whatever literal goes on there, it fails
on the whole. -/
theorem scan_behind {whole : String} {before rest : List Char} {fault : TemplateFault}
    (hbefore : Readable before) (index : Nat) (read : List Char)
    (h : ∀ read, scan whole (index + before.length) (.text read) rest = .error fault) :
    scan whole index (.text read) (before ++ rest) = .error fault := by
  obtain ⟨items, hplain, rfl⟩ := (readable_iff before).mp hbefore
  clear hbefore
  induction items generalizing index read with
  | nil => exact h read
  | cons item others ih =>
      obtain ⟨hitem, hothers⟩ := List.forall_mem_cons.mp hplain
      rw [List.flatMap_cons, List.append_assoc, scan_item _ _ _ hitem, map_eq_error_iff]
      refine ih _ _ hothers fun read ↦ ?_
      rw [Nat.add_assoc, ← List.length_append]
      exact h read

/-- Behind a template and an opening bracket the reader goes over a name. -/
theorem scan_open {whole : String} {before name rest : List Char} {fault : TemplateFault}
    (hbefore : Readable before) (hname : Unbracketed name)
    (h : scan whole (before ++ '[' :: name).length (.name name.reverse) rest = .error fault) :
    scan whole 0 (.text []) ((before ++ '[' :: name) ++ rest) = .error fault := by
  rw [List.append_assoc]
  refine scan_behind hbefore 0 [] fun read ↦ ?_
  have hlength : 0 + before.length + 1 + name.length = (before ++ '[' :: name).length := by
    simp
    omega
  rw [List.cons_append, scan, if_pos rfl, map_eq_error_iff, scan_name _ _ _ hname, hlength,
    List.append_nil]
  exact h

/-- The reader comes to the leftmost fault. -/
theorem scan_of_leftmost {text : String} {fault : TemplateFault} (h : Leftmost text fault) :
    scan text 0 (.text []) text.toList = .error fault := by
  cases h with
  | strayClose hbefore hwhole =>
      rw [hwhole]
      refine scan_behind hbefore 0 [] fun read ↦ ?_
      rw [scan, if_neg (by decide), if_pos rfl, Nat.zero_add]
  | nestedOpen hbefore hname hwhole =>
      rw [hwhole]
      refine scan_open hbefore hname ?_
      rw [scan, if_pos rfl]
  | @unknownName before name after hbefore hname hunknown hwhole =>
      rw [hwhole]
      refine scan_open hbefore hname ?_
      rw [scan, if_neg (by decide), if_pos rfl, List.reverse_reverse,
        (of_name_eq_none_iff _).mpr hunknown]
  | @unclosed before name hbefore hname hwhole =>
      rw [hwhole, ← List.append_nil (before ++ '[' :: name)]
      refine scan_open hbefore hname ?_
      rw [scan, ← hwhole, String.length_toList]

/-- A text that cannot be read is reported with its leftmost fault. -/
theorem read_error_iff (text : String) (fault : TemplateFault) :
    read text = .error fault ↔ Leftmost text fault := by
  rw [read, map_eq_error_iff]
  exact ⟨leftmost_of_scan (.text [] readable_nil) rfl, scan_of_leftmost⟩

/-- What comes behind a fault does not matter, unless the end of the text is the fault. -/
theorem leftmost_append {text : String} {fault : TemplateFault} (h : Leftmost text fault)
    (more : String) :
    (∀ index malformation, fault = .malformed text index malformation → malformation ≠ .unclosed →
      Leftmost (text ++ more) (.malformed (text ++ more) index malformation)) ∧
    (∀ name, fault = .unknownPlaceholder text name →
      Leftmost (text ++ more) (.unknownPlaceholder (text ++ more) name)) := by
  have hmore {before after : List Char} {c : Char} (hwhole : text.toList = before ++ c :: after) :
      (text ++ more).toList = before ++ c :: (after ++ more.toList) := by
    rw [String.toList_append, hwhole, List.append_assoc, List.cons_append]
  constructor
  · intro index malformation hfault hclosed
    cases h with
    | strayClose hbefore hwhole =>
        cases hfault
        exact .strayClose hbefore (hmore hwhole)
    | nestedOpen hbefore hname hwhole =>
        cases hfault
        exact .nestedOpen hbefore hname (hmore hwhole)
    | unknownName hbefore hname hunknown hwhole => cases hfault
    | unclosed hbefore hname hwhole =>
        cases hfault
        exact absurd rfl hclosed
  · intro name hfault
    cases h with
    | unknownName hbefore hname hunknown hwhole =>
        cases hfault
        exact .unknownName hbefore hname hunknown (hmore hwhole)
    | strayClose hbefore hwhole => cases hfault
    | nestedOpen hbefore hname hwhole => cases hfault
    | unclosed hbefore hname hwhole => cases hfault

/-! ### Refusals of the engine -/

/-- A text is rejected with its leftmost fault, or, if it can be read, with what the engine says
against its pattern. -/
theorem compile_error_iff (matcher : Matcher) (text : String) (fault : TemplateFault) :
    compile matcher text = .error fault ↔ Leftmost text fault ∨
      ∃ template refusal, read text = .ok template ∧
        matcher.refusal? template.anchoredPattern = some refusal ∧
        fault = .malformed text 0 (.refused refusal) := by
  rw [← read_error_iff]
  cases hread : read text with
  | error other => simp [compile, hread, Except.bind]
  | ok template =>
      rw [compile_of_read hread]
      cases hrefusal : matcher.refusal? template.anchoredPattern with
      | none => simp [hrefusal]
      | some refusal => simp [hrefusal, eq_comm]

/-- A text without brackets is read as one literal, if it is not empty. -/
theorem read_literal {text : String} (hne : text ≠ "") (hplain : Unbracketed text.toList) :
    read text = .ok ⟨[.literal text]⟩ := by
  have hnormal : Segment.Normal [.literal text] :=
    ⟨List.forall_mem_singleton.mpr ⟨hne, hplain⟩, .singleton _⟩
  have hraw : (Template.mk [.literal text]).raw = text := by simp [raw, Segment.raw]
  exact hraw ▸ read_normal hnormal

/-- A run of letters. -/
def letters (count : Nat) : String :=
  String.ofList (List.replicate count 'a')

/-- A run of letters with another one behind it is a longer run. -/
theorem letters_add (first second : Nat) :
    letters (first + second) = letters first ++ letters second := by
  rw [letters, List.replicate_add, String.ofList_append]
  rfl

/-- Letters are no brackets. -/
theorem letters_unbracketed (count : Nat) : Unbracketed (letters count).toList := by
  intro c hc
  rw [letters, String.toList_ofList] at hc
  obtain rfl := List.eq_of_mem_replicate hc
  decide

/-- A letter has one byte. -/
theorem letters_bytes (count : Nat) : (letters count).utf8ByteSize = count := by
  induction count with
  | zero => rfl
  | succ count ih =>
      rw [letters_add, String.utf8ByteSize_append, ih]
      rfl

/-- Letters stand for themselves in a pattern. -/
theorem pattern_letters (count : Nat) :
    (Template.mk [.literal (letters count)]).pattern = letters count := by
  have hescape : (List.replicate count 'a').flatMap escapeMeta = List.replicate count 'a' := by
    induction count with
    | zero => rfl
    | succ count ih =>
        rw [List.replicate_succ, List.flatMap_cons, ih]
        rfl
  simp [pattern, Segment.pattern, letters, hescape]

/-- A run of letters is a template for an engine with a limit of size as long as it keeps within the
limit. -/
theorem compile_letters {count : Nat} (hcount : count ≠ 0) :
    compile .sized (letters count) =
      if 32 * (count + 6) ≤ Matcher.sizeLimit then .ok ⟨[.literal (letters count)]⟩
      else
        .error (.malformed (letters count) 0
          (.refused "Compiled regex exceeds size limit of 10485760 bytes.")) := by
  have hne : letters count ≠ "" := by
    intro hempty
    have hbytes := letters_bytes count
    rw [hempty] at hbytes
    exact hcount hbytes.symm
  have hsize : (anchored (letters count)).utf8ByteSize = count + 6 := by
    rw [anchored, String.utf8ByteSize_append, String.utf8ByteSize_append, letters_bytes]
    show 4 + count + 2 = count + 6
    omega
  have hrefusal : Matcher.sized.refusal? (anchored (letters count)) =
      if 32 * (count + 6) ≤ Matcher.sizeLimit then none
      else some "Compiled regex exceeds size limit of 10485760 bytes." := by
    rw [← hsize]
    rfl
  rw [compile_of_read (read_literal hne (letters_unbracketed count)), anchoredPattern,
    pattern_letters, hrefusal]
  by_cases hfits : 32 * (count + 6) ≤ Matcher.sizeLimit
  · rw [if_pos hfits, if_pos hfits]
  · rw [if_neg hfits, if_neg hfits]

/-- A text has one leftmost fault, or else it can be read. If it has one it is rejected with this
fault: one of the four kinds, at one place, counted in characters. If it can be read it is compiled,
unless the engine refuses its pattern; then it is rejected at its start with what the engine says.
Any text may follow a leftmost fault, and it is still there, unless it is that a bracket was not
closed. -/
theorem compile_leftmost (matcher : Matcher) (text : String) :
    ((∃ template, read text = .ok template) ↔ ¬ ∃ fault, Leftmost text fault) ∧
    (∀ first second, Leftmost text first → Leftmost text second → first = second) ∧
    (∀ template, compile matcher text = .ok template ↔
      read text = .ok template ∧ matcher.Takes template.anchoredPattern) ∧
    (∀ fault, compile matcher text = .error fault ↔ Leftmost text fault ∨
      ∃ template refusal, read text = .ok template ∧
        matcher.refusal? template.anchoredPattern = some refusal ∧
        fault = .malformed text 0 (.refused refusal)) ∧
    (∀ index malformation more, compile matcher text = .error (.malformed text index malformation) →
      malformation = .strayClose ∨ malformation = .nestedOpen →
      compile matcher (text ++ more) = .error (.malformed (text ++ more) index malformation)) ∧
    (∀ name more, compile matcher text = .error (.unknownPlaceholder text name) →
      compile matcher (text ++ more) = .error (.unknownPlaceholder (text ++ more) name)) ∧
    Malformation.reason .strayClose = "unexpected ']'" ∧
    Malformation.reason .nestedOpen = "unexpected '['" ∧
    ∀ refusal,
      Malformation.reason (.refused refusal) = "pattern rejected by matcher: " ++ refusal := by
  refine ⟨?_, ?_, compile_ok_iff matcher text, compile_error_iff matcher text, ?_, ?_, rfl, rfl,
    fun _ ↦ rfl⟩
  · simp only [← read_error_iff]
    cases read text with
    | ok template => simp
    | error fault => simp
  · intro first second hfirst hsecond
    have hsame := ((read_error_iff text first).mpr hfirst).symm.trans
      ((read_error_iff text second).mpr hsecond)
    exact Except.error.inj hsame
  · intro index malformation more hfault hkind
    rcases (compile_error_iff ..).mp hfault with hleftmost | ⟨_, refusal, -, -, hrefused⟩
    · have hclosed : malformation ≠ .unclosed := by
        rcases hkind with rfl | rfl <;> decide
      have hmore := (leftmost_append hleftmost more).1 _ _ rfl hclosed
      exact (compile_error_iff ..).mpr (.inl hmore)
    · cases hrefused
      rcases hkind with hkind | hkind <;> cases hkind
  · intro name more hfault
    rcases (compile_error_iff ..).mp hfault with hleftmost | ⟨_, refusal, -, -, hrefused⟩
    · exact (compile_error_iff ..).mpr (.inl ((leftmost_append hleftmost more).2 _ rfl))
    · cases hrefused

/-- The second opening bracket of this text is its character 4, though not its byte 4, and stands
there as well when more brackets follow. -/
theorem sample_leftmost :
    let text := "é[st[r]]"
    Leftmost text (.malformed text 4 .nestedOpen) ∧
      (¬ ∃ template, read text = .ok template) ∧
      compile .sized (text ++ "[") = .error (.malformed (text ++ "[") 4 .nestedOpen) := by
  intro text
  have hrejected : compile .sized text = .error (.malformed text 4 .nestedOpen) := by decide
  obtain ⟨hread, -, -, hfault, hmore, -⟩ := compile_leftmost .sized text
  have hleftmost : Leftmost text (.malformed text 4 .nestedOpen) := by
    rcases (hfault _).mp hrejected with hleftmost | ⟨_, _, -, -, hrefused⟩
    · exact hleftmost
    · cases hrefused
  have hstill := hmore 4 .nestedOpen "[" hrejected (.inr rfl)
  exact ⟨hleftmost, fun h ↦ hread.mp h ⟨_, hleftmost⟩, hstill⟩

/-- A run of letters that is too long has no leftmost fault, and is no template for the engine. -/
theorem long_letters_refused :
    let text := letters 600000
    (¬ ∃ template, compile .sized text = .ok template) ∧ (¬ ∃ fault, Leftmost text fault) ∧
      compile .sized text = .error (.malformed text 0
        (.refused "Compiled regex exceeds size limit of 10485760 bytes.")) := by
  intro text
  have hrefused : compile .sized text = .error (.malformed text 0
      (.refused "Compiled regex exceeds size limit of 10485760 bytes.")) := by
    rw [compile_letters (by decide), if_neg (by decide)]
  refine ⟨?_, ?_, hrefused⟩
  · rintro ⟨template, hcompile⟩
    rw [hrefused] at hcompile
    cases hcompile
  · rintro ⟨fault, hleftmost⟩
    -- Only a text with a bracket has a leftmost fault.
    have hbracket : '[' ∈ text.toList ∨ ']' ∈ text.toList := by
      cases hleftmost with
      | strayClose hbefore hwhole => simp [hwhole]
      | nestedOpen hbefore hname hwhole => simp [hwhole]
      | unknownName hbefore hname hunknown hwhole => simp [hwhole]
      | unclosed hbefore hname hwhole => simp [hwhole]
    have hplain := letters_unbracketed 600000
    rcases hbracket with hopen | hclose
    · exact (hplain _ hopen).1 rfl
    · exact (hplain _ hclose).2 rfl

end Template

end Switchboard
