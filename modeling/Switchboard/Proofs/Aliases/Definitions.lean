import Mathlib.Data.List.Forall2
import Switchboard.Aliases.Document

/-!
# Which aliases a document defines

`Alias.Describes` says what a definition may look like and which alias it stands for: one command,
or a mapping in which the commands stand exactly once and the description at most once. The reader
of definitions keeps a draft while it goes through the entries of a mapping; `describes_iff` says
that it accepts exactly the definitions that describe an alias. `AliasTable.contents?` is what a
text says before anybody asks whether its definitions are any good, and by `definitions_iff` a text
has definitions if each of its contents describes one.
-/

namespace Switchboard

open Yaml (Value)

namespace Alias

/-- The contents of the entries whose keys name a field, in their order. -/
def valuesOf (field : Field) (entries : List (Value × Value)) : List Value :=
  entries.filterMap fun (key, value) ↦ if Field.ofKey? key = some field then some value else none

/-- Content that stands for commands: one command, or a list of commands in their order. -/
inductive GivesCommands : Value → List String → Prop where
  | one (command : String) : GivesCommands (.scalar (.text command)) [command]
  | many (commands : List String) :
      GivesCommands (.list (commands.map fun command ↦ .scalar (.text command))) commands

/-- What the contents that stand for a description come to: a missing description is empty. -/
inductive GivesDescription : List Value → String → Prop where
  | missing : GivesDescription [] ""
  | given (description : String) : GivesDescription [.scalar (.text description)] description

/-- A definition describes an alias: it is the only command of the alias, or a mapping whose keys
name fields, with one entry for the commands and at most one for the description. -/
inductive Describes : Value → Alias → Prop where
  | command (text : String) :
      Describes (.scalar (.text text)) { commands := [text], description := "" }
  | record {entries : List (Value × Value)} {content : Value} {commands : List String}
      {description : String} :
      (∀ entry ∈ entries, (Field.ofKey? entry.1).isSome = true) →
      valuesOf .commands entries = [content] → GivesCommands content commands →
      GivesDescription (valuesOf .description entries) description →
      Describes (.map entries) { commands, description }

/-! ### Drafts -/

/-- A field of a draft takes in the contents of its entries: it stays as it is if there are none,
and an empty field takes in one content of the right form. -/
inductive Fills {α : Type} (read : Value → Option α) (before : Option α) :
    List Value → Option α → Prop where
  | kept : Fills read before [] before
  | filled {content : Value} {value : α} : before = none → read content = some value →
      Fills read before [content] (some value)

/-- The description that a content stands for. -/
def description? : Value → Option String
  | .scalar (.text description) => some description
  | _ => none

/-- Entries turn a draft into another one: their keys name fields, and each field takes in its own
contents. -/
structure Draft.Completes (draft : Draft) (entries : List (Value × Value)) (final : Draft) :
    Prop where
  keyed : ∀ entry ∈ entries, (Field.ofKey? entry.1).isSome = true
  commands : Fills commands? draft.commands (valuesOf .commands entries) final.commands
  description :
    Fills description? draft.description (valuesOf .description entries) final.description

/-- A field takes in a content if it is empty and the content has the right form, and then no other
one. -/
theorem fills_cons {α : Type} {read : Value → Option α} {before after : Option α} {content : Value}
    {rest : List Value} :
    Fills read before (content :: rest) after ↔
      before = none ∧ ∃ value, read content = some value ∧ Fills read (some value) rest after := by
  constructor
  · intro h
    cases h with
    | filled hempty hread => exact ⟨hempty, _, hread, .kept⟩
  · rintro ⟨hempty, value, hread, hrest⟩
    cases hrest with
    | kept => exact .filled hempty hread
    | filled hfull => cases hfull

/-- A field of a draft without entries for it is what it was. -/
theorem fills_nil {α : Type} {read : Value → Option α} {before after : Option α} :
    Fills read before [] after ↔ after = before := by
  constructor
  · intro h
    cases h
    rfl
  · rintro rfl
    exact .kept

/-- What taking in an entry does: an entry of another field is passed over, and an empty field takes
in its content. -/
inductive Draft.Adds (draft : Draft) (key content : Value) : Draft → Prop where
  | unknown : Field.ofKey? key = some .unknown → Adds draft key content draft
  | commands {commands : List String} : Field.ofKey? key = some .commands →
      draft.commands = none → commands? content = some commands →
      Adds draft key content { draft with commands := some commands }
  | description {description : String} : Field.ofKey? key = some .description →
      draft.description = none → description? content = some description →
      Adds draft key content { draft with description := some description }

/-- A draft takes in an entry in one of these ways, or not at all. -/
theorem add_iff (draft next : Draft) (key content : Value) :
    draft.add? (key, content) = some next ↔ draft.Adds key content next := by
  constructor
  · intro h
    simp only [Draft.add?] at h
    split at h
    · rename_i hkey
      cases h
      exact .unknown hkey
    · rename_i hkey
      split at h
      · cases h
      · rename_i hempty
        obtain ⟨commands, hcommands, rfl⟩ := Option.map_eq_some_iff.mp h
        exact .commands hkey (by simpa using hempty) hcommands
    · rename_i hkey
      split at h
      · cases h
      · rename_i hempty
        cases h
        exact .description hkey (by simpa using hempty) rfl
    · cases h
  · intro h
    cases h with
    | unknown hkey => simp [Draft.add?, hkey]
    | commands hkey hempty hcommands => simp [Draft.add?, hkey, hempty, hcommands]
    | description hkey hempty hdescription =>
        unfold description? at hdescription
        split at hdescription
        · cases hdescription
          simp [Draft.add?, hkey, hempty]
        · cases hdescription

/-- Entries complete a draft if the first one can be taken in and the others complete what comes of
it. -/
theorem completes_cons (draft final : Draft) (key content : Value) (rest : List (Value × Value)) :
    draft.Completes ((key, content) :: rest) final ↔
      ∃ next, draft.Adds key content next ∧ next.Completes rest final := by
  constructor
  · rintro ⟨hkeyed, hcommands, hdescription⟩
    obtain ⟨hkey, hrest⟩ := List.forall_mem_cons.mp hkeyed
    obtain ⟨field, hfield⟩ := Option.isSome_iff_exists.mp hkey
    cases field with
    | commands =>
        simp only [valuesOf, List.filterMap_cons, hfield, if_true] at hcommands
        obtain ⟨hempty, commands, hread, hlater⟩ := fills_cons.mp hcommands
        exact ⟨_, .commands hfield hempty hread, hrest, hlater,
          by simpa [valuesOf, hfield] using hdescription⟩
    | description =>
        simp only [valuesOf, List.filterMap_cons, hfield, if_true] at hdescription
        obtain ⟨hempty, description, hread, hlater⟩ := fills_cons.mp hdescription
        exact ⟨_, .description hfield hempty hread, hrest,
          by simpa [valuesOf, hfield] using hcommands, hlater⟩
    | unknown =>
        exact ⟨draft, .unknown hfield, hrest, by simpa [valuesOf, hfield] using hcommands,
          by simpa [valuesOf, hfield] using hdescription⟩
  · rintro ⟨next, hadds, hkeyed, hcommands, hdescription⟩
    cases hadds with
    | unknown hfield =>
        refine ⟨List.forall_mem_cons.mpr ⟨by simp [hfield], hkeyed⟩, ?_, ?_⟩
        · simpa [valuesOf, hfield] using hcommands
        · simpa [valuesOf, hfield] using hdescription
    | commands hfield hempty hread =>
        refine ⟨List.forall_mem_cons.mpr ⟨by simp [hfield], hkeyed⟩, ?_, ?_⟩
        · simp only [valuesOf, List.filterMap_cons, hfield, if_true]
          exact fills_cons.mpr ⟨hempty, _, hread, hcommands⟩
        · simpa [valuesOf, hfield] using hdescription
    | description hfield hempty hread =>
        refine ⟨List.forall_mem_cons.mpr ⟨by simp [hfield], hkeyed⟩, ?_, ?_⟩
        · simpa [valuesOf, hfield] using hcommands
        · simp only [valuesOf, List.filterMap_cons, hfield, if_true]
          exact fills_cons.mpr ⟨hempty, _, hread, hdescription⟩

/-- Taking in entries one after the other turns a draft into what they complete it to. -/
theorem completes_iff (entries : List (Value × Value)) (draft final : Draft) :
    entries.foldlM Draft.add? draft = some final ↔ draft.Completes entries final := by
  induction entries generalizing draft with
  | nil =>
      obtain ⟨commands, description⟩ := draft
      obtain ⟨lastCommands, lastDescription⟩ := final
      constructor
      · intro h
        cases h
        exact ⟨nofun, .kept, .kept⟩
      · rintro ⟨-, hcommands, hdescription⟩
        obtain rfl := fills_nil.mp hcommands
        obtain rfl := fills_nil.mp hdescription
        rfl
  | cons entry rest ih =>
      obtain ⟨key, content⟩ := entry
      rw [completes_cons, List.foldlM_cons, Option.bind_eq_bind, Option.bind_eq_some_iff]
      simp only [add_iff, ih]

/-! ### Definitions -/

/-- Going through a list succeeds if it does at each member, and gives the results in their
order. -/
theorem mapM_some_iff {α β : Type} {read : α → Option β} {items : List α} {results : List β} :
    items.mapM read = some results ↔
      List.Forall₂ (fun item result ↦ read item = some result) items results := by
  induction items generalizing results with
  | nil =>
      rw [List.mapM_nil, List.forall₂_nil_left_iff, Option.pure_def, Option.some.injEq]
      exact eq_comm
  | cons item rest ih =>
      rw [List.mapM_cons, List.forall₂_cons_left_iff]
      simp only [Option.bind_eq_bind, Option.bind_eq_some_iff, Option.pure_def,
        Option.some.injEq, ih]
      constructor
      · rintro ⟨result, hresult, others, hothers, rfl⟩
        exact ⟨result, others, hresult, hothers, rfl⟩
      · rintro ⟨result, others, hresult, hothers, rfl⟩
        exact ⟨result, hresult, others, hothers, rfl⟩

/-- The commands that a content stands for are those that it gives. -/
theorem commands_iff (content : Value) (commands : List String) :
    commands? content = some commands ↔ GivesCommands content commands := by
  constructor
  · intro h
    unfold commands? at h
    split at h
    · cases h
      exact .one _
    · rename_i items
      rw [mapM_some_iff] at h
      have hitems : items = commands.map fun command ↦ .scalar (.text command) := by
        induction h with
        | nil => rfl
        | cons hfirst _ ih =>
            split at hfirst
            · cases hfirst
              rw [List.map_cons, ih]
            · cases hfirst
      exact hitems ▸ .many commands
    · cases h
  · intro h
    cases h with
    | one command => rfl
    | many =>
        rw [commands?, mapM_some_iff]
        induction commands with
        | nil => exact .nil
        | cons command rest ih => exact .cons rfl ih

/-- An empty field for the description ends up with what its contents come to. -/
theorem description_iff (contents : List Value) (description : String) :
    (∃ final, Fills description? none contents final ∧ final.getD "" = description) ↔
      GivesDescription contents description := by
  constructor
  · rintro ⟨final, hfills, rfl⟩
    cases hfills with
    | kept => exact .missing
    | filled _ hread =>
        unfold description? at hread
        split at hread
        · cases hread
          exact .given _
        · cases hread
  · intro h
    cases h with
    | missing => exact ⟨none, .kept, rfl⟩
    | given => exact ⟨some description, .filled rfl rfl, rfl⟩

/-- What a definition is read as is the alias that it describes. -/
theorem describes_iff (content : Value) (value : Alias) :
    ofValue? content = some value ↔ Describes content value := by
  constructor
  · intro h
    unfold ofValue? at h
    split at h
    · cases h
      exact .command _
    · simp only [Option.bind_eq_bind, Option.bind_eq_some_iff, completes_iff, Option.pure_def,
        Option.some.injEq] at h
      obtain ⟨draft, ⟨hkeyed, hcommands, hdescription⟩, commands, hsome, rfl⟩ := h
      rw [hsome] at hcommands
      generalize hcontents : valuesOf .commands _ = contents at hcommands
      cases hcommands with
      | filled _ hread =>
          exact .record hkeyed hcontents ((commands_iff _ _).mp hread)
            ((description_iff _ _).mp ⟨_, hdescription, rfl⟩)
    · cases h
  · intro h
    cases h with
    | command text => rfl
    | record hkeyed hcontents hcommands hdescription =>
        obtain ⟨final, hfills, rfl⟩ := (description_iff _ _).mpr hdescription
        have hread := (commands_iff _ _).mpr hcommands
        have hcomplete : Draft.Completes {} _ { commands := some _, description := final } :=
          ⟨hkeyed, by rw [hcontents]; exact .filled rfl hread, hfills⟩
        simp [ofValue?, (completes_iff _ _ _).mpr hcomplete]

end Alias

namespace AliasTable

open Yaml (Document Node Reader)

/-- Read an entry of a document as a name and what stands behind it. -/
def readContent (document : Document) (entry : Node × Node) : Reader (String × Value) := do
  let name ← document.textOf entry.1
  return (name, ← Value.read document (Yaml.maxDepth - 1) entry.2)

/-- The names in a text with what stands behind them, in their order, if the text is a document that
maps names. -/
def contents? (text : String) : Option (List (String × Value)) := do
  let document ← Document.ofText? text
  let entries ← document.entries?
  (entries.mapM (readContent document)).run' document.aliasLimit

/-- What stands behind a name describes the alias that the name is defined as. -/
def Defines (content : String × Value) (definition : String × Alias) : Prop :=
  content.1 = definition.1 ∧ Alias.Describes content.2 definition.2

/-- Reading the definition of an entry is reading its content, if that describes an alias. -/
theorem read_entry_iff (document : Document) (entry : Node × Node) (limit left : Nat)
    (definition : String × Alias) :
    (readEntry document entry).run limit = some (definition, left) ↔
      ∃ content, (readContent document entry).run limit = some (content, left) ∧
        Defines content definition := by
  simp only [readEntry, readContent, StateT.run_bind, Option.bind_eq_bind, Option.bind_eq_some_iff,
    StateT.run_monadLift, StateT.run_pure, Option.pure_def, Option.some.injEq, Prod.mk.injEq]
  constructor
  · rintro ⟨name, hname, content, hcontent, -, ⟨value, hvalue, rfl⟩, rfl, rfl⟩
    exact ⟨_, ⟨name, hname, content, hcontent, rfl, rfl⟩, rfl,
      (Alias.describes_iff _ _).mp hvalue⟩
  · rintro ⟨-, ⟨name, hname, content, hcontent, rfl, rfl⟩, hsame, hdescribes⟩
    refine ⟨name, hname, content, hcontent, _, ⟨definition.2, ?_, rfl⟩, ?_, rfl⟩
    · exact (Alias.describes_iff _ _).mpr hdescribes
    · exact Prod.ext hsame rfl

/-- Reading the definitions of entries is reading their contents, if each describes an alias. -/
theorem read_entries_iff (document : Document) (entries : List (Node × Node)) (limit left : Nat)
    (definitions : List (String × Alias)) :
    (entries.mapM (readEntry document)).run limit = some (definitions, left) ↔
      ∃ contents, (entries.mapM (readContent document)).run limit = some (contents, left) ∧
        List.Forall₂ Defines contents definitions := by
  induction entries generalizing limit definitions with
  | nil =>
      simp only [List.mapM_nil, StateT.run_pure, Option.pure_def, Option.some.injEq, Prod.mk.injEq]
      constructor
      · rintro ⟨rfl, rfl⟩
        exact ⟨[], ⟨rfl, rfl⟩, .nil⟩
      · rintro ⟨-, ⟨rfl, rfl⟩, hdefines⟩
        exact ⟨(List.forall₂_nil_left_iff.mp hdefines).symm, rfl⟩
  | cons entry rest ih =>
      simp only [List.mapM_cons, StateT.run_bind, Option.bind_eq_bind, Option.bind_eq_some_iff,
        StateT.run_pure, Option.pure_def, Option.some.injEq, Prod.mk.injEq]
      constructor
      · rintro ⟨⟨first, middle⟩, hfirst, ⟨others, last⟩, hothers, rfl, rfl⟩
        obtain ⟨content, hcontent, hdefines⟩ := (read_entry_iff ..).mp hfirst
        obtain ⟨contents, hcontents, hall⟩ := (ih ..).mp hothers
        exact ⟨_, ⟨_, hcontent, _, hcontents, rfl, rfl⟩, .cons hdefines hall⟩
      · rintro ⟨-, ⟨⟨content, middle⟩, hcontent, ⟨contents, last⟩, hcontents, rfl, rfl⟩, hdefines⟩
        obtain ⟨first, others, hfirst, hothers, rfl⟩ := List.forall₂_cons_left_iff.mp hdefines
        exact ⟨_, (read_entry_iff ..).mpr ⟨content, hcontent, hfirst⟩, _,
          (ih ..).mpr ⟨contents, hcontents, hothers⟩, rfl, rfl⟩

/-- The definitions of a text are the aliases that its contents describe. -/
theorem definitions_iff (text : String) (definitions : List (String × Alias)) :
    definitions? text = some definitions ↔
      ∃ contents, contents? text = some contents ∧ List.Forall₂ Defines contents definitions := by
  simp only [definitions?, contents?, Option.bind_eq_bind, Option.bind_eq_some_iff, StateT.run'_eq,
    Option.map_eq_map, Option.map_eq_some_iff]
  constructor
  · rintro ⟨document, hdocument, entries, hentries, ⟨_, left⟩, hread, rfl⟩
    obtain ⟨contents, hcontents, hdefines⟩ := (read_entries_iff ..).mp hread
    exact ⟨contents, ⟨document, hdocument, entries, hentries, _, hcontents, rfl⟩, hdefines⟩
  · rintro ⟨_, ⟨document, hdocument, entries, hentries, ⟨contents, left⟩, hread, rfl⟩, hdefines⟩
    exact ⟨document, hdocument, entries, hentries, _,
      (read_entries_iff ..).mpr ⟨contents, hread, hdefines⟩, rfl⟩

end AliasTable

end Switchboard
