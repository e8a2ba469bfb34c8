import Mathlib.Data.List.Dedup
import Switchboard.Aliases.Load
import Switchboard.Proofs.Aliases.Definitions
import Switchboard.Proofs.Dictionary

/-!
# Alias tables and the history of definitions

Aliases are defined one by one and loaded from texts and files, in any order. `AliasTable.Loads`
says what loading can come to: nothing changes if there is no document or one of its definitions is
no good, and otherwise every name of the document stands for its last definition there.
`aliases_agree` reads a table off what was defined before: each name stands for what it was last
defined as, and the listing depends on nothing else.
-/

namespace Switchboard.AliasTable

variable {table : AliasTable} {name : String} {value : Alias}

/-! ### What a name stands for -/

/-- What a name stands for is its first entry. -/
theorem get_lookup (table : AliasTable) (name : String) :
    table.get? name = table.entries.lookup name := by
  rcases table with ⟨entries⟩
  induction entries with
  | nil => rfl
  | cons entry rest ih =>
      rw [Dictionary.lookup_first, ← ih]
      simp only [get?, List.find?_cons]
      by_cases hname : name = entry.1
      · simp [hname]
      · have hother : (entry.1 == name) = false := beq_eq_false_iff_ne.mpr (Ne.symm hname)
        rw [hother, if_neg hname]

/-- After a name was put in it stands for its value, and every other name for what it stood for. -/
theorem get_insert (table : AliasTable) (name other : String) (value : Alias) :
    (table.insert name value).get? other =
      if other = name then some value else table.get? other := by
  rw [get_lookup, get_lookup]
  exact Dictionary.lookup_insert name other value table.entries

/-- The table after several definitions. -/
def insertAll (table : AliasTable) (definitions : List (String × Alias)) : AliasTable :=
  definitions.foldl (fun table (name, value) ↦ table.insert name value) table

/-- Defining several names is putting them in one after the other. -/
theorem define_all_eq (table : AliasTable) (definitions : List (String × Alias)) :
    (table.defineAll definitions).2 = table.insertAll definitions := by
  induction definitions generalizing table with
  | nil => rfl
  | cons definition rest ih => exact ih (table.insert definition.1 definition.2)

/-- After several definitions a name stands for the last of its own, or else for what it stood
for. -/
theorem get_insert_all (table : AliasTable) (definitions : List (String × Alias)) (name : String) :
    (table.insertAll definitions).get? name =
      (definitions.reverse.lookup name).or (table.get? name) := by
  induction definitions generalizing table with
  | nil => rfl
  | cons definition rest ih =>
      obtain ⟨first, value⟩ := definition
      have hinsert : (table.insertAll ((first, value) :: rest)).get? name =
          ((table.insert first value).insertAll rest).get? name := rfl
      rw [hinsert, ih, get_insert, List.reverse_cons, List.lookup_append, Option.or_assoc,
        Dictionary.lookup_first]
      by_cases hname : name = first <;> simp [hname]

/-- The names are in ascending order. -/
def Sorted (table : AliasTable) : Prop :=
  Dictionary.Ascending table.entries

/-- Definitions keep the names in ascending order. -/
theorem sorted_insert_all (h : table.Sorted) (definitions : List (String × Alias)) :
    (table.insertAll definitions).Sorted := by
  induction definitions generalizing table with
  | nil => exact h
  | cons definition rest ih => exact ih (Dictionary.ascending_insert h definition.1 definition.2)

/-- The table without aliases has no names out of order. -/
theorem sorted_empty : Sorted empty :=
  List.Pairwise.nil

/-! ### Loading -/

/-- What loading a text comes to, and the table after it. Nothing changes if the text is no document
that maps names, or if what stands behind one of its names describes no alias. Otherwise each name
of the document is defined as what stands behind its last occurrence, and the others are what they
were. -/
inductive Loads (table : AliasTable) (origin text : String) :
    Except LoadFault Nat → AliasTable → Prop where
  | malformed : contents? text = none →
      Loads table origin text (.error (.malformed origin)) table
  | undescribed {contents : List (String × Yaml.Value)} {content : String × Yaml.Value} :
      contents? text = some contents → content ∈ contents →
      (∀ value, ¬ Alias.Describes content.2 value) →
      Loads table origin text (.error (.malformed origin)) table
  | defined {contents : List (String × Yaml.Value)} {after : AliasTable} :
      contents? text = some contents →
      (∀ content ∈ contents, ∃ value, Alias.Describes content.2 value) →
      (∀ name content, contents.reverse.lookup name = some content →
        ∃ value, Alias.Describes content value ∧ after.get? name = some value) →
      (∀ name, name ∉ contents.map Prod.fst → after.get? name = table.get? name) →
      Loads table origin text (.ok (contents.map Prod.fst).dedup.length) after

/-- There are definitions for contents if each of them describes an alias. -/
theorem defines_iff (contents : List (String × Yaml.Value)) :
    (∃ definitions, List.Forall₂ Defines contents definitions) ↔
      ∀ content ∈ contents, ∃ value, Alias.Describes content.2 value := by
  constructor
  · intro ⟨definitions, hdefines⟩
    induction hdefines with
    | nil => exact nofun
    | cons hfirst _ ih => exact List.forall_mem_cons.mpr ⟨⟨_, hfirst.2⟩, ih⟩
  · intro h
    induction contents with
    | nil => exact ⟨[], .nil⟩
    | cons content rest ih =>
        obtain ⟨⟨value, hvalue⟩, hrest⟩ := List.forall_mem_cons.mp h
        obtain ⟨definitions, hdefines⟩ := ih hrest
        exact ⟨(content.1, value) :: definitions, .cons ⟨rfl, hvalue⟩ hdefines⟩

/-- Contents and the definitions that they describe have the same names. -/
theorem names_of_defines {contents : List (String × Yaml.Value)}
    {definitions : List (String × Alias)} (h : List.Forall₂ Defines contents definitions) :
    definitions.map Prod.fst = contents.map Prod.fst := by
  induction h with
  | nil => rfl
  | cons hfirst _ ih => rw [List.map_cons, List.map_cons, ih, hfirst.1]

/-- What stands behind a name describes what the name is defined as. -/
theorem lookup_of_defines {contents : List (String × Yaml.Value)}
    {definitions : List (String × Alias)} (h : List.Forall₂ Defines contents definitions)
    {name : String} {content : Yaml.Value} (hcontent : contents.lookup name = some content) :
    ∃ value, Alias.Describes content value ∧ definitions.lookup name = some value := by
  induction h with
  | nil => cases hcontent
  | @cons first definition _ _ hfirst _ ih =>
      obtain ⟨first, shown⟩ := first
      obtain ⟨other, value⟩ := definition
      obtain ⟨rfl, hdescribes⟩ : first = other ∧ Alias.Describes shown value := hfirst
      rw [Dictionary.lookup_first] at hcontent ⊢
      by_cases hname : name = first
      · rw [if_pos hname, Option.some.injEq] at hcontent
        subst hcontent
        exact ⟨value, hdescribes, if_pos hname⟩
      · rw [if_neg hname] at hcontent ⊢
        exact ih hcontent

/-- A name stands for something in a table of definitions if one of them is its own. -/
theorem get_of_list (definitions : List (String × Alias)) (name : String) :
    (ofList definitions).get? name = definitions.reverse.lookup name := by
  have hlookup := get_insert_all empty definitions name
  rwa [show empty.get? name = none from rfl, Option.or_none] at hlookup

/-- A table of definitions has as many names as there are among them. -/
theorem size_of_list (definitions : List (String × Alias)) :
    (ofList definitions).size = (definitions.map Prod.fst).dedup.length := by
  refine Dictionary.length_eq_of_names ?_ (List.nodup_dedup _) fun name ↦ ?_
  · exact Dictionary.names_nodup (sorted_insert_all sorted_empty definitions)
  · rw [← get_lookup, get_of_list, List.mem_dedup, List.lookup_isSome_iff]
    simp [eq_comm (a := name)]

/-- Once the definitions of a text are known, each of their names stands for the last one, and every
other name for what it stood for. -/
theorem get_loaded (table : AliasTable) (definitions : List (String × Alias)) (name : String) :
    (table.defineAll (ofList definitions).entries).2.get? name =
      (definitions.reverse.lookup name).or (table.get? name) := by
  have hsorted : (ofList definitions).Sorted := sorted_insert_all sorted_empty definitions
  have hnodup := Dictionary.names_nodup hsorted
  -- The names of a table are different, so their order does not matter.
  have hreverse : (ofList definitions).entries.reverse.lookup name =
      (ofList definitions).entries.lookup name := by
    refine Option.ext fun value ↦ ?_
    rw [Dictionary.lookup_iff_mem hnodup, Dictionary.lookup_iff_mem, List.mem_reverse]
    rwa [List.map_reverse, List.nodup_reverse]
  rw [define_all_eq, get_insert_all, hreverse, ← get_lookup, get_of_list]

/-- Loading a text comes to one of these things. -/
theorem load_cases (table : AliasTable) (origin text : String) :
    Loads table origin text (table.loadFrom origin text).result
      (table.loadFrom origin text).table := by
  cases hdefinitions : definitions? text with
  | none =>
      simp only [loadFrom, hdefinitions]
      cases hcontents : contents? text with
      | none => exact .malformed hcontents
      | some contents =>
          by_cases hgood : ∀ content ∈ contents, ∃ value, Alias.Describes content.2 value
          · obtain ⟨definitions, hdefines⟩ := (defines_iff contents).mpr hgood
            have hsome := (definitions_iff text definitions).mpr ⟨contents, hcontents, hdefines⟩
            cases hdefinitions.symm.trans hsome
          · push Not at hgood
            obtain ⟨content, hmem, hnone⟩ := hgood
            exact .undescribed hcontents hmem hnone
  | some definitions =>
      simp only [loadFrom, hdefinitions]
      obtain ⟨contents, hcontents, hdefines⟩ := (definitions_iff text definitions).mp hdefinitions
      have hnames := names_of_defines hdefines
      rw [size_of_list, hnames]
      refine .defined hcontents ((defines_iff contents).mp ⟨definitions, hdefines⟩)
        (fun name content hlast ↦ ?_) (fun name hfree ↦ ?_)
      · obtain ⟨value, hdescribes, hvalue⟩ :=
          lookup_of_defines (List.forall₂_reverse_iff.mpr hdefines) hlast
        refine ⟨value, hdescribes, ?_⟩
        rw [get_loaded, hvalue, Option.some_or]
      · have hnone : definitions.reverse.lookup name = none := by
          rw [← hnames] at hfree
          rw [List.lookup_eq_none_iff]
          intro definition hmem
          refine bne_iff_ne.mpr fun hsame ↦ hfree ?_
          exact List.mem_map.mpr ⟨definition, List.mem_reverse.mp hmem, hsame.symm⟩
        rw [get_loaded, hnone, Option.none_or]

/-! ### Histories -/

/-- What is done to a table: a name is defined, or the definitions of a text or of a file are
loaded. -/
inductive Change where
  | define (name : String) (value : Alias)
  | load (text : String)
  | loadFile (files : FileSource) (path : String)

/-- What a change adds to the history of definitions: nothing if it fails. -/
def Change.definitions : Change → List (String × Alias)
  | .define name value => [(name, value)]
  | .load text => (definitions? text).getD []
  | .loadFile files path =>
    match files.text path with
    | .error _ => []
    | .ok text => (definitions? text).getD []

/-- The table after a change. -/
def make (table : AliasTable) : Change → AliasTable
  | .define name value => (table.define name value).2
  | .load text => (table.load text).table
  | .loadFile files path => (table.loadFile files path).table

/-- The table after several changes, made one after the other. -/
def makeAll (table : AliasTable) (changes : List Change) : AliasTable :=
  changes.foldl make table

/-- A file that can be read is loaded as its text is. -/
theorem load_file_text {files : FileSource} {path text : String} (h : files.text path = .ok text)
    (table : AliasTable) :
    (table.loadFile files path).result = (table.loadFrom (Text.quotedPath path) text).result ∧
      (table.loadFile files path).table = (table.loadFrom (Text.quotedPath path) text).table := by
  simp only [loadFile, h]
  split <;> exact ⟨rfl, rfl⟩

/-- The table after a text was loaded has its definitions put in, in the order of their names. -/
theorem load_from_table (table : AliasTable) (origin text : String) :
    (table.loadFrom origin text).table =
      (table.defineAll (ofList ((definitions? text).getD [])).entries).2 := by
  cases hdefinitions : definitions? text <;> simp only [loadFrom, hdefinitions] <;> rfl

/-- What a change does is to put definitions in, and those it adds to the history are the same up to
their order and to repetitions. -/
theorem make_eq (table : AliasTable) (change : Change) :
    ∃ definitions, table.make change = table.insertAll definitions ∧
      ∀ name, (table.make change).get? name =
        (change.definitions.reverse.lookup name).or (table.get? name) := by
  cases change with
  | define name value =>
      exact ⟨[(name, value)], rfl, get_insert_all table [(name, value)]⟩
  | load text =>
      have hmake : table.make (.load text) = _ := load_from_table table "alias definitions" text
      rw [hmake]
      exact ⟨_, define_all_eq _ _, get_loaded table _⟩
  | loadFile files path =>
      cases htext : files.text path with
      | error fault =>
          have hsame : table.make (.loadFile files path) = table := by
            simp only [make, loadFile, htext]
          rw [hsame]
          exact ⟨[], rfl, fun name ↦ by simp [Change.definitions, htext]⟩
      | ok text =>
          have hmake : table.make (.loadFile files path) = _ := (load_file_text htext table).2
          rw [hmake, load_from_table]
          exact ⟨_, define_all_eq _ _, fun name ↦ by
            simpa [Change.definitions, htext] using get_loaded table _ name⟩

/-- At the end of a history every name stands for what it was last defined as, or else for what it
stood for at first. -/
theorem get_make_all (table : AliasTable) (changes : List Change) (name : String) :
    (table.makeAll changes).get? name =
      ((changes.flatMap Change.definitions).reverse.lookup name).or (table.get? name) := by
  induction changes generalizing table with
  | nil => rfl
  | cons change rest ih =>
      obtain ⟨-, -, hget⟩ := table.make_eq change
      have hstep : (table.makeAll (change :: rest)).get? name =
          ((table.make change).makeAll rest).get? name := rfl
      rw [hstep, ih, hget, List.flatMap_cons, List.reverse_append, List.lookup_append,
        Option.or_assoc]

/-- Every change keeps the names in ascending order. -/
theorem sorted_make_all (h : table.Sorted) (changes : List Change) :
    (table.makeAll changes).Sorted := by
  induction changes generalizing table with
  | nil => exact h
  | cons change rest ih =>
      obtain ⟨definitions, hmake, -⟩ := table.make_eq change
      exact ih (hmake ▸ sorted_insert_all h definitions)

/-! ### Listings -/

/-- What is listed is what the names stand for. -/
theorem mem_records (h : table.Sorted) (record : AliasRecord) :
    record ∈ table.records ↔
      table.get? record.name =
        some { commands := record.commands, description := record.description } := by
  rw [get_lookup, Dictionary.lookup_iff_mem (Dictionary.names_nodup h), records, List.mem_map]
  constructor
  · intro ⟨⟨name, value⟩, hmem, hrecord⟩
    subst hrecord
    exact hmem
  · intro hmem
    exact ⟨_, hmem, rfl⟩

/-- The names are listed in ascending order. -/
theorem records_ascending (h : table.Sorted) :
    table.records.Pairwise fun first second ↦ first.name < second.name :=
  List.pairwise_map.mpr h

/-- After any history of definitions and loads, every name stands for what it was last defined as,
and for nothing if it was never defined. Loading a text comes to what `Loads` says, and loading a
file to what loading its text does, or to nothing at all if it cannot be read. Every name that
stands for something is listed once, in ascending order, so what is listed does not depend on how
the names came to stand for what they do. -/
theorem aliases_agree (changes : List Change) :
    let table := empty.makeAll changes
    let history := changes.flatMap Change.definitions
    (∀ name, table.get? name = history.reverse.lookup name) ∧
    (∀ name, table.get? name = none ↔ name ∉ history.map Prod.fst) ∧
    (∀ text,
      Loads table "alias definitions" text (table.load text).result (table.load text).table) ∧
    (∀ files path,
      let loading := table.loadFile files path
      match files.text path with
      | .error fault => loading.result = .error (.unreadable path fault) ∧ loading.table = table
      | .ok text => Loads table (Text.quotedPath path) text loading.result loading.table) ∧
    (∀ record, record ∈ table.records ↔ table.get? record.name =
      some { commands := record.commands, description := record.description }) ∧
    (table.records.Pairwise fun first second ↦ first.name < second.name) ∧
    ∀ others, (∀ name, (others.flatMap Change.definitions).reverse.lookup name =
        history.reverse.lookup name) →
      (empty.makeAll others).records = table.records := by
  intro table history
  have hget : ∀ name, table.get? name = history.reverse.lookup name := by
    intro name
    have hall := get_make_all empty changes name
    rwa [show empty.get? name = none from rfl, Option.or_none] at hall
  have hsorted : table.Sorted := sorted_make_all sorted_empty changes
  refine ⟨hget, fun name ↦ ?_, fun text ↦ load_cases table _ text, fun files path ↦ ?_,
    mem_records hsorted, records_ascending hsorted, fun others hothers ↦ ?_⟩
  · rw [hget, ← Option.not_isSome_iff_eq_none, List.lookup_isSome_iff]
    simp [eq_comm (a := name)]
  · intro loading
    cases htext : files.text path with
    | error fault => simp only [loading, loadFile, htext, and_self]
    | ok text =>
        obtain ⟨hresult, htable⟩ := load_file_text htext table
        have hcases := load_cases table (Text.quotedPath path) text
        simp only [loading, hresult, htable]
        exact hcases
  · have hentries : (empty.makeAll others).entries = table.entries := by
      refine Dictionary.eq_of_lookup (sorted_make_all sorted_empty others) hsorted fun name ↦ ?_
      rw [← get_lookup, ← get_lookup, get_make_all, hothers, hget]
      exact Option.or_none
    rw [records, records, hentries]

/-- Definitions and loads, two of which fail: one definition of a text is no text, and a file is not
there. -/
def sampleChanges : List Change :=
  [.define "look" ⟨["peek"], "Look around"⟩,
    .load "look: first\nstay:\n  commands: [one, two]\nlook: last",
    .load "look: other\nfresh: 7", .loadFile (fun _ ↦ .error .notFound) "aliases.yaml"]

/-- The last definition of a name counts and its description is gone. What failed left nothing, and
defining the names in another order lists the same. -/
theorem sample_history :
    let table := empty.makeAll sampleChanges
    table.get? "look" = some ⟨["last"], ""⟩ ∧ table.get? "fresh" = none ∧
    (empty.makeAll [.define "stay" ⟨["one", "two"], ""⟩, .define "look" ⟨["last"], ""⟩]).records =
      table.records := by
  intro table
  obtain ⟨hget, hnone, -, -, -, -, hrecords⟩ := aliases_agree sampleChanges
  have hhistory : sampleChanges.flatMap Change.definitions =
      [("look", ⟨["peek"], "Look around"⟩), ("look", ⟨["first"], ""⟩),
        ("stay", ⟨["one", "two"], ""⟩), ("look", ⟨["last"], ""⟩)] := by
    decide +kernel
  simp only [hhistory] at hget hnone hrecords
  refine ⟨hget "look", (hnone "fresh").mpr (by decide), hrecords _ fun name ↦ ?_⟩
  simp only [List.flatMap_cons, Change.definitions, List.flatMap_nil, List.append_nil,
    List.reverse_cons, List.reverse_nil, List.nil_append, List.cons_append, Dictionary.lookup_first]
  by_cases hlook : name = "look"
  · simp [hlook]
  · by_cases hstay : name = "stay" <;> simp [hlook, hstay]

end Switchboard.AliasTable
