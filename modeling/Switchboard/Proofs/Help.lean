import Mathlib.Data.String.Basic
import Switchboard.Help
import Switchboard.Proofs.Aliases
import Switchboard.Proofs.Routing

/-!
# What help lists

Help lists the descriptions that a routing table keeps and the aliases of an alias table. Both are
in ascending order and have no name twice. `Scene.Labelled` says that a text has the description of
its last successful binding, whatever else was bound or failed to be, and `help_lists` what the
listing is at the end of every course. The width of the first column is counted in bytes and the
padding in characters; the column is even because no text has more characters than bytes
(`length_le_bytes`).
-/

namespace Switchboard

namespace Help

/-! ### The first column -/

/-- No text has more characters than bytes of UTF-8. -/
theorem length_le_bytes (text : String) : text.length ≤ text.utf8ByteSize := by
  rw [← String.utf8Len_toList, ← String.length_toList]
  induction text.toList with
  | nil => exact Nat.le_refl 0
  | cons c rest ih =>
      have hc : 0 < c.utf8Size := c.utf8Size_pos
      simp only [List.length_cons, String.utf8Len_cons]
      omega

/-- The width is the greatest number of bytes of a template, if there is one. -/
theorem width_eq (records : List CommandRecord) :
    width records = ((records.map (·.template.utf8ByteSize)).max?).getD 0 := by
  cases records with
  | nil => rfl
  | cons record rest =>
      rw [List.map_cons, List.max?_cons', Option.getD_some, List.foldl_map]
      show rest.foldl _ (max 0 _) = _
      rw [Nat.zero_max]

/-- The width is the number of bytes of a template, and no template has more. -/
theorem width_greatest {records : List CommandRecord} (hsome : records ≠ []) :
    (∃ record ∈ records, record.template.utf8ByteSize = width records) ∧
      ∀ record ∈ records, record.template.utf8ByteSize ≤ width records := by
  have hmax : (records.map (·.template.utf8ByteSize)).max? = some (width records) := by
    rw [width_eq]
    cases records with
    | nil => exact absurd rfl hsome
    | cons record rest => rfl
  obtain ⟨hmem, hle⟩ := List.max?_eq_some_iff.mp hmax
  exact ⟨List.mem_map.mp hmem, fun record hrecord ↦ hle _ (List.mem_map_of_mem hrecord)⟩

/-- A text that fits is padded to the width. -/
theorem length_pad {width : Nat} {text : String} (hfits : text.length ≤ width) :
    (pad width text).length = width := by
  rw [pad, String.length_append, String.length_ofList, List.length_replicate]
  omega

/-! ### The aliases -/

/-- The aliases have a heading, if there are any, and a row each. -/
theorem alias_part_eq (records : List AliasRecord) :
    aliasPart records =
      if records = [] then ""
      else "\nAliases (vrun <name>):\n" ++ String.join (records.map fun row ↦
        "  " ++ row.name ++ "  " ++
          (if row.description = "" then String.intercalate "; " row.commands
            else row.description) ++ "\n") := by
  have hrow : aliasRow = fun row ↦ "  " ++ row.name ++ "  " ++
      (if row.description = "" then String.intercalate "; " row.commands
        else row.description) ++ "\n" := by
    funext row
    simp only [aliasRow, aliasText, String.isEmpty_iff]
  simp only [aliasPart, List.isEmpty_iff, hrow]

end Help

/-- An alias is listed if and only if some alias is defined. -/
theorem AliasTable.records_ne_nil {table : AliasTable} (h : table.Sorted) :
    table.records ≠ [] ↔ ∃ name, table.contains name = true := by
  simp only [contains, Option.isSome_iff_exists]
  constructor
  · intro hsome
    obtain ⟨row, hrow⟩ := List.exists_mem_of_ne_nil _ hsome
    exact ⟨row.name, _, (mem_records h row).mp hrow⟩
  · rintro ⟨name, value, hvalue⟩
    exact List.ne_nil_of_mem ((mem_records h ⟨name, value.commands, value.description⟩).mpr hvalue)

variable {σ κ : Type}

/-! ### Descriptions -/

/-- What binding a text adds to the history of descriptions: the text with its description, if it is
a template and the engine takes its pattern. -/
def label (matcher : Matcher) (text description : String) : List (String × String) :=
  match Template.compile matcher text with
  | .ok _ => [(text, description)]
  | .error _ => []

/-- What an action adds to the history of descriptions. -/
def Action.labels : Action σ κ → List (String × String)
  | .bind matcher text _ description => label matcher text description
  | _ => []

/-- The texts that were bound in a course, with their descriptions, the earliest first. The built-in
runner of aliases comes before all others. -/
def labelled (actions : List (Action σ κ)) : List (String × String) :=
  ("vrun [str]", "Run an alias") :: actions.flatMap Action.labels

namespace Routes

variable {routes : Routes σ}

/-- Binding a handler keeps the parts of a table in agreement. -/
theorem aligned_bind (haligned : routes.Aligned) (matcher : Matcher) (text : String)
    (handler : Handler σ) (description : String) :
    (routes.bind matcher text handler description).2.2.Aligned := by
  have h := bind_cases haligned matcher text handler description
  generalize routes.bind matcher text handler description = result at h ⊢
  cases h with
  | rejected => exact haligned
  | bound _ hread hraw hinserts =>
      subst hraw
      exact aligned_insert haligned hread hinserts

/-- After a binding its text has its description, if it was bound, and any other text has the
description that it had. -/
theorem described_bind (haligned : routes.Aligned) (matcher : Matcher) (text : String)
    (handler : Handler σ) (description other : String) :
    (routes.bind matcher text handler description).2.2.descriptions.lookup other =
      ((label matcher text description).lookup other).or (routes.descriptions.lookup other) := by
  have h := bind_cases haligned matcher text handler description
  generalize routes.bind matcher text handler description = result at h ⊢
  cases h with
  | rejected hcompile => rw [label, hcompile, List.lookup_nil, Option.none_or]
  | bound hcompile _ hraw hinserts =>
      have hdescriptions : (Dictionary.insert text description routes.descriptions).lookup other =
          (List.lookup other [(text, description)]).or (routes.descriptions.lookup other) := by
        rw [Dictionary.lookup_insert, Dictionary.lookup_first]
        split <;> rfl
      rw [label, hcompile]
      subst hraw
      cases hinserts with
      | replaced => exact hdescriptions
      | inserted => exact hdescriptions

/-- The texts of the records are those of the routes, each once. -/
theorem records_perm (haligned : routes.Aligned) :
    (routes.records.map (·.template)).Perm (routes.entries.map (·.template.raw)) := by
  have hnames : routes.records.map (·.template) = routes.descriptions.map Prod.fst := by
    rw [records, List.map_map]
    rfl
  rw [hnames, List.perm_ext_iff_of_nodup (Dictionary.names_nodup haligned.ascending) haligned.nodup]
  intro raw
  constructor
  · intro hmem
    obtain ⟨⟨_, description⟩, hentry, rfl⟩ := List.mem_map.mp hmem
    have hlookup :=
      (Dictionary.lookup_iff_mem (Dictionary.names_nodup haligned.ascending) _ _).mpr hentry
    obtain ⟨route, hroute, hraw, -⟩ := (haligned.described _ _).mp hlookup
    exact List.mem_map.mpr ⟨route, hroute, hraw⟩
  · intro hmem
    obtain ⟨route, hroute, rfl⟩ := List.mem_map.mp hmem
    have hlookup := (haligned.described _ _).mpr ⟨route, hroute, rfl, rfl⟩
    have hentry :=
      (Dictionary.lookup_iff_mem (Dictionary.names_nodup haligned.ascending) _ _).mp hlookup
    exact List.mem_map.mpr ⟨_, hentry, rfl⟩

/-- A record has the description that the table keeps under its text. -/
theorem described_record (haligned : routes.Aligned) {record : CommandRecord}
    (hrecord : record ∈ routes.records) :
    routes.descriptions.lookup record.template = some record.description := by
  obtain ⟨⟨text, description⟩, hentry, rfl⟩ := List.mem_map.mp hrecord
  exact (Dictionary.lookup_iff_mem (Dictionary.names_nodup haligned.ascending) _ _).mpr hentry

/-- The records are in ascending order of their texts. -/
theorem records_ascending (haligned : routes.Aligned) :
    routes.records.Pairwise fun first second ↦ first.template < second.template :=
  List.pairwise_map.mpr haligned.ascending

end Routes

/-- The table was made by definitions and loads. -/
def AliasTable.Made (table : AliasTable) : Prop :=
  ∃ changes, table = empty.makeAll changes

namespace Scene

/-- The parts of the routing table agree, and a text has the description that was given with its
last entry in the history. -/
structure Labelled (history : List (String × String)) (scene : Scene σ κ) : Prop where
  aligned : scene.board.commands.routes.Aligned
  last : ∀ text, scene.board.commands.routes.descriptions.lookup text = history.reverse.lookup text

variable [Producer σ] {history : List (String × String)} {scene : Scene σ κ}

/-- An action keeps the descriptions those of the history, with what the action adds to it. -/
theorem labelled_step (h : Labelled history scene) (action : Action σ κ) :
    Labelled (history ++ action.labels) (scene.step action) := by
  have hcommands := commands_step scene action
  cases action with
  | bind matcher text run description =>
      refine ⟨Routes.aligned_bind h.aligned matcher text (.external run) description,
        fun other ↦ ?_⟩
      have hbound :=
        Routes.described_bind h.aligned matcher text (.external run) description other
      have hsingle : (label matcher text description).reverse = label matcher text description := by
        unfold label
        split <;> rfl
      rw [List.reverse_append, List.lookup_append, ← h.last, Action.labels, hsingle]
      exact hbound
  | withAliases aliases =>
      exact ⟨h.aligned, fun other ↦ (List.append_nil history).symm ▸ h.last other⟩
  | _ =>
      refine ⟨hcommands ▸ h.aligned, fun other ↦ ?_⟩
      rw [hcommands]
      exact (List.append_nil history).symm ▸ h.last other

/-- At the end of a course the descriptions are those of its history. -/
theorem labelled_run (settings : Settings) (aliases : AliasTable) (outside : Outside σ)
    (actions : List (Action σ κ)) :
    Labelled (labelled actions) ((start settings aliases outside).run actions) := by
  suffices hfrom : ∀ history scene, Labelled history scene →
      Labelled (history ++ actions.flatMap Action.labels) (scene.run actions) by
    refine hfrom [("vrun [str]", "Run an alias")] _
      ⟨(configured_start settings aliases outside).reads.toAligned, fun text ↦ rfl⟩
  induction actions with
  | nil =>
      intro history scene hlabelled
      rw [List.flatMap_nil, List.append_nil]
      exact hlabelled
  | cons action rest ih =>
      intro history scene hlabelled
      rw [List.flatMap_cons, ← List.append_assoc]
      exact ih _ _ (labelled_step hlabelled action)

/-- If all alias tables that are put in were made by definitions and loads, so is the one at the
end. -/
theorem aliases_made {scene : Scene σ κ} (hscene : scene.board.commands.aliases.Made)
    {actions : List (Action σ κ)} (hactions : ∀ table, .withAliases table ∈ actions → table.Made) :
    (scene.run actions).board.commands.aliases.Made := by
  induction actions generalizing scene with
  | nil => exact hscene
  | cons action rest ih =>
      refine ih ?_ fun table hmem ↦ hactions table (List.mem_cons_of_mem _ hmem)
      rw [commands_step]
      cases action with
      | withAliases table => exact hactions table List.mem_cons_self
      | _ => exact hscene

/-- Help lists what is bound and what is defined. Every bound text has one row, in ascending order;
it is padded with spaces to the greatest number of bytes of any of them, which no text exceeds in
characters, so behind two more spaces all descriptions begin in one column, and each is that of the
last binding of its text. If some alias is defined, a heading follows and a row for each, in
ascending order of the names, with the description or, if it is empty, the commands. -/
theorem help_lists (settings : Settings) {aliases : AliasTable} (haliases : aliases.Made)
    (outside : Outside σ) {actions : List (Action σ κ)}
    (hactions : ∀ table, .withAliases table ∈ actions → table.Made) :
    let commands := ((start settings aliases outside).run actions).board.commands
    let texts := commands.routes.entries.map (·.template.raw)
    ∃ (rows : List CommandRecord) (others : List AliasRecord) (width : Nat),
      let first (row : CommandRecord) :=
        row.template ++ String.ofList (List.replicate (width - row.template.length) ' ') ++ "  "
      commands.help =
        String.join (rows.map fun row ↦ first row ++ row.description ++ "\n") ++
          (if others = [] then ""
            else "\nAliases (vrun <name>):\n" ++ String.join (others.map fun row ↦
              "  " ++ row.name ++ "  " ++
                (if row.description = "" then String.intercalate "; " row.commands
                  else row.description) ++ "\n")) ∧
      (rows.map (·.template)).Perm texts ∧
      (rows.Pairwise fun row later ↦ row.template < later.template) ∧
      (∀ row ∈ rows, (labelled actions).reverse.lookup row.template = some row.description) ∧
      (∃ text ∈ texts, text.utf8ByteSize = width) ∧
      (∀ text ∈ texts, text.utf8ByteSize ≤ width ∧ text.length ≤ width) ∧
      (∀ row ∈ rows, (first row).length = width + 2) ∧
      (others ≠ [] ↔ ∃ name, commands.aliases.contains name = true) ∧
      (others.Pairwise fun row later ↦ row.name < later.name) ∧
      ∀ row, row ∈ others ↔ commands.aliases.get? row.name =
        some { commands := row.commands, description := row.description } := by
  intro commands texts
  obtain ⟨haligned, hlast⟩ : Labelled (labelled actions) _ :=
    labelled_run settings aliases outside actions
  obtain ⟨changes, hmade⟩ : commands.aliases.Made := aliases_made haliases hactions
  have hsorted : commands.aliases.Sorted :=
    hmade ▸ AliasTable.sorted_make_all AliasTable.sorted_empty changes
  have hperm : (commands.routes.records.map (·.template)).Perm texts :=
    Routes.records_perm haligned
  have hmem : ∀ text ∈ texts, ∃ row ∈ commands.routes.records, row.template = text :=
    fun text htext ↦ List.mem_map.mp (hperm.mem_iff.mpr htext)
  have hfits : ∀ text ∈ texts, text.utf8ByteSize ≤ Help.width commands.routes.records ∧
      text.length ≤ Help.width commands.routes.records := by
    intro text htext
    obtain ⟨row, hrow, rfl⟩ := hmem text htext
    have hbytes := (Help.width_greatest (List.ne_nil_of_mem hrow)).2 row hrow
    exact ⟨hbytes, (Help.length_le_bytes _).trans hbytes⟩
  refine ⟨commands.routes.records, commands.aliases.records, Help.width commands.routes.records, ?_⟩
  intro first
  refine ⟨?_, hperm, Routes.records_ascending haligned, fun row hrow ↦ ?_, ?_, hfits,
    fun row hrow ↦ ?_, ?_, AliasTable.records_ascending hsorted, AliasTable.mem_records hsorted⟩
  · show String.join _ ++ Help.aliasPart commands.aliases.records = _
    rw [Help.alias_part_eq]
    rfl
  · rw [← hlast]
    exact Routes.described_record haligned hrow
  · -- The route of the built-in runner of aliases is always there.
    obtain ⟨others, horder⟩ := Bindings.order_cons Commands.aliasTemplate.raw
      (.runAlias : Handler σ) (actions.flatMap Action.bindings)
    have htexts : texts = Commands.aliasTemplate.raw :: others :=
      (configured_run settings aliases outside actions).reads.order.trans horder
    obtain ⟨row, hrow, -⟩ := hmem _ (htexts ▸ List.mem_cons_self)
    obtain ⟨widest, hwidest, hbytes⟩ := (Help.width_greatest (List.ne_nil_of_mem hrow)).1
    exact ⟨_, hperm.mem_iff.mp (List.mem_map_of_mem hwidest), hbytes⟩
  · have htemplate : row.template ∈ texts := hperm.mem_iff.mp (List.mem_map_of_mem hrow)
    have hpadded := Help.length_pad (hfits _ htemplate).2
    show (Help.pad _ _ ++ "  ").length = _
    rw [String.length_append, hpadded]
    rfl
  · exact AliasTable.records_ne_nil hsorted

/-- A template with characters of two bytes is bound, one that is no template, and the first one
again. -/
def sampleNamed : List (Action Unit String) :=
  [.bind .sized "größe [uint]" (sayingHandler "old") "How big",
    .bind .sized "größe [" (sayingHandler "bad") "",
    .bind .sized "größe [uint]" (sayingHandler "new") "Resize",
    .withAliases (AliasTable.empty.makeAll [.define "both" ⟨["größe 1", "größe 2"], ""⟩])]

/-- The column is as wide as the longer template has bytes, which is more than it has characters. -/
theorem sample_help :
    let commands := ((start {} .empty (.new ())).run sampleNamed).board.commands
    let texts := commands.routes.entries.map (·.template.raw)
    commands.help =
      "größe [uint]    Resize\nvrun [str]      Run an alias\n" ++
        "\nAliases (vrun <name>):\n  both  größe 1; größe 2\n" ∧
    ∃ width, (∃ text ∈ texts, text.utf8ByteSize = width) ∧ ∀ text ∈ texts, text.length < width := by
  intro commands texts
  have hmade : ∀ table, .withAliases table ∈ sampleNamed → table.Made := by
    intro table hmem
    obtain rfl : table = _ := by simpa [sampleNamed] using hmem
    exact ⟨_, rfl⟩
  have hempty : AliasTable.empty.Made := ⟨[], rfl⟩
  obtain ⟨rows, others, width, -, -, -, -, hwidest, hfits, -⟩ :=
    help_lists {} hempty (.new ()) hmade
  have htexts : texts = ["vrun [str]", "größe [uint]"] := by decide +kernel
  have hmem : "größe [uint]" ∈ texts := by simp [htexts]
  have hlong : "größe [uint]".utf8ByteSize ≤ width := (hfits _ hmem).1
  have hbytes : ∀ text ∈ texts, text.length < "größe [uint]".utf8ByteSize := by
    rw [htexts]
    decide
  exact ⟨by decide +kernel, width, hwidest, fun text htext ↦ (hbytes text htext).trans_le hlong⟩

end Scene

end Switchboard
