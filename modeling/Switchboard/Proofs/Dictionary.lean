import Mathlib.Data.List.Nodup
import Switchboard.Dictionary

/-!
# What a dictionary holds

Putting an entry in changes what its name stands for and nothing else (`lookup_insert`), and keeps
the names in ascending order (`ascending_insert`). So no name has two entries, a dictionary has as
many of them as names that stand for something (`length_eq_of_names`), and it is known when it is
known what every name stands for (`eq_of_lookup`).
-/

namespace Switchboard.Dictionary

variable {α : Type}

/-- The names are in ascending order. -/
def Ascending (entries : Dictionary α) : Prop :=
  entries.Pairwise fun first second ↦ first.1 < second.1

/-- The first entry of a name counts. -/
theorem lookup_first (name other : String) (value : α) (rest : Dictionary α) :
    List.lookup other ((name, value) :: rest) =
      if other = name then some value else rest.lookup other := by
  rw [List.lookup_cons]
  by_cases hother : other = name
  · rw [beq_iff_eq.mpr hother, if_pos hother]
  · rw [beq_eq_false_iff_ne.mpr hother, if_neg hother]

/-- After an entry was put in, its name stands for its value, and every other name for what it
stood for before. -/
theorem lookup_insert (name other : String) (value : α) (entries : Dictionary α) :
    (insert name value entries).lookup other =
      if other = name then some value else entries.lookup other := by
  induction entries with
  | nil => exact lookup_first name other value []
  | cons entry rest ih =>
      obtain ⟨first, old⟩ := entry
      rw [insert]
      split
      · exact lookup_first name other value _
      · split
        · rename_i hsame
          subst hsame
          rw [lookup_first, lookup_first]
          by_cases hother : other = name <;> simp [hother]
        · rename_i hdiffers
          rw [lookup_first, lookup_first, ih]
          by_cases hfirst : other = first
          · subst hfirst
            simp [Ne.symm hdiffers]
          · simp [hfirst]

/-- What is in a dictionary after an entry was put in is the entry, or was there before. -/
theorem mem_insert {name : String} {value : α} {entries : Dictionary α} {entry : String × α}
    (h : entry ∈ insert name value entries) : entry = (name, value) ∨ entry ∈ entries := by
  induction entries with
  | nil => exact .inl (List.mem_singleton.mp h)
  | cons first rest ih =>
      rw [insert] at h
      split at h
      · exact List.mem_cons.mp h
      · split at h
        · exact (List.mem_cons.mp h).imp_right (List.mem_cons_of_mem _)
        · rcases List.mem_cons.mp h with rfl | hrest
          · exact .inr List.mem_cons_self
          · exact (ih hrest).imp_right (List.mem_cons_of_mem _)

/-- Putting an entry in keeps the names in ascending order. -/
theorem ascending_insert {entries : Dictionary α} (h : Ascending entries) (name : String)
    (value : α) : Ascending (insert name value entries) := by
  induction entries with
  | nil => exact List.pairwise_singleton _ _
  | cons entry rest ih =>
      obtain ⟨other, old⟩ := entry
      obtain ⟨hfirst, hrest⟩ := List.pairwise_cons.mp h
      rw [insert]
      split
      · rename_i hbefore
        refine List.pairwise_cons.mpr ⟨fun later hlater ↦ ?_, h⟩
        rcases List.mem_cons.mp hlater with rfl | hmem
        · exact hbefore
        · exact String.lt_trans hbefore (hfirst later hmem)
      · split
        · rename_i hsame
          subst hsame
          exact List.pairwise_cons.mpr ⟨hfirst, hrest⟩
        · rename_i hnot hdiffers
          -- The name is neither before the first one nor the same, so it comes later.
          have hafter : other < name := by
            by_contra hle
            exact hdiffers (String.le_antisymm (String.not_lt.mp hle) (String.not_lt.mp hnot))
          refine List.pairwise_cons.mpr ⟨fun later hlater ↦ ?_, ih hrest⟩
          rcases mem_insert hlater with rfl | hmem
          · exact hafter
          · exact hfirst later hmem

/-- Names in ascending order are all different. -/
theorem names_nodup {entries : Dictionary α} (h : Ascending entries) :
    (entries.map Prod.fst).Nodup := by
  refine List.pairwise_map.mpr (h.imp fun hbefore hsame ↦ ?_)
  rw [hsame] at hbefore
  exact String.lt_irrefl _ hbefore

/-- If no name has two entries, what a name stands for is what the two are an entry with. -/
theorem lookup_iff_mem {entries : List (String × α)} (h : (entries.map Prod.fst).Nodup)
    (name : String) (value : α) : entries.lookup name = some value ↔ (name, value) ∈ entries := by
  induction entries with
  | nil => simp
  | cons entry rest ih =>
      obtain ⟨first, old⟩ := entry
      rw [List.map_cons, List.nodup_cons] at h
      rw [lookup_first, List.mem_cons, Prod.mk.injEq, ← ih h.2]
      by_cases hname : name = first
      · have hlater : rest.lookup first = none := by
          rw [List.lookup_eq_none_iff]
          intro later hlater
          refine bne_iff_ne.mpr fun hsame ↦ h.1 ?_
          exact List.mem_map.mpr ⟨later, hlater, hsame.symm⟩
        simp [hname, hlater, eq_comm]
      · simp [hname]

/-- Dictionaries in which every name stands for the same are the same. -/
theorem eq_of_lookup {first second : Dictionary α} (hfirst : Ascending first)
    (hsecond : Ascending second) (h : ∀ name, first.lookup name = second.lookup name) :
    first = second := by
  have hmem : ∀ entry, entry ∈ first ↔ entry ∈ second := by
    intro entry
    rw [← lookup_iff_mem (names_nodup hfirst) entry.1 entry.2, h,
      lookup_iff_mem (names_nodup hsecond)]
  have hperm : first.Perm second := by
    refine (List.perm_ext_iff_of_nodup ?_ ?_).mpr hmem
    · exact (names_nodup hfirst).of_map
    · exact (names_nodup hsecond).of_map
  refine hperm.eq_of_pairwise (fun left right _ _ hbefore hafter ↦ ?_) hfirst hsecond
  exact absurd (String.lt_trans hbefore hafter) (String.lt_irrefl _)

/-- A list of entries with different names has one for each name that stands for something. -/
theorem length_eq_of_names {entries : List (String × α)} {names : List String}
    (hentries : (entries.map Prod.fst).Nodup) (hnames : names.Nodup)
    (hsame : ∀ name, (entries.lookup name).isSome = true ↔ name ∈ names) :
    entries.length = names.length := by
  have hmem : ∀ name, name ∈ entries.map Prod.fst ↔ name ∈ names := by
    intro name
    rw [← hsame, List.lookup_isSome_iff]
    simp [eq_comm (a := name)]
  have hperm : (entries.map Prod.fst).Perm names :=
    (List.perm_ext_iff_of_nodup hentries hnames).mpr hmem
  simpa using hperm.length_eq

end Switchboard.Dictionary
