import Switchboard.Proofs.Routes.Parts

/-!
# Routing tables and the history of bindings

The routing table is kept up to date binding by binding. `Bindings.order` and `Bindings.latest`
read it off the history instead: the texts that were bound, in the order in which each was bound
first, and the handler that was bound last to a text. `Routes.Reads` says that a table is what its
history says, and every binding preserves it (`reads_bind`); `find_text` and `find_route` say
which route a command finds.
-/

namespace Switchboard

variable {σ : Type}

/-- The texts that were bound to handlers, the earliest first. -/
abbrev Bindings (σ : Type) := List (String × Handler σ)

namespace Bindings

/-- The texts that were bound, in the order in which each was bound first. -/
def order (history : Bindings σ) : List String :=
  (history.map Prod.fst).eraseDups

/-- The handler that was bound last to a text. -/
def latest (history : Bindings σ) (text : String) : Option (Handler σ) :=
  history.reverse.lookup text

/-- A text that was not bound before goes to the end of the order, and any other stays where it
is. -/
theorem order_append (history : Bindings σ) (text : String) (handler : Handler σ) :
    order (history ++ [(text, handler)]) =
      if text ∈ order history then order history else order history ++ [text] := by
  have hmem : (history.map Prod.fst).elem text = true ↔ text ∈ order history := by
    rw [order, List.mem_eraseDups, List.elem_eq_mem, decide_eq_true_iff]
  have happend : order (history ++ [(text, handler)]) =
      order history ++ (if (history.map Prod.fst).elem text then [] else [text]) := by
    rw [order, List.map_append, List.eraseDups_append, List.map_singleton, List.removeAll,
      List.filter_singleton]
    cases (history.map Prod.fst).elem text <;> rfl
  rw [happend]
  by_cases hbound : text ∈ order history
  · rw [if_pos hbound, if_pos (hmem.mpr hbound), List.append_nil]
  · rw [if_neg hbound, if_neg (hmem.not.mpr hbound)]

/-- The text that was bound first of all stands first in the order. -/
theorem order_cons (text : String) (handler : Handler σ) (history : Bindings σ) :
    ∃ others, order ((text, handler) :: history) = text :: others :=
  ⟨_, List.eraseDups_cons⟩

/-- A text that is bound once has the handler of this binding. -/
theorem latest_cons_fresh {text : String} {history : Bindings σ}
    (hfresh : ∀ later ∈ history, later.1 ≠ text) (handler : Handler σ) :
    latest ((text, handler) :: history) text = some handler := by
  have hnone : history.reverse.lookup text = none := by
    rw [List.lookup_eq_none_iff]
    intro later hlater
    exact bne_iff_ne.mpr (hfresh later (List.mem_reverse.mp hlater)).symm
  rw [latest, List.reverse_cons, List.lookup_append, hnone, Option.none_or, List.lookup_cons_self]

/-- The handler bound last to a text is the one of a new binding of the text, or what it was. -/
theorem latest_append (history : Bindings σ) (text other : String) (handler : Handler σ) :
    latest (history ++ [(text, handler)]) other =
      if other = text then some handler else latest history other := by
  rw [latest, List.reverse_append, List.reverse_singleton, List.singleton_append, List.lookup_cons]
  by_cases hother : other = text
  · simp [hother]
  · rw [beq_eq_false_iff_ne.mpr hother, if_neg hother]
    rfl

end Bindings

open Bindings

/-- Whether a text can be read as a template and a command matches it. -/
def matchesText (command text : String) : Bool :=
  match Template.read text with
  | .ok template => template.isMatch command
  | .error _ => false

/-- What binding a handler to a text adds to the history: the binding, if the text is a template
and the engine takes its pattern. -/
def binding (matcher : Matcher) (text : String) (handler : Handler σ) : Bindings σ :=
  match Template.compile matcher text with
  | .ok _ => [(text, handler)]
  | .error _ => []

/-- What binding a handler to a text adds is this binding. -/
theorem mem_binding {matcher : Matcher} {text : String} {handler : Handler σ}
    {added : String × Handler σ} (h : added ∈ binding matcher text handler) :
    added = (text, handler) := by
  unfold binding at h
  split at h
  · exact List.mem_singleton.mp h
  · cases h

namespace Routes

/-- The table is what the history says: its parts agree, its templates were read from the texts that
were bound, in their order, and its handlers are those that were bound last. -/
structure Reads (routes : Routes σ) (history : Bindings σ) : Prop extends routes.Aligned where
  order : routes.entries.map (·.template.raw) = Bindings.order history
  handler : ∀ route ∈ routes.entries, latest history route.template.raw = some route.handler

variable {routes : Routes σ} {history : Bindings σ} {route : Route σ}

/-- The table without routes is what the history says before anything was bound. -/
theorem reads_empty : (empty : Routes σ).Reads [] where
  toAligned := aligned_empty
  order := rfl
  handler _ h := nomatch h

/-- Inserting a route keeps the table what its history says. -/
theorem reads_insert (hreads : routes.Reads history)
    (hread : Template.read route.template.raw = .ok route.template)
    {result : Binding × List Event × Routes σ} (h : Inserts routes route result) :
    result.2.2.Reads (history ++ [(route.template.raw, route.handler)]) := by
  refine ⟨aligned_insert hreads.toAligned hread h, ?_, ?_⟩
  · rw [order_append]
    cases h with
    | replaced hprevious htemplate =>
        have hbound : route.template.raw ∈ order history := by
          rw [← hreads.order, ← htemplate]
          exact List.mem_map_of_mem (List.mem_of_getElem? hprevious)
        have hraws := congrArg (List.map Template.raw) (templates_set hprevious htemplate)
        simp only [List.map_map] at hraws
        rw [if_pos hbound, ← hreads.order]
        exact hraws
    | inserted hnew =>
        rw [← hreads.order, if_neg hnew, List.map_append, List.map_singleton]
  · intro other hother
    rw [latest_append]
    cases h with
    | replaced hprevious htemplate =>
        rcases (mem_set hreads.toAligned hprevious htemplate other).mp hother with
          rfl | ⟨hold, hraw⟩
        · rw [if_pos rfl]
        · rw [if_neg hraw]
          exact hreads.handler other hold
    | inserted hnew =>
        rcases List.mem_append.mp hother with hold | hlast
        · have hne : other.template.raw ≠ route.template.raw := by
            intro heq
            exact hnew (heq ▸ List.mem_map_of_mem hold)
          rw [if_neg hne]
          exact hreads.handler other hold
        · rw [List.mem_singleton.mp hlast, if_pos rfl]

/-- Binding a handler to a text keeps the table what its history says. -/
theorem reads_bind (hreads : routes.Reads history) (matcher : Matcher) (text : String)
    (handler : Handler σ) (description : String) :
    (routes.bind matcher text handler description).2.2.Reads
      (history ++ binding matcher text handler) := by
  have h := bind_cases hreads.toAligned matcher text handler description
  generalize routes.bind matcher text handler description = result at h ⊢
  cases h with
  | rejected hcompile =>
      rw [binding, hcompile, List.append_nil]
      exact hreads
  | bound hcompile hread hraw hinserts =>
      rw [binding, hcompile]
      subst hraw
      exact reads_insert hreads hread hinserts

/-- A command matches the text of a route as it matches its template. -/
theorem matches_read (hread : Template.read route.template.raw = .ok route.template)
    (command : String) :
    matchesText command route.template.raw = route.template.isMatch command := by
  rw [matchesText, hread]

/-- The first text that a command matches is that of the first route that it matches. -/
theorem find_text (hreads : routes.Reads history) (command : String) :
    (Bindings.order history).find? (matchesText command) =
      (routes.entries.find? (·.template.isMatch command)).map (·.template.raw) := by
  rw [← hreads.order]
  have hread := hreads.read
  generalize routes.entries = entries at hread
  induction entries with
  | nil => rfl
  | cons route rest ih =>
      obtain ⟨hfirst, hrest⟩ := List.forall_mem_cons.mp hread
      rw [List.map_cons, List.find?_cons, List.find?_cons, matches_read hfirst, ih hrest]
      cases route.template.isMatch command <;> rfl

/-- A template fills its slots from the commands that match it. -/
theorem slots_isSome (template : Template) (command : String) :
    (template.slots? command).isSome = template.isMatch command := by
  simp only [Template.slots?, Template.isMatch]
  split <;> simp_all

/-- The route that is found fills the slots of its template. -/
theorem found_slots {command : String}
    (hfound : routes.entries.find? (·.template.isMatch command) = some route) :
    ∃ slots, route.template.slots? command = some slots := by
  rw [← Option.isSome_iff_exists, slots_isSome]
  simpa using List.find?_some hfound

/-- A command goes to the first route that it matches. The limit only cuts its arguments. -/
theorem find_route (routes : Routes σ) (command : String) (limit : Nat) :
    routes.find? command limit =
      (routes.entries.find? (·.template.isMatch command)).bind fun route ↦
        (route.template.slots? command).map fun slots ↦ (route, ⟨slots.take limit⟩) := by
  unfold find?
  induction routes.entries with
  | nil => rfl
  | cons route rest ih =>
      rw [List.findSome?_cons, List.find?_cons, ← slots_isSome route.template command, ih]
      cases hslots : route.template.slots? command <;> simp [Template.captures, hslots]

/-- The route that a command goes to is the first one that it matches. -/
theorem find_fst (routes : Routes σ) (command : String) (limit : Nat) :
    (routes.find? command limit).map Prod.fst =
      routes.entries.find? (·.template.isMatch command) := by
  rw [find_route]
  cases hroute : routes.entries.find? (·.template.isMatch command) with
  | none => rfl
  | some route =>
      obtain ⟨slots, hslots⟩ := found_slots hroute
      rw [Option.bind_some, hslots]
      rfl

/-- The route that a command goes to takes its arguments from the command with its template. -/
theorem captures_of_find {command : String} {limit : Nat} {arguments : Arguments}
    (h : routes.find? command limit = some (route, arguments)) :
    route.template.captures command limit = some arguments.values := by
  obtain ⟨other, -, hother⟩ := List.exists_of_findSome?_eq_some h
  obtain ⟨values, hcaptures, hfound⟩ := Option.map_eq_some_iff.mp hother
  cases hfound
  exact hcaptures

end Routes

end Switchboard
