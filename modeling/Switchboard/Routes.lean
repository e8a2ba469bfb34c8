import Switchboard.Arguments
import Switchboard.Dictionary
import Switchboard.Journal
import Switchboard.Outside
import Switchboard.Template.Match

/-!
# The routing table

Routes bind templates to handlers. They are tried in the order in which their templates were first
bound, and the first one whose template matches the whole command takes it. Binding a template again
replaces its handler and description and leaves it in its place; templates are told apart by their
patterns.

Beside the routes a table keeps the places of their patterns, so that a pattern that is bound again
is found without going through the routes, and their descriptions under the texts of their
templates, in the order in which help lists them.
-/

namespace Switchboard

/-- What runs when a route takes a command: a handler of a collaborator, which acts on the world, or
the built-in runner of aliases. -/
inductive Handler (σ : Type) where
  | external (run : Arguments → Outside σ → Outcome × Outside σ)
  | runAlias

/-- A template with its handler and its description. -/
structure Route (σ : Type) where
  template : Template
  handler : Handler σ
  description : String

/-- The routes in the order in which their templates were first bound, the place of each pattern
among them, and the description under the text of each template. -/
structure Routes (σ : Type) where
  entries : List (Route σ)
  slots : List (String × Nat)
  descriptions : Dictionary String

/-- A command as help shows it. -/
structure CommandRecord where
  template : String
  description : String
  deriving DecidableEq

/-- What a binding did: it added a route or replaced one. -/
inductive Binding where
  | inserted
  | replaced
  deriving DecidableEq

namespace Routes

variable {σ : Type}

/-- The table without routes. -/
def empty : Routes σ :=
  { entries := [], slots := [], descriptions := [] }

/-- The number of routes. -/
def size (routes : Routes σ) : Nat :=
  routes.entries.length

/-- The place of the route whose template has the given pattern. -/
def slot? (routes : Routes σ) (pattern : String) : Option Nat :=
  routes.slots.lookup pattern

/-- Whether a route has the given pattern. -/
def contains (routes : Routes σ) (pattern : String) : Bool :=
  (routes.slot? pattern).isSome

/-- The given descriptions once the route at a place makes room for one with the given text: what
was kept under another text goes with the route. -/
def vacate (routes : Routes σ) (slot : Nat) (raw : String) (descriptions : Dictionary String) :
    Dictionary String :=
  match routes.entries[slot]? with
  | none => descriptions
  | some previous =>
    if previous.template.raw = raw then descriptions
    else Dictionary.erase previous.template.raw descriptions

/-- Put a route into the place of the route with the same pattern, or behind all others. -/
def insert (routes : Routes σ) (route : Route σ) : Binding × List Event × Routes σ :=
  let descriptions :=
    Dictionary.insert route.template.raw route.description routes.descriptions
  match routes.slot? route.template.pattern with
  | some slot =>
    (.replaced, [.templateOverwritten route.template.pattern],
      { routes with
        entries := routes.entries.set slot route
        descriptions := routes.vacate slot route.template.raw descriptions })
  | none =>
    (.inserted, [.templateBound route.template.raw],
      { entries := routes.entries ++ [route]
        slots := (route.template.pattern, routes.size) :: routes.slots
        descriptions })

/-- Bind a handler to the template that a text is written for. A text that is not a template, or
whose pattern the engine refuses, is reported and changes nothing. -/
def bind (routes : Routes σ) (matcher : Matcher) (text : String) (handler : Handler σ)
    (description : String) : Except TemplateFault Binding × List Event × Routes σ :=
  match Template.compile matcher text with
  | .error fault => (.error fault, [.templateMalformed text fault], routes)
  | .ok template =>
    let (binding, journal, bound) := routes.insert { template, handler, description }
    (.ok binding, journal, bound)

/-- The first route whose template matches the whole command, with at most the given number of
arguments. -/
def find? (routes : Routes σ) (command : String) (limit : Nat) :
    Option (Route σ × Arguments) :=
  routes.entries.findSome? fun route ↦
    (route.template.captures command limit).map fun values ↦ (route, { values })

/-- What help says about the commands, in ascending order of their templates. -/
def records (routes : Routes σ) : List CommandRecord :=
  routes.descriptions.map fun (template, description) ↦ { template, description }

end Routes

end Switchboard
