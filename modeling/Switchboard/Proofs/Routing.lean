import Switchboard.Proofs.Board.Scene
import Switchboard.Proofs.Commands.Dispatch
import Switchboard.Proofs.Routes

/-!
# Routing by the history of bindings

Whatever else happens in a course, the routing table at its end is what the bindings of the course
say (`configured_run`). So `routing_agrees` can say what a command runs by the history alone: the
handler that was bound last to the first of the texts that the command matches.
-/

namespace Switchboard

variable {σ κ : Type}

open Bindings

/-- The template of the runner of aliases is what is read from its text. -/
theorem Commands.read_alias_template :
    Template.read aliasTemplate.raw = .ok aliasTemplate := by
  decide

/-! ### Courses -/

/-- What an action adds to the history of bindings. -/
def Action.bindings : Action σ κ → Bindings σ
  | .bind matcher text run _ => binding matcher text (.external run)
  | _ => []

/-- The bindings of a course. The built-in runner of aliases comes first. -/
def bound (actions : List (Action σ κ)) : Bindings σ :=
  (Commands.aliasTemplate.raw, .runAlias) :: actions.flatMap Action.bindings

namespace Scene

/-- The settings are the given ones, and the table is what the history says. -/
structure Configured (settings : Settings) (history : Bindings σ) (scene : Scene σ κ) : Prop where
  settings : scene.board.commands.settings = settings
  reads : scene.board.commands.routes.Reads history

/-- The first table has the built-in runner of aliases. -/
theorem configured_start (settings : Settings) (aliases : AliasTable) (outside : Outside σ) :
    Configured settings (bound ([] : List (Action σ κ)))
      (start (κ := κ) settings aliases outside) where
  settings := rfl
  reads := by
    have hread : Template.read (Commands.aliasRoute (σ := σ)).template.raw =
        .ok (Commands.aliasRoute (σ := σ)).template := Commands.read_alias_template
    exact Routes.reads_insert Routes.reads_empty hread
      (Routes.insert_cases Routes.aligned_empty hread)

variable [Producer σ] {settings : Settings} {history : Bindings σ} {scene : Scene σ κ}

/-- An action keeps the settings, and the table is what the history says with what the action adds
to it. -/
theorem configured_step (h : Configured settings history scene) (action : Action σ κ) :
    Configured settings (history ++ action.bindings) (scene.step action) := by
  obtain ⟨hsettings, hreads⟩ := h
  have hcommands := commands_step scene action
  cases action with
  | bind matcher text run description =>
      exact ⟨hsettings, Routes.reads_bind hreads matcher text (.external run) description⟩
  | withAliases aliases => exact ⟨hsettings, (List.append_nil history).symm ▸ hreads⟩
  | _ =>
      refine ⟨hcommands ▸ hsettings, ?_⟩
      rw [hcommands]
      exact (List.append_nil history).symm ▸ hreads

/-- At the end of a course the table is what the bindings of the course say. -/
theorem configured_run (settings : Settings) (aliases : AliasTable) (outside : Outside σ)
    (actions : List (Action σ κ)) :
    Configured settings (bound actions) ((start settings aliases outside).run actions) := by
  suffices hfrom : ∀ history scene, Configured settings history scene →
      Configured settings (history ++ actions.flatMap Action.bindings) (scene.run actions) from
    hfrom _ _ (configured_start settings aliases outside)
  induction actions with
  | nil =>
      intro history scene hconfigured
      rw [List.flatMap_nil, List.append_nil]
      exact hconfigured
  | cons action rest ih =>
      intro history scene hconfigured
      rw [List.flatMap_cons, ← List.append_assoc]
      exact ih _ _ (configured_step hconfigured action)

/-- What a command runs, by the history of bindings. The table has the texts that were bound, in
the order in which each was bound first, and binding one of them again does not move it. A command
is taken by the first of them that it matches, whatever the limit of arguments. It runs the
handler that was bound last to this text, once and with as many of the texts in its slots as the
settings allow, and no other handler; if it matches none it runs no handler. -/
theorem routing_agrees (settings : Settings) (aliases : AliasTable) (outside : Outside σ)
    (actions : List (Action σ κ)) (command : String) (world : Outside σ) :
    let board := ((start settings aliases outside).run actions).board
    let history := bound actions
    let texts (board : Board σ κ) := board.commands.routes.entries.map (·.template.raw)
    texts board = history.order ∧
    (∀ text ∈ history.order, ∀ matcher handler description,
      texts (board.bind matcher text handler description).board = history.order) ∧
    (∀ limit, (board.commands.routes.find? command limit).map (·.1.template.raw) =
      history.order.find? (matchesText command)) ∧
    match history.order.find? (matchesText command) with
    | none => board.exec command world =
        (Run.failed (.noHandler command) world).after (.handlerMissing command)
    | some text => ∃ template handler slots, Template.read text = .ok template ∧
        template.slots? command = some slots ∧ history.latest text = some handler ∧
        board.exec command world =
          (board.commands.invoke handler ⟨slots.take settings.maxArguments⟩ world).after
            (.dispatched command text (slots.take settings.maxArguments)) := by
  intro board history texts
  obtain ⟨hsettings, hreads⟩ : Configured settings history _ :=
    configured_run settings aliases outside actions
  have hfind := Routes.find_text hreads command
  refine ⟨hreads.order, fun text htext matcher handler description ↦ ?_, fun limit ↦ ?_, ?_⟩
  · have hbound := (Routes.reads_bind hreads matcher text handler description).order
    refine hbound.trans ?_
    unfold binding
    split
    · rw [order_append, if_pos htext]
    · rw [List.append_nil]
  · rw [hfind, Routes.find_route]
    cases hroute : board.commands.routes.entries.find? (·.template.isMatch command) with
    | none => rfl
    | some route =>
        obtain ⟨slots, hslots⟩ := Routes.found_slots hroute
        rw [Option.bind_some, hslots]
        rfl
  · rw [hfind]
    have hexec := Commands.exec_eq board.commands command world
    rw [Routes.find_route, hsettings] at hexec
    cases hroute : board.commands.routes.entries.find? (·.template.isMatch command) with
    | none =>
        rw [hroute] at hexec
        exact hexec
    | some route =>
        have hmem := List.mem_of_find?_eq_some hroute
        obtain ⟨slots, hslots⟩ := Routes.found_slots hroute
        rw [hroute, Option.bind_some, hslots] at hexec
        exact ⟨route.template, route.handler, slots, hreads.read route hmem, hslots,
          hreads.handler route hmem, hexec⟩

/-- A handler that says one thing. -/
def sayingHandler (message : String) (_ : Arguments) (outside : Outside Unit) :
    Outcome × Outside Unit :=
  (.done message, outside)

/-- Two overlapping texts are bound, one that is no template, and the first one again. -/
def sampleBindings : List (Action Unit String) :=
  [.bind .sized "go [uint]" (sayingHandler "first") "",
    .bind .sized "go [str]" (sayingHandler "second") "",
    .bind .sized "go [" (sayingHandler "third") "",
    .bind .sized "go [uint]" (sayingHandler "fourth") ""]

/-- The text that was bound again is still tried first, with its last handler. -/
theorem sample_rebound :
    let board := ((start {} .empty (.new ())).run sampleBindings).board
    (board.bind .sized "go [str]" .runAlias "").board.commands.routes.entries.map (·.template.raw) =
      ["vrun [str]", "go [uint]", "go [str]"] ∧
    (board.exec "go 7" (.new ())).outcome = .done "fourth" := by
  intro board
  obtain ⟨-, hbind, -, hexec⟩ :=
    routing_agrees {} .empty (.new ()) sampleBindings "go 7" (.new ())
  have horder : (bound sampleBindings).order = ["vrun [str]", "go [uint]", "go [str]"] := by decide
  have hfind : (bound sampleBindings).order.find? (matchesText "go 7") = some "go [uint]" := by
    decide
  refine ⟨(hbind "go [str]" (by decide) .sized .runAlias "").trans horder, ?_⟩
  rw [hfind] at hexec
  obtain ⟨template, handler, slots, -, -, hlatest, hrun⟩ := hexec
  have hlast : (bound sampleBindings).latest "go [uint]" =
      some (.external (sayingHandler "fourth")) := rfl
  rw [hlast, Option.some.injEq] at hlatest
  rw [hrun, ← hlatest]
  rfl

end Scene

end Switchboard
