import Switchboard.Proofs.Commands.Recorded

/-!
# How deep aliases open aliases

`Commands.execWithin` counts down the levels that may still be opened, so it comes to an end by its
form. `Commands.Executes` tells the same from the other end: it starts at depth zero and adds one
for every alias that it opens, and nothing but a comparison with the limit keeps it from going on.
`heads_within` says that commands come to an end in this way too, whatever aliases there are, and
`executes_unique` that there is one way; `Visited` says what holds of every run on the way.
-/

namespace Switchboard

variable {σ : Type}

/-- A command that is run on the way: the names of the aliases that are being run around it, the
outermost first, the depth that is counted, the command, the world before it and its run. -/
structure Visit (σ : Type) where
  enclosing : List String
  depth : Nat
  command : String
  before : Outside σ
  run : Run σ

/-- What an alias comes to when its commands have been visited: their messages and reports put
together, and the world that the last of them left. -/
def Run.together (name : String) (direct : List (Visit σ)) (last : Outside σ) : Run σ where
  outcome := .done (String.join (direct.map (·.run.outcome.message)))
  journal := direct.flatMap fun visit ↦
    visit.run.journal ++ Alias.report name visit.command visit.run.outcome
  outside := last

namespace Commands

/-- Running commands one after the other at a depth, with the visits to these commands themselves,
with all visits on the way, and with the world in the end. A run of an alias is refused when the
depth has reached the limit. Below the limit the commands of the alias are run one level deeper. -/
inductive Executes (commands : Commands σ) :
    List String → Nat → List String → Outside σ → List (Visit σ) → List (Visit σ) → Outside σ →
      Prop where
  | nil {enclosing : List String} {depth : Nat} {before : Outside σ} :
      Executes commands enclosing depth [] before [] [] before
  | plain {enclosing rest : List String} {depth : Nat} {command : String}
      {before last : Outside σ} {run : Run σ} {others visits : List (Visit σ)} :
      commands.Plain command before run →
      Executes commands enclosing depth rest run.outside others visits last →
      Executes commands enclosing depth (command :: rest) before
        (⟨enclosing, depth, command, before, run⟩ :: others)
        (⟨enclosing, depth, command, before, run⟩ :: visits) last
  | tooDeep {enclosing rest : List String} {depth : Nat} {command description name : String}
      {template : Template} {value : Alias} {before last : Outside σ} {run : Run σ}
      {others visits : List (Visit σ)} :
      commands.route? command = some (⟨template, .runAlias, description⟩, ⟨[name]⟩) →
      commands.aliases.get? name = some value → commands.settings.maxAliasDepth ≤ depth →
      run = (Run.failed (.aliasTooDeep name commands.settings.maxAliasDepth) before).after
        (.dispatched command template.raw [name]) →
      Executes commands enclosing depth rest before others visits last →
      Executes commands enclosing depth (command :: rest) before
        (⟨enclosing, depth, command, before, run⟩ :: others)
        (⟨enclosing, depth, command, before, run⟩ :: visits) last
  | opened {enclosing rest : List String} {depth : Nat} {command description name : String}
      {template : Template} {value : Alias} {before between last : Outside σ} {run : Run σ}
      {direct inner others visits : List (Visit σ)} :
      commands.route? command = some (⟨template, .runAlias, description⟩, ⟨[name]⟩) →
      commands.aliases.get? name = some value → depth < commands.settings.maxAliasDepth →
      Executes commands (enclosing ++ [name]) (depth + 1) value.commands before direct inner
        between →
      run = (Run.together name direct between).after (.dispatched command template.raw [name]) →
      Executes commands enclosing depth rest between others visits last →
      Executes commands enclosing depth (command :: rest) before
        (⟨enclosing, depth, command, before, run⟩ :: others)
        (⟨enclosing, depth, command, before, run⟩ :: (inner ++ visits)) last

variable {commands : Commands σ} {enclosing texts : List String} {depth levels : Nat}
  {before last : Outside σ} {direct visits : List (Visit σ)}

/-- A run of a command at a depth can be put in front of any commands that are run after it. -/
def Heads (commands : Commands σ) (enclosing : List String) (depth : Nat) (command : String)
    (before : Outside σ) (run : Run σ) : Prop :=
  ∃ inner, ∀ rest others visits last,
    commands.Executes enclosing depth rest run.outside others visits last →
    commands.Executes enclosing depth (command :: rest) before
      (⟨enclosing, depth, command, before, run⟩ :: others)
      (⟨enclosing, depth, command, before, run⟩ :: (inner ++ visits)) last

/-- Commands that can each be run at a depth can be run one after the other there. The runner of
aliases makes of them what their visits come to. -/
theorem executes_of_heads {exec : String → Outside σ → Run σ}
    (hheads : ∀ command before,
      commands.Heads enclosing depth command before (exec command before))
    (texts : List String) (before : Outside σ) :
    ∃ direct visits last, commands.Executes enclosing depth texts before direct visits last ∧
      (∀ visit ∈ direct, visit.run = exec visit.command visit.before) ∧
      ∀ name, Alias.runAll exec name texts before =
        (String.join (direct.map (·.run.outcome.message)),
          (Run.together name direct last).journal, last) := by
  induction texts generalizing before with
  | nil => exact ⟨[], [], before, .nil, by simp, fun name ↦ rfl⟩
  | cons command rest ih =>
      obtain ⟨others, visits, last, hrest, hruns, htogether⟩ := ih (exec command before).outside
      obtain ⟨inner, hhead⟩ := hheads command before
      refine ⟨_, _, last, hhead _ _ _ _ hrest, List.forall_mem_cons.mpr ⟨rfl, hruns⟩, ?_⟩
      intro name
      simp only [Alias.runAll, htogether, List.map_cons, String.join_cons, Run.together,
        List.flatMap_cons]

/-- A command that runs no alias can be run at every depth. -/
theorem heads_plain {command : String} {run : Run σ} (hplain : commands.Plain command before run) :
    commands.Heads enclosing depth command before run :=
  ⟨[], fun _ _ _ _ hrest ↦ .plain hplain hrest⟩

/-- With as many levels left as there are between the depth and the limit, every command can be
run, and comes to what it comes to when levels are counted down. -/
theorem heads_within (commands : Commands σ) (hlevels : depth + levels =
    commands.settings.maxAliasDepth) (enclosing : List String) (command : String)
    (before : Outside σ) :
    commands.Heads enclosing depth command before
      (commands.execWithin levels command before) := by
  induction levels generalizing enclosing depth command before with
  | zero =>
      cases hrun : commands.aliasRun? command with
      | none => exact heads_plain (exec_within_plain hrun 0 before)
      | some run =>
          obtain ⟨name, value⟩ := run
          obtain ⟨template, description, hroute, hwithin⟩ := exec_within_alias hrun
          rw [hwithin]
          have hlimit : commands.settings.maxAliasDepth ≤ depth := Nat.le_of_eq hlevels.symm
          exact ⟨[], fun _ _ _ _ hrest ↦
            .tooDeep hroute (alias_run_iff.mp hrun).2 hlimit rfl hrest⟩
  | succ levels ih =>
      cases hrun : commands.aliasRun? command with
      | none => exact heads_plain (exec_within_plain hrun _ before)
      | some run =>
          obtain ⟨name, value⟩ := run
          obtain ⟨template, description, hroute, hwithin⟩ := exec_within_alias hrun
          rw [hwithin]
          have hbelow : depth < commands.settings.maxAliasDepth := by omega
          have hdeeper : depth + 1 + levels = commands.settings.maxAliasDepth := by omega
          obtain ⟨direct, inner, between, hinner, -, htogether⟩ :=
            executes_of_heads (ih hdeeper (enclosing ++ [name])) value.commands before
          have hentered : commands.enter (levels + 1) name value before =
              Run.together name direct between := by
            simp only [enter, htogether]
            rfl
          rw [hentered]
          exact ⟨inner, fun _ _ _ _ hrest ↦
            .opened hroute (alias_run_iff.mp hrun).2 hbelow hinner rfl hrest⟩

/-- Commands are run in one way. -/
theorem executes_unique {others more : List (Visit σ)} {after : Outside σ}
    (hfirst : commands.Executes enclosing depth texts before direct visits last)
    (hsecond : commands.Executes enclosing depth texts before others more after) :
    direct = others ∧ visits = more ∧ last = after := by
  induction hfirst generalizing others more after with
  | nil =>
      cases hsecond
      exact ⟨rfl, rfl, rfl⟩
  | plain hplain hrest ih =>
      cases hsecond with
      | plain hother hothers =>
          cases plain_unique hplain hother
          obtain ⟨rfl, rfl, rfl⟩ := ih hothers
          exact ⟨rfl, rfl, rfl⟩
      | tooDeep hroute hvalue =>
          cases (plain_alias_run hplain).symm.trans (alias_run_of_route hroute hvalue)
      | opened hroute hvalue =>
          cases (plain_alias_run hplain).symm.trans (alias_run_of_route hroute hvalue)
  | tooDeep hroute hvalue hlimit hrun hrest ih =>
      cases hsecond with
      | plain hother =>
          cases (plain_alias_run hother).symm.trans (alias_run_of_route hroute hvalue)
      | tooDeep hother _ _ hsame hothers =>
          cases hroute.symm.trans hother
          obtain ⟨rfl, rfl, rfl⟩ := ih hothers
          rw [hrun, hsame]
          exact ⟨rfl, rfl, rfl⟩
      | opened _ _ hbelow => exact absurd hbelow (Nat.not_lt.mpr hlimit)
  | opened hroute hvalue hbelow hinner hrun hrest ihinner ihrest =>
      cases hsecond with
      | plain hother =>
          cases (plain_alias_run hother).symm.trans (alias_run_of_route hroute hvalue)
      | tooDeep _ _ hlimit => exact absurd hbelow (Nat.not_lt.mpr hlimit)
      | opened hother hsame _ hwithin hcame hothers =>
          cases hroute.symm.trans hother
          cases hvalue.symm.trans hsame
          obtain ⟨rfl, rfl, rfl⟩ := ihinner hwithin
          obtain ⟨rfl, rfl, rfl⟩ := ihrest hothers
          rw [hrun, hcame]
          exact ⟨rfl, rfl, rfl⟩

/-- Every command is visited itself, in order and whatever the others come to. -/
theorem executes_direct
    (h : commands.Executes enclosing depth texts before direct visits last) :
    direct.Sublist visits ∧ direct.map (·.command) = texts ∧
      ∀ visit ∈ direct, visit.enclosing = enclosing := by
  induction h with
  | nil => exact ⟨.slnil, rfl, by simp⟩
  | plain _ _ ih | tooDeep _ _ _ _ _ ih =>
      obtain ⟨hsublist, htexts, hplace⟩ := ih
      refine ⟨hsublist.cons_cons _, by rw [List.map_cons, htexts], ?_⟩
      exact List.forall_mem_cons.mpr ⟨rfl, hplace⟩
  | opened _ _ _ _ _ _ _ ih =>
      obtain ⟨hsublist, htexts, hplace⟩ := ih
      refine ⟨(hsublist.trans (List.sublist_append_right ..)).cons_cons _,
        by rw [List.map_cons, htexts], ?_⟩
      exact List.forall_mem_cons.mpr ⟨rfl, hplace⟩

/-- What is known of a visit: the depth counts the aliases around it and does not exceed the limit,
and its command is run there, with visits that are among the given ones. -/
structure Visited (commands : Commands σ) (among : List (Visit σ)) (visit : Visit σ) : Prop where
  depth_eq : visit.depth = visit.enclosing.length
  depth_le : visit.depth ≤ commands.settings.maxAliasDepth
  executes : ∃ inner, inner.Sublist among ∧
    commands.Executes visit.enclosing visit.depth [visit.command] visit.before [visit]
      (visit :: inner) visit.run.outside

/-- What is known of a visit among some visits is known of it among more. -/
theorem Visited.mono {among more : List (Visit σ)} {visit : Visit σ}
    (h : commands.Visited among visit) (hmore : among.Sublist more) :
    commands.Visited more visit := by
  obtain ⟨hdepth, hlimit, inner, hinner, hexecutes⟩ := h
  exact ⟨hdepth, hlimit, inner, hinner.trans hmore, hexecutes⟩

/-- The depth is counted right on all visits. -/
theorem visited_executes (h : commands.Executes enclosing depth texts before direct visits last)
    (hdepth : depth = enclosing.length) (hlimit : depth ≤ commands.settings.maxAliasDepth) :
    ∀ visit ∈ visits, commands.Visited visits visit := by
  induction h with
  | nil => simp
  | plain hplain _ ih =>
      refine List.forall_mem_cons.mpr ⟨?_, fun visit hmem ↦ ?_⟩
      · exact ⟨hdepth, hlimit, [], List.nil_sublist _, .plain hplain .nil⟩
      · exact (ih hdepth hlimit visit hmem).mono (List.sublist_cons_self ..)
  | tooDeep hroute hvalue hreached hrun _ ih =>
      refine List.forall_mem_cons.mpr ⟨?_, fun visit hmem ↦ ?_⟩
      · refine ⟨hdepth, hlimit, [], List.nil_sublist _, ?_⟩
        subst hrun
        exact .tooDeep hroute hvalue hreached rfl .nil
      · exact (ih hdepth hlimit visit hmem).mono (List.sublist_cons_self ..)
  | @opened enclosing _ depth _ _ name _ _ _ _ _ _ _ inner _ _ hroute hvalue hbelow hinner hrun _
      ihinner ihrest =>
      have hdeeper : depth + 1 = (enclosing ++ [name]).length := by
        rw [List.length_append, ← hdepth]
        rfl
      refine List.forall_mem_cons.mpr ⟨?_, fun visit hmem ↦ ?_⟩
      · refine ⟨hdepth, hlimit, inner, (List.sublist_append_left ..).cons _, ?_⟩
        subst hrun
        have hexecutes := Executes.opened hroute hvalue hbelow hinner rfl .nil
        rwa [List.append_nil] at hexecutes
      · rcases List.mem_append.mp hmem with hthere | hlater
        · exact (ihinner hdeeper hbelow visit hthere).mono ((List.sublist_append_left ..).cons _)
        · exact (ihrest hdepth hlimit visit hlater).mono ((List.sublist_append_right ..).cons _)

/-- A visit comes to what its command comes to with the levels that are left there. -/
theorem visited_run {among : List (Visit σ)} {visit : Visit σ} (h : commands.Visited among visit) :
    visit.run = commands.execWithin (commands.settings.maxAliasDepth - visit.depth) visit.command
      visit.before := by
  obtain ⟨-, hlimit, inner, -, hexecutes⟩ := h
  obtain ⟨others, hwithin⟩ := heads_within commands (Nat.add_sub_of_le hlimit) visit.enclosing
    visit.command visit.before
  obtain ⟨hvisit, -⟩ := executes_unique hexecutes (hwithin _ _ _ _ .nil)
  exact congrArg Visit.run (List.singleton_inj.mp hvisit)

/-- A visit to a run of an alias opens the alias below the limit, and is refused at it. -/
theorem visited_alias {among : List (Visit σ)} {visit : Visit σ} (h : commands.Visited among visit)
    {name : String} {value : Alias} (hrun : commands.aliasRun? visit.command = some (name, value)) :
    if visit.enclosing.length < commands.settings.maxAliasDepth then
      ∃ direct inner : List (Visit σ), inner.Sublist among ∧
        commands.Executes (visit.enclosing ++ [name]) (visit.depth + 1) value.commands visit.before
          direct inner visit.run.outside ∧
        direct.Sublist inner ∧ direct.map (·.command) = value.commands ∧
        (∀ other ∈ direct, other.enclosing = visit.enclosing ++ [name]) ∧
        visit.run.outcome = .done (String.join (direct.map (·.run.outcome.message)))
    else
      visit.run.outcome = .failed (.aliasTooDeep name commands.settings.maxAliasDepth) ∧
      visit.run.outside = visit.before := by
  obtain ⟨hdepth, -, inner, hinner, hexecutes⟩ := h
  rw [← hdepth]
  obtain ⟨enclosing, depth, command, before, run⟩ := visit
  cases hexecutes with
  | plain hplain => cases (plain_alias_run hplain).symm.trans hrun
  | tooDeep hroute hvalue hlimit hcame =>
      cases (alias_run_of_route hroute hvalue).symm.trans hrun
      rw [if_neg (Nat.not_lt.mpr hlimit), hcame]
      exact ⟨rfl, rfl⟩
  | opened hroute hvalue hbelow hwithin hcame hrest =>
      cases (alias_run_of_route hroute hvalue).symm.trans hrun
      cases hrest
      rw [if_pos hbelow, hcame]
      obtain ⟨hsublist, htexts, hplace⟩ := executes_direct hwithin
      rw [List.append_nil] at hinner
      exact ⟨_, _, hinner, hwithin, hsublist, htexts, hplace, rfl⟩

/-- A visit to a run of an alias that is not defined says so. -/
theorem visited_unknown {among : List (Visit σ)} {visit : Visit σ}
    (h : commands.Visited among visit) {name : String}
    (hname : commands.aliasName? visit.command = some name)
    (hunknown : commands.aliases.get? name = none) :
    visit.run.outcome = .failed (.unknownAlias name) := by
  obtain ⟨template, description, hroute⟩ := alias_name_iff.mp hname
  rw [visited_run h, exec_within_route, hroute]
  simp only [runAlias, hunknown]
  rfl

/-- A run of an alias calls no handler when no level may be opened. -/
theorem calls_within_zero {command name : String} {value : Alias}
    (hrun : commands.aliasRun? command = some (name, value)) (outside : Outside σ) :
    commands.callsWithin 0 command outside = [] := by
  rw [← alias_run_recorded] at hrun
  obtain ⟨template, description, -, hwithin⟩ := exec_within_alias hrun
  rw [callsWithin, hwithin]
  rfl

/-- Running a command comes to an end whatever aliases there are, also if they run each other in a
circle, and there is one way to the end. The depth counts the aliases that are being run around a
command and never exceeds the limit, so that one more than the depth of a run that opens an alias
does not exceed it either. A name that is not defined is reported at every depth. A run of a defined
alias is opened just if fewer aliases than the limit are being run around it: then all its commands
are run, in order and whatever each comes to. Otherwise it reports the alias and the limit, and
calls no handler. -/
theorem alias_depth_bounded (commands : Commands σ) (command : String) (outside : Outside σ) :
    let limit := commands.settings.maxAliasDepth
    let top : Visit σ := ⟨[], 0, command, outside, commands.exec command outside⟩
    ∃ visits, commands.Executes [] 0 [command] outside [top] visits top.run.outside ∧
      (∀ direct others last, commands.Executes [] 0 [command] outside direct others last →
        direct = [top] ∧ others = visits ∧ last = top.run.outside) ∧
      ∀ visit ∈ visits,
        visit.depth = visit.enclosing.length ∧ visit.depth ≤ limit ∧
        visit.run = commands.execWithin (limit - visit.depth) visit.command visit.before ∧
        (∀ name, commands.aliasName? visit.command = some name →
          commands.aliases.get? name = none →
          visit.run.outcome = .failed (.unknownAlias name)) ∧
        (∀ name value, commands.aliasRun? visit.command = some (name, value) →
          if visit.enclosing.length < limit then
            visit.depth + 1 ≤ limit ∧
            ∃ direct inner : List (Visit σ), inner.Sublist visits ∧
              commands.Executes (visit.enclosing ++ [name]) (visit.depth + 1) value.commands
                visit.before direct inner visit.run.outside ∧
              direct.Sublist inner ∧ direct.map (·.command) = value.commands ∧
              (∀ other ∈ direct, other.enclosing = visit.enclosing ++ [name]) ∧
              visit.run.outcome = .done (String.join (direct.map (·.run.outcome.message)))
          else
            visit.run.outcome = .failed (.aliasTooDeep name limit) ∧
            visit.run.outside = visit.before ∧
            commands.callsWithin (limit - visit.depth) visit.command visit.before = []) := by
  intro limit top
  obtain ⟨inner, hwithin⟩ := heads_within commands (Nat.zero_add limit) [] command outside
  have hexecutes := hwithin [] [] [] _ .nil
  refine ⟨_, hexecutes, fun direct others last h ↦ executes_unique h hexecutes, ?_⟩
  intro visit hmem
  have hvisited := visited_executes hexecutes rfl (Nat.zero_le limit) visit hmem
  refine ⟨hvisited.depth_eq, hvisited.depth_le, visited_run hvisited,
    fun name hname hunknown ↦ visited_unknown hvisited hname hunknown, fun name value hrun ↦ ?_⟩
  have halias := visited_alias hvisited hrun
  rw [← hvisited.depth_eq] at halias ⊢
  split at halias
  · rename_i hbelow
    rw [if_pos hbelow]
    exact ⟨hbelow, halias⟩
  · rename_i hreached
    rw [if_neg hreached]
    have hnone : limit - visit.depth = 0 := Nat.sub_eq_zero_of_le (Nat.le_of_not_lt hreached)
    rw [hnone]
    exact ⟨halias.1, halias.2, calls_within_zero hrun visit.before⟩

/-- An alias runs itself and then a name that is not defined, and two levels may be opened. -/
def sampleCircle : Commands Unit where
  settings := { maxAliasDepth := 2 }
  routes := (Routes.empty.insert aliasRoute).2.2
  aliases := .ofList [("loop", ⟨["vrun loop", "vrun none"], ""⟩)]

/-- Two levels down in the sample circle the alias is refused, and what follows it is still run. -/
theorem sample_circle_ends :
    ∃ visits, sampleCircle.Executes [] 0 ["vrun loop"] (.new ())
        [⟨[], 0, "vrun loop", .new (), sampleCircle.exec "vrun loop" (.new ())⟩] visits (.new ()) ∧
      (∃ visit ∈ visits, visit.depth = 2 ∧
        visit.run.outcome = .failed (.aliasTooDeep "loop" 2)) ∧
      ∃ visit ∈ visits, visit.depth = 2 ∧
        visit.run.outcome = .failed (.unknownAlias "none") := by
  obtain ⟨visits, hexecutes, -, hvisits⟩ :=
    alias_depth_bounded sampleCircle "vrun loop" (.new ())
  have hloop : sampleCircle.aliasRun? "vrun loop" =
      some ("loop", ⟨["vrun loop", "vrun none"], ""⟩) := by decide
  -- Above the limit a visit to the alias visits the alias again, and the other name.
  have hdown (visit : Visit Unit) (hmem : visit ∈ visits) (hcommand : visit.command = "vrun loop")
      (hbelow : visit.depth < 2) (text : String) (htext : text ∈ ["vrun loop", "vrun none"]) :
      ∃ next ∈ visits, next.command = text ∧ next.depth = visit.depth + 1 := by
    obtain ⟨hdepth, -, -, -, halias⟩ := hvisits visit hmem
    have hopened := halias _ _ ((congrArg _ hcommand).trans hloop)
    rw [if_pos (hdepth ▸ hbelow)] at hopened
    obtain ⟨-, direct, inner, hinner, -, hdirect, htexts, hplace, -⟩ := hopened
    have hvisited : text ∈ direct.map (·.command) := htexts ▸ htext
    obtain ⟨next, hnext, rfl⟩ := List.mem_map.mp hvisited
    have hthere := (hdirect.trans hinner).subset hnext
    refine ⟨next, hthere, rfl, ?_⟩
    rw [(hvisits next hthere).1, hplace next hnext, List.length_append, ← hdepth]
    rfl
  have htop := (executes_direct hexecutes).1.subset (List.mem_singleton_self _)
  obtain ⟨first, hfirst, hagain, hone⟩ := hdown _ htop rfl (by decide) "vrun loop" (by decide)
  have hbelow : first.depth < 2 := by rw [hone]; decide
  refine ⟨visits, hexecutes, ?_, ?_⟩
  · obtain ⟨last, hlast, hcommand, hdepth⟩ :=
      hdown first hfirst hagain hbelow "vrun loop" (by decide)
    obtain ⟨hcount, -, -, -, halias⟩ := hvisits last hlast
    have hrefused := halias _ _ ((congrArg _ hcommand).trans hloop)
    rw [if_neg (by rw [← hcount, hdepth, hone]; decide)] at hrefused
    exact ⟨last, hlast, by rw [hdepth, hone], hrefused.1⟩
  · obtain ⟨last, hlast, hcommand, hdepth⟩ :=
      hdown first hfirst hagain hbelow "vrun none" (by decide)
    obtain ⟨-, -, -, hunknown, -⟩ := hvisits last hlast
    have hname : sampleCircle.aliasName? last.command = some "none" := by
      rw [hcommand]
      decide
    exact ⟨last, hlast, by rw [hdepth, hone], hunknown "none" hname (by decide)⟩

end Commands

end Switchboard
