import Mathlib.Data.List.Basic
import Switchboard.Proofs.Commands.Descent

/-!
# What is reported about the commands of aliases

A run of an alias is done whatever its commands come to, so the journal alone tells what went wrong
in it. `Commands.Executes` lists the commands that are run in the order in which they are begun;
`Visit.completed` puts them in the order in which they come to an end, which is the order of the
reports. `failures_reported` says that there is one report for each command of an alias that failed
or stayed pending, by the innermost alias around it, and that nothing else is a warning.
-/

namespace Switchboard

variable {σ : Type}

/-- The warnings among events. -/
def warnings (journal : List Event) : List Event :=
  journal.filter fun event ↦ event.level = .warn

/-- The fault that an event reports about a command of an alias. -/
def Event.fault? : Event → Option CommandFault
  | .aliasCommandFailed _ _ fault => some fault
  | _ => none

namespace Visit

/-- What is to be reported about a command that was run: nothing if it was not run by an alias, and
otherwise what the innermost alias around it reports. -/
def report (visit : Visit σ) : List Event :=
  match visit.enclosing.getLast? with
  | none => []
  | some name => Alias.report name visit.command visit.run.outcome

/-- Commands that are listed in the order in which they are begun, in the order in which they come
to an end: those that are run deeper behind a command come to an end before it. -/
def completed : List (Visit σ) → List (Visit σ)
  | [] => []
  | visit :: rest =>
    completed (rest.takeWhile fun other ↦ visit.depth < other.depth) ++
      visit :: completed (rest.dropWhile fun other ↦ visit.depth < other.depth)
termination_by visits => visits.length
decreasing_by
  · exact Nat.lt_succ_of_le (List.takeWhile_sublist _).length_le
  · exact Nat.lt_succ_of_le (List.dropWhile_sublist _).length_le

/-- All commands come to an end. -/
theorem completed_perm (visits : List (Visit σ)) : (completed visits).Perm visits := by
  fun_induction completed visits with
  | case1 => exact .nil
  | case2 visit rest ihinner ihlater =>
      refine List.perm_middle.trans (.cons _ ?_)
      have hboth := ihinner.append ihlater
      rwa [List.takeWhile_append_dropWhile] at hboth

/-- A command comes to an end behind those that are run in it and before those that are begun
later. -/
theorem completed_cons (visit : Visit σ) (inner later : List (Visit σ))
    (hinner : ∀ other ∈ inner, visit.depth < other.depth)
    (hlater : ∀ other ∈ later.head?, other.depth ≤ visit.depth) :
    completed (visit :: (inner ++ later)) = completed inner ++ visit :: completed later := by
  have hdeeper : ∀ other ∈ inner, decide (visit.depth < other.depth) = true := by simpa using hinner
  have hnone : later.takeWhile (fun other ↦ visit.depth < other.depth) = [] ∧
      later.dropWhile (fun other ↦ visit.depth < other.depth) = later := by
    cases later with
    | nil => exact ⟨rfl, rfl⟩
    | cons other rest =>
        have hother : ¬ visit.depth < other.depth := Nat.not_lt.mpr (hlater other rfl)
        simp [hother]
  rw [completed, List.takeWhile_append_of_pos hdeeper, List.dropWhile_append_of_pos hdeeper,
    hnone.1, hnone.2, List.append_nil]

/-- What is reported about a command of an alias is what the innermost alias reports. -/
theorem report_inside {visit : Visit σ} {name : String}
    (hinnermost : visit.enclosing.getLast? = some name) :
    visit.report = Alias.report name visit.command visit.run.outcome := by
  rw [report, hinnermost]

/-- Around a command of an alias there is an innermost alias. -/
theorem innermost_inside {visit : Visit σ} (hinside : visit.enclosing ≠ []) :
    ∃ name, visit.enclosing.getLast? = some name :=
  ⟨_, List.getLast?_eq_some_getLast hinside⟩

/-- About a command of an alias a fault is reported just if the command fails for it. -/
theorem faults_report {visit : Visit σ} (hinside : visit.enclosing ≠ []) (fault : CommandFault) :
    (visit.report.filterMap Event.fault?).count fault =
      if visit.run.outcome = .failed fault then 1 else 0 := by
  obtain ⟨name, hinnermost⟩ := innermost_inside hinside
  rw [report_inside hinnermost]
  cases visit.run.outcome with
  | done | pending =>
      rw [if_neg nofun]
      simp [Alias.report, Event.fault?, List.filterMap_cons]
  | failed other => simp [Alias.report, Event.fault?, List.count_singleton]

/-- A fault is reported as often as commands of aliases fail for it. -/
theorem count_reports {visits : List (Visit σ)} (hinside : ∀ visit ∈ visits, visit.enclosing ≠ [])
    (fault : CommandFault) :
    ((visits.flatMap report).filterMap Event.fault?).count fault =
      visits.countP fun visit ↦ visit.run.outcome = .failed fault := by
  induction visits with
  | nil => rfl
  | cons visit rest ih =>
      obtain ⟨hvisit, hrest⟩ := List.forall_mem_cons.mp hinside
      rw [List.flatMap_cons, List.filterMap_append, List.count_append, ih hrest, List.countP_cons,
        faults_report hvisit, Nat.add_comm]
      simp only [decide_eq_true_eq]

end Visit

namespace Commands

variable {commands : Commands σ} {enclosing texts : List String} {depth : Nat} {command : String}
  {before last : Outside σ} {direct visits : List (Visit σ)} {run : Run σ}

/-- No command is begun at a smaller depth than those that are run one after the other. -/
theorem executes_depth (h : commands.Executes enclosing depth texts before direct visits last) :
    ∀ visit ∈ visits, depth ≤ visit.depth := by
  induction h with
  | nil => exact nofun
  | plain _ _ ih | tooDeep _ _ _ _ _ ih => exact List.forall_mem_cons.mpr ⟨Nat.le_refl _, ih⟩
  | opened _ _ _ _ _ _ ihinner ih =>
      refine List.forall_mem_cons.mpr ⟨Nat.le_refl _, fun visit hmem ↦ ?_⟩
      rcases List.mem_append.mp hmem with hthere | hlater
      · exact Nat.le_of_succ_le (ihinner visit hthere)
      · exact ih visit hlater

/-- The first command that is begun is one of those that are run one after the other. -/
theorem executes_head (h : commands.Executes enclosing depth texts before direct visits last) :
    ∀ visit ∈ visits.head?, visit.depth = depth := by
  cases h with
  | nil => exact nofun
  | plain | tooDeep | opened =>
      intro visit hvisit
      obtain rfl := Option.mem_some_iff.mp hvisit
      rfl

/-- A command that runs no alias gives no warning. -/
theorem warnings_plain (hplain : commands.Plain command before run) :
    warnings run.journal = [] := by
  cases hplain <;> rfl

/-- An alias gives the warnings of its commands, each with what it reports about the command. -/
theorem warnings_together (name : String) (direct : List (Visit σ)) (last : Outside σ) :
    warnings (Run.together name direct last).journal =
      direct.flatMap fun visit ↦
        warnings visit.run.journal ++ Alias.report name visit.command visit.run.outcome := by
  have hreport : ∀ command outcome,
      warnings (Alias.report name command outcome) = Alias.report name command outcome := by
    intro command outcome
    cases outcome <;> rfl
  have hvisit : (fun visit : Visit σ ↦
        warnings (visit.run.journal ++ Alias.report name visit.command visit.run.outcome)) =
      fun visit ↦
        warnings visit.run.journal ++ Alias.report name visit.command visit.run.outcome := by
    funext visit
    rw [warnings, List.filter_append]
    exact congrArg _ (hreport visit.command visit.run.outcome)
  rw [← hvisit, Run.together, warnings, List.filter_flatMap]
  rfl

/-- When commands are run one after the other, their warnings and what is to be reported about
themselves are the reports about all commands that are run on the way, in the order in which these
come to an end. -/
theorem warnings_executes
    (h : commands.Executes enclosing depth texts before direct visits last) :
    (direct.flatMap fun visit ↦ warnings visit.run.journal ++ visit.report) =
      (Visit.completed visits).flatMap Visit.report := by
  -- A command without commands in it gives no warning, and comes to an end at once.
  have hsingle {enclosing rest : List String} {depth : Nat} {command : String}
      {before between last : Outside σ} {run : Run σ} {others visits : List (Visit σ)}
      (hnone : warnings run.journal = [])
      (hrest : commands.Executes enclosing depth rest between others visits last)
      (ih : (others.flatMap fun visit ↦ warnings visit.run.journal ++ visit.report) =
        (Visit.completed visits).flatMap Visit.report) :
      ((⟨enclosing, depth, command, before, run⟩ :: others).flatMap fun visit ↦
          warnings visit.run.journal ++ visit.report) =
        (Visit.completed (⟨enclosing, depth, command, before, run⟩ :: visits)).flatMap
          Visit.report := by
    have hend := Visit.completed_cons ⟨enclosing, depth, command, before, run⟩ [] visits nofun
      fun other hother ↦ Nat.le_of_eq (executes_head hrest other hother)
    rw [List.nil_append] at hend
    rw [hend, Visit.completed, List.nil_append, List.flatMap_cons, List.flatMap_cons, ih, hnone]
    rfl
  induction h with
  | nil => simp [Visit.completed]
  | plain hplain hrest ih => exact hsingle (warnings_plain hplain) hrest ih
  | tooDeep _ _ _ hrun hrest ih =>
      subst hrun
      exact hsingle rfl hrest ih
  | @opened enclosing _ depth command _ name template _ before between _ run direct inner others
      visits _ _ _ hinner hrun hrest ihinner ih =>
      have hend := Visit.completed_cons ⟨enclosing, depth, command, before, run⟩ inner visits
        (fun other hother ↦ executes_depth hinner other hother)
        fun other hother ↦ Nat.le_of_eq (executes_head hrest other hother)
      have hreports : (direct.flatMap fun visit ↦
          warnings visit.run.journal ++ Alias.report name visit.command visit.run.outcome) =
          direct.flatMap fun visit ↦ warnings visit.run.journal ++ visit.report := by
        refine List.flatMap_congr fun visit hmem ↦ ?_
        have hplace := (executes_direct hinner).2.2 visit hmem
        rw [Visit.report_inside (hplace ▸ List.getLast?_concat)]
      have hwarnings : warnings ((Run.together name direct between).after
          (.dispatched command template.raw [name])).journal =
          (Visit.completed inner).flatMap Visit.report := by
        rw [← ihinner, ← hreports, ← warnings_together name direct between]
        rfl
      subst hrun
      rw [hend, List.flatMap_append, List.flatMap_cons, List.flatMap_cons, hwarnings, ih,
        List.append_assoc]

/-- What is run behind a command that was to be run alone is run deeper. -/
theorem executes_behind {visit : Visit σ} {inner : List (Visit σ)}
    (h : commands.Executes enclosing depth [command] before [visit] (visit :: inner) last) :
    ∀ other ∈ inner, depth < other.depth := by
  cases h with
  | plain _ hrest | tooDeep _ _ _ _ hrest =>
      cases hrest
      exact nofun
  | opened _ _ _ hinner _ hrest =>
      cases hrest
      intro other hmem
      rw [List.append_nil] at hmem
      exact executes_depth hinner other hmem

/-- A command that is not done in the end gives no warning: it ran no alias, or was refused. -/
theorem warnings_top (commands : Commands σ) (command : String) (before : Outside σ)
    (hfailed : ∀ message, (commands.exec command before).outcome ≠ .done message) :
    warnings (commands.exec command before).journal = [] := by
  rw [exec] at hfailed ⊢
  cases hrun : commands.aliasRun? command with
  | none => exact warnings_plain (exec_within_plain hrun _ before)
  | some found =>
      obtain ⟨name, value⟩ := found
      obtain ⟨template, description, -, hwithin⟩ := exec_within_alias hrun
      rw [hwithin] at hfailed ⊢
      cases hlevels : commands.settings.maxAliasDepth with
      | zero => rfl
      | succ levels =>
          rw [hlevels] at hfailed
          exact absurd rfl (hfailed _)

/-- What is reported about a command of an alias, by the innermost alias around it. If the command
runs an alias itself, that is nothing when the alias is opened, and otherwise why it is not. -/
theorem report_visited {among : List (Visit σ)} {visit : Visit σ}
    (h : commands.Visited among visit) (hinside : visit.enclosing ≠ []) :
    let limit := commands.settings.maxAliasDepth
    ∃ innermost, visit.enclosing.getLast? = some innermost ∧
      visit.report = Alias.report innermost visit.command visit.run.outcome ∧
      (∀ name, commands.aliasName? visit.command = some name → commands.aliases.get? name = none →
        visit.report = [.aliasCommandFailed innermost visit.command (.unknownAlias name)]) ∧
      ∀ name value, commands.aliasRun? visit.command = some (name, value) →
        visit.report =
          if visit.depth < limit then []
          else [.aliasCommandFailed innermost visit.command (.aliasTooDeep name limit)] := by
  intro limit
  obtain ⟨innermost, hinnermost⟩ := Visit.innermost_inside hinside
  have hreport := Visit.report_inside hinnermost
  refine ⟨innermost, hinnermost, hreport, ?_, ?_⟩
  · intro name hname hunknown
    rw [hreport, visited_unknown h hname hunknown]
    rfl
  · intro name value hrun
    have halias := visited_alias h hrun
    rw [← h.depth_eq] at halias
    by_cases hbelow : visit.depth < limit
    · rw [if_pos hbelow] at halias
      obtain ⟨direct, -, -, -, -, -, -, hdone⟩ := halias
      rw [if_pos hbelow, hreport, hdone]
      rfl
    · rw [if_neg hbelow] at halias
      rw [if_neg hbelow, hreport, halias.1]
      rfl

/-- Running a command comes to an end in one way, with the command itself and with commands of
aliases. The warnings on the way are what is reported about these, in the order in which they come
to an end and with nothing in between: the innermost alias around a command reports that it failed,
and for what, or that it stayed pending, and is silent about a command that is done. So every fault
is reported as often as commands of aliases fail for it. A command that opens an alias is done
whatever fails in it, so that nothing is reported twice, and a name that is not defined and an alias
that is too deep are each reported by the alias that ran them. If the command itself is not done,
there is no warning at all. -/
theorem failures_reported (commands : Commands σ) (command : String) (before : Outside σ) :
    let limit := commands.settings.maxAliasDepth
    let top : Visit σ := ⟨[], 0, command, before, commands.exec command before⟩
    ∃ inner, commands.Executes [] 0 [command] before [top] (top :: inner) top.run.outside ∧
      (∀ direct visits last, commands.Executes [] 0 [command] before direct visits last →
        visits = top :: inner) ∧
      Visit.completed (top :: inner) = Visit.completed inner ++ [top] ∧
      (Visit.completed inner).Perm inner ∧
      warnings top.run.journal = (Visit.completed inner).flatMap Visit.report ∧
      (∀ fault, ((warnings top.run.journal).filterMap Event.fault?).count fault =
        inner.countP fun visit ↦ visit.run.outcome = .failed fault) ∧
      (∀ visit ∈ inner, ∃ innermost, visit.enclosing.getLast? = some innermost ∧
        visit.report = Alias.report innermost visit.command visit.run.outcome ∧
        (∀ name, commands.aliasName? visit.command = some name →
          commands.aliases.get? name = none →
          visit.report = [.aliasCommandFailed innermost visit.command (.unknownAlias name)]) ∧
        ∀ name value, commands.aliasRun? visit.command = some (name, value) →
          visit.report =
            if visit.depth < limit then []
            else [.aliasCommandFailed innermost visit.command (.aliasTooDeep name limit)]) ∧
      ((∀ message, top.run.outcome ≠ .done message) → warnings top.run.journal = []) := by
  intro limit top
  obtain ⟨inner, hwithin⟩ := heads_within commands (Nat.zero_add limit) [] command before
  have hexecutes :
      commands.Executes [] 0 [command] before [top] (top :: inner) top.run.outside := by
    have hone := hwithin [] [] [] _ .nil
    rwa [List.append_nil] at hone
  have hdeeper : ∀ visit ∈ inner, 0 < visit.depth := executes_behind hexecutes
  have hvisited (visit : Visit σ) (hmem : visit ∈ inner) :=
    visited_executes hexecutes rfl (Nat.zero_le limit) visit (List.mem_cons_of_mem _ hmem)
  have hinside : ∀ visit ∈ inner, visit.enclosing ≠ [] := by
    intro visit hmem hnil
    have hdepth := (hvisited visit hmem).depth_eq
    rw [hnil, List.length_nil] at hdepth
    exact Nat.ne_of_gt (hdeeper visit hmem) hdepth
  have hlast : Visit.completed (top :: inner) = Visit.completed inner ++ [top] := by
    have hend := Visit.completed_cons top inner [] hdeeper nofun
    rwa [List.append_nil, Visit.completed] at hend
  have hwarnings : warnings top.run.journal = (Visit.completed inner).flatMap Visit.report := by
    have hreports := warnings_executes hexecutes
    rw [hlast, List.flatMap_append] at hreports
    simpa [Visit.report, top] using hreports
  refine ⟨inner, hexecutes, fun direct visits last h ↦ (executes_unique h hexecutes).2.1, hlast,
    Visit.completed_perm inner, hwarnings, fun fault ↦ ?_,
    fun visit hmem ↦ report_visited (hvisited visit hmem) (hinside visit hmem),
    warnings_top commands command before⟩
  have hall : ∀ visit ∈ Visit.completed inner, visit.enclosing ≠ [] :=
    fun visit hmem ↦ hinside visit ((Visit.completed_perm inner).mem_iff.mp hmem)
  rw [hwarnings, Visit.count_reports hall, (Visit.completed_perm inner).countP_eq]

/-- An alias runs another one, a command that stays pending, and itself, where two levels may be
opened. The other alias runs a name that is not defined and a command that nothing takes. -/
def sampleTroubles : Commands Unit where
  settings := { maxAliasDepth := 2 }
  routes := ((Routes.empty.insert aliasRoute).2.2.insert
    { template := ⟨[.literal "wait"]⟩
      handler := .external fun _ outside ↦ (.pending (.poll 0), outside)
      description := "Wait" }).2.2
  aliases := .ofList
    [("inner", ⟨["vrun none", "go"], ""⟩), ("outer", ⟨["vrun inner", "wait", "vrun outer"], ""⟩)]

/-- What fails inside the sample alias is reported in the order in which it comes to an end, by the
alias that ran it, and the two aliases that are too deep are reported for themselves. -/
theorem sample_troubles :
    ∃ inner last, sampleTroubles.Executes [] 0 ["vrun outer"] (.new ())
        [⟨[], 0, "vrun outer", .new (), sampleTroubles.exec "vrun outer" (.new ())⟩]
        (⟨[], 0, "vrun outer", .new (), sampleTroubles.exec "vrun outer" (.new ())⟩ :: inner) last ∧
      (Visit.completed inner).flatMap Visit.report =
        [.aliasCommandFailed "inner" "vrun none" (.unknownAlias "none"),
          .aliasCommandFailed "inner" "go" (.noHandler "go"),
          .aliasCommandPending "outer" "wait",
          .aliasCommandFailed "outer" "vrun inner" (.aliasTooDeep "inner" 2),
          .aliasCommandPending "outer" "wait",
          .aliasCommandFailed "outer" "vrun outer" (.aliasTooDeep "outer" 2)] ∧
      inner.countP (fun visit ↦ visit.run.outcome = .failed (.aliasTooDeep "outer" 2)) = 1 := by
  obtain ⟨inner, hexecutes, -, -, -, hwarnings, hcount, -⟩ :=
    failures_reported sampleTroubles "vrun outer" (.new ())
  refine ⟨inner, _, hexecutes, hwarnings.symm.trans (by decide), ?_⟩
  exact (hcount (.aliasTooDeep "outer" 2)).symm.trans (by decide)

end Commands

end Switchboard
