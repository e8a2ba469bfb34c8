import Switchboard.Console.Script
import Switchboard.Proofs.Console.Session
import Switchboard.Proofs.Text.Lines

/-!
# Every command is accounted for

While commands run asynchronously each of them is answered, is pending, or is refused, and what is
pending has to arrive before the end. `Session.Account` says this of a list of orders and the lines
that they lead to, step by step; `Session.Accounted` adds what it means for the lines alone.
`asynchronous_accounts` says that the console accounts for its commands whatever the course of time
is, unless it gives up a wait. While commands are run one after the other until each is settled none
is refused (`Session.Settles`).
-/

namespace Switchboard.Console

namespace Session

/-! ### Accounts -/

/-- Lines account for orders, given what is outstanding: every order is taken in its turn, what is
outstanding may arrive at any time, and in the end nothing is outstanding. -/
inductive Account (commands : Commands Clock) : Open → List Order → List Line → Prop where
  | finished : Account commands none [] []
  | taken {waiting still : Open} {order : Order} {orders : List Order} {answer lines : List Line} :
      Takes commands waiting order answer still → Account commands still orders lines →
      Account commands waiting (order :: orders) (answer ++ lines)
  | arrived {command : String} {outcome : Outcome} {orders : List Order} {lines : List Line} :
      Account commands none orders lines →
      Account commands (some (command, outcome)) orders (.status command outcome :: lines)

/-- What may be printed while a command is outstanding: help, and that another command is
refused. -/
def Meanwhile : Line → Prop
  | .help _ => True
  | .rejected _ fault => fault = .followerBusy
  | _ => False

/-- The lines account for the orders. So every line that a command is pending is followed by the
status line of this command, with the outcome that it was promised, and between the two no other
command is answered or pending; and a command is refused only between two such lines. -/
structure Accounted (commands : Commands Clock) (orders : List Order) (lines : List Line) :
    Prop where
  account : Account commands none orders lines
  pending : ∀ before command after, lines = before ++ .pending command :: after →
    ∃ outcome between rest, commands.Promises command outcome ∧
      after = between ++ .status command outcome :: rest ∧ ∀ line ∈ between, Meanwhile line
  rejected : ∀ before command fault after, lines = before ++ .rejected command fault :: after →
    fault = .followerBusy ∧ ∃ earlier outstanding between,
      before = earlier ++ .pending outstanding :: between ∧ ∀ line ∈ between, Meanwhile line

variable {commands : Commands Clock} {waiting still : Open} {orders : List Order}
  {lines : List Line} {session : Session}

/-- What arrives when the console looks for completions goes on the account. -/
theorem account_arrives {early : List Line} (harrives : Arrives waiting early still)
    (h : Account commands still orders lines) :
    Account commands waiting orders (early ++ lines) := by
  cases harrives with
  | nothing => exact h
  | arrived => exact .arrived h

/-- What is outstanding arrives, and until then nothing else is answered. -/
theorem account_outstanding {command : String} {outcome : Outcome}
    (h : Account commands (some (command, outcome)) orders lines) :
    ∃ between rest, lines = between ++ .status command outcome :: rest ∧
      ∀ line ∈ between, Meanwhile line := by
  generalize hwaiting : some (command, outcome) = waiting at h
  induction h with
  | finished => cases hwaiting
  | arrived =>
      cases hwaiting
      exact ⟨[], _, rfl, fun _ hmem ↦ (nomatch hmem)⟩
  | taken htakes hrest ih =>
      subst hwaiting
      cases htakes with
      | nothing => exact ih rfl
      | help | rejected =>
          obtain ⟨between, rest, rfl, hbetween⟩ := ih rfl
          exact ⟨_ :: between, rest, rfl, List.forall_mem_cons.mpr ⟨by simp [Meanwhile], hbetween⟩⟩

/-- A command that is pending was promised an outcome and is given it. -/
theorem account_pending (h : Account commands waiting orders lines) {before after : List Line}
    {command : String} (hlines : lines = before ++ .pending command :: after) :
    ∃ outcome between rest, commands.Promises command outcome ∧
      after = between ++ .status command outcome :: rest ∧ ∀ line ∈ between, Meanwhile line := by
  induction h generalizing before with
  | finished => cases before <;> cases hlines
  | arrived hrest ih =>
      cases before with
      | nil => cases hlines
      | cons first others => exact ih (List.cons.inj hlines).2
  | taken htakes hrest ih =>
      cases htakes with
      | nothing => exact ih hlines
      | promised hpromises =>
          cases before with
          | nil =>
              cases hlines
              obtain ⟨between, rest, hafter, hbetween⟩ := account_outstanding hrest
              exact ⟨_, between, rest, hpromises, hafter, hbetween⟩
          | cons first others => exact ih (List.cons.inj hlines).2
      | help | answered | rejected =>
          cases before with
          | nil => cases hlines
          | cons first others => exact ih (List.cons.inj hlines).2

/-- A command was outstanding before some lines, or is pending since one of them, and nothing was
answered since. -/
def Blocked (waiting : Open) (before : List Line) : Prop :=
  (waiting.isSome = true ∧ ∀ line ∈ before, Meanwhile line) ∨
    ∃ earlier outstanding between, before = earlier ++ .pending outstanding :: between ∧
      ∀ line ∈ between, Meanwhile line

/-- A line is put in front of others. -/
theorem blocked_cons {line : Line} {before : List Line} (h : Blocked still before)
    (hline : still.isSome = true →
      (waiting.isSome = true ∧ Meanwhile line) ∨ ∃ outstanding, line = .pending outstanding) :
    Blocked waiting (line :: before) := by
  cases h with
  | inl hstill =>
      obtain ⟨hsome, hbefore⟩ := hstill
      obtain ⟨hwaiting, hmeanwhile⟩ | ⟨outstanding, rfl⟩ := hline hsome
      · exact .inl ⟨hwaiting, List.forall_mem_cons.mpr ⟨hmeanwhile, hbefore⟩⟩
      · exact .inr ⟨[], outstanding, before, rfl, hbefore⟩
  | inr hpending =>
      obtain ⟨earlier, outstanding, between, rfl, hbetween⟩ := hpending
      exact .inr ⟨line :: earlier, outstanding, between, rfl, hbetween⟩

/-- A command is refused only while another one is outstanding. -/
theorem account_rejected (h : Account commands waiting orders lines) {before after : List Line}
    {command : String} {fault : CommandFault}
    (hlines : lines = before ++ .rejected command fault :: after) :
    fault = .followerBusy ∧ Blocked waiting before := by
  induction h generalizing before with
  | finished => cases before <;> cases hlines
  | arrived hrest ih =>
      cases before with
      | nil => cases hlines
      | cons first others =>
          obtain ⟨hfault, hblocked⟩ := ih (List.cons.inj hlines).2
          exact ⟨hfault, blocked_cons hblocked fun hsome ↦ (nomatch hsome)⟩
  | taken htakes hrest ih =>
      cases htakes with
      | nothing => exact ih hlines
      | help | answered | promised =>
          cases before with
          | nil => cases hlines
          | cons first others =>
              obtain ⟨hfirst, hothers⟩ := List.cons.inj hlines
              obtain ⟨hfault, hblocked⟩ := ih hothers
              refine ⟨hfault, blocked_cons hblocked fun hsome ↦ ?_⟩
              subst hfirst
              simp_all [Meanwhile]
      | rejected =>
          cases before with
          | nil =>
              cases hlines
              exact ⟨rfl, .inl ⟨rfl, fun _ hmem ↦ (nomatch hmem)⟩⟩
          | cons first others =>
              obtain ⟨hfirst, hothers⟩ := List.cons.inj hlines
              obtain ⟨hfault, hblocked⟩ := ih hothers
              refine ⟨hfault, blocked_cons hblocked fun hsome ↦ .inl ⟨rfl, ?_⟩⟩
              subst hfirst
              rfl

/-- Lines that account for orders when nothing is outstanding at the start. -/
theorem accounted_of_account (h : Account commands none orders lines) :
    Accounted commands orders lines where
  account := h
  pending before command after hlines := account_pending h hlines
  rejected before command fault after hlines := by
    obtain ⟨hfault, ⟨hsome, -⟩ | hpending⟩ := account_rejected h hlines
    · cases hsome
    · exact ⟨hfault, hpending⟩

/-! ### Lines of an input -/

/-- The orders of the lines of an input, up to the one to leave. -/
def script (input : List (List UInt8)) : List Order :=
  ((input.filterMap Text.decode?).map Order.ofLine).takeWhile fun order ↦ order ≠ .leave

/-- The session after the wait at the end of an input. -/
def afterLines (asynchronous : Bool) (pace : Pace) : Nat → List (List UInt8) → Session → Session
  | _, [], session => (session.drain (pace.wait 0)).2
  | number, bytes :: rest, session =>
    let reply :=
      session.takeLine asynchronous (pace.lull (2 * number)) (pace.lull (2 * number + 1)) bytes
    match reply.next with
    | .fail => reply.session
    | .leave => (reply.session.drain (pace.wait 0)).2
    | .goOn => afterLines asynchronous pace (number + 1) rest reply.session

/-- An order that does not end the session is taken, and something may arrive after that. -/
theorem carry_out_takes (hstocked : commands.Stocked) (h : Stands commands waiting session)
    (lull : Lull) {order : Order} (horder : order ≠ .leave) :
    ∃ answer late still last,
      (session.carryOut true lull order).lines = answer ++ late ∧
      (session.carryOut true lull order).next = .goOn ∧
      Takes commands waiting order answer still ∧ Arrives still late last ∧
      Stands commands last (session.carryOut true lull order).session := by
  cases order with
  | leave => exact absurd rfl horder
  | nothing => exact ⟨[], [], waiting, waiting, rfl, rfl, .nothing, .nothing, h⟩
  | help =>
      obtain ⟨last, harrives, hlast⟩ := pump_arrives (stands_idle h lull)
      refine ⟨[.help session.board.commands.help], _, waiting, last, rfl, rfl, ?_, harrives, hlast⟩
      rw [h.commands_eq]
      exact .help
  | command text =>
      obtain ⟨still, htakes, hstill⟩ := run_later_takes hstocked h text
      obtain ⟨last, harrives, hlast⟩ := pump_arrives (stands_idle hstill lull)
      exact ⟨_, _, still, last, rfl, rfl, htakes, harrives, hlast⟩

/-- What the wait at the end prints settles the account, if the wait is not given up. -/
theorem account_drained (h : Stands commands waiting session) {course : List Lull}
    (hpatient : (session.drain course).2.board.isBusy = false) :
    Account commands waiting [] (session.drain course).1 := by
  obtain ⟨still, harrives, hstill⟩ := drain_arrives h course
  rw [hstill.busy, Option.isSome_eq_false_iff, Option.isNone_iff_eq_none] at hpatient
  subst hpatient
  rw [← List.append_nil (session.drain course).1]
  exact account_arrives harrives .finished

/-- A line that is text is carried out after a look for completions. -/
theorem take_line_text {asynchronous : Bool} {before after : Lull} {bytes : List UInt8}
    {text : String} (htext : Text.decode? bytes = some text) :
    session.takeLine asynchronous before after bytes =
      let ready := (session.idle before).pump
      let reply := ready.2.carryOut asynchronous after (Order.ofLine text)
      { reply with lines := ready.1 ++ reply.lines } := by
  simp only [takeLine, htext]

/-- The orders of an input after a line. -/
theorem script_cons {bytes : List UInt8} {text : String}
    (htext : Text.decode? bytes = some text) (rest : List (List UInt8)) :
    script (bytes :: rest) =
      if Order.ofLine text = .leave then [] else Order.ofLine text :: script rest := by
  rw [script, List.filterMap_cons_some htext, List.map_cons, List.takeWhile_cons]
  by_cases hleave : Order.ofLine text = .leave
  · simp [hleave]
  · simp [hleave, script]

/-- The lines of an input are accounted for, if the wait at the end is not given up. -/
theorem run_lines_account (hstocked : commands.Stocked) (pace : Pace) (number : Nat)
    {input : List (List UInt8)} (hinput : ∀ line ∈ input, ∃ text, Text.decode? line = some text)
    {session : Session} {waiting : Open} (h : Stands commands waiting session)
    (hpatient : (session.afterLines true pace number input).board.isBusy = false) :
    Account commands waiting (script input) (session.runLines true pace number input).lines ∧
      (session.runLines true pace number input).exitCode = 0 := by
  induction input generalizing number session waiting with
  | nil => exact ⟨account_drained h hpatient, rfl⟩
  | cons bytes rest ih =>
      obtain ⟨⟨text, htext⟩, hrest⟩ := List.forall_mem_cons.mp hinput
      obtain ⟨ready, hearly, hready⟩ := pump_arrives (stands_idle h (pace.lull (2 * number)))
      rw [script_cons htext]
      simp only [afterLines, take_line_text htext] at hpatient
      simp only [runLines, take_line_text htext]
      by_cases hleave : Order.ofLine text = .leave
      · simp only [hleave, carryOut, if_true, List.append_nil] at hpatient ⊢
        exact ⟨account_arrives hearly (account_drained hready hpatient), trivial⟩
      · obtain ⟨answer, late, still, last, hlines, hnext, htakes, hlate, hlast⟩ :=
          carry_out_takes hstocked hready (pace.lull (2 * number + 1)) hleave
        rw [if_neg hleave]
        simp only [hnext] at hpatient
        simp only [hnext, hlines, List.append_assoc]
        obtain ⟨haccount, hexit⟩ := ih (number + 1) hrest hlast hpatient
        exact ⟨account_arrives hearly (.taken htakes (account_arrives hlate haccount)), hexit⟩

/-! ### Commands of options -/

/-- The sessions after the waits for the commands. -/
def afterWaits (asynchronous : Bool) (pace : Pace) : Nat → List String → Session → List Session
  | _, [], _ => []
  | number, text :: rest, session =>
    let settled := ((session.run asynchronous text).2.drain (pace.wait number)).2
    settled :: afterWaits asynchronous pace (number + 1) rest settled

/-- Every command is answered at once, or is pending and then given the outcome that it was
promised. -/
inductive Settles (commands : Commands Clock) : List String → List Line → Prop where
  | finished : Settles commands [] []
  | answered {text : String} {outcome : Outcome} {rest : List String} {lines : List Line} :
      commands.Answers text outcome → Settles commands rest lines →
      Settles commands (text :: rest) (.status text outcome :: lines)
  | awaited {text : String} {outcome : Outcome} {rest : List String} {lines : List Line} :
      commands.Promises text outcome → Settles commands rest lines →
      Settles commands (text :: rest) (.pending text :: .status text outcome :: lines)

/-- The lines of a command come from the command and from the wait for it. -/
theorem run_commands_cons (pace : Pace) (number : Nat) (text : String) (rest : List String)
    (session : Session) :
    let settled := (session.runLater text).2.drain (pace.wait number)
    session.runCommands true pace number (text :: rest) =
      (session.runLater text).1 ++
        (settled.1 ++ settled.2.runCommands true pace (number + 1) rest) :=
  List.append_assoc ..

/-- Commands are accounted for, if the last wait is not given up. -/
theorem run_commands_account (hstocked : commands.Stocked) (pace : Pace) (number : Nat)
    {texts : List String} {session : Session} {waiting : Open}
    (h : Stands commands waiting session)
    (hpatient : ∀ last ∈ (session :: session.afterWaits true pace number texts).getLast?,
      last.board.isBusy = false) :
    Account commands waiting (texts.map .command) (session.runCommands true pace number texts) := by
  induction texts generalizing number session waiting with
  | nil =>
      have hfree := hpatient session rfl
      rw [h.busy, Option.isSome_eq_false_iff, Option.isNone_iff_eq_none] at hfree
      subst hfree
      exact .finished
  | cons text rest ih =>
      obtain ⟨still, htakes, hstill⟩ := run_later_takes hstocked h text
      obtain ⟨last, harrives, hlast⟩ := drain_arrives hstill (pace.wait number)
      have haccount := ih (number + 1) hlast hpatient
      rw [run_commands_cons]
      exact .taken htakes (account_arrives harrives haccount)

/-- Commands are settled one after the other, if no wait is given up. -/
theorem run_commands_settles (hstocked : commands.Stocked) (pace : Pace) (number : Nat)
    {texts : List String} {session : Session} (h : Stands commands none session)
    (hpatient : ∀ settled ∈ session.afterWaits true pace number texts,
      settled.board.isBusy = false) :
    Settles commands texts (session.runCommands true pace number texts) := by
  induction texts generalizing number session with
  | nil => exact .finished
  | cons text rest ih =>
      obtain ⟨hsettled, hothers⟩ := List.forall_mem_cons.mp hpatient
      obtain ⟨still, htakes, hstill⟩ := run_later_takes hstocked h text
      obtain ⟨last, harrives, hlast⟩ := drain_arrives hstill (pace.wait number)
      have hfree : ((session.runLater text).2.drain (pace.wait number)).2.board.isBusy = false :=
        hsettled
      rw [hlast.busy, Option.isSome_eq_false_iff, Option.isNone_iff_eq_none] at hfree
      subst hfree
      have hrest := ih (number + 1) hlast hothers
      rw [run_commands_cons]
      generalize (session.runLater text).1 = answer at htakes
      generalize ((session.runLater text).2.drain (pace.wait number)).1 = late at harrives
      cases htakes with
      | answered hanswers =>
          cases harrives
          exact .answered hanswers hrest
      | promised hpromises =>
          cases harrives
          exact .awaited hpromises hrest

end Session

/-! ### Whole runs -/

/-- Options that start a session read a file that they can name. -/
theorem Options.start_eq {options : Options} {invocation : Invocation} {session : Session}
    (hstart : options.start invocation = .ok session) :
    Session.start (options.settings invocation.environment) invocation.files = .ok session := by
  unfold Options.start at hstart
  split at hstart
  · cases hstart
  · exact hstart

section

variable {invocation : Invocation} {options : Options} {session : Session}
  (hrequest : request invocation.arguments invocation.environment = .session options)
  (hstart : options.start invocation = .ok session)

include hrequest hstart

/-- Without commands in its options the console carries out its input. -/
theorem run_input (hcommands : options.commands = []) (pace : Pace) :
    run pace invocation =
      session.runLines options.asynchronous pace 0 (Text.lines invocation.input) := by
  simp only [run, hrequest, hstart, hcommands, List.isEmpty_nil, if_true]

/-- With commands in its options the console runs these. -/
theorem run_options (hcommands : options.commands ≠ []) (pace : Pace) :
    run pace invocation =
      { lines := session.runCommands options.asynchronous pace 0 options.commands
        exitCode := 0 } := by
  simp only [run, hrequest, hstart, List.isEmpty_eq_false_iff.mpr hcommands, Bool.false_eq_true,
    if_false]

end

/-- A console that runs commands asynchronously accounts for every command, whatever the course of
time is. If the wait at the end of an input that is text is not given up, the lines account for the
orders up to the one to leave. If the wait for the last command of options is not given up, the
lines account for the commands; if no wait is, no command is refused, and each that is pending is
followed by its status. -/
theorem asynchronous_accounts (pace : Pace) {invocation : Invocation} {options : Options}
    {session : Session}
    (hrequest : request invocation.arguments invocation.environment = .session options)
    (hasynchronous : options.asynchronous = true)
    (hstart : options.start invocation = .ok session) :
    let commands := session.board.commands
    let input := Text.lines invocation.input
    let transcript := run pace invocation
    (options.commands = [] → (∃ text, Text.decode? invocation.input = some text) →
      (session.afterLines true pace 0 input).board.isBusy = false →
      Session.Accounted commands (Session.script input) transcript.lines ∧
        transcript.exitCode = 0) ∧
    (options.commands ≠ [] →
      let waited := session.afterWaits true pace 0 options.commands
      ((∀ last ∈ waited.getLast?, last.board.isBusy = false) →
        Session.Accounted commands (options.commands.map .command) transcript.lines) ∧
      ((∀ settled ∈ waited, settled.board.isBusy = false) →
        Session.Settles commands options.commands transcript.lines)) := by
  intro commands input transcript
  obtain ⟨hstocked, hstands⟩ := Session.start_stands (Options.start_eq hstart)
  refine ⟨fun hcommands ⟨text, htext⟩ hpatient ↦ ?_, fun hcommands ↦ ?_⟩
  · have hrun : transcript = session.runLines true pace 0 input :=
      hasynchronous ▸ run_input hrequest hstart hcommands pace
    obtain ⟨haccount, hexit⟩ :=
      Session.run_lines_account hstocked pace 0 (Text.lines_of_text htext) hstands hpatient
    rw [hrun]
    exact ⟨Session.accounted_of_account haccount, hexit⟩
  · intro waited
    have hrun : transcript.lines = session.runCommands true pace 0 options.commands := by
      rw [← hasynchronous]
      exact congrArg Transcript.lines (run_options hrequest hstart hcommands pace)
    rw [hrun]
    refine ⟨fun hpatient ↦ ?_, fun hpatient ↦ ?_⟩
    · refine Session.accounted_of_account (Session.run_commands_account hstocked pace 0 hstands ?_)
      obtain ⟨text, rest, htexts⟩ := List.exists_cons_of_ne_nil hcommands
      intro last hlast
      simp only [htexts, Session.afterWaits, List.getLast?_cons_cons] at hlast
      refine hpatient last ?_
      simpa only [waited, htexts, Session.afterWaits] using hlast
    · exact Session.run_commands_settles hstocked pace 0 hstands hpatient

/-- What a console without aliases is started with. -/
def sampleInvocation (arguments texts : List String) : Invocation where
  arguments := arguments
  environment _ := none
  files _ := .error .notFound
  input := Text.written texts

/-- A session without aliases at its start. -/
def sampleSession : Session :=
  { board := withDemoCommands (.new {} .empty), outside := .new .start }

/-- A course of time in which more happens the later it is. -/
def samplePace : Pace where
  lull number := { elapsed := number % 2, steps := number }
  wait _ := [{ elapsed := 3, steps := 1 }, { elapsed := 5, steps := 4 }]

/-- An input with a command that is refused, one whose outcome arrives between the lines, and one
whose outcome arrives at the end. -/
def sampleTexts : List String :=
  ["vget /console/sleep 2", "vget /console/echo first", "", "vget /console/echo second",
    "vget /console/sleep 4", "quit", "vget /console/echo third"]

/-- The input is accounted for up to the line that ends it, and commands of options are settled one
after the other, whatever they would mean as lines. -/
theorem sample_accounted :
    let transcript := run samplePace (sampleInvocation ["--async"] sampleTexts)
    let others := run samplePace
      (sampleInvocation ["--async", "--exec", "vget /console/sleep 2", "--exec=quit"] [])
    Session.Accounted sampleSession.board.commands
      [.command "vget /console/sleep 2", .command "vget /console/echo first", .nothing,
        .command "vget /console/echo second", .command "vget /console/sleep 4"] transcript.lines ∧
    Line.rejected "vget /console/echo first" .followerBusy ∈ transcript.lines ∧
    Session.Settles sampleSession.board.commands ["vget /console/sleep 2", "quit"]
      others.lines := by
  intro transcript others
  have hinput : request ["--async"] (fun _ ↦ none) = .session { asynchronous := true } := by
    decide +kernel
  have hoptions : request ["--async", "--exec", "vget /console/sleep 2", "--exec=quit"]
      (fun _ ↦ none) =
        .session { asynchronous := true, commands := ["vget /console/sleep 2", "quit"] } := by
    decide +kernel
  have hstart : Options.start { asynchronous := true } (sampleInvocation ["--async"] sampleTexts) =
      .ok sampleSession := rfl
  have hother : Options.start
      { asynchronous := true, commands := ["vget /console/sleep 2", "quit"] }
      (sampleInvocation ["--async", "--exec", "vget /console/sleep 2", "--exec=quit"] []) =
        .ok sampleSession := rfl
  obtain ⟨hlines, -⟩ := asynchronous_accounts samplePace hinput rfl hstart
  obtain ⟨-, hsettles⟩ := asynchronous_accounts samplePace hoptions rfl hother
  have htext : ∃ text, Text.decode? (Text.written sampleTexts) = some text :=
    Option.isSome_iff_exists.mp (by decide +kernel)
  have hscript : Session.script (Text.lines (Text.written sampleTexts)) =
      [.command "vget /console/sleep 2", .command "vget /console/echo first", .nothing,
        .command "vget /console/echo second", .command "vget /console/sleep 4"] := by
    decide +kernel
  have hpatient : (sampleSession.afterWaits true samplePace 0
      ["vget /console/sleep 2", "quit"]).all (fun settled ↦ !settled.board.isBusy) = true := by
    decide +kernel
  refine ⟨hscript ▸ (hlines rfl htext (by decide +kernel)).1, by decide +kernel, ?_⟩
  exact (hsettles (by simp)).2 fun settled hmem ↦ by
    simpa using List.all_eq_true.mp hpatient settled hmem

end Switchboard.Console
