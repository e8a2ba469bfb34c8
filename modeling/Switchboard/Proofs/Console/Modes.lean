import Switchboard.Proofs.Console.Account

/-!
# What is printed depends on the commands alone

A command that leaves nothing outstanding leaves nothing in the session that a later one could see,
so what a session prints is put together from what each line prints by itself. `Session.printed` is
that text, read off the lines of an input without a session, and `run_lines_printed` says that a run
prints it, at any pace. From this follow that running commands from options or from lines, and
asynchronously or not, comes to the same (`modes_agree`), and that what an input prints is put
together from the parts of the input (`input_composes`).
-/

namespace Switchboard.Console

namespace Session

variable {commands : Commands Clock} {session : Session} {asynchronous : Bool}

/-! ### The text of orders -/

/-- The status line of a command, as it is in a world in which nothing has happened. -/
def statusText (commands : Commands Clock) (text : String) : String :=
  (Line.status text (commands.exec text (.new .start)).outcome).text

/-- What an order prints that is settled at once. -/
def orderText (commands : Commands Clock) : Order → String
  | .nothing | .leave => ""
  | .help => commands.help
  | .command text => statusText commands text

/-- What the lines of an input print if every order is settled at once, and the exit code. -/
def printed (commands : Commands Clock) : List (List UInt8) → String × Nat
  | [] => ("", 0)
  | bytes :: rest =>
    match Text.decode? bytes with
    | none => ("", 1)
    | some line =>
      if Order.ofLine line = .leave then ("", 0)
      else
        (orderText commands (Order.ofLine line) ++ (printed commands rest).1,
          (printed commands rest).2)

/-- An order is settled at once: commands are not run asynchronously, or the command leaves nothing
pending. -/
def Immediate (commands : Commands Clock) (asynchronous : Bool) (order : Order) : Prop :=
  ∀ text, order = .command text → asynchronous = true → ∃ outcome, commands.Answers text outcome

/-- The printed text of lines. -/
def textOf (lines : List Line) : String :=
  String.join (lines.map Line.text)

/-- A single line prints its text. -/
@[simp] theorem text_of_single (line : Line) : textOf [line] = line.text := by
  rw [textOf, List.map_singleton, String.join_cons, String.join_nil, String.append_empty]

/-- Lines that follow each other print one text after the other. -/
@[simp] theorem text_of_append (first second : List Line) :
    textOf (first ++ second) = textOf first ++ textOf second := by
  rw [textOf, List.map_append, String.join_append]
  rfl

/-- Status lines with outcomes that say the same have the same text. -/
theorem status_text_eq {text : String} {first second : Outcome} (halike : first.Alike second) :
    (Line.status text first).text = (Line.status text second).text := by
  simp only [Line.text, halike.kind_eq, halike.message_eq]

/-! ### Steps of a session in which nothing is outstanding -/

/-- Looking for completions prints nothing while nothing is outstanding. -/
theorem pump_free (h : Stands commands none session) :
    session.pump.1 = [] ∧ Stands commands none session.pump.2 := by
  obtain ⟨still, harrives, hstill⟩ := pump_arrives h
  generalize session.pump.1 = lines at harrives
  cases harrives
  exact ⟨rfl, hstill⟩

/-- There is nothing to wait for while nothing is outstanding. -/
theorem drain_free (h : Stands commands none session) (course : List Lull) :
    session.drain course = ([], session) := by
  simp only [drain, h.busy, Option.isSome_none, Bool.false_eq_true, if_false]

/-- A command that is settled at once prints its status and leaves nothing outstanding. -/
theorem run_immediate (hstocked : commands.Stocked) (h : Stands commands none session)
    {text : String} (himmediate : Immediate commands asynchronous (.command text)) :
    textOf (session.run asynchronous text).1 = statusText commands text ∧
      Stands commands none (session.run asynchronous text).2 := by
  cases asynchronous with
  | false =>
      cases h with
      | @free outside hsound =>
          refine ⟨?_, .free (Commands.sound_of_stocked hstocked hsound text)⟩
          show textOf [.status text (commands.exec text outside).outcome] = _
          rw [text_of_single]
          exact status_text_eq (Commands.exec_alike (Commands.steady_of_stocked hstocked) text _ _)
  | true =>
      obtain ⟨outcome, hanswers⟩ := himmediate text rfl rfl
      obtain ⟨still, htakes, hstill⟩ := run_later_takes hstocked h text
      show textOf (session.runLater text).1 = _ ∧ Stands commands none (session.runLater text).2
      generalize (session.runLater text).1 = answer at htakes
      cases htakes with
      | promised hpromises =>
          have hpending := hpromises.pending (.new .start)
          rw [hanswers.outcome, hanswers.final] at hpending
          cases hpending
      | @answered _ other hother =>
          refine ⟨?_, hstill⟩
          rw [text_of_single, statusText, hother.outcome]

/-- An order that is settled at once prints its text and leaves nothing outstanding. -/
theorem carry_out_immediate (hstocked : commands.Stocked) (h : Stands commands none session)
    (lull : Lull) {order : Order} (horder : order ≠ .leave)
    (himmediate : Immediate commands asynchronous order) :
    textOf (session.carryOut asynchronous lull order).lines = orderText commands order ∧
      (session.carryOut asynchronous lull order).next = .goOn ∧
      Stands commands none (session.carryOut asynchronous lull order).session := by
  cases order with
  | leave => exact absurd rfl horder
  | nothing => exact ⟨rfl, rfl, h⟩
  | help =>
      obtain ⟨hlate, hlast⟩ := pump_free (stands_idle h lull)
      refine ⟨?_, rfl, hlast⟩
      simp only [carryOut, hlate, h.commands_eq, text_of_single]
      rfl
  | command text =>
      obtain ⟨htext, hran⟩ := run_immediate hstocked h himmediate
      obtain ⟨hlate, hlast⟩ := pump_free (stands_idle hran lull)
      refine ⟨?_, rfl, hlast⟩
      simp only [carryOut, hlate, List.append_nil]
      exact htext

/-! ### Whole inputs and lists of commands -/

/-- The lines of an input print what can be read off them, at any pace. -/
theorem run_lines_printed (hstocked : commands.Stocked) (pace : Pace) (number : Nat)
    {input : List (List UInt8)} {session : Session} (h : Stands commands none session)
    (himmediate : ∀ bytes ∈ input, ∀ line, Text.decode? bytes = some line →
      Immediate commands asynchronous (Order.ofLine line)) :
    (session.runLines asynchronous pace number input).text = (printed commands input).1 ∧
      (session.runLines asynchronous pace number input).exitCode = (printed commands input).2 := by
  induction input generalizing number session with
  | nil =>
      simp only [runLines, drain_free h]
      exact ⟨rfl, rfl⟩
  | cons bytes rest ih =>
      obtain ⟨hfirst, hrest⟩ := List.forall_mem_cons.mp himmediate
      cases hdecode : Text.decode? bytes with
      | none =>
          simp only [runLines, takeLine, hdecode, printed]
          exact ⟨rfl, trivial⟩
      | some line =>
          obtain ⟨hearly, hready⟩ := pump_free (stands_idle h (pace.lull (2 * number)))
          simp only [runLines, take_line_text hdecode, printed, hdecode, hearly, List.nil_append]
          by_cases hleave : Order.ofLine line = .leave
          · simp only [hleave, carryOut, drain_free hready, if_true]
            exact ⟨rfl, trivial⟩
          · obtain ⟨htext, hnext, hlast⟩ := carry_out_immediate hstocked hready
              (pace.lull (2 * number + 1)) hleave (hfirst line hdecode)
            obtain ⟨hothers, hexit⟩ := ih (number + 1) hlast hrest
            simp only [hnext, if_neg hleave]
            refine ⟨?_, hexit⟩
            show textOf (_ ++ _) = _
            rw [text_of_append, htext, ← hothers]
            rfl

/-- Commands print their status lines one after the other, at any pace. -/
theorem run_commands_printed (hstocked : commands.Stocked) (pace : Pace) (number : Nat)
    {texts : List String} {session : Session} (h : Stands commands none session)
    (himmediate : ∀ text ∈ texts, Immediate commands asynchronous (.command text)) :
    textOf (session.runCommands asynchronous pace number texts) =
      String.join (texts.map (statusText commands)) := by
  induction texts generalizing number session with
  | nil => rfl
  | cons text rest ih =>
      obtain ⟨hfirst, hrest⟩ := List.forall_mem_cons.mp himmediate
      obtain ⟨htext, hran⟩ := run_immediate hstocked h hfirst
      simp only [runCommands, drain_free hran, List.append_nil, text_of_append, htext,
        ih (number + 1) hran hrest, List.map_cons, String.join_cons]

/-! ### Reading off what is printed -/

/-- Lines that ask to leave say so once they are trimmed. -/
theorem of_line_leave_iff {line : String} :
    Order.ofLine line = .leave ↔ Text.trim line = "quit" ∨ Text.trim line = "exit" := by
  unfold Order.ofLine
  split <;> simp_all

/-- A line asks for what is left of it when it is trimmed. -/
theorem of_line_command {line text : String} (htrim : Text.trim line = text)
    (htext : text ∉ ["", "help", "quit", "exit"]) : Order.ofLine line = .command text := by
  unfold Order.ofLine
  split <;> simp_all

/-- Lines that do not ask to leave print what they print in front of any others. -/
theorem printed_append {first : List (List UInt8)}
    (hstays : ∀ bytes ∈ first, ∃ line, Text.decode? bytes = some line ∧ Order.ofLine line ≠ .leave)
    (second : List (List UInt8)) :
    printed commands (first ++ second) =
      ((printed commands first).1 ++ (printed commands second).1, (printed commands second).2) := by
  induction first with
  | nil => rw [List.nil_append, printed, String.empty_append]
  | cons bytes rest ih =>
      obtain ⟨⟨line, hdecode, hleave⟩, hrest⟩ := List.forall_mem_cons.mp hstays
      simp only [List.cons_append, printed, hdecode, if_neg hleave, ih hrest, String.append_assoc]

/-- A line that asks to leave is the last one. -/
theorem printed_leave {bytes : List UInt8} {line : String}
    (hdecode : Text.decode? bytes = some line) (hleave : Order.ofLine line = .leave)
    (rest : List (List UInt8)) : printed commands (bytes :: rest) = ("", 0) := by
  simp only [printed, hdecode, hleave, if_true]

/-- A text is a command in a line of its own: it is trimmed, it has no line feed, and it is none of
the words that a line may have instead. -/
structure IsCommand (text : String) : Prop where
  trimmed : Text.trim text = text
  unbroken : '\n' ∉ text.toList
  plain : text ∉ ["", "help", "quit", "exit"]

/-- The line of a command is read as the command. -/
theorem read_command {text : String} (htext : IsCommand text) :
    ∃ line, Text.decode? (Text.dropReturn (Text.encode text.toList)) = some line ∧
      Order.ofLine line = .command text := by
  obtain ⟨line, hline, htrim⟩ :=
    Text.decode_drop_return (Text.decode_iff.mpr (rfl : Text.encode text.toList = _))
  exact ⟨line, hline, of_line_command (htrim.trans htext.trimmed) htext.plain⟩

/-- Commands in lines of their own print what they print one after the other. -/
theorem printed_written {texts : List String} (htexts : ∀ text ∈ texts, IsCommand text) :
    printed commands (Text.lines (Text.written texts)) =
      (String.join (texts.map (statusText commands)), 0) := by
  rw [Text.lines_written fun text hmem ↦ (htexts text hmem).unbroken]
  induction texts with
  | nil => rfl
  | cons text rest ih =>
      obtain ⟨htext, hrest⟩ := List.forall_mem_cons.mp htexts
      obtain ⟨line, hdecode, horder⟩ := read_command htext
      rw [List.map_cons]
      simp only [printed, hdecode, horder, ih hrest, orderText, List.map_cons, String.join_cons,
        reduceCtorEq, if_false]

end Session

/-! ### Modes -/

/-- Given its options, what the console is started with makes it run some commands: they are in the
options, or the options have none and they are the lines of the input. -/
structure Invocation.Gives (invocation : Invocation) (options : Options) (texts : List String) :
    Prop where
  request : request invocation.arguments invocation.environment = .session options
  given : options.commands = texts ∨
    (options.commands = [] ∧ invocation.input = Text.written texts)

/-- What commands print that are settled at once. -/
theorem text_of_gives {invocation : Invocation} {options : Options} {texts : List String}
    {session : Session} (hnonempty : texts ≠ [])
    (htexts : ∀ text ∈ texts, Session.IsCommand text) (hgives : invocation.Gives options texts)
    (hstart : options.start invocation = .ok session)
    (himmediate : ∀ text ∈ texts,
      Session.Immediate session.board.commands options.asynchronous (.command text))
    (pace : Pace) :
    (run pace invocation).text =
        String.join (texts.map (Session.statusText session.board.commands)) ∧
      (run pace invocation).exitCode = 0 := by
  obtain ⟨hstocked, hstands⟩ := Session.start_stands (Options.start_eq hstart)
  obtain hcommands | ⟨hcommands, hinput⟩ := hgives.given
  · rw [run_options hgives.request hstart (hcommands ▸ hnonempty) pace, hcommands]
    exact ⟨Session.run_commands_printed hstocked pace 0 hstands himmediate, rfl⟩
  · have hlines : ∀ bytes ∈ Text.lines (Text.written texts), ∀ line,
        Text.decode? bytes = some line →
        Session.Immediate session.board.commands options.asynchronous
          (Session.Order.ofLine line) := by
      rw [Text.lines_written fun text hmem ↦ (htexts text hmem).unbroken]
      intro bytes hbytes line hdecode
      obtain ⟨text, hmem, rfl⟩ := List.mem_map.mp hbytes
      obtain ⟨other, hother, horder⟩ := Session.read_command (htexts text hmem)
      rw [hdecode, Option.some.injEq] at hother
      rw [hother, horder]
      exact himmediate text hmem
    have hprinted := Session.run_lines_printed hstocked pace 0 hstands hlines
    rw [Session.printed_written htexts] at hprinted
    rw [run_input hgives.request hstart hcommands pace, hinput]
    exact hprinted

/-- The environment and the file with aliases decide how a session starts. -/
theorem start_unique {first second : Invocation} {options others : Options}
    {session other : Session} (henvironment : second.environment = first.environment)
    (hfiles : second.files = first.files) (hfile : others.aliasFile = options.aliasFile)
    (hstart : options.start first = .ok session) (hother : others.start second = .ok other) :
    other = session := by
  have hfirst := Options.start_eq hstart
  have hsecond := Options.start_eq hother
  have hsettings : others.settings second.environment = options.settings first.environment := by
    simp only [Options.settings, henvironment, hfile]
  rw [hsettings, hfiles, hfirst] at hsecond
  exact (Except.ok.inj hsecond).symm

/-- For one environment and one file with aliases, commands that are trimmed texts without line
feeds and not among the words that a line may have instead print the same whether they are in the
options or in the lines of the input, if they are not run asynchronously; and if none of them leaves
anything pending, they print the same whether or not they are run asynchronously. Neither the pace
nor what else is in the input matters. -/
theorem modes_agree {texts : List String} (hnonempty : texts ≠ [])
    (htexts : ∀ text ∈ texts, Session.IsCommand text) {first second : Invocation}
    {options others : Options} (hfirst : first.Gives options texts)
    (hsecond : second.Gives others texts) (henvironment : second.environment = first.environment)
    (hfiles : second.files = first.files) (hfile : others.aliasFile = options.aliasFile)
    {session other : Session} (hstart : options.start first = .ok session)
    (hother : others.start second = .ok other)
    (hmodes : (options.asynchronous = false ∧ others.asynchronous = false) ∨
      ∀ text ∈ texts, (session.board.exec text session.outside).outcome.isPending = false)
    (pace otherPace : Pace) :
    (run pace first).text = (run otherPace second).text ∧
      (run pace first).exitCode = 0 ∧ (run otherPace second).exitCode = 0 := by
  obtain rfl := start_unique henvironment hfiles hfile hstart hother
  obtain ⟨hstocked, -⟩ := Session.start_stands (Options.start_eq hstart)
  have himmediate (asynchronous : Bool)
      (hmode : asynchronous = false ∨
        ∀ text ∈ texts, (other.board.exec text other.outside).outcome.isPending = false) :
      ∀ text ∈ texts,
        Session.Immediate other.board.commands asynchronous (.command text) := by
    intro text hmem given hgiven hasynchronous
    cases hgiven
    cases hmode with
    | inl hsynchronous => exact absurd hasynchronous (by simp [hsynchronous])
    | inr hfinal => exact Commands.answers_of_final hstocked (hfinal text hmem)
  obtain ⟨htext, hexit⟩ := text_of_gives hnonempty htexts hfirst hstart
    (himmediate _ (hmodes.imp_left And.left)) pace
  obtain ⟨hothers, hcode⟩ := text_of_gives hnonempty htexts hsecond hother
    (himmediate _ (hmodes.imp_left And.right)) otherPace
  exact ⟨htext.trans hothers.symm, hexit, hcode⟩

/-- Commands that are answered at once print the same in any mode, and one that is pending prints
the same from options and from lines. -/
theorem sample_modes :
    let answered := ["vget /console/echo one", "vrun gone"]
    let pending := ["vget /console/sleep 3"]
    (run samplePace (sampleInvocation
        ["--async", "--exec=vget /console/echo one", "--exec", "vrun gone"] [])).text =
      (run .still (sampleInvocation [] answered)).text ∧
    (run samplePace (sampleInvocation ["--exec=vget /console/sleep 3"] ["quit"])).text =
      (run samplePace (sampleInvocation [] pending)).text := by
  intro answered pending
  have hanswered : ∀ text ∈ answered, Session.IsCommand text := by
    simp only [answered, List.forall_mem_cons]
    exact ⟨⟨by decide +kernel, by decide, by decide⟩, ⟨by decide +kernel, by decide, by decide⟩,
      fun _ hmem ↦ nomatch hmem⟩
  have hpending : ∀ text ∈ pending, Session.IsCommand text := by
    simp only [pending, List.forall_mem_cons]
    exact ⟨⟨by decide +kernel, by decide, by decide⟩, fun _ hmem ↦ nomatch hmem⟩
  have hfinal : ∀ text ∈ answered,
      (sampleSession.board.exec text sampleSession.outside).outcome.isPending = false := by
    decide +kernel
  have hnone : request [] (fun _ ↦ none) = .session {} := by decide +kernel
  constructor
  · have hfirst : (sampleInvocation
        ["--async", "--exec=vget /console/echo one", "--exec", "vrun gone"] []).Gives
          { commands := answered, asynchronous := true } answered :=
      ⟨by decide +kernel, .inl rfl⟩
    have hsecond : (sampleInvocation [] answered).Gives {} answered := ⟨hnone, .inr ⟨rfl, rfl⟩⟩
    have hstart : Options.start { commands := answered, asynchronous := true } (sampleInvocation
        ["--async", "--exec=vget /console/echo one", "--exec", "vrun gone"] []) =
          .ok sampleSession := rfl
    have hother : Options.start {} (sampleInvocation [] answered) = .ok sampleSession := rfl
    exact (modes_agree (by decide) hanswered hfirst hsecond rfl rfl rfl hstart hother (.inr hfinal)
      samplePace .still).1
  · have hfirst : (sampleInvocation ["--exec=vget /console/sleep 3"] ["quit"]).Gives
        { commands := pending } pending :=
      ⟨by decide +kernel, .inl rfl⟩
    have hsecond : (sampleInvocation [] pending).Gives {} pending := ⟨hnone, .inr ⟨rfl, rfl⟩⟩
    have hstart : Options.start { commands := pending }
        (sampleInvocation ["--exec=vget /console/sleep 3"] ["quit"]) = .ok sampleSession := rfl
    have hother : Options.start {} (sampleInvocation [] pending) = .ok sampleSession := rfl
    exact (modes_agree (by decide) hpending hfirst hsecond rfl rfl rfl hstart hother
      (.inl ⟨rfl, rfl⟩) samplePace samplePace).1

/-! ### Parts of an input -/

/-- The console started in the same way on another input. -/
def Invocation.withInput (invocation : Invocation) (input : List UInt8) : Invocation :=
  { invocation with input }

/-- Without commands in its options, and if commands are not run asynchronously, the console prints
what can be read off the input. -/
theorem run_printed {invocation : Invocation} {options : Options} {session : Session}
    (hrequest : request invocation.arguments invocation.environment = .session options)
    (hcommands : options.commands = []) (hsynchronous : options.asynchronous = false)
    (hstart : options.start invocation = .ok session) (input : List UInt8) (pace : Pace) :
    let transcript := run pace (invocation.withInput input)
    let printed := Session.printed session.board.commands (Text.lines input)
    transcript.text = printed.1 ∧ transcript.exitCode = printed.2 := by
  obtain ⟨hstocked, hstands⟩ := Session.start_stands (Options.start_eq hstart)
  have hrequested : request (invocation.withInput input).arguments
      (invocation.withInput input).environment = .session options := hrequest
  have hstarted : options.start (invocation.withInput input) = .ok session := hstart
  have himmediate : ∀ order, Session.Immediate session.board.commands false order :=
    fun _ _ _ hasynchronous ↦ nomatch hasynchronous
  intro transcript printed
  have hrun : transcript = session.runLines false pace 0 (Text.lines input) :=
    hsynchronous ▸ run_input hrequested hstarted hcommands pace
  rw [hrun]
  exact Session.run_lines_printed hstocked pace 0 hstands fun _ _ _ _ ↦ himmediate _

namespace Session

variable {commands : Commands Clock} {input : List UInt8}

/-- What stands behind an input that is text, ends with a line feed and does not ask to leave is
read apart from it. -/
theorem printed_behind (htext : ∃ text, Text.decode? input = some text)
    (hlast : input.getLast? = some 10)
    (hstays : ∀ bytes ∈ Text.lines input, ∀ line, Text.decode? bytes = some line →
      Text.trim line ≠ "quit" ∧ Text.trim line ≠ "exit") (behind : List UInt8) :
    printed commands (Text.lines (input ++ behind)) =
      ((printed commands (Text.lines input)).1 ++ (printed commands (Text.lines behind)).1,
        (printed commands (Text.lines behind)).2) := by
  obtain ⟨text, htext⟩ := htext
  rw [Text.lines_append hlast]
  refine printed_append (fun bytes hmem ↦ ?_) _
  obtain ⟨line, hdecode⟩ := Text.lines_of_text htext bytes hmem
  have hline := hstays bytes hmem line hdecode
  exact ⟨line, hdecode, fun hleave ↦ (of_line_leave_iff.mp hleave).elim hline.1 hline.2⟩

/-- Nothing is printed for a line that asks to leave and for what stands behind it. -/
theorem printed_left {word : List UInt8} {line : String} (hword : 10 ∉ word)
    (hdecode : Text.decode? word = some line)
    (hleave : Text.trim line = "quit" ∨ Text.trim line = "exit") (behind : List UInt8) :
    printed commands (Text.lines (word ++ 10 :: behind)) = ("", 0) := by
  obtain ⟨content, hcontent, htrim⟩ := Text.decode_drop_return hdecode
  have horder : Order.ofLine content = .leave := of_line_leave_iff.mpr (htrim ▸ hleave)
  rw [Text.lines_line hword]
  exact printed_leave hcontent horder _

end Session

/-- Without commands in the options, and if commands are not run asynchronously, an input that is
text, ends with a line feed and does not ask to leave prints what it prints by itself in front of
whatever stands behind it, and the exit code is that of what stands behind it. A line behind it that
asks to leave ends the run with what was printed until then and without a failure, whatever stands
behind this line, even if that is no text. -/
theorem input_composes {invocation : Invocation} {options : Options} {session : Session}
    (hrequest : request invocation.arguments invocation.environment = .session options)
    (hcommands : options.commands = []) (hsynchronous : options.asynchronous = false)
    (hstart : options.start invocation = .ok session) {input : List UInt8}
    (htext : ∃ text, Text.decode? input = some text) (hlast : input.getLast? = some 10)
    (hstays : ∀ bytes ∈ Text.lines input, ∀ line, Text.decode? bytes = some line →
      Text.trim line ≠ "quit" ∧ Text.trim line ≠ "exit") :
    (∀ (behind : List UInt8) (pace alonePace behindPace : Pace),
      let whole := run pace (invocation.withInput (input ++ behind))
      let alone := run alonePace (invocation.withInput input)
      let rest := run behindPace (invocation.withInput behind)
      whole.text = alone.text ++ rest.text ∧ whole.exitCode = rest.exitCode) ∧
    ∀ (word : List UInt8) (line : String), 10 ∉ word → Text.decode? word = some line →
      (Text.trim line = "quit" ∨ Text.trim line = "exit") →
      ∀ (behind other : List UInt8) (pace otherPace alonePace : Pace),
        let left := run pace (invocation.withInput (input ++ word ++ 10 :: behind))
        let others := run otherPace (invocation.withInput (input ++ word ++ 10 :: other))
        let alone := run alonePace (invocation.withInput input)
        left.text = others.text ∧ left.text = alone.text ∧
          left.exitCode = 0 ∧ others.exitCode = 0 := by
  have hrun := run_printed hrequest hcommands hsynchronous hstart
  have hbehind (behind : List UInt8) :
      Session.printed session.board.commands (Text.lines (input ++ behind)) = _ :=
    Session.printed_behind htext hlast hstays behind
  refine ⟨fun behind pace alonePace behindPace ↦ ?_, fun word line hword hdecode hleave ↦ ?_⟩
  · obtain ⟨htext, hexit⟩ := hrun (input ++ behind) pace
    intro whole alone rest
    rw [htext, hexit, (hrun input alonePace).1, (hrun behind behindPace).1,
      (hrun behind behindPace).2, hbehind]
    exact ⟨rfl, rfl⟩
  · have hleft (behind : List UInt8) (pace : Pace) :
        let left := run pace (invocation.withInput (input ++ word ++ 10 :: behind))
        left.text = (Session.printed session.board.commands (Text.lines input)).1 ∧
          left.exitCode = 0 := by
      obtain ⟨htext, hexit⟩ := hrun (input ++ word ++ 10 :: behind) pace
      rw [List.append_assoc, hbehind, Session.printed_left hword hdecode hleave,
        String.append_empty] at htext hexit
      rw [List.append_assoc]
      exact ⟨htext, hexit⟩
    intro behind other pace otherPace alonePace left others alone
    obtain ⟨htext, hexit⟩ := hleft behind pace
    obtain ⟨hothers, hcode⟩ := hleft other otherPace
    exact ⟨htext.trans hothers.symm, htext.trans (hrun input alonePace).1.symm, hexit, hcode⟩

/-- An input in front of bytes that are no text, and in front of a line that ends the run before
these bytes are read. -/
theorem sample_parts :
    let start := sampleInvocation [] []
    let input := Text.written ["vget /console/echo one", " help ", "vget /console/sleep 3"]
    let word := Text.encode " exit\t".toList
    (run samplePace (start.withInput (input ++ [0xFF]))).text =
        (run .still (start.withInput input)).text ++ (run .still (start.withInput [0xFF])).text ∧
      (run samplePace (start.withInput (input ++ [0xFF]))).exitCode =
        (run .still (start.withInput [0xFF])).exitCode ∧
      (run samplePace (start.withInput (input ++ word ++ 10 :: [0xFF]))).exitCode = 0 := by
  intro start input word
  have hrequest : request start.arguments start.environment = .session {} := by decide +kernel
  have hstart : Options.start {} start = .ok sampleSession := rfl
  have htext : ∃ text, Text.decode? input = some text :=
    Option.isSome_iff_exists.mp (by decide +kernel)
  have hlines : (Text.lines input).all (fun bytes ↦ (Text.decode? bytes).all fun line ↦
      Text.trim line ≠ "quit" ∧ Text.trim line ≠ "exit") = true := by
    decide +kernel
  have hstays : ∀ bytes ∈ Text.lines input, ∀ line, Text.decode? bytes = some line →
      Text.trim line ≠ "quit" ∧ Text.trim line ≠ "exit" := by
    intro bytes hmem line hdecode
    have hline := List.all_eq_true.mp hlines bytes hmem
    rw [hdecode] at hline
    simpa using hline
  obtain ⟨hbehind, hleft⟩ :=
    input_composes hrequest rfl rfl hstart htext (by decide +kernel) hstays
  obtain ⟨hwhole, hcode⟩ := hbehind [0xFF] samplePace .still .still
  have hword := hleft word " exit\t" (by decide +kernel) (Text.decode_iff.mpr rfl)
    (.inr (by decide +kernel)) [0xFF] [] samplePace .still .still
  exact ⟨hwhole, hcode, hword.2.2.1⟩

end Switchboard.Console
