import CipherCalc.Proofs.CommandLine.LineReader
import CipherCalc.Proofs.Expr.Message
import CipherCalc.Proofs.Readers.Input
import CipherCalc.Proofs.Session.Ending
import CipherCalc.Proofs.Session.Reply
import CipherCalc.Readers

/-!
# What a run of the program leaves behind

The program is a thin layer around three things that can be used without it: the
settings, the report on an expression and the session.  `Answers` says what it
makes of them.  Settings that cannot be loaded come first; then an expression is
evaluated, or the lines of the standard input are the script of a session.

The readers are parameters throughout.  Nothing is asked of those for arguments
and for settings documents: whatever they make of their texts, the program goes by
it.  The line editor is asked to take lines from an input that is not a terminal
(`LineReader.TakesLines`), however many of them it remembers.
-/

namespace CipherCalc.CommandLine

open Session (Transcript)

/-- The settings that options ask for, before flags: the defaults, or those of a
file. -/
inductive Loads (settings? : String → Option Settings) (options : Options) (files : Files) :
    Settings → Prop
  | defaults : options.config = none → Loads settings? options files {}
  | file {path : String} {settings : Settings} : options.config = some path →
      Settings.ofFile settings? path (files path) = .ok settings →
      Loads settings? options files settings

/-- The settings that options ask for cannot be loaded. -/
def FailsToLoad (settings? : String → Option Settings) (options : Options) (files : Files)
    (error : Settings.LoadError) : Prop :=
  ∃ path, options.config = some path ∧ Settings.ofFile settings? path (files path) = .error error

/-- The session that a text on the standard input is the script of. -/
def sessionOn (options : Options) (files : Files) (settings : Settings) (text : String) :
    Transcript :=
  Session.run { settings with showSteps := settings.showSteps || options.showSteps } files {}
    ((Text.lines text).map .line)

/-- What a run leaves behind with a text on the standard input. -/
inductive Answers (settings? : String → Option Settings) (options : Options) (files : Files)
    (text : String) : Outcome → Prop
  | unloaded {error : Settings.LoadError} : FailsToLoad settings? options files error →
      Answers settings? options files text
        { code := 1, stdout := "", stderr := firstLine ("Error: " ++ error.message ++ "\n") }
  | evaluated {settings : Settings} {expression shown : String} :
      Loads settings? options files settings → options.expression = some expression →
      Expr.report (settings.showSteps || options.showSteps) expression = .ok shown →
      Answers settings? options files text { code := 0, stdout := shown ++ "\n", stderr := "" }
  | refused {settings : Settings} {expression : String} {error : Expr.Error} :
      Loads settings? options files settings → options.expression = some expression →
      Expr.report (settings.showSteps || options.showSteps) expression = .error error →
      Answers settings? options files text
        { code := 1, stdout := "", stderr := "Error: " ++ error.message }
  | played {settings : Settings} {last : String} {status : Session.ExitStatus} :
      Loads settings? options files settings → options.expression = none →
      (sessionOn options files settings text).rest = last.toUTF8 →
      (sessionOn options files settings text).ending = .exit status →
      Answers settings? options files text
        { code := status.code
          stdout := String.join
            ((sessionOn options files settings text).exchanges.map Session.Exchange.text) ++ last
          stderr := "" }

/-! ## Reports -/

theorem firstLine_append_newline {line : String} (hfeed : '\n' ∉ line.toList)
    (hreturn : line.toList.getLast? ≠ some '\r') : firstLine (line ++ "\n") = line := by
  have htake : (line ++ "\n").toList.takeWhile (· != '\n') = line.toList := by
    rw [String.toList_append, List.takeWhile_append_of_pos]
    · exact List.append_nil _
    · intro char hmem
      exact bne_iff_ne.mpr fun heq => hfeed (heq ▸ hmem)
  unfold firstLine
  dsimp only
  rw [htake, if_neg fun h => hreturn h.2, String.ofList_toList]

/-- The report of an expression without a value is one line. -/
theorem firstLine_report {showSteps : Bool} {expression : String} {error : Expr.Error}
    (herror : Expr.report showSteps expression = .error error) :
    firstLine ("Error: " ++ error.message ++ "\n") = "Error: " ++ error.message := by
  have hquiet := Expr.newline_not_mem_message_of_ofText (Fallible.map_eq_error_iff.mp herror)
  refine firstLine_append_newline ?_ ?_
  · rw [String.toList_append, List.mem_append]
    exact not_or_intro (by decide) hquiet
  · rw [String.toList_append, List.getLast?_append, Expr.getLast?_message]
    decide

/-! ## Settings -/

variable {settings? : String → Option Settings} {options : Options} {files : Files}
  {settings : Settings} {stdin : List UInt8} {text : String}

theorem settingsFor_of_loads (hloads : Loads settings? options files settings) :
    settingsFor settings? options files =
      .ok { settings with showSteps := settings.showSteps || options.showSteps } := by
  unfold settingsFor
  cases hloads with
  | defaults hconfig =>
      rw [hconfig]
      rfl
  | file hconfig hfile =>
      rw [hconfig]
      dsimp only
      rw [hfile]
      rfl

theorem settingsFor_of_failsToLoad {error : Settings.LoadError}
    (hfails : FailsToLoad settings? options files error) :
    settingsFor settings? options files = .error error := by
  obtain ⟨path, hconfig, hfile⟩ := hfails
  unfold settingsFor
  rw [hconfig]
  dsimp only
  rw [hfile]
  rfl

theorem loads_or_failsToLoad (settings? : String → Option Settings) (options : Options)
    (files : Files) :
    (∃ settings, Loads settings? options files settings) ∨
      ∃ error, FailsToLoad settings? options files error := by
  cases hconfig : options.config with
  | none => exact .inl ⟨{}, .defaults hconfig⟩
  | some path =>
      cases hfile : Settings.ofFile settings? path (files path) with
      | ok settings => exact .inl ⟨settings, .file hconfig hfile⟩
      | error error => exact .inr ⟨error, path, hconfig, hfile⟩

/-! ## Sessions on lines -/

/-- A line ends a session with a status or not at all. -/
theorem exists_status_of_finish {question : Session.Question} {line : String}
    {ending : Session.Ending}
    (hnext : (Session.respond settings files question (.line line)).next = .finish ending) :
    ∃ status, ending = .exit status := by
  have hends := (Session.ends_iff settings files).mpr ⟨hnext, rfl⟩
  generalize question.prompt = prompt, (Session.respond settings files question (.line line)).text =
    text at hends
  cases hends <;> exact ⟨_, rfl⟩

/-- A session that reads lines only does not fail. -/
theorem exists_status_of_lines (settings : Settings) (files : Files) (lines : List String) :
    ∃ last status, (Session.run settings files {} (lines.map .line)).rest = String.toUTF8 last ∧
      (Session.run settings files {} (lines.map .line)).ending = .exit status := by
  have hlines : ∀ event ∈ lines.map Session.Event.line, ∃ line, event = .line line := by
    intro event hmem
    obtain ⟨line, -, rfl⟩ := List.mem_map.mp hmem
    exact ⟨line, rfl⟩
  revert hlines
  refine Session.converse_induction settings files false
    (motive := fun _ _ _ script transcript => (∀ event ∈ script, ∃ line, event = .line line) →
      ∃ last status, transcript.rest = String.toUTF8 last ∧ transcript.ending = .exit status)
    ?exhausted ?finished ?asked {} Session.menu .choice _
  case exhausted => exact fun _ _ _ _ => ⟨"", .normal, rfl, rfl⟩
  case finished =>
    intro tally text question event later ending hnext hlines
    obtain ⟨line, rfl⟩ := hlines event List.mem_cons_self
    obtain ⟨status, rfl⟩ := exists_status_of_finish hnext
    exact ⟨_, status, rfl, rfl⟩
  case asked =>
    intro tally text question event later next transcript _ ih hlines
    exact ih fun event hmem => hlines event (List.mem_cons_of_mem _ hmem)

/-! ## Settings that do not matter to a session -/

theorem run_historySize (settings : Settings) (files : Files) (size : Nat)
    (console : Session.Console) (script : List Session.Event) :
    Session.run { settings with historySize := size } files console script =
      Session.run settings files console script := by
  unfold Session.run
  -- in the middle of a session, counters, text and question are arbitrary
  generalize ({} : Session.Tally) = tally, Session.menu = text, Session.Question.choice = question
  induction script generalizing console tally text question with
  | nil =>
      rw [Session.converse, Session.converse]
  | cons event later ih =>
      rw [Session.converse, Session.converse]
      simp only [Session.respond_historySize, ih]

/-! ## Runs -/

section

variable {readers : Readers} {arguments : List String} {outcome : Outcome}

theorem run_of_failsToLoad (hparsed : readers.options arguments = .ok options)
    {error : Settings.LoadError} (hfails : FailsToLoad readers.settings? options files error)
    (stdin : List UInt8) : run readers arguments files stdin = .failure error.message := by
  rw [run, hparsed]
  dsimp only
  rw [settingsFor_of_failsToLoad hfails]

theorem run_of_expression (hparsed : readers.options arguments = .ok options)
    (hloads : Loads readers.settings? options files settings) {expression : String}
    (hexpression : options.expression = some expression) (stdin : List UInt8) :
    run readers arguments files stdin =
      .ofExpression (settings.showSteps || options.showSteps) expression := by
  rw [run, hparsed]
  dsimp only
  rw [settingsFor_of_loads hloads, hexpression]

/-- Without an expression a run is a session on the lines of the input. -/
theorem run_of_no_expression (hlines : ∀ size, (readers.lineReader size).TakesLines)
    (hparsed : readers.options arguments = .ok options)
    (hloads : Loads readers.settings? options files settings)
    (hexpression : options.expression = none) (hdecode : Text.decode? stdin = some text)
    (hbackspace : '\x08' ∉ text.toList) :
    run readers arguments files stdin =
      .ofTranscript (fun _ => "") (sessionOn options files settings text) := by
  have hreader := hlines settings.historySize
  rw [run, hparsed]
  dsimp only
  rw [settingsFor_of_loads hloads, hexpression]
  dsimp only
  rw [hreader.events_eq hdecode hbackspace, funext hreader.shown_eq]
  rfl

theorem exists_answers (settings? : String → Option Settings) (options : Options) (files : Files)
    (text : String) : ∃ outcome, Answers settings? options files text outcome := by
  rcases loads_or_failsToLoad settings? options files with ⟨settings, hloads⟩ | ⟨error, hfails⟩
  · cases hexpression : options.expression with
    | some expression =>
        cases hreport : Expr.report (settings.showSteps || options.showSteps) expression with
        | ok shown => exact ⟨_, .evaluated hloads hexpression hreport⟩
        | error error => exact ⟨_, .refused hloads hexpression hreport⟩
    | none =>
        obtain ⟨last, status, hrest, hending⟩ := exists_status_of_lines
          { settings with showSteps := settings.showSteps || options.showSteps } files
          (Text.lines text)
        exact ⟨_, .played hloads hexpression hrest hending⟩
  · exact ⟨_, .unloaded hfails⟩

theorem run_eq_of_answers (hlines : ∀ size, (readers.lineReader size).TakesLines)
    (hparsed : readers.options arguments = .ok options) (hdecode : Text.decode? stdin = some text)
    (hbackspace : '\x08' ∉ text.toList)
    (hanswers : Answers readers.settings? options files text outcome) :
    run readers arguments files stdin = outcome := by
  cases hanswers with
  | unloaded hfails => exact run_of_failsToLoad hparsed hfails stdin
  | evaluated hloads hexpression hreport =>
      rw [run_of_expression hparsed hloads hexpression, Outcome.ofExpression, hreport]
  | refused hloads hexpression hreport =>
      rw [run_of_expression hparsed hloads hexpression, Outcome.ofExpression, hreport]
      dsimp only
      rw [Outcome.failure, firstLine_report hreport]
  | played hloads hexpression hrest hending =>
      rw [run_of_no_expression hlines hparsed hloads hexpression hdecode hbackspace,
        Outcome.ofTranscript, hending]
      dsimp only
      simp only [Transcript.text, hrest, Text.shown_toUTF8, String.append_empty]

/-- Settings that cannot be loaded and an expression leave the standard input
unread. -/
theorem run_stdin_unread (hparsed : readers.options arguments = .ok options)
    (hunread : (∃ error, FailsToLoad readers.settings? options files error) ∨
      options.expression.isSome)
    (stdin other : List UInt8) :
    run readers arguments files stdin = run readers arguments files other := by
  rcases loads_or_failsToLoad readers.settings? options files with
    ⟨settings, hloads⟩ | ⟨error, hfails⟩
  · rcases hunread with ⟨error, hfails⟩ | hexpression
    · rw [run_of_failsToLoad hparsed hfails, run_of_failsToLoad hparsed hfails]
    · obtain ⟨expression, hexpression⟩ := Option.isSome_iff_exists.mp hexpression
      rw [run_of_expression hparsed hloads hexpression,
        run_of_expression hparsed hloads hexpression]
  · rw [run_of_failsToLoad hparsed hfails, run_of_failsToLoad hparsed hfails]

/-- The log is the only one to ask for the verbosity, and it is left out of what
is modelled. -/
theorem run_verbosity (hparsed : readers.options arguments = .ok options)
    {otherArguments : List String} {verbosity : Nat}
    (hother : readers.options otherArguments = .ok { options with verbosity })
    (files : Files) (stdin : List UInt8) :
    run readers otherArguments files stdin = run readers arguments files stdin := by
  rw [run, run, hparsed, hother]
  rfl

theorem run_historySize_of_loads (hlines : ∀ size, (readers.lineReader size).TakesLines)
    (hparsed : readers.options arguments = .ok options) {otherArguments : List String}
    {config : Option String} (hother : readers.options otherArguments = .ok { options with config })
    {size : Nat} (hloads : Loads readers.settings? options files settings)
    (hotherLoads : Loads readers.settings? { options with config } files
      { settings with historySize := size })
    (hdecode : Text.decode? stdin = some text) (hbackspace : '\x08' ∉ text.toList) :
    run readers otherArguments files stdin = run readers arguments files stdin := by
  cases hexpression : options.expression with
  | some expression =>
      rw [run_of_expression hparsed hloads hexpression,
        run_of_expression hother hotherLoads hexpression]
  | none =>
      rw [run_of_no_expression hlines hparsed hloads hexpression hdecode hbackspace,
        run_of_no_expression hlines hother hotherLoads hexpression hdecode hbackspace]
      exact congrArg (Outcome.ofTranscript _) (run_historySize
        { settings with showSteps := settings.showSteps || options.showSteps } files size {} _)

/-- **The program adds nothing to its parts.**  Once its arguments are read, a run
with a text without backspaces on the standard input leaves behind what `Answers`
says and nothing else: the failure to load the settings, the report on an
expression, or what a session on the lines of the text wrote and its exit code.
In the first two cases the standard input is not even read, and in all of them
neither the verbosity nor the size of the history matters. -/
theorem run_answers (hlines : ∀ size, (readers.lineReader size).TakesLines)
    (hparsed : readers.options arguments = .ok options) (files : Files) :
    (∀ stdin text, Text.decode? stdin = some text → '\x08' ∉ text.toList → ∀ outcome,
      run readers arguments files stdin = outcome ↔
        Answers readers.settings? options files text outcome) ∧
    ((∃ error, FailsToLoad readers.settings? options files error) ∨ options.expression.isSome →
      ∀ stdin other, run readers arguments files stdin = run readers arguments files other) ∧
    (∀ otherArguments verbosity,
      readers.options otherArguments = .ok { options with verbosity } →
      ∀ stdin, run readers otherArguments files stdin = run readers arguments files stdin) ∧
    (∀ otherArguments config settings size,
      readers.options otherArguments = .ok { options with config } →
      Loads readers.settings? options files settings →
      Loads readers.settings? { options with config } files { settings with historySize := size } →
      ∀ stdin text, Text.decode? stdin = some text → '\x08' ∉ text.toList →
        run readers otherArguments files stdin = run readers arguments files stdin) := by
  refine ⟨fun stdin text hdecode hbackspace outcome => ⟨?_, ?_⟩,
    fun hunread stdin other => run_stdin_unread hparsed hunread stdin other,
    fun otherArguments verbosity hother stdin => run_verbosity hparsed hother files stdin,
    fun otherArguments config settings size hother hloads hotherLoads stdin text hdecode
      hbackspace => run_historySize_of_loads hlines hparsed hother hloads hotherLoads hdecode
        hbackspace⟩
  · rintro rfl
    obtain ⟨outcome, hanswers⟩ := exists_answers readers.settings? options files text
    rwa [run_eq_of_answers hlines hparsed hdecode hbackspace hanswers]
  · exact run_eq_of_answers hlines hparsed hdecode hbackspace

end

/-- A directory with one settings file. -/
def menuFiles : Files := fun path =>
  if path = "menu.toml" then .ok "show_steps = true\nask_continue = false\n" else .error .notFound

/-- The settings of a file, with an expression and with the menu; a file that is
not there, and an expression without a value. -/
theorem run_answers_configured :
    run .standard ["-vc", "menu.toml", "--expr=1+1"] menuFiles [] =
        { code := 0, stdout := "Tokens:  1 + 1\nPostfix: 1 1 +\n2\n" } ∧
      run .standard ["-cmenu.toml"] menuFiles (Text.encode "3\r\n1+1\n4".toList) =
        { code := 0, stdout := Session.menu ++ "Tokens:  1 + 1\nPostfix: 1 1 +\n2\n" ++
            Session.menu ++ "Exiting...\n" } ∧
      run .standard ["--config", "other.toml", "-e1"] menuFiles [] =
        { code := 1, stderr := "Error: cannot read config file other.toml" } ∧
      run .standard ["-e", "2/0", "--show-steps"] menuFiles [] =
        { code := 1, stderr := "Error: Division by zero." } := by
  have hlines : ∀ size, (Readers.standard.lineReader size).TakesLines := fun _ => takesLines_piped
  have hempty : Text.decode? [] = some "" := Text.decode?_eq_some_iff.mpr rfl
  have hfile : Settings.ofFile Readers.standard.settings? "menu.toml" (menuFiles "menu.toml") =
      .ok { askContinue := false, showSteps := true } := by decide +kernel
  refine ⟨?_, ?_, ?_, ?_⟩
  · have hparsed : Readers.standard.options ["-vc", "menu.toml", "--expr=1+1"] =
        .ok { config := some "menu.toml", expression := some "1+1", verbosity := 1 } := rfl
    have hreport : Expr.report (true || false) "1+1" =
        .ok "Tokens:  1 + 1\nPostfix: 1 1 +\n2" := by decide +kernel
    obtain ⟨hrun, -⟩ := run_answers hlines hparsed menuFiles
    rw [(hrun [] "" hempty (by decide) _).mpr (.evaluated (.file rfl hfile) rfl hreport)]
    decide +kernel
  · have hparsed : Readers.standard.options ["-cmenu.toml"] =
        .ok { config := some "menu.toml" } := rfl
    have htext : Text.decode? (Text.encode "3\r\n1+1\n4".toList) = some "3\r\n1+1\n4" :=
      Text.decode?_eq_some_iff.mpr rfl
    obtain ⟨hrun, -⟩ := run_answers hlines hparsed menuFiles
    have hsession : (sessionOn { config := some "menu.toml" } menuFiles
        { askContinue := false, showSteps := true } "3\r\n1+1\n4").rest =
          "Exiting...\n".toUTF8 ∧
        (sessionOn { config := some "menu.toml" } menuFiles
          { askContinue := false, showSteps := true } "3\r\n1+1\n4").ending = .exit .normal := by
      decide +kernel
    have hanswers := Answers.played (.file rfl hfile) rfl hsession.1 hsession.2
    rw [(hrun _ _ htext (by decide) _).mpr hanswers]
    decide +kernel
  · have hparsed : Readers.standard.options ["--config", "other.toml", "-e1"] =
        .ok { config := some "other.toml", expression := some "1" } := rfl
    obtain ⟨hrun, -⟩ := run_answers hlines hparsed menuFiles
    have hfails : FailsToLoad Readers.standard.settings?
        { config := some "other.toml", expression := some "1" } menuFiles
        (.unreadable "other.toml") := ⟨_, rfl, rfl⟩
    rw [(hrun [] "" hempty (by decide) _).mpr (.unloaded hfails)]
    decide +kernel
  · have hparsed : Readers.standard.options ["-e", "2/0", "--show-steps"] =
        .ok { expression := some "2/0", showSteps := true } := rfl
    have hreport : Expr.report (({} : Settings).showSteps || true) "2/0" =
        .error .divisionByZero := by decide +kernel
    obtain ⟨hrun, -⟩ := run_answers hlines hparsed menuFiles
    rw [(hrun [] "" hempty (by decide) _).mpr (.refused (.defaults rfl) rfl hreport)]
    decide +kernel

end CipherCalc.CommandLine
