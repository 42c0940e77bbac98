import CipherCalc.Proofs.Cipher.Listing
import CipherCalc.Proofs.Session.Isolation

/-!
# Where a text comes from does not matter

A text is typed or comes from a file, and a file may end with line feeds that
nobody would type.  They leave no trace: a text is blank with them if it is blank
without them, a listing is trimmed before it is made, and the report of a known
shift drops them with the line feeds of the text itself (`reportsAlike_newlines`).

The two texts are still carried along as they are, so the sessions go through
twin questions (`Twins`) until the report, which is the same for both
(`Twins.converse_eq`).  All that differs is the prompt at which the text was read
or the path of its file (`run_textSource`).
-/

namespace CipherCalc

/-! ## Line feeds behind a text -/

namespace Text

/-- A text of line feeds alone. -/
def newlines (count : Nat) : String :=
  String.ofList (List.replicate count '\n')

theorem eq_newline_of_mem_newlines {count : Nat} {char : Char}
    (hchar : char ∈ (newlines count).toList) : char = '\n' := by
  rw [newlines, String.toList_ofList] at hchar
  exact List.eq_of_mem_replicate hchar

theorem isBlankText_newlines (count : Nat) : isBlankText (newlines count) := by
  rw [isBlankText, List.all_eq_true]
  intro char hchar
  rw [eq_newline_of_mem_newlines hchar]
  decide

theorem isBlankText_append_newlines (text : String) (count : Nat) :
    isBlankText (text ++ newlines count) = isBlankText text := by
  have hblank : (newlines count).toList.all isBlank = true := isBlankText_newlines count
  rw [isBlankText, String.toList_append, List.all_append, hblank, Bool.and_true, isBlankText]

end Text

namespace Cipher

theorem dropFinalNewlines_rotate_append (shift : Int64) (only : Option Alphabet) (text : String)
    (count : Nat) :
    Text.dropFinalNewlines (rotate shift only (text ++ Text.newlines count)) =
      Text.dropFinalNewlines (rotate shift only text) := by
  rw [← String.toList_inj, Text.toList_dropFinalNewlines, Text.toList_dropFinalNewlines,
    toList_rotate, toList_rotate, String.toList_append, List.map_append]
  refine Text.dropEndWhile_append_of_forall fun char hchar => ?_
  obtain ⟨newline, hnewline, rfl⟩ := List.mem_map.mp hchar
  rw [beq_iff_eq, rotateChar_eq_newline_iff]
  exact Text.eq_newline_of_mem_newlines hnewline

theorem listing_append_newlines (text : String) (count : Nat) :
    listing (text ++ Text.newlines count) = listing text := by
  rw [listing, Text.trim_append (Text.isBlankText_newlines count), listing]

end Cipher

namespace Session

variable {settings : Settings} {files : Files} {flushFails : Bool} {task : Task}
  {first second : String}

/-! ## Texts with the same reports -/

/-- Two texts of which a task reports the same, whatever is known of the shift. -/
structure ReportsAlike (task : Task) (first second : String) : Prop where
  blank : Text.isBlankText second = Text.isBlankText first
  shift : ∀ shift, cipherReport task (task.result shift second) =
    cipherReport task (task.result shift first)
  unknown : cipherReport .decipher (Cipher.reveal .unknown second) =
    cipherReport .decipher (Cipher.reveal .unknown first)

theorem reportsAlike_newlines (task : Task) (text : String) (count : Nat) :
    ReportsAlike task text (text ++ Text.newlines count) where
  blank := Text.isBlankText_append_newlines text count
  shift shift := by
    have hdropped : Text.dropFinalNewlines (task.result shift (text ++ Text.newlines count)) =
        Text.dropFinalNewlines (task.result shift text) := by
      cases task <;> exact Cipher.dropFinalNewlines_rotate_append _ none text count
    unfold cipherReport
    rw [hdropped]
  unknown := congrArg (cipherReport .decipher) (Cipher.listing_append_newlines text count)

theorem Reports.eq_of_alike (halike : ReportsAlike task first second) {prompt line : String}
    {report other : String} (hreports : Reports task first prompt line report)
    (hother : Reports task second prompt line other) : other = report := by
  generalize hprompt : prompt = same at hother
  cases hreports with
  | shift hshift =>
      cases hother with
      | shift hsame =>
          obtain rfl := Option.some.inj (hshift.symm.trans hsame)
          exact halike.shift _
      | unknown => exact absurd hprompt (by decide)
  | unknown =>
      cases hother with
      | shift => exact absurd hprompt (by decide)
      | unknown => exact halike.unknown

/-- Sessions that go on from twins are the same if their texts are reported alike. -/
theorem Twins.converse_eq {question other : Question}
    (htwins : Twins task first second question other) (halike : ReportsAlike task first second)
    (settings : Settings) (files : Files) (flushFails : Bool) (tally : Tally) (text : String)
    (script : List Event) :
    converse settings files { flushFails } tally text other script =
      converse settings files { flushFails } tally text question script := by
  rcases htwins.run settings files flushFails tally text script with heq | ⟨read, line, -, hapart⟩
  · exact heq
  · obtain ⟨prompt, report, hprompt, hreports, htext⟩ := hapart.report
    obtain ⟨otherPrompt, otherReport, hotherPrompt, hother, hotherText⟩ := hapart.otherReport
    rw [hapart.prompts, hprompt] at hotherPrompt
    obtain rfl := Option.some.inj hotherPrompt
    obtain rfl := hreports.eq_of_alike halike hother
    exact hapart.toAgreeBut.eq (hotherText.trans htext.symm) hapart.tally

/-- Texts that are reported alike are taken alike. -/
theorem exists_replyToText_of_alike (halike : ReportsAlike task first second)
    (settings : Settings) :
    ∃ answer question other, (question = other ∨ Twins task first second question other) ∧
      replyToText settings task first = { text := answer, next := .ask question } ∧
      replyToText settings task second = { text := answer, next := .ask other } := by
  by_cases hblank : Text.isBlankText first = true
  · have hother : Text.isBlankText second = true := halike.blank.trans hblank
    rw [replyToText_of_blank hblank, replyToText_of_blank hother, endTurn_eq]
    exact ⟨_, _, _, .inl rfl, rfl, rfl⟩
  · have hother : ¬ Text.isBlankText second = true := by rwa [halike.blank]
    obtain ⟨question, other, htwins, hquestion, hasked⟩ :=
      exists_twins_of_text hblank hother settings
    exact ⟨"", question, other, .inr htwins, hquestion, hasked⟩

/-! ## Two ways to offer a text -/

/-- Lines that offer a text to a task that asks where it is, and the prompt at
which it is read or its path is. -/
inductive Offers (files : Files) (task : Task) (text : String) : List String → String → Prop
  | typed {source : String} : Text.trim source = "console" →
      Offers files task text [source, text] ("Enter text to " ++ task.verb ++ ": ")
  | file {source path : String} : Text.trim source = "file" →
      files (Text.trim path) = .ok text →
      Offers files task text [source, path] "Enter the file path: "

/-- The first line has the other one asked for, and with that the text is taken. -/
theorem Offers.answers {text prompt : String} {lines : List String}
    (hoffers : Offers files task text lines prompt) (settings : Settings) :
    ∃ first second question, lines = [first, second] ∧ question.prompt = prompt ∧
      respond settings files (.source task) (.line first) = askNext question ∧
      respond settings files question (.line second) = replyToText settings task text := by
  cases hoffers with
  | @typed source hsource =>
      have hnamed : Source.ofLine? source = some .typed := Source.ofLine?_eq_some_iff.mpr hsource
      exact ⟨source, text, .text task, rfl, rfl, respond_source hnamed settings files task, rfl⟩
  | @file source path hsource hcontent =>
      have hnamed : Source.ofLine? source = some .file := Source.ofLine?_eq_some_iff.mpr hsource
      refine ⟨source, path, .path task, rfl, rfl, respond_source hnamed settings files task, ?_⟩
      show replyToPath settings files task path = _
      rw [replyToPath, hcontent]

theorem Offers.converse_eq {text prompt : String} {lines : List String}
    (hoffers : Offers files task text lines prompt) {answer : String} {next : Question}
    (hreply : replyToText settings task text = { text := answer, next := .ask next })
    (flushFails : Bool) (tally : Tally) (lead : String) (later : List Event) :
    converse settings files { flushFails } tally lead (.source task) (lines.map .line ++ later) =
      ((converse settings files { flushFails } tally answer next later).after ⟨"", prompt⟩).after
        ⟨lead, "Where is the text? (console/file): "⟩ := by
  obtain ⟨first, second, question, rfl, rfl, hasks, htaken⟩ := hoffers.answers settings
  rw [hreply] at htaken
  exact (converse_of_reply hasks _ _ _).trans
    (congrArg (Transcript.after _) (converse_of_reply htaken _ _ _))

/-! ## Sessions -/

/-- Two transcripts are the same, but at one read the first asks for a text and the
second for the path of its file. -/
structure SourcesApart (index : Nat) (typed file : Transcript) : Prop where
  typedPrompt : ∃ task : Task, typed.prompt? index = some ("Enter text to " ++ task.verb ++ ": ")
  filePrompt : file.prompt? index = some "Enter the file path: "
  prompts : ∀ read, read ≠ index → file.prompt? read = typed.prompt? read
  texts : ∀ read, file.text? read = typed.text? read
  rest : file.rest = typed.rest
  tally : file.tally = typed.tally
  unread : file.unread = typed.unread
  ending : file.ending = typed.ending

theorem sourcesApart_zero (transcript : Transcript) (task : Task) (text : String) :
    SourcesApart 0 (transcript.after ⟨text, "Enter text to " ++ task.verb ++ ": "⟩)
      (transcript.after ⟨text, "Enter the file path: "⟩) where
  typedPrompt := ⟨task, rfl⟩
  filePrompt := rfl
  prompts read hread := by
    cases read with
    | zero => exact absurd rfl hread
    | succ read => rfl
  texts read := by cases read <;> rfl
  rest := rfl
  tally := rfl
  unread := rfl
  ending := rfl

theorem SourcesApart.after {index : Nat} {typed file : Transcript}
    (hapart : SourcesApart index typed file) (exchange : Exchange) :
    SourcesApart (index + 1) (typed.after exchange) (file.after exchange) where
  typedPrompt := hapart.typedPrompt
  filePrompt := hapart.filePrompt
  prompts read hread := by
    cases read with
    | zero => rfl
    | succ read => exact hapart.prompts read fun heq => hread (congrArg Nat.succ heq)
  texts read := by
    cases read with
    | zero => rfl
    | succ read => exact hapart.texts read
  rest := hapart.rest
  tally := hapart.tally
  unread := hapart.unread
  ending := hapart.ending

section

variable {before later : List Event} {typed file path text : String} {count : Nat}

/-- **Where a text comes from does not matter.**  A session that is asked where a
text is and takes it from a file, with any number of line feeds behind it, goes on
like the one in which the text is typed: with the same texts and prompts, the same
counters and the same end.  Only the prompt for the path stands in place of the one
for the text.  So it is for a blank text, which both refuse. -/
theorem run_textSource (htyped : Text.trim typed = "console") (hfile : Text.trim file = "file")
    (hprompt : (run settings files { flushFails }
      (before ++ .line file :: .line path :: later)).prompt? before.length =
        some "Where is the text? (console/file): ")
    (hcontent : files (Text.trim path) = .ok (text ++ Text.newlines count)) :
    SourcesApart (before.length + 1)
        (run settings files { flushFails } (before ++ .line typed :: .line text :: later))
        (run settings files { flushFails } (before ++ .line file :: .line path :: later)) ∧
      (Text.trim text = "" →
        (run settings files { flushFails }
          (before ++ .line typed :: .line text :: later)).text? (before.length + 2) =
            some ("Error: input text is empty.\n" ++ turnEnd settings)) := by
  obtain ⟨exchanges, tally, lead, question, hlength, hquestion, hrun⟩ :=
    exists_question_of_append hprompt
  obtain ⟨task, rfl⟩ := exists_eq_source_of_prompt hquestion
  have halike := reportsAlike_newlines task text count
  obtain ⟨answer, next, other, hsame, hreply, hotherReply⟩ :=
    exists_replyToText_of_alike halike settings
  have hlater : converse settings files { flushFails } tally answer other later =
      converse settings files { flushFails } tally answer next later := by
    rcases hsame with rfl | htwins
    · rfl
    · exact htwins.converse_eq halike settings files flushFails tally answer later
  have hoffersTyped : Offers files task text [typed, text] _ := .typed htyped
  have hoffersFile : Offers files task (text ++ Text.newlines count) [file, path] _ :=
    .file hfile hcontent
  have hfromTyped := hoffersTyped.converse_eq hreply flushFails tally lead later
  have hfromFile := hoffersFile.converse_eq hotherReply flushFails tally lead later
  rw [hlater] at hfromFile
  have htypedRun := (hrun (.line typed :: .line text :: later)).trans
    (congrArg (Transcript.afterAll exchanges) hfromTyped)
  have hfileRun := (hrun (.line file :: .line path :: later)).trans
    (congrArg (Transcript.afterAll exchanges) hfromFile)
  rw [htypedRun, hfileRun]
  constructor
  · have hapart := afterAll_induction (motive := SourcesApart)
      (fun _ _ _ exchange hapart => hapart.after exchange)
      ((sourcesApart_zero (converse settings files { flushFails } tally answer next later) task
        "").after ⟨lead, "Where is the text? (console/file): "⟩) exchanges
    rwa [hlength, Nat.zero_add, Nat.add_comm] at hapart
  · intro hblank
    rw [← hlength, Transcript.text?_afterAll]
    have hrefused := replyToText_of_blank (Text.trim_eq_empty_iff.mp hblank) settings task
    rw [hreply, endTurn_eq] at hrefused
    have hanswer : answer = "Error: input text is empty.\n" ++ turnEnd settings :=
      congrArg Reply.text hrefused
    rw [← hanswer]
    exact text?_converse_zero settings files flushFails tally answer next later

end

/-- A text that ends with a line feed, in a file with two more, and a blank one. -/
theorem run_textSource_lineFeeds :
    (Text.trim " console" = "console" ∧ Text.trim "file " = "file" ∧
      (run {} (fun _ => .ok "Khoor \n\n\n") {} [.line "2", .line "file ", .line "hello.txt",
        .line "y", .line "3", .line "n"]).prompt? 1 = some "Where is the text? (console/file): " ∧
      SourcesApart 2
        (run {} (fun _ => .ok "Khoor \n\n\n") {} [.line "2", .line " console", .line "Khoor \n",
          .line "y", .line "3", .line "n"])
        (run {} (fun _ => .ok "Khoor \n\n\n") {} [.line "2", .line "file ", .line "hello.txt",
          .line "y", .line "3", .line "n"])) ∧
    (run {} (fun _ => .ok " \n") {} [.line "1", .line " console", .line " "]).text? 3 =
      some "Error: input text is empty.\n" := by
  have htyped : Text.trim " console" = "console" := by decide
  have hfile : Text.trim "file " = "file" := by decide
  have hcontent : (Except.ok "Khoor \n\n\n" : Except FileError String) =
      .ok ("Khoor \n" ++ Text.newlines 2) := by decide
  have hprompt : (run {} (fun _ => .ok "Khoor \n\n\n") { flushFails := false }
      ([.line "2"] ++ .line "file " :: .line "hello.txt" ::
        [.line "y", .line "3", .line "n"])).prompt? [Event.line "2"].length =
          some "Where is the text? (console/file): " := by decide +kernel
  have hblankContent : (Except.ok " \n" : Except FileError String) =
      .ok (" " ++ Text.newlines 1) := by decide
  have hblankPrompt : (run {} (fun _ => .ok " \n") { flushFails := false }
      ([.line "1"] ++ .line "file " :: .line "hello.txt" :: [])).prompt? [Event.line "1"].length =
        some "Where is the text? (console/file): " := by decide +kernel
  obtain ⟨hapart, -⟩ := run_textSource htyped hfile hprompt hcontent
  obtain ⟨-, hrefused⟩ := run_textSource htyped hfile hblankPrompt hblankContent
  exact ⟨⟨htyped, hfile, hprompt, hapart⟩, hrefused (by decide)⟩

end Session

end CipherCalc
