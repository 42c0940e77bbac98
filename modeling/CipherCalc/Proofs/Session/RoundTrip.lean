import CipherCalc.Proofs.Session.Ending
import CipherCalc.Proofs.Session.TextSource

/-!
# What the menu hides it can reveal

A text that was enciphered through the menu comes back when the report is
deciphered with the same shift (`run_roundTrip`).  On the way the text is looked at
for being blank, and line feeds at the end of a report are dropped; neither touches
a text that is not blank and has no line feed at its end, since a rotation keeps
blank characters and line feeds as they are.  A shift that is typed has 32 bits, so
the 64 bits of its negative never overflow (`toInt_neg_of_shiftOfLine?`).

An action is a row of questions.  `Reaches` says which one a row of lines leads to,
so that an action can be followed piece by piece, whatever comes before and after
(`Feeds.reaches`).
-/

namespace CipherCalc

/-! ## Texts that are hidden and revealed -/

namespace Cipher

theorem getLast?_encipher {plain : String} (hlast : plain.toList.getLast? ≠ some '\n')
    (key : Int64) : (encipher key plain).toList.getLast? ≠ some '\n' := by
  rw [encipher, toList_rotate, List.getLast?_map]
  intro hnewline
  obtain ⟨char, hchar, hmoved⟩ := Option.map_eq_some_iff.mp hnewline
  rw [rotateChar_eq_newline_iff] at hmoved
  exact hlast (hmoved ▸ hchar)

theorem trim_encipher_ne_empty {plain : String} (hvisible : Text.trim plain ≠ "") (key : Int64) :
    Text.trim (encipher key plain) ≠ "" := by
  rwa [Ne, Text.trim_eq_empty_iff, encipher, isBlankText_rotate, ← Text.trim_eq_empty_iff]

end Cipher

namespace Session

variable {settings : Settings} {files : Files} {flushFails : Bool} {task : Task} {shift : Int64}
  {text : String}

/-! ## Shifts that are typed -/

theorem toInt_of_shiftOfLine? {line : String} (hshift : shiftOfLine? line = some shift) :
    Int32.minValue.toInt ≤ shift.toInt ∧ shift.toInt ≤ Int32.maxValue.toInt := by
  simp only [shiftOfLine?, Option.ite_none_right_eq_some, Option.some_inj] at hshift
  obtain ⟨⟨-, -, hlow, hhigh⟩, rfl⟩ := hshift
  rw [Int64.toInt_ofInt_of_le]
  · exact ⟨hlow, hhigh⟩
  · exact Int.le_trans (by decide) hlow
  · exact Int.lt_of_le_of_lt hhigh (by decide)

/-- A shift that is typed has a negative. -/
theorem toInt_neg_of_shiftOfLine? {line : String} (hshift : shiftOfLine? line = some shift) :
    (-shift).toInt = -shift.toInt := by
  refine Cipher.toInt_neg_of_ne ?_
  rintro rfl
  exact absurd (toInt_of_shiftOfLine? hshift).1 (by decide)

/-- Lines at the end of which there is a shift, and none before. -/
inductive GivesShift (shift : Int64) : List String → Prop
  | last {line : String} : shiftOfLine? line = some shift → GivesShift shift [line]
  | refused {line : String} {lines : List String} : shiftOfLine? line = none →
      GivesShift shift lines → GivesShift shift (line :: lines)

theorem GivesShift.toInt_neg {lines : List String} (hgives : GivesShift shift lines) :
    (-shift).toInt = -shift.toInt := by
  induction hgives with
  | last hshift => exact toInt_neg_of_shiftOfLine? hshift
  | refused _ _ ih => exact ih

/-! ## Rows of lines -/

/-- Lines lead from one question to another, which is asked after a text, and are
counted nowhere. -/
def Reaches (settings : Settings) (files : Files) (question : Question) (lines : List String)
    (answer : String) (next : Question) : Prop :=
  ∀ flushFails tally lead, ∃ exchanges,
    Leads settings files ⟨{ flushFails }, tally, lead, question⟩ (lines.map .line) exchanges
      ⟨{ flushFails }, tally, answer, next⟩

variable {question middle next : Question} {answer : String} {line : String}
  {lines : List String}

theorem reaches_singleton (hreply : respond settings files question (.line line) =
    { text := answer, next := .ask next }) : Reaches settings files question [line] answer next := by
  intro flushFails tally lead
  have hnext : (respond settings files question (.line line)).next = .ask next := by rw [hreply]
  have hlast : Leads settings files
      (Moment.next ⟨{ flushFails }, tally, lead, question⟩ none
        (respond settings files question (.line line)) next) [] []
      ⟨{ flushFails }, tally, answer, next⟩ := by
    rw [hreply]
    exact .refl _
  exact ⟨_, .step (write_none lead) hnext hlast⟩

theorem Reaches.append {first second : List String} {asked : String}
    (hfirst : Reaches settings files question first asked middle)
    (hsecond : Reaches settings files middle second answer next) :
    Reaches settings files question (first ++ second) answer next := by
  intro flushFails tally lead
  obtain ⟨exchanges, hleads⟩ := hfirst flushFails tally lead
  obtain ⟨others, hothers⟩ := hsecond flushFails tally asked
  rw [List.map_append]
  exact ⟨exchanges ++ others, hleads.append hothers⟩

theorem Reaches.cons {asked : String}
    (hreply : respond settings files question (.line line) = { text := asked, next := .ask middle })
    (hlater : Reaches settings files middle lines answer next) :
    Reaches settings files question (line :: lines) answer next :=
  (reaches_singleton hreply).append hlater

/-- What is written where lines lead to is the text that they lead to. -/
theorem Reaches.text?_run (hreaches : Reaches settings files question lines answer next)
    {before later : List Event}
    (hprompt : (run settings files { flushFails }
      (before ++ (lines.map .line ++ later))).prompt? before.length = some question.prompt)
    (hunique : ∀ other : Question, other.prompt = question.prompt → other = question) :
    (run settings files { flushFails }
      (before ++ (lines.map .line ++ later))).text? (before.length + lines.length) =
        some answer := by
  obtain ⟨exchanges, tally, lead, asked, hlength, hasked, hrun⟩ :=
    exists_question_of_append hprompt
  obtain rfl := hunique asked hasked
  obtain ⟨others, hleads⟩ := hreaches flushFails tally lead
  have hothers : others.length = lines.length := hleads.length_eq.trans (List.length_map _)
  have hlater : converse settings files { flushFails } tally lead asked
      (lines.map .line ++ later) = _ := hleads.play_append later
  rw [hrun, hlater, ← hlength, ← hothers, Transcript.text?_afterAll]
  exact (Transcript.text?_afterAll others _ 0).trans
    (text?_converse_zero settings files flushFails tally answer next later)

/-! ## Actions -/

theorem Offers.reaches {prompt : String} (hoffers : Offers files task text lines prompt)
    (hreply : replyToText settings task text = { text := answer, next := .ask next }) :
    Reaches settings files (.source task) lines answer next := by
  obtain ⟨first, second, asked, rfl, -, hasks, htaken⟩ := hoffers.answers settings
  exact .cons hasks (reaches_singleton (htaken.trans hreply))

theorem GivesShift.reaches (hgives : GivesShift shift lines) (settings : Settings) (files : Files)
    (task : Task) (text : String) :
    Reaches settings files (.shift task text) lines
      (cipherReport task (task.result shift text) ++ turnEnd settings) (turnNext settings) := by
  induction hgives with
  | last hshift =>
      refine reaches_singleton ?_
      rw [respond_shift_of_some hshift, endTurn_eq]
  | refused hshift hgives ih => exact .cons (respond_shift_of_none hshift settings files task text) ih

/-- Lines that have a task done with a text and a shift, from the choice of the
task on. -/
inductive Feeds (files : Files) (text : String) (shift : Int64) : Task → List String → Prop
  | encipher {choice prompt : String} {offered shifts : List String} :
      Text.trim choice = "1" → Offers files .encipher text offered prompt →
      GivesShift shift shifts → Feeds files text shift .encipher (choice :: (offered ++ shifts))
  | decipher {choice prompt known : String} {first : Char} {offered shifts : List String} :
      Text.trim choice = "2" → Offers files .decipher text offered prompt →
      Text.firstVisible? known = some first → first ∈ ['y', 'Y'] →
      GivesShift shift shifts →
      Feeds files text shift .decipher (choice :: (offered ++ known :: shifts))

theorem Feeds.reaches (hfeeds : Feeds files text shift task lines) (hvisible : Text.trim text ≠ "")
    (settings : Settings) :
    Reaches settings files .choice lines
      (cipherReport task (task.result shift text) ++ turnEnd settings) (turnNext settings) := by
  have hblank : ¬ Text.isBlankText text := by rwa [← Text.trim_eq_empty_iff]
  cases hfeeds with
  | encipher hchoice hoffers hgives =>
      have htask : Choice.ofLine? _ = some Task.encipher.choice :=
        Choice.ofLine?_eq_some_iff.mpr hchoice
      have hnext : replyToText settings .encipher text = askNext (.shift .encipher text) :=
        if_neg hblank
      exact .cons (respond_choice_of_task htask settings files)
        ((hoffers.reaches hnext).append (hgives.reaches settings files .encipher text))
  | decipher hchoice hoffers hfirst hyes hgives =>
      have htask : Choice.ofLine? _ = some Task.decipher.choice :=
        Choice.ofLine?_eq_some_iff.mpr hchoice
      have hnext : replyToText settings .decipher text = askNext (.shiftKnown text) :=
        if_neg hblank
      have hknown : Consent.ofLine _ = .yes := Consent.ofLine_eq_yes_iff.mpr ⟨_, hfirst, hyes⟩
      exact .cons (respond_choice_of_task htask settings files)
        ((hoffers.reaches hnext).append (.cons (respond_shiftKnown_of_yes hknown settings files text)
          (hgives.reaches settings files .decipher text)))

/-- What a task writes is its report, if it is fed. -/
theorem Feeds.text?_run (hfeeds : Feeds files text shift task lines)
    (hvisible : Text.trim text ≠ "") {before later : List Event}
    (hprompt : (run settings files { flushFails }
      (before ++ (lines.map .line ++ later))).prompt? before.length = some "Enter your choice: ") :
    (run settings files { flushFails }
      (before ++ (lines.map .line ++ later))).text? (before.length + lines.length) =
        some (cipherReport task (task.result shift text) ++ turnEnd settings) :=
  (hfeeds.reaches hvisible settings).text?_run hprompt fun _ => eq_choice_of_prompt

theorem Feeds.toInt_neg (hfeeds : Feeds files text shift task lines) :
    (-shift).toInt = -shift.toInt := by
  cases hfeeds with
  | encipher _ _ hgives => exact hgives.toInt_neg
  | decipher _ _ _ _ hgives => exact hgives.toInt_neg

/-- **What the menu hides it can reveal.**  A text that is not blank and does not
end with a line feed is hidden as another such text under every shift, wherever in
a session that is done, and wherever in a session this one is taken back with the
same shift, the first one is written as it was.  The shift is typed in any form
that is taken for one, after any lines that are not, and its negative is a shift,
too. -/
theorem run_roundTrip {plain : String} (hvisible : Text.trim plain ≠ "")
    (hlast : plain.toList.getLast? ≠ some '\n') (key : Int64) :
    (Text.trim (Cipher.encipher key plain) ≠ "" ∧
      (Cipher.encipher key plain).toList.getLast? ≠ some '\n') ∧
    (∀ settings files flushFails before lines later, Feeds files plain key .encipher lines →
      (run settings files { flushFails }
          (before ++ (lines.map .line ++ later))).prompt? before.length =
        some "Enter your choice: " →
      (run settings files { flushFails }
          (before ++ (lines.map .line ++ later))).text? (before.length + lines.length) =
        some ("Result: " ++ Cipher.encipher key plain ++ "\n" ++ turnEnd settings)) ∧
    (∀ settings files flushFails before lines later,
      Feeds files (Cipher.encipher key plain) key .decipher lines →
      (run settings files { flushFails }
          (before ++ (lines.map .line ++ later))).prompt? before.length =
        some "Enter your choice: " →
      (run settings files { flushFails }
          (before ++ (lines.map .line ++ later))).text? (before.length + lines.length) =
        some ("Result:\n" ++ plain ++ "\n" ++ turnEnd settings)) ∧
    ∀ line shift, shiftOfLine? line = some shift →
      (Int32.minValue.toInt ≤ shift.toInt ∧ shift.toInt ≤ Int32.maxValue.toInt) ∧
        (-shift).toInt = -shift.toInt := by
  have hhidden := Cipher.trim_encipher_ne_empty hvisible key
  have hhiddenLast := Cipher.getLast?_encipher hlast key
  refine ⟨⟨hhidden, hhiddenLast⟩, ?_, ?_, fun line shift hshift =>
    ⟨toInt_of_shiftOfLine? hshift, toInt_neg_of_shiftOfLine? hshift⟩⟩
  · intro settings files flushFails before lines later hfeeds hprompt
    rw [hfeeds.text?_run hvisible hprompt]
    show some ("Result: " ++ Text.dropFinalNewlines (Cipher.encipher key plain) ++ _ ++ _) = _
    rw [Text.dropFinalNewlines_eq_self hhiddenLast]
  · intro settings files flushFails before lines later hfeeds hprompt
    have hneg := hfeeds.toInt_neg
    have hrevealed : Task.decipher.result key (Cipher.encipher key plain) = plain :=
      Cipher.rotate_cancel (by omega) plain
    rw [hfeeds.text?_run hhidden hprompt, hrevealed]
    show some ("Result:\n" ++ Text.dropFinalNewlines plain ++ _ ++ _) = _
    rw [Text.dropFinalNewlines_eq_self hlast]

/-- The lowest shift, after a line that is none.  The text has line feeds and blank
characters around it, and is taken back from a file. -/
theorem run_roundTrip_lowest :
    (Text.trim "\n Ёж, Fox \n\u00a0" ≠ "" ∧
      "\n Ёж, Fox \n\u00a0".toList.getLast? ≠ some '\n' ∧
      Cipher.encipher (-2147483648) "\n Ёж, Fox \n\u00a0" = "\n Де, Hqz \n\u00a0") ∧
    (run {} (fun _ => .ok "\n Де, Hqz \n\u00a0") {}
        [.line "1", .line "console", .line "\n Ёж, Fox \n\u00a0", .line "low",
          .line "-2147483648", .line "y", .line "2", .line "file", .line "hidden.txt",
          .line "Yes", .line " -002147483648 ", .line "n"]).text? 11 =
      some "Result:\n\n Ёж, Fox \n\u00a0\n" := by
  have hvisible : Text.trim "\n Ёж, Fox \n\u00a0" ≠ "" := by decide
  have hlast : "\n Ёж, Fox \n\u00a0".toList.getLast? ≠ some '\n' := by decide
  have hhidden : Cipher.encipher (-2147483648) "\n Ёж, Fox \n\u00a0" =
      "\n Де, Hqz \n\u00a0" := by decide +kernel
  have hchoice : Text.trim "2" = "2" := by decide
  have hoffers : Offers (fun _ => .ok "\n Де, Hqz \n\u00a0") .decipher
      (Cipher.encipher (-2147483648) "\n Ёж, Fox \n\u00a0") ["file", "hidden.txt"]
      "Enter the file path: " := by
    rw [hhidden]
    exact .file (by decide) rfl
  have hknown : Text.firstVisible? "Yes" = some 'Y' := by decide
  have hgives : GivesShift (-2147483648) [" -002147483648 "] := .last (by decide +kernel)
  have hfeeds : Feeds (fun _ => .ok "\n Де, Hqz \n\u00a0")
      (Cipher.encipher (-2147483648) "\n Ёж, Fox \n\u00a0") (-2147483648) .decipher
      ["2", "file", "hidden.txt", "Yes", " -002147483648 "] :=
    .decipher hchoice hoffers hknown (by decide) hgives
  have hprompt : (run {} (fun _ => .ok "\n Де, Hqz \n\u00a0") { flushFails := false }
      ([.line "1", .line "console", .line "\n Ёж, Fox \n\u00a0", .line "low",
          .line "-2147483648", .line "y"] ++
        (["2", "file", "hidden.txt", "Yes", " -002147483648 "].map .line ++
          [.line "n"]))).prompt? [Event.line "1", .line "console",
            .line "\n Ёж, Fox \n\u00a0", .line "low", .line "-2147483648", .line "y"].length =
        some "Enter your choice: " := by decide +kernel
  obtain ⟨-, -, hrevealed, -⟩ := run_roundTrip hvisible hlast (-2147483648)
  exact ⟨⟨hvisible, hlast, hhidden⟩, hrevealed _ _ _ _ _ _ hfeeds hprompt⟩

end Session

end CipherCalc
