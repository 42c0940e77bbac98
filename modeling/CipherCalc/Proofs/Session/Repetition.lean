import CipherCalc.Proofs.Session.Isolation
import CipherCalc.Proofs.Session.Ending

/-!
# A question that is asked again

A blank line is no answer to whether the session goes on, and a line that is no
shift is no answer to the question for one.  The session says so, or says nothing,
and asks again.  Nothing is left of such a line: the question carries the same
text and the counters stay (`respond_of_refused`).

So refused lines can be put into a script wherever these questions are asked, as
many as one likes, and all that they add to the session is the same question once
for each of them (`run_padded`).  The refused lines in front of one event are dealt
with by themselves (`converse_refused`); the rest follows the script.
-/

namespace CipherCalc.Session

/-! ## Refused lines -/

/-- A line read at a prompt that is not taken for an answer. -/
inductive Refused : String → String → Prop
  | again {line : String} : Text.trim line = "" → Refused "Continue? (y/n): " line
  | shift {line : String} : shiftOfLine? line = none → Refused "Enter shift value: " line

/-- What is said of a line that a prompt refused. -/
def remark (prompt : String) : String :=
  if prompt = "Enter shift value: " then "Invalid input. Enter an integer for the shift.\n" else ""

/-- How a prompt is shown again after a line that it refused. -/
def repetition (prompt : String) : Exchange :=
  ⟨remark prompt, prompt⟩

variable {settings : Settings} {files : Files} {flushFails : Bool} {padding : Nat → List String}

/-- A refused line is forgotten. -/
theorem respond_of_refused {question : Question} {line : String}
    (hrefused : Refused question.prompt line) (settings : Settings) (files : Files) :
    respond settings files question (.line line) =
      { text := remark question.prompt, next := .ask question } := by
  generalize hprompt : question.prompt = prompt at hrefused
  cases hrefused with
  | again hblank =>
      obtain rfl := eq_again_of_prompt hprompt
      show replyToAgain line = _
      rw [replyToAgain, if_pos (Text.trim_eq_empty_iff.mp hblank)]
      rfl
  | shift hshift =>
      obtain ⟨task, text, rfl⟩ := exists_eq_shift_of_prompt hprompt
      exact respond_shift_of_none hshift settings files task text

/-- Refused lines in front of an event repeat its question and leave the rest. -/
theorem converse_refused {question : Question} {lines : List String}
    (hrefused : ∀ line ∈ lines, Refused question.prompt line) {tally : Tally} {script : List Event}
    {rest : Transcript}
    (hrest : ∀ text, converse settings files { flushFails } tally text question script =
      rest.after ⟨text, question.prompt⟩) (text : String) :
    converse settings files { flushFails } tally text question (lines.map .line ++ script) =
      (rest.afterAll (lines.map fun _ => repetition question.prompt)).after
        ⟨text, question.prompt⟩ := by
  induction lines generalizing text with
  | nil => exact hrest text
  | cons line lines ih =>
      have hreply := respond_of_refused (hrefused line List.mem_cons_self) settings files
      rw [List.map_cons, List.cons_append, converse_of_reply hreply]
      exact congrArg (Transcript.after _)
        (ih (fun line hline => hrefused line (List.mem_cons_of_mem _ hline)) (remark question.prompt))

/-! ## Padded scripts -/

/-- A script with lines put in front of its events and at its end. -/
def padded (padding : Nat → List String) : List Event → List Event
  | [] => (padding 0).map .line
  | event :: later =>
      (padding 0).map .line ++ event :: padded (fun read => padding (read + 1)) later

/-- Exchanges with a repetition after each for every line put there. -/
def repeated (padding : Nat → List String) : List Exchange → List Exchange
  | [] => []
  | exchange :: later =>
      exchange :: ((padding 0).map fun _ => repetition exchange.prompt) ++
        repeated (fun read => padding (read + 1)) later

/-- The record of a session with questions asked again. -/
def Transcript.repeating (padding : Nat → List String) (transcript : Transcript) : Transcript :=
  { transcript with exchanges := repeated padding transcript.exchanges }

theorem Transcript.repeating_after (padding : Nat → List String) (transcript : Transcript)
    (exchange : Exchange) :
    (transcript.after exchange).repeating padding =
      ((transcript.repeating fun read => padding (read + 1)).afterAll
        ((padding 0).map fun _ => repetition exchange.prompt)).after exchange := rfl

theorem Transcript.repeating_of_exchanges_eq_nil {transcript : Transcript}
    (hnone : transcript.exchanges = []) (padding : Nat → List String) :
    transcript.repeating padding = transcript := by
  rw [repeating, hnone, repeated, ← hnone]

/-- Lines are put only where a session asks a question that refuses them. -/
def Pads (padding : Nat → List String) (transcript : Transcript) : Prop :=
  ∀ read, ∀ line ∈ padding read, ∃ prompt,
    transcript.prompt? read = some prompt ∧ Refused prompt line

theorem Pads.refused {transcript : Transcript} {exchange : Exchange}
    (hpads : Pads padding (transcript.after exchange)) :
    ∀ line ∈ padding 0, Refused exchange.prompt line := by
  intro line hline
  obtain ⟨prompt, hprompt, hrefused⟩ := hpads 0 line hline
  obtain rfl := Option.some.inj hprompt
  exact hrefused

theorem Pads.later {transcript : Transcript} {exchange : Exchange}
    (hpads : Pads padding (transcript.after exchange)) :
    Pads (fun read => padding (read + 1)) transcript :=
  fun read line hline => hpads (read + 1) line hline

/-- Nothing can be put where nothing is asked. -/
theorem Pads.padded_eq {transcript : Transcript} (hpads : Pads padding transcript)
    (hnone : transcript.exchanges = []) (script : List Event) : padded padding script = script := by
  have hempty : ∀ read, padding read = [] := by
    intro read
    refine List.eq_nil_iff_forall_not_mem.mpr fun line hline => ?_
    obtain ⟨prompt, hprompt, -⟩ := hpads read line hline
    simp [Transcript.prompt?, hnone] at hprompt
  clear hpads
  induction script generalizing padding with
  | nil => rw [padded, hempty, List.map_nil]
  | cons event later ih =>
      rw [padded, hempty, ih fun read => hempty (read + 1)]
      rfl

theorem converse_padded {tally : Tally} {text : String} {question : Question} {script : List Event}
    (hpads : Pads padding (converse settings files { flushFails } tally text question script)) :
    converse settings files { flushFails } tally text question (padded padding script) =
      (converse settings files { flushFails } tally text question script).repeating padding := by
  -- the refused lines in front of an event are read at its question, and then the event itself
  induction script generalizing padding tally text question with
  | nil =>
      rw [converse_nil (write_none text)] at hpads ⊢
      rw [padded, ← List.append_nil (List.map _ _),
        converse_refused hpads.refused fun other => converse_nil (write_none other) ..,
        Transcript.repeating_after,
        Transcript.repeating_of_exchanges_eq_nil (exchanges_close _ _ _ _ _)]
  | cons event later ih =>
      cases hnext : (respond settings files question event).next with
      | ask next =>
          rw [converse_of_ask (write_none text) hnext] at hpads ⊢
          rw [padded, converse_refused hpads.refused fun other =>
            converse_of_ask (write_none other) hnext .., ih hpads.later,
            Transcript.repeating_after]
      | finish ending =>
          rw [converse_of_finish (write_none text) hnext] at hpads ⊢
          rw [padded, hpads.later.padded_eq (exchanges_close _ _ _ _ _),
            converse_refused hpads.refused fun other =>
              converse_of_finish (write_none other) hnext ..,
            Transcript.repeating_after,
            Transcript.repeating_of_exchanges_eq_nil (exchanges_close _ _ _ _ _)]

/-- **A refused line repeats its question and does nothing else.**  Blank lines can
be put into a script wherever the session asks whether to go on, and lines that
are no shift wherever it asks for one.  Each of them adds one read with the same
prompt, right after the read in front of which it stands, with no text or with the
remark that it is no integer.  All other reads, texts, counters, unread events and
the end of the session stay as they are. -/
theorem run_padded {script : List Event}
    (hpads : Pads padding (run settings files { flushFails } script)) :
    run settings files { flushFails } (padded padding script) =
      (run settings files { flushFails } script).repeating padding :=
  converse_padded hpads

/-- A word and a fraction in front of a shift, and a blank line in front of a no. -/
theorem run_padded_wordsAndBlank :
    Pads (fun read => if read = 3 then ["x", "1.5"] else if read = 4 then [" "] else [])
        (run {} (fun _ => .error .notFound) {}
          [.line "1", .line "console", .line "abc", .line "1", .line "n"]) ∧
      run {} (fun _ => .error .notFound) {}
          [.line "1", .line "console", .line "abc", .line "x", .line "1.5", .line "1", .line " ",
            .line "n"] =
        (run {} (fun _ => .error .notFound) {}
          [.line "1", .line "console", .line "abc", .line "1", .line "n"]).repeating
            fun read => if read = 3 then ["x", "1.5"] else if read = 4 then [" "] else [] := by
  have hpads : Pads (fun read => if read = 3 then ["x", "1.5"] else if read = 4 then [" "] else [])
      (run {} (fun _ => .error .notFound) {}
        [.line "1", .line "console", .line "abc", .line "1", .line "n"]) := by
    intro read line hline
    dsimp only at hline
    split at hline
    · subst read
      refine ⟨"Enter shift value: ", by decide +kernel, .shift ?_⟩
      have hall : ∀ line ∈ ["x", "1.5"], shiftOfLine? line = none := by decide +kernel
      exact hall line hline
    · split at hline
      · subst read
        refine ⟨"Continue? (y/n): ", by decide +kernel, .again ?_⟩
        obtain rfl := List.mem_singleton.mp hline
        decide
      · cases hline
  exact ⟨hpads, run_padded hpads⟩

end CipherCalc.Session
