import CipherCalc.Proofs.Session.Moment

/-!
# Transcripts that agree but for one text

A session remembers nothing of a turn that is over but its counters, so what
follows a question depends on nothing that was before it (`exists_later`).  Two
replies that ask the same question therefore lead to sessions that are the same
from there on, and only what the replies write and count makes a difference
(`AgreeButReply`).

This holds at every read of a session, since what was read before leads to the
question that is asked there (`exists_question_of_read`).
-/

namespace CipherCalc.Session

/-! ## Texts and prompts of a transcript -/

/-- The text that is written before a read. -/
def Transcript.text? (transcript : Transcript) (read : Nat) : Option String :=
  transcript.exchanges[read]?.map Exchange.text

/-- The prompt of a read. -/
def Transcript.prompt? (transcript : Transcript) (read : Nat) : Option String :=
  transcript.exchanges[read]?.map Exchange.prompt

theorem Transcript.text?_afterAll (exchanges : List Exchange) (transcript : Transcript)
    (read : Nat) : (transcript.afterAll exchanges).text? (exchanges.length + read) =
      transcript.text? read := by
  rw [text?, exchanges_afterAll, List.getElem?_append_right (Nat.le_add_right _ _),
    Nat.add_sub_cancel_left, text?]

/-- Two transcripts are the same but for the text before one read and for the
counters. -/
structure AgreeBut (index : Nat) (first second : Transcript) : Prop where
  prompts : ∀ read, second.prompt? read = first.prompt? read
  texts : ∀ read, read ≠ index → second.text? read = first.text? read
  rest : second.rest = first.rest
  unread : second.unread = first.unread
  ending : second.ending = first.ending

theorem AgreeBut.after {index : Nat} {first second : Transcript}
    (hagree : AgreeBut index first second) (exchange : Exchange) :
    AgreeBut (index + 1) (first.after exchange) (second.after exchange) where
  prompts read := by
    cases read with
    | zero => rfl
    | succ read => exact hagree.prompts read
  texts read hread := by
    cases read with
    | zero => rfl
    | succ read => exact hagree.texts read fun heq => hread (congrArg Nat.succ heq)
  rest := hagree.rest
  unread := hagree.unread
  ending := hagree.ending

/-- If the one text is the same, too, nothing is left to differ. -/
theorem AgreeBut.eq {index : Nat} {first second : Transcript}
    (hagree : AgreeBut index first second)
    (htext : second.text? index = first.text? index) (htally : second.tally = first.tally) :
    second = first := by
  have hexchanges : second.exchanges = first.exchanges := by
    refine List.ext_getElem? fun read => ?_
    have hprompt := hagree.prompts read
    have hsame : second.text? read = first.text? read := by
      by_cases hread : read = index
      · rw [hread, htext]
      · exact hagree.texts read hread
    unfold Transcript.prompt? at hprompt
    unfold Transcript.text? at hsame
    cases hfirst : first.exchanges[read]? with
    | none =>
        rw [hfirst, Option.map_none, Option.map_eq_none_iff] at hprompt
        exact hprompt
    | some exchange =>
        rw [hfirst, Option.map_some, Option.map_eq_some_iff] at hprompt hsame
        obtain ⟨other, hother, hotherPrompt⟩ := hprompt
        obtain ⟨same, hsecond, hotherText⟩ := hsame
        obtain rfl := Option.some.inj (hother.symm.trans hsecond)
        obtain ⟨text, prompt⟩ := exchange
        obtain ⟨otherText, otherPrompt⟩ := other
        rw [hother, Option.some_inj, Exchange.mk.injEq]
        exact ⟨hotherText, hotherPrompt⟩
  obtain ⟨exchanges, rest, tally, unread, ending⟩ := first
  obtain ⟨otherExchanges, otherRest, otherTally, otherUnread, otherEnding⟩ := second
  rw [Transcript.mk.injEq]
  exact ⟨hexchanges, hagree.rest, htally, hagree.unread, hagree.ending⟩

/-- Transcripts that differ in their first text only. -/
theorem agreeBut_zero (transcript : Transcript) (text other prompt : String)
    (tally otherTally : Tally) :
    AgreeBut 0 ({ transcript with tally }.after ⟨text, prompt⟩)
      ({ transcript with tally := otherTally }.after ⟨other, prompt⟩) where
  prompts read := by cases read <;> rfl
  texts read hread := by
    cases read with
    | zero => exact absurd rfl hread
    | succ read => rfl
  rest := rfl
  unread := rfl
  ending := rfl

/-! ## What follows a question -/

theorem Tally.add_assoc (first second third : Tally) :
    first + second + third = first + (second + third) := by
  show Tally.mk _ _ = Tally.mk _ _
  simp only [Tally.evaluations_add, Tally.errors_add, Nat.add_assoc]

theorem Tally.add_right_comm (first second third : Tally) :
    first + second + third = first + third + second := by
  show Tally.mk _ _ = Tally.mk _ _
  simp only [Tally.evaluations_add, Tally.errors_add, Nat.add_right_comm]

theorem Tally.add_zero (tally : Tally) : tally + {} = tally := rfl

variable {settings : Settings} {files : Files} {flushFails : Bool}

/-- What follows a question depends on nothing that was before it. -/
theorem exists_later (settings : Settings) (files : Files) (flushFails : Bool)
    (question : Question) (script : List Event) :
    ∃ (later : Transcript) (gain : Tally), ∀ tally text,
      converse settings files { flushFails } tally text question script =
        { later with tally := tally + gain }.after ⟨text, question.prompt⟩ := by
  -- the text and the counters are only passed on, so the record with empty ones is the pattern
  induction script generalizing question with
  | nil =>
      refine ⟨close { flushFails } {} "" (.exit .normal) [], {}, fun tally text => ?_⟩
      rw [converse_nil (write_none text), close_of_write (write_none ""),
        close_of_write (write_none ""), Tally.add_zero]
  | cons event script ih =>
      cases hnext : (respond settings files question event).next with
      | ask next =>
          obtain ⟨later, gain, hlater⟩ := ih next
          refine ⟨later.after ⟨(respond settings files question event).text, next.prompt⟩,
            (respond settings files question event).gain + gain, fun tally text => ?_⟩
          rw [converse_of_ask (write_none text) hnext, hlater, Tally.add_assoc]
          rfl
      | finish ending =>
          refine ⟨close { flushFails } {} (respond settings files question event).text ending
            script, (respond settings files question event).gain, fun tally text => ?_⟩
          rw [converse_of_finish (write_none text) hnext, close_of_write (write_none _),
            close_of_write (write_none _)]

theorem text?_converse_zero (settings : Settings) (files : Files) (flushFails : Bool)
    (tally : Tally) (text : String) (question : Question) (script : List Event) :
    (converse settings files { flushFails } tally text question script).text? 0 = some text := by
  obtain ⟨later, gain, hlater⟩ := exists_later settings files flushFails question script
  rw [hlater]
  rfl

/-- A reply that counts nothing hands over to its question. -/
theorem converse_of_reply {question next : Question} {event : Event} {answer : String}
    (hreply : respond settings files question event = { text := answer, next := .ask next })
    (tally : Tally) (text : String) (script : List Event) :
    converse settings files { flushFails } tally text question (event :: script) =
      (converse settings files { flushFails } tally answer next script).after
        ⟨text, question.prompt⟩ := by
  have hnext : (respond settings files question event).next = .ask next := by rw [hreply]
  rw [converse_of_ask (write_none text) hnext, hreply]
  rfl

/-- Two transcripts are the same but for what one reply writes and counts. -/
structure AgreeButReply (index : Nat) (reply other : Reply) (first second : Transcript) : Prop
    extends AgreeBut index first second where
  text : first.text? index = some reply.text
  otherText : second.text? index = some other.text
  tally : ∃ base : Tally, first.tally = base + reply.gain ∧ second.tally = base + other.gain

theorem AgreeButReply.after {index : Nat} {reply other : Reply} {first second : Transcript}
    (hagree : AgreeButReply index reply other first second) (exchange : Exchange) :
    AgreeButReply (index + 1) reply other (first.after exchange) (second.after exchange) where
  toAgreeBut := hagree.toAgreeBut.after exchange
  text := hagree.text
  otherText := hagree.otherText
  tally := hagree.tally

/-- Two sessions that ask in the same words and get replies that ask the same
question agree but for these replies. -/
theorem agreeButReply_of_ask {question other next : Question} {event otherEvent : Event}
    (hprompt : other.prompt = question.prompt)
    (hnext : (respond settings files question event).next = .ask next)
    (hother : (respond settings files other otherEvent).next = .ask next)
    (flushFails : Bool) (tally : Tally) (text : String) (script : List Event) :
    AgreeButReply 1 (respond settings files question event)
      (respond settings files other otherEvent)
      (converse settings files { flushFails } tally text question (event :: script))
      (converse settings files { flushFails } tally text other (otherEvent :: script)) := by
  obtain ⟨later, gain, hlater⟩ := exists_later settings files flushFails next script
  rw [converse_of_ask (write_none text) hnext, converse_of_ask (write_none text) hother, hlater,
    hlater, hprompt]
  constructor
  · exact (agreeBut_zero later _ _ next.prompt _ _).after _
  · rfl
  · rfl
  · refine ⟨tally + gain, ?_, ?_⟩
    · show tally + _ + gain = _
      rw [Tally.add_right_comm]
    · show tally + _ + gain = _
      rw [Tally.add_right_comm]

/-! ## A read in the middle of a session -/

/-- What lasts when an exchange is put before two transcripts lasts for several. -/
theorem afterAll_induction {motive : Nat → Transcript → Transcript → Prop}
    (after : ∀ index first second exchange, motive index first second →
      motive (index + 1) (first.after exchange) (second.after exchange))
    {index : Nat} {first second : Transcript} (holds : motive index first second)
    (exchanges : List Exchange) :
    motive (index + exchanges.length) (first.afterAll exchanges) (second.afterAll exchanges) := by
  induction exchanges with
  | nil => exact holds
  | cons exchange exchanges ih => exact after _ _ _ exchange ih

theorem AgreeButReply.afterAll {index : Nat} {reply other : Reply} {first second : Transcript}
    (hagree : AgreeButReply index reply other first second) (exchanges : List Exchange) :
    AgreeButReply (index + exchanges.length) reply other (first.afterAll exchanges)
      (second.afterAll exchanges) :=
  afterAll_induction (motive := fun index => AgreeButReply index reply other)
    (fun _ _ _ exchange hagree => hagree.after exchange) hagree exchanges

/-- A read is made at a question, whatever the script goes on with there. -/
theorem exists_question_of_append {before after : List Event} {prompt : String}
    (hprompt : (run settings files { flushFails } (before ++ after)).prompt? before.length =
      some prompt) :
    ∃ exchanges tally text question, exchanges.length = before.length ∧
      question.prompt = prompt ∧
      ∀ later, run settings files { flushFails } (before ++ later) =
        (converse settings files { flushFails } tally text question later).afterAll exchanges := by
  obtain ⟨exchange, hexchange, hasked⟩ := Option.map_eq_some_iff.mp hprompt
  obtain ⟨hread, -⟩ := List.getElem?_eq_some_iff.mp hexchange
  have hlength : before.length ≤ (before ++ after).length := by
    rw [List.length_append]
    exact Nat.le_add_right _ _
  rw [← play_first] at hread
  obtain ⟨exchanges, last, hleads, hexchanges, hlast⟩ := exists_leads_of_read hlength hread
  rw [List.take_left] at hleads
  have hconsole : last.console = { flushFails } := hleads.console_eq rfl
  refine ⟨exchanges, last.tally, last.text, last.question, hexchanges, ?_, fun later => ?_⟩
  · rw [play_first, hexchange] at hlast
    rw [← hasked, Option.some.inj hlast]
    rfl
  · rw [← play_first, hleads.play_append, Moment.play, hconsole]

/-- A read is made at a question, whatever is read there and behind it. -/
theorem exists_question_of_read {script : List Event} {index : Nat} {event : Event}
    {prompt : String} (hevent : script[index]? = some event)
    (hprompt : (run settings files { flushFails } script).prompt? index = some prompt) :
    ∃ exchanges tally text question, exchanges.length = index ∧ question.prompt = prompt ∧
      ∀ other, run settings files { flushFails } (script.set index other) =
        (converse settings files { flushFails } tally text question
          (other :: script.drop (index + 1))).afterAll exchanges := by
  obtain ⟨hindex, -⟩ := List.getElem?_eq_some_iff.mp hevent
  have hlength : (script.take index).length = index := by
    rw [List.length_take, Nat.min_eq_left (Nat.le_of_lt hindex)]
  have happend : (run settings files { flushFails }
      (script.take index ++ script.drop index)).prompt? (script.take index).length =
        some prompt := by
    rw [List.take_append_drop, hlength, hprompt]
  obtain ⟨exchanges, tally, text, question, hexchanges, hquestion, hrun⟩ :=
    exists_question_of_append happend
  refine ⟨exchanges, tally, text, question, hexchanges.trans hlength, hquestion, fun other => ?_⟩
  rw [List.set_eq_take_append_cons_drop, if_pos hindex, hrun]

theorem set_self_of_getElem? {α : Type} {list : List α} {index : Nat} {value : α}
    (hvalue : list[index]? = some value) : list.set index value = list := by
  obtain ⟨hindex, rfl⟩ := List.getElem?_eq_some_iff.mp hvalue
  exact List.set_getElem_self hindex

/-- Two things read at one place of a script that are answered with the same
question change nothing but the answer. -/
theorem exists_question_agreeButReply {script : List Event} {index : Nat} {event : Event}
    {prompt : String} (hevent : script[index]? = some event)
    (hprompt : (run settings files { flushFails } script).prompt? index = some prompt) :
    ∃ question : Question, question.prompt = prompt ∧
      ∀ other next, (respond settings files question event).next = .ask next →
        (respond settings files question other).next = .ask next →
        AgreeButReply (index + 1) (respond settings files question event)
          (respond settings files question other) (run settings files { flushFails } script)
          (run settings files { flushFails } (script.set index other)) := by
  obtain ⟨exchanges, tally, text, question, hlength, hquestion, hrun⟩ :=
    exists_question_of_read hevent hprompt
  have hself := hrun event
  rw [set_self_of_getElem? hevent] at hself
  refine ⟨question, hquestion, fun other next hnext hother => ?_⟩
  have hagree := (agreeButReply_of_ask rfl hnext hother flushFails tally text
    (script.drop (index + 1))).afterAll exchanges
  rwa [← hself, ← hrun other, hlength, Nat.add_comm] at hagree

end CipherCalc.Session
