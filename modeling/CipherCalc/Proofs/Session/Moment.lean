import CipherCalc.Proofs.Session.Exchanges

/-!
# The moments of a session

`Moment` is all that a session carries from one question to the next.  The events
of a script lead it on, one a question (`Leads`), and either they lead to another
moment, or the session is over within them (`Stops`).

In both cases a longer script changes nothing before its new events: the
exchanges that the first events led to stay as they are (`Leads.play_append`,
`Stops.play_append`).  So two scripts with the same beginning can be compared at
the moment where they part.
-/

namespace CipherCalc.Session

/-! ## Several exchanges -/

/-- The record of a session with more questions at its start. -/
def Transcript.afterAll (exchanges : List Exchange) (transcript : Transcript) : Transcript :=
  { transcript with exchanges := exchanges ++ transcript.exchanges }

@[simp] theorem Transcript.exchanges_afterAll (exchanges : List Exchange)
    (transcript : Transcript) :
    (transcript.afterAll exchanges).exchanges = exchanges ++ transcript.exchanges := rfl

@[simp] theorem Transcript.unread_afterAll (exchanges : List Exchange)
    (transcript : Transcript) : (transcript.afterAll exchanges).unread = transcript.unread := rfl

theorem Transcript.after_afterAll (exchange : Exchange) (exchanges : List Exchange)
    (transcript : Transcript) :
    (transcript.afterAll exchanges).after exchange =
      transcript.afterAll (exchange :: exchanges) := rfl

/-! ## Moments -/

/-- What a session is about to do, and the console and the counters then. -/
structure Moment where
  console : Console
  tally : Tally
  /-- The text that is written next. -/
  text : String
  /-- The question that is asked after that. -/
  question : Question

namespace Moment

/-- The beginning of a session. -/
def first (console : Console) : Moment :=
  { console, tally := {}, text := menu, question := .choice }

/-- The exchange of a moment, if its text can be written. -/
def exchange (moment : Moment) : Exchange :=
  ⟨moment.text, moment.question.prompt⟩

/-- The moment that a reply leads to. -/
def next (moment : Moment) (capacity : Option Nat) (reply : Reply) (question : Question) :
    Moment :=
  { console := { moment.console with capacity }
    tally := moment.tally + reply.gain
    text := reply.text
    question }

/-- A session from a moment on. -/
def play (settings : Settings) (files : Files) (moment : Moment) (script : List Event) :
    Transcript :=
  converse settings files moment.console moment.tally moment.text moment.question script

end Moment

theorem play_first (settings : Settings) (files : Files) (console : Console)
    (script : List Event) :
    (Moment.first console).play settings files script = run settings files console script := rfl

/-- Events lead from one moment to another, through exchanges. -/
inductive Leads (settings : Settings) (files : Files) :
    Moment → List Event → List Exchange → Moment → Prop
  | refl (moment : Moment) : Leads settings files moment [] [] moment
  | step {moment last : Moment} {capacity : Option Nat} {event : Event} {question : Question}
      {later : List Event} {exchanges : List Exchange} :
      write moment.console.capacity moment.text = .ok capacity →
      (respond settings files moment.question event).next = .ask question →
      Leads settings files
        (moment.next capacity (respond settings files moment.question event) question)
        later exchanges last →
      Leads settings files moment (event :: later) (moment.exchange :: exchanges) last

/-- A session is over within some events. -/
structure Stops (settings : Settings) (files : Files) (moment : Moment) (events : List Event) :
    Prop where
  length_le : (moment.play settings files events).exchanges.length ≤ events.length
  unread : (moment.play settings files events).unread =
    events.drop (moment.play settings files events).exchanges.length
  play_append : ∀ later, moment.play settings files (events ++ later) =
    { moment.play settings files events with
      unread := (moment.play settings files events).unread ++ later }

variable {settings : Settings} {files : Files} {moment last : Moment} {event : Event}
  {events : List Event} {exchanges : List Exchange}

theorem Leads.length_eq (hleads : Leads settings files moment events exchanges last) :
    exchanges.length = events.length := by
  induction hleads with
  | refl => rfl
  | step hwrite hnext hleads ih => rw [List.length_cons, List.length_cons, ih]

theorem Leads.play_append (hleads : Leads settings files moment events exchanges last)
    (later : List Event) :
    moment.play settings files (events ++ later) =
      (last.play settings files later).afterAll exchanges := by
  induction hleads with
  | refl => rfl
  | step hwrite hnext hleads ih =>
      rw [← Transcript.after_afterAll, ← ih]
      exact converse_of_ask hwrite hnext _ _

theorem Leads.append {later : List Event} {others : List Exchange} {final : Moment}
    (hleads : Leads settings files moment events exchanges last)
    (hlater : Leads settings files last later others final) :
    Leads settings files moment (events ++ later) (exchanges ++ others) final := by
  induction hleads with
  | refl => exact hlater
  | step hwrite hnext hleads ih => exact .step hwrite hnext (ih hlater)

/-- At a moment whose text cannot be written, nothing is asked. -/
theorem play_of_full {cut : ByteArray}
    (hwrite : write moment.console.capacity moment.text = .error cut) (settings : Settings)
    (files : Files) (script : List Event) :
    moment.play settings files script =
      { exchanges := [], rest := cut, tally := moment.tally, unread := script,
        ending := .failed fullMessage } :=
  converse_of_full hwrite settings files _ _ script

theorem exists_play_of_write {capacity : Option Nat}
    (hwrite : write moment.console.capacity moment.text = .ok capacity) (settings : Settings)
    (files : Files) (script : List Event) :
    ∃ transcript : Transcript,
      moment.play settings files script = transcript.after moment.exchange := by
  cases script with
  | nil => exact ⟨_, converse_nil hwrite settings files _ _⟩
  | cons event later =>
      cases hnext : (respond settings files moment.question event).next with
      | ask question => exact ⟨_, converse_of_ask hwrite hnext _ _⟩
      | finish ending => exact ⟨_, converse_of_finish hwrite hnext _ _⟩

theorem stops_of_full {cut : ByteArray}
    (hwrite : write moment.console.capacity moment.text = .error cut) (events : List Event) :
    Stops settings files moment events := by
  constructor
  · rw [play_of_full hwrite]
    exact Nat.zero_le _
  · rw [play_of_full hwrite]
    rfl
  · intro later
    rw [play_of_full hwrite, play_of_full hwrite]

theorem exchanges_close (console : Console) (tally : Tally) (text : String) (ending : Ending)
    (unread : List Event) : (close console tally text ending unread).exchanges = [] := by
  unfold close
  split <;> rfl

theorem close_unread (console : Console) (tally : Tally) (text : String) (ending : Ending)
    (unread other : List Event) :
    close console tally text ending unread =
      { close console tally text ending other with unread } := by
  unfold close
  split <;> rfl

theorem stops_of_finish {capacity : Option Nat} {ending : Ending}
    (hwrite : write moment.console.capacity moment.text = .ok capacity)
    (hnext : (respond settings files moment.question event).next = .finish ending)
    (later : List Event) : Stops settings files moment (event :: later) := by
  have hplay : ∀ later, moment.play settings files (event :: later) =
      (close { moment.console with capacity }
        (moment.tally + (respond settings files moment.question event).gain)
        (respond settings files moment.question event).text ending later).after
          moment.exchange := fun later => converse_of_finish hwrite hnext _ later
  constructor
  · rw [hplay, Transcript.exchanges_after, exchanges_close]
    exact Nat.succ_le_succ (Nat.zero_le _)
  · rw [hplay, Transcript.exchanges_after, exchanges_close, close_unread _ _ _ _ later []]
    rfl
  · intro more
    rw [List.cons_append, hplay, hplay, close_unread _ _ _ _ (later ++ more) later,
      close_unread _ _ _ _ later []]
    rfl

theorem Stops.cons {capacity : Option Nat} {question : Question} {later : List Event}
    (hwrite : write moment.console.capacity moment.text = .ok capacity)
    (hnext : (respond settings files moment.question event).next = .ask question)
    (hstops : Stops settings files
      (moment.next capacity (respond settings files moment.question event) question) later) :
    Stops settings files moment (event :: later) := by
  have hplay : ∀ later, moment.play settings files (event :: later) =
      ((moment.next capacity (respond settings files moment.question event) question).play
        settings files later).after moment.exchange :=
    fun later => converse_of_ask hwrite hnext _ later
  constructor
  · rw [hplay, Transcript.exchanges_after]
    exact Nat.succ_le_succ hstops.length_le
  · rw [hplay]
    exact hstops.unread
  · intro more
    rw [List.cons_append, hplay, hplay, hstops.play_append]
    rfl

/-- Events lead to a moment, or the session is over within them. -/
theorem leads_or_stops (settings : Settings) (files : Files) (moment : Moment)
    (events : List Event) :
    (∃ exchanges last, Leads settings files moment events exchanges last) ∨
      Stops settings files moment events := by
  induction events generalizing moment with
  | nil => exact .inl ⟨[], moment, .refl moment⟩
  | cons event later ih =>
      cases hwrite : write moment.console.capacity moment.text with
      | error cut => exact .inr (stops_of_full hwrite _)
      | ok capacity =>
          cases hnext : (respond settings files moment.question event).next with
          | finish ending => exact .inr (stops_of_finish hwrite hnext later)
          | ask question =>
              rcases ih (moment.next capacity (respond settings files moment.question event)
                question) with ⟨exchanges, last, hleads⟩ | hstops
              · exact .inl ⟨moment.exchange :: exchanges, last, .step hwrite hnext hleads⟩
              · exact .inr (hstops.cons hwrite hnext)

/-- A read that is made is made at a moment, which the events in front of it lead
to. -/
theorem exists_leads_of_read {script : List Event} {index : Nat} (hindex : index ≤ script.length)
    (hread : index < (moment.play settings files script).exchanges.length) :
    ∃ exchanges last, Leads settings files moment (script.take index) exchanges last ∧
      exchanges.length = index ∧
      (moment.play settings files script).exchanges[index]? = some last.exchange := by
  have hscript := List.take_append_drop index script
  have hlength : (script.take index).length = index := by
    rw [List.length_take, Nat.min_eq_left hindex]
  rcases leads_or_stops settings files moment (script.take index) with
    ⟨exchanges, last, hleads⟩ | hstops
  · have hplay := hleads.play_append (script.drop index)
    have hasked : exchanges.length = index := hleads.length_eq.trans hlength
    rw [hscript] at hplay
    refine ⟨exchanges, last, hleads, hasked, ?_⟩
    rw [hplay, Transcript.exchanges_afterAll, List.length_append, hasked] at hread
    rw [hplay, Transcript.exchanges_afterAll, List.getElem?_append_right (Nat.le_of_eq hasked),
      hasked, Nat.sub_self]
    cases hwrite : write last.console.capacity last.text with
    | error cut =>
        rw [play_of_full hwrite] at hread
        exact absurd hread (Nat.lt_irrefl index)
    | ok capacity =>
        obtain ⟨transcript, hasks⟩ := exists_play_of_write hwrite settings files (script.drop index)
        rw [hasks]
        rfl
  · have hplay := hstops.play_append (script.drop index)
    rw [hscript] at hplay
    rw [hplay] at hread
    have hover : index < (moment.play settings files (script.take index)).exchanges.length := hread
    have hlength_le := hstops.length_le
    rw [hlength] at hlength_le
    exact absurd hover (Nat.not_lt.mpr hlength_le)

theorem Leads.console_eq {flushFails : Bool}
    (hleads : Leads settings files moment events exchanges last)
    (hconsole : moment.console = { flushFails }) : last.console = { flushFails } := by
  induction hleads with
  | refl => exact hconsole
  | @step moment last capacity event question later exchanges hwrite hnext hleads ih =>
      refine ih ?_
      rw [hconsole] at hwrite
      obtain rfl : none = capacity := Except.ok.inj hwrite
      rw [Moment.next, hconsole]

end CipherCalc.Session
