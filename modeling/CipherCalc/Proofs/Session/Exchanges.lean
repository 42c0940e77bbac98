import CipherCalc.Session.Transcript

/-!
# A session exchange by exchange

A session writes a text and asks a question.  If the text does not fit on the
console, this is its end; otherwise the script may be at its end, the reply to
the next event may finish the session, or the reply asks the next question.

Where the console takes every byte, a transcript is built up from its last
exchange in the last three ways alone.  `converse_induction` packs them, so that
what holds of every transcript can be shown of them one by one.
-/

namespace CipherCalc.Session

/-! ## The last text -/

theorem write_none (text : String) : write none text = .ok none := rfl

@[simp] theorem flushed_false (ending : Ending) : flushed false ending = ending := by
  cases ending <;> rfl

theorem close_of_write {console : Console} {text : String} {capacity : Option Nat}
    (hwrite : write console.capacity text = .ok capacity) (tally : Tally) (ending : Ending)
    (unread : List Event) :
    close console tally text ending unread =
      { exchanges := [], rest := text.toUTF8, tally, unread,
        ending := flushed console.flushFails ending } := by
  rw [close, hwrite]

theorem close_of_full {console : Console} {text : String} {cut : ByteArray}
    (hwrite : write console.capacity text = .error cut) (tally : Tally) (ending : Ending)
    (unread : List Event) :
    close console tally text ending unread =
      { exchanges := [], rest := cut, tally, unread, ending := .failed fullMessage } := by
  rw [close, hwrite]

/-! ## One exchange -/

section

variable {console : Console} {text : String} {capacity : Option Nat} {settings : Settings}
  {files : Files} {question : Question} {event : Event}

theorem converse_of_full {cut : ByteArray} (hwrite : write console.capacity text = .error cut)
    (settings : Settings) (files : Files) (tally : Tally) (question : Question)
    (script : List Event) :
    converse settings files console tally text question script =
      { exchanges := [], rest := cut, tally, unread := script, ending := .failed fullMessage } := by
  rw [converse, hwrite]

theorem converse_nil (hwrite : write console.capacity text = .ok capacity) (settings : Settings)
    (files : Files) (tally : Tally) (question : Question) :
    converse settings files console tally text question [] =
      (close { console with capacity } tally "" (.exit .normal) []).after
        ⟨text, question.prompt⟩ := by
  rw [converse, hwrite]

theorem converse_of_finish (hwrite : write console.capacity text = .ok capacity) {ending : Ending}
    (hnext : (respond settings files question event).next = .finish ending) (tally : Tally)
    (later : List Event) :
    converse settings files console tally text question (event :: later) =
      (close { console with capacity } (tally + (respond settings files question event).gain)
        (respond settings files question event).text ending later).after
          ⟨text, question.prompt⟩ := by
  rw [converse, hwrite]
  simp only [hnext]

theorem converse_of_ask (hwrite : write console.capacity text = .ok capacity) {next : Question}
    (hnext : (respond settings files question event).next = .ask next) (tally : Tally)
    (later : List Event) :
    converse settings files console tally text question (event :: later) =
      (converse settings files { console with capacity }
        (tally + (respond settings files question event).gain)
        (respond settings files question event).text next later).after
          ⟨text, question.prompt⟩ := by
  rw [converse, hwrite]
  simp only [hnext]

end

/-! ## All exchanges -/

/-- What holds of the three ways to put a transcript together holds of every
session on a console without a limit. -/
theorem converse_induction (settings : Settings) (files : Files) (flushFails : Bool)
    {motive : Tally → String → Question → List Event → Transcript → Prop}
    (exhausted : ∀ tally text question,
      motive tally text question []
        ((close { flushFails } tally "" (.exit .normal) []).after ⟨text, question.prompt⟩))
    (finished : ∀ tally text question event later ending,
      (respond settings files question event).next = .finish ending →
      motive tally text question (event :: later)
        ((close { flushFails } (tally + (respond settings files question event).gain)
          (respond settings files question event).text ending later).after
            ⟨text, question.prompt⟩))
    (asked : ∀ tally text question event later next transcript,
      (respond settings files question event).next = .ask next →
      motive (tally + (respond settings files question event).gain)
        (respond settings files question event).text next later transcript →
      motive tally text question (event :: later) (transcript.after ⟨text, question.prompt⟩))
    (tally : Tally) (text : String) (question : Question) (script : List Event) :
    motive tally text question script
      (converse settings files { flushFails } tally text question script) := by
  induction script generalizing tally text question with
  | nil =>
      rw [converse_nil (write_none text)]
      exact exhausted tally text question
  | cons event later ih =>
      cases hnext : (respond settings files question event).next with
      | ask next =>
          rw [converse_of_ask (write_none text) hnext]
          exact asked tally text question event later next _ hnext (ih _ _ _)
      | finish ending =>
          rw [converse_of_finish (write_none text) hnext]
          exact finished tally text question event later ending hnext

end CipherCalc.Session
