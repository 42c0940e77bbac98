import CipherCalc.Session.Reply
import CipherCalc.Text.Bytes

/-!
# Running a session

`Session.run` plays a session against a script, one event a question, and
returns its transcript: every text that was written with the prompt that came
after it, the counters, what is left of the script and how the session ended.  A
script that runs out is the end of input.

The console may accept only so many bytes.  A text that does not fit is written
as far as it does and ends the session before anything else is read.
-/

namespace CipherCalc.Session

/-- What the console does to a session. -/
structure Console where
  /-- How many bytes are accepted in all; without a value, any number. -/
  capacity : Option Nat := none
  /-- Whether writing out the last bytes fails. -/
  flushFails : Bool := false

/-- The failure of a write past the capacity. -/
def fullMessage : String := "output full"

/-- The failure to write out the last bytes. -/
def flushMessage : String := "flush failed"

/-- A question that was asked: the text written since the one before, and the
prompt. -/
structure Exchange where
  text : String
  prompt : String
  deriving DecidableEq

/-- The record of a session. -/
structure Transcript where
  /-- The questions in the order in which they were asked. -/
  exchanges : List Exchange
  /-- The bytes written after the last one. -/
  rest : ByteArray
  tally : Tally
  /-- The events that were not used. -/
  unread : List Event
  ending : Ending

namespace Transcript

/-- The record of a session with one more question at its start. -/
def after (exchange : Exchange) (transcript : Transcript) : Transcript :=
  { transcript with exchanges := exchange :: transcript.exchanges }

@[simp] theorem exchanges_after (exchange : Exchange) (transcript : Transcript) :
    (transcript.after exchange).exchanges = exchange :: transcript.exchanges := rfl

@[simp] theorem rest_after (exchange : Exchange) (transcript : Transcript) :
    (transcript.after exchange).rest = transcript.rest := rfl

@[simp] theorem tally_after (exchange : Exchange) (transcript : Transcript) :
    (transcript.after exchange).tally = transcript.tally := rfl

@[simp] theorem unread_after (exchange : Exchange) (transcript : Transcript) :
    (transcript.after exchange).unread = transcript.unread := rfl

@[simp] theorem ending_after (exchange : Exchange) (transcript : Transcript) :
    (transcript.after exchange).ending = transcript.ending := rfl

/-- All the bytes that a session wrote. -/
def bytes (transcript : Transcript) : ByteArray :=
  transcript.exchanges.foldr (fun exchange bytes => exchange.text.toUTF8 ++ bytes) transcript.rest

/-- All the text of a session, with what is shown of each prompt behind what was
written before it. -/
def text (shown : String → String) (transcript : Transcript) : String :=
  String.join (transcript.exchanges.map fun exchange => exchange.text ++ shown exchange.prompt) ++
    Text.shown transcript.rest

end Transcript

/-- Writes a text where a number of bytes is accepted: the number that is left,
or the bytes that went out before the write failed. -/
def write (capacity : Option Nat) (text : String) : Except ByteArray (Option Nat) :=
  match capacity with
  | none => .ok none
  | some bytes =>
      if text.utf8ByteSize ≤ bytes then .ok (some (bytes - text.utf8ByteSize))
      else .error (text.toUTF8.extract 0 bytes)

/-- The end of a session whose last bytes are written out. -/
def flushed (flushFails : Bool) : Ending → Ending
  | .exit status => if flushFails then .failed flushMessage else .exit status
  | .failed message => .failed message

/-- Writes a last text and ends. -/
def close (console : Console) (tally : Tally) (text : String) (ending : Ending)
    (unread : List Event) : Transcript :=
  match write console.capacity text with
  | .error cut => { exchanges := [], rest := cut, tally, unread, ending := .failed fullMessage }
  | .ok _ =>
      { exchanges := [], rest := text.toUTF8, tally, unread,
        ending := flushed console.flushFails ending }

/-- Writes a text, asks a question and goes on with the script. -/
def converse (settings : Settings) (files : Files) (console : Console) (tally : Tally)
    (text : String) (question : Question) (script : List Event) : Transcript :=
  match write console.capacity text with
  | .error cut =>
      { exchanges := [], rest := cut, tally, unread := script, ending := .failed fullMessage }
  | .ok capacity =>
      let console := { console with capacity }
      let exchange : Exchange := { text, prompt := question.prompt }
      -- from here on the question has been asked, whatever answers it
      match script with
      | [] => (close console tally "" (.exit .normal) []).after exchange
      | event :: later =>
          let answer := respond settings files question event
          let tally := tally + answer.gain
          match answer.next with
          | .ask next =>
              (converse settings files console tally answer.text next later).after exchange
          | .finish ending => (close console tally answer.text ending later).after exchange

/-- Plays a session from the menu on. -/
def run (settings : Settings) (files : Files) (console : Console) (script : List Event) :
    Transcript :=
  converse settings files console {} menu .choice script

end CipherCalc.Session
