import CipherCalc.Proofs.Session.Exchanges

/-!
# A full console cuts a session short

The same script is played on a console without a limit and on one that accepts a
number of bytes in all.  If the session writes no more, the limit is not noticed.
If it writes more, it is cut at the limit: what was written and asked before
stands, the rest of the script stays unread, and the counters are those of the
moment (`run_limited`).

A session is cut at its first text or it is not, and then what remains is the
rest of the session with the rest of the capacity.  `IsLimited` says both for any
two transcripts, so the two runs are compared from the last write on
(`isLimited_close`) back to the first (`IsLimited.after`).
-/

namespace CipherCalc.Session

/-! ## Writes and counters -/

/-- How many bytes a session has written when it makes a read. -/
def Transcript.bytesBefore (transcript : Transcript) (read : Nat) : Nat :=
  (transcript.exchanges.take (read + 1)).foldr
    (fun exchange bytes => exchange.text.utf8ByteSize + bytes) 0

/-- The counters of a session at each of its writes: those before its reads, and
the last one. -/
def tallies (settings : Settings) (files : Files) (tally : Tally) (question : Question) :
    List Event → List Tally
  | [] => [tally, tally]
  | event :: later =>
      let answer := respond settings files question event
      match answer.next with
      | .ask next => tally :: tallies settings files (tally + answer.gain) next later
      | .finish _ => [tally, tally + answer.gain]

@[simp] theorem Transcript.bytes_after (exchange : Exchange) (transcript : Transcript) :
    (transcript.after exchange).bytes = exchange.text.toUTF8 ++ transcript.bytes := rfl

theorem Transcript.bytesBefore_after_zero (exchange : Exchange) (transcript : Transcript) :
    (transcript.after exchange).bytesBefore 0 = exchange.text.utf8ByteSize := by
  simp [bytesBefore]

theorem Transcript.bytesBefore_after_succ (exchange : Exchange) (transcript : Transcript)
    (read : Nat) : (transcript.after exchange).bytesBefore (read + 1) =
      exchange.text.utf8ByteSize + transcript.bytesBefore read := by
  simp [bytesBefore]

theorem Transcript.le_bytesBefore_after (exchange : Exchange) (transcript : Transcript)
    (read : Nat) : exchange.text.utf8ByteSize ≤ (transcript.after exchange).bytesBefore read := by
  cases read with
  | zero => exact Nat.le_of_eq (bytesBefore_after_zero exchange transcript).symm
  | succ read =>
      rw [bytesBefore_after_succ]
      exact Nat.le_add_right _ _

theorem tallies_of_finish {settings : Settings} {files : Files} {question : Question}
    {event : Event} {ending : Ending}
    (hnext : (respond settings files question event).next = .finish ending) (tally : Tally)
    (later : List Event) :
    tallies settings files tally question (event :: later) =
      [tally, tally + (respond settings files question event).gain] := by
  simp only [tallies, hnext]

theorem tallies_of_ask {settings : Settings} {files : Files} {question next : Question}
    {event : Event} (hnext : (respond settings files question event).next = .ask next)
    (tally : Tally) (later : List Event) :
    tallies settings files tally question (event :: later) =
      tally :: tallies settings files (tally + (respond settings files question event).gain) next
        later := by
  simp only [tallies, hnext]

/-- A text fits and leaves the rest of a capacity, or it is cut at it. -/
theorem write_cases (text : String) (limit : Nat) :
    (∃ rest, limit = text.utf8ByteSize + rest ∧ write (some limit) text = .ok (some rest)) ∨
      (limit < text.utf8ByteSize ∧
        write (some limit) text = .error (text.toUTF8.extract 0 limit)) := by
  by_cases hfits : text.utf8ByteSize ≤ limit
  · exact .inl ⟨limit - text.utf8ByteSize, (Nat.add_sub_of_le hfits).symm, if_pos hfits⟩
  · exact .inr ⟨Nat.lt_of_not_le hfits, if_neg hfits⟩

theorem size_toUTF8 (text : String) : text.toUTF8.size = text.utf8ByteSize :=
  String.size_toByteArray

theorem extract_append_of_le {first second : ByteArray} {limit : Nat} (hle : first.size ≤ limit) :
    (first ++ second).extract 0 limit = first ++ second.extract 0 (limit - first.size) := by
  have hfirst : first.extract 0 limit = first := by
    rw [← Nat.max_eq_left hle]
    exact ByteArray.extract_zero_max_size
  rw [ByteArray.extract_append, hfirst, Nat.zero_sub]

theorem extract_append_of_ge {first second : ByteArray} {limit : Nat} (hle : limit ≤ first.size) :
    (first ++ second).extract 0 limit = first.extract 0 limit := by
  rw [ByteArray.extract_append, Nat.zero_sub, Nat.sub_eq_zero_of_le hle, ByteArray.extract_same,
    ByteArray.append_empty]

/-! ## Two transcripts -/

/-- A transcript is another one cut at the byte after a limit: nothing was asked
or read after that byte would have been written, and the counters are those of
that write. -/
structure IsCut (limit : Nat) (script : List Event) (counters : List Tally)
    (free cut : Transcript) : Prop where
  ending : cut.ending = .failed fullMessage
  bytes : cut.bytes = free.bytes.extract 0 limit
  exchanges : cut.exchanges <+: free.exchanges
  reads : ∀ read < free.exchanges.length,
    (read < cut.exchanges.length ↔ free.bytesBefore read ≤ limit)
  unread : cut.unread = script.drop cut.exchanges.length
  tally : counters[cut.exchanges.length]? = some cut.tally

/-- A transcript is what a limit leaves of another one. -/
structure IsLimited (limit : Nat) (script : List Event) (counters : List Tally)
    (free limited : Transcript) : Prop where
  eq_of_fits : free.bytes.size ≤ limit → limited = free
  isCut : limit < free.bytes.size → IsCut limit script counters free limited

theorem IsCut.after {limit : Nat} {script later : List Event} {counters : List Tally}
    {free cut : Transcript} (hcut : IsCut limit later counters free cut)
    (htail : script.tail = later) (tally : Tally) (text prompt : String) :
    IsCut (text.utf8ByteSize + limit) script (tally :: counters) (free.after ⟨text, prompt⟩)
      (cut.after ⟨text, prompt⟩) where
  ending := hcut.ending
  bytes := by
    have hle : text.toUTF8.size ≤ text.utf8ByteSize + limit := by
      rw [size_toUTF8]
      exact Nat.le_add_right _ _
    rw [Transcript.bytes_after, Transcript.bytes_after, hcut.bytes, extract_append_of_le hle,
      size_toUTF8, Nat.add_sub_cancel_left]
  exchanges := by
    rw [Transcript.exchanges_after, Transcript.exchanges_after, List.prefix_cons_inj]
    exact hcut.exchanges
  reads := by
    intro read hread
    cases read with
    | zero =>
        rw [Transcript.bytesBefore_after_zero]
        exact iff_of_true (Nat.succ_pos _) (Nat.le_add_right _ _)
    | succ read =>
        rw [Transcript.bytesBefore_after_succ, Nat.add_le_add_iff_left,
          ← hcut.reads read (Nat.lt_of_succ_lt_succ hread)]
        exact Nat.succ_lt_succ_iff
  unread := by
    rw [Transcript.unread_after, hcut.unread, ← htail, List.drop_tail]
    rfl
  tally := hcut.tally

theorem IsLimited.after {limit : Nat} {script later : List Event} {counters : List Tally}
    {free limited : Transcript} (hlimited : IsLimited limit later counters free limited)
    (htail : script.tail = later) (tally : Tally) (text prompt : String) :
    IsLimited (text.utf8ByteSize + limit) script (tally :: counters) (free.after ⟨text, prompt⟩)
      (limited.after ⟨text, prompt⟩) := by
  have hsize : (free.after ⟨text, prompt⟩).bytes.size =
      text.utf8ByteSize + free.bytes.size := by
    rw [Transcript.bytes_after, ByteArray.size_append, size_toUTF8]
  constructor
  · intro hfits
    rw [hlimited.eq_of_fits (by omega)]
  · intro hfull
    exact (hlimited.isCut (by omega)).after htail tally text prompt

/-- A session that is cut before its first read. -/
theorem isLimited_of_first {limit : Nat} {script : List Event} {tally : Tally}
    {counters : List Tally} {exchange : Exchange} (hfull : limit < exchange.text.utf8ByteSize)
    (free : Transcript) :
    IsLimited limit script (tally :: counters) (free.after exchange)
      { exchanges := [], rest := exchange.text.toUTF8.extract 0 limit, tally, unread := script,
        ending := .failed fullMessage } where
  eq_of_fits := by
    intro hfits
    rw [Transcript.bytes_after, ByteArray.size_append, size_toUTF8] at hfits
    omega
  isCut _ :=
    { ending := rfl
      bytes := by
        rw [Transcript.bytes_after, extract_append_of_ge (by rw [size_toUTF8]; omega)]
        rfl
      exchanges := List.nil_prefix
      reads := by
        intro read _
        have hle := Transcript.le_bytesBefore_after exchange free read
        exact iff_of_false (Nat.not_lt_zero read) (by omega)
      unread := rfl
      tally := rfl }

/-- The last write of a session, if it has no more to ask. -/
theorem isLimited_close (flushFails : Bool) (limit : Nat) (tally : Tally) (text : String)
    (ending : Ending) (unread : List Event) :
    IsLimited limit unread [tally] (close { flushFails } tally text ending unread)
      (close { capacity := some limit, flushFails } tally text ending unread) := by
  have hsize : (close { flushFails } tally text ending unread).bytes.size = text.utf8ByteSize :=
    size_toUTF8 text
  rcases write_cases text limit with ⟨rest, rfl, hwrite⟩ | ⟨hlt, hwrite⟩
  · constructor
    · intro _
      rw [close_of_write hwrite]
      rfl
    · intro hfull
      omega
  · constructor
    · intro hfits
      omega
    · intro _
      have hcut : close { capacity := some limit, flushFails } tally text ending unread =
          { exchanges := [], rest := text.toUTF8.extract 0 limit, tally, unread,
            ending := .failed fullMessage } := close_of_full hwrite tally ending unread
      rw [hcut]
      exact
        { ending := rfl
          bytes := rfl
          exchanges := List.nil_prefix
          reads := fun read hread => absurd hread (Nat.not_lt_zero read)
          unread := rfl
          tally := rfl }

/-! ## Sessions -/

/-- The counters at a write are those of the session whose input ends there. -/
theorem getElem?_tallies (settings : Settings) (files : Files) (tally : Tally) (text : String)
    (question : Question) (script : List Event) :
    ∀ read ≤ (converse settings files {} tally text question script).exchanges.length,
      (tallies settings files tally question script)[read]? =
        some (converse settings files {} tally text question (script.take read)).tally := by
  refine converse_induction settings files false
    (motive := fun tally text question script transcript =>
      ∀ read ≤ transcript.exchanges.length,
        (tallies settings files tally question script)[read]? =
          some (converse settings files {} tally text question (script.take read)).tally)
    ?exhausted ?finished ?asked tally text question script
  case exhausted =>
    intro tally text question read hread
    have hlast : read = 0 ∨ read = 1 := Nat.le_one_iff_eq_zero_or_eq_one.mp hread
    rw [List.take_nil, converse_nil (write_none text)]
    rcases hlast with rfl | rfl <;> rfl
  case finished =>
    intro tally text question event later ending hnext read hread
    have hlast : read = 0 ∨ read = 1 := Nat.le_one_iff_eq_zero_or_eq_one.mp hread
    rw [tallies_of_finish hnext]
    rcases hlast with rfl | rfl
    · rw [List.take_zero, converse_nil (write_none text)]
      rfl
    · rw [List.take_succ_cons, converse_of_finish (write_none text) hnext]
      rfl
  case asked =>
    intro tally text question event later next transcript hnext ih read hread
    rw [tallies_of_ask hnext]
    cases read with
    | zero =>
        rw [List.take_zero, converse_nil (write_none text)]
        rfl
    | succ read =>
        rw [List.take_succ_cons, converse_of_ask (write_none text) hnext, Transcript.tally_after,
          List.getElem?_cons_succ]
        exact ih read (Nat.le_of_succ_le_succ hread)

theorem converse_isLimited (settings : Settings) (files : Files) (flushFails : Bool)
    (tally : Tally) (text : String) (question : Question) (script : List Event) (limit : Nat) :
    IsLimited limit script (tallies settings files tally question script)
      (converse settings files { flushFails } tally text question script)
      (converse settings files { capacity := some limit, flushFails } tally text question
        script) := by
  revert limit
  refine converse_induction settings files flushFails
    (motive := fun tally text question script free => ∀ limit,
      IsLimited limit script (tallies settings files tally question script) free
        (converse settings files { capacity := some limit, flushFails } tally text question
          script))
    ?exhausted ?finished ?asked tally text question script
  case exhausted =>
    intro tally text question limit
    rcases write_cases text limit with ⟨rest, rfl, hwrite⟩ | ⟨hfull, hwrite⟩
    · rw [converse_nil hwrite]
      exact (isLimited_close flushFails rest tally "" (.exit .normal) []).after rfl tally text _
    · rw [converse_of_full hwrite]
      exact isLimited_of_first hfull _
  case finished =>
    intro tally text question event later ending hnext limit
    rw [tallies_of_finish hnext]
    rcases write_cases text limit with ⟨rest, rfl, hwrite⟩ | ⟨hfull, hwrite⟩
    · rw [converse_of_finish hwrite hnext]
      exact (isLimited_close flushFails rest _ _ ending later).after rfl tally text _
    · rw [converse_of_full hwrite]
      exact isLimited_of_first hfull _
  case asked =>
    intro tally text question event later next transcript hnext ih limit
    rw [tallies_of_ask hnext]
    rcases write_cases text limit with ⟨rest, rfl, hwrite⟩ | ⟨hfull, hwrite⟩
    · rw [converse_of_ask hwrite hnext]
      exact (ih rest).after rfl tally text _
    · rw [converse_of_full hwrite]
      exact isLimited_of_first hfull _

/-- A failure to write out the last bytes changes an ending alone. -/
theorem close_flushFails (capacity : Option Nat) (tally : Tally) (text : String)
    (ending : Ending) (unread : List Event) :
    close { capacity, flushFails := true } tally text ending unread =
      { close { capacity } tally text ending unread with
        ending := flushed true (close { capacity } tally text ending unread).ending } := by
  cases hwrite : write capacity text with
  | error cut =>
      rw [close_of_full hwrite, close_of_full hwrite]
      rfl
  | ok left => rw [close_of_write hwrite, close_of_write hwrite, flushed_false]

theorem converse_flushFails (settings : Settings) (files : Files) (capacity : Option Nat)
    (tally : Tally) (text : String) (question : Question) (script : List Event) :
    converse settings files { capacity, flushFails := true } tally text question script =
      { converse settings files { capacity } tally text question script with
        ending :=
          flushed true (converse settings files { capacity } tally text question script).ending } := by
  induction script generalizing capacity tally text question with
  | nil =>
      cases hwrite : write capacity text with
      | error cut =>
          rw [converse_of_full hwrite, converse_of_full hwrite]
          rfl
      | ok left =>
          rw [converse_nil hwrite, converse_nil hwrite, close_flushFails]
          rfl
  | cons event later ih =>
      cases hwrite : write capacity text with
      | error cut =>
          rw [converse_of_full hwrite, converse_of_full hwrite]
          rfl
      | ok left =>
          cases hnext : (respond settings files question event).next with
          | ask next =>
              rw [converse_of_ask hwrite hnext, converse_of_ask hwrite hnext, ih]
              rfl
          | finish ending =>
              rw [converse_of_finish hwrite hnext, converse_of_finish hwrite hnext,
                close_flushFails]
              rfl

/-- **A full console cuts a session where it is full.**  On a console that accepts
a number of bytes in all, a session that writes no more is the session on a
console without a limit.  One that writes more fails with the write error, its
bytes are those up to the limit, it asks and reads just what the other session
does before it writes the byte after the limit, it leaves the rest of the script,
and its counters are those of the other session at that write, so also those of
the session whose input ends there.  A failure to write out the last bytes takes
the place of an exit and of nothing else: a session that has failed already keeps
its failure. -/
theorem run_limited (settings : Settings) (files : Files) (flushFails : Bool)
    (script : List Event) (limit : Nat) :
    IsLimited limit script (tallies settings files {} .choice script)
        (run settings files { flushFails } script)
        (run settings files { capacity := some limit, flushFails } script) ∧
      (∀ read ≤ (run settings files {} script).exchanges.length,
        (tallies settings files {} .choice script)[read]? =
          some (run settings files {} (script.take read)).tally) ∧
      ∀ capacity,
        (∀ status, (run settings files { capacity } script).ending = .exit status →
          run settings files { capacity, flushFails := true } script =
            { run settings files { capacity } script with ending := .failed flushMessage }) ∧
        (∀ message, (run settings files { capacity } script).ending = .failed message →
          run settings files { capacity, flushFails := true } script =
            run settings files { capacity } script) := by
  refine ⟨converse_isLimited settings files flushFails {} menu .choice script limit,
    getElem?_tallies settings files {} menu .choice script, fun capacity => ?_⟩
  have hflush : run settings files { capacity, flushFails := true } script =
      { run settings files { capacity } script with
        ending := flushed true (run settings files { capacity } script).ending } :=
    converse_flushFails settings files capacity {} menu .choice script
  constructor
  · intro status hending
    rw [hflush, hending]
    rfl
  · intro message hending
    rw [hflush, hending]
    show { run settings files { capacity } script with ending := .failed message } = _
    rw [← hending]

end CipherCalc.Session
