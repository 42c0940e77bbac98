import CipherCalc.Proofs.Session.Moment

/-!
# A session does not read ahead

Each read takes the next event of the script, and nothing that a session writes
or asks depends on events that it has not read.  So two scripts with the same
beginning give sessions with the same beginning (`run_causal`): they part at the
read after it at the earliest, and if one of them is over before, so is the
other.

The reads are accounted for, whatever the console does (`UsesScript`): the events
that are left are those behind the reads, and a session that runs out of events
has made one read more than there are events.
-/

namespace CipherCalc.Session

variable {settings : Settings} {files : Files} {moment : Moment} {console : Console}
  {script first second : List Event} {count : Nat}

/-! ## What is left of a script -/

/-- A session runs out of events: they lead to another question, and it is asked. -/
def RunsOut (settings : Settings) (files : Files) (moment : Moment) (script : List Event) : Prop :=
  ∃ exchanges last capacity, Leads settings files moment script exchanges last ∧
    write last.console.capacity last.text = .ok capacity

theorem play_nil_of_write {capacity : Option Nat}
    (hwrite : write moment.console.capacity moment.text = .ok capacity) (settings : Settings)
    (files : Files) :
    (moment.play settings files []).exchanges = [moment.exchange] ∧
      (moment.play settings files []).unread = [] := by
  have hplay : moment.play settings files [] =
      (close { moment.console with capacity } moment.tally "" (.exit .normal) []).after
        moment.exchange := converse_nil hwrite settings files _ _
  rw [hplay, Transcript.exchanges_after, exchanges_close, Transcript.unread_after]
  refine ⟨rfl, ?_⟩
  unfold close
  split <;> rfl

theorem play_of_runsOut (hruns : RunsOut settings files moment script) :
    (moment.play settings files script).exchanges.length = script.length + 1 ∧
      (moment.play settings files script).unread = [] := by
  obtain ⟨exchanges, last, capacity, hleads, hwrite⟩ := hruns
  obtain ⟨hasked, hunread⟩ := play_nil_of_write hwrite settings files
  have hplay := hleads.play_append []
  rw [List.append_nil] at hplay
  rw [hplay, Transcript.exchanges_afterAll, hasked, List.length_append, hleads.length_eq,
    Transcript.unread_afterAll]
  exact ⟨rfl, hunread⟩

theorem play_of_not_runsOut (hruns : ¬ RunsOut settings files moment script) :
    (moment.play settings files script).exchanges.length ≤ script.length ∧
      (moment.play settings files script).unread =
        script.drop (moment.play settings files script).exchanges.length := by
  rcases leads_or_stops settings files moment script with ⟨exchanges, last, hleads⟩ | hstops
  · cases hwrite : write last.console.capacity last.text with
    | ok capacity => exact absurd ⟨exchanges, last, capacity, hleads, hwrite⟩ hruns
    | error cut =>
        have hplay := hleads.play_append []
        rw [List.append_nil, play_of_full hwrite] at hplay
        rw [hplay, Transcript.exchanges_afterAll, List.append_nil, hleads.length_eq,
          Transcript.unread_afterAll, List.drop_length]
        exact ⟨Nat.le_refl _, rfl⟩
  · exact ⟨hstops.length_le, hstops.unread⟩

theorem play_unread (settings : Settings) (files : Files) (moment : Moment)
    (script : List Event) :
    (moment.play settings files script).unread =
      script.drop (moment.play settings files script).exchanges.length := by
  by_cases hruns : RunsOut settings files moment script
  · obtain ⟨hlength, hunread⟩ := play_of_runsOut hruns
    rw [hunread, hlength, List.drop_eq_nil_of_le (Nat.le_succ _)]
  · exact (play_of_not_runsOut hruns).2

theorem length_exchanges_play_le (settings : Settings) (files : Files) (moment : Moment)
    (script : List Event) :
    (moment.play settings files script).exchanges.length ≤ script.length + 1 := by
  by_cases hruns : RunsOut settings files moment script
  · exact Nat.le_of_eq (play_of_runsOut hruns).1
  · exact Nat.le_succ_of_le (play_of_not_runsOut hruns).1

/-! ## Two scripts -/

/-- Whether a moment asks does not depend on what is read then. -/
theorem take_one_play (settings : Settings) (files : Files) (moment : Moment)
    (script other : List Event) :
    (moment.play settings files script).exchanges.take 1 =
      (moment.play settings files other).exchanges.take 1 := by
  cases hwrite : write moment.console.capacity moment.text with
  | error cut => rw [play_of_full hwrite, play_of_full hwrite]
  | ok capacity =>
      obtain ⟨_, hscript⟩ := exists_play_of_write hwrite settings files script
      obtain ⟨_, hother⟩ := exists_play_of_write hwrite settings files other
      rw [hscript, hother]
      rfl

/-- A session that has asked nothing has read nothing. -/
theorem play_of_exchanges_eq_nil
    (hnone : (moment.play settings files script).exchanges = []) (other : List Event) :
    moment.play settings files other =
      { moment.play settings files script with unread := other } := by
  cases hwrite : write moment.console.capacity moment.text with
  | error cut => rw [play_of_full hwrite, play_of_full hwrite]
  | ok capacity =>
      obtain ⟨_, hscript⟩ := exists_play_of_write hwrite settings files script
      rw [hscript] at hnone
      cases hnone

/-- Scripts that agree further than one of them goes are the same. -/
theorem eq_of_take_eq (hagree : first.take count = second.take count)
    (hlt : first.length < count) : first = second := by
  have hlengths := congrArg List.length hagree
  rw [List.length_take, List.length_take] at hlengths
  rwa [List.take_of_length_le (by omega), List.take_of_length_le (by omega)] at hagree

/-- Sessions with the same beginning of their scripts have the same reads up to
the one behind it. -/
theorem play_take_eq (settings : Settings) (files : Files) (moment : Moment)
    (hagree : first.take count = second.take count) :
    (moment.play settings files first).exchanges.take (count + 1) =
      (moment.play settings files second).exchanges.take (count + 1) := by
  rcases Nat.lt_or_ge first.length count with hlt | hge
  · rw [eq_of_take_eq hagree hlt]
  have hfirst := List.take_append_drop count first
  have hsecond := List.take_append_drop count second
  rw [← hagree] at hsecond
  rcases leads_or_stops settings files moment (first.take count) with
    ⟨exchanges, last, hleads⟩ | hstops
  · have hlength : exchanges.length = count := by
      rw [hleads.length_eq, List.length_take, Nat.min_eq_left hge]
    rw [← hfirst, ← hsecond, hleads.play_append, hleads.play_append,
      Transcript.exchanges_afterAll, Transcript.exchanges_afterAll, List.take_append,
      List.take_append, hlength, Nat.add_sub_cancel_left,
      take_one_play settings files last _ (second.drop count)]
  · rw [← hfirst, ← hsecond, hstops.play_append, hstops.play_append]

/-- What is asked up to a read is asked also if the script ends in front of it. -/
theorem exchanges_play_take (settings : Settings) (files : Files) (moment : Moment)
    (script : List Event) (read : Nat) :
    (moment.play settings files (script.take read)).exchanges =
      (moment.play settings files script).exchanges.take (read + 1) := by
  have hagree : (script.take read).take read = script.take read := by
    rw [List.take_take, Nat.min_self]
  have hlength := length_exchanges_play_le settings files moment (script.take read)
  rw [List.length_take] at hlength
  rw [← play_take_eq settings files moment hagree]
  exact (List.take_of_length_le (by omega)).symm

/-- A session that is over within the common beginning is over in the same way. -/
theorem play_of_length_le (settings : Settings) (files : Files) (moment : Moment)
    (hagree : first.take count = second.take count)
    (hlength : (moment.play settings files first).exchanges.length ≤ count) :
    moment.play settings files second =
      { moment.play settings files first with
        unread := second.drop (moment.play settings files first).exchanges.length } := by
  rcases Nat.lt_or_ge first.length count with hlt | hge
  · rw [← eq_of_take_eq hagree hlt, ← play_unread]
  have hfirst := List.take_append_drop count first
  have hsecond := List.take_append_drop count second
  rw [← hagree] at hsecond
  rcases leads_or_stops settings files moment (first.take count) with
    ⟨exchanges, last, hleads⟩ | hstops
  · have hread : exchanges.length = count := by
      rw [hleads.length_eq, List.length_take, Nat.min_eq_left hge]
    have hplay := hleads.play_append (first.drop count)
    rw [hfirst] at hplay
    have hnone : (last.play settings files (first.drop count)).exchanges = [] := by
      rw [hplay, Transcript.exchanges_afterAll, List.length_append, hread] at hlength
      exact List.eq_nil_of_length_eq_zero (by omega)
    have hother := hleads.play_append (second.drop count)
    rw [hsecond, play_of_exchanges_eq_nil hnone] at hother
    rw [hother, hplay, Transcript.exchanges_afterAll, hnone, List.append_nil, hread]
    rfl
  · have hplay := hstops.play_append (first.drop count)
    have hother := hstops.play_append (second.drop count)
    have hleft := play_unread settings files moment second
    rw [hfirst] at hplay
    rw [hsecond] at hother
    rw [hother] at hleft
    rw [hplay, ← hleft, hother]

/-! ## Sessions -/

/-- How a session uses its script: it reads the events in order and one at a time,
it runs out of them or leaves those that it did not read, and what it asks up to
a read it asks before it knows more than the events in front of it. -/
structure UsesScript (settings : Settings) (files : Files) (console : Console)
    (script : List Event) : Prop where
  unread : (run settings files console script).unread =
    script.drop (run settings files console script).exchanges.length
  length_of_runsOut : RunsOut settings files (.first console) script →
    (run settings files console script).exchanges.length =
      script.length - (run settings files console script).unread.length + 1
  length_of_not_runsOut : ¬ RunsOut settings files (.first console) script →
    (run settings files console script).exchanges.length =
      script.length - (run settings files console script).unread.length
  length_le : (run settings files console script).exchanges.length ≤ script.length + 1
  exchanges_take : ∀ read, (run settings files console (script.take read)).exchanges =
    (run settings files console script).exchanges.take (read + 1)

theorem run_usesScript (settings : Settings) (files : Files) (console : Console)
    (script : List Event) : UsesScript settings files console script where
  unread := play_unread settings files (.first console) script
  length_of_runsOut hruns := by
    obtain ⟨hlength, hunread⟩ := play_of_runsOut hruns
    rw [play_first] at hlength hunread
    rw [hlength, hunread]
    rfl
  length_of_not_runsOut hruns := by
    obtain ⟨hlength, hunread⟩ := play_of_not_runsOut hruns
    rw [play_first] at hlength hunread
    rw [hunread, List.length_drop]
    omega
  length_le := length_exchanges_play_le settings files (.first console) script
  exchanges_take := exchanges_play_take settings files (.first console) script

/-- **A session does not read ahead.**  Two scripts that agree on their first
events give sessions that make the same reads, with the same texts and prompts,
up to the one behind these events, and if one of them is over within these
events, the other one is over in the same way, but for what is left of its
script.  In every session the reads take the events in order, one each, and there
is one more of them than there were events only if these ran out. -/
theorem run_causal (hagree : first.take count = second.take count) (settings : Settings)
    (files : Files) (console : Console) :
    (run settings files console first).exchanges.take (count + 1) =
        (run settings files console second).exchanges.take (count + 1) ∧
      ((run settings files console first).exchanges.length ≤ count →
        run settings files console second =
          { run settings files console first with
            unread := second.drop (run settings files console first).exchanges.length }) ∧
      ∀ script, UsesScript settings files console script :=
  ⟨play_take_eq settings files (.first console) hagree,
    play_of_length_le settings files (.first console) hagree,
    run_usesScript settings files console⟩

/-- A session that ends with its second line does not notice the third. -/
theorem run_causal_refusedChoice :
    [Event.line "9", .line "n", .line "1"].take 2 = [Event.line "9", .line "n"].take 2 ∧
      run {} (fun _ => .error .notFound) {} [.line "9", .line "n"] =
        { run {} (fun _ => .error .notFound) {} [.line "9", .line "n", .line "1"] with
          unread := [] } := by
  have hagree : [Event.line "9", .line "n", .line "1"].take 2 =
      [Event.line "9", .line "n"].take 2 := rfl
  have hreads : (run {} (fun _ => .error .notFound) {}
      [.line "9", .line "n", .line "1"]).exchanges.length = 2 := by decide +kernel
  obtain ⟨-, hends, -⟩ := run_causal hagree {} (fun _ => .error .notFound) {}
  refine ⟨hagree, (hends (Nat.le_of_eq hreads)).trans ?_⟩
  rw [hreads]
  rfl

end CipherCalc.Session
