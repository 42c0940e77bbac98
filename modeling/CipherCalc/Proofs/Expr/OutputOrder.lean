import CipherCalc.Proofs.Expr.Balance
import Mathlib.Data.List.Nodup
import Mathlib.Data.List.TakeWhile

/-!
# In which order a conversion writes its tokens

The place of a token in the output is settled without any expression tree, so
also for tokens that form no expression (`existsUnique_outputOrder`): a number
precedes everything after it, and an operator precedes a later token just when
it has been released by then, by an operator of its group that binds no more
tightly or by the end of its group (`HasLeft`).

Tokens may be equal, so the output is described by the positions at which its
tokens were read.  The run is followed with these positions attached (`Marked`).

## Strategy

Put the output and, behind it, the operators that wait, the latest first, into
one list.  Steps never change the relative order of what is in it; a number or an
operator is inserted between the two parts (`Arranged.insert`).  So two tokens
are ordered once and for all when the later one is read: the earlier one
precedes it if it is in the output by then, and follows it if it still waits.
What is left is to tell these two cases apart (`Placed`), and here the operators
of a group have to be known to bind more tightly the later they came.
-/

namespace CipherCalc.Expr

/-! ## The order, from the tokens alone -/

/-- The tokens after one position and before another. -/
def between (tokens : List Token) (i k : Nat) : List Token :=
  (tokens.take k).drop (i + 1)

/-- Two positions stand in the same innermost group: the parentheses between them
match each other. -/
def SameGroup (tokens : List Token) (i k : Nat) : Prop :=
  Balanced (between tokens i k)

/-- Whether a token of its own group releases an operator that waits. -/
def Releases (symbol : Char) : Token → Prop
  | .number _ => False
  | .operator later => precedence later ≤ precedence symbol
  | .paren closer => closer ≠ '('

/-- Among the first `n` tokens there is one that releases the operator at `i`. -/
def Freed (tokens : List Token) (i n : Nat) (symbol : Char) : Prop :=
  ∃ k token, i < k ∧ k < n ∧ tokens[k]? = some token ∧ SameGroup tokens i k ∧
    Releases symbol token

/-- The token at `i` does not wait any more when the first `n` tokens have been
read. -/
def HasLeft (tokens : List Token) (i n : Nat) : Prop :=
  (∃ text, tokens[i]? = some (.number text)) ∨
    ∃ symbol, tokens[i]? = some (.operator symbol) ∧ Freed tokens i n symbol

/-- A number or an operator stands at `i`. -/
def KeptAt (tokens : List Token) (i : Nat) : Prop :=
  ∃ token, tokens[i]? = some token ∧ ∀ symbol, token ≠ .paren symbol

/-- An arrangement of the positions of all numbers and operators in which, of any
two, the earlier comes first just when it has left once the later has been
read. -/
structure IsOutputOrder (tokens : List Token) (order : List Nat) : Prop where
  nodup : order.Nodup
  mem_iff : ∀ i, i ∈ order ↔ KeptAt tokens i
  precedes_iff : ∀ i ∈ order, ∀ j ∈ order, i < j →
    (order.idxOf i < order.idxOf j ↔ HasLeft tokens i (j + 1))

/-- The position that is written first of two. -/
def WrittenBefore (tokens : List Token) (i j : Nat) : Prop :=
  (i < j ∧ HasLeft tokens i (j + 1)) ∨ (j < i ∧ ¬ HasLeft tokens j (i + 1))

theorem WrittenBefore.ne {tokens : List Token} {i j : Nat} (hbefore : WrittenBefore tokens i j) :
    i ≠ j := by
  rcases hbefore with ⟨hlt, -⟩ | ⟨hlt, -⟩ <;> omega

theorem WrittenBefore.asymm {tokens : List Token} {i j : Nat}
    (hbefore : WrittenBefore tokens i j) : ¬ WrittenBefore tokens j i := by
  rintro (⟨hlt, hleft⟩ | ⟨hlt, hwaits⟩)
  · rcases hbefore with ⟨hgt, -⟩ | ⟨-, hwaits⟩
    · omega
    · exact hwaits hleft
  · rcases hbefore with ⟨-, hleft⟩ | ⟨hgt, -⟩
    · exact hwaits hleft
    · omega

theorem isOutputOrder_iff {tokens : List Token} {order : List Nat} :
    IsOutputOrder tokens order ↔
      (∀ i, i ∈ order ↔ KeptAt tokens i) ∧ order.Pairwise (WrittenBefore tokens) := by
  constructor
  · intro horder
    refine ⟨horder.mem_iff, List.pairwise_iff_getElem.mpr fun a b ha hb hlt => ?_⟩
    have hfirst := horder.nodup.idxOf_getElem a ha
    have hsecond := horder.nodup.idxOf_getElem b hb
    have hiff := horder.precedes_iff _ (List.getElem_mem ha) _ (List.getElem_mem hb)
    have hiff' := horder.precedes_iff _ (List.getElem_mem hb) _ (List.getElem_mem ha)
    rw [hfirst, hsecond] at hiff hiff'
    rcases Nat.lt_trichotomy order[a] order[b] with hless | heq | hmore
    · exact Or.inl ⟨hless, (hiff hless).mp hlt⟩
    · rw [heq, hsecond] at hfirst
      omega
    · exact Or.inr ⟨hmore, fun hleft => absurd ((hiff' hmore).mpr hleft) (by omega)⟩
  · rintro ⟨hmem, hordered⟩
    refine ⟨hordered.imp WrittenBefore.ne, hmem, fun i hi j hj hlt => ?_⟩
    have hget := List.pairwise_iff_getElem.mp hordered
    have hilt := List.idxOf_lt_length_of_mem hi
    have hjlt := List.idxOf_lt_length_of_mem hj
    constructor
    · intro hidx
      have hbefore := hget _ _ hilt hjlt hidx
      rw [List.getElem_idxOf, List.getElem_idxOf] at hbefore
      rcases hbefore with ⟨-, hleft⟩ | ⟨hgt, -⟩
      · exact hleft
      · omega
    · intro hleft
      by_contra hidx
      have hne : order.idxOf i ≠ order.idxOf j := fun heq =>
        absurd ((List.idxOf_inj hi).mp heq) (by omega)
      have hbefore := hget _ _ hjlt hilt (by omega)
      rw [List.getElem_idxOf, List.getElem_idxOf] at hbefore
      rcases hbefore with ⟨hgt, -⟩ | ⟨-, hwaits⟩
      · omega
      · exact hwaits hleft

theorem IsOutputOrder.unique {tokens : List Token} {first second : List Nat}
    (hfirst : IsOutputOrder tokens first) (hsecond : IsOutputOrder tokens second) :
    first = second := by
  have hperm : first.Perm second := by
    refine (List.perm_ext_iff_of_nodup hfirst.nodup hsecond.nodup).mpr fun i => ?_
    rw [hfirst.mem_iff, hsecond.mem_iff]
  refine List.Perm.eq_of_pairwise (fun i j _ _ hbefore hafter => ?_)
    (isOutputOrder_iff.mp hfirst).2 (isOutputOrder_iff.mp hsecond).2 hperm
  exact absurd hafter hbefore.asymm

/-! ## One more token -/

theorem between_succ {tokens : List Token} {i n : Nat} {token : Token} (hlt : i < n)
    (htoken : tokens[n]? = some token) :
    between tokens i (n + 1) = between tokens i n ++ [token] := by
  obtain ⟨hn, -⟩ := List.getElem?_eq_some_iff.mp htoken
  have htake : tokens.take (n + 1) = tokens.take n ++ [token] := by
    rw [List.take_add_one, htoken, Option.toList_some]
  rw [between, htake, List.drop_append_of_le_length, between]
  rw [List.length_take]
  omega

theorem Freed.succ {tokens : List Token} {i n : Nat} {symbol : Char}
    (hfreed : Freed tokens i n symbol) : Freed tokens i (n + 1) symbol := by
  obtain ⟨k, token, hik, hkn, hfound⟩ := hfreed
  exact ⟨k, token, hik, by omega, hfound⟩

theorem HasLeft.succ {tokens : List Token} {i n : Nat} (hleft : HasLeft tokens i n) :
    HasLeft tokens i (n + 1) := by
  rcases hleft with hnumber | ⟨symbol, hsymbol, hfreed⟩
  · exact Or.inl hnumber
  · exact Or.inr ⟨symbol, hsymbol, hfreed.succ⟩

/-- An operator that waits `depth` groups further out, when `n` tokens have been
read. -/
structure Waits (tokens : List Token) (n depth : Nat) (entry : Nat × Char) : Prop where
  lt : entry.1 < n
  token : tokens[entry.1]? = some (.operator entry.2)
  depth : LeavesOpen depth (between tokens entry.1 n)
  not_freed : ¬ Freed tokens entry.1 n entry.2

theorem Waits.not_hasLeft {tokens : List Token} {n depth : Nat} {entry : Nat × Char}
    (hwaits : Waits tokens n depth entry) : ¬ HasLeft tokens entry.1 n := by
  rintro (⟨text, hnumber⟩ | ⟨symbol, hsymbol, hfreed⟩)
  · simp [hwaits.token] at hnumber
  · rw [hwaits.token] at hsymbol
    obtain rfl : entry.2 = symbol := by simpa using hsymbol
    exact hwaits.not_freed hfreed

/-- An operator goes on to wait unless a token of its own group releases it. -/
theorem Waits.succ {tokens : List Token} {n depth next : Nat} {entry : Nat × Char} {token : Token}
    (hwaits : Waits tokens n depth entry) (htoken : tokens[n]? = some token)
    (hnext : depth + token.isOpen.toNat = next + token.isClose.toNat)
    (hkept : depth = 0 → ¬ Releases entry.2 token) : Waits tokens (n + 1) next entry := by
  refine ⟨Nat.lt_succ_of_lt hwaits.lt, hwaits.token, ?_, ?_⟩
  · rw [between_succ hwaits.lt htoken]
    exact hwaits.depth.concat hnext
  · rintro ⟨k, found, hik, hkn, hfound, hgroup, hreleases⟩
    rcases Nat.lt_succ_iff_lt_or_eq.mp hkn with hkn | rfl
    · exact hwaits.not_freed ⟨k, found, hik, hkn, hfound, hgroup, hreleases⟩
    · obtain rfl : token = found := by simpa [htoken] using hfound
      exact hkept (hwaits.depth.balanced_iff.mp hgroup) hreleases

/-- An operator leaves when a token of its own group releases it. -/
theorem Waits.hasLeft {tokens : List Token} {n : Nat} {entry : Nat × Char} {token : Token}
    (hwaits : Waits tokens n 0 entry) (htoken : tokens[n]? = some token)
    (hreleases : Releases entry.2 token) : HasLeft tokens entry.1 (n + 1) :=
  Or.inr ⟨entry.2, hwaits.token, n, token, hwaits.lt, Nat.lt_succ_self n, htoken,
    hwaits.depth.balanced_iff.mpr rfl, hreleases⟩

theorem waits_new {tokens : List Token} {n : Nat} {symbol : Char}
    (htoken : tokens[n]? = some (.operator symbol)) : Waits tokens (n + 1) 0 (n, symbol) := by
  refine ⟨Nat.lt_succ_self n, htoken, ?_, ?_⟩
  · have hnothing : between tokens n (n + 1) = [] :=
      List.drop_eq_nil_of_le (List.length_take_le _ _)
    rw [hnothing]
    exact leavesOpen_nil
  · rintro ⟨k, -, hlow, hhigh, -⟩
    omega

/-! ## Arrangements -/

/-- Positions of the numbers and operators among the first `n` tokens, in the
order in which they are written. -/
structure Arranged (tokens : List Token) (n : Nat) (positions : List Nat) : Prop where
  mem_iff : ∀ i, i ∈ positions ↔ i < n ∧ KeptAt tokens i
  ordered : positions.Pairwise (WrittenBefore tokens)

theorem Arranged.skip {tokens : List Token} {n : Nat} {positions : List Nat} {symbol : Char}
    (harranged : Arranged tokens n positions) (htoken : tokens[n]? = some (.paren symbol)) :
    Arranged tokens (n + 1) positions := by
  refine ⟨fun i => ?_, harranged.ordered⟩
  rw [harranged.mem_iff, Nat.lt_succ_iff_lt_or_eq, or_and_right, eq_comm]
  refine (or_iff_left ?_).symm
  rintro ⟨rfl, token, hfound, hkept⟩
  exact hkept symbol (by simpa [htoken] using hfound.symm)

/-- A new token goes behind all that have left and before all that wait. -/
theorem Arranged.insert {tokens : List Token} {n : Nat} {front back : List Nat}
    (harranged : Arranged tokens n (front ++ back)) (hkept : KeptAt tokens n)
    (hfront : ∀ i ∈ front, HasLeft tokens i (n + 1))
    (hback : ∀ i ∈ back, ¬ HasLeft tokens i (n + 1)) :
    Arranged tokens (n + 1) (front ++ n :: back) := by
  have hmem := harranged.mem_iff
  have hlt : ∀ i ∈ front ++ back, i < n := fun i hi => ((hmem i).mp hi).1
  rw [List.forall_mem_append] at hlt
  constructor
  · intro i
    have hold := hmem i
    rw [List.mem_append] at hold
    rw [List.mem_append, List.mem_cons, or_left_comm, hold, Nat.lt_succ_iff_lt_or_eq]
    constructor
    · rintro (rfl | ⟨hi, hiKept⟩)
      · exact ⟨Or.inr rfl, hkept⟩
      · exact ⟨Or.inl hi, hiKept⟩
    · rintro ⟨hi | rfl, hiKept⟩
      · exact Or.inr ⟨hi, hiKept⟩
      · exact Or.inl rfl
  · obtain ⟨hfrontOrdered, hbackOrdered, hcross⟩ := List.pairwise_append.mp harranged.ordered
    refine List.pairwise_append.mpr ⟨hfrontOrdered, List.pairwise_cons.mpr ⟨?_, hbackOrdered⟩, ?_⟩
    · exact fun i hi => Or.inr ⟨hlt.2 i hi, hback i hi⟩
    · intro i hi j hj
      rcases List.mem_cons.mp hj with rfl | hj
      · exact Or.inl ⟨hlt.1 i hi, hfront i hi⟩
      · exact hcross i hi j hj

/-! ## Following the positions -/

/-- A conversion under way, with the positions at which the tokens were read. -/
structure Marked where
  output : List (Nat × Token)
  waiting : List (Nat × Char)
  enclosing : List (List (Nat × Char))

namespace Marked

/-- Without the positions. -/
def forget (marked : Marked) : Converter :=
  { output := (marked.output.map Prod.snd).toArray
    waiting := marked.waiting.map Prod.snd
    enclosing := marked.enclosing.map (List.map Prod.snd) }

/-- The operators that wait, the latest first. -/
def pending (marked : Marked) : List (Nat × Char) :=
  marked.waiting ++ marked.enclosing.flatten

/-- The positions of what has been written, then of what waits. -/
def positions (marked : Marked) : List Nat :=
  marked.output.map Prod.fst ++ marked.pending.map Prod.fst

/-- An operator as it is written. -/
def written (entry : Nat × Char) : Nat × Token :=
  (entry.1, .operator entry.2)

theorem fst_comp_written : Prod.fst ∘ written = Prod.fst := rfl

theorem snd_comp_written : Prod.snd ∘ written = Token.operator ∘ Prod.snd := rfl

/-- Whether an operator that waits is to be applied before a new one. -/
def yieldsTo (symbol : Char) (entry : Nat × Char) : Bool :=
  Converter.yieldsTo symbol entry.2

/-! One step for each kind of token, as `Converter.step` makes it. -/

def number (marked : Marked) (n : Nat) (text : String) : Marked :=
  { marked with output := marked.output ++ [(n, .number text)] }

def operator (marked : Marked) (n : Nat) (symbol : Char) : Marked :=
  { marked with
    output := marked.output ++ (marked.waiting.takeWhile (yieldsTo symbol)).map written
    waiting := (n, symbol) :: marked.waiting.dropWhile (yieldsTo symbol) }

def opened (marked : Marked) : Marked :=
  { marked with waiting := [], enclosing := marked.waiting :: marked.enclosing }

def closed (marked : Marked) (outer : List (Nat × Char)) (enclosing : List (List (Nat × Char))) :
    Marked :=
  { output := marked.output ++ marked.waiting.map written, waiting := outer, enclosing }

/-- The positions follow every step. -/
theorem exists_of_step {marked : Marked} {next : Converter} {token : Token} (n : Nat)
    (hstep : marked.forget.step token = .ok next) :
    (∃ text, token = .number text ∧ next = (marked.number n text).forget) ∨
    (∃ symbol, token = .operator symbol ∧ next = (marked.operator n symbol).forget) ∨
    (token = .paren '(' ∧ next = marked.opened.forget) ∨
    ∃ symbol outer enclosing, token = .paren symbol ∧ symbol ≠ '(' ∧
      marked.enclosing = outer :: enclosing ∧ next = (marked.closed outer enclosing).forget := by
  rcases Converter.step_eq_ok hstep with ⟨text, rfl, rfl⟩ | ⟨symbol, rfl, rfl⟩ | ⟨rfl, rfl⟩ |
    ⟨symbol, outer, enclosing, rfl, hclose, henclosing, rfl⟩
  · exact Or.inl ⟨text, rfl, by simp [forget, number]⟩
  · refine Or.inr (Or.inl ⟨symbol, rfl, ?_⟩)
    have hyields : Converter.yieldsTo symbol ∘ Prod.snd = yieldsTo symbol := rfl
    simp [forget, operator, snd_comp_written, List.takeWhile_map, List.dropWhile_map, hyields]
  · exact Or.inr (Or.inr (Or.inl ⟨rfl, rfl⟩))
  · obtain ⟨group, groups, hgroups, rfl, rfl⟩ := List.map_eq_cons_iff.mp henclosing
    refine Or.inr (Or.inr (Or.inr ⟨symbol, group, groups, rfl, hclose, hgroups, ?_⟩))
    simp [forget, closed, snd_comp_written]

end Marked

/-- Every position holds the token that it is attached to, what has been written
has left, and the rest waits in its group. -/
structure Placed (tokens : List Token) (n : Nat) (marked : Marked) : Prop where
  output : ∀ entry ∈ marked.output, tokens[entry.1]? = some entry.2 ∧ HasLeft tokens entry.1 n
  waiting : ∀ entry ∈ marked.waiting, Waits tokens n 0 entry
  enclosing : ∀ depth group, marked.enclosing[depth]? = some group →
    ∀ entry ∈ group, Waits tokens n (depth + 1) entry

namespace Placed

variable {tokens : List Token} {n : Nat} {marked : Marked}

theorem hasLeft (hplaced : Placed tokens n marked) {i : Nat}
    (hmem : i ∈ marked.output.map Prod.fst) : HasLeft tokens i n := by
  obtain ⟨entry, hentry, rfl⟩ := List.mem_map.mp hmem
  exact (hplaced.output entry hentry).2

theorem not_hasLeft (hplaced : Placed tokens n marked) {i : Nat}
    (hmem : i ∈ marked.pending.map Prod.fst) : ¬ HasLeft tokens i n := by
  obtain ⟨entry, hentry, rfl⟩ := List.mem_map.mp hmem
  rcases List.mem_append.mp hentry with hwaiting | hflat
  · exact (hplaced.waiting entry hwaiting).not_hasLeft
  · obtain ⟨group, hgroup, hentry⟩ := List.mem_flatten.mp hflat
    obtain ⟨depth, hdepth⟩ := List.mem_iff_getElem?.mp hgroup
    exact (hplaced.enclosing depth group hdepth entry hentry).not_hasLeft

theorem output_succ (hplaced : Placed tokens n marked) {entry : Nat × Token}
    (hentry : entry ∈ marked.output) :
    tokens[entry.1]? = some entry.2 ∧ HasLeft tokens entry.1 (n + 1) :=
  ⟨(hplaced.output entry hentry).1, (hplaced.output entry hentry).2.succ⟩

theorem written_succ (hplaced : Placed tokens n marked) {token : Token}
    (htoken : tokens[n]? = some token) {released : List (Nat × Char)}
    (hreleased : ∀ entry ∈ released, entry ∈ marked.waiting ∧ Releases entry.2 token) :
    ∀ entry ∈ marked.output ++ released.map Marked.written,
      tokens[entry.1]? = some entry.2 ∧ HasLeft tokens entry.1 (n + 1) := by
  intro entry hmem
  rcases List.mem_append.mp hmem with hold | hnew
  · exact hplaced.output_succ hold
  · obtain ⟨waited, hwaited, rfl⟩ := List.mem_map.mp hnew
    obtain ⟨hwaiting, hreleases⟩ := hreleased waited hwaited
    have hwaits := hplaced.waiting waited hwaiting
    exact ⟨hwaits.token, hwaits.hasLeft htoken hreleases⟩

theorem number (hplaced : Placed tokens n marked) {text : String}
    (htoken : tokens[n]? = some (.number text)) : Placed tokens (n + 1) (marked.number n text) := by
  refine ⟨fun entry hmem => ?_, fun entry hmem => ?_, fun depth group hgroup entry hmem => ?_⟩
  · rcases List.mem_append.mp hmem with hold | hnew
    · exact hplaced.output_succ hold
    · rw [List.mem_singleton.mp hnew]
      exact ⟨htoken, Or.inl ⟨text, htoken⟩⟩
  · exact (hplaced.waiting entry hmem).succ htoken rfl fun _ => id
  · exact (hplaced.enclosing depth group hgroup entry hmem).succ htoken rfl fun _ => id

theorem operator (hplaced : Placed tokens n marked) (hascending : marked.forget.Ascending)
    {symbol : Char} (htoken : tokens[n]? = some (.operator symbol)) :
    Placed tokens (n + 1) (marked.operator n symbol) := by
  refine ⟨hplaced.written_succ htoken fun entry hmem => ?_, fun entry hmem => ?_,
    fun depth group hgroup entry hmem => ?_⟩
  · have htight : precedence symbol ≤ precedence entry.2 := by
      simpa [Marked.yieldsTo, Converter.yieldsTo] using List.mem_takeWhile_imp hmem
    exact ⟨(List.takeWhile_sublist _).mem hmem, htight⟩
  · rcases List.mem_cons.mp hmem with rfl | hmem
    · exact waits_new htoken
    · -- the operators of a group ascend, so those that stay all bind less tightly
      have hloose : precedence entry.2 < precedence symbol := by
        refine Converter.precedence_lt_of_mem_dropWhile (hascending _ List.mem_cons_self) ?_
        rw [Marked.forget, List.dropWhile_map]
        exact List.mem_map_of_mem hmem
      have hwaits := hplaced.waiting entry ((List.dropWhile_sublist _).mem hmem)
      exact hwaits.succ htoken rfl fun _ => Nat.not_le_of_lt hloose
  · exact (hplaced.enclosing depth group hgroup entry hmem).succ htoken rfl (by simp)

theorem opened (hplaced : Placed tokens n marked) (htoken : tokens[n]? = some (.paren '(')) :
    Placed tokens (n + 1) marked.opened := by
  refine ⟨fun entry hmem => hplaced.output_succ hmem, by simp [Marked.opened],
    fun depth group hgroup entry hmem => ?_⟩
  cases depth with
  | zero =>
      obtain rfl : marked.waiting = group := by simpa [Marked.opened] using hgroup
      exact (hplaced.waiting entry hmem).succ htoken rfl fun _ hreleases => hreleases rfl
  | succ depth =>
      have hgroup : marked.enclosing[depth]? = some group := by
        simpa [Marked.opened] using hgroup
      exact (hplaced.enclosing depth group hgroup entry hmem).succ htoken rfl (by simp)

theorem closed (hplaced : Placed tokens n marked) {symbol : Char}
    (htoken : tokens[n]? = some (.paren symbol)) (hclose : symbol ≠ '(')
    {outer : List (Nat × Char)} {enclosing : List (List (Nat × Char))}
    (henclosing : marked.enclosing = outer :: enclosing) :
    Placed tokens (n + 1) (marked.closed outer enclosing) := by
  have hdepth (depth : Nat) : depth + 1 + (Token.paren symbol).isOpen.toNat =
      depth + (Token.paren symbol).isClose.toNat := by
    simp [Token.isClose, bne, beq_eq_false_iff_ne.mpr hclose]
  refine ⟨hplaced.written_succ htoken fun entry hmem => ⟨hmem, hclose⟩, fun entry hmem => ?_,
    fun depth group hgroup entry hmem => ?_⟩
  · have hwaits := hplaced.enclosing 0 outer (by rw [henclosing]; rfl) entry hmem
    exact hwaits.succ htoken (hdepth 0) (by simp)
  · have hwaits := hplaced.enclosing (depth + 1) group (by rw [henclosing]; exact hgroup) entry hmem
    exact hwaits.succ htoken (hdepth (depth + 1)) (by simp)

/-- Where the output and the waiting operators are known, so is the place of a
new token between them. -/
theorem insert (hplaced : Placed tokens (n + 1) marked) {front back : List Nat}
    (harranged : Arranged tokens n (front ++ back)) (hkept : KeptAt tokens n)
    (hfront : front ⊆ marked.output.map Prod.fst) (hback : back ⊆ marked.pending.map Prod.fst) :
    Arranged tokens (n + 1) (front ++ n :: back) :=
  harranged.insert hkept (fun _ hmem => hplaced.hasLeft (hfront hmem))
    fun _ hmem => hplaced.not_hasLeft (hback hmem)

/-- Every step keeps the positions placed and arranged. -/
theorem step (hplaced : Placed tokens n marked) (harranged : Arranged tokens n marked.positions)
    (hascending : marked.forget.Ascending) {token : Token} (htoken : tokens[n]? = some token)
    {state : Converter} (hstep : marked.forget.step token = .ok state) :
    ∃ next : Marked, next.forget = state ∧ Placed tokens (n + 1) next ∧
      Arranged tokens (n + 1) next.positions := by
  rcases Marked.exists_of_step n hstep with ⟨text, rfl, rfl⟩ | ⟨symbol, rfl, rfl⟩ | ⟨rfl, rfl⟩ |
    ⟨symbol, outer, enclosing, rfl, hclose, henclosing, rfl⟩
  · have hnext := hplaced.number htoken
    refine ⟨_, rfl, hnext, ?_⟩
    have hinsert := hnext.insert harranged ⟨_, htoken, by simp⟩ (by simp [Marked.number])
      (List.Subset.refl _)
    simpa [Marked.positions, Marked.pending, Marked.number] using hinsert
  · have hnext := hplaced.operator hascending htoken
    refine ⟨_, rfl, hnext, ?_⟩
    have hwaiting : (marked.waiting.takeWhile (Marked.yieldsTo symbol)).map Prod.fst ++
        (marked.waiting.dropWhile (Marked.yieldsTo symbol)).map Prod.fst =
          marked.waiting.map Prod.fst := by
      rw [← List.map_append, List.takeWhile_append_dropWhile]
    have hsplit : marked.positions =
        (marked.operator n symbol).output.map Prod.fst ++
          (marked.waiting.dropWhile (Marked.yieldsTo symbol) ++ marked.enclosing.flatten).map
            Prod.fst := by
      rw [Marked.positions, Marked.pending, List.map_append, ← hwaiting]
      simp [Marked.operator, Marked.fst_comp_written]
    have hinsert := hnext.insert (hsplit ▸ harranged) ⟨_, htoken, by simp⟩ (List.Subset.refl _)
      (by simp [Marked.pending, Marked.operator])
    simpa [Marked.positions, Marked.pending, Marked.operator] using hinsert
  · refine ⟨_, rfl, hplaced.opened htoken, ?_⟩
    have hskip := harranged.skip htoken
    simpa [Marked.positions, Marked.pending, Marked.opened] using hskip
  · refine ⟨_, rfl, hplaced.closed htoken hclose henclosing, ?_⟩
    have hskip := harranged.skip htoken
    simpa [Marked.positions, Marked.pending, Marked.closed, henclosing, Marked.fst_comp_written]
      using hskip

/-- When nothing is enclosing any more, the positions list the output and what is
released at the end. -/
theorem map_positions (hplaced : Placed tokens n marked) (henclosing : marked.enclosing = []) :
    marked.positions.map (tokens[·]?) =
      (marked.forget.output.toList ++ marked.forget.waiting.map Token.operator).map some := by
  have houtput : marked.output.map (fun entry => tokens[entry.1]?) =
      marked.output.map fun entry => some entry.2 :=
    List.map_congr_left fun entry hmem => (hplaced.output entry hmem).1
  have hwaiting : marked.waiting.map (fun entry => tokens[entry.1]?) =
      marked.waiting.map fun entry => some (.operator entry.2) :=
    List.map_congr_left fun entry hmem => (hplaced.waiting entry hmem).token
  simp [Marked.positions, Marked.pending, Marked.forget, henclosing, Function.comp_def, houtput,
    hwaiting]

end Placed

/-- The state after the tokens read so far, if these begin the list, has positions
that are placed and arranged. -/
def Follows (tokens read : List Token) (state : Converter) : Prop :=
  state.Ascending ∧ (read <+: tokens → ∃ marked : Marked, marked.forget = state ∧
    Placed tokens read.length marked ∧ Arranged tokens read.length marked.positions)

theorem follows_start (tokens : List Token) : Follows tokens [] Converter.start := by
  refine ⟨Converter.ascending_start, fun _ => ⟨⟨[], [], []⟩, rfl, ?_, ?_⟩⟩
  · constructor <;> simp
  · constructor <;> simp [Marked.positions, Marked.pending]

theorem Follows.step {tokens read : List Token} {state next : Converter} {token : Token}
    (hfollows : Follows tokens read state) (hstep : state.step token = .ok next) :
    Follows tokens (read ++ [token]) next := by
  obtain ⟨hascending, hmarked⟩ := hfollows
  refine ⟨hascending.step hstep, fun hprefix => ?_⟩
  have htoken : tokens[read.length]? = some token := by
    obtain ⟨rest, rfl⟩ := hprefix
    simp
  obtain ⟨marked, rfl, hplaced, harranged⟩ :=
    hmarked ((List.prefix_append read [token]).trans hprefix)
  rw [List.length_append, List.length_singleton]
  exact hplaced.step harranged hascending htoken hstep

theorem lt_length_of_keptAt {tokens : List Token} {i : Nat} (hkept : KeptAt tokens i) :
    i < tokens.length := by
  obtain ⟨token, htoken, -⟩ := hkept
  exact (List.getElem?_eq_some_iff.mp htoken).1

theorem Arranged.isOutputOrder {tokens : List Token} {order : List Nat}
    (harranged : Arranged tokens tokens.length order) : IsOutputOrder tokens order := by
  refine isOutputOrder_iff.mpr ⟨fun i => ?_, harranged.ordered⟩
  rw [harranged.mem_iff]
  exact and_iff_right_of_imp lt_length_of_keptAt

/-- **The tokens determine the order of the output.**  There is exactly one
arrangement of their numbers and operators in which a number precedes all later
tokens and an operator those that are read after its release, and the output is
this one. -/
theorem existsUnique_outputOrder {tokens listing : List Token}
    (hlisting : Postfix.ofInfix tokens = .ok listing) :
    (∃! order, IsOutputOrder tokens order) ∧
      ∀ order, IsOutputOrder tokens order → order.map (tokens[·]?) = listing.map some := by
  obtain ⟨last, hrun, henclosing, rfl⟩ := ofInfix_eq_ok_iff.mp hlisting
  have hfollows : Follows tokens tokens last :=
    Converter.run_induction [] (follows_start tokens) Follows.step hrun
  obtain ⟨final, rfl, hplaced, harranged⟩ := hfollows.2 List.prefix_rfl
  have horder := harranged.isOutputOrder
  have hclosed : final.enclosing = [] := List.map_eq_nil_iff.mp henclosing
  refine ⟨⟨_, horder, fun other hother => hother.unique horder⟩, fun other hother => ?_⟩
  rw [hother.unique horder]
  exact hplaced.map_positions hclosed

/-- `+ 1 ( * ^ 3 ] 2 - 5`, which is no expression. -/
def strayOperators : List Token :=
  [.operator '+', .number "1", .paren '(', .operator '*', .operator '^', .number "3", .paren ']',
    .number "2", .operator '-', .number "5"]

theorem existsUnique_outputOrder_strayOperators :
    Postfix.ofInfix strayOperators = .ok [.number "1", .operator '*', .number "3", .operator '^',
        .number "2", .operator '+', .number "5", .operator '-'] ∧
      ∃! order, IsOutputOrder strayOperators order := by
  have hlisting : Postfix.ofInfix strayOperators = .ok [.number "1", .operator '*', .number "3",
      .operator '^', .number "2", .operator '+', .number "5", .operator '-'] := by
    decide +kernel
  exact ⟨hlisting, (existsUnique_outputOrder hlisting).1⟩

end CipherCalc.Expr
