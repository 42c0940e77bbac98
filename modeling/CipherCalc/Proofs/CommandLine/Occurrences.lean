import CipherCalc.Proofs.CommandLine.Spelling
import CipherCalc.Proofs.Readers.Arguments
import Mathlib.Data.List.Nodup

/-!
# Order and spelling do not matter

Options are added one after another, and each but the verbosity only once.  So a row of
occurrences is added as a whole if no option is there twice, in which case the options are
those that were asked for (`Asked`), and otherwise not at all (`isStored_foldlM`).  Both say
nothing of the order, and since arguments are read as the occurrences that they spell
(`Spelled.readInto_eq`), neither the order nor the spelling makes a difference to the
options (`parse_spelled`).
-/

namespace CipherCalc.CommandLine

/-- Every option but the verbosity is asked for once at most. -/
def AtMostOnce (occurrences : List Occurrence) : Prop :=
  ∀ item, item ≠ .flag .verbose → (occurrences.map Occurrence.item).count item ≤ 1

theorem nodup_filter_iff {occurrences : List Occurrence} :
    ((occurrences.map Occurrence.item).filter (· ≠ .flag .verbose)).Nodup ↔
      AtMostOnce occurrences := by
  rw [List.nodup_iff_count_le_one]
  refine forall_congr' fun item => ?_
  by_cases hverbose : item = .flag .verbose
  · have hnotMem : item ∉ (occurrences.map Occurrence.item).filter (· ≠ .flag .verbose) := by
      simp [hverbose]
    rw [List.count_eq_zero.mpr hnotMem]
    exact iff_of_true (Nat.zero_le 1) fun hother => absurd hverbose hother
  · rw [List.count_filter (by simpa using hverbose)]
    simp [hverbose]

instance (occurrences : List Occurrence) : Decidable (AtMostOnce occurrences) :=
  decidable_of_iff _ nodup_filter_iff

/-- The options are those that are asked for, and no others.  The verbosity is how often it
is asked for, up to 255. -/
structure Asked (occurrences : List Occurrence) (options : Options) : Prop where
  value?_iff : ∀ option value,
    options.value? option = some value ↔ .valued option value ∈ occurrences
  showSteps_iff : options.showSteps = true ↔ .showSteps ∈ occurrences
  verbosity_eq : options.verbosity = min (occurrences.count .verbose) 255

variable {occurrences done : List Occurrence} {occurrence : Occurrence} {options : Options}
  {option : Valued} {value : String}

/-! ## Adding one option -/

theorem value?_put (options : Options) (option : Valued) (value : String) (other : Valued) :
    (options.put option value).value? other =
      if other = option then some value else options.value? other := by
  cases option <;> cases other <;> rfl

theorem showSteps_put (options : Options) (option : Valued) (value : String) :
    (options.put option value).showSteps = options.showSteps := by
  cases option <;> rfl

theorem verbosity_put (options : Options) (option : Valued) (value : String) :
    (options.put option value).verbosity = options.verbosity := by
  cases option <;> rfl

/-! ## Options that are asked for -/

theorem asked_nil : Asked [] {} where
  value?_iff option value := by cases option <;> simp [Options.value?]
  showSteps_iff := by simp
  verbosity_eq := rfl

theorem Asked.eq_of_perm {others : List Occurrence} {other : Options}
    (hasked : Asked occurrences options) (hother : Asked others other)
    (hperm : others.Perm occurrences) : other = options := by
  have hvalue : other.value? = options.value? := by
    funext option
    apply Option.ext
    intro value
    exact (hother.value?_iff option value).trans
      (hperm.mem_iff.trans (hasked.value?_iff option value).symm)
  have hshowSteps : other.showSteps = options.showSteps := by
    apply Bool.eq_iff_iff.mpr
    exact hother.showSteps_iff.trans (hperm.mem_iff.trans hasked.showSteps_iff.symm)
  have hverbosity : other.verbosity = options.verbosity := by
    rw [hother.verbosity_eq, hasked.verbosity_eq, hperm.count_eq]
  rw [Options.mk.injEq]
  exact ⟨congrFun hvalue .config, congrFun hvalue .expression, hshowSteps, hverbosity⟩

theorem valued_mem_map_item_iff :
    Item.valued option ∈ occurrences.map Occurrence.item ↔
      ∃ value, .valued option value ∈ occurrences := by
  rw [List.mem_map]
  constructor
  · rintro ⟨occurrence, hmem, hitem⟩
    cases occurrence with
    | valued other value =>
        obtain rfl : other = option := Item.valued.inj hitem
        exact ⟨value, hmem⟩
    | showSteps => cases hitem
    | verbose => cases hitem
  · rintro ⟨value, hmem⟩
    exact ⟨_, hmem, rfl⟩

theorem showSteps_mem_map_item_iff :
    Item.flag .showSteps ∈ occurrences.map Occurrence.item ↔ .showSteps ∈ occurrences := by
  rw [List.mem_map]
  constructor
  · rintro ⟨occurrence, hmem, hitem⟩
    cases occurrence with
    | valued other value => cases hitem
    | showSteps => exact hmem
    | verbose => cases hitem
  · exact fun hmem => ⟨_, hmem, rfl⟩

/-- An option that is there already is refused. -/
theorem Asked.add?_repeated (hasked : Asked done options)
    (hverbose : occurrence.item ≠ .flag .verbose)
    (hmem : occurrence.item ∈ done.map Occurrence.item) : options.add? occurrence = none := by
  cases occurrence with
  | valued option value =>
      obtain ⟨first, hfirst⟩ := valued_mem_map_item_iff.mp hmem
      have hsome := (hasked.value?_iff option first).mpr hfirst
      exact if_pos (by rw [hsome, Option.isSome_some])
  | showSteps => exact if_pos (hasked.showSteps_iff.mpr (showSteps_mem_map_item_iff.mp hmem))
  | verbose => exact absurd rfl hverbose

/-- An option that is new is added, and so is one more flag for the verbosity. -/
theorem Asked.add?_new (hasked : Asked done options)
    (hnew : occurrence.item ≠ .flag .verbose → occurrence.item ∉ done.map Occurrence.item) :
    ∃ next, options.add? occurrence = some next ∧ Asked (done ++ [occurrence]) next := by
  cases occurrence with
  | valued option value =>
      have hnotMem : ∀ first, .valued option first ∉ done := fun first hmem =>
        hnew (by simp [Occurrence.item]) (valued_mem_map_item_iff.mpr ⟨first, hmem⟩)
      have hnone : options.value? option = none := by
        rw [Option.eq_none_iff_forall_ne_some]
        exact fun first hfirst => hnotMem first ((hasked.value?_iff option first).mp hfirst)
      refine ⟨options.put option value, if_neg (by simp [hnone]), ⟨fun other text => ?_, ?_, ?_⟩⟩
      · rw [value?_put, List.mem_append, List.mem_singleton, Occurrence.valued.injEq]
        by_cases hother : other = option
        · simp [hother, hnotMem, eq_comm]
        · simp [hother, hasked.value?_iff]
      · rw [showSteps_put, hasked.showSteps_iff]
        simp
      · rw [verbosity_put, hasked.verbosity_eq]
        simp
  | showSteps =>
      have hfalse : ¬ options.showSteps = true := fun htrue =>
        hnew (by simp [Occurrence.item])
          (showSteps_mem_map_item_iff.mpr (hasked.showSteps_iff.mp htrue))
      refine ⟨{ options with showSteps := true }, if_neg hfalse, ⟨fun other text => ?_, ?_, ?_⟩⟩
      · rw [List.mem_append, ← hasked.value?_iff other text]
        cases other <;> simp [Options.value?]
      · simp
      · simp [hasked.verbosity_eq]
  | verbose =>
      refine ⟨{ options with verbosity := min (options.verbosity + 1) Options.maxVerbosity }, rfl,
        ⟨fun other text => ?_, ?_, ?_⟩⟩
      · rw [List.mem_append, ← hasked.value?_iff other text]
        cases other <;> simp [Options.value?]
      · simp [hasked.showSteps_iff]
      · simp only [hasked.verbosity_eq, List.count_append, List.count_singleton_self,
          Options.maxVerbosity]
        omega

/-! ## Rows of occurrences -/

theorem AtMostOnce.concat (honce : AtMostOnce done)
    (hnew : occurrence.item ≠ .flag .verbose → occurrence.item ∉ done.map Occurrence.item) :
    AtMostOnce (done ++ [occurrence]) := by
  intro item hverbose
  have hcount := honce item hverbose
  rw [List.map_append, List.map_singleton, List.count_append, List.count_singleton]
  by_cases hitem : occurrence.item = item
  · subst hitem
    rw [List.count_eq_zero.mpr (hnew hverbose)]
    simp
  · rw [beq_false_of_ne hitem]
    exact hcount

/-- An option that stands in two places is there more than once. -/
theorem not_atMostOnce {before after : List Occurrence} (hverbose : occurrence.item ≠ .flag .verbose)
    (hmem : occurrence.item ∈ (before ++ after).map Occurrence.item) :
    ¬ AtMostOnce (before ++ occurrence :: after) := by
  intro honce
  have hpos := List.count_pos_iff.mpr hmem
  have hcount := honce occurrence.item hverbose
  simp only [List.map_append, List.map_cons, List.count_append, List.count_cons_self] at hpos hcount
  omega

/-- Whether a row was added as a whole, or not at all because an option is there twice. -/
def IsStored (occurrences : List Occurrence) (result : Option Options) : Prop :=
  (AtMostOnce occurrences ∧ ∃ options, result = some options ∧ Asked occurrences options) ∨
    ¬ AtMostOnce occurrences ∧ result = none

theorem isStored_foldlM (hasked : Asked done options) (honce : AtMostOnce done) :
    IsStored (done ++ occurrences) (occurrences.foldlM Options.add? options) := by
  induction occurrences generalizing done options with
  | nil =>
      rw [List.append_nil]
      exact .inl ⟨honce, options, rfl, hasked⟩
  | cons occurrence rest ih =>
      rw [List.foldlM_cons]
      by_cases hthere : occurrence.item ≠ .flag .verbose ∧
          occurrence.item ∈ done.map Occurrence.item
      · obtain ⟨hverbose, hmem⟩ := hthere
        have htwice : occurrence.item ∈ (done ++ rest).map Occurrence.item := by
          rw [List.map_append]
          exact List.mem_append_left _ hmem
        rw [hasked.add?_repeated hverbose hmem]
        exact .inr ⟨not_atMostOnce hverbose htwice, rfl⟩
      · rw [not_and] at hthere
        obtain ⟨next, hnext, haskedNext⟩ := hasked.add?_new hthere
        have hrest := ih haskedNext (honce.concat hthere)
        rw [List.append_assoc, List.singleton_append] at hrest
        rw [hnext]
        exact hrest

/-! ## Spelled arguments -/

section

variable {ε : Type} {parse : List String → Except ε Options}
  {readInto : Options → List String → Option Options} {arguments : List String}

theorem Spelled.isStored (hparse : ReadsOptions parse readInto)
    (hspelled : Spelled occurrences arguments) :
    IsStored occurrences (parse arguments).toOption := by
  rw [hparse.toOption_eq, hspelled.readInto_eq hparse]
  exact isStored_foldlM asked_nil fun item _ => Nat.zero_le _

theorem Spelled.parse_eq_ok (hparse : ReadsOptions parse readInto)
    (hspelled : Spelled occurrences arguments) (honce : AtMostOnce occurrences) :
    ∃ options, parse arguments = .ok options ∧ Asked occurrences options := by
  rcases hspelled.isStored hparse with ⟨-, options, hoptions, hasked⟩ | ⟨hnot, -⟩
  · exact ⟨options, Fallible.toOption_eq_some_iff.mp hoptions, hasked⟩
  · exact absurd honce hnot

theorem Spelled.parse_eq_error (hparse : ReadsOptions parse readInto)
    (hspelled : Spelled occurrences arguments) (htwice : ¬ AtMostOnce occurrences) :
    ∃ refusal, parse arguments = .error refusal := by
  rcases hspelled.isStored hparse with ⟨honce, -⟩ | ⟨-, hnone⟩
  · exact absurd honce htwice
  · exact Fallible.toOption_eq_none_iff.mp hnone

/-- **Order and spelling of options do not matter.**  Options that are asked for once at
most, the verbosity as often as one likes, are the options that are read, however each is
spelled.  So are they in any other order and spelling.  With one occurrence too many the
arguments are refused, wherever it stands. -/
theorem parse_spelled (hparse : ReadsOptions parse readInto)
    (hspelled : Spelled occurrences arguments) :
    (AtMostOnce occurrences →
      ∃ options, parse arguments = .ok options ∧ Asked occurrences options) ∧
    (∀ others otherArguments, AtMostOnce occurrences → others.Perm occurrences →
      Spelled others otherArguments → parse otherArguments = parse arguments) ∧
    ∀ before extra after, occurrences = before ++ extra :: after →
      AtMostOnce (before ++ after) → extra.item ≠ .flag .verbose →
      extra.item ∈ (before ++ after).map Occurrence.item →
      ∃ refusal, parse arguments = .error refusal := by
  refine ⟨hspelled.parse_eq_ok hparse, fun others otherArguments honce hperm hother => ?_, ?_⟩
  · have honceOther : AtMostOnce others := fun item hverbose =>
      Nat.le_trans (Nat.le_of_eq ((hperm.map Occurrence.item).count_eq item)) (honce item hverbose)
    obtain ⟨options, hoptions, hasked⟩ := hspelled.parse_eq_ok hparse honce
    obtain ⟨otherOptions, hotherOptions, hotherAsked⟩ := hother.parse_eq_ok hparse honceOther
    rw [hoptions, hotherOptions, hasked.eq_of_perm hotherAsked hperm]
  · rintro before extra after rfl - hverbose hmem
    exact hspelled.parse_eq_error hparse (not_atMostOnce hverbose hmem)

end

/-- Three flags, two of them at the beginning of a group, an expression and a path.  The
same in another order and spelling, and the path with a second expression. -/
theorem parse_spelled_grouped :
    (∃ options, Readers.standard.options
        ["-vve", "1+1", "--show-steps", "-v", "--config=a=b"] = .ok options ∧
      options.value? .expression = some "1+1" ∧ options.value? .config = some "a=b" ∧
      options.showSteps = true ∧ options.verbosity = 3) ∧
    Readers.standard.options ["-ca=b", "--verbose", "--show-steps", "-vv", "-e=1+1"] =
      Readers.standard.options ["-vve", "1+1", "--show-steps", "-v", "--config=a=b"] ∧
    ∃ refusal, Readers.standard.options ["-ve-1", "--config", "a=b", "--expr=2"] =
      .error refusal := by
  have hparse := readsOptions_standard
  have hspelled : Spelled [.verbose, .verbose, .valued .expression "1+1", .showSteps, .verbose,
      .valued .config "a=b"] ["-vve", "1+1", "--show-steps", "-v", "--config=a=b"] :=
    .append (.behindFlag (.inl rfl) (.behindFlag (.inr ⟨.expression, rfl⟩)
      (.alone (.shortSeparate .expression (by decide)))))
      (.append (.alone .showSteps) (.append (.alone .shortVerbose)
        (.append (.alone (@Spells.longEquals .config "a=b" (by decide))) .nil)))
  have hother : Spelled [.valued .config "a=b", .verbose, .showSteps, .verbose, .verbose,
      .valued .expression "1+1"] ["-ca=b", "--verbose", "--show-steps", "-vv", "-e=1+1"] :=
    .append (.alone (@Spells.shortAttached .config "a=b" (by decide) (by decide)))
      (.append (.alone .longVerbose) (.append (.alone .showSteps)
        (.append (.behindFlag (.inl rfl) (.alone .shortVerbose))
          (.append (.alone (@Spells.shortEquals .expression "1+1" (by decide))) .nil))))
  have htwice : Spelled [.verbose, .valued .expression "-1", .valued .config "a=b",
      .valued .expression "2"] ["-ve-1", "--config", "a=b", "--expr=2"] :=
    .append (.behindFlag (.inr ⟨.expression, rfl⟩)
      (.alone (@Spells.shortAttached .expression "-1" (by decide) (by decide))))
      (.append (.alone (.longSeparate .config (by decide)))
        (.append (.alone (@Spells.longEquals .expression "2" (by decide))) .nil))
  have honce : AtMostOnce [.verbose, .verbose, .valued .expression "1+1", .showSteps, .verbose,
      .valued .config "a=b"] := by decide
  have hpath : AtMostOnce [.verbose, .valued .expression "-1", .valued .config "a=b"] := by
    decide
  obtain ⟨hread, horder, -⟩ := parse_spelled hparse hspelled
  obtain ⟨options, hoptions, hasked⟩ := hread honce
  refine ⟨⟨options, hoptions, ?_, ?_, ?_, hasked.verbosity_eq⟩,
    horder _ _ honce (by decide) hother, ?_⟩
  · exact (hasked.value?_iff .expression "1+1").mpr (by decide)
  · exact (hasked.value?_iff .config "a=b").mpr (by decide)
  · exact hasked.showSteps_iff.mpr (by decide)
  · obtain ⟨-, -, hrepeated⟩ := parse_spelled hparse htwice
    exact hrepeated [.verbose, .valued .expression "-1", .valued .config "a=b"]
      (.valued .expression "2") [] rfl hpath (by decide) (by decide)

end CipherCalc.CommandLine
