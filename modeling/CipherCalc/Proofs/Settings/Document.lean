import CipherCalc.Proofs.Readers.Document
import CipherCalc.Proofs.Settings.Line
import Mathlib.Data.List.Nodup

/-!
# Settings documents

A reader takes a document line by line, but whether it is accepted is a matter of all its
lines: every line that is no tail must assign a value, no two of them to the same key
(`tableOf?_eq_some_iff`), and every key must be that of a field that takes its value
(`FillsSettings.exists_field`).  Neither says anything of the order of the lines, so a line
that spoils a document does so wherever it stands (`Layout.settings?_eq_none`).

The settings of an accepted document are what its lines give, and defaults
(`entry_foldr_put_of_mem`, `entry_foldr_put_of_not_mem`).
-/

namespace CipherCalc.Settings

/-! ## Entries -/

/-- A setting that a line gives. -/
inductive Entry where
  | askContinue (value : Bool)
  | showSteps (value : Bool)
  | historySize (value : Nat)
  deriving DecidableEq

namespace Entry

/-- The field that is given. -/
def field : Entry → Field
  | .askContinue _ => .askContinue
  | .showSteps _ => .showSteps
  | .historySize _ => .historySize

/-- The value that is given. -/
def value : Entry → Value
  | .askContinue value => .switch value
  | .showSteps value => .switch value
  | .historySize value => .whole value

/-- The value that is given, as it is written. -/
def text : Entry → List Char
  | .askContinue value => (toString value).toList
  | .showSteps value => (toString value).toList
  | .historySize value => (toString value).toList

/-- Sizes are below `2 ^ 63`. -/
def InRange : Entry → Prop
  | .historySize value => value < Nat.pow 2 63
  | _ => True

end Entry

/-- A field with the value that it has. -/
def entry (settings : Settings) : Field → Entry
  | .askContinue => .askContinue settings.askContinue
  | .showSteps => .showSteps settings.showSteps
  | .historySize => .historySize settings.historySize

/-- The settings with an entry put in. -/
def put (entry : Entry) (settings : Settings) : Settings :=
  match entry with
  | .askContinue value => { settings with askContinue := value }
  | .showSteps value => { settings with showSteps := value }
  | .historySize value => { settings with historySize := value }

/-- The texts that a field takes. -/
def Field.Takes : Field → List Char → Prop
  | .askContinue, text => text = "true".toList ∨ text = "false".toList
  | .showSteps, text => text = "true".toList ∨ text = "false".toList
  | .historySize, text => IsInteger text

/-! ## Layouts -/

/-- Lines that give settings, with any number of lines between them that give nothing. -/
inductive Layout : List Entry → List (List Char) → Prop where
  | nil : Layout [] []
  | tail {entries : List Entry} {line : List Char} {rows : List (List Char)}
      (htail : IsTail line) (hrest : Layout entries rows) : Layout entries (line :: rows)
  | setting {entry : Entry} {entries : List Entry} {line : List Char} {rows : List (List Char)}
      (hsetting : IsAssignment entry.field.key entry.text line) (hrange : entry.InRange)
      (hrest : Layout entries rows) : Layout (entry :: entries) (line :: rows)

/-- A key and a text that must not be assigned to it in a document with some settings: the
key is unknown, or given already, or the text is not of the kind that its field takes, or it
is a negative size. -/
inductive Spoils (value? : List Char → Option Value) (entries : List Entry)
    (key text : List Char) : Prop where
  | unknown (hlegible : IsLegible value? text) (hkey : IsBareKey key)
      (hunknown : ∀ field : Field, field.key ≠ key)
  | repeated (field : Field) (hlegible : IsLegible value? text) (hkey : field.key = key)
      (hmem : field ∈ entries.map Entry.field)
  | mistyped (field : Field) (hlegible : IsLegible value? text) (hkey : field.key = key)
      (htext : ¬ field.Takes text)
  | negative (digits : List Char) (hkey : Field.historySize.key = key)
      (htext : text = '-' :: digits) (hdigits : IsDecimal digits) (hne : digits ≠ ['0'])

variable {value? : List Char → Option Value} {table? : List Char → Option Table}
  {ofTable? : Table → Option Settings} {settings? : String → Option Settings}
  {rows before after : List (List Char)} {text rest line key : List Char} {entries : List Entry}
  {entry : Entry} {field : Field} {settings : Settings} {value : Value} {table : Table}
  {given : List (List Char × Option Value)}

/-! ## From lines to tables -/

/-- What lines assign: a key, and a value if its text is one. -/
inductive Gives (value? : List Char → Option Value) :
    List (List Char) → List (List Char × Option Value) → Prop where
  | nil : Gives value? [] []
  | tail {line : List Char} {rows : List (List Char)} {given : List (List Char × Option Value)}
      (htail : IsTail line) (hrest : Gives value? rows given) : Gives value? (line :: rows) given
  | assignment {key text line : List Char} {rows : List (List Char)}
      {given : List (List Char × Option Value)} (hkey : IsBareKey key)
      (hassigns : IsAssignment key text line) (hlegible : IsLegible value? text)
      (hline : IsUnbroken line) (hrest : Gives value? rows given) :
      Gives value? (line :: rows) ((key, value? text) :: given)

theorem Gives.isRow (hgives : Gives value? rows given) : ∀ row ∈ rows, IsRow row := by
  induction hgives with
  | nil => simp
  | tail htail _ ih => exact List.forall_mem_cons.mpr ⟨htail.isRow, ih⟩
  | assignment hkey hassigns _ hline _ ih =>
      exact List.forall_mem_cons.mpr ⟨hassigns.isRow hkey hline, ih⟩

/-- The table that is given, if every value is there and every key new. -/
def tableOf? : List (List Char × Option Value) → Option Table
  | [] => some []
  | (key, value?) :: rest =>
      value?.bind fun value => (tableOf? rest).bind (Table.add? key value)

/-- A document is read as the table that its lines give. -/
theorem ReadsTables.table?_eq (hreads : ReadsTables table? value?) (hjoins : Joins rows text)
    (hgives : Gives value? rows given) : table? text = tableOf? given := by
  induction hjoins generalizing given with
  | last line =>
      have hnewline : IsNewline ['\n'] := .inl rfl
      have hline := hgives.isRow line List.mem_cons_self
      rw [hreads.unended hline, ← List.append_nil (line ++ ['\n'])]
      cases hgives with
      | tail htail hrest =>
          cases hrest
          rw [hreads.tail htail hnewline (by simp), hreads.nil]
          rfl
      | assignment hkey hassigns hlegible hline hrest =>
          cases hrest
          rw [hreads.assignment hkey hassigns hlegible hline hnewline (by simp), hreads.nil]
          rfl
  | cons line hnewline hrest ih =>
      cases hgives with
      | tail htail hgives =>
          rw [hreads.tail htail hnewline (hrest.head?_ne_mark hgives.isRow), ih hgives]
      | assignment hkey hassigns hlegible hline hgives =>
          rw [hreads.assignment hkey hassigns hlegible hline hnewline
            (hrest.head?_ne_mark hgives.isRow), ih hgives]
          rfl

/-- A table is given when all values are there and no key is given twice. -/
theorem tableOf?_eq_some_iff :
    tableOf? given = some table ↔
      given = table.map (fun row => (row.1, some row.2)) ∧ (table.map Prod.fst).Nodup := by
  induction given generalizing table with
  | nil =>
      rw [tableOf?, Option.some.injEq]
      constructor
      · rintro rfl
        exact ⟨rfl, List.nodup_nil⟩
      · rintro ⟨hgiven, -⟩
        exact (List.map_eq_nil_iff.mp hgiven.symm).symm
  | cons first given ih =>
      obtain ⟨key, value?⟩ := first
      simp only [tableOf?, Option.bind_eq_some_iff, ih, Table.add?, Option.ite_none_left_eq_some,
        Option.some.injEq]
      constructor
      · rintro ⟨value, rfl, others, ⟨rfl, honce⟩, hnew, rfl⟩
        exact ⟨rfl, List.nodup_cons.mpr ⟨hnew, honce⟩⟩
      · rintro ⟨hgiven, honce⟩
        cases table with
        | nil => cases hgiven
        | cons row others =>
            rw [List.map_cons, List.cons.injEq, Prod.mk.injEq] at hgiven
            obtain ⟨⟨rfl, rfl⟩, rfl⟩ := hgiven
            obtain ⟨hnew, honce⟩ := List.nodup_cons.mp honce
            exact ⟨row.2, rfl, others, ⟨rfl, honce⟩, hnew, rfl⟩

/-! ## From tables to settings -/

/-- The keys of an accepted table are those of fields that take their values. -/
theorem FillsSettings.exists_field (hfills : FillsSettings ofTable?)
    (hsettings : ofTable? table = some settings) (honce : (table.map Prod.fst).Nodup)
    (hmem : (key, value) ∈ table) :
    ∃ field : Field, field.key = key ∧ ∃ before after, field.put? value before = some after := by
  induction table generalizing settings with
  | nil => cases hmem
  | cons row table ih =>
      obtain ⟨first, firstValue⟩ := row
      rw [List.map_cons, List.nodup_cons] at honce
      by_cases hknown : ∀ field : Field, field.key ≠ first
      · rw [hfills.unknown hknown] at hsettings
        cases hsettings
      · obtain ⟨field, hfield⟩ := Classical.not_forall_not.mp hknown
        subst hfield
        rw [hfills.field field firstValue honce.1] at hsettings
        obtain ⟨before, hbefore, hput⟩ := Option.bind_eq_some_iff.mp hsettings
        rcases List.mem_cons.mp hmem with heq | hmem
        · obtain ⟨rfl, rfl⟩ := Prod.mk.inj heq
          exact ⟨field, rfl, before, settings, hput⟩
        · exact ih hbefore honce.2 hmem

theorem put?_value (entry : Entry) (settings : Settings) :
    entry.field.put? entry.value settings = some (settings.put entry) := by
  cases entry with
  | askContinue value => rfl
  | showSteps value => rfl
  | historySize value =>
      rw [Entry.field, Entry.value, Field.put?, if_pos (Int.natCast_nonneg value)]
      rfl

/-- Entries fill the settings one after another. -/
theorem FillsSettings.ofTable?_entries (hfills : FillsSettings ofTable?)
    (honce : (entries.map Entry.field).Nodup) :
    ofTable? (entries.map fun entry => (entry.field.key, entry.value)) =
      some (entries.foldr put {}) := by
  induction entries with
  | nil => exact hfills.nil
  | cons entry entries ih =>
      rw [List.map_cons, List.nodup_cons] at honce
      have hnew : entry.field.key ∉
          (entries.map fun entry => (entry.field.key, entry.value)).map Prod.fst := by
        rw [List.map_map]
        intro hmem
        obtain ⟨other, hother, hkey⟩ := List.mem_map.mp hmem
        exact honce.1 (List.mem_map.mpr ⟨other, hother, Field.key_injective hkey⟩)
      rw [List.map_cons, hfills.field entry.field entry.value hnew, ih honce.2, Option.bind_some,
        put?_value]
      rfl

theorem entry_put (entry : Entry) (settings : Settings) (field : Field) :
    (settings.put entry).entry field =
      if field = entry.field then entry else settings.entry field := by
  cases entry <;> cases field <;> rfl

theorem entry_foldr_put_of_not_mem (hfield : field ∉ entries.map Entry.field) :
    (entries.foldr put settings).entry field = settings.entry field := by
  induction entries with
  | nil => rfl
  | cons entry entries ih =>
      rw [List.map_cons, List.mem_cons, not_or] at hfield
      rw [List.foldr_cons, entry_put, if_neg hfield.1, ih hfield.2]

theorem entry_foldr_put_of_mem (honce : (entries.map Entry.field).Nodup) (hmem : entry ∈ entries) :
    (entries.foldr put settings).entry entry.field = entry := by
  induction entries with
  | nil => cases hmem
  | cons first entries ih =>
      rw [List.map_cons, List.nodup_cons] at honce
      rw [List.foldr_cons, entry_put]
      rcases List.mem_cons.mp hmem with rfl | hmem
      · exact if_pos rfl
      · have hne : entry.field ≠ first.field := fun hfield =>
          honce.1 (hfield ▸ List.mem_map_of_mem hmem)
        rw [if_neg hne, ih honce.2 hmem]

/-! ## Layouts and what spoils them -/

theorem isToken_text (entry : Entry) : IsToken entry.text := by
  cases entry with
  | askContinue value => cases value <;> decide
  | showSteps value => cases value <;> decide
  | historySize value =>
      have htext : (toString value).toList = Nat.toDigits 10 value := by simp
      rw [Entry.text, htext]
      refine ⟨Nat.toDigits_ne_nil, fun char hmem => .inl ?_⟩
      have hdigit := Nat.isDigit_of_mem_toDigits (by decide) (by decide) hmem
      rw [Char.isAlphanum, hdigit, Bool.or_true]

theorem ReadsValues.value?_text (hvalues : ReadsValues value?) (hrange : entry.InRange) :
    value? entry.text = some entry.value := by
  cases entry with
  | askContinue value => exact hvalues.switch value
  | showSteps value => exact hvalues.switch value
  | historySize value => exact hvalues.whole hrange

theorem Layout.gives (hvalues : ReadsValues value?) (hlayout : Layout entries rows) :
    Gives value? rows (entries.map fun entry => (entry.field.key, some entry.value)) := by
  induction hlayout with
  | nil => exact .nil
  | tail htail _ ih => exact .tail htail ih
  | @setting entry _ _ _ hsetting hrange _ ih =>
      have hkey := entry.field.isBareKey_key
      have htoken := isToken_text entry
      rw [List.map_cons, ← hvalues.value?_text hrange]
      exact .assignment hkey hsetting (.inl htoken) (hsetting.isUnbroken hkey htoken.isUnbroken) ih

/-- Lines in front of others give what they give and what the others do. -/
theorem Gives.append {others : List (List Char × Option Value)}
    (hbefore : Gives value? before given) (hafter : Gives value? after others) :
    Gives value? (before ++ after) (given ++ others) := by
  induction hbefore with
  | nil => exact hafter
  | tail htail _ ih => exact .tail htail ih
  | assignment hkey hassigns hlegible hline _ ih => exact .assignment hkey hassigns hlegible hline ih

/-- A layout can be cut between any two lines. -/
theorem Layout.exists_append (hlayout : Layout entries (before ++ after)) :
    ∃ first others, entries = first ++ others ∧ Layout first before ∧ Layout others after := by
  induction before generalizing entries with
  | nil => exact ⟨[], entries, rfl, .nil, hlayout⟩
  | cons line before ih =>
      cases hlayout with
      | tail htail hrest =>
          obtain ⟨first, others, rfl, hfirst, hothers⟩ := ih hrest
          exact ⟨first, others, rfl, .tail htail hfirst, hothers⟩
      | setting hsetting hrange hrest =>
          obtain ⟨first, others, rfl, hfirst, hothers⟩ := ih hrest
          exact ⟨_ :: first, others, rfl, .setting hsetting hrange hfirst, hothers⟩

theorem Spoils.isBareKey (hspoils : Spoils value? entries key text) : IsBareKey key := by
  cases hspoils with
  | unknown _ hkey => exact hkey
  | repeated field _ hkey => exact hkey ▸ field.isBareKey_key
  | mistyped field _ hkey => exact hkey ▸ field.isBareKey_key
  | negative _ hkey => exact hkey ▸ Field.historySize.isBareKey_key

theorem Spoils.isLegible (hspoils : Spoils value? entries key text) : IsLegible value? text := by
  cases hspoils with
  | unknown hlegible => exact hlegible
  | repeated _ hlegible => exact hlegible
  | mistyped _ hlegible => exact hlegible
  | negative digits _ htext hdigits => exact .inl (htext ▸ (IsInteger.minus hdigits).isToken)

/-- A field that takes a value is given one of its texts. -/
theorem ReadsValues.takes (hvalues : ReadsValues value?) (hvalue : value? text = some value)
    {after : Settings} (hput : field.put? value settings = some after) : field.Takes text := by
  have hswitch {switch : Bool} (hvalue : value? text = some (.switch switch)) :
      text = "true".toList ∨ text = "false".toList := by
    rw [hvalues.eq_of_switch hvalue]
    cases switch
    · exact .inr rfl
    · exact .inl rfl
  unfold Field.put? at hput
  split at hput
  · exact hswitch hvalue
  · exact hswitch hvalue
  · exact hvalues.isInteger_of_whole hvalue
  · cases hput

/-- No table holds what spoils a document and all that the document gives. -/
theorem Spoils.not_accepted (hspoils : Spoils value? entries key text)
    (hvalues : ReadsValues value?) (hfills : FillsSettings ofTable?)
    (hsettings : ofTable? table = some settings) (honce : (table.map Prod.fst).Nodup)
    (hvalue : value? text = some value) (hmem : (key, value) ∈ table)
    (hnew : ∀ field ∈ entries.map Entry.field, field.key ≠ key) : False := by
  obtain ⟨taking, htaking, before, after, hput⟩ := hfills.exists_field hsettings honce hmem
  cases hspoils with
  | unknown _ _ hunknown => exact hunknown taking htaking
  | repeated field _ hkey hmem => exact hnew field hmem hkey
  | mistyped field _ hkey htext =>
      obtain rfl : taking = field := Field.key_injective (htaking.trans hkey.symm)
      exact htext (hvalues.takes hvalue hput)
  | negative digits hkey htext hdigits hne =>
      obtain rfl : taking = .historySize := Field.key_injective (htaking.trans hkey.symm)
      rw [htext] at hvalue
      obtain ⟨number, hnegative, rfl⟩ := hvalues.negative hdigits hne hvalue
      rw [Field.put?, if_neg (Int.not_le.mpr hnegative)] at hput
      cases hput

section

variable {document : String}

theorem Layout.settings?_eq_some (hreads : ReadsDocuments settings? table? value? ofTable?)
    (hlayout : Layout entries rows) (honce : (entries.map Entry.field).Nodup)
    (hjoins : Joins rows document.toList) :
    settings? document = some (entries.foldr put {}) := by
  have htable : table? document.toList =
      some (entries.map fun entry => (entry.field.key, entry.value)) := by
    rw [hreads.tables.table?_eq hjoins (hlayout.gives hreads.values), tableOf?_eq_some_iff,
      List.map_map, List.map_map]
    refine ⟨rfl, ?_⟩
    have hkeys := honce.map (fun field other => Field.key_injective)
    rwa [List.map_map] at hkeys
  rw [hreads.settings?_eq, htable]
  exact hreads.fills.ofTable?_entries honce

/-- One line that does not belong there spoils a document, wherever it stands. -/
theorem Layout.settings?_eq_none (hreads : ReadsDocuments settings? table? value? ofTable?)
    (hlayout : Layout entries (before ++ after)) (hassigns : IsAssignment key text line)
    (hspoils : Spoils value? entries key text) (hline : IsUnbroken line)
    (hjoins : Joins (before ++ line :: after) document.toList) : settings? document = none := by
  obtain ⟨first, others, rfl, hfirst, hothers⟩ := hlayout.exists_append
  have hgives := (hfirst.gives hreads.values).append
    (.assignment hspoils.isBareKey hassigns hspoils.isLegible hline (hothers.gives hreads.values))
  rw [hreads.settings?_eq, hreads.tables.table?_eq hjoins hgives,
    Option.eq_none_iff_forall_ne_some]
  intro settings hload
  obtain ⟨table, htable, hsettings⟩ := Option.bind_eq_some_iff.mp hload
  obtain ⟨hrows, honce⟩ := tableOf?_eq_some_iff.mp htable
  have hkeys : table.map Prod.fst = (first.map fun entry => entry.field.key) ++
      key :: others.map fun entry => entry.field.key := by
    have hfst := congrArg (List.map Prod.fst) hrows
    simp only [List.map_append, List.map_cons, List.map_map] at hfst
    exact hfst.symm
  have hmem : (key, value? text) ∈ table.map fun row => (row.1, some row.2) :=
    hrows ▸ List.mem_append_right _ List.mem_cons_self
  obtain ⟨⟨_, value⟩, hrow, heq⟩ := List.mem_map.mp hmem
  obtain ⟨rfl, hvalue⟩ := Prod.mk.inj heq
  refine hspoils.not_accepted hreads.values hreads.fills hsettings honce hvalue.symm hrow ?_
  -- the key of another line would stand in the table twice
  intro field hfield hkey
  rw [hkeys, List.nodup_middle, List.nodup_cons] at honce
  obtain ⟨entry, hentry, rfl⟩ := List.mem_map.mp hfield
  refine honce.1 ?_
  rw [← List.map_append]
  exact List.mem_map.mpr ⟨entry, hentry, hkey⟩

/-- **Documents are accepted or refused as a whole.**  A document whose lines give each
setting at most once, in any order and with any lines that give nothing, is accepted; the
settings are those that it gives, and defaults for the others.  With one line that does not
belong there, wherever that stands, the document is refused. -/
theorem settings?_layout (hreads : ReadsDocuments settings? table? value? ofTable?)
    (hlayout : Layout entries rows) :
    ((entries.map Entry.field).Nodup → ∀ document : String, Joins rows document.toList →
      ∃ settings, settings? document = some settings ∧
        (∀ entry ∈ entries, settings.entry entry.field = entry) ∧
        ∀ field ∉ entries.map Entry.field, settings.entry field = ({} : Settings).entry field) ∧
    ∀ before after line key text, rows = before ++ after → IsAssignment key text line →
      Spoils value? entries key text → IsUnbroken line →
      ∀ document : String, Joins (before ++ line :: after) document.toList →
        settings? document = none := by
  constructor
  · intro honce document hjoins
    refine ⟨entries.foldr put {}, hlayout.settings?_eq_some hreads honce hjoins,
      fun entry hmem => entry_foldr_put_of_mem honce hmem,
      fun field hfield => entry_foldr_put_of_not_mem hfield⟩
  · rintro before after line key text rfl hassigns hspoils hline document hjoins
    exact hlayout.settings?_eq_none hreads hassigns hspoils hline hjoins

end

/-- A document with comments, an empty line, two kinds of line ends and the largest size.  A
line on the steps, with one of another key before it, with a second one, with a switch that
is a number, and with a negative size. -/
theorem settings?_layout_largest :
    CommandLine.Readers.standard.settings?
        "# menu\r\n\tshow_steps=true\n\nhistory_size = 9223372036854775807 # all" =
      some { askContinue := true, showSteps := true, historySize := 9223372036854775807 } ∧
    CommandLine.Readers.standard.settings? "precision = 3\n\tshow_steps=true" = none ∧
    CommandLine.Readers.standard.settings? "\tshow_steps=true\nshow_steps = false" = none ∧
    CommandLine.Readers.standard.settings? "\tshow_steps=true\r\nask_continue = 1" = none ∧
    CommandLine.Readers.standard.settings? "\tshow_steps=true\nhistory_size = -1" = none := by
  have hempty : IsTail [] := .spacing [] (by decide)
  have hfeed : IsNewline ['\n'] := .inl rfl
  have hreturn : IsNewline ['\r', '\n'] := .inr rfl
  have hsteps : IsAssignment (Entry.showSteps true).field.key (Entry.showSteps true).text
      "\tshow_steps=true".toList :=
    ⟨['\t'], [], [], [], by decide, by decide, by decide, hempty, rfl⟩
  have hsize : IsAssignment (Entry.historySize 9223372036854775807).field.key
      (Entry.historySize 9223372036854775807).text
      "history_size = 9223372036854775807 # all".toList :=
    ⟨[], [' '], [' '], " # all".toList, by decide, by decide, by decide,
      .comment [' '] " all".toList (by decide) (by decide), by decide⟩
  have hlayout := Layout.tail (.comment [] " menu".toList (by decide) (by decide))
    (.setting hsteps trivial (.tail hempty
      (.setting hsize (by decide : 9223372036854775807 < Nat.pow 2 63) .nil)))
  have hspaced {key text : List Char} {line : String}
      (hline : line.toList = key ++ [' '] ++ '=' :: ([' '] ++ text)) :
      IsAssignment key text line.toList :=
    ⟨[], [' '], [' '], [], by decide, by decide, by decide, hempty, by simpa using hline⟩
  have hunknown : Spoils Settings.value? [.showSteps true] "precision".toList "3".toList :=
    .unknown (.inl (by decide)) (by decide) fun field => by cases field <;> decide
  have hrepeated : Spoils Settings.value? [.showSteps true] Field.showSteps.key "false".toList :=
    .repeated .showSteps (.inl (by decide)) rfl (by decide)
  have hmistyped : Spoils Settings.value? [.showSteps true] Field.askContinue.key "1".toList :=
    .mistyped .askContinue (.inl (by decide)) rfl (by rintro (htrue | hfalse) <;> contradiction)
  have hnegative : Spoils Settings.value? [.showSteps true] Field.historySize.key "-1".toList :=
    .negative ['1'] rfl rfl ⟨.single ⟨1, by decide, .inl rfl⟩, by decide⟩ (by decide)
  obtain ⟨-, hrefused⟩ := settings?_layout readsDocuments_standard (.setting hsteps trivial .nil)
  refine ⟨?_, ?_, ?_, ?_, ?_⟩
  · obtain ⟨haccepted, -⟩ := settings?_layout readsDocuments_standard hlayout
    obtain ⟨settings, hsettings, hgiven, hdefault⟩ := haccepted (by decide)
      "# menu\r\n\tshow_steps=true\n\nhistory_size = 9223372036854775807 # all"
      (.cons _ hreturn (.cons _ hfeed (.cons _ hfeed (.last _))))
    have hask := hdefault .askContinue (by decide)
    have hshow := hgiven (.showSteps true) (by decide)
    have hhistory := hgiven (.historySize 9223372036854775807) (by decide)
    rw [hsettings, Option.some.injEq]
    exact Settings.mk.injEq .. ▸ ⟨Entry.askContinue.inj hask, Entry.showSteps.inj hshow,
      Entry.historySize.inj hhistory⟩
  · exact hrefused [] [_] _ _ _ rfl (hspaced rfl) hunknown (by decide) _
      (.cons "precision = 3".toList hfeed (.last _))
  · exact hrefused [_] [] _ _ _ rfl (hspaced rfl) hrepeated (by decide) _
      (.cons _ hfeed (.last "show_steps = false".toList))
  · exact hrefused [_] [] _ _ _ rfl (hspaced rfl) hmistyped (by decide) _
      (.cons _ hreturn (.last "ask_continue = 1".toList))
  · exact hrefused [_] [] _ _ _ rfl (hspaced rfl) hnegative (by decide) _
      (.cons _ hfeed (.last "history_size = -1".toList))

end CipherCalc.Settings
