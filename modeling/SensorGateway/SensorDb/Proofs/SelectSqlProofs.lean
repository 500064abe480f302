import SensorGateway.SensorDb.SelectSql

/-!
# Which rows the queries select

A cut statement is still a statement, with the first characters of the number.
-/

namespace SensorGateway

open Decimal Binary64 Words

/-! ## The condition of a statement -/

theorem words_selectFront (column : Column) (comparison : Comparison) :
    words ' ' (selectFront column comparison) =
      words ' ' selectHead ++ [column.name, comparison.name] := by
  cases column <;> cases comparison <;> decide

theorem parseColumn_name (column : Column) : parseColumn column.name = some column := by
  cases column <;> decide

theorem parseComparison_name (comparison : Comparison) :
    parseComparison comparison.name = some comparison := by
  cases comparison <;> decide

/-- The characters that are left for the number and the blank behind it. -/
def selectRoom (column : Column) (comparison : Comparison) : Nat :=
  sqlSize - 1 - ((selectFront column comparison).length + 1)

theorem selectSql_eq (column : Column) (comparison : Comparison) (operand : List Char) :
    selectSql column comparison operand =
      selectFront column comparison ++
        ' ' :: (operand ++ [' ']).take (selectRoom column comparison) := by
  have hfront : (selectFront column comparison).length + 1 ≤ sqlSize - 1 := by
    cases column <;> cases comparison <;> decide
  obtain ⟨room, hroom⟩ : ∃ room,
      sqlSize - 1 = (selectFront column comparison).length + (room + 1) :=
    ⟨sqlSize - 1 - ((selectFront column comparison).length + 1), by omega⟩
  unfold selectSql selectRoom
  rw [hroom, List.take_length_add_append, List.take_succ_cons, ← Nat.add_assoc,
    Nat.add_right_comm, Nat.add_sub_cancel_left]

/-- The condition is the one that the format describes, with what is left of the number. -/
theorem parseSelect_selectSql {column : Column} {comparison : Comparison}
    {operand number : List Char} {q : ℚ}
    (hwords : words ' ' ((operand ++ [' ']).take (selectRoom column comparison)) = [number])
    (hnumber : parseNumber number = some q) :
    parseSelect (selectSql column comparison operand) = some ⟨column, comparison, q⟩ := by
  have hsql : words ' ' (selectSql column comparison operand) =
      words ' ' selectHead ++ [column.name, comparison.name, number] := by
    rw [selectSql_eq, words_append_cons, words_selectFront, hwords, List.append_assoc]
    rfl
  have hhead : (words ' ' selectHead).isPrefixOf (words ' ' (selectSql column comparison operand)) =
      true := by
    rw [List.isPrefixOf_iff_prefix, hsql]
    exact List.prefix_append _ _
  unfold parseSelect
  rw [if_pos hhead, hsql, List.drop_left]
  dsimp only
  rw [parseColumn_name, parseComparison_name, hnumber]
  rfl

theorem not_isDecimalChar_blank : ¬ IsDecimalChar ' ' := by
  unfold IsDecimalChar
  decide

/-- The statement for a value says what is left of its text. -/
theorem parseSelect_value {column : Column} {comparison : Comparison}
    (hroom : 24 ≤ selectRoom column comparison) (value : Double) :
    parseSelect (selectSql column comparison (value.text 6)) =
      some ⟨column, comparison, value.kept 6 (selectRoom column comparison)⟩ := by
  have hblank : ' ' ∉ value.text 6 :=
    notMem_of_isDecimalChar (fun c => value.isDecimalChar_of_mem_text) not_isDecimalChar_blank
  have hne : value.text 6 ≠ [] := by
    intro hnil
    have hlength := @Double.text_length 6 (by decide) value
    rw [hnil] at hlength
    simp at hlength
  exact parseSelect_selectSql (words_take_last hne hblank (by omega))
    (Double.parseNumber_take_text (by decide) (by omega) value)

theorem intText_ne_nil (z : Int) : intText z ≠ [] := by
  unfold intText
  split_ifs
  · exact List.cons_ne_nil _ _
  · exact natText_ne_nil _

theorem intText_length_le (ts : Int64) : (intText ts.toInt).length ≤ 20 := by
  have hlow := ts.le_toInt
  have hhigh := ts.toInt_lt
  have hdigits : (natText ts.toInt.natAbs).length ≤ 19 :=
    (natText_length_le_iff (by decide)).mpr (by omega)
  unfold intText
  split_ifs
  · exact Nat.succ_le_succ hdigits
  · omega

/-- The statement for a time stamp is complete. -/
theorem parseSelect_timestamp {column : Column} {comparison : Comparison}
    (hroom : 24 ≤ selectRoom column comparison) (ts : Int64) :
    parseSelect (selectSql column comparison (spacedText ts.toInt)) =
      some ⟨column, comparison, ts.toInt⟩ := by
  have hlength := intText_length_le ts
  have hblank : ' ' ∉ intText ts.toInt :=
    notMem_of_isDecimalChar (fun c => isDecimalChar_of_mem_intText) not_isDecimalChar_blank
  have hword : words ' ' (intText ts.toInt ++ [' ']) = [intText ts.toInt] := by
    rw [words_word_append (intText_ne_nil _) hblank, words_nil]
  refine parseSelect_selectSql ?_ (parseNumber_intText ts.toInt)
  unfold spacedText
  split_ifs
  · rw [List.take_of_length_le (by simp; omega)]
    exact hword
  · rw [List.take_of_length_le (by simp; omega), List.cons_append, words_cons]
    exact hword

/-! ## The rows of a query -/

theorem Condition.holds_is {column : Column} {q : ℚ} {row : Row} :
    (Condition.mk column .is q).holds row = true ↔ row.cell column = q :=
  decide_eq_true_iff

theorem Condition.holds_greater {column : Column} {q : ℚ} {row : Row} :
    (Condition.mk column .greater q).holds row = true ↔ q < row.cell column :=
  decide_eq_true_iff

theorem findSensor_eq {exec : Exec} (hexec : EvaluatesSelects exec) {sql : List Char}
    {cond : Condition} (h : parseSelect sql = some cond) (table : List Row) :
    findSensor exec table sql = (0, table.filter cond.holds) := by
  unfold findSensor
  rw [hexec sql cond h table]
  rfl

theorem filter_eq_filter_iff {α : Type} {xs : List α} {p q : α → Bool} :
    xs.filter p = xs.filter q ↔ ∀ x ∈ xs, (p x = true ↔ q x = true) := by
  constructor
  · intro heq x hx
    have hmem : x ∈ xs.filter p ↔ x ∈ xs.filter q := by rw [heq]
    rw [List.mem_filter, List.mem_filter, and_iff_right hx, and_iff_right hx] at hmem
    exact hmem
  · intro h
    exact List.filter_congr fun x hx => Bool.eq_iff_iff.mpr (h x hx)

/-- The rows that a query visits are those asked for if its condition holds of the same rows. -/
theorem findSensor_eq_filter_iff {exec : Exec} (hexec : EvaluatesSelects exec) {sql : List Char}
    {cond : Condition} (h : parseSelect sql = some cond) {table : List Row} {asked : Row → Bool} :
    findSensor exec table sql = (0, table.filter asked) ↔
      ∀ row ∈ table, (cond.holds row = true ↔ asked row = true) := by
  rw [findSensor_eq hexec h, Prod.mk.injEq, eq_self, true_and, filter_eq_filter_iff]

theorem byTimestamp_eq {exec : Exec} (hexec : EvaluatesSelects exec) (table : List Row)
    (ts : Int64) :
    findSensorByTimestamp exec table ts = (0, table.filter fun row => row.timestamp = ts) := by
  have hroom : 24 ≤ selectRoom .timestamp .is := by decide
  unfold findSensorByTimestamp
  rw [findSensor_eq_filter_iff hexec (parseSelect_timestamp hroom ts)]
  intro row _
  simp only [Condition.holds_is, Row.cell, decide_eq_true_iff]
  rw [Int.cast_inj, Int64.toInt_inj]

theorem afterTimestamp_eq {exec : Exec} (hexec : EvaluatesSelects exec) (table : List Row)
    (ts : Int64) :
    findSensorAfterTimestamp exec table ts = (0, table.filter fun row => ts < row.timestamp) := by
  have hroom : 24 ≤ selectRoom .timestamp .greater := by decide
  unfold findSensorAfterTimestamp
  rw [findSensor_eq_filter_iff hexec (parseSelect_timestamp hroom ts)]
  intro row _
  simp only [Condition.holds_greater, Row.cell, decide_eq_true_iff]
  rw [Int.cast_lt, Int64.lt_iff_toInt_lt]

theorem kept_of_le {value : Double} {n : Nat} (h : value.wholeLength 6 ≤ n) :
    value.kept 6 n = value.rounded 6 :=
  if_pos h

theorem kept_of_lt {value : Double} {n : Nat} (h : n < value.wholeLength 6) :
    value.kept 6 n = value.cutWhole 6 n :=
  if_neg (not_le.mpr h)

/-- A text that is read back as the rounded value, or one that has lost digits. -/
theorem byValue_eq_iff {exec : Exec} (hexec : EvaluatesSelects exec) (table : List Row)
    (value : Double) :
    findSensorByValue exec table value =
        (0, table.filter fun row => row.value = value.rounded 6) ↔
      (52 < value.wholeLength 6 →
        ∀ row ∈ table, row.value ≠ value.rounded 6 ∧ row.value ≠ value.cutWhole 6 52) := by
  have hroom : selectRoom .sensorValue .is = 52 := by decide
  have hparse := parseSelect_value (by omega : 24 ≤ selectRoom .sensorValue .is) value
  rw [hroom] at hparse
  unfold findSensorByValue
  rw [findSensor_eq_filter_iff hexec hparse]
  simp only [Condition.holds_is, Row.cell, decide_eq_true_iff]
  by_cases hlong : 52 < value.wholeLength 6
  · have hne := Double.cutWhole_ne_rounded (by decide) hlong
    rw [kept_of_lt hlong, forall_prop_of_true hlong]
    refine forall₂_congr fun row _ => ?_
    constructor
    · intro hiff
      exact ⟨fun heq => hne ((hiff.mpr heq).symm.trans heq),
        fun heq => hne (heq.symm.trans (hiff.mp heq))⟩
    · rintro ⟨hrounded, hcut⟩
      exact iff_of_false hcut hrounded
  · rw [kept_of_le (not_lt.mp hlong)]
    exact iff_of_true (fun _ _ => Iff.rfl) fun h => absurd h hlong

theorem lt_iff_lt_iff_notMem_uIoc {a b x : ℚ} : (a < x ↔ b < x) ↔ x ∉ Set.uIoc b a := by
  rw [Set.mem_uIoc, ← not_lt, ← not_lt]
  tauto

theorem exceedValue_eq_iff {exec : Exec} (hexec : EvaluatesSelects exec) (table : List Row)
    (value : Double) :
    findSensorExceedValue exec table value =
        (0, table.filter fun row => value.value < row.value) ↔
      (value.wholeLength 6 ≤ 53 → value.value < value.rounded 6 →
        ∀ row ∈ table, row.value ≠ value.rounded 6) ∧
      (53 < value.wholeLength 6 →
        ∀ row ∈ table, row.value ∉ Set.uIoc value.value (value.cutWhole 6 53)) := by
  have hroom : selectRoom .sensorValue .greater = 53 := by decide
  have hparse := parseSelect_value (by omega : 24 ≤ selectRoom .sensorValue .greater) value
  rw [hroom] at hparse
  unfold findSensorExceedValue
  rw [findSensor_eq_filter_iff hexec hparse]
  simp only [Condition.holds_greater, Row.cell, decide_eq_true_iff]
  by_cases hlong : 53 < value.wholeLength 6
  · rw [kept_of_lt hlong, forall_prop_of_true hlong,
      forall_prop_of_false (not_le.mpr hlong), true_and]
    exact forall₂_congr fun row _ => lt_iff_lt_iff_notMem_uIoc
  · have hshort := not_lt.mp hlong
    rw [kept_of_le hshort, forall_prop_of_true hshort, forall_prop_of_false hlong, and_true]
    have hrounds : RoundsToPlaces 6 value.value (value.rounded 6) := value.roundsToPlaces_units 6
    constructor
    · intro h hlt row hrow
      exact (hrounds.lt_iff_lt_iff row.micros).mp (h row hrow) hlt
    · intro h row hrow
      exact (hrounds.lt_iff_lt_iff row.micros).mpr fun hlt => h hlt row hrow

/-- Whatever is stored, the queries are right for the values that are short enough and are not
    rounded up. -/
theorem undisturbed_every_table_iff (value : Double) :
    (∀ table, Undisturbed table value) ↔
      value.wholeLength 6 ≤ 52 ∧ value.rounded 6 ≤ value.value := by
  constructor
  · intro h
    obtain ⟨z, -, hz⟩ : RoundsToPlaces 6 value.value (value.rounded 6) :=
      value.roundsToPlaces_units 6
    -- the row that `insert_sensor` would have stored
    have hrow : (⟨0, 0, z, 0⟩ : Row).value = value.rounded 6 := hz.symm
    have hstored := h [⟨0, 0, z, 0⟩]
    have hshort : value.wholeLength 6 ≤ 52 := by
      by_contra hlong
      exact (hstored.cutValue (not_le.mp hlong) _ List.mem_cons_self).1 hrow
    refine ⟨hshort, ?_⟩
    by_contra hup
    exact hstored.roundedUp (by omega) (not_le.mp hup) _ List.mem_cons_self hrow
  · rintro ⟨hshort, hdown⟩ table
    constructor
    case roundedUp => exact fun _ hup => absurd hup (not_lt.mpr hdown)
    case cutThreshold => exact fun hlong => absurd hlong (by omega)
    case cutValue => exact fun hlong => absurd hlong (by omega)

/-- For every table, every finite value and every time stamp: the queries select by the value asked
    for if and only if no row is where the value is rounded up to, or where the cut text of a long
    value leads. -/
theorem selects_asked_iff {exec : Exec} (hexec : EvaluatesSelects exec) (table : List Row)
    (value : Double) (ts : Int64) :
    SelectsAsked exec table value ts ↔ Undisturbed table value := by
  constructor
  · intro h
    obtain ⟨hrounded, hthreshold⟩ := (exceedValue_eq_iff hexec table value).mp h.exceedValue
    exact ⟨hrounded, hthreshold, (byValue_eq_iff hexec table value).mp h.byValue⟩
  · rintro ⟨hrounded, hthreshold, hvalue⟩
    exact ⟨(byValue_eq_iff hexec table value).mpr hvalue,
      (exceedValue_eq_iff hexec table value).mpr ⟨hrounded, hthreshold⟩,
      byTimestamp_eq hexec table ts, afterTimestamp_eq hexec table ts⟩

/-- A `sqlite3_exec` that knows SELECT statements only. -/
def selectExec : Exec := fun sql table =>
  match parseSelect sql with
  | some cond => (sqliteOk, table.filter cond.holds)
  | none => (1, [])

theorem selectExec_evaluatesSelects : EvaluatesSelects selectExec := by
  intro sql cond hparse table
  unfold selectExec
  rw [hparse]

/-- 20.5, measured by sensor 15 -/
def sampleRow : Row := ⟨1, 15, 20500000, 1600000000⟩

/-- 20.25 is neither rounded nor cut. -/
theorem selects_asked_sample :
    SelectsAsked selectExec [sampleRow] ⟨0x4034400000000000, by decide⟩ 1500000000 := by
  apply (selects_asked_iff selectExec_evaluatesSelects _ _ _).mpr
  constructor
  case roundedUp => exact fun _ hup => absurd hup (by decide +kernel)
  case cutThreshold => exact fun hlong => absurd hlong (by decide +kernel)
  case cutValue => exact fun hlong => absurd hlong (by decide +kernel)

/-- 20.5 less 2 to the power of -22 -/
def sampleBelow : Double := ⟨0x40347FFFFC000000, by decide⟩

/-- 2 to the power of 200 -/
def sampleHuge : Double := ⟨0x4C70000000000000, by decide⟩

/-- 20.5 exceeds a value that is rounded up to it, and is not visited; and a value of 61 digits is
    asked for by its first 52. -/
theorem selects_asked_fails :
    EvaluatesSelects selectExec ∧
      sampleBelow.value < sampleRow.value ∧
      findSensorExceedValue selectExec [sampleRow] sampleBelow = (0, []) ∧
      ¬ SelectsAsked selectExec [sampleRow] sampleBelow 0 ∧
      findSensorByValue selectExec [⟨1, 15, 2 ^ 200 * 10 ^ 6, 0⟩] sampleHuge = (0, []) ∧
      ¬ SelectsAsked selectExec [⟨1, 15, 2 ^ 200 * 10 ^ 6, 0⟩] sampleHuge 0 := by
  have hbelow : findSensorExceedValue selectExec [sampleRow] sampleBelow = (0, []) := by
    decide +kernel
  have hhuge : findSensorByValue selectExec [⟨1, 15, 2 ^ 200 * 10 ^ 6, 0⟩] sampleHuge =
      (0, []) := by
    decide +kernel
  refine ⟨selectExec_evaluatesSelects, by decide +kernel, hbelow, ?_, hhuge, ?_⟩
  · intro hasked
    have hexceed := hasked.exceedValue
    rw [hbelow] at hexceed
    exact absurd hexceed (by decide +kernel)
  · intro hasked
    have hvalue := hasked.byValue
    rw [hhuge] at hvalue
    exact absurd hvalue (by decide +kernel)

end SensorGateway
