import SensorGateway.SensorDb.InsertSql

/-!
# When the INSERT statement says what was given

The buffer leaves 32 characters for the three values, and `%hd` prints an id from 32768 on as a
negative number.
-/

namespace SensorGateway

open Decimal Binary64

theorem not_isDecimalChar_comma : ¬ IsDecimalChar ',' := by
  unfold IsDecimalChar
  decide

theorem not_isDecimalChar_paren : ¬ IsDecimalChar ')' := by
  unfold IsDecimalChar
  decide

/-- The text of a value says the value rounded. -/
theorem parseFixed_text_rounded (value : Double) :
    parseFixed (value.text 6) = some (value.rounded 6) :=
  parseFixed_fixedText _ (by decide) _

theorem parseInsert_complete (id : UInt16) (value : Double) (ts : Int64) :
    parseInsert (insertText id value ts) =
      some (id.toInt16.toInt, value.rounded 6, ts.toInt) := by
  have hid : ',' ∉ shortText id :=
    notMem_of_isDecimalChar (fun c => isDecimalChar_of_mem_intText) not_isDecimalChar_comma
  have hmid : ',' ∉ value.text 6 :=
    notMem_of_isDecimalChar (fun c => value.isDecimalChar_of_mem_text) not_isDecimalChar_comma
  have hts : ')' ∉ intText ts.toInt :=
    notMem_of_isDecimalChar (fun c => isDecimalChar_of_mem_intText) not_isDecimalChar_paren
  have htext : insertText id value ts = insertHead ++
      (shortText id ++ ',' :: (value.text 6 ++ ',' :: (intText ts.toInt ++ ')' :: []))) := by
    simp [insertText]
  have hhead : insertHead.isPrefixOf (insertText id value ts) = true := by
    rw [List.isPrefixOf_iff_prefix, htext]
    exact List.prefix_append _ _
  unfold parseInsert
  rw [if_pos hhead, htext, List.drop_left, upTo_append hid]
  dsimp only [Option.bind_eq_bind, Option.bind_some]
  rw [upTo_append hmid]
  dsimp only [Option.bind_some]
  rw [upTo_append hts]
  dsimp only [Option.bind_some]
  rw [if_pos rfl, shortText, parseInt_intText, parseFixed_text_rounded, parseInt_intText]
  rfl

/-- A complete statement gives back the signed id, the rounded value and the time stamp. -/
theorem parseInsert_insertText (id : UInt16) (value : Double) (ts : Int64) :
    ∃ rounded, RoundsToPlaces 6 value.value rounded ∧
      parseInsert (insertText id value ts) = some (id.toInt16.toInt, rounded, ts.toInt) :=
  ⟨value.rounded 6, value.roundsToPlaces_units 6, parseInsert_complete id value ts⟩

theorem insertHead_length : insertHead.length = 64 := by decide

theorem insertText_length (id : UInt16) (value : Double) (ts : Int64) :
    (insertText id value ts).length =
      (shortText id).length + (value.text 6).length + (intText ts.toInt).length + 67 := by
  unfold insertText
  simp [insertHead_length]
  omega

theorem insertSql_complete_iff (id : UInt16) (value : Double) (ts : Int64) :
    insertSql id value ts = insertText id value ts ↔
      (shortText id).length + (value.text 6).length + (intText ts.toInt).length ≤ 32 := by
  unfold insertSql sqlSize
  rw [List.take_eq_self_iff, insertText_length]
  omega

/-- `%hd` prints the id itself below 32768. -/
theorem toInt16_eq_iff (id : UInt16) : id.toInt16.toInt = id.toNat ↔ id.toNat < 2 ^ 15 := by
  have hlt : id.toNat < 2 ^ 16 := id.toNat_lt
  have hsigned : id.toInt16.toInt = (id.toNat : Int).bmod (2 ^ 16) := by
    rw [← Int16.toInt_toBitVec, UInt16.toBitVec_toInt16, BitVec.toInt_eq_toNat_bmod]
    rfl
  rw [hsigned, Int.bmod_def]
  split_ifs <;> omega

theorem shortText_of_lt {id : UInt16} (h : id.toNat < 2 ^ 15) :
    shortText id = natText id.toNat := by
  unfold shortText intText
  rw [(toInt16_eq_iff id).mpr h, if_neg (by omega)]
  rfl

/-- For every sensor id, every finite value and every time stamp: `insert_sensor` writes what it is
    given if and only if the id is below 32768 and the three values take at most 32 characters. -/
theorem inserts_given_iff (id : UInt16) (value : Double) (ts : Int64) :
    InsertsGiven id value ts ↔ id.toNat < 2 ^ 15 ∧
      (natText id.toNat).length + (value.text 6).length + (intText ts.toInt).length ≤ 32 := by
  obtain ⟨rounded, hrounds, hparse⟩ := parseInsert_insertText id value ts
  constructor
  · rintro ⟨hcomplete, rounded', -, htuple⟩
    rw [hcomplete, hparse] at htuple
    have hid : id.toNat < 2 ^ 15 :=
      (toInt16_eq_iff id).mp (congrArg Prod.fst (Option.some.inj htuple))
    refine ⟨hid, ?_⟩
    rw [← shortText_of_lt hid]
    exact (insertSql_complete_iff id value ts).mp hcomplete
  · rintro ⟨hid, hlen⟩
    rw [← shortText_of_lt hid] at hlen
    have hcomplete := (insertSql_complete_iff id value ts).mpr hlen
    refine ⟨hcomplete, rounded, hrounds, ?_⟩
    rw [hcomplete, hparse, (toInt16_eq_iff id).mpr hid]

/-- 0.0 -/
def sampleValue : Double := ⟨0, by decide⟩

/-- 2 to the power of 100 -/
def sampleLarge : Double := ⟨0x4630000000000000, by decide⟩

/-- The id 40000 is written as -25536; and the statement for a large value is cut off. -/
theorem inserts_given_fails :
    insertSql 40000 sampleValue 0 = insertHead ++ "-25536,0.000000,0)".toList ∧
      ¬ InsertsGiven 40000 sampleValue 0 ∧
      insertSql 1 sampleLarge 1600000000 =
        insertHead ++ "1,1267650600228229401496703205376.0".toList ∧
      ¬ InsertsGiven 1 sampleLarge 1600000000 := by
  refine ⟨by decide +kernel, ?_, by decide +kernel, ?_⟩
  · intro hgiven
    obtain ⟨rounded, -, htuple⟩ := hgiven.tuple
    rw [hgiven.complete] at htuple
    obtain ⟨rounded', -, hparse⟩ := parseInsert_insertText 40000 sampleValue 0
    rw [hparse] at htuple
    have hid := (toInt16_eq_iff 40000).mp (congrArg Prod.fst (Option.some.inj htuple))
    exact absurd hid (by decide)
  · intro hgiven
    have hlen := congrArg List.length hgiven.complete
    exact absurd hlen (by decide +kernel)

end SensorGateway
