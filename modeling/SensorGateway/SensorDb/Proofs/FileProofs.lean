import Mathlib.Tactic
import SensorGateway.SensorDb.SensorFile
import SensorGateway.Connmgr.Proofs.WireProofs

/-!
# Reading a file of measurements

A pass of the loop decodes one record, as long as 18 bytes are left. A shorter rest that still holds
a sensor id is taken for one more record, with bytes of the record before it, or of the stack, in
its last fields.
-/

namespace SensorGateway

open LittleEndian

variable {exec : Nat → Int} {vars : FileVariables} {file : List UInt8} {inserted : List Measurement}

/-! ## One record -/

theorem fread_read_pos {n : Nat} {v : Fin n → UInt8} : (fread v file).1 > 0 ↔ n ≤ file.length := by
  unfold fread
  dsimp only
  split_ifs with h
  · exact iff_of_true Nat.one_pos h
  · exact iff_of_false (lt_irrefl 0) h

/-- A variable that is read whole holds the next bytes of the file. -/
theorem fread_bytes {n : Nat} {v : Fin n → UInt8} (h : n ≤ file.length) :
    List.ofFn (fread v file).2.1 = file.take n := by
  apply List.ext_getElem
  · simp [h]
  · intro k hk hk'
    have hlt : k < file.length := by
      rw [List.length_take] at hk'
      omega
    simp [fread, List.getD_eq_getElem?_getD, hlt]

/-- The variables after the three reads of a pass. -/
def FileVariables.next (vars : FileVariables) (file : List UInt8) : FileVariables where
  sensorBfr := (fread vars.sensorBfr file).2.1
  temperatureBfr := (fread vars.temperatureBfr (file.drop 2)).2.1
  timeBfr := (fread vars.timeBfr ((file.drop 2).drop 8)).2.1

theorem next_data (h : fileRecordSize ≤ file.length) :
    (vars.next file).data = decodeRecord (file.take fileRecordSize) := by
  have hlen : 18 ≤ file.length := h
  unfold FileVariables.data FileVariables.next decodeRecord fileRecordSize
  dsimp only
  rw [fread_bytes (by omega), fread_bytes (by rw [List.length_drop]; omega),
    fread_bytes (by rw [List.length_drop, List.length_drop]; omega)]
  simp only [List.take_take, List.drop_take, List.drop_drop]
  rfl

/-- A pass of the loop. -/
theorem insertFromFileLoop_succ {σ : Type} (insert : σ → Measurement → σ × Int) (fuel : Nat)
    (vars : FileVariables) (file : List UInt8) (s : σ) :
    insertFromFileLoop insert (fuel + 1) vars file s =
      if 2 ≤ file.length then
        if (insert s (vars.next file).data).2 = -1 then
          some ((insert s (vars.next file).data).1, -1)
        else insertFromFileLoop insert fuel (vars.next file) (file.drop fileRecordSize)
          (insert s (vars.next file).data).1
      else some (s, 0) := by
  have hrest : (((file.drop 2).drop 8).drop 8) = file.drop fileRecordSize := by
    rw [List.drop_drop, List.drop_drop]
    rfl
  rw [← hrest]
  by_cases h : 2 ≤ file.length
  · rw [if_pos h, insertFromFileLoop]
    dsimp only
    rw [if_pos (fread_read_pos.mpr h)]
    rfl
  · rw [if_neg h, insertFromFileLoop]
    dsimp only
    rw [if_neg (fread_read_pos.not.mpr h)]

/-! ## The records of a file -/

theorem completeRecords_of_short (h : file.length < fileRecordSize) :
    completeRecords file = [] := by
  unfold completeRecords
  rw [Nat.div_eq_of_lt h]
  rfl

theorem completeRecords_cons (h : fileRecordSize ≤ file.length) :
    completeRecords file =
      decodeRecord (file.take fileRecordSize) :: completeRecords (file.drop fileRecordSize) := by
  have hdiv : file.length / fileRecordSize = (file.length - fileRecordSize) / fileRecordSize + 1 :=
    Nat.div_eq_sub_div (by decide) h
  unfold completeRecords
  rw [hdiv, List.range_succ_eq_map, List.map_cons, List.map_map, List.length_drop]
  congr 1
  apply List.map_congr_left
  intro k _
  rw [Function.comp_apply, List.drop_drop, Nat.mul_succ, Nat.add_comm]

/-- What the loop inserts: the complete records, and one more for a rest of 2 to 17 bytes. -/
theorem insertFromFileLoop_spec (hexec : ∀ n, exec n = sqliteOk) {fuel : Nat}
    (hfuel : file.length < fuel) :
    ∃ extra : List Measurement,
      insertFromFileLoop (recordInsert exec) fuel vars file inserted =
        some (inserted ++ completeRecords file ++ extra, 0) ∧
      (extra = [] ↔ file.length % fileRecordSize < 2) := by
  have hok : ∀ inserted m, (recordInsert exec inserted m).2 ≠ -1 := by
    intro inserted m
    show insertSensor (exec inserted.length) ≠ -1
    rw [hexec]
    decide
  induction fuel generalizing vars file inserted with
  | zero => exact absurd hfuel (Nat.not_lt_zero _)
  | succ fuel ih =>
    rw [insertFromFileLoop_succ, if_neg (hok _ _)]
    by_cases hwhole : fileRecordSize ≤ file.length
    · have h18 : 18 ≤ file.length := hwhole
      have hdrop : (file.drop fileRecordSize).length = file.length - fileRecordSize :=
        List.length_drop
      have hsize : 0 < fileRecordSize := by decide
      obtain ⟨extra, hloop, hextra⟩ := @ih (vars.next file) (file.drop fileRecordSize)
        (inserted ++ [(vars.next file).data]) (by omega)
      refine ⟨extra, ?_, ?_⟩
      · rw [if_pos (by omega)]
        show insertFromFileLoop (recordInsert exec) fuel _ _ (inserted ++ [_]) = _
        rw [hloop, next_data hwhole, completeRecords_cons hwhole]
        simp
      · rw [hextra, hdrop, ← Nat.mod_eq_sub_mod hwhole]
    · have hmod : file.length % fileRecordSize = file.length := Nat.mod_eq_of_lt (by omega)
      rw [completeRecords_of_short (by omega), hmod, List.append_nil]
      by_cases htwo : 2 ≤ file.length
      · -- the rest is taken for a record, and then the file is at its end
        refine ⟨[(vars.next file).data], ?_, iff_of_false (by simp) (by omega)⟩
        rw [if_pos htwo]
        cases fuel with
        | zero => omega
        | succ fuel =>
          have hend : (file.drop fileRecordSize).length = 0 := by
            rw [List.length_drop]
            omega
          rw [insertFromFileLoop_succ, if_neg (by omega)]
          rfl
      · refine ⟨[], ?_, iff_of_true rfl (by omega)⟩
        rw [if_neg htwo, List.append_nil]

/-! ## Files of whole measurements -/

theorem decodeRecord_fileBytes (m : Measurement) : decodeRecord m.fileBytes = m := by
  have hid : m.fileBytes.take 2 = leBytes 2 m.id.toNat := by
    unfold Measurement.fileBytes
    rw [List.append_assoc, List.take_left' (leBytes_length ..)]
  have hvalue : (m.fileBytes.drop 2).take 8 = leBytes 8 m.value.toNat := by
    unfold Measurement.fileBytes
    rw [List.append_assoc, List.drop_left' (leBytes_length ..), List.take_left' (leBytes_length ..)]
  have hts : (m.fileBytes.drop 10).take 8 = leBytes 8 m.ts.toUInt64.toNat := by
    unfold Measurement.fileBytes
    rw [List.drop_left' (by simp)]
    exact List.take_of_length_le (by simp)
  unfold decodeRecord
  rw [hid, hvalue, hts]
  exact m.ofNat_leNat

theorem fileBytes_length (m : Measurement) : m.fileBytes.length = fileRecordSize := by
  unfold Measurement.fileBytes fileRecordSize
  simp

/-- The records of a file that `file_creator.c` writes are its measurements. -/
theorem completeRecords_fileBytes (ms : List Measurement) :
    completeRecords (ms.flatMap Measurement.fileBytes) = ms := by
  induction ms with
  | nil => rfl
  | cons m ms ih =>
    have hlen := fileBytes_length m
    rw [List.flatMap_cons, completeRecords_cons (by rw [List.length_append]; omega),
      List.take_left' hlen, List.drop_left' hlen, ih, decodeRecord_fileBytes]

theorem flatMap_fileBytes_length (ms : List Measurement) :
    (ms.flatMap Measurement.fileBytes).length = fileRecordSize * ms.length := by
  induction ms with
  | nil => rfl
  | cons m ms ih =>
    rw [List.flatMap_cons, List.length_append, fileBytes_length, ih, List.length_cons, Nat.mul_succ,
      Nat.add_comm]

/-- When all inserts succeed: the file of any measurements is inserted measurement by measurement;
    and for every file the call returns 0, and inserts exactly its complete records if and only if
    fewer than 2 bytes follow them. -/
theorem insert_from_file_complete_iff (exec : Nat → Int) (hexec : ∀ n, exec n = sqliteOk)
    (stale : FileVariables) :
    (∀ ms : List Measurement,
        insertSensorFromFile exec stale (ms.flatMap Measurement.fileBytes) = some (ms, 0)) ∧
      ∀ file : List UInt8, ∃ inserted, insertSensorFromFile exec stale file = some (inserted, 0) ∧
        (inserted = completeRecords file ↔ file.length % fileRecordSize < 2) := by
  have hfile : ∀ file : List UInt8, ∃ extra : List Measurement,
      insertSensorFromFile exec stale file = some (completeRecords file ++ extra, 0) ∧
        (extra = [] ↔ file.length % fileRecordSize < 2) := by
    intro file
    exact insertFromFileLoop_spec hexec (Nat.lt_succ_self _)
  constructor
  · intro ms
    obtain ⟨extra, hrun, hextra⟩ := hfile (ms.flatMap Measurement.fileBytes)
    have hnone : extra = [] := by
      rw [hextra, flatMap_fileBytes_length, Nat.mul_mod_right]
      decide
    rw [hrun, hnone, List.append_nil, completeRecords_fileBytes]
  · intro file
    obtain ⟨extra, hrun, hextra⟩ := hfile file
    refine ⟨_, hrun, ?_⟩
    rw [List.append_right_eq_self]
    exact hextra

/-- Two measurements come back as they were written. -/
theorem insert_from_file_complete_iff_sample :
    insertSensorFromFile (fun _ => sqliteOk) ⟨fun _ => 0, fun _ => 0, fun _ => 0⟩
      ([⟨15, 772, 1286⟩, ⟨21, 0, -1⟩].flatMap Measurement.fileBytes) =
        some ([⟨15, 772, 1286⟩, ⟨21, 0, -1⟩], 0) :=
  (insert_from_file_complete_iff (fun _ => sqliteOk) (fun _ => rfl) _).1 _

/-- One record and three bytes of the next: it is inserted with the first byte of its own value and,
    for the rest, the value and the time of the record before it. -/
theorem insert_from_file_complete_fails :
    ∃ file inserted, insertSensorFromFile (fun _ => sqliteOk) ⟨fun _ => 0, fun _ => 0, fun _ => 0⟩
        file = some (inserted, 0) ∧
      inserted = [⟨15, 772, 1286⟩, ⟨21, 777, 1286⟩] ∧ completeRecords file = [⟨15, 772, 1286⟩] ∧
      inserted ≠ completeRecords file := by
  refine ⟨Measurement.fileBytes ⟨15, 772, 1286⟩ ++ [21, 0, 9], _, by decide, rfl, by decide, ?_⟩
  decide

end SensorGateway
