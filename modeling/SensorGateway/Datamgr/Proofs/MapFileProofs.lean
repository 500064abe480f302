import Mathlib.Tactic
import SensorGateway.Datamgr.Datamgr

/-!
# The sensor list of a map file

Every entry is inserted at index 150: the first 150 come out in file order, those after them in
reverse. A number without a partner makes one more entry.
-/

namespace SensorGateway

/-! ## Insertion at a fixed index -/

section TurnedAt

variable {α : Type}

/-- The first `n` elements in order, the others in reverse. -/
def turnedAt (n : Nat) (xs : List α) : List α := xs.take n ++ (xs.drop n).reverse

/-- What insertions at index `n` have built stays so. -/
theorem seqInsertAtIndex_turnedAt (n : Nat) (xs : List α) (x : α) :
    seqInsertAtIndex (turnedAt n xs) n x = turnedAt n (xs ++ [x]) := by
  have hlen : (turnedAt n xs).length = xs.length := by
    unfold turnedAt
    simp
    omega
  unfold seqInsertAtIndex clampIndex
  rw [hlen, Int.toNat_natCast]
  unfold turnedAt
  by_cases h : n ≤ xs.length
  · have htake : (xs.take n).length = n := by simp [h]
    have hinsert : (xs.take n ++ (xs.drop n).reverse).insertIdx (min n xs.length) x =
        xs.take n ++ x :: (xs.drop n).reverse := by
      have happend := insertIdx_append_length (xs.take n) (xs.drop n).reverse x
      rw [htake] at happend
      rw [Nat.min_eq_left h, happend]
    rw [hinsert, List.take_append_of_le_length h, List.drop_append_of_le_length h,
      List.reverse_append]
    rfl
  · rw [List.take_of_length_le (by omega), List.drop_of_length_le (by omega),
      List.take_of_length_le (by rw [List.length_append, List.length_singleton]; omega),
      List.drop_of_length_le (by rw [List.length_append, List.length_singleton]; omega),
      Nat.min_eq_right (by omega)]
    simp

theorem turnedAt_eq_self_iff (n : Nat) (xs : List α) :
    turnedAt n xs = xs ↔ (xs.drop n).reverse = xs.drop n := by
  unfold turnedAt
  constructor
  · intro h
    apply @List.append_cancel_left _ (xs.take n)
    rw [h, List.take_append_drop]
  · intro h
    rw [h, List.take_append_drop]

end TurnedAt

/-! ## The entries of the list -/

/-- The complete (room, sensor) pairs of the numbers of a map file. -/
def completePairs : List UInt16 → List (UInt16 × UInt16)
  | room :: sensor :: rest => (room, sensor) :: completePairs rest
  | _ => []

/-- The room and the sensor of each entry. -/
def entries (sensorList : List Sensor) : List (UInt16 × UInt16) :=
  sensorList.map fun sensor => (sensor.roomId, sensor.sensorId)

/-- The room that the lookup of the data manager finds for a sensor id. -/
def roomOf (sensorList : List Sensor) (id : UInt16) : Option UInt16 :=
  let index := seqGetIndexOf (fun sensor => sensorCompare sensor.sensorId id = 0) sensorList
  if index ≥ 0 then (seqGetElementAtIndex sensorList index).map Sensor.roomId else none

/-- The list is that of the pairs, in order, and a lookup finds the room of the first pair for the
    id. -/
structure MapParsed (sensorList : List Sensor) (pairs : List (UInt16 × UInt16)) : Prop where
  entries : entries sensorList = pairs
  rooms : ∀ id, roomOf sensorList id = (pairs.find? fun pair => pair.2 = id).map Prod.fst

/-- The file ends, or goes on with text that is not a number. -/
def EndsNumbers (rest : List MapToken) : Prop := ∀ n more, rest ≠ .number n :: more

/-- The numbers of a map file. -/
def numbers (tokens : List UInt16) : List MapToken := tokens.map fun n => .number n.toNat

theorem entries_insertSensorEntry (room sensor : UInt16) (junk : Uninitialised)
    (sensorList : List Sensor) :
    entries (insertSensorEntry room sensor junk sensorList) =
      seqInsertAtIndex (entries sensorList) 150 (room, sensor) := by
  unfold entries insertSensorEntry seqInsertAtIndex
  rw [List.map_insertIdx, List.length_map]

theorem ofInt_toNat (n : UInt16) : UInt16.ofInt n.toNat = n := by
  have hlt := n.toNat_lt
  have hmod : ((n.toNat : Int) % 2 ^ 16).toNat = n.toNat := by omega
  rw [UInt16.ofInt, hmod, UInt16.ofNat_toNat]

theorem entries_insertSensorEntry_turnedAt {sensorList : List Sensor}
    {done : List (UInt16 × UInt16)} (hdone : entries sensorList = turnedAt 150 done)
    (room sensor : UInt16) (junk : Uninitialised) :
    entries (insertSensorEntry room sensor junk sensorList) =
      turnedAt 150 (done ++ [(room, sensor)]) := by
  rw [entries_insertSensorEntry, hdone]
  exact seqInsertAtIndex_turnedAt 150 done (room, sensor)

/-- Reading numbers adds an entry for each complete pair, and one more when a number is left
    over. -/
theorem entries_readMap {rest : List MapToken} (hrest : EndsNumbers rest) (tokens : List UInt16)
    (sensorBfr : UInt16) (junk : Nat → Uninitialised) {sensorList : List Sensor}
    {done : List (UInt16 × UInt16)} (hdone : entries sensorList = turnedAt 150 done) :
    ∃ extra : List (UInt16 × UInt16),
      entries (readMap sensorBfr junk sensorList (numbers tokens ++ rest)) =
        turnedAt 150 (done ++ completePairs tokens ++ extra) ∧
      (extra = [] ↔ tokens.length % 2 = 0) := by
  induction tokens using completePairs.induct generalizing sensorBfr junk sensorList done with
  | case1 room sensor tokens ih =>
    obtain ⟨extra, hread, hextra⟩ := ih (UInt16.ofInt sensor.toNat) (fun k => junk (k + 1))
      (entries_insertSensorEntry_turnedAt hdone (UInt16.ofInt room.toNat)
        (UInt16.ofInt sensor.toNat) (junk 0))
    refine ⟨extra, ?_, ?_⟩
    · show entries (readMap _ _ _ (numbers tokens ++ rest)) = _
      rw [hread, ofInt_toNat, ofInt_toNat, List.append_assoc done]
      rfl
    · rw [hextra, List.length_cons, List.length_cons, Nat.add_assoc, Nat.add_mod_right]
  | case2 tokens hshort =>
    match tokens, hshort with
    | [], _ =>
      refine ⟨[], ?_, iff_of_true rfl rfl⟩
      have hread : readMap sensorBfr junk sensorList (numbers [] ++ rest) = sensorList := by
        show readMap sensorBfr junk sensorList rest = sensorList
        rw [readMap]
        · intro room sensor more
          exact hrest room _
        · intro room more
          exact hrest room _
      rw [hread, hdone]
      simp [completePairs]
    | [room], _ =>
      refine ⟨[(room, sensorBfr)], ?_, iff_of_false (by simp) (by simp)⟩
      have hread : readMap sensorBfr junk sensorList (numbers [room] ++ rest) =
          insertSensorEntry (UInt16.ofInt room.toNat) sensorBfr (junk 0) sensorList := by
        show readMap sensorBfr junk sensorList (.number room.toNat :: rest) = _
        rw [readMap]
        intro sensor more
        exact hrest sensor _
      rw [hread, entries_insertSensorEntry_turnedAt hdone, ofInt_toNat]
      simp [completePairs]
    | room :: sensor :: tokens, hshort => exact absurd rfl (hshort room sensor tokens)

/-! ## The lookup -/

/-- The lookup finds the first entry for the id. -/
theorem roomOf_eq (sensorList : List Sensor) (id : UInt16) :
    roomOf sensorList id = ((entries sensorList).find? fun pair => pair.2 = id).map Prod.fst := by
  have hmatch : (fun sensor : Sensor => decide (sensorCompare sensor.sensorId id = 0)) =
      fun sensor => decide (sensor.sensorId = id) := by
    funext sensor
    exact decide_eq_decide.mpr sensorCompare_eq_zero_iff
  unfold roomOf seqGetIndexOf entries
  rw [hmatch, List.find?_map]
  cases hfound : sensorList.findIdx? fun sensor => sensor.sensorId = id with
  | none =>
    have hnone : sensorList.find? (fun sensor => decide (sensor.sensorId = id)) = none := by
      rw [List.find?_eq_none]
      intro sensor hmem
      simpa using List.findIdx?_eq_none_iff.mp hfound sensor hmem
    have hcomp : ((fun pair : UInt16 × UInt16 => decide (pair.2 = id)) ∘
        fun sensor : Sensor => (sensor.roomId, sensor.sensorId)) =
          fun sensor => decide (sensor.sensorId = id) := rfl
    rw [hcomp, hnone]
    rfl
  | some k =>
    obtain ⟨hk, hmatch, hfirst⟩ := List.findIdx?_eq_some_iff_getElem.mp hfound
    have hfind : sensorList.find? (fun sensor => decide (sensor.sensorId = id)) =
        some sensorList[k] := by
      rw [List.find?_eq_some_iff_getElem]
      exact ⟨hmatch, k, hk, rfl, fun j hj => by simpa using hfirst j hj⟩
    have hcomp : ((fun pair : UInt16 × UInt16 => decide (pair.2 = id)) ∘
        fun sensor : Sensor => (sensor.roomId, sensor.sensorId)) =
          fun sensor => decide (sensor.sensorId = id) := rfl
    rw [hcomp, hfind]
    dsimp only
    rw [foundIndex_some, zero_add, if_pos (by omega), seqGetElementAtIndex_of_lt hk]
    rfl

/-! ## The map file -/

theorem mapParsed_iff_entries {sensorList : List Sensor} {pairs : List (UInt16 × UInt16)} :
    MapParsed sensorList pairs ↔ entries sensorList = pairs := by
  constructor
  · intro h
    exact h.entries
  · intro h
    refine ⟨h, fun id => ?_⟩
    rw [roomOf_eq, h]

theorem entries_buildSensorList {rest : List MapToken} (hrest : EndsNumbers rest)
    (tokens : List UInt16) (sensorBfr : UInt16) (junk : Nat → Uninitialised) :
    ∃ extra : List (UInt16 × UInt16),
      entries (buildSensorList sensorBfr junk (numbers tokens ++ rest)) =
        turnedAt 150 (completePairs tokens ++ extra) ∧
      (extra = [] ↔ tokens.length % 2 = 0) :=
  @entries_readMap rest hrest tokens sensorBfr junk [] [] rfl

/-- For every map file of numbers followed by its end or by text: the sensor list is that of the
    complete pairs in file order, and lookups find the first of them, if and only if the count of
    numbers is even and the pairs from the 151st on read the same in both directions. -/
theorem map_parsed_iff (sensorBfr : UInt16) (junk : Nat → Uninitialised) (tokens : List UInt16)
    (rest : List MapToken) (hrest : EndsNumbers rest) :
    MapParsed (buildSensorList sensorBfr junk (numbers tokens ++ rest)) (completePairs tokens) ↔
      tokens.length % 2 = 0 ∧
        ((completePairs tokens).drop 150).reverse = (completePairs tokens).drop 150 := by
  obtain ⟨extra, hentries, hextra⟩ := entries_buildSensorList hrest tokens sensorBfr junk
  rw [mapParsed_iff_entries, hentries, ← hextra, ← turnedAt_eq_self_iff]
  constructor
  · intro h
    have hnone : extra = [] := by
      have hlen := congrArg List.length h
      unfold turnedAt at hlen
      rw [List.length_append, List.length_reverse, ← List.length_append, List.take_append_drop,
        List.length_append] at hlen
      exact List.length_eq_zero_iff.mp (by omega)
    rw [hnone, List.append_nil] at h
    exact ⟨hnone, h⟩
  · rintro ⟨rfl, h⟩
    rw [List.append_nil]
    exact h

/-- The map of two lines, with a line of text after it. -/
theorem map_parsed_iff_sample :
    MapParsed (buildSensorList 0 (fun _ => ⟨0, 0⟩) (numbers [1, 15, 2, 21] ++ [.text]))
      [(1, 15), (2, 21)] := by
  apply (map_parsed_iff 0 (fun _ => ⟨0, 0⟩) [1, 15, 2, 21] [.text] ?_).mpr
  · exact ⟨rfl, rfl⟩
  · intro n more h
    cases h

/-- A last line without a sensor makes an entry with the sensor of the line before it; and of 152
    lines the last two change places. -/
theorem map_parsed_fails :
    entries (buildSensorList 0 (fun _ => ⟨0, 0⟩) (numbers [1, 15, 2])) = [(1, 15), (2, 15)] ∧
      ¬ MapParsed (buildSensorList 0 (fun _ => ⟨0, 0⟩) (numbers [1, 15, 2]))
        (completePairs [1, 15, 2]) ∧
      ¬ MapParsed (buildSensorList 0 (fun _ => ⟨0, 0⟩)
          (numbers ((List.range 304).map UInt16.ofNat) ++ []))
        (completePairs ((List.range 304).map UInt16.ofNat)) := by
  refine ⟨by decide, ?_, ?_⟩
  · rw [mapParsed_iff_entries]
    decide
  · obtain ⟨extra, hentries, hextra⟩ := @entries_buildSensorList [] (fun n more h => by cases h)
      ((List.range 304).map UInt16.ofNat) 0 (fun _ => ⟨0, 0⟩)
    rw [mapParsed_iff_entries, hentries, hextra.mpr (by rw [List.length_map, List.length_range]),
      List.append_nil, turnedAt_eq_self_iff]
    decide

end SensorGateway
