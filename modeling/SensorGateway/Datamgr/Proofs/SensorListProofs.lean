import SensorGateway.Datamgr.Datamgr
import SensorGateway.Lib.SlidingMean
import Mathlib.Tactic

/-!
# The sensor list, whatever the arithmetic

The first entry for an id is changed by the measurements of that id only, one update after the
other, and every other entry stays as the map file left it. The loop body takes the list of `ms` to
the one of `ms ++ [data]`. Nothing is asked of the operations on the values.
-/

namespace SensorGateway

open SlidingMean

variable {K : Type}

/-! ## The abstract state -/

/-- The measurements of a sensor, newest first. -/
def history (id : UInt16) (ms : List (SensorData K)) : List (SensorData K) :=
  (ms.filter fun data => data.id = id).reverse

/-- The last `RUN_AVG_LENGTH` values of a history. -/
def lastValues [LT K] (cfg : DatamgrConfig K) (hs : List (SensorData K)) : List K :=
  window cfg.runAvgLength (hs.map SensorData.value)

/-- The position of the first entry for an id. -/
def firstEntry (sensorList : List (Sensor K)) (id : UInt16) : Option Nat :=
  sensorList.findIdx? fun sensor => sensor.sensorId = id

/-- The list when the first entry for each id is what `after` makes of it and of the history of the
    id. -/
def firstEntries (after : Sensor K → List (SensorData K) → Sensor K) (sensorList : List (Sensor K))
    (ms : List (SensorData K)) : List (Sensor K) :=
  sensorList.mapIdx fun k sensor =>
    if firstEntry sensorList sensor.sensorId = some k then
      after sensor (history sensor.sensorId ms)
    else sensor

@[simp] theorem history_nil (id : UInt16) : history id ([] : List (SensorData K)) = [] := rfl

theorem history_concat_self (ms : List (SensorData K)) (data : SensorData K) :
    history data.id (ms ++ [data]) = data :: history data.id ms := by
  simp [history]

theorem history_concat_of_ne {id : UInt16} (ms : List (SensorData K)) {data : SensorData K}
    (hne : data.id ≠ id) : history id (ms ++ [data]) = history id ms := by
  simp [history, hne]

variable {sensorList : List (Sensor K)}

theorem firstEntry_eq_map (sensorList : List (Sensor K)) (id : UInt16) :
    firstEntry sensorList id = (sensorList.map Sensor.sensorId).findIdx? fun a => a = id := by
  rw [firstEntry, List.findIdx?_map]
  rfl

theorem firstEntry_eq_some {id : UInt16} {k : Nat} (h : firstEntry sensorList id = some k) :
    ∃ hk : k < sensorList.length, sensorList[k].sensorId = id := by
  obtain ⟨hk, hid, -⟩ := List.findIdx?_eq_some_iff_getElem.mp h
  exact ⟨hk, by simpa using hid⟩

/-- The search with `sensor_compare` finds the first entry. -/
theorem seqGetIndexOf_sensorCompare (sensorList : List (Sensor K)) (id : UInt16) :
    seqGetIndexOf (fun sensor => sensorCompare sensor.sensorId id = 0) sensorList =
      foundIndex 0 (firstEntry sensorList id) := by
  simp only [seqGetIndexOf, sensorCompare_eq_zero_iff]
  rfl

section Update

variable [Add K] [Sub K] [Mul K] [Div K] [IntCast K] [LT K] {cfg : DatamgrConfig K}

/-- What a sensor holds when its measurements `hs` have been parsed, the oldest first. -/
def Sensor.updates (cfg : DatamgrConfig K) (sensor : Sensor K) : List (SensorData K) → Sensor K
  | [] => sensor
  | data :: hs => (updateSensor cfg data (sensor.updates cfg hs)).getD sensor

/-- The sensor list after the measurements `ms`, from the list that the map file gives. -/
def sensorsUpdated (cfg : DatamgrConfig K) (sensorList : List (Sensor K))
    (ms : List (SensorData K)) : List (Sensor K) :=
  firstEntries (Sensor.updates cfg) sensorList ms

/-- The message of a measurement: that of the updated first entry. -/
def messageAfter [DecidableLT K] (cfg : DatamgrConfig K) (sensorList : List (Sensor K))
    (ms : List (SensorData K)) (data : SensorData K) : Option (DatamgrMessage K) :=
  match firstEntry sensorList data.id with
  | none => some (.invalidId data.id)
  | some k => (sensorsUpdated cfg sensorList (ms ++ [data]))[k]?.bind (temperatureMessage cfg data)

/-! ## One sensor -/

/-- While the list fills, the new value comes in. -/
theorem updateSensor_of_lt {sensor : Sensor K} (data : SensorData K)
    (hlt : sensor.temperatures.length < cfg.runAvgLength) :
    updateSensor cfg data sensor =
      some { sensor with
        temperatures := data.value :: sensor.temperatures
        runningAvg := fillingAvg sensor.runningAvg data.value
          (data.value :: sensor.temperatures).length
        lastModified := data.ts } := by
  have hfirst : seqGetElementAtIndex (data.value :: sensor.temperatures) 0 = some data.value :=
    seqGetElementAtIndex_of_lt (k := 0) (by simp)
  rw [updateSensor, seqInsertAtIndex_of_nonpos (by omega), hfirst, Option.bind_eq_bind,
    Option.bind_some, if_pos (by simpa using hlt)]

/-- Once it is full, the value `remove` at `RUN_AVG_LENGTH` leaves. -/
theorem updateSensor_of_le {sensor : Sensor K} (data : SensorData K) {remove : K}
    (hle : cfg.runAvgLength ≤ sensor.temperatures.length)
    (hremove : (data.value :: sensor.temperatures)[cfg.runAvgLength]? = some remove) :
    updateSensor cfg data sensor =
      some { sensor with
        temperatures := (data.value :: sensor.temperatures).eraseIdx cfg.runAvgLength
        runningAvg := slidingAvg sensor.runningAvg remove data.value
          (data.value :: sensor.temperatures).length
        lastModified := data.ts } := by
  have hlength : cfg.runAvgLength < (data.value :: sensor.temperatures).length := by
    rw [List.length_cons]
    omega
  have hfirst : seqGetElementAtIndex (data.value :: sensor.temperatures) 0 = some data.value :=
    seqGetElementAtIndex_of_lt (k := 0) (by simp)
  have hlast : seqGetElementAtIndex (data.value :: sensor.temperatures) cfg.runAvgLength =
      some remove := by
    rw [seqGetElementAtIndex_of_lt hlength, ← List.getElem?_eq_getElem, hremove]
  rw [updateSensor, seqInsertAtIndex_of_nonpos (by omega), hfirst, Option.bind_eq_bind,
    Option.bind_some, if_neg (by omega), hlast, Option.bind_some, seqRemoveAtIndex_of_lt hlength]

/-- What an update leaves of a sensor and what it puts in. -/
structure Updated (cfg : DatamgrConfig K) (data : SensorData K) (sensor sensor' : Sensor K) :
    Prop where
  sensorId : sensor'.sensorId = sensor.sensorId
  roomId : sensor'.roomId = sensor.roomId
  lastModified : sensor'.lastModified = data.ts
  temperatures : sensor.temperatures.length ≤ cfg.runAvgLength →
    sensor'.temperatures = window cfg.runAvgLength (data.value :: sensor.temperatures)

theorem exists_updateSensor (cfg : DatamgrConfig K) (data : SensorData K) (sensor : Sensor K) :
    ∃ sensor', updateSensor cfg data sensor = some sensor' ∧ Updated cfg data sensor sensor' := by
  rcases lt_or_ge sensor.temperatures.length cfg.runAvgLength with hlt | hge
  · refine ⟨_, updateSensor_of_lt data hlt, rfl, rfl, rfl, fun _ => ?_⟩
    exact (List.take_of_length_le (Nat.succ_le_of_lt hlt)).symm
  · have hindex : cfg.runAvgLength < (data.value :: sensor.temperatures).length :=
      Nat.lt_succ_of_le hge
    refine ⟨_, updateSensor_of_le data hge (List.getElem?_eq_getElem hindex), rfl, rfl, rfl, ?_⟩
    intro hle
    show (data.value :: sensor.temperatures).eraseIdx _ = _
    rw [List.eraseIdx_eq_take_drop_succ, List.drop_eq_nil_of_le (by rw [List.length_cons]; omega),
      List.append_nil]
    rfl

theorem updateSensor_updates (cfg : DatamgrConfig K) (data : SensorData K) (sensor : Sensor K)
    (hs : List (SensorData K)) :
    updateSensor cfg data (sensor.updates cfg hs) = some (sensor.updates cfg (data :: hs)) := by
  obtain ⟨sensor', hupdate, -⟩ := exists_updateSensor cfg data (sensor.updates cfg hs)
  rw [Sensor.updates, hupdate]
  rfl

theorem updated_updates (cfg : DatamgrConfig K) (data : SensorData K) (sensor : Sensor K)
    (hs : List (SensorData K)) :
    Updated cfg data (sensor.updates cfg hs) (sensor.updates cfg (data :: hs)) := by
  obtain ⟨sensor', hupdate, hupdated⟩ := exists_updateSensor cfg data (sensor.updates cfg hs)
  rw [updateSensor_updates] at hupdate
  rwa [Option.some.inj hupdate]

@[simp] theorem Sensor.updates_sensorId (cfg : DatamgrConfig K) (sensor : Sensor K)
    (hs : List (SensorData K)) : (sensor.updates cfg hs).sensorId = sensor.sensorId := by
  induction hs with
  | nil => rfl
  | cons data hs ih => rw [(updated_updates cfg data sensor hs).sensorId, ih]

@[simp] theorem Sensor.updates_roomId (cfg : DatamgrConfig K) (sensor : Sensor K)
    (hs : List (SensorData K)) : (sensor.updates cfg hs).roomId = sensor.roomId := by
  induction hs with
  | nil => rfl
  | cons data hs ih => rw [(updated_updates cfg data sensor hs).roomId, ih]

/-- The temperatures are the window over the values, newest first. -/
theorem Sensor.updates_temperatures {sensor : Sensor K} (hempty : sensor.temperatures = [])
    (hs : List (SensorData K)) : (sensor.updates cfg hs).temperatures = lastValues cfg hs := by
  induction hs with
  | nil => simpa [Sensor.updates, lastValues, window] using hempty
  | cons data hs ih =>
    have hle : (sensor.updates cfg hs).temperatures.length ≤ cfg.runAvgLength := by
      rw [ih]
      exact List.length_take_le _ _
    rw [(updated_updates cfg data sensor hs).temperatures hle, ih]
    obtain ⟨n, hn⟩ := Nat.exists_eq_succ_of_ne_zero cfg.runAvgLength_pos.ne'
    simp [lastValues, window, hn, List.take_take]

/-! ## The sensor list -/

theorem sensorsUpdated_map_sensorId (sensorList : List (Sensor K)) (ms : List (SensorData K)) :
    (sensorsUpdated cfg sensorList ms).map Sensor.sensorId = sensorList.map Sensor.sensorId := by
  refine List.ext_getElem (by simp [sensorsUpdated, firstEntries]) ?_
  intro k h _
  simp only [sensorsUpdated, firstEntries, List.getElem_map, List.getElem_mapIdx]
  split_ifs <;> simp

@[simp] theorem firstEntry_sensorsUpdated (cfg : DatamgrConfig K) (sensorList : List (Sensor K))
    (ms : List (SensorData K)) (id : UInt16) :
    firstEntry (sensorsUpdated cfg sensorList ms) id = firstEntry sensorList id := by
  rw [firstEntry_eq_map, sensorsUpdated_map_sensorId, ← firstEntry_eq_map]

@[simp] theorem sensorsUpdated_length (sensorList : List (Sensor K)) (ms : List (SensorData K)) :
    (sensorsUpdated cfg sensorList ms).length = sensorList.length := by
  simp [sensorsUpdated, firstEntries]

/-- A measurement of an unknown id leaves the list as it is. -/
theorem sensorsUpdated_concat_of_none {ms : List (SensorData K)} {data : SensorData K}
    (h : firstEntry sensorList data.id = none) :
    sensorsUpdated cfg sensorList (ms ++ [data]) = sensorsUpdated cfg sensorList ms := by
  refine List.ext_getElem (by simp) ?_
  intro k hk _
  rw [sensorsUpdated_length] at hk
  have hne : data.id ≠ sensorList[k].sensorId := by
    have := List.findIdx?_eq_none_iff.mp h _ (List.getElem_mem hk)
    simpa [eq_comm] using this
  simp only [sensorsUpdated, firstEntries, List.getElem_mapIdx, history_concat_of_ne ms hne]

/-- A measurement of a known id changes its first entry only. -/
theorem sensorsUpdated_concat_of_some {ms : List (SensorData K)} {data : SensorData K} {k : Nat}
    (hk : k < sensorList.length) (h : firstEntry sensorList data.id = some k) :
    sensorsUpdated cfg sensorList (ms ++ [data]) =
      (sensorsUpdated cfg sensorList ms).set k
        (sensorList[k].updates cfg (history data.id (ms ++ [data]))) := by
  refine List.ext_getElem (by simp) ?_
  intro j hj _
  rw [sensorsUpdated_length] at hj
  rw [List.getElem_set]
  simp only [sensorsUpdated, firstEntries, List.getElem_mapIdx]
  split_ifs with hfirst heq heq
  · subst heq
    rw [(firstEntry_eq_some h).2]
  · -- another first entry has another id
    have hne : data.id ≠ sensorList[j].sensorId := by
      intro hdata
      rw [← hdata, h] at hfirst
      exact heq (Option.some.inj hfirst)
    rw [history_concat_of_ne ms hne]
  · subst heq
    rw [(firstEntry_eq_some h).2] at hfirst
    exact absurd h hfirst
  · rfl

/-- The first entry for a sensor id. -/
theorem sensorsUpdated_getElem? (cfg : DatamgrConfig K) {id : UInt16} {k : Nat} {sensor : Sensor K}
    (hfirst : firstEntry sensorList id = some k) (hsensor : sensorList[k]? = some sensor)
    (ms : List (SensorData K)) :
    (sensorsUpdated cfg sensorList ms)[k]? = some (sensor.updates cfg (history id ms)) := by
  obtain ⟨hk, hid⟩ := firstEntry_eq_some hfirst
  obtain rfl := Option.some.inj ((List.getElem?_eq_getElem hk).symm.trans hsensor)
  rw [List.getElem?_eq_getElem (by simpa using hk)]
  simp [sensorsUpdated, firstEntries, hid, hfirst]

@[simp] theorem sensorsUpdated_nil (sensorList : List (Sensor K)) :
    sensorsUpdated cfg sensorList [] = sensorList := by
  refine List.ext_getElem (by simp) ?_
  intro k _ _
  simp [sensorsUpdated, firstEntries, Sensor.updates]

/-- No list of temperatures grows beyond the window. -/
theorem sensorsUpdated_length_temperatures
    (hempty : ∀ sensor ∈ sensorList, sensor.temperatures = []) (ms : List (SensorData K)) :
    ∀ sensor ∈ sensorsUpdated cfg sensorList ms, sensor.temperatures.length ≤ cfg.runAvgLength := by
  intro sensor hmem
  obtain ⟨k, hk, rfl⟩ := List.mem_mapIdx.mp hmem
  have hnil := hempty _ (List.getElem_mem hk)
  split_ifs
  · rw [Sensor.updates_temperatures hnil]
    exact List.length_take_le _ _
  · simp [hnil]

/-! ## The loop -/

variable [DecidableLT K]

theorem messageAfter_of_some {ms : List (SensorData K)} {data : SensorData K} {k : Nat}
    {sensor : Sensor K} (hfirst : firstEntry sensorList data.id = some k)
    (hsensor : sensorList[k]? = some sensor) :
    messageAfter cfg sensorList ms data =
      temperatureMessage cfg data (sensor.updates cfg (history data.id (ms ++ [data]))) := by
  rw [messageAfter, hfirst]
  dsimp only
  rw [sensorsUpdated_getElem? cfg hfirst hsensor]
  rfl

/-- One pass of the loop: it is defined, and it takes the list of `ms` to the one of
    `ms ++ [data]`. -/
theorem parseSensorData_sensorsUpdated (cfg : DatamgrConfig K) (sensorList : List (Sensor K))
    (ms : List (SensorData K)) (data : SensorData K) :
    parseSensorData cfg data (sensorsUpdated cfg sensorList ms) =
      some (sensorsUpdated cfg sensorList (ms ++ [data]), messageAfter cfg sensorList ms data) := by
  rw [parseSensorData, seqGetIndexOf_sensorCompare, firstEntry_sensorsUpdated]
  cases h : firstEntry sensorList data.id with
  | none => simp [sensorsUpdated_concat_of_none h, messageAfter, h]
  | some k =>
    obtain ⟨hk, -⟩ := firstEntry_eq_some h
    have hsensor : sensorList[k]? = some sensorList[k] := List.getElem?_eq_getElem hk
    have hat : seqGetElementAtIndex (sensorsUpdated cfg sensorList ms) k =
        some (sensorList[k].updates cfg (history data.id ms)) := by
      rw [seqGetElementAtIndex_of_lt (by simpa using hk), ← List.getElem?_eq_getElem,
        sensorsUpdated_getElem? cfg h hsensor]
    have hupdate := updateSensor_updates cfg data sensorList[k] (history data.id ms)
    rw [messageAfter_of_some h hsensor, sensorsUpdated_concat_of_some hk h, history_concat_self]
    simp [hat, hupdate]

theorem parseAll_sensorsUpdated (cfg : DatamgrConfig K) (sensorList : List (Sensor K))
    (done ms : List (SensorData K)) :
    parseAll cfg (sensorsUpdated cfg sensorList done) ms =
      some (sensorsUpdated cfg sensorList (done ++ ms)) := by
  induction ms generalizing done with
  | nil => simp [parseAll]
  | cons data ms ih =>
    rw [parseAll, parseSensorData_sensorsUpdated]
    simpa using ih (done ++ [data])

theorem parseAll_eq (cfg : DatamgrConfig K) (sensorList : List (Sensor K))
    (ms : List (SensorData K)) :
    parseAll cfg sensorList ms = some (sensorsUpdated cfg sensorList ms) := by
  have hall := parseAll_sensorsUpdated cfg sensorList [] ms
  rwa [sensorsUpdated_nil, List.nil_append] at hall

end Update

/-! ## The map file -/

theorem readMap_temperatures (map : List MapToken) (sensorBfr : UInt16)
    (junk : Nat → Uninitialised K) (sensorList : List (Sensor K))
    (hempty : ∀ sensor ∈ sensorList, sensor.temperatures = []) :
    ∀ sensor ∈ readMap sensorBfr junk sensorList map, sensor.temperatures = [] := by
  have hentry : ∀ {sensorList : List (Sensor K)} (room id : UInt16) (j : Uninitialised K),
      (∀ sensor ∈ sensorList, sensor.temperatures = []) →
      ∀ sensor ∈ insertSensorEntry room id j sensorList, sensor.temperatures = [] := by
    intro sensorList room id j hempty sensor hmem
    rcases List.eq_or_mem_of_mem_insertIdx hmem with rfl | hmem
    · rfl
    · exact hempty sensor hmem
  induction sensorBfr, junk, sensorList, map using readMap.induct with
  | case1 _ junk sensorList room sensor rest ih => exact ih (hentry _ _ _ hempty)
  | case2 sensorBfr junk sensorList room rest hrest =>
    rw [readMap]
    · exact hentry _ _ _ hempty
    · exact hrest
  | case3 sensorBfr junk sensorList map hmap₂ hmap₁ =>
    rw [readMap]
    · exact hempty
    · exact hmap₂
    · exact hmap₁

end SensorGateway
