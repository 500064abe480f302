import SensorGateway.Datamgr.Proofs.SensorListProofs

/-!
# The data manager keeps sliding-window means

With exact arithmetic the first entry for an id holds the window over the values of that id, newest
first, its mean and the latest timestamp, and every other entry is as the map file left it. The loop
body takes this state of `ms` to the one of `ms ++ [data]`.
-/

namespace SensorGateway

open SlidingMean

variable {cfg : DatamgrConfig} {sensorList : List Sensor}

/-! ## The abstract state -/

/-- What a sensor holds after its measurements `hs`. -/
def Sensor.afterHistory (cfg : DatamgrConfig) (sensor : Sensor) (hs : List SensorData) : Sensor :=
  match hs with
  | [] => sensor
  | data :: _ =>
    { sensor with
      temperatures := lastValues cfg hs
      runningAvg := mean (lastValues cfg hs)
      lastModified := data.ts }

/-- The sensor list after the measurements `ms`, from the list that the map file gives. -/
def sensorsAfter (cfg : DatamgrConfig) (sensorList : List Sensor) (ms : List SensorData) :
    List Sensor :=
  firstEntries (Sensor.afterHistory cfg) sensorList ms

/-! ## One sensor -/

/-- While the list fills, the new value comes in. -/
theorem fillingAvg_succ (runningAvg value : ℚ) (n : Nat) :
    fillingAvg runningAvg value (n + 1 : Nat) = (runningAvg * n + value) / (n + 1) := by
  simp [fillingAvg]

/-- Once it is full, the value `y` leaves. -/
theorem slidingAvg_succ (runningAvg value y : ℚ) (n : Nat) :
    slidingAvg runningAvg y value (n + 1 : Nat) = (n * runningAvg - y + value) / n := by
  simp [slidingAvg]

/-- The last element of a list, by its index. -/
theorem atIndex_last {α : Type} (x : α) (ws : List α) (y : α) :
    (x :: (ws ++ [y]))[ws.length + 1]? = some y ∧
      (x :: (ws ++ [y])).eraseIdx (ws.length + 1) = x :: ws := by
  constructor
  · simp
  · simp [List.eraseIdx_append_of_length_le]

/-- The update keeps `temperatures` and `running_avg` the window and its mean, by the formula for a
    window that fills and by the one for a full window. -/
theorem updateSensor_of_window {sensor : Sensor} (vs : List ℚ) (data : SensorData)
    (htemp : sensor.temperatures = window cfg.runAvgLength vs)
    (havg : vs ≠ [] → sensor.runningAvg = mean (window cfg.runAvgLength vs)) :
    updateSensor cfg data sensor =
      some { sensor with
        temperatures := window cfg.runAvgLength (data.value :: vs)
        runningAvg := mean (window cfg.runAvgLength (data.value :: vs))
        lastModified := data.ts } := by
  rcases lt_or_ge vs.length cfg.runAvgLength with hlt | hge
  · -- the window still fills
    have hvs : window cfg.runAvgLength vs = vs := List.take_of_length_le hlt.le
    rw [hvs] at htemp havg
    rw [updateSensor_of_lt data (by rw [htemp]; exact hlt), window_cons_of_lt hlt, hvs, htemp,
      List.length_cons, fillingAvg_succ, mean_cons havg]
  · -- the window is full: its last value leaves
    have hlen : (window cfg.runAvgLength vs).length = cfg.runAvgLength := by
      simp [window, hge]
    have hpos := cfg.runAvgLength_pos
    obtain ⟨ws, y, hy⟩ : ∃ ws y, window cfg.runAvgLength vs = ws ++ [y] := by
      obtain ⟨ws, y, h⟩ := (List.eq_nil_or_concat (window cfg.runAvgLength vs)).resolve_left
        (by rintro h; simp [h] at hlen; omega)
      exact ⟨ws, y, by simpa using h⟩
    have hws : cfg.runAvgLength = ws.length + 1 := by
      rw [← hlen, hy]
      simp
    have havg' := havg (by rintro rfl; simp at hge; omega)
    obtain ⟨hlast, herase⟩ := atIndex_last data.value ws y
    rw [hy] at htemp havg'
    rw [← hws] at hlast herase
    have hsize : (data.value :: (ws ++ [y])).length = ws.length + 1 + 1 := by simp
    rw [updateSensor_of_le data (by rw [htemp, ← hy, hlen]) (by rw [htemp, hlast]),
      window_cons_of_le hpos hge, hy, List.dropLast_concat, mean_cons_of_concat y, htemp, herase,
      hsize, slidingAvg_succ, havg', Nat.cast_succ]

theorem updateSensor_afterHistory (cfg : DatamgrConfig) {sensor : Sensor}
    (hempty : sensor.temperatures = []) (hs : List SensorData) (data : SensorData) :
    updateSensor cfg data (sensor.afterHistory cfg hs) =
      some (sensor.afterHistory cfg (data :: hs)) := by
  rw [updateSensor_of_window (hs.map SensorData.value)]
  · cases hs <;> rfl
  · cases hs with
    | nil => simp [Sensor.afterHistory, hempty, window]
    | cons d hs => rfl
  · intro hne
    cases hs with
    | nil => exact absurd rfl hne
    | cons d hs => rfl

/-- The updates for the measurements of a sensor, in closed form. -/
theorem Sensor.updates_eq_afterHistory {sensor : Sensor} (hempty : sensor.temperatures = [])
    (hs : List SensorData) : sensor.updates cfg hs = sensor.afterHistory cfg hs := by
  induction hs with
  | nil => rfl
  | cons data hs ih =>
    rw [Sensor.updates, ih, updateSensor_afterHistory cfg hempty]
    rfl

/-! ## The sensor list -/

theorem sensorsUpdated_eq_sensorsAfter (cfg : DatamgrConfig)
    (hempty : ∀ sensor ∈ sensorList, sensor.temperatures = []) (ms : List SensorData) :
    sensorsUpdated cfg sensorList ms = sensorsAfter cfg sensorList ms := by
  refine List.ext_getElem (by simp [sensorsUpdated, sensorsAfter, firstEntries]) ?_
  intro k hk _
  rw [sensorsUpdated_length] at hk
  simp only [sensorsUpdated, sensorsAfter, firstEntries, List.getElem_mapIdx,
    Sensor.updates_eq_afterHistory (hempty _ (List.getElem_mem hk))]

/-- What the three outcomes of the comparisons with the bounds say. -/
theorem temperatureMessage_iff (cfg : DatamgrConfig) (data : SensorData) (sensor : Sensor) :
    (temperatureMessage cfg data sensor = some (.tooCold data.id sensor.runningAvg) ↔
      sensor.runningAvg < cfg.setMinTemp) ∧
    (temperatureMessage cfg data sensor =
        some (.tooWarm sensor.roomId data.id sensor.runningAvg data.ts) ↔
      cfg.setMaxTemp < sensor.runningAvg) ∧
    (temperatureMessage cfg data sensor = none ↔
      cfg.setMinTemp ≤ sensor.runningAvg ∧ sensor.runningAvg ≤ cfg.setMaxTemp) := by
  have hle := not_lt.mp cfg.setMinTemp_le
  unfold temperatureMessage
  split_ifs with hcold hwarm
  · simp [hcold]
    linarith
  · simp [hcold, hwarm]
  · simp [hcold, hwarm, not_lt.mp hcold, not_lt.mp hwarm]

theorem temperatureMessage_ne_invalidId (cfg : DatamgrConfig) (data : SensorData) (sensor : Sensor)
    (id : UInt16) : temperatureMessage cfg data sensor ≠ some (.invalidId id) := by
  unfold temperatureMessage
  split_ifs <;> simp

/-- For every map file, every content of the fresh sensors and every sequence of measurements, the
    data manager holds the sliding windows and their means after each of them, and the message of
    the next one compares the new mean with the two bounds. -/
theorem datamgr_refines_sliding_mean (cfg : DatamgrConfig) (sensorBfr : UInt16)
    (junk : Nat → Uninitialised) (map : List MapToken) (ms : List SensorData) (data : SensorData) :
    let initial := buildSensorList sensorBfr junk map
    ∃ msg, parseAll cfg initial ms = some (sensorsAfter cfg initial ms) ∧
      parseSensorData cfg data (sensorsAfter cfg initial ms) =
        some (sensorsAfter cfg initial (ms ++ [data]), msg) ∧
      (msg = some (.invalidId data.id) ↔ firstEntry initial data.id = none) ∧
      (firstEntry initial data.id = none →
        sensorsAfter cfg initial (ms ++ [data]) = sensorsAfter cfg initial ms) ∧
      ∀ k sensor, firstEntry initial data.id = some k → initial[k]? = some sensor →
        let avg := mean (lastValues cfg (history data.id (ms ++ [data])))
        (msg = some (.tooCold data.id avg) ↔ avg < cfg.setMinTemp) ∧
        (msg = some (.tooWarm sensor.roomId data.id avg data.ts) ↔ cfg.setMaxTemp < avg) ∧
        (msg = none ↔ cfg.setMinTemp ≤ avg ∧ avg ≤ cfg.setMaxTemp) := by
  intro initial
  have hempty : ∀ sensor ∈ initial, sensor.temperatures = [] :=
    readMap_temperatures map sensorBfr junk [] (by simp)
  have hafter := sensorsUpdated_eq_sensorsAfter cfg hempty
  refine ⟨messageAfter cfg initial ms data, ?_, ?_, ?_, ?_, ?_⟩
  · rw [parseAll_eq, hafter]
  · rw [← hafter, ← hafter]
    exact parseSensorData_sensorsUpdated cfg initial ms data
  · unfold messageAfter
    cases h : firstEntry initial data.id with
    | none => simp
    | some k =>
      obtain ⟨hk, -⟩ := firstEntry_eq_some h
      simp [hk, temperatureMessage_ne_invalidId]
  · intro hnone
    rw [← hafter, ← hafter, sensorsUpdated_concat_of_none hnone]
  · intro k sensor hfirst hsensor avg
    have hnil := hempty sensor (List.mem_of_getElem? hsensor)
    have hiff := temperatureMessage_iff cfg data
      (sensor.updates cfg (history data.id (ms ++ [data])))
    have havg : (sensor.updates cfg (history data.id (ms ++ [data]))).runningAvg = avg := by
      rw [Sensor.updates_eq_afterHistory hnil]
      simp only [avg, history_concat_self]
      rfl
    rw [Sensor.updates_roomId, havg] at hiff
    rwa [messageAfter_of_some hfirst hsensor]

end SensorGateway
