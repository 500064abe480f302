import SensorGateway.Datamgr.LinkedDatamgr
import SensorGateway.Datamgr.Proofs.RunningAvgProofs
import SensorGateway.Dplist.Proofs.SharedProofs

/-!
# The data manager over the nodes is the one over the sequences

Reading the map file and a measurement do over the nodes what they do over the sequence of the
sensors. Nothing is allocated but the nodes of the lists, the sensors, and one `double` for each
value in the temperatures of a sensor.
-/

namespace SensorGateway

open PtrHeap DoublyLinked

namespace LinkedDatamgr

variable {K : Type} {c : DatamgrMemory K} {s : LinkedDatamgr K}

/-- A sensor in memory: its node and block, and the nodes and blocks of its temperatures. -/
structure Row (K : Type) where
  entry : Entry SensorPointer (LinkedSensor K)
  temperatures : List (Entry Nat K)

def Row.list (row : Row K) : Dplist Nat Nat × List (Entry Nat K) :=
  (row.entry.value.temperatures, row.temperatures)

def Row.sensor (row : Row K) : Sensor K :=
  row.entry.value.withTemperatures (row.temperatures.map Entry.value)

/-- The memory holds these sensors, and nothing else is allocated. -/
structure Holds (c : DatamgrMemory K) (s : LinkedDatamgr K) (rows : List (Row K)) : Prop where
  owned : Owned s.sensorList s.sensors (rows.map Row.entry)
  shared : Shared s.doubles (rows.map Row.list)
  callbacks : s.sensorList.callbacks = c.sensorListCallbacks
  temperatures : ∀ row ∈ rows, row.entry.value.temperatures.callbacks =
    c.createTemperatures.callbacks
  ids : ∀ row ∈ rows, row.entry.element.sensorId = row.entry.value.sensorId

variable {rows : List (Row K)}

theorem holds_start (c : DatamgrMemory K) : Holds c (start c) [] where
  owned := owned_dplCreate _
  shared := Shared.empty
  callbacks := rfl
  temperatures := fun _ h => nomatch h
  ids := fun _ h => nomatch h

/-- A call does not fault, and the memory holds these sensors afterwards. -/
def Leads (c : DatamgrMemory K) (r : Except Fault (LinkedDatamgr K))
    (sensorList : List (Sensor K)) : Prop :=
  ∃ s rows, r = .ok s ∧ Holds c s rows ∧ rows.map Row.sensor = sensorList

/-! ## The map file -/

theorem insertSensorEntry_leads (h : Holds c s rows) (room sensor : UInt16)
    (junk : Uninitialised K) :
    Leads c (insertSensorEntry c room sensor junk s)
      (SensorGateway.insertSensorEntry room sensor junk (rows.map Row.sensor)) := by
  let e : SensorPointer := ⟨c.sensors.malloc s.sensors, sensor⟩
  let value : LinkedSensor K :=
    ⟨sensor, room, junk.runningAvg, junk.lastModified, c.createTemperatures⟩
  have hblock : s.sensorList.callbacks.block e = c.sensors.malloc s.sensors := by
    rw [h.callbacks]
    rfl
  have hstored : s.sensorList.callbacks.stored (some e) false = some e := rfl
  have hnew : s.sensors.cells (s.sensorList.callbacks.block e) = none := by
    rw [hblock]
    exact c.sensors.malloc_unused s.sensors
  obtain ⟨list', hinsert, hcb, howned⟩ := h.owned.insert c.sensorNodes hstored hnew 150 value
  let row : Row K := ⟨⟨c.sensorNodes.malloc s.sensorList.heap, e, value⟩, []⟩
  rw [hblock] at howned
  rw [insertSensorEntry, hinsert, ok_bind]
  refine ⟨_, seqInsertAtIndex rows 150 row, rfl, ⟨?_, ?_, hcb.trans h.callbacks, ?_, ?_⟩, ?_⟩
  · rw [map_seqInsertAtIndex]
    exact howned
  · rw [map_seqInsertAtIndex]
    exact h.shared.add _ 150
  · intro row' hmem
    rcases mem_seqInsertAtIndex.mp hmem with rfl | hmem
    · rfl
    · exact h.temperatures row' hmem
  · intro row' hmem
    rcases mem_seqInsertAtIndex.mp hmem with rfl | hmem
    · rfl
    · exact h.ids row' hmem
  · rw [map_seqInsertAtIndex]
    rfl

theorem readMap_leads (map : List MapToken) (sensorBfr : UInt16) (junk : Nat → Uninitialised K)
    (sensorList : List (Sensor K)) (h : Holds c s rows) (hrows : rows.map Row.sensor = sensorList) :
    Leads c (readMap c sensorBfr junk s map)
      (SensorGateway.readMap sensorBfr junk sensorList map) := by
  induction sensorBfr, junk, sensorList,
    map using SensorGateway.readMap.induct generalizing s rows with
  | case1 sensorBfr junk sensorList room sensor rest ih =>
    obtain ⟨s', rows', hentry, h', hrows'⟩ := insertSensorEntry_leads h (UInt16.ofInt room)
      (UInt16.ofInt sensor) (junk 0)
    rw [readMap, SensorGateway.readMap, hentry, ok_bind]
    rw [hrows] at hrows'
    exact ih h' hrows'
  | case2 sensorBfr junk sensorList room rest hrest =>
    rw [readMap, SensorGateway.readMap, ← hrows]
    · exact insertSensorEntry_leads h _ _ _
    · exact hrest
    · exact hrest
  | case3 sensorBfr junk sensorList map hmap₂ hmap₁ =>
    rw [readMap, SensorGateway.readMap]
    · exact ⟨s, rows, rfl, h, hrows⟩
    · exact hmap₂
    · exact hmap₁
    · exact hmap₂
    · exact hmap₁

/-! ## A measurement -/

/-- The search finds the first entry of the id. -/
theorem Holds.index (h : Holds c s rows) (id : UInt16) :
    dplGetIndexOfElement s.sensorList (some ⟨0, id⟩) =
      .ok (foundIndex 0 (firstEntry (rows.map Row.sensor) id)) := by
  rw [dplGetIndexOfElement_spec h.owned.chain, h.callbacks, firstEntry_eq_map]
  have hids : (rows.map Row.sensor).map Sensor.sensorId = rows.map fun row =>
      row.entry.element.sensorId := by
    rw [List.map_map]
    exact List.map_congr_left fun row hmem => (h.ids row hmem).symm
  rw [hids, Nodes.indexOfElement, List.map_map, List.findIdx?_map, List.findIdx?_map]
  congr 3
  funext row
  exact decide_eq_decide.mpr sensorCompare_eq_zero_iff

section Update

variable [Add K] [Sub K] [Mul K] [Div K] [IntCast K] [LT K] {cfg : DatamgrConfig K}

section Sensor

variable {doubles : Heap K} {lists : List (Dplist Nat Nat × List (Entry Nat K))}
  {sensor : LinkedSensor K} {entries : List (Entry Nat K)} {k : Nat}

/-- What an update leads to: the sensor and the memory of the temperatures. -/
def Updates (cfg : DatamgrConfig K) (data : SensorData K) (sensor : LinkedSensor K)
    (lists : List (Dplist Nat Nat × List (Entry Nat K))) (k : Nat) (entries : List (Entry Nat K))
    (r : Except Fault (LinkedSensor K × Heap K)) : Prop :=
  ∃ sensor' doubles' entries', r = .ok (sensor', doubles') ∧
    sensor'.temperatures.callbacks = sensor.temperatures.callbacks ∧
    sensor'.sensorId = sensor.sensorId ∧
    Shared doubles' (lists.set k (sensor'.temperatures, entries')) ∧
    SensorGateway.updateSensor cfg data (sensor.withTemperatures (entries.map Entry.value)) =
      some (sensor'.withTemperatures (entries'.map Entry.value))

theorem updateSensor_leads (cfg : DatamgrConfig K) (h : Shared doubles lists)
    (hk : lists[k]? = some (sensor.temperatures, entries))
    (hcallbacks : sensor.temperatures.callbacks = c.createTemperatures.callbacks)
    (data : SensorData K) :
    Updates cfg data sensor lists k entries (updateSensor c cfg data doubles sensor) := by
  have hblock : sensor.temperatures.callbacks.block (c.doubles.malloc doubles) =
      c.doubles.malloc doubles := by
    rw [hcallbacks]
    rfl
  have hstored : sensor.temperatures.callbacks.stored (some (c.doubles.malloc doubles)) false =
      some (c.doubles.malloc doubles) := rfl
  have hnew : doubles.cells (sensor.temperatures.callbacks.block (c.doubles.malloc doubles)) =
      none := by
    rw [hblock]
    exact c.doubles.malloc_unused doubles
  obtain ⟨list', hinsert, hcb, hshared⟩ :=
    h.insert hk c.temperatureNodes hstored hnew (-1) data.value
  have hlt : k < lists.length := (List.getElem?_eq_some_iff.mp hk).1
  rw [hblock, seqInsertAtIndex_of_nonpos (by omega)] at hshared
  obtain ⟨added, hadded, hvalue⟩ : ∃ added : Entry Nat K, ⟨c.temperatureNodes.malloc
      sensor.temperatures.heap, c.doubles.malloc doubles, data.value⟩ = added ∧
        added.value = data.value :=
    ⟨_, rfl, rfl⟩
  rw [hadded] at hshared
  have hk' : (lists.set k (list', added :: entries))[k]? = some (list', added :: entries) :=
    List.getElem?_set_self hlt
  have hboxed := hshared.boxed _ (List.mem_of_getElem? hk')
  have hfirst : dplGetElementAtIndex list' 0 = .ok (some added.element) := hboxed.get (k := 0) rfl
  have hloadFirst := hboxed.load (k := 0) rfl
  rw [updateSensor, hinsert, ok_bind, hboxed.size, ok_bind, hfirst, ok_bind, hloadFirst,
    ok_bind, hvalue]
  have hlength : ((added :: entries).length : Int) ≤ cfg.runAvgLength ↔
      (data.value :: entries.map Entry.value).length ≤ cfg.runAvgLength := by
    simp only [List.length_cons, List.length_map]
    omega
  split_ifs with hsize
  · -- the window still fills
    refine ⟨_, _, added :: entries, rfl, hcb, rfl, hshared, ?_⟩
    have hfills : (entries.map Entry.value).length < cfg.runAvgLength := hlength.mp hsize
    rw [updateSensor_of_lt data hfills]
    simp [LinkedSensor.withTemperatures, hvalue]
  · -- the last temperature leaves the list, and its block is freed
    have hlt' : cfg.runAvgLength < (added :: entries).length := by
      simp only [List.length_cons] at hsize ⊢
      omega
    obtain ⟨x, hx⟩ : ∃ x, (added :: entries)[cfg.runAvgLength]? = some x :=
      ⟨_, List.getElem?_eq_getElem hlt'⟩
    obtain ⟨list'', hremove, hcb', hshared'⟩ := hshared.remove hk' hx
    rw [hboxed.get hx, ok_bind, hboxed.load hx, ok_bind, hremove, ok_bind]
    rw [List.set_set] at hshared'
    refine ⟨_, _, _, rfl, hcb'.trans hcb, rfl, hshared', ?_⟩
    have hlast : (data.value :: entries.map Entry.value)[cfg.runAvgLength]? = some x.value := by
      rw [← hvalue, ← List.map_cons, List.getElem?_map, hx]
      rfl
    have hfull : cfg.runAvgLength ≤ (entries.map Entry.value).length :=
      Nat.le_of_lt_succ (not_le.mp (hlength.not.mp hsize))
    rw [updateSensor_of_le data hfull hlast, ← List.eraseIdx_map, List.map_cons, hvalue]
    simp [LinkedSensor.withTemperatures]

end Sensor

variable [DecidableLT K]

theorem parseSensorData_leads (cfg : DatamgrConfig K) (h : Holds c s rows) (data : SensorData K) :
    ∃ s' rows' message, parseSensorData c cfg data s = .ok (s', message) ∧ Holds c s' rows' ∧
      SensorGateway.parseSensorData cfg data (rows.map Row.sensor) =
        some (rows'.map Row.sensor, message) := by
  rw [parseSensorData, h.index, ok_bind, SensorGateway.parseSensorData, seqGetIndexOf_sensorCompare]
  cases hfirst : firstEntry (rows.map Row.sensor) data.id with
  | none => exact ⟨s, rows, _, rfl, h, rfl⟩
  | some k =>
    obtain ⟨hk, -⟩ := firstEntry_eq_some hfirst
    rw [List.length_map] at hk
    have hrow : rows[k]? = some rows[k] := List.getElem?_eq_getElem hk
    generalize rows[k] = row at hrow
    have hmem : row ∈ rows := List.mem_of_getElem? hrow
    have hentry : (rows.map Row.entry)[k]? = some row.entry := by simp [hrow]
    have hlist : (rows.map Row.list)[k]? =
        some (row.entry.value.temperatures, row.temperatures) := by
      simp [hrow, Row.list]
    have hsensor : seqGetElementAtIndex (rows.map Row.sensor) k = some row.sensor := by
      rw [seqGetElementAtIndex_of_lt (by simpa using hk), ← List.getElem?_eq_getElem,
        List.getElem?_map, hrow]
      rfl
    obtain ⟨sensor', doubles', entries', hupdate, hcb, hid, hshared, hseq⟩ :=
      updateSensor_leads cfg h.shared hlist (h.temperatures row hmem) data
    have hmodify : s.sensors.modify (s.sensorList.pointer (some row.entry.element))
        (fun _ => sensor') =
        .ok (s.sensors.write (s.sensorList.callbacks.block row.entry.element) sensor') := by
      simp [Heap.modify, Dplist.pointer, h.owned.cells _ (List.mem_of_getElem? hentry)]
    have hnonneg : (0 : Int) + k ≥ 0 := by omega
    rw [foundIndex_some, if_pos hnonneg, if_pos hnonneg, zero_add, h.owned.get hentry, ok_bind,
      h.owned.load hentry, ok_bind, hupdate, ok_bind]
    dsimp only
    rw [hmodify, ok_bind, hsensor]
    refine ⟨_, rows.set k ⟨{ row.entry with value := sensor' }, entries'⟩, _, rfl,
      ⟨?_, ?_, h.callbacks, ?_, ?_⟩, ?_⟩
    · rw [List.map_set]
      exact h.owned.write hentry sensor'
    · rw [List.map_set]
      exact hshared
    · intro row' hmem'
      rcases List.mem_or_eq_of_mem_set hmem' with hmem' | rfl
      · exact h.temperatures row' hmem'
      · exact hcb.trans (h.temperatures row hmem)
    · intro row' hmem'
      rcases List.mem_or_eq_of_mem_set hmem' with hmem' | rfl
      · exact h.ids row' hmem'
      · exact (h.ids row hmem).trans hid.symm
    · show (do let sensor ← SensorGateway.updateSensor cfg data row.sensor; _) = _
      rw [Row.sensor, hseq, List.map_set]
      rfl

theorem parseAll_leads (h : Holds c s rows) (ms : List (SensorData K))
    {sensorList : List (Sensor K)}
    (hseq : SensorGateway.parseAll cfg (rows.map Row.sensor) ms = some sensorList) :
    Leads c (parseAll c cfg s ms) sensorList := by
  induction ms generalizing s rows with
  | nil => exact ⟨s, rows, rfl, h, Option.some.inj hseq⟩
  | cons data ms ih =>
    obtain ⟨s', rows', message, hparse, h', hseq'⟩ := parseSensorData_leads cfg h data
    rw [SensorGateway.parseAll, hseq', Option.bind_eq_bind, Option.bind_some] at hseq
    rw [parseAll, hparse, ok_bind]
    exact ih h' hseq

end Update

/-! ## The release -/

/-- The rows that the loop of `dpl_free` has still to free. -/
structure Remaining (callbacks : Callbacks SensorPointer Nat) (p : Ptr) (f : FreedDatamgr K)
    (rows : List (Row K)) : Prop where
  links : Links f.nodes p (rows.map fun row => (row.entry.node, some row.entry.element)) none
  distinctNodes : (rows.map fun row => row.entry.node).Nodup
  nodes : ∀ a, f.nodes.cells a ≠ none → a ∈ rows.map fun row => row.entry.node
  distinctBlocks : (rows.map fun row => callbacks.block row.entry.element).Nodup
  cells : ∀ row ∈ rows, f.sensors.cells (callbacks.block row.entry.element) = some row.entry.value
  blocks : ∀ b, f.sensors.cells b ≠ none → b ∈ rows.map fun row => callbacks.block row.entry.element
  shared : Shared f.doubles (rows.map Row.list)

/-- The list and each of its nodes are released once. -/
def ReleasesList (list : Dplist Nat Nat) (released : List (Release Nat)) : Prop :=
  released.Nodup ∧ .list ∈ released ∧ ∀ a, list.heap.cells a ≠ none → .node a ∈ released

/-- Nothing is left of the sensors. -/
structure AllFreed (f : FreedDatamgr K) (rows : List (Row K)) : Prop where
  nodes : ∀ a, f.nodes.cells a = none
  sensors : ∀ b, f.sensors.cells b = none
  doubles : ∀ b, f.doubles.cells b = none
  released : List.Forall₂ (fun row => ReleasesList row.entry.value.temperatures) rows f.released

section Release

variable {callbacks : Callbacks SensorPointer Nat} {p : Ptr} {f : FreedDatamgr K} {row : Row K}

/-- One pass frees the first row. -/
theorem Remaining.pass (h : Remaining callbacks p f (row :: rows)) (fuel : Nat) :
    ∃ f' released, freeLoop callbacks (fuel + 1) (some row.entry.node) f =
        freeLoop callbacks fuel
          (headPtr (rows.map fun row => (row.entry.node, some row.entry.element)) none) f' ∧
      Remaining callbacks (some row.entry.node) f' rows ∧ f'.released = f.released ++ [released] ∧
      ReleasesList row.entry.value.temperatures released := by
  obtain ⟨hnode, hlinks⟩ := h.links
  obtain ⟨hnodeNotMem, hdistinctNodes⟩ := List.nodup_cons.mp h.distinctNodes
  obtain ⟨hblockNotMem, hdistinctBlocks⟩ := List.nodup_cons.mp h.distinctBlocks
  have hcell := h.cells row List.mem_cons_self
  obtain ⟨released, doubles', hfree, hnodup, hlist, hnodes, hdoubles, hshared⟩ := h.shared.free
  have hsensor : sensorFree f.sensors f.doubles (some (callbacks.block row.entry.element)) =
      .ok (f.sensors.erase (callbacks.block row.entry.element), doubles', released) := by
    rw [sensorFree, Heap.load_some hcell, ok_bind, hfree, ok_bind, hdoubles, ok_bind]
    simp [Heap.free, hcell]
  have hfreeNode : f.nodes.free (some row.entry.node) = .ok (f.nodes.erase row.entry.node) := by
    simp [Heap.free, hnode]
  refine ⟨⟨f.nodes.erase row.entry.node,
    f.sensors.erase (callbacks.block row.entry.element), doubles',
    f.released ++ [released]⟩, released, ?_,
      ⟨?_, hdistinctNodes, ?_, hdistinctBlocks, ?_, ?_, hshared⟩, rfl,
    hnodup, hlist, hnodes⟩
  · rw [freeLoop, Heap.load_some hnode, ok_bind]
    dsimp only
    rw [hsensor, ok_bind]
    dsimp only
    rw [hfreeNode, ok_bind]
  · refine hlinks.erase ?_
    rw [List.map_map]
    exact hnodeNotMem
  · intro a ha
    rw [Ne, Heap.erase_eq_none_iff, not_or] at ha
    exact (List.mem_cons.mp (h.nodes a ha.2)).resolve_left ha.1
  · intro row' hmem
    rw [Heap.erase_cells_of_ne, h.cells row' (List.mem_cons_of_mem _ hmem)]
    intro heq
    exact hblockNotMem (List.mem_map.mpr ⟨row', hmem, heq⟩)
  · intro b hb
    rw [Ne, Heap.erase_eq_none_iff, not_or] at hb
    exact (List.mem_cons.mp (h.blocks b hb.2)).resolve_left hb.1

theorem Remaining.freeLoop_spec (h : Remaining callbacks p f rows) {fuel : Nat}
    (hf : rows.length < fuel) :
    ∃ f' released, freeLoop callbacks fuel
        (headPtr (rows.map fun row => (row.entry.node, some row.entry.element)) none) f = .ok f' ∧
      f'.released = f.released ++ released ∧ AllFreed { f' with released := released } rows := by
  induction rows generalizing p f fuel with
  | nil =>
    obtain ⟨fuel, rfl⟩ := Nat.exists_eq_succ_of_ne_zero (by omega : fuel ≠ 0)
    refine ⟨f, [], rfl, (List.append_nil _).symm, ?_, ?_, ?_, List.Forall₂.nil⟩
    · exact fun a => by_contra fun ha => nomatch h.nodes a ha
    · exact fun b => by_contra fun hb => nomatch h.blocks b hb
    · exact fun b => by_contra fun hb => nomatch h.shared.only b hb
  | cons row rows ih =>
    obtain ⟨fuel, rfl⟩ := Nat.exists_eq_succ_of_ne_zero (by omega : fuel ≠ 0)
    rw [List.length_cons] at hf
    obtain ⟨f₁, released, hpass, h₁, hlog₁, hreleases⟩ := h.pass fuel
    obtain ⟨f', rest, hloop, hlog, hfreed⟩ := ih h₁ (by omega : rows.length < fuel)
    refine ⟨f', released :: rest, hpass.trans hloop, ?_, hfreed.nodes, hfreed.sensors,
      hfreed.doubles,
      List.Forall₂.cons hreleases hfreed.released⟩
    rw [hlog, hlog₁, List.append_assoc]
    rfl

end Release

/-- `datamgr_free` frees everything once. -/
theorem Holds.datamgrFree_spec (h : Holds c s rows) :
    ∃ f, datamgrFree s = .ok f ∧ AllFreed f rows := by
  have hchain := h.owned.chain
  have hlinks := hchain.links
  have hnodup := hchain.nodup
  rw [List.map_map] at hlinks hnodup
  rw [List.map_map] at hnodup
  have hlt : rows.length < s.sensorList.fuel := by simpa using hchain.length_lt_fuel
  have hremaining : Remaining s.sensorList.callbacks none
      ⟨s.sensorList.heap, s.sensors, s.doubles, []⟩ rows := by
    refine ⟨hlinks, hnodup, ?_, ?_, ?_, ?_, h.shared⟩
    · intro a ha
      have hmem := h.owned.nodes a ha
      rwa [List.map_map] at hmem
    · have hdistinct := h.owned.distinct
      rwa [List.map_map] at hdistinct
    · exact fun row hmem => h.owned.cells row.entry (List.mem_map_of_mem hmem)
    · intro b hb
      have hmem := h.owned.only b hb
      rwa [List.map_map] at hmem
  obtain ⟨f, released, hloop, hlog, hfreed⟩ := hremaining.freeLoop_spec hlt
  obtain rfl : f.released = released := hlog
  refine ⟨f, ?_, hfreed⟩
  rw [datamgrFree, hchain.head, List.map_map]
  exact hloop

/-! ## Whole runs -/

/-- The `double`s that are allocated, and how many they are. -/
theorem Holds.doubles (h : Holds c s rows) {n : Nat}
    (hle : ∀ sensor ∈ rows.map Row.sensor, sensor.temperatures.length ≤ n) :
    ∃ blocks : List Nat, blocks.Nodup ∧ (∀ b, s.doubles.cells b ≠ none ↔ b ∈ blocks) ∧
      blocks.length ≤ rows.length * n := by
  refine ⟨(rows.map Row.list).flatMap listBlocks, h.shared.distinct,
    fun b => ⟨h.shared.only b, h.shared.cells⟩, ?_⟩
  rw [List.length_flatMap, List.map_map]
  have hsum := List.sum_le_card_nsmul (rows.map ((fun x => (listBlocks x).length) ∘ Row.list)) n
  rw [List.length_map, smul_eq_mul] at hsum
  apply hsum
  intro k hk
  obtain ⟨row, hmem, rfl⟩ := List.mem_map.mp hk
  have hrow := hle row.sensor (List.mem_map_of_mem hmem)
  simpa [listBlocks, Row.list, Row.sensor, LinkedSensor.withTemperatures] using hrow

section Run

variable [Add K] [Sub K] [Mul K] [Div K] [IntCast K] [LT K] [DecidableLT K] {cfg : DatamgrConfig K}

/-- `datamgr_parse_sensor_data` from its map file on. -/
theorem runDatamgr_leads (c : DatamgrMemory K) (cfg : DatamgrConfig K) (sensorBfr : UInt16)
    (junk : Nat → Uninitialised K) (map : List MapToken) (ms : List (SensorData K)) :
    Leads c (runDatamgr c cfg sensorBfr junk map ms)
      (sensorsUpdated cfg (buildSensorList sensorBfr junk map) ms) := by
  obtain ⟨s, rows, hread, h, hrows⟩ := readMap_leads map sensorBfr junk [] (holds_start c) rfl
  rw [runDatamgr, hread, ok_bind]
  refine parseAll_leads h ms ?_
  rw [hrows]
  exact parseAll_eq cfg _ ms

/-- Over the nodes of its lists, whatever the arithmetic on the values, with any allocators, for
    every map file and every sequence of measurements: no pointer that is NULL or was freed is
    dereferenced; the sensor list and the message for each measurement are those of the data manager
    over the sequence of its sensors; the nodes, the sensors and the `double`s that are allocated
    are those of the lists, at most `RUN_AVG_LENGTH` `double`s for each sensor; and `datamgr_free`
    frees each of them once and leaves none. -/
theorem linked_datamgr_refines (c : DatamgrMemory K) (cfg : DatamgrConfig K) (sensorBfr : UInt16)
    (junk : Nat → Uninitialised K) (map : List MapToken) (ms : List (SensorData K)) :
    let initial := buildSensorList sensorBfr junk map
    ∃ s rows, runDatamgr c cfg sensorBfr junk map ms = .ok s ∧ Holds c s rows ∧
      SensorGateway.parseAll cfg initial ms = some (rows.map Row.sensor) ∧
      rows.map Row.sensor = sensorsUpdated cfg initial ms ∧
      (∀ data, ∃ s' rows' message, parseSensorData c cfg data s = .ok (s', message) ∧
        Holds c s' rows' ∧ message = messageAfter cfg initial ms data ∧
        SensorGateway.parseSensorData cfg data (rows.map Row.sensor) =
          some (rows'.map Row.sensor, message) ∧
        rows'.map Row.sensor = sensorsUpdated cfg initial (ms ++ [data])) ∧
      (∃ blocks : List Nat, blocks.Nodup ∧ (∀ b, s.doubles.cells b ≠ none ↔ b ∈ blocks) ∧
        blocks.length ≤ rows.length * cfg.runAvgLength) ∧
      ∃ f, datamgrFree s = .ok f ∧ AllFreed f rows := by
  intro initial
  have hempty : ∀ sensor ∈ initial, sensor.temperatures = [] :=
    readMap_temperatures map sensorBfr junk [] (by simp)
  obtain ⟨s, rows, hrun, h, hrows⟩ := runDatamgr_leads c cfg sensorBfr junk map ms
  refine ⟨s, rows, hrun, h, ?_, hrows, ?_, h.doubles ?_, h.datamgrFree_spec⟩
  · rw [hrows]
    exact parseAll_eq cfg initial ms
  · intro data
    obtain ⟨s', rows', message, hparse, h', hseq⟩ := parseSensorData_leads cfg h data
    have hnext := parseSensorData_sensorsUpdated cfg initial ms data
    rw [← hrows, hseq] at hnext
    obtain ⟨hlist, hmessage⟩ := Prod.mk.inj (Option.some.inj hnext)
    exact ⟨s', rows', message, hparse, h', hmessage, hseq, hlist⟩
  · rw [hrows]
    exact sensorsUpdated_length_temperatures hempty ms

end Run

/-! ## Queries -/

theorem Holds.readSensorLoop_spec (h : Holds c s rows) {α : Type} (sensorId : UInt16)
    (field : LinkedSensor K → α) {fuel k : Nat} (hf : rows.length < fuel + k)
    (hk : k ≤ rows.length) :
    readSensorLoop s sensorId field fuel k = .ok (((rows.drop k).find? fun row =>
      row.entry.value.sensorId = sensorId).map fun row => field row.entry.value) := by
  induction fuel generalizing k with
  | zero => omega
  | succ fuel ih =>
    rw [readSensorLoop, h.owned.size, ok_bind, List.length_map]
    rcases hk.lt_or_eq with hlt | rfl
    · have hrow : (rows.map Row.entry)[k]? = some rows[k].entry := by simp [hlt]
      have hnext : ((k : Int) + 1) = ((k + 1 : Nat) : Int) := rfl
      rw [if_pos (by omega), h.owned.get hrow, ok_bind, h.owned.load hrow, ok_bind,
        List.drop_eq_getElem_cons hlt, List.find?_cons, hnext]
      by_cases hid : rows[k].entry.value.sensorId = sensorId
      · rw [if_pos hid, decide_eq_true hid]
        rfl
      · rw [if_neg hid, decide_eq_false hid]
        exact ih (by omega) (by omega)
    · rw [if_neg (by omega), List.drop_length]
      rfl

theorem Holds.readSensor_spec (h : Holds c s rows) {α : Type} (sensorId : UInt16)
    (field : LinkedSensor K → α) :
    readSensor s sensorId field = .ok ((rows.find? fun row =>
      row.entry.value.sensorId = sensorId).map fun row => field row.entry.value) := by
  have hlt : rows.length < s.sensorList.fuel := by simpa using h.owned.chain.length_lt_fuel
  exact h.readSensorLoop_spec sensorId field (k := 0) hlt (Nat.zero_le _)

/-- A query after a run reads the first entry of the id, as its measurements have left it. -/
theorem Holds.readSensor_updates [Add K] [Sub K] [Mul K] [Div K] [IntCast K] [LT K]
    {cfg : DatamgrConfig K} (h : Holds c s rows) {initial : List (Sensor K)}
    {ms : List (SensorData K)} (hrows : rows.map Row.sensor = sensorsUpdated cfg initial ms)
    {α : Type} (field : LinkedSensor K → α) (value : Sensor K → α)
    (hfield : ∀ row : Row K, field row.entry.value = value row.sensor) (id : UInt16) :
    readSensor s id field = .ok ((firstEntry initial id).bind fun k =>
      initial[k]?.map fun sensor => value (sensor.updates cfg (history id ms))) := by
  have hmap : ((rows.find? fun row => row.entry.value.sensorId = id).map fun row =>
      field row.entry.value) =
      ((rows.map Row.sensor).find? fun sensor => sensor.sensorId = id).map value := by
    rw [List.find?_map, Option.map_map]
    exact Option.map_congr fun row _ => hfield row
  have hfirst : (sensorsUpdated cfg initial ms).findIdx? (fun sensor => sensor.sensorId = id) =
      firstEntry initial id := firstEntry_sensorsUpdated cfg initial ms id
  rw [h.readSensor_spec, hmap, hrows, List.find?_eq_bind_findIdx?_getElem?, hfirst]
  cases hk : firstEntry initial id with
  | none => rfl
  | some k =>
    obtain ⟨hlt, -⟩ := firstEntry_eq_some hk
    have hsensor : initial[k]? = some initial[k] := List.getElem?_eq_getElem hlt
    rw [Option.bind_some, Option.bind_some, sensorsUpdated_getElem? cfg hk hsensor, hsensor]
    rfl

/-- After any run, with any allocators and exact arithmetic, the queries find the first entry of an
    id: its room, the mean over its window and the time of its latest measurement. For an id that is
    not in the map file they exit. -/
theorem queries_after_run (c : DatamgrMemory) (cfg : DatamgrConfig) (sensorBfr : UInt16)
    (junk : Nat → Uninitialised) (map : List MapToken) (ms : List SensorData) :
    let initial := buildSensorList sensorBfr junk map
    ∃ s, runDatamgr c cfg sensorBfr junk map ms = .ok s ∧
      datamgrGetTotalSensors s = .ok (initial.length : Int) ∧
      ∀ id,
        (firstEntry initial id = none → datamgrGetRoomId s id = .ok none ∧
          datamgrGetAvg s id = .ok none ∧ datamgrGetLastModified s id = .ok none) ∧
        ∀ k sensor, firstEntry initial id = some k → initial[k]? = some sensor →
          datamgrGetRoomId s id = .ok (some sensor.roomId) ∧
          ∀ data older, history id ms = data :: older →
            datamgrGetAvg s id = .ok (some (SlidingMean.mean (lastValues cfg (data :: older)))) ∧
            datamgrGetLastModified s id = .ok (some data.ts) := by
  intro initial
  have hempty : ∀ sensor ∈ initial, sensor.temperatures = [] :=
    readMap_temperatures map sensorBfr junk [] (by simp)
  obtain ⟨s, rows, hrun, h, hrows⟩ := runDatamgr_leads c cfg sensorBfr junk map ms
  have hlength : (rows.map Row.entry).length = initial.length := by
    rw [List.length_map, ← List.length_map (f := Row.sensor), hrows, sensorsUpdated_length]
  have hroom := h.readSensor_updates hrows LinkedSensor.roomId Sensor.roomId (fun _ => rfl)
  have havg := h.readSensor_updates hrows LinkedSensor.runningAvg Sensor.runningAvg (fun _ => rfl)
  have hlast := h.readSensor_updates hrows LinkedSensor.lastModified Sensor.lastModified
    (fun _ => rfl)
  refine ⟨s, hrun, by rw [datamgrGetTotalSensors, h.owned.size, hlength], ?_⟩
  intro id
  rw [datamgrGetRoomId, datamgrGetAvg, datamgrGetLastModified, hroom, havg, hlast]
  constructor
  · intro hnone
    rw [hnone]
    exact ⟨rfl, rfl, rfl⟩
  · intro k sensor hk hsensor
    have hnil := hempty sensor (List.mem_of_getElem? hsensor)
    rw [hk, Option.bind_some, Option.bind_some, Option.bind_some, hsensor]
    refine ⟨?_, ?_⟩
    · rw [Option.map_some, Sensor.updates_roomId]
    · intro data older hhistory
      rw [hhistory, Option.map_some, Option.map_some, Sensor.updates_eq_afterHistory hnil]
      exact ⟨rfl, rfl⟩

/-- No block of the lists is copied, and `dpl_free` frees no element through a callback. -/
def sampleDatamgrMemory : DatamgrMemory :=
  ⟨.bump, .bump, .bump, .bump, ⟨id, fun e => (e, []), fun _ _ => 0, SensorPointer.block⟩,
    ⟨id, fun e => (e, []), fun _ _ => 0, id⟩⟩

/-- Two sensors, of which one has sent two measurements. -/
theorem queries_after_run_sample : ∃ s,
    runDatamgr sampleDatamgrMemory .makefile 0 (fun _ => ⟨7, 7⟩)
      [.number 1, .number 15, .number 2, .number 21] [⟨15, 18, 100⟩, ⟨15, 20, 130⟩] = .ok s ∧
    datamgrGetTotalSensors s = .ok 2 ∧ datamgrGetRoomId s 21 = .ok (some 2) ∧
    datamgrGetAvg s 15 = .ok (some 19) ∧ datamgrGetLastModified s 15 = .ok (some 130) ∧
    datamgrGetAvg s 37 = .ok none := by
  obtain ⟨s, hrun, htotal, hqueries⟩ := queries_after_run sampleDatamgrMemory .makefile 0
    (fun _ => ⟨7, 7⟩) [.number 1, .number 15, .number 2, .number 21] [⟨15, 18, 100⟩, ⟨15, 20, 130⟩]
  obtain ⟨-, hfirst⟩ := (hqueries 15).2 0 _ rfl rfl
  obtain ⟨havg, hlast⟩ := hfirst _ _ rfl
  obtain ⟨hroom, -⟩ := (hqueries 21).2 1 _ rfl rfl
  refine ⟨s, hrun, htotal, hroom, havg.trans ?_, hlast, ((hqueries 37).1 rfl).2.1⟩
  rw [show SlidingMean.mean (lastValues .makefile [⟨15, 20, 130⟩, ⟨15, 18, 100⟩]) = 19 by
    norm_num [SlidingMean.mean, lastValues, SlidingMean.window, DatamgrConfig.makefile]]

end LinkedDatamgr

end SensorGateway
