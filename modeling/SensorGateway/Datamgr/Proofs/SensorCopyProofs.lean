import SensorGateway.Datamgr.SensorCopy
import SensorGateway.Datamgr.Proofs.LinkedDatamgrProofs

/-!
# What `sensor_copy` copies

The copy always gets `RUN_AVG_LENGTH` temperatures, the last one repeated, and they are the blocks
of the sensor. An update of a full list reads and releases its last block. Where the sensor and the
copy, or the copy alone, hold this block a second time, the next update that comes to it reads a
stale pointer: it faults, or it finds the value just measured there and leaves the average as it
was.
-/

namespace SensorGateway

open PtrHeap DoublyLinked

namespace LinkedDatamgr

/-! ## Lists of pointers -/

/-- The list holds these pointers. -/
structure PointsTo (list : Dplist Nat Nat) (ps : List Ptr) : Prop where
  block : list.callbacks.block = id
  chain : ∃ xs : Nodes Nat, IsChain list xs ∧ xs.map Prod.snd = ps

section Pointers

variable {list : Dplist Nat Nat} {ps qs : List Ptr} {p : Ptr} {k : Nat}

theorem PointsTo.create {K : Type} (c : DatamgrMemory K) : PointsTo c.createTemperatures [] :=
  ⟨rfl, [], isChain_dplCreate _, rfl⟩

theorem PointsTo.of_boxed {K : Type} {memory : Heap K} {entries : List (Entry Nat K)}
    (h : Boxed list memory entries) (hblock : list.callbacks.block = id) :
    PointsTo list (entries.map fun x => some x.element) :=
  ⟨hblock, _, h.chain, by rw [List.map_map]; rfl⟩

theorem cells_of_boxed {K : Type} {memory : Heap K} {entries : List (Entry Nat K)}
    (h : Boxed list memory entries) (hblock : list.callbacks.block = id) :
    ∀ x ∈ entries, memory.cells x.element = some x.value := by
  intro x hx
  have hcell := h.cells x hx
  rwa [hblock] at hcell

theorem PointsTo.insert (h : PointsTo list ps) (m : Allocator (Node Ptr)) (p : Ptr) (i : Int) :
    ∃ list', dplInsertAtIndex m list p i false = .ok list' ∧
      PointsTo list' (seqInsertAtIndex ps i p) := by
  obtain ⟨xs, hchain, rfl⟩ := h.chain
  obtain ⟨list', hinsert, hchain', hcb⟩ := dplInsertAtIndex_spec m hchain p i false
  exact ⟨list', hinsert, by rw [hcb, h.block], _, hchain', map_seqInsertAtIndex _ _ _ _⟩

theorem PointsTo.size (h : PointsTo list ps) : dplSize list = .ok (ps.length : Int) := by
  obtain ⟨xs, hchain, rfl⟩ := h.chain
  rw [dplSize_spec hchain, List.length_map]

theorem PointsTo.get (h : PointsTo list ps) (i : Int) :
    dplGetElementAtIndex list i = .ok (seqGetElementAtIndex ps i).join := by
  obtain ⟨xs, hchain, rfl⟩ := h.chain
  exact dplGetElementAtIndex_spec hchain i

theorem PointsTo.pointer (h : PointsTo list ps) (p : Ptr) : list.pointer p = p := by
  rw [Dplist.pointer, h.block, Option.map_id, id]

theorem PointsTo.remove {K : Type} (h : PointsTo list ps) (memory : Heap K) {b : Nat}
    (hk : ps[k]? = some (some b)) :
    ∃ list', PointsTo list' (ps.eraseIdx k) ∧ removeBoxed list memory k = (do
      let memory' ← memory.free (some b)
      .ok (list', memory')) := by
  obtain ⟨xs, hchain, rfl⟩ := h.chain
  rw [List.getElem?_map] at hk
  obtain ⟨⟨a, e⟩, hnode, rfl⟩ := Option.map_eq_some_iff.mp hk
  obtain ⟨list', hchain', hcb, -, hr⟩ := removeBoxed_of_chain memory hchain hnode
  refine ⟨list', ⟨by rw [hcb, h.block], _, hchain', (List.eraseIdx_map _ _ _).symm⟩, ?_⟩
  rw [hr, h.block]
  rfl

/-- The last element of a full list, behind the one that an update puts in front of it. -/
theorem atIndex_concat {n : Nat} (q p : Ptr) (hn : n = ps.length + 1) :
    seqGetElementAtIndex (q :: (ps ++ [p])) n = some p ∧
      (q :: (ps ++ [p]))[n]? = some p ∧ (q :: (ps ++ [p])).eraseIdx n = q :: ps := by
  subst hn
  obtain ⟨hget, herase⟩ := atIndex_last q ps p
  refine ⟨?_, hget, herase⟩
  rw [seqGetElementAtIndex_of_lt (by simp), ← List.getElem?_eq_getElem, hget]

/-! ## The copy -/

/-- What the loop of `sensor_copy` reads. -/
def copied (ps : List Ptr) (n : Nat) : List Ptr :=
  (List.range n).map fun i => (seqGetElementAtIndex ps (i : Nat)).join

theorem copied_length (ps : List Ptr) (n : Nat) : (copied ps n).length = n := by
  rw [copied, List.length_map, List.length_range]

/-- Behind its last element the list is read as this element. -/
theorem copied_concat (qs : List Ptr) (p : Ptr) (k : Nat) :
    copied (qs ++ [p]) (qs.length + 1 + k) = qs ++ List.replicate (k + 1) p := by
  refine List.ext_getElem (by rw [copied_length]; simp; omega) ?_
  intro j hj _
  simp only [copied, List.getElem_map, List.getElem_range]
  rw [seqGetElementAtIndex, clampIndex, Int.toNat_natCast]
  by_cases hlt : j < qs.length
  · have hmin : min j ((qs ++ [p]).length - 1) = j := by
      simp
      omega
    rw [hmin, List.getElem?_append_left hlt, List.getElem_append_left hlt,
      List.getElem?_eq_getElem hlt]
    rfl
  · have hmin : min j ((qs ++ [p]).length - 1) = qs.length := by
      simp
      omega
    rw [hmin, List.getElem?_concat_length, List.getElem_append_right (by omega),
      List.getElem_replicate]
    rfl

/-- As many reads as there are elements read the list as it is. -/
theorem copied_self (ps : List Ptr) : copied ps ps.length = ps := by
  rcases List.eq_nil_or_concat ps with rfl | ⟨qs, p, rfl⟩
  · rfl
  · rw [List.concat_eq_append, List.length_append, List.length_singleton]
    exact copied_concat qs p 0

/-- Of an empty list NULL is read. -/
theorem copied_nil (n : Nat) : copied [] (n + 1) = List.replicate n none ++ [none] := by
  rw [← List.replicate_succ']
  refine List.eq_replicate_iff.mpr ⟨copied_length _ _, ?_⟩
  intro p hp
  obtain ⟨i, -, rfl⟩ := List.mem_map.mp hp
  rfl

variable {K : Type}

theorem foldlM_copyTemperature (c : DatamgrMemory K) (h : PointsTo list ps) (n : Nat) :
    ∃ list', (List.range n).foldlM (copyTemperature c list) c.createTemperatures = .ok list' ∧
      PointsTo list' (copied ps n) := by
  induction n with
  | zero => exact ⟨_, rfl, PointsTo.create c⟩
  | succ n ih =>
    obtain ⟨list₁, hloop, hps₁⟩ := ih
    obtain ⟨list₂, hinsert, hps₂⟩ :=
      hps₁.insert c.temperatureNodes (seqGetElementAtIndex ps (n : Nat)).join n
    have hlast : clampIndex (n : Nat) (copied ps n).length = (copied ps n).length := by
      rw [copied_length, clampIndex, Int.toNat_natCast, Nat.min_self]
    refine ⟨list₂, ?_, ?_⟩
    · rw [List.range_succ, List.foldlM_append, hloop, ok_bind, List.foldlM_cons, copyTemperature,
        h.get, ok_bind, hinsert, ok_bind]
      rfl
    · rw [seqInsertAtIndex, hlast, List.insertIdx_length_self] at hps₂
      rwa [copied, List.range_succ, List.map_append]

theorem sensorCopy_spec [LT K] (c : DatamgrMemory K) (cfg : DatamgrConfig K) (junk : K)
    {sensor : LinkedSensor K} (h : PointsTo sensor.temperatures ps) :
    ∃ temperatures, sensorCopy c cfg junk sensor =
        .ok ⟨sensor.sensorId, sensor.roomId, junk, sensor.lastModified, temperatures⟩ ∧
      PointsTo temperatures (copied ps cfg.runAvgLength) := by
  obtain ⟨temperatures, hloop, hps⟩ := foldlM_copyTemperature c h cfg.runAvgLength
  refine ⟨temperatures, ?_, hps⟩
  rw [sensorCopy, hloop, ok_bind]

/-! ## Reading -/

theorem readTemperatures_eq (doubles : Heap K) (h : PointsTo list ps) :
    readTemperatures doubles list = ps.mapM doubles.load := by
  have hpass : ∀ j : Nat, (do
      let element ← dplGetElementAtIndex list j
      doubles.load (list.pointer element)) = doubles.load (seqGetElementAtIndex ps j).join := by
    intro j
    rw [h.get, ok_bind, h.pointer]
  rw [readTemperatures, h.size, ok_bind, Int.toNat_natCast]
  simp only [hpass]
  conv_rhs => rw [← copied_self ps, copied, List.mapM_map]
  rfl

theorem length_of_mapM_load {doubles : Heap K} {vs : List K} (h : ps.mapM doubles.load = .ok vs) :
    vs.length = ps.length := by
  induction ps generalizing vs with
  | nil =>
    obtain rfl := Except.ok.inj h
    rfl
  | cons p ps ih =>
    rw [List.mapM_cons] at h
    obtain ⟨v, -, h⟩ := bind_eq_ok h
    obtain ⟨vs', htail, h⟩ := bind_eq_ok h
    obtain rfl := Except.ok.inj h
    rw [List.length_cons, List.length_cons, ih htail]

theorem mapM_load_entries (doubles : Heap K) {entries : List (Entry Nat K)}
    (hcells : ∀ x ∈ entries, doubles.cells x.element = some x.value) :
    (entries.map fun x => some x.element).mapM doubles.load = .ok (entries.map Entry.value) := by
  induction entries with
  | nil => rfl
  | cons x entries ih =>
    have htail := ih fun y hy => hcells y (List.mem_cons_of_mem _ hy)
    rw [List.map_cons, List.mapM_cons, Heap.load_some (hcells x List.mem_cons_self), ok_bind, htail,
      ok_bind]
    rfl

end Pointers

/-! ## The update -/

section Update

variable {K : Type} [Add K] [Sub K] [Mul K] [Div K] [IntCast K] [LT K] {sensor : LinkedSensor K}
  {ps : List Ptr} {b : Nat}

/-- The calls of an update up to its test of the size. -/
theorem updateSensor_of_insert (c : DatamgrMemory K) (cfg : DatamgrConfig K) (data : SensorData K)
    (doubles : Heap K) {temperatures : Dplist Nat Nat}
    (hinsert : dplInsertAtIndex c.temperatureNodes sensor.temperatures
      (some (c.doubles.malloc doubles)) (-1) false = .ok temperatures)
    (h : PointsTo temperatures (some (c.doubles.malloc doubles) :: ps)) :
    updateSensor c cfg data doubles sensor =
      (if ((ps.length + 1 : Nat) : Int) ≤ cfg.runAvgLength then
        .ok ({ sensor with
          temperatures := temperatures
          runningAvg := fillingAvg sensor.runningAvg data.value (ps.length + 1 : Nat)
          lastModified := data.ts }, doubles.write (c.doubles.malloc doubles) data.value)
      else do
        let remove ← (doubles.write (c.doubles.malloc doubles) data.value).load
          (seqGetElementAtIndex (some (c.doubles.malloc doubles) :: ps) cfg.runAvgLength).join
        let (temperatures, memory) ← removeBoxed temperatures
          (doubles.write (c.doubles.malloc doubles) data.value) cfg.runAvgLength
        .ok ({ sensor with
          temperatures := temperatures
          runningAvg := slidingAvg sensor.runningAvg remove data.value (ps.length + 1 : Nat)
          lastModified := data.ts }, memory)) := by
  have hfirst : seqGetElementAtIndex (some (c.doubles.malloc doubles) :: ps) 0 =
      some (some (c.doubles.malloc doubles)) := seqGetElementAtIndex_of_lt (k := 0) (by simp)
  rw [updateSensor, hinsert, ok_bind, h.size, ok_bind, h.get, ok_bind, h.pointer, hfirst,
    Option.join_some, Heap.load_some Heap.write_cells_self, ok_bind, h.get, ok_bind, h.pointer]
  rfl

/-- While the list fills, nothing is read but the new value. -/
theorem updateSensor_fills (c : DatamgrMemory K) (cfg : DatamgrConfig K) (data : SensorData K)
    (doubles : Heap K) (h : PointsTo sensor.temperatures ps) (hlt : ps.length < cfg.runAvgLength) :
    ∃ temperatures, PointsTo temperatures (some (c.doubles.malloc doubles) :: ps) ∧
      updateSensor c cfg data doubles sensor = .ok ({ sensor with
        temperatures := temperatures
        runningAvg := fillingAvg sensor.runningAvg data.value (ps.length + 1 : Nat)
        lastModified := data.ts }, doubles.write (c.doubles.malloc doubles) data.value) := by
  obtain ⟨temperatures, hinsert, hadded⟩ :=
    h.insert c.temperatureNodes (some (c.doubles.malloc doubles)) (-1)
  rw [seqInsertAtIndex_of_nonpos (by omega)] at hadded
  refine ⟨temperatures, hadded, ?_⟩
  rw [updateSensor_of_insert c cfg data doubles hinsert hadded]
  exact if_pos (by exact_mod_cast hlt)

/-- On a full list the last block is read and released. -/
theorem updateSensor_slides (c : DatamgrMemory K) (cfg : DatamgrConfig K) (data : SensorData K)
    (doubles : Heap K) (h : PointsTo sensor.temperatures (ps ++ [some b]))
    (hlength : cfg.runAvgLength = ps.length + 1) :
    ∃ temperatures, PointsTo temperatures (some (c.doubles.malloc doubles) :: ps) ∧
      updateSensor c cfg data doubles sensor = (do
        let remove ← (doubles.write (c.doubles.malloc doubles) data.value).load (some b)
        let memory ← (doubles.write (c.doubles.malloc doubles) data.value).free (some b)
        .ok ({ sensor with
          temperatures := temperatures
          runningAvg := slidingAvg sensor.runningAvg remove data.value (cfg.runAvgLength + 1 : Nat)
          lastModified := data.ts }, memory)) := by
  obtain ⟨list₁, hinsert, hadded⟩ :=
    h.insert c.temperatureNodes (some (c.doubles.malloc doubles)) (-1)
  rw [seqInsertAtIndex_of_nonpos (by omega)] at hadded
  obtain ⟨hlast, hget, herase⟩ := atIndex_concat (some (c.doubles.malloc doubles)) (some b) hlength
  obtain ⟨temperatures, hremoved, hr⟩ :=
    hadded.remove (doubles.write (c.doubles.malloc doubles) data.value) hget
  rw [herase] at hremoved
  refine ⟨temperatures, hremoved, ?_⟩
  rw [updateSensor_of_insert c cfg data doubles hinsert hadded]
  dsimp only
  rw [List.length_append, List.length_singleton, ← hlength, if_neg (by omega), hlast,
    Option.join_some, hr]
  cases (doubles.write (c.doubles.malloc doubles) data.value).free (some b) <;> rfl

/-- A NULL element at the end of a full list is dereferenced. -/
theorem updateSensor_null (c : DatamgrMemory K) (cfg : DatamgrConfig K) (data : SensorData K)
    (doubles : Heap K) (h : PointsTo sensor.temperatures (ps ++ [none]))
    (hlength : cfg.runAvgLength = ps.length + 1) :
    updateSensor c cfg data doubles sensor = .error .nullDeref := by
  obtain ⟨list₁, hinsert, hadded⟩ :=
    h.insert c.temperatureNodes (some (c.doubles.malloc doubles)) (-1)
  rw [seqInsertAtIndex_of_nonpos (by omega)] at hadded
  obtain ⟨hlast, -, -⟩ := atIndex_concat (some (c.doubles.malloc doubles)) none hlength
  rw [updateSensor_of_insert c cfg data doubles hinsert hadded]
  dsimp only
  rw [List.length_append, List.length_singleton, ← hlength, if_neg (by omega), hlast]
  rfl

end Update

/-! ## Both in one memory -/

section Averages

variable {c : DatamgrMemory} {cfg : DatamgrConfig} {doubles : Heap ℚ}
  {first second sensor copy : LinkedSensor} {ps qs bs : List Ptr} {p q : Ptr} {b : Nat} {y : ℚ}

theorem AveragesAgree.runningAvg (h : AveragesAgree c cfg doubles first second) :
    first.runningAvg = second.runningAvg := by
  obtain ⟨avg, havg⟩ := h []
  obtain ⟨rfl, h⟩ := Prod.mk.inj (Except.ok.inj havg)
  exact h.symm

theorem averagesAfter_cons {data : SensorData} {first' second' : LinkedSensor}
    {memory doubles' : Heap ℚ}
    (hfirst : updateSensor c cfg data doubles first = .ok (first', memory))
    (hsecond : updateSensor c cfg data memory second = .ok (second', doubles'))
    (ms : List SensorData) :
    averagesAfter c cfg doubles first second (data :: ms) =
      averagesAfter c cfg doubles' first' second' ms := by
  rw [averagesAfter, hfirst, ok_bind]
  dsimp only
  rw [hsecond, ok_bind]

theorem AveragesAgree.step (h : AveragesAgree c cfg doubles first second) (data : SensorData) :
    ∃ first' second' memory doubles', updateSensor c cfg data doubles first = .ok (first', memory) ∧
      updateSensor c cfg data memory second = .ok (second', doubles') ∧
      AveragesAgree c cfg doubles' first' second' := by
  obtain ⟨avg, havg⟩ := h [data]
  obtain ⟨⟨first', memory⟩, hfirst, hrest⟩ := bind_eq_ok havg
  obtain ⟨⟨second', doubles'⟩, hsecond, -⟩ := bind_eq_ok hrest
  refine ⟨first', second', memory, doubles', hfirst, hsecond, fun ms => ?_⟩
  obtain ⟨avg', havg'⟩ := h (data :: ms)
  rw [averagesAfter_cons hfirst hsecond] at havg'
  exact ⟨avg', havg'⟩

/-- On a full list the last block is allocated, as it is for a sensor of the data manager. -/
theorem updateSensor_full (c : DatamgrMemory) (cfg : DatamgrConfig) (data : SensorData)
    (h : PointsTo sensor.temperatures (ps ++ [some b])) (hlength : cfg.runAvgLength = ps.length + 1)
    (hb : doubles.cells b = some y) :
    ∃ sensor', updateSensor c cfg data doubles sensor =
        .ok (sensor', (doubles.write (c.doubles.malloc doubles) data.value).erase b) ∧
      PointsTo sensor'.temperatures (some (c.doubles.malloc doubles) :: ps) ∧
      sensor'.runningAvg =
        (cfg.runAvgLength * sensor.runningAvg - y + data.value) / cfg.runAvgLength := by
  obtain ⟨temperatures, hps, hr⟩ := updateSensor_slides c cfg data doubles h hlength
  have hne : b ≠ c.doubles.malloc doubles := by
    rintro rfl
    rw [c.doubles.malloc_unused] at hb
    cases hb
  have hwrite : (doubles.write (c.doubles.malloc doubles) data.value).cells b = some y := by
    rw [Heap.write_cells_of_ne hne, hb]
  have hfree : (doubles.write (c.doubles.malloc doubles) data.value).free (some b) =
      .ok ((doubles.write (c.doubles.malloc doubles) data.value).erase b) := by
    simp [Heap.free, hwrite]
  rw [Heap.load_some hwrite, ok_bind, hfree, ok_bind] at hr
  exact ⟨_, hr, hps, slidingAvg_succ _ _ _ _⟩

/-- When the last block was released before, the update faults, or the block is the one that was
    just allocated and its value takes itself out. -/
theorem updateSensor_stale {data : SensorData} {sensor' : LinkedSensor} {doubles' : Heap ℚ}
    (h : PointsTo sensor.temperatures (ps ++ [some b])) (hlength : cfg.runAvgLength = ps.length + 1)
    (hb : doubles.cells b = none)
    (hr : updateSensor c cfg data doubles sensor = .ok (sensor', doubles')) :
    PointsTo sensor'.temperatures (some b :: ps) ∧ sensor'.runningAvg = sensor.runningAvg ∧
      doubles'.cells = doubles.cells := by
  obtain ⟨temperatures, hps, hupdate⟩ := updateSensor_slides c cfg data doubles h hlength
  rw [hupdate] at hr
  obtain ⟨remove, hload, hr⟩ := bind_eq_ok hr
  obtain ⟨memory, hfree, hr⟩ := bind_eq_ok hr
  obtain rfl : c.doubles.malloc doubles = b := by
    by_contra hne
    simp [Heap.load, Heap.write_cells_of_ne (Ne.symm hne), hb] at hload
  rw [Heap.load_some Heap.write_cells_self] at hload
  obtain rfl := Except.ok.inj hload
  obtain rfl := Heap.eq_erase_of_free hfree
  obtain ⟨rfl, rfl⟩ := Prod.mk.inj (Except.ok.inj hr)
  have hne : (cfg.runAvgLength : ℚ) ≠ 0 := by exact_mod_cast cfg.runAvgLength_pos.ne'
  refine ⟨hps, ?_, Heap.write_erase_cells hb _⟩
  show slidingAvg sensor.runningAvg data.value data.value (cfg.runAvgLength + 1 : Nat) = _
  rw [slidingAvg_succ, sub_add_cancel, mul_div_cancel_left₀ _ hne]

/-- Two full lists with the same last block: the first update releases it, and the second one does
    not see the measurement. -/
theorem not_averagesAgree_of_last (hfirst : PointsTo first.temperatures (ps ++ [some b]))
    (hsecond : PointsTo second.temperatures (qs ++ [some b]))
    (hps : cfg.runAvgLength = ps.length + 1) (hqs : cfg.runAvgLength = qs.length + 1)
    (hb : doubles.cells b = some y) : ¬ AveragesAgree c cfg doubles first second := by
  intro h
  have havg := h.runningAvg
  obtain ⟨first', second', memory, doubles', hr₁, hr₂, h'⟩ := h.step ⟨0, y + 1, 0⟩
  obtain ⟨first'', hr₁', -, havg₁⟩ := updateSensor_full c cfg ⟨0, y + 1, 0⟩ hfirst hps hb
  obtain ⟨rfl, rfl⟩ := Prod.mk.inj (Except.ok.inj (hr₁.symm.trans hr₁'))
  obtain ⟨-, havg₂, -⟩ := updateSensor_stale hsecond hqs (by simp [Heap.erase]) hr₂
  have hne : (cfg.runAvgLength : ℚ) ≠ 0 := by exact_mod_cast cfg.runAvgLength_pos.ne'
  have heq := h'.runningAvg
  rw [havg₁, havg₂, ← havg] at heq
  field_simp at heq
  linarith

/-- Two full lists with the same last two blocks, of which the last one is stale: the update of both
    goes wrong in the same way, but then the block before is the last. -/
theorem not_averagesAgree_of_stale {b' : Nat}
    (hfirst : PointsTo first.temperatures (p :: (bs ++ [some b']) ++ [some b]))
    (hsecond : PointsTo second.temperatures (q :: (bs ++ [some b']) ++ [some b]))
    (hlength : cfg.runAvgLength = bs.length + 3) (hb : doubles.cells b = none)
    (hb' : doubles.cells b' = some y) : ¬ AveragesAgree c cfg doubles first second := by
  intro h
  have hlength' : ∀ p : Ptr, cfg.runAvgLength = (p :: (bs ++ [some b'])).length + 1 := by
    intro p
    simp [hlength]
  obtain ⟨first', second', memory, doubles', hr₁, hr₂, h'⟩ := h.step ⟨0, 0, 0⟩
  obtain ⟨hfirst', -, hcells₁⟩ := updateSensor_stale hfirst (hlength' p) hb hr₁
  obtain ⟨hsecond', -, hcells₂⟩ := updateSensor_stale hsecond (hlength' q) (by rw [hcells₁, hb]) hr₂
  have hkept : doubles'.cells b' = some y := by rw [hcells₂, hcells₁, hb']
  exact @not_averagesAgree_of_last _ _ _ _ _ (some b :: p :: bs) (some b :: q :: bs) _ _ hfirst'
    hsecond' (by simp [hlength]) (by simp [hlength]) hkept h'

/-- A block that is allocated stays, unless it is the one that is released. -/
theorem cells_of_update {memory : Heap ℚ} {b' : Nat} (v : ℚ) (hne : b' ≠ b)
    (hb' : memory.cells b' ≠ none) :
    (memory.write (c.doubles.malloc memory) v).cells b' = memory.cells b' ∧
      ((memory.write (c.doubles.malloc memory) v).erase b).cells b' = memory.cells b' := by
  have hnew : b' ≠ c.doubles.malloc memory := by
    rintro rfl
    exact hb' (c.doubles.malloc_unused memory)
  rw [Heap.erase_cells_of_ne hne]
  exact ⟨Heap.write_cells_of_ne hnew, Heap.write_cells_of_ne hnew⟩

/-- One measurement for a sensor whose list is not full and for a copy whose list ends in the last
    block of the sensor's, in either order. -/
theorem step_of_short (hsensor : PointsTo sensor.temperatures (bs ++ [some b]))
    (hlt : bs.length + 1 < cfg.runAvgLength) (hcopy : PointsTo copy.temperatures (qs ++ [some b]))
    (hlength : cfg.runAvgLength = qs.length + 1) (hb : doubles.cells b = some y) (data : SensorData)
    (h : AveragesAgree c cfg doubles sensor copy ∨ AveragesAgree c cfg doubles copy sensor) :
    ∃ sensor' copy' doubles' p q, PointsTo sensor'.temperatures (some p :: (bs ++ [some b])) ∧
      PointsTo copy'.temperatures (some q :: qs) ∧
      (AveragesAgree c cfg doubles' sensor' copy' ∨ AveragesAgree c cfg doubles' copy' sensor') ∧
      (sensor.runningAvg * (bs.length + 1 : Nat) + data.value) / ((bs.length + 1 : Nat) + 1) =
        (cfg.runAvgLength * copy.runningAvg - y + data.value) / cfg.runAvgLength ∧
      ∀ b', b' ≠ b → doubles.cells b' ≠ none → doubles'.cells b' = doubles.cells b' := by
  have hfills : (bs ++ [some b]).length < cfg.runAvgLength := by simpa using hlt
  have havg : fillingAvg sensor.runningAvg data.value ((bs ++ [some b]).length + 1 : Nat) =
      (sensor.runningAvg * (bs.length + 1 : Nat) + data.value) / ((bs.length + 1 : Nat) + 1) := by
    rw [fillingAvg_succ, List.length_append, List.length_singleton]
  rcases h with h | h
  · obtain ⟨sensor', copy', memory, doubles', hr₁, hr₂, h'⟩ := h.step data
    obtain ⟨temperatures, hps, hr₁'⟩ := updateSensor_fills c cfg data doubles hsensor hfills
    obtain ⟨rfl, rfl⟩ := Prod.mk.inj (Except.ok.inj (hr₁.symm.trans hr₁'))
    have hb₁ : (doubles.write (c.doubles.malloc doubles) data.value).cells b = some y := by
      rw [Heap.write_cells_of_ne, hb]
      rintro rfl
      rw [c.doubles.malloc_unused] at hb
      cases hb
    obtain ⟨copy'', hr₂', hqs, havg₂⟩ := updateSensor_full c cfg data hcopy hlength hb₁
    obtain ⟨rfl, rfl⟩ := Prod.mk.inj (Except.ok.inj (hr₂.symm.trans hr₂'))
    refine ⟨_, _, _, _, _, hps, hqs, .inl h', ?_, ?_⟩
    · rw [← havg]
      exact h'.runningAvg.trans havg₂
    · intro b' hne hb'
      obtain ⟨hkept, -⟩ := cells_of_update (c := c) data.value hne hb'
      obtain ⟨-, hkept'⟩ := cells_of_update (c := c) data.value hne (hkept ▸ hb')
      exact hkept'.trans hkept
  · obtain ⟨copy', sensor', memory, doubles', hr₁, hr₂, h'⟩ := h.step data
    obtain ⟨copy'', hr₁', hqs, havg₁⟩ := updateSensor_full c cfg data hcopy hlength hb
    obtain ⟨rfl, rfl⟩ := Prod.mk.inj (Except.ok.inj (hr₁.symm.trans hr₁'))
    obtain ⟨temperatures, hps, hr₂'⟩ := updateSensor_fills c cfg data _ hsensor hfills
    obtain ⟨rfl, rfl⟩ := Prod.mk.inj (Except.ok.inj (hr₂.symm.trans hr₂'))
    refine ⟨_, _, _, _, _, hps, hqs, .inr h', ?_, ?_⟩
    · rw [← havg]
      exact h'.runningAvg.symm.trans havg₁
    · intro b' hne hb'
      obtain ⟨-, hkept⟩ := cells_of_update (c := c) data.value hne hb'
      obtain ⟨hkept', -⟩ := cells_of_update (c := c) data.value hne (hkept ▸ hb')
      exact hkept'.trans hkept

/-- The copy of an empty list holds NULL. -/
theorem not_averagesAgree_of_null (hcopy : PointsTo copy.temperatures (qs ++ [none]))
    (hlength : cfg.runAvgLength = qs.length + 1) :
    ¬ (AveragesAgree c cfg doubles sensor copy ∨ AveragesAgree c cfg doubles copy sensor) := by
  rintro (h | h)
  · obtain ⟨sensor', copy', memory, doubles', -, hr, -⟩ := h.step ⟨0, 0, 0⟩
    rw [updateSensor_null c cfg _ memory hcopy hlength] at hr
    cases hr
  · obtain ⟨copy', sensor', memory, doubles', hr, -, -⟩ := h.step ⟨0, 0, 0⟩
    rw [updateSensor_null c cfg _ doubles hcopy hlength] at hr
    cases hr

/-- The copy of a list that is one temperature short of full. -/
theorem not_averagesAgree_of_one_short {b' : Nat} {y' : ℚ}
    (hsensor : PointsTo sensor.temperatures (bs ++ [some b'] ++ [some b]))
    (hcopy : PointsTo copy.temperatures (bs ++ [some b', some b] ++ [some b]))
    (hlength : cfg.runAvgLength = bs.length + 3) (hb : doubles.cells b = some y)
    (hb' : doubles.cells b' = some y') (hne : b' ≠ b) :
    ¬ (AveragesAgree c cfg doubles sensor copy ∨ AveragesAgree c cfg doubles copy sensor) := by
  intro h
  obtain ⟨sensor', copy', doubles', p, q, hsensor', hcopy', h', -, hkept⟩ :=
    step_of_short hsensor (by simp [hlength]) hcopy (by simp [hlength]) hb ⟨0, 0, 0⟩ h
  have hkept' : doubles'.cells b' = some y' := by rw [hkept b' hne (by simp [hb']), hb']
  have hcopy'' : PointsTo copy'.temperatures (some q :: (bs ++ [some b']) ++ [some b]) := by
    simpa using hcopy'
  cases hcell : doubles'.cells b with
  | none =>
    rcases h' with h' | h'
    · exact not_averagesAgree_of_stale hsensor' hcopy'' hlength hcell hkept' h'
    · exact not_averagesAgree_of_stale hcopy'' hsensor' hlength hcell hkept' h'
  | some v =>
    have hfull : ∀ p : Ptr, cfg.runAvgLength = (p :: (bs ++ [some b'])).length + 1 := by
      intro p
      simp [hlength]
    rcases h' with h' | h'
    · exact not_averagesAgree_of_last hsensor' hcopy'' (hfull _) (hfull _) hcell h'
    · exact not_averagesAgree_of_last hcopy'' hsensor' (hfull _) (hfull _) hcell h'

/-- The average of a list that has more room weighs the measurement differently. -/
theorem not_averagesAgree_of_shorter (hsensor : PointsTo sensor.temperatures (bs ++ [some b]))
    (hlt : bs.length + 2 < cfg.runAvgLength) (hcopy : PointsTo copy.temperatures (qs ++ [some b]))
    (hlength : cfg.runAvgLength = qs.length + 1) (hb : doubles.cells b = some y) :
    ¬ (AveragesAgree c cfg doubles sensor copy ∨ AveragesAgree c cfg doubles copy sensor) := by
  intro h
  obtain ⟨-, -, -, -, -, -, -, -, h₀, -⟩ :=
    step_of_short hsensor (by omega) hcopy hlength hb ⟨0, 0, 0⟩ h
  obtain ⟨-, -, -, -, -, -, -, -, h₁, -⟩ :=
    step_of_short hsensor (by omega) hcopy hlength hb ⟨0, 1, 0⟩ h
  have hweights : (1 : ℚ) / ((bs.length + 1 : Nat) + 1) = 1 / cfg.runAvgLength := by
    dsimp only at h₀ h₁
    rw [add_zero, add_zero] at h₀
    rw [add_div, add_div, h₀] at h₁
    exact add_left_cancel h₁
  rw [one_div, one_div, inv_inj] at hweights
  have hsame : bs.length + 1 + 1 = cfg.runAvgLength := by exact_mod_cast hweights
  omega

/-- The averages of a sensor and its copy do not go on alike. With `RUN_AVG_LENGTH` 2 and one
    temperature they may, if `malloc` keeps handing out the released block. -/
theorem not_averagesAgree_of_copied {entries : List (Entry Nat ℚ)}
    (h : Boxed sensor.temperatures doubles entries)
    (hblock : sensor.temperatures.callbacks.block = id)
    (hlen : entries.length ≤ cfg.runAvgLength) (hone : cfg.runAvgLength = 2 → entries.length ≠ 1)
    (hcopy : PointsTo copy.temperatures
      (copied (entries.map fun x => some x.element) cfg.runAvgLength)) :
    ¬ (AveragesAgree c cfg doubles sensor copy ∨ AveragesAgree c cfg doubles copy sensor) := by
  have hsensor := PointsTo.of_boxed h hblock
  have hcells := cells_of_boxed h hblock
  rcases List.eq_nil_or_concat entries with rfl | ⟨es, x, rfl⟩
  · -- NULL elements
    have hlength : cfg.runAvgLength - 1 + 1 = cfg.runAvgLength :=
      Nat.sub_add_cancel cfg.runAvgLength_pos
    rw [List.map_nil, ← hlength, copied_nil] at hcopy
    exact not_averagesAgree_of_null hcopy (by simp [hlength])
  rw [List.concat_eq_append] at hsensor hcopy hcells hlen hone
  have hlast : doubles.cells x.element = some x.value := hcells x (by simp)
  have hlength : es.length + 1 ≤ cfg.runAvgLength := by simpa using hlen
  have hroom := Nat.add_sub_of_le hlength
  rw [List.map_append, List.map_singleton] at hsensor hcopy
  rcases hk : cfg.runAvgLength - (es.length + 1) with - | k
  · -- a full list
    have hfull : cfg.runAvgLength = (es.map fun x => some x.element).length + 1 := by
      rw [List.length_map]
      omega
    rw [hfull, copied_concat _ _ 0] at hcopy
    rintro (hagree | hagree)
    · exact not_averagesAgree_of_last hsensor hcopy hfull hfull hlast hagree
    · exact not_averagesAgree_of_last hcopy hsensor hfull hfull hlast hagree
  · have hmore : cfg.runAvgLength = (es.map fun x => some x.element).length + 1 + (k + 1) := by
      rw [List.length_map]
      omega
    rw [hmore, copied_concat, List.replicate_succ', ← List.append_assoc] at hcopy
    rcases k with - | k
    · -- one short of full
      rcases List.eq_nil_or_concat es with rfl | ⟨es, x', rfl⟩
      · exact absurd rfl (hone (by simpa using hmore))
      · rw [List.concat_eq_append] at hsensor hcopy hmore hcells
        have hne : x'.element ≠ x.element := by
          have hdistinct := h.distinct
          rw [hblock] at hdistinct
          intro heq
          simp [heq, List.nodup_append] at hdistinct
        rw [List.map_append, List.map_singleton] at hsensor hcopy
        exact not_averagesAgree_of_one_short hsensor (by simpa using hcopy)
          (by simpa using hmore) hlast
          (hcells x' (by simp)) hne
    · exact not_averagesAgree_of_shorter hsensor (by omega) hcopy (by simp [hmore]; omega) hlast

/-- The copy has the temperatures of the sensor only if the list is full. -/
theorem readTemperatures_copied {entries : List (Entry Nat ℚ)}
    (h : Boxed sensor.temperatures doubles entries)
    (hblock : sensor.temperatures.callbacks.block = id)
    (hcopy : PointsTo copy.temperatures
      (copied (entries.map fun x => some x.element) cfg.runAvgLength)) :
    readTemperatures doubles copy.temperatures = readTemperatures doubles sensor.temperatures ↔
      entries.length = cfg.runAvgLength := by
  have hsensor := PointsTo.of_boxed h hblock
  rw [readTemperatures_eq doubles hcopy, readTemperatures_eq doubles hsensor]
  constructor
  · intro heq
    rw [mapM_load_entries doubles (cells_of_boxed h hblock)] at heq
    have hlength := length_of_mapM_load heq
    rwa [List.length_map, copied_length] at hlength
  · intro heq
    have hself := copied_self (entries.map fun x => some x.element)
    rw [List.length_map, heq] at hself
    rw [hself]

/-- For every sensor that the data manager can hold, with any allocators and whatever `malloc` left
    in the block of the copy: `sensor_copy` never gives a duplicate. The ids and the time are those
    of the sensor, the average is what the block held, and the temperatures are those of the sensor
    only if its list is full. The averages after later measurements tell the two apart; only with
    `RUN_AVG_LENGTH` 2 and one temperature it depends on `malloc` whether they do. -/
theorem sensor_copy_never_duplicates (c : DatamgrMemory) (cfg : DatamgrConfig) (junk : ℚ)
    (doubles : Heap ℚ) (sensor : LinkedSensor) (entries : List (Entry Nat ℚ))
    (h : Boxed sensor.temperatures doubles entries)
    (hcallbacks : sensor.temperatures.callbacks = c.createTemperatures.callbacks)
    (hlen : entries.length ≤ cfg.runAvgLength) :
    ∃ copy, sensorCopy c cfg junk sensor = .ok copy ∧ ¬ Duplicates c cfg doubles sensor copy ∧
      copy.sensorId = sensor.sensorId ∧ copy.roomId = sensor.roomId ∧
      copy.lastModified = sensor.lastModified ∧ copy.runningAvg = junk ∧
      (readTemperatures doubles copy.temperatures = readTemperatures doubles sensor.temperatures ↔
        entries.length = cfg.runAvgLength) ∧
      ((cfg.runAvgLength = 2 → entries.length ≠ 1) →
        ¬ AveragesAgree c cfg doubles sensor copy ∧ ¬ AveragesAgree c cfg doubles copy sensor) := by
  have hblock : sensor.temperatures.callbacks.block = id := by rw [hcallbacks]; rfl
  obtain ⟨temperatures, hr, hcopied⟩ := sensorCopy_spec c cfg junk (PointsTo.of_boxed h hblock)
  let copy : LinkedSensor :=
    ⟨sensor.sensorId, sensor.roomId, junk, sensor.lastModified, temperatures⟩
  have hcopy : PointsTo copy.temperatures
      (copied (entries.map fun x => some x.element) cfg.runAvgLength) := hcopied
  have hread := readTemperatures_copied h hblock hcopy
  refine ⟨copy, hr, ?_, rfl, rfl, rfl, rfl, hread, ?_⟩
  · intro hdup
    have hfull := hread.mp hdup.temperatures
    exact not_averagesAgree_of_copied h hblock hlen (by omega) hcopy hdup.averages
  · intro hone
    have hagree := not_averagesAgree_of_copied (c := c) h hblock hlen hone hcopy
    exact not_or.mp hagree

end Averages

/-! ## A sensor with one measurement -/

/-- It has measured 20, under the constants of the Makefile. -/
def sampleSensor : LinkedSensor where
  sensorId := 15
  roomId := 1
  runningAvg := 20
  lastModified := 0
  temperatures :=
    { sampleDatamgrMemory.createTemperatures with
      head := some 0
      heap := Heap.empty.write 0 ⟨none, none, some 0⟩ }

def sampleDoubles : Heap ℚ := Heap.empty.write 0 20

theorem sampleSensor_boxed : Boxed sampleSensor.temperatures sampleDoubles [⟨0, 0, 20⟩] where
  chain := ⟨by simp, rfl, rfl, trivial⟩
  nodes := by
    intro a ha
    rcases (Heap.write_ne_none_iff a).mp ha with rfl | hempty
    · simp
    · exact absurd rfl hempty
  distinct := by simp
  cells := by
    intro x hx
    obtain rfl := List.mem_singleton.mp hx
    rfl

/-- The copy has five temperatures, all of them the same block, and some average. After a
    measurement of 10 the sensor has the average 15, the copy another one. -/
theorem sensor_copy_duplicates_fails :
    Boxed sampleSensor.temperatures sampleDoubles [⟨0, 0, 20⟩] ∧
      ∃ copy, sensorCopy sampleDatamgrMemory .makefile 0 sampleSensor = .ok copy ∧
        copy.runningAvg = 0 ∧
        readTemperatures sampleDoubles copy.temperatures = .ok [20, 20, 20, 20, 20] ∧
        averagesAfter sampleDatamgrMemory .makefile sampleDoubles sampleSensor copy [⟨15, 10, 1⟩] =
          .ok (15, -2) ∧
        ¬ Duplicates sampleDatamgrMemory .makefile sampleDoubles sampleSensor copy := by
  have hsensor := PointsTo.of_boxed sampleSensor_boxed rfl
  obtain ⟨temperatures, hcopy, hcopied⟩ := sensorCopy_spec sampleDatamgrMemory .makefile 0 hsensor
  refine ⟨sampleSensor_boxed, _, hcopy, rfl, readTemperatures_eq sampleDoubles hcopied, ?_, ?_⟩
  · obtain ⟨_, -, hfills⟩ :=
      updateSensor_fills sampleDatamgrMemory .makefile ⟨15, 10, 1⟩ sampleDoubles
      hsensor (by decide)
    have hlast : PointsTo (LinkedSensor.mk 15 1 0 0 temperatures : LinkedSensor).temperatures
        ([some 0, some 0, some 0, some 0] ++ [some 0]) := hcopied
    have hblock : (sampleDoubles.write 1 10).cells 0 = some 20 := rfl
    obtain ⟨copy', hslides, -, havg⟩ :=
      updateSensor_full sampleDatamgrMemory .makefile ⟨15, 10, 1⟩ hlast rfl hblock
    have hcopyAvg : copy'.runningAvg = -2 := by
      rw [havg]
      norm_num [DatamgrConfig.makefile]
    have hsensorAvg : fillingAvg sampleSensor.runningAvg 10 (1 + 1 : Nat) = 15 := by
      rw [fillingAvg_succ]
      norm_num [sampleSensor]
    exact (averagesAfter_cons hfills hslides []).trans
      (congrArg Except.ok (Prod.ext hsensorAvg hcopyAvg))
  · intro hdup
    have havg : (0 : ℚ) = 20 := hdup.runningAvg
    norm_num at havg

theorem sensor_copy_never_duplicates_sample :
    ∃ copy, sensorCopy sampleDatamgrMemory .makefile 20 sampleSensor = .ok copy ∧
      ¬ Duplicates sampleDatamgrMemory .makefile sampleDoubles sampleSensor copy ∧
      ¬ AveragesAgree sampleDatamgrMemory .makefile sampleDoubles sampleSensor copy := by
  obtain ⟨copy, hcopy, hdup, -, -, -, -, -, hagree⟩ := sensor_copy_never_duplicates
    sampleDatamgrMemory .makefile 20 sampleDoubles sampleSensor [⟨0, 0, 20⟩] sampleSensor_boxed rfl
    (by decide)
  exact ⟨copy, hcopy, hdup, (hagree (by decide)).1⟩

end LinkedDatamgr

end SensorGateway
