import SensorGateway.Dplist.Release
import SensorGateway.Dplist.Proofs.RefinementProofs

/-!
# What a list releases, and how often

A removal releases what its node releases, and `dpl_free` what is left; so the log of a run is, in
some order, what all the nodes release and the list. Whether a block occurs twice then only depends
on what the callback leaves in the element field.
-/

namespace SensorGateway

open PtrHeap DoublyLinked

variable {E B : Type} {list list' : Dplist E B} {xs : Nodes E} {e : Option E} {a : Nat}

/-- The blocks that are released for an element: those the callback frees, then what it left in the
    element field. -/
def Callbacks.released (cb : Callbacks E B) (freeElement : Bool) (element : Option E) : List B :=
  let (left, blocks) :=
    if freeElement ∧ element.isSome then cb.elementFree element else (element, [])
  blocks ++ (left.map cb.block).toList

/-- The blocks that are released with a node. -/
def Callbacks.nodeReleases (cb : Callbacks E B) (freeElement : Bool) (x : Nat × Option E) :
    List (Release B) :=
  (cb.released freeElement x.2).map .block ++ [.node x.1]

/-! ## `dpl_free` -/

theorem dplFreeLoop_spec (cb : Callbacks E B) (freeElement : Bool) {h : Heap (Node (Option E))}
    {p : Ptr} (hl : Links h p xs none) (hnd : (xs.map Prod.fst).Nodup) {fuel : Nat}
    (hf : xs.length < fuel) :
    dplFreeLoop cb freeElement fuel h (headPtr xs none) =
      .ok (xs.flatMap (cb.nodeReleases freeElement)) := by
  induction xs generalizing h p fuel with
  | nil =>
    obtain ⟨fuel, rfl⟩ := Nat.exists_eq_succ_of_ne_zero (by omega : fuel ≠ 0)
    rfl
  | cons x xs ih =>
    obtain ⟨fuel, rfl⟩ := Nat.exists_eq_succ_of_ne_zero (by omega : fuel ≠ 0)
    rw [List.length_cons] at hf
    rw [List.map_cons, List.nodup_cons] at hnd
    have hfree : h.free (some x.1) = .ok (h.erase x.1) := by simp [Heap.free, hl.1]
    have hrec := ih (hl.2.erase hnd.1) hnd.2 (by omega : xs.length < fuel)
    rw [headPtr, dplFreeLoop, Heap.load_some hl.1, ok_bind, hfree]
    simp only [ok_bind, hrec]
    simp [Callbacks.nodeReleases, Callbacks.released]

theorem dplFree_spec (hc : IsChain list xs) (freeElement : Bool) :
    dplFree list freeElement =
      .ok (xs.flatMap (list.callbacks.nodeReleases freeElement) ++ [.list]) := by
  rw [dplFree, hc.head, dplFreeLoop_spec _ _ hc.links hc.nodup hc.length_lt_fuel, ok_bind]

/-! ## Removals -/

theorem dplRemoveAtIndex_released {i : Int} {freeElement : Bool} {p q : Ptr}
    (hr : dplRemoveAtIndex list i freeElement = .ok list') (hhead : list.head ≠ none)
    (href : dplGetReferenceAtIndex list i = .ok (some a))
    (ha : list.heap.cells a = some ⟨p, q, e⟩) (he : e ≠ none) :
    list'.released = list.released ++ list.callbacks.released freeElement e ∧
      ∀ c, list'.heap.cells c = none ↔ c = a ∨ list.heap.cells c = none := by
  rw [dplRemoveAtIndex, if_neg hhead, href, ok_bind] at hr
  obtain ⟨first, -, hr⟩ := bind_eq_ok hr
  obtain ⟨size, -, hr⟩ := bind_eq_ok hr
  rw [Heap.load_some ha, ok_bind] at hr
  obtain ⟨⟨left, blocks⟩, hleft⟩ : ∃ r : Option E × List B,
      (if freeElement then list.callbacks.elementFree e else (e, [])) = r := ⟨_, rfl⟩
  rw [hleft] at hr
  -- whichever links are patched, nothing is allocated or released before the node goes
  obtain ⟨head, h, hsame, hr⟩ : ∃ (head : Ptr) (h : Heap (Node (Option E))),
      (∀ c, h.cells c = none ↔ list.heap.cells c = none) ∧
      (do
        let h ← h.free (some a)
        .ok { list with
          head := head
          heap := h
          released := list.released ++ blocks ++ (left.map list.callbacks.block).toList }) =
        Except.ok list' := by
    split_ifs at hr with h1 h2 h3
    · exact ⟨_, _, fun c => Iff.rfl, hr⟩
    · obtain ⟨h₁, hm, hr⟩ := bind_eq_ok hr
      exact ⟨_, _, Heap.modify_eq_none_iff hm, hr⟩
    · obtain ⟨h₁, hm₁, hr⟩ := bind_eq_ok hr
      obtain ⟨h₂, hm₂, hr⟩ := bind_eq_ok hr
      refine ⟨_, _, fun c => ?_, hr⟩
      exact (Heap.modify_eq_none_iff hm₂ c).trans (Heap.modify_eq_none_iff hm₁ c)
    · obtain ⟨h₁, hm, hr⟩ := bind_eq_ok hr
      exact ⟨_, _, Heap.modify_eq_none_iff hm, hr⟩
  obtain ⟨h', hfree, hr⟩ := bind_eq_ok hr
  obtain rfl := Heap.eq_erase_of_free hfree
  obtain rfl := Except.ok.inj hr
  constructor
  · simp [Callbacks.released, Option.isSome_iff_ne_none.mpr he, hleft]
  · intro c
    rw [Heap.erase_eq_none_iff, hsame]

/-- A removal does nothing or is the removal at some index. -/
theorem Removal.run_cases (hc : IsChain list xs) (removal : Removal E) :
    removal.run list = .ok list ∨
      xs ≠ [] ∧ ∃ i : Int, removal.run list = dplRemoveAtIndex list i true := by
  by_cases hnil : xs = []
  · left
    have hhead := hc.head_eq_none_iff.mpr hnil
    cases removal with
    | atIndex i => exact if_pos hhead
    | atReference r =>
      rw [Removal.run, dplRemoveAtReference, if_pos hhead]
      rfl
    | element e => exact if_pos hhead
  · have hhead := hc.head_eq_none_iff.not.mpr hnil
    cases removal with
    | atIndex i => exact .inr ⟨hnil, i, rfl⟩
    | atReference r =>
      rw [Removal.run, dplRemoveAtReference, if_neg hhead]
      by_cases hr : r = none
      · rw [if_pos hr]
        exact .inl rfl
      · rw [if_neg hr, dplGetIndexOfReference_spec hc, ok_bind]
        split_ifs
        · exact .inl rfl
        · refine .inr ⟨hnil, foundIndex 0 (xs.indexOfReference r), ?_⟩
          cases dplRemoveAtIndex list (foundIndex 0 (xs.indexOfReference r)) true <;> rfl
    | element e =>
      rw [Removal.run, dplRemoveElement, if_neg hhead, dplGetIndexOfElement_spec hc, ok_bind]
      split_ifs
      · exact .inl rfl
      · exact .inr ⟨hnil, _, rfl⟩

theorem Dplist.releasedBy_self : list.releasedBy list = [] := by
  have hnone : (List.range list.heap.bound).filter (fun a =>
      (list.heap.cells a).isSome && (list.heap.cells a).isNone) = [] := by
    refine List.filter_eq_nil_iff.mpr fun a _ => ?_
    cases list.heap.cells a <;> simp
  rw [Dplist.releasedBy, List.drop_length, hnone]
  rfl

/-- When one node went, its releases are in the log. -/
theorem Dplist.releasedBy_perm {x : Nat × Option E} (hx : list.heap.cells x.1 ≠ none)
    (hrel : list'.released = list.released ++ list.callbacks.released true x.2)
    (hcells : ∀ c, list'.heap.cells c = none ↔ c = x.1 ∨ list.heap.cells c = none) :
    (list.releasedBy list').Perm (list.callbacks.nodeReleases true x) := by
  have hnodes : ((List.range list.heap.bound).filter fun a =>
      (list.heap.cells a).isSome && (list'.heap.cells a).isNone).Perm [x.1] := by
    refine (List.perm_ext_iff_of_nodup (List.nodup_range.filter _) (List.nodup_singleton _)).mpr ?_
    intro c
    rw [List.mem_filter, List.mem_range, List.mem_singleton, Bool.and_eq_true,
      Option.isSome_iff_ne_none, Option.isNone_iff_eq_none, hcells]
    constructor
    · rintro ⟨-, hc, hxc | hnone⟩
      · exact hxc
      · exact absurd hnone hc
    · rintro rfl
      obtain ⟨n, hn⟩ := Option.ne_none_iff_exists'.mp hx
      exact ⟨Heap.lt_bound hn, hx, .inl rfl⟩
  rw [Dplist.releasedBy, hrel, List.drop_left]
  exact (hnodes.map Release.node).append_left _

/-- Along every sequence of removals, the nodes that are removed and those that `dpl_free` finds are
    the nodes of the list. -/
theorem removeThenFree_spec (hc : IsChain list xs) (halloc : ∀ x ∈ xs, x.2 ≠ none)
    (removals : List (Removal E)) :
    ∃ released, removeThenFree list removals = .ok released ∧
      released.Perm (xs.flatMap (list.callbacks.nodeReleases true) ++ [.list]) := by
  induction removals generalizing list xs with
  | nil => exact ⟨_, dplFree_spec hc true, .rfl⟩
  | cons removal removals ih =>
    rcases removal.run_cases hc with hnop | ⟨hne, i, hrun⟩
    · obtain ⟨released, hrest, hperm⟩ := ih hc halloc
      refine ⟨released, ?_, hperm⟩
      rw [removeThenFree, hnop, ok_bind, hrest, ok_bind, Dplist.releasedBy_self, List.nil_append]
    · have hpos := List.length_pos_of_ne_nil hne
      have hk : clampIndex i (xs.length - 1) < xs.length := by
        unfold clampIndex
        omega
      obtain ⟨ys, x, zs, rfl, hys⟩ := exists_split_at hk
      obtain ⟨list', hremove, hc', hcb⟩ := dplRemoveAtIndex_spec hc i true
      obtain ⟨-, hx, -⟩ := links_append.mp hc.links
      rw [seqRemoveAtIndex, ← hys, List.eraseIdx_append_of_length_le le_rfl, Nat.sub_self,
        List.eraseIdx_cons_zero] at hc'
      obtain ⟨hrel, hcells⟩ := dplRemoveAtIndex_released hremove (by simp [hc.head_eq_none_iff])
        (dplGetReferenceAtIndex_at ys hc i hys.symm) hx (halloc x (by simp))
      obtain ⟨released, hrest, hperm⟩ := ih hc' fun y hy => halloc y (by
        rw [List.mem_append] at hy ⊢
        exact hy.imp id (List.mem_cons_of_mem x))
      refine ⟨list.releasedBy list' ++ released, ?_, ?_⟩
      · rw [removeThenFree, hrun, hremove, ok_bind, hrest, ok_bind]
      · rw [hcb] at hperm
        have hone := Dplist.releasedBy_perm (by rw [hx]; simp) hrel hcells
        refine (hone.append hperm).trans ?_
        rw [← List.append_assoc, List.flatMap_append, List.flatMap_append, List.flatMap_cons,
          ← List.append_assoc]
        exact (List.perm_append_comm.append_right _).append_right _ |>.trans (by
          simp [List.append_assoc])

/-! ## Releasing once -/

variable {cb : Callbacks E B} {owned : E → List B} {released : List (Release B)}

/-- When the callback and the `free` after it release what an element owns, the log consists of
    these blocks and of the nodes. -/
theorem nodeReleases_perm (hown : ∀ e, cb.released true (some e) = owned e)
    (halloc : ∀ x ∈ xs, x.2 ≠ none) :
    (xs.flatMap (cb.nodeReleases true)).Perm
      ((xs.flatMap fun x => x.2.toList.flatMap owned).map .block ++ xs.map fun x => .node x.1) := by
  induction xs with
  | nil => exact .rfl
  | cons x xs ih =>
    obtain ⟨a, e⟩ := x
    obtain ⟨e, rfl⟩ := Option.ne_none_iff_exists'.mp (halloc _ List.mem_cons_self)
    have hrec := ih fun y hy => halloc y (List.mem_cons_of_mem _ hy)
    have hx : cb.nodeReleases true (a, some e) = (owned e).map .block ++ [.node a] := by
      rw [Callbacks.nodeReleases, hown]
    have hblocks : (((a, some e) :: xs).flatMap fun x => x.2.toList.flatMap owned) =
        owned e ++ xs.flatMap fun x => x.2.toList.flatMap owned := by simp
    rw [List.flatMap_cons, hx, hblocks, List.map_append, List.map_cons, List.append_assoc,
      List.append_assoc]
    refine (List.Perm.append_left _ ?_)
    exact (hrec.cons _).trans List.perm_middle.symm

theorem ReleasedOnce.of_perm (hown : ∀ e, cb.released true (some e) = owned e)
    (hd : DistinctElements owned xs) (hnd : (xs.map Prod.fst).Nodup)
    (hperm : released.Perm (xs.flatMap (cb.nodeReleases true) ++ [.list])) :
    ReleasedOnce owned xs released := by
  have hlog := hperm.trans ((nodeReleases_perm hown hd.allocated).append_right [.list])
  constructor
  case nodup =>
    have hblocks := hd.distinct.map (f := Release.block) fun b b' heq => Release.block.inj heq
    have hnodes : (xs.map fun x => (Release.node x.1 : Release B)).Nodup := by
      have := hnd.map (f := (Release.node : Nat → Release B)) fun a a' heq => Release.node.inj heq
      rwa [List.map_map] at this
    rw [hlog.nodup_iff, List.append_assoc]
    refine hblocks.append (hnodes.append (List.nodup_singleton _) ?_) ?_
    · intro b hb hlist
      obtain ⟨x, -, rfl⟩ := List.mem_map.mp hb
      simp at hlist
    · intro b hb hrest
      obtain ⟨c, -, rfl⟩ := List.mem_map.mp hb
      simp at hrest
  case elements =>
    intro x hx e he b hb
    refine hlog.mem_iff.mpr (List.mem_append_left _ (List.mem_append_left _ ?_))
    refine List.mem_map_of_mem (List.mem_flatMap.mpr ⟨x, hx, ?_⟩)
    rw [he]
    simpa using hb
  case nodes =>
    intro x hx
    refine hlog.mem_iff.mpr (List.mem_append_left _ (List.mem_append_right _ ?_))
    exact List.mem_map_of_mem (f := fun x : Nat × Option E => (Release.node x.1 : Release B)) hx
  case list => exact hlog.mem_iff.mpr (List.mem_append_right _ (List.mem_singleton_self _))

/-- `sensor_free` leaves NULL, so the `free` after it releases nothing more. -/
theorem sensorFree_released (sensorCopy : Option SensorElement → Option SensorElement)
    (sensor : SensorElement) :
    (sensorCallbacks sensorCopy).released true (some sensor) = sensor.owned := by
  have hfree := dplFree_spec sensor.isChain false
  have hnodes : (sensor.nodes.flatMap (sensor.temperatures.callbacks.nodeReleases false)).map
      sensor.nested = sensor.nodes.flatMap fun x =>
        (x.2.map fun t => SensorBlock.temperature (sensor.temperatures.callbacks.block t)).toList ++
          [.node sensor.block x.1] := by
    rw [List.map_flatMap]
    congr 1
    funext ⟨a, t⟩
    cases t <;> rfl
  simp [Callbacks.released, sensorCallbacks, sensorFree, hfree, hnodes, SensorElement.owned,
    SensorElement.nested]

/-- `callback_free` leaves the pointer, so the block is freed again. -/
theorem callbackFree_released
    (callbackCopy : Option ConnectionElement → Option ConnectionElement) (c : ConnectionElement) :
    (connectionCallbacks callbackCopy).released true (some c) = [c.block, c.block] := rfl

theorem connections_released_once_iff
    {callbackCopy : Option ConnectionElement → Option ConnectionElement}
    {list : Dplist ConnectionElement Nat} {xs : Nodes ConnectionElement} (hc : IsChain list xs)
    (hcb : list.callbacks = connectionCallbacks callbackCopy)
    (hd : DistinctElements ConnectionElement.owned xs)
    (removals : List (Removal ConnectionElement)) :
    ∃ released, removeThenFree list removals = .ok released ∧
      (ReleasedOnce ConnectionElement.owned xs released ↔ xs = []) := by
  obtain ⟨released, hrun, hperm⟩ := removeThenFree_spec hc hd.allocated removals
  rw [hcb] at hperm
  refine ⟨released, hrun, fun honce => ?_, ?_⟩
  · by_contra hne
    obtain ⟨⟨a, e⟩, xs, rfl⟩ := List.exists_cons_of_ne_nil hne
    obtain ⟨c, rfl⟩ := Option.ne_none_iff_exists'.mp (hd.allocated _ List.mem_cons_self)
    have hnd := hperm.nodup_iff.mp honce.nodup
    rw [List.flatMap_cons, Callbacks.nodeReleases, callbackFree_released] at hnd
    simp at hnd
  · rintro rfl
    rw [List.perm_singleton.mp hperm]
    exact ⟨List.nodup_singleton _, by simp, by simp, by simp⟩

theorem sensors_released_once {sensorCopy : Option SensorElement → Option SensorElement}
    {list : Dplist SensorElement SensorBlock} {xs : Nodes SensorElement} (hc : IsChain list xs)
    (hcb : list.callbacks = sensorCallbacks sensorCopy)
    (hd : DistinctElements SensorElement.owned xs) (removals : List (Removal SensorElement)) :
    ∃ released, removeThenFree list removals = .ok released ∧
      ReleasedOnce SensorElement.owned xs released := by
  obtain ⟨released, hrun, hperm⟩ := removeThenFree_spec hc hd.allocated removals
  rw [hcb] at hperm
  exact ⟨released, hrun, .of_perm (sensorFree_released sensorCopy) hd hc.nodup hperm⟩

/-- For every list of distinct elements and every sequence of removals before the `dpl_free`: with
    `callback_free` every block is released exactly once only if the list is empty, with
    `sensor_free` always. -/
theorem dplist_released_once (registrant : Registrant)
    (elementCopy : Option registrant.Element → Option registrant.Element)
    (list : Dplist registrant.Element registrant.Block) (xs : Nodes registrant.Element)
    (removals : List (Removal registrant.Element)) (hc : IsChain list xs)
    (hcb : list.callbacks = registrant.callbacks elementCopy)
    (hd : DistinctElements registrant.owned xs) :
    ∃ released, removeThenFree list removals = .ok released ∧
      (ReleasedOnce registrant.owned xs released ↔ registrant = .datamgr ∨ xs = []) := by
  cases registrant with
  | connmgr =>
    obtain ⟨released, hrun, hiff⟩ := connections_released_once_iff hc hcb hd removals
    exact ⟨released, hrun, hiff.trans ⟨.inr, fun h => h.resolve_left (by decide)⟩⟩
  | datamgr =>
    obtain ⟨released, hrun, honce⟩ := sensors_released_once hc hcb hd removals
    exact ⟨released, hrun, iff_of_true honce (.inl rfl)⟩

/-- One connection, taken out with its element freed or left to `dpl_free`: its block is released
    twice. -/
theorem connection_released_twice : ∃ list : Dplist ConnectionElement Nat,
    runCalls Allocator.bump (dplCreate (connectionCallbacks id))
        [.insertAtIndex (some ⟨7⟩) 0 false] = .ok list ∧
      IsChain list [(0, some ⟨7⟩)] ∧
      DistinctElements ConnectionElement.owned [(0, some ⟨7⟩)] ∧
      ∀ removals ∈ [[], [Removal.atIndex 0]], ∃ released,
        removeThenFree list removals = .ok released ∧
        released = [.block 7, .block 7, .node 0, .list] ∧
        ¬ ReleasedOnce ConnectionElement.owned [(0, some ⟨7⟩)] released := by
  refine ⟨_, rfl, ⟨by simp, rfl, rfl, trivial⟩, ⟨by simp, by simp [ConnectionElement.owned]⟩, ?_⟩
  intro removals hmem
  refine ⟨[.block 7, .block 7, .node 0, .list], ?_, rfl, ?_⟩
  · rcases List.mem_pair.mp hmem with rfl | rfl
    · rfl
    · rfl
  · intro honce
    exact absurd honce.nodup (by decide)

/-- A sensor with one measurement. -/
def sampleSensorElement : SensorElement where
  block := 1
  sensorId := 15
  temperatures :=
    { head := some 0
      callbacks := ⟨id, fun e => (e, []), fun _ _ => 0, id⟩
      heap := Heap.empty.write 0 ⟨none, none, some 5⟩
      released := [] }
  nodes := [(0, some 5)]
  isChain := ⟨by simp, rfl, rfl, trivial⟩

/-- A list of this sensor. -/
def sampleSensorList : Dplist SensorElement SensorBlock where
  head := some 0
  callbacks := sensorCallbacks id
  heap := Heap.empty.write 0 ⟨none, none, some sampleSensorElement⟩
  released := []

/-- Without connections, and with one sensor that is removed before the list is freed. -/
theorem dplist_released_once_samples :
    (∃ released, removeThenFree (dplCreate (connectionCallbacks id)) [.atIndex 0] = .ok released ∧
        ReleasedOnce ConnectionElement.owned [] released) ∧
      ∃ released, removeThenFree sampleSensorList [.atReference (some 0)] = .ok released ∧
        ReleasedOnce SensorElement.owned [(0, some sampleSensorElement)] released := by
  constructor
  · obtain ⟨released, hrun, hiff⟩ := dplist_released_once .connmgr id
      (dplCreate (connectionCallbacks id)) [] [.atIndex 0] (isChain_dplCreate _) rfl
      ⟨by simp, by simp⟩
    exact ⟨released, hrun, hiff.mpr (.inr rfl)⟩
  · have hc : IsChain sampleSensorList [(0, some sampleSensorElement)] :=
      ⟨by simp, rfl, rfl, trivial⟩
    have hd : DistinctElements SensorElement.owned [(0, some sampleSensorElement)] :=
      ⟨by simp, by simp [SensorElement.owned, sampleSensorElement]⟩
    obtain ⟨released, hrun, hiff⟩ := dplist_released_once .datamgr id sampleSensorList _
      [.atReference (some 0)] hc rfl hd
    exact ⟨released, hrun, hiff.mpr (.inl rfl)⟩

end SensorGateway
