import SensorGateway.Connmgr.Wire
import Mathlib.Tactic

/-!
# Reading the stream of a sensor node

The stream is cut into records of 18 bytes. When a measurement is read at a record boundary and all
three fields arrive whole, the measurement is the next record of the stream.
-/

namespace SensorGateway

open LittleEndian

variable {m : Measurement} {ms : List Measurement} {input : RecordInput} {socket : Option Nat}

def recordSize : Nat := 18

@[simp] theorem Measurement.bytes_length (m : Measurement) : m.bytes.length = recordSize := by
  simp [Measurement.bytes, recordSize]

@[simp] theorem wireBytes_length (ms : List Measurement) :
    (wireBytes ms).length = recordSize * ms.length := by
  induction ms with
  | nil => rfl
  | cons m ms ih =>
    rw [wireBytes, List.flatMap_cons, List.length_append, Measurement.bytes_length]
    rw [wireBytes] at ih
    rw [ih, List.length_cons, Nat.mul_succ, Nat.add_comm]

theorem wireBytes_append (ms ms' : List Measurement) :
    wireBytes (ms ++ ms') = wireBytes ms ++ wireBytes ms' :=
  List.flatMap_append

/-- The stream behind the first `n` records is the stream of the other measurements. -/
theorem wireBytes_drop (ms : List Measurement) (n : Nat) :
    (wireBytes ms).drop (recordSize * n) = wireBytes (ms.drop n) := by
  induction n generalizing ms with
  | zero => simp
  | succ n ih =>
    cases ms with
    | nil => simp [wireBytes]
    | cons m ms =>
      rw [List.drop_succ_cons, ← ih, wireBytes, List.flatMap_cons, Nat.mul_succ, Nat.add_comm,
        ← List.drop_drop, List.drop_left' (Measurement.bytes_length m)]
      rfl

/-! ## One record -/

/-- The bytes that a `recv` hands out. -/
def Recv.bytes : Recv → List UInt8
  | .received bytes => bytes
  | .failed _ => []

/-- A field that arrives whole overwrites the stale bytes. -/
theorem fillField_of_length {stale : Nat → UInt8} {n : Nat} {got : List UInt8}
    (h : got.length = n) : fillField stale n got = got := by
  refine List.ext_getElem (by simp [fillField, h]) ?_
  intro k hk hk'
  simp [fillField, hk']

theorem tcpReceive_bytes (sd : Nat) (recv : Recv) (n : Int) :
    (tcpReceive (some sd) recv n).2.2 = recv.bytes := by
  cases recv with
  | received bytes =>
    simp only [tcpReceive]
    split_ifs with h
    · exact (List.length_eq_zero_iff.mp h).symm
    · rfl
  | failed enotconn => rfl

theorem readRecord_consumed (sd : Nat) (input : RecordInput) :
    (readRecord (some sd) input).consumed =
    input.id.bytes ++ input.value.bytes ++ input.ts.bytes := by
  simp only [readRecord, tcpReceive_bytes]

/-- Only the last `recv` decides whether the record counts as complete. -/
theorem readRecord_complete (sd : Nat) (input : RecordInput) :
    (readRecord (some sd) input).complete = true ↔ input.ts.bytes ≠ [] := by
  unfold readRecord
  cases input.ts with
  | received bytes =>
    cases bytes with
    | nil => simp [tcpReceive, Recv.bytes]
    | cons b bytes =>
      simp [tcpReceive, Recv.bytes]
      omega
  | failed enotconn =>
    cases enotconn <;> simp [tcpReceive, Recv.bytes]

/-- Nothing is read from a socket that is not bound. -/
theorem readRecord_none (input : RecordInput) :
    (readRecord none input).consumed = [] ∧ (readRecord none input).complete = false := by
  simp [readRecord, tcpReceive]

/-- The fields of a measurement come back from their bytes. -/
theorem Measurement.ofNat_leNat (m : Measurement) :
    (⟨UInt16.ofNat (leNat (leBytes 2 m.id.toNat)), UInt64.ofNat (leNat (leBytes 8 m.value.toNat)),
      Int64.ofNat (leNat (leBytes 8 m.ts.toUInt64.toNat))⟩ : Measurement) = m := by
  have h2 : leNat (leBytes 2 m.id.toNat) = m.id.toNat :=
    leNat_leBytes_of_lt m.id.toNat_lt
  have h8 : leNat (leBytes 8 m.value.toNat) = m.value.toNat :=
    leNat_leBytes_of_lt m.value.toNat_lt
  have h8' : leNat (leBytes 8 m.ts.toUInt64.toNat) = m.ts.toUInt64.toNat :=
    leNat_leBytes_of_lt m.ts.toUInt64.toNat_lt
  have hsigned : Int64.ofNat m.ts.toUInt64.toNat = m.ts := by
    rw [← UInt64.toInt64_ofNat', UInt64.ofNat_toNat, Int64.toInt64_toUInt64]
  rw [h2, h8, h8', hsigned, UInt16.ofNat_toNat, UInt64.ofNat_toNat]

/-- A record whose three fields arrive whole is decoded to the measurement that was sent. -/
theorem readRecord_data (sd : Nat) (hid : input.id.bytes = leBytes 2 m.id.toNat)
    (hvalue : input.value.bytes = leBytes 8 m.value.toNat)
    (hts : input.ts.bytes = leBytes 8 m.ts.toUInt64.toNat) :
    (readRecord (some sd) input).data = m := by
  simp only [readRecord, tcpReceive_bytes, hid, hvalue, hts]
  rw [fillField_of_length (leBytes_length ..), fillField_of_length (leBytes_length ..),
    fillField_of_length (leBytes_length ..)]
  exact m.ofNat_leNat

/-! ## A stream that `recv` hands out -/

/-- `recv` is asked for `n` bytes of a connection with the stream `rest` ahead: it hands out between
    1 and `n` bytes, and none when there are none left. -/
def HandsOut (n : Nat) (rest : List UInt8) (recv : Recv) (rest' : List UInt8) : Prop :=
  ∃ bytes, recv = .received bytes ∧ rest = bytes ++ rest' ∧ bytes.length ≤ n ∧
    (bytes = [] → rest = [])

/-- The three `recv` calls for a record hand out the stream. -/
def RecordHandsOut (rest : List UInt8) (input : RecordInput) (rest' : List UInt8) : Prop :=
  ∃ rest₁ rest₂, HandsOut 2 rest input.id rest₁ ∧ HandsOut 8 rest₁ input.value rest₂ ∧
    HandsOut 8 rest₂ input.ts rest'

/-- As `HandsOut`, with as many bytes as `recv` is asked for when that many are pending. -/
def HandsOutFull (n : Nat) (pending : List UInt8) (recv : Recv) (pending' : List UInt8) : Prop :=
  HandsOut n pending recv pending' ∧ (n ≤ pending.length → recv.bytes.length = n)

/-- The three `recv` calls for a record hand out what is pending. -/
def RecordHandsOutFull (pending : List UInt8) (input : RecordInput) (pending' : List UInt8) :
    Prop :=
  ∃ pending₁ pending₂, HandsOutFull 2 pending input.id pending₁ ∧
    HandsOutFull 8 pending₁ input.value pending₂ ∧ HandsOutFull 8 pending₂ input.ts pending'

/-- All three fields arrive whole. -/
def RecordInput.Whole (input : RecordInput) : Prop :=
  input.id.bytes.length = 2 ∧ input.value.bytes.length = 8 ∧ input.ts.bytes.length = 8

/-- The bytes that the three calls take. -/
def RecordInput.taken (input : RecordInput) : List UInt8 :=
  input.id.bytes ++ input.value.bytes ++ input.ts.bytes

theorem RecordHandsOut.taken {rest rest' : List UInt8} (h : RecordHandsOut rest input rest') :
    rest = input.taken ++ rest' ∧ input.taken.length ≤ recordSize ∧
      (input.Whole ↔ input.taken.length = recordSize) ∧
      (input.ts.bytes = [] → rest' = [] ∧ input.taken.length < recordSize) := by
  obtain ⟨rest₁, rest₂, ⟨id, hid, h₁, hid2, -⟩, ⟨value, hvalue, h₂, hvalue8, -⟩,
    ⟨ts, hts, h₃, hts8, hend⟩⟩ := h
  subst h₁ h₂ h₃
  simp only [RecordInput.taken, RecordInput.Whole, hid, hvalue, hts, Recv.bytes, recordSize,
    List.length_append]
  refine ⟨by simp, by omega, by omega, ?_⟩
  rintro rfl
  exact ⟨by simpa using hend rfl, by simp; omega⟩

theorem HandsOut.length {n : Nat} {rest rest' : List UInt8} {recv : Recv}
    (h : HandsOut n rest recv rest') : rest.length = recv.bytes.length + rest'.length := by
  obtain ⟨bytes, rfl, rfl, -⟩ := h
  exact List.length_append

theorem RecordHandsOutFull.handsOut {pending pending' : List UInt8}
    (h : RecordHandsOutFull pending input pending') : RecordHandsOut pending input pending' := by
  obtain ⟨pending₁, pending₂, ⟨hid, -⟩, ⟨hvalue, -⟩, ⟨hts, -⟩⟩ := h
  exact ⟨pending₁, pending₂, hid, hvalue, hts⟩

/-- A record that is pending as a whole arrives whole. -/
theorem RecordHandsOutFull.whole {pending pending' : List UInt8}
    (h : RecordHandsOutFull pending input pending') (hlen : recordSize ≤ pending.length) :
    input.Whole := by
  obtain ⟨pending₁, pending₂, ⟨hid, hid2⟩, ⟨hvalue, hvalue8⟩, ⟨hts, hts8⟩⟩ := h
  have hidlen := hid.length
  have hvaluelen := hvalue.length
  unfold recordSize at hlen
  have h2 := hid2 (by omega)
  have h8 := hvalue8 (by omega)
  exact ⟨h2, h8, hts8 (by omega)⟩

/-- A record that arrives whole from the measurement at the head of the stream is that
    measurement. -/
theorem readRecord_head {rest rest' : List UInt8} (sd : Nat)
    (h : RecordHandsOut (m.bytes ++ rest) input rest') (hwhole : input.Whole) :
    input.taken = m.bytes ∧ (readRecord (some sd) input).data = m := by
  obtain ⟨hrest, -, hsize, -⟩ := h.taken
  have htaken : input.taken = m.bytes :=
    (List.append_inj_left hrest (by rw [Measurement.bytes_length, hsize.mp hwhole])).symm
  obtain ⟨hidlen, hvaluelen, -⟩ := hwhole
  have hfields := htaken
  rw [RecordInput.taken, Measurement.bytes, List.append_assoc, List.append_assoc] at hfields
  obtain ⟨hid, hfields⟩ := List.append_inj hfields (by simp [hidlen])
  obtain ⟨hvalue, hts⟩ := List.append_inj hfields (by simp [hvaluelen])
  exact ⟨htaken, readRecord_data sd hid hvalue hts⟩

/-- At the boundary of a record, a record that arrives whole is the next one of the stream. -/
theorem readRecord_whole {cut n : Nat} {rest' : List UInt8} (sd : Nat)
    (h : RecordHandsOut (((wireBytes ms).take cut).drop (recordSize * n)) input rest')
    (hwhole : input.Whole) : ms[n]? = some (readRecord (some sd) input).data := by
  obtain ⟨hrest, -, hsize, -⟩ := h.taken
  have hlen := congrArg List.length hrest
  rw [List.drop_take, wireBytes_drop] at h hlen
  rw [List.length_take, List.length_append, hsize.mp hwhole] at hlen
  cases hms : ms.drop n with
  | nil =>
    rw [hms] at hlen
    simp [wireBytes, recordSize] at hlen
    omega
  | cons m tail =>
    have hcut : recordSize ≤ cut - recordSize * n := by omega
    rw [hms, wireBytes, List.flatMap_cons, List.take_append, Measurement.bytes_length,
      List.take_of_length_le (by simpa using hcut)] at h
    rw [(readRecord_head sd h hwhole).2, ← Nat.add_zero n, ← List.getElem?_drop, hms]
    rfl

/-! ## The framing of a stream -/

/-- Of a stream that holds the measurements `ms` up to a cut, `consumed` was taken and `inserted`
    was made of it: the complete records, and what was taken ends with a record or with the
    stream. -/
structure FramedStream (ms : List Measurement) (cut : Nat) (consumed : List UInt8)
    (inserted : List Measurement) : Prop where
  consumed_isPrefix : consumed <+: (wireBytes ms).take cut
  inserted_eq : inserted = ms.take (consumed.length / recordSize)
  boundary : consumed.length % recordSize = 0 ∨ consumed = (wireBytes ms).take cut

theorem framedStream_nil (ms : List Measurement) (cut : Nat) : FramedStream ms cut [] [] where
  consumed_isPrefix := List.nil_prefix
  inserted_eq := by simp
  boundary := .inl rfl

variable {cut : Nat} {consumed : List UInt8} {inserted : List Measurement} {rest' : List UInt8}

/-- What is taken next continues what was taken before. -/
theorem FramedStream.split (h : FramedStream ms cut consumed inserted)
    (hrest : ((wireBytes ms).take cut).drop consumed.length = input.taken ++ rest') :
    (wireBytes ms).take cut = (consumed ++ input.taken) ++ rest' := by
  obtain ⟨rest, hsplit⟩ := h.consumed_isPrefix
  rw [← hsplit, List.drop_left] at hrest
  rw [← hsplit, hrest, List.append_assoc]

/-- At the end of the stream nothing is taken any more. -/
theorem FramedStream.taken_eq_nil (h : consumed = (wireBytes ms).take cut)
    (hrest : ((wireBytes ms).take cut).drop consumed.length = input.taken ++ rest') :
    input.taken = [] := by
  rw [← h, List.drop_length] at hrest
  exact (List.append_eq_nil_iff.mp hrest.symm).1

/-- Reading a record keeps the framing when the record arrives whole or does not count as
    complete. -/
theorem FramedStream.read (h : FramedStream ms cut consumed inserted) (socket : Option Nat)
    (hout : RecordHandsOut (((wireBytes ms).take cut).drop consumed.length) input rest')
    (hwhole : socket ≠ none → input.ts.bytes ≠ [] → input.Whole) :
    let r := readRecord socket input
    FramedStream ms cut (consumed ++ r.consumed)
      (inserted ++ if r.complete then [r.data] else []) := by
  intro r
  obtain ⟨hrest, -, hsize, hend⟩ := hout.taken
  have hsplit := h.split hrest
  cases socket with
  | none =>
    obtain ⟨hconsumed, hcomplete⟩ := readRecord_none input
    simpa [r, hconsumed, hcomplete] using h
  | some sd =>
    have hconsumed : r.consumed = input.taken := readRecord_consumed sd input
    rw [hconsumed]
    by_cases hts : input.ts.bytes = []
    · -- the stream ends within the record, which is not inserted
      have hcomplete : r.complete = false := by
        simpa [hts] using (readRecord_complete sd input).not
      obtain ⟨hrest', hlt⟩ := hend hts
      rw [hrest', List.append_nil] at hsplit
      refine ⟨hsplit ▸ List.prefix_rfl, ?_, .inr hsplit.symm⟩
      rw [hcomplete, List.length_append, if_neg Bool.false_ne_true, List.append_nil, h.inserted_eq]
      rcases h.boundary with hmod | hall
      · congr 1
        unfold recordSize at *
        omega
      · rw [FramedStream.taken_eq_nil hall hrest]
        rfl
    · have hcomplete : r.complete = true := (readRecord_complete sd input).mpr hts
      have hlen := hsize.mp (hwhole (by simp) hts)
      have hmod : consumed.length % recordSize = 0 := h.boundary.resolve_right fun hall => by
        simp [FramedStream.taken_eq_nil hall hrest, recordSize] at hlen
      have hdiv : consumed.length = recordSize * (consumed.length / recordSize) := by
        unfold recordSize at *
        omega
      have hnext := readRecord_whole sd (hdiv ▸ hout) (hwhole (by simp) hts)
      have hsucc : (consumed ++ input.taken).length / recordSize =
          consumed.length / recordSize + 1 := by
        rw [List.length_append, hlen]
        exact Nat.add_div_right _ (by decide)
      refine ⟨⟨rest', hsplit.symm⟩, ?_, .inl ?_⟩
      · rw [hsucc, List.take_add_one, hnext, h.inserted_eq, if_pos hcomplete]
        rfl
      · rw [List.length_append, hlen, Nat.add_mod_right, hmod]

/-- A record that counts as complete and did not arrive whole breaks the framing. -/
theorem FramedStream.not_inserted (h : FramedStream ms cut consumed inserted) (sd : Nat)
    (hout : RecordHandsOut (((wireBytes ms).take cut).drop consumed.length) input rest')
    (hts : input.ts.bytes ≠ []) (hpart : ¬ input.Whole) :
    let r := readRecord (some sd) input
    (inserted ++ if r.complete then [r.data] else []) ≠
      ms.take ((consumed ++ r.consumed).length / recordSize) := by
  intro r heq
  obtain ⟨hrest, hle, hsize, -⟩ := hout.taken
  have hlt : input.taken.length < recordSize :=
    lt_of_le_of_ne hle fun hlen => hpart (hsize.mpr hlen)
  have hmod : consumed.length % recordSize = 0 := h.boundary.resolve_right fun hall => by
    have hnil := FramedStream.taken_eq_nil hall hrest
    simp [RecordInput.taken, hts] at hnil
  have hdiv : (consumed ++ r.consumed).length / recordSize = consumed.length / recordSize := by
    have hconsumed : r.consumed = input.taken := readRecord_consumed sd input
    rw [hconsumed, List.length_append]
    unfold recordSize at *
    omega
  rw [hdiv, ← h.inserted_eq, if_pos ((readRecord_complete sd input).mpr hts)] at heq
  simpa using congrArg List.length heq

end SensorGateway
