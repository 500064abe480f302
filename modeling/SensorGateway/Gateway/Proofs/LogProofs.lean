import SensorGateway.Gateway.Log

/-!
# One line of the log for each message

Every read of the log process takes a chunk of the stream of messages that ends with the first
newline or fills the buffer, whatever the order of writes and reads. A message that fits the buffer
is one chunk; one that does not becomes two or more, and each of them is numbered.
-/

namespace SensorGateway

open Decimal Binary64 Lines Transition

/-! ## The bytes of a message -/

/-- No byte ends a line or a string. -/
def Plain (bs : List UInt8) : Prop := ∀ b ∈ bs, b ≠ 0 ∧ b ≠ newline

instance (bs : List UInt8) : Decidable (Plain bs) :=
  List.decidableBAll (fun b => b ≠ 0 ∧ b ≠ newline) bs

theorem Plain.append {bs cs : List UInt8} (hbs : Plain bs) (hcs : Plain cs) : Plain (bs ++ cs) := by
  intro b hb
  rcases List.mem_append.mp hb with hb | hb
  · exact hbs b hb
  · exact hcs b hb

theorem Plain.notMem {bs : List UInt8} (h : Plain bs) : newline ∉ bs := fun hmem => (h _ hmem).2 rfl

theorem utf8_append (cs ds : List Char) : utf8 (cs ++ ds) = utf8 cs ++ utf8 ds :=
  List.flatMap_append

/-- The characters of decimal texts are single bytes, none of which is a space. -/
theorem decimalChar_byte {c : Char} (h : IsDecimalChar c) :
    String.utf8EncodeChar c = [UInt8.ofNat c.toNat] ∧ Char.ofNat (UInt8.ofNat c.toNat).toNat = c ∧
      UInt8.ofNat c.toNat ≠ 0 ∧ UInt8.ofNat c.toNat ≠ newline ∧ UInt8.ofNat c.toNat ≠ space := by
  rcases h with h | rfl | rfl
  · have hrange : 48 ≤ c.toNat ∧ c.toNat ≤ 57 := by
      simp only [Char.isDigit, Bool.and_eq_true, decide_eq_true_eq] at h
      exact h
    obtain ⟨n, hlow, hhigh, rfl⟩ : ∃ n, 48 ≤ n ∧ n ≤ 57 ∧ c = Char.ofNat n :=
      ⟨c.toNat, hrange.1, hrange.2, (Char.ofNat_toNat c).symm⟩
    clear h hrange
    interval_cases n <;> decide
  · decide
  · decide

section DecimalText

variable {cs ds : List Char}

theorem utf8_decimal (h : ∀ c ∈ cs, IsDecimalChar c) :
    utf8 cs = cs.map fun c => UInt8.ofNat c.toNat := by
  induction cs with
  | nil => rfl
  | cons c cs ih =>
    have hhead := (decimalChar_byte (h c List.mem_cons_self)).1
    have htail := ih fun d hd => h d (List.mem_cons_of_mem _ hd)
    show String.utf8EncodeChar c ++ utf8 cs = _
    rw [hhead, htail]
    rfl

theorem utf8_decimal_length (h : ∀ c ∈ cs, IsDecimalChar c) : (utf8 cs).length = cs.length := by
  rw [utf8_decimal h, List.length_map]

theorem plain_decimal (h : ∀ c ∈ cs, IsDecimalChar c) : Plain (utf8 cs) := by
  rw [utf8_decimal h]
  intro b hb
  obtain ⟨c, hc, rfl⟩ := List.mem_map.mp hb
  obtain ⟨-, -, hzero, hnewline, -⟩ := decimalChar_byte (h c hc)
  exact ⟨hzero, hnewline⟩

theorem space_notMem_decimal (h : ∀ c ∈ cs, IsDecimalChar c) : space ∉ utf8 cs := by
  rw [utf8_decimal h]
  intro hmem
  obtain ⟨c, hc, heq⟩ := List.mem_map.mp hmem
  exact (decimalChar_byte (h c hc)).2.2.2.2 heq

theorem utf8_decimal_inj (hcs : ∀ c ∈ cs, IsDecimalChar c) (hds : ∀ c ∈ ds, IsDecimalChar c)
    (h : utf8 cs = utf8 ds) : cs = ds := by
  have hback : ∀ {cs : List Char}, (∀ c ∈ cs, IsDecimalChar c) →
      (utf8 cs).map (fun b => Char.ofNat b.toNat) = cs := by
    intro cs hcs
    rw [utf8_decimal hcs, List.map_map]
    calc cs.map _ = cs.map id := List.map_congr_left fun c hc => (decimalChar_byte (hcs c hc)).2.1
      _ = cs := List.map_id cs
  rw [← hback hcs, h, hback hds]

end DecimalText

theorem isDecimalChar_idText {id : UInt16} : ∀ c ∈ idText id, IsDecimalChar c :=
  fun _ h => .inl (isDigit_of_mem_natText h)

theorem isDecimalChar_intText {z : Int} : ∀ c ∈ intText z, IsDecimalChar c :=
  fun _ => isDecimalChar_of_mem_intText

theorem isDecimalChar_text {x : Double} : ∀ c ∈ x.text 6, IsDecimalChar c :=
  fun _ => x.isDecimalChar_of_mem_text

/-- A message is one line, without a NUL byte. -/
def IsMessage (bs : List UInt8) : Prop := ∃ body, bs = body ++ [newline] ∧ Plain body

theorem isMessage_iff {bs : List UInt8} :
    IsMessage bs ↔ bs.getLast? = some newline ∧ Plain bs.dropLast := by
  constructor
  · rintro ⟨body, rfl, hbody⟩
    rw [List.getLast?_concat, List.dropLast_concat]
    exact ⟨rfl, hbody⟩
  · rintro ⟨hlast, hplain⟩
    exact ⟨bs.dropLast, (List.dropLast_append_getLast? newline hlast).symm, hplain⟩

instance (bs : List UInt8) : Decidable (IsMessage bs) := decidable_of_iff' _ isMessage_iff

theorem IsMessage.append {bs cs : List UInt8} (hcs : IsMessage cs) (hbs : Plain bs) :
    IsMessage (bs ++ cs) := by
  obtain ⟨body, rfl, hbody⟩ := hcs
  exact ⟨bs ++ body, (List.append_assoc _ _ _).symm, hbs.append hbody⟩

theorem IsMessage.isLine {bs : List UInt8} (h : IsMessage bs) : IsLine newline bs := by
  obtain ⟨body, rfl, hbody⟩ := h
  exact ⟨body, rfl, hbody.notMem⟩

theorem cString_of_ne_zero {bs : List UInt8} (h : ∀ b ∈ bs, b ≠ 0) : cString bs = bs := by
  have hall : ∀ b ∈ bs, decide (b ≠ 0) = true := by
    intro b hb
    simpa using h b hb
  have happend := @List.takeWhile_append_of_pos _ _ _ [] hall
  simpa [cString] using happend

theorem IsMessage.cString {bs : List UInt8} (h : IsMessage bs) : cString bs = bs := by
  obtain ⟨body, rfl, hbody⟩ := h
  apply cString_of_ne_zero
  intro b hb
  rcases List.mem_append.mp hb with hb | hb
  · exact (hbody b hb).1
  · rw [List.mem_singleton.mp hb]
    decide

theorem plain_utf8_append {cs ds : List Char} (hcs : Plain (utf8 cs)) (hds : Plain (utf8 ds)) :
    Plain (utf8 (cs ++ ds)) := by
  rw [utf8_append]
  exact hcs.append hds

theorem isMessage_utf8_append {cs ds : List Char} (hcs : Plain (utf8 cs))
    (hds : IsMessage (utf8 ds)) : IsMessage (utf8 (cs ++ ds)) := by
  rw [utf8_append]
  exact hds.append hcs

/-- One more literal text and one more number. -/
theorem plain_field {front literal field : List Char} (hfront : Plain (utf8 front))
    (hliteral : Plain (utf8 literal)) (hfield : ∀ c ∈ field, IsDecimalChar c) :
    Plain (utf8 (front ++ literal ++ field)) :=
  plain_utf8_append (plain_utf8_append hfront hliteral) (plain_decimal hfield)

/-- A message with one sensor id in it. -/
theorem isMessage_idText {front back : List Char} (id : UInt16) (hfront : Plain (utf8 front))
    (hback : IsMessage (utf8 back)) : IsMessage (utf8 (front ++ idText id ++ back)) :=
  isMessage_utf8_append (plain_utf8_append hfront (plain_decimal isDecimalChar_idText)) hback

theorem LogMessage.isMessage (m : LogMessage) : IsMessage m.bytes := by
  unfold LogMessage.bytes
  cases m with
  | opened id => exact isMessage_idText id (by decide) (by decide)
  | closed id => exact isMessage_idText id (by decide) (by decide)
  | timedOut id => exact isMessage_idText id (by decide) (by decide)
  | invalidId id => exact isMessage_idText id (by decide) (by decide)
  | tooCold id runningAvg =>
    apply isMessage_utf8_append
    · apply plain_field
      · exact plain_utf8_append (by decide) (plain_decimal isDecimalChar_idText)
      · decide
      · exact isDecimalChar_text
    · decide
  | tooWarm roomId id runningAvg ts =>
    apply isMessage_utf8_append
    · apply plain_field
      · apply plain_field
        · apply plain_field
          · exact plain_utf8_append (by decide) (plain_decimal isDecimalChar_idText)
          · decide
          · exact isDecimalChar_idText
        · decide
        · exact isDecimalChar_text
      · decide
      · exact isDecimalChar_intText
    · decide
  | connectFailed => decide
  | connected => decide
  | tableCreated => decide
  | connectionLost => decide

/-! ## The length of a message -/

theorem utf8_idText_length (id : UInt16) : (utf8 (idText id)).length = (idText id).length :=
  utf8_decimal_length isDecimalChar_idText

theorem idText_length_le (id : UInt16) : (idText id).length ≤ 5 := by
  have hlt := id.toNat_lt
  exact (natText_length_le_iff (by decide)).mpr (by omega)

theorem utf8_append_length (cs ds : List Char) :
    (utf8 (cs ++ ds)).length = (utf8 cs).length + (utf8 ds).length := by
  rw [utf8_append, List.length_append]

/-- A message with one sensor id in it fits the buffer. -/
theorem utf8_idText_append_length_le {front back : List Char} (id : UInt16)
    (h : (utf8 front).length + (utf8 back).length ≤ 394) :
    (utf8 (front ++ idText id ++ back)).length ≤ 399 := by
  have hid := idText_length_le id
  rw [utf8_append_length, utf8_append_length, utf8_idText_length]
  omega

theorem tooCold_length (id : UInt16) (runningAvg : Double) :
    (LogMessage.tooCold id runningAvg).bytes.length =
      (idText id).length + (runningAvg.text 6).length + 76 := by
  have hsensor : (utf8 "The sensor node with ".toList).length = 21 := by decide
  have hcold : (utf8 " reports it’s too cold (running avg temperature = ".toList).length = 52 := by
    decide
  have hend : (utf8 ") \n".toList).length = 3 := by decide
  unfold LogMessage.bytes LogMessage.text
  rw [utf8_append_length, utf8_append_length, utf8_append_length, utf8_append_length,
    hsensor, hcold,
    hend, utf8_idText_length, utf8_decimal_length isDecimalChar_text]
  omega

theorem tooWarm_length (roomId id : UInt16) (runningAvg : Double) (ts : Int64) :
    (LogMessage.tooWarm roomId id runningAvg ts).bytes.length =
      (idText roomId).length + (idText id).length + (runningAvg.text 6).length +
        (intText ts.toInt).length + 67 := by
  have hroom : (utf8 "It's too warm in room ".toList).length = 22 := by decide
  have hsensor : (utf8 " for sensor ".toList).length = 12 := by decide
  have havg : (utf8 " with a running average of ".toList).length = 27 := by decide
  have hon : (utf8 " on ".toList).length = 4 := by decide
  have hend : (utf8 " \n".toList).length = 2 := by decide
  unfold LogMessage.bytes LogMessage.text
  rw [utf8_append_length, utf8_append_length, utf8_append_length, utf8_append_length,
    utf8_append_length, utf8_append_length, utf8_append_length, utf8_append_length, hroom, hsensor,
    havg, hon, hend, utf8_idText_length, utf8_idText_length, utf8_decimal_length isDecimalChar_text,
    utf8_decimal_length isDecimalChar_intText]
  omega

/-- Only the message for a room that is too warm can be longer than the buffer. -/
theorem LogMessage.fits_iff (m : LogMessage) : m.Fits ↔ m.bytes.length ≤ recBufSize - 1 := by
  show m.Fits ↔ m.bytes.length ≤ 399
  cases m with
  | opened id => exact iff_of_true trivial (utf8_idText_append_length_le id (by decide))
  | closed id => exact iff_of_true trivial (utf8_idText_append_length_le id (by decide))
  | timedOut id => exact iff_of_true trivial (utf8_idText_append_length_le id (by decide))
  | invalidId id => exact iff_of_true trivial (utf8_idText_append_length_le id (by decide))
  | tooCold id runningAvg =>
    have hid := idText_length_le id
    have havg := runningAvg.text_length_le
    rw [tooCold_length]
    exact iff_of_true trivial (by omega)
  | tooWarm roomId id runningAvg ts =>
    rw [tooWarm_length]
    unfold LogMessage.Fits
    omega
  | connectFailed => exact iff_of_true trivial (by decide)
  | connected => exact iff_of_true trivial (by decide)
  | tableCreated => exact iff_of_true trivial (by decide)
  | connectionLost => exact iff_of_true trivial (by decide)

/-! ## The lines that are read and the log -/

/-- The value of the `int` that is incremented for the first time for the message of number `k`. -/
def sequenceOf (k : Nat) : Int := (k : Int).bmod (2 ^ 32)

theorem nextSequence_sequenceOf (k : Nat) : nextSequence (sequenceOf k) = sequenceOf (k + 1) := by
  unfold nextSequence sequenceOf
  rw [Int.bmod_add_bmod, Nat.cast_succ]

theorem sequenceOf_eq_iff {k : Nat} : sequenceOf k = k ↔ k < 2 ^ 31 := by
  unfold sequenceOf
  constructor
  · intro h
    have hlt := @Int.bmod_lt k (2 ^ 32) (by decide)
    rw [h] at hlt
    norm_num at hlt ⊢
    exact_mod_cast hlt
  · intro h
    apply Int.bmod_eq_of_le
    · norm_num
    · norm_num
      omega

/-- The entries of the lines that are read at the given times, the first after `k` others. -/
def logEntries : Nat → List (Int × List UInt8) → List UInt8
  | _, [] => []
  | k, (time, line) :: lines => logEntry (sequenceOf (k + 1)) time line ++ logEntries (k + 1) lines

theorem logEntries_nil (k : Nat) : logEntries k [] = [] := rfl

theorem logEntries_cons (k : Nat) (time : Int) (line : List UInt8)
    (lines : List (Int × List UInt8)) :
    logEntries k ((time, line) :: lines) =
      logEntry (sequenceOf (k + 1)) time line ++ logEntries (k + 1) lines := rfl

theorem logEntries_concat (k : Nat) (lines : List (Int × List UInt8)) (time : Int)
    (line : List UInt8) :
    logEntries k (lines ++ [(time, line)]) =
      logEntries k lines ++ logEntry (sequenceOf (k + lines.length + 1)) time line := by
  induction lines generalizing k with
  | nil =>
    rw [List.nil_append, logEntries_cons, logEntries_nil, logEntries_nil, List.append_nil,
      List.nil_append, List.length_nil, Nat.add_zero]
  | cons first lines ih =>
    have hk : k + (first :: lines).length + 1 = k + 1 + lines.length + 1 := by
      rw [List.length_cons]
      omega
    rw [hk, List.cons_append, logEntries_cons, logEntries_cons, ih, List.append_assoc]

/-- The number and the time of an entry are read back from it. -/
theorem header_inj {n n' t t' : Int} {x y : List UInt8}
    (h : utf8 (intText n) ++ space :: (utf8 (intText t) ++ space :: x) =
      utf8 (intText n') ++ space :: (utf8 (intText t') ++ space :: y)) :
    n = n' ∧ t = t' ∧ x = y := by
  have hint : ∀ {z z' : Int}, utf8 (intText z) = utf8 (intText z') → z = z' := by
    intro z z' heq
    have htext := utf8_decimal_inj isDecimalChar_intText isDecimalChar_intText heq
    have hparse := congrArg parseInt htext
    rw [parseInt_intText, parseInt_intText] at hparse
    exact Option.some.inj hparse
  have hspace : ∀ {z : Int}, space ∉ utf8 (intText z) := space_notMem_decimal isDecimalChar_intText
  obtain ⟨hn, hrest⟩ := append_cons_inj hspace hspace h
  obtain ⟨ht, hrest⟩ := append_cons_inj hspace hspace hrest
  exact ⟨hint hn, hint ht, hrest⟩

/-- What stands in front of a line in its entry. -/
def logHeader (number time : Int) : List UInt8 :=
  utf8 (intText number) ++ space :: (utf8 (intText time) ++ [space])

theorem logEntry_eq (number time : Int) (line : List UInt8) :
    logEntry number time line = logHeader number time ++ cString line := by
  simp [logEntry, logHeader]

theorem plain_logHeader (number time : Int) : Plain (logHeader number time) := by
  have hspace : Plain [space] := by decide
  have hint : ∀ z, Plain (utf8 (intText z)) := fun z => plain_decimal isDecimalChar_intText
  exact (hint number).append (hspace.append ((hint time).append hspace))

/-- The first line of the log is longer than the first line of the stream. -/
theorem logEntries_first_line {lines : List (Int × List UInt8)} {k : Nat} {body rest : List UInt8}
    (hcomplete : ∀ line ∈ lines.map Prod.snd, Complete newline (recBufSize - 1) line)
    (hbody : Plain body) (hstream : (lines.map Prod.snd).flatten = body ++ newline :: rest) :
    ∃ first more, logEntries k lines = first ++ newline :: more ∧ newline ∉ first ∧
      body.length < first.length := by
  induction lines generalizing k body with
  | nil =>
    have hnil := congrArg List.length hstream
    simp at hnil
  | cons read lines ih =>
    obtain ⟨time, line⟩ := read
    have hline := hcomplete line List.mem_cons_self
    have hheader := plain_logHeader (sequenceOf (k + 1)) time
    show ∃ first more, logEntry _ _ line ++ logEntries (k + 1) lines = _ ∧ _
    rw [logEntry_eq]
    rcases hline.cases hbody.notMem hstream with ⟨-, rfl, hmore⟩ | ⟨-, rfl, hmore⟩
    · -- the line is read at once
      have hstring : cString (body ++ [newline]) = body ++ [newline] :=
        IsMessage.cString ⟨body, rfl, hbody⟩
      refine ⟨logHeader (sequenceOf (k + 1)) time ++ body, logEntries (k + 1) lines, ?_,
        (hheader.append hbody).notMem, ?_⟩
      · rw [hstring]
        simp
      · simp [logHeader]
        omega
    · -- the line is longer than the buffer, and its end is read later
      have htake : Plain (body.take (recBufSize - 1)) := fun b hb =>
        hbody b (List.mem_of_mem_take hb)
      have hdrop : Plain (body.drop (recBufSize - 1)) := fun b hb =>
        hbody b (List.mem_of_mem_drop hb)
      have hstring := cString_of_ne_zero fun b hb => (htake b hb).1
      obtain ⟨first, more, hlog, hfirst, hlen⟩ := @ih (k + 1) _
        (fun line hmem => hcomplete line (List.mem_cons_of_mem _ hmem)) hdrop hmore
      refine ⟨logHeader (sequenceOf (k + 1)) time ++ body.take (recBufSize - 1) ++ first, more, ?_,
        ?_, ?_⟩
      · rw [hstring, hlog]
        simp
      · intro hmem
        exact (List.mem_append.mp hmem).elim (hheader.append htake).notMem hfirst
      · have hsplit := congrArg List.length (List.take_append_drop (recBufSize - 1) body)
        rw [List.length_append] at hsplit
        rw [List.length_append, List.length_append]
        omega

/-- The log of a stream of messages that all fit, with numbers that an `int` can have. -/
theorem logEntries_eq_logLines {lines : List (Int × List UInt8)} {messages : List LogMessage}
    {k : Nat} (hlines : lines.map Prod.snd = messages.map LogMessage.bytes)
    (hk : k + messages.length < 2 ^ 31) :
    logEntries k lines = logLines k (lines.map Prod.fst) messages := by
  induction messages generalizing k lines with
  | nil =>
    rw [List.map_nil, List.map_eq_nil_iff] at hlines
    subst hlines
    rfl
  | cons m messages ih =>
    cases lines with
    | nil => cases hlines
    | cons read lines =>
      obtain ⟨time, line⟩ := read
      obtain ⟨rfl, hrest⟩ := List.cons.inj hlines
      rw [List.length_cons] at hk
      have hnumber : sequenceOf (k + 1) = ((k + 1 : ℕ) : Int) := sequenceOf_eq_iff.mpr (by omega)
      show logEntry _ _ m.bytes ++ logEntries (k + 1) lines = _ ++ logLines (k + 1) _ messages
      rw [ih hrest (by omega), hnumber]
      unfold logEntry
      rw [m.isMessage.cString]
      rfl

/-- An entry that is the line of a message has the number and the text of the message. -/
theorem number_of_logEntries_eq {lines : List (Int × List UInt8)} {messages : List LogMessage}
    {m : LogMessage} {k : Nat} {time time' : Int} {line : List UInt8} {times : List Int}
    (hlog : logEntries k ((time', line) :: lines) = logLines k (time :: times) (m :: messages)) :
    sequenceOf (k + 1) = ((k + 1 : ℕ) : Int) ∧
      cString line ++ logEntries (k + 1) lines = m.bytes ++ logLines (k + 1) times messages := by
  have hheads : utf8 (intText (sequenceOf (k + 1))) ++ space :: (utf8 (intText time') ++
      space :: (cString line ++ logEntries (k + 1) lines)) =
      utf8 (intText ((k + 1 : ℕ) : Int)) ++ space :: (utf8 (intText time) ++
        space :: (m.bytes ++ logLines (k + 1) times messages)) := by
    simpa [logEntries, logLines, logEntry] using hlog
  obtain ⟨hnumber, -, htail⟩ := header_inj hheads
  exact ⟨hnumber, htail⟩

/-- The log of a line that is too long does not begin with the line: its rest has an entry of its
    own. -/
theorem logEntries_long_line {lines : List (Int × List UInt8)} {k : Nat}
    {body rest more : List UInt8}
    (hcomplete : ∀ line ∈ lines.map Prod.snd, Complete newline (recBufSize - 1) line)
    (hbody : Plain body)
    (hstream : (lines.map Prod.snd).flatten = body.drop (recBufSize - 1) ++ newline :: rest) :
    cString (body.take (recBufSize - 1)) ++ logEntries k lines ≠ body ++ newline :: more := by
  have htake : Plain (body.take (recBufSize - 1)) := fun b hb => hbody b (List.mem_of_mem_take hb)
  have hdrop : Plain (body.drop (recBufSize - 1)) := fun b hb => hbody b (List.mem_of_mem_drop hb)
  obtain ⟨first, after, hlog, hfirst, hlonger⟩ :=
    @logEntries_first_line lines k _ _ hcomplete hdrop hstream
  rw [cString_of_ne_zero fun b hb => (htake b hb).1, hlog, ← List.append_assoc]
  intro heq
  have hline : newline ∉ body.take (recBufSize - 1) ++ first := by
    intro hmem
    exact (List.mem_append.mp hmem).elim htake.notMem hfirst
  have hsame := congrArg List.length (append_cons_inj hline hbody.notMem heq).1
  have hsplit := congrArg List.length (List.take_append_drop (recBufSize - 1) body)
  rw [List.length_append] at hsame hsplit
  omega

/-- A log with one line for each message is that of messages that all fit, and its numbers are ones
    that an `int` can have. -/
theorem fits_of_logEntries_eq {lines : List (Int × List UInt8)} {messages : List LogMessage}
    {k : Nat} {times : List Int}
    (hcomplete : ∀ line ∈ lines.map Prod.snd, Complete newline (recBufSize - 1) line)
    (hstream : (lines.map Prod.snd).flatten = messages.flatMap LogMessage.bytes)
    (htimes : times.length = messages.length) (hk : k < 2 ^ 31)
    (hlog : logEntries k lines = logLines k times messages) :
    (∀ m ∈ messages, m.Fits) ∧ k + messages.length < 2 ^ 31 := by
  induction messages generalizing k lines times with
  | nil => exact ⟨by simp, hk⟩
  | cons m messages ih =>
    obtain ⟨time, times, rfl⟩ := List.exists_cons_of_length_eq_add_one htimes
    obtain ⟨body, hbytes, hbody⟩ := m.isMessage
    have hnext : ∀ bs : List UInt8, m.bytes ++ bs = body ++ newline :: bs := by
      intro bs
      rw [hbytes, List.append_assoc]
      rfl
    rw [List.flatMap_cons, hnext] at hstream
    cases lines with
    | nil =>
      have hnil := congrArg List.length hstream
      simp at hnil
    | cons read lines =>
      obtain ⟨time', line⟩ := read
      have hrest : ∀ line ∈ lines.map Prod.snd, Complete newline (recBufSize - 1) line :=
        fun line hmem => hcomplete line (List.mem_cons_of_mem _ hmem)
      obtain ⟨hnumber, htail⟩ := number_of_logEntries_eq hlog
      rcases (hcomplete line List.mem_cons_self).cases hbody.notMem hstream with
        ⟨hlen, rfl, hmore⟩ | ⟨-, rfl, hmore⟩
      · rw [← hbytes, m.isMessage.cString] at htail
        obtain ⟨hfits, hcount⟩ :=
          ih hrest hmore (Nat.succ.inj htimes) (sequenceOf_eq_iff.mp hnumber)
          (List.append_cancel_left htail)
        have hm : m.Fits := by
          rw [m.fits_iff, hbytes, List.length_append, List.length_singleton]
          omega
        refine ⟨List.forall_mem_cons.mpr ⟨hm, hfits⟩, ?_⟩
        rw [List.length_cons]
        omega
      · rw [hnext] at htail
        exact absurd htail (logEntries_long_line hrest hbody hmore)

/-! ## Runs of the processes -/

/-- The lines that were read at the given times are the front of the stream of the messages written,
    and the log has an entry for each. -/
structure Logged (s : LogSystem) (lines : List (Int × List UInt8)) : Prop where
  stream : (lines.map Prod.snd).flatten ++ s.fifo = s.written.flatMap LogMessage.bytes
  complete : ∀ line ∈ lines.map Prod.snd, Complete newline (recBufSize - 1) line
  fifo : EndsLines newline s.fifo
  sequenceNumber : s.sequenceNumber = sequenceOf lines.length
  log : s.log = logEntries 0 lines

section Runs

variable {pending : Writer → List LogMessage} {s s' : LogSystem} {lines : List (Int × List UInt8)}

theorem logged_start : Logged (.start pending) [] where
  stream := rfl
  complete := by simp
  fifo := .inl rfl
  sequenceNumber := rfl
  log := rfl

/-- What a call of `write_to_FIFO` does. -/
theorem step_write {writer : Writer} (h : s.step (.write writer) = some s') :
    ∃ message rest, s.pending writer = message :: rest ∧
      s' = { s with
        pending := Function.update s.pending writer rest
        written := s.written ++ [message]
        fifo := s.fifo ++ message.bytes } := by
  unfold LogSystem.step at h
  cases hpending : s.pending writer with
  | nil => simp [hpending] at h
  | cons message rest =>
    simp only [hpending] at h
    exact ⟨message, rest, rfl, (Option.some.inj h).symm⟩

/-- What a pass of the loop of `run_child` does. -/
theorem step_read {time : Int} (h : s.step (.read time) = some s') :
    s.canRead ∧ s' = { s with
      fifo := (takeLine newline (recBufSize - 1) s.fifo).2
      sequenceNumber := nextSequence s.sequenceNumber
      log := s.log ++ logEntry (nextSequence s.sequenceNumber) time
        (takeLine newline (recBufSize - 1) s.fifo).1 } := by
  unfold LogSystem.step at h
  split_ifs at h with hread
  exact ⟨hread, (Option.some.inj h).symm⟩

theorem fifo_ne_nil_of_canRead (h : s.canRead) : s.fifo ≠ [] := by
  intro hnil
  unfold LogSystem.canRead at h
  rw [hnil] at h
  exact absurd h (by simp [recBufSize, takeLine])

theorem Logged.step (h : Logged s lines) {action : LogAction} (hs : s.step action = some s') :
    ∃ lines', Logged s' lines' := by
  cases action with
  | write writer =>
    obtain ⟨message, rest, -, rfl⟩ := step_write hs
    refine ⟨lines, ?_, h.complete, message.isMessage.isLine.endsLines_append s.fifo,
      h.sequenceNumber, h.log⟩
    show _ ++ (s.fifo ++ message.bytes) = _
    rw [← List.append_assoc, h.stream, List.flatMap_append, List.flatMap_singleton]
  | read time =>
    obtain ⟨hread, rfl⟩ := step_read hs
    have hsplit := @takeLine_append _ newline _ (recBufSize - 1) s.fifo
    have hline := @complete_takeLine _ newline (recBufSize - 1) _ (by decide) _
      (fifo_ne_nil_of_canRead hread) h.fifo
    refine ⟨lines ++ [(time, (takeLine newline (recBufSize - 1) s.fifo).1)], ?_, ?_,
      endsLines_rest h.fifo, ?_, ?_⟩
    · show _ ++ (takeLine newline (recBufSize - 1) s.fifo).2 = _
      rw [List.map_append, List.flatten_append, List.append_assoc]
      simp only [List.map_cons, List.map_nil, List.flatten_singleton]
      rw [hsplit]
      exact h.stream
    · intro line hmem
      rw [List.map_append] at hmem
      rcases List.mem_append.mp hmem with hmem | hmem
      · exact h.complete line hmem
      · rw [List.mem_singleton.mp hmem]
        exact hline
    · show nextSequence s.sequenceNumber = _
      rw [h.sequenceNumber, nextSequence_sequenceOf, List.length_append, List.length_singleton]
    · show s.log ++ logEntry (nextSequence s.sequenceNumber) time _ = _
      rw [logEntries_concat, h.log, h.sequenceNumber, nextSequence_sequenceOf, Nat.zero_add]

theorem exists_logged (h : Reach LogSystem.step (.start pending) s) : ∃ lines, Logged s lines := by
  apply h.invariant (P := fun s => ∃ lines, Logged s lines) ⟨[], logged_start⟩
  rintro s action s' ⟨lines, hlogged⟩ - hs
  exact hlogged.step hs

/-! ## The messages of a run -/

/-- A thread's next message and the ones that are left after it. -/
theorem allMessages_update {writer : Writer} {message : LogMessage} {rest : List LogMessage}
    (h : pending writer = message :: rest) :
    (message :: allMessages (Function.update pending writer rest)).Perm (allMessages pending) := by
  unfold allMessages
  cases writer with
  | connmgr =>
    rw [h]
    exact .refl _
  | datamgr =>
    rw [h]
    simp only [Function.update_self, ne_eq, reduceCtorEq, not_false_eq_true, Function.update_of_ne]
    exact (List.perm_middle.append_right _).symm
  | storagemgr =>
    rw [h]
    simp only [Function.update_self, ne_eq, reduceCtorEq, not_false_eq_true, Function.update_of_ne]
    exact List.perm_middle.symm

theorem perm_step {action : LogAction} (hs : s.step action = some s') :
    (s'.written ++ allMessages s'.pending).Perm (s.written ++ allMessages s.pending) := by
  cases action with
  | write writer =>
    obtain ⟨message, rest, hpending, rfl⟩ := step_write hs
    show ((s.written ++ [message]) ++ allMessages (Function.update s.pending writer rest)).Perm _
    rw [List.append_assoc]
    exact (allMessages_update hpending).append_left _
  | read time =>
    obtain ⟨-, rfl⟩ := step_read hs
    exact .refl _

theorem perm_reach (h : Reach LogSystem.step (.start pending) s) :
    (s.written ++ allMessages s.pending).Perm (allMessages pending) := by
  apply h.invariant (P := fun s => (s.written ++ allMessages s.pending).Perm (allMessages pending))
    (.refl _)
  intro s action s' hperm _ hs
  exact (perm_step hs).trans hperm

theorem allMessages_eq_nil_iff : allMessages s.pending = [] ↔ s.writersDone = true := by
  unfold allMessages LogSystem.writersDone
  simp [and_assoc]

theorem perm_done (h : Reach LogSystem.step (.start pending) s) (hdone : s.Done) :
    s.written.Perm (allMessages pending) := by
  have hperm := perm_reach h
  rwa [allMessages_eq_nil_iff.mpr hdone.1, List.append_nil] at hperm

/-! ## The end of a run -/

theorem exists_pending (h : ¬ s.writersDone = true) : ∃ writer message rest,
    s.pending writer = message :: rest := by
  by_contra hnone
  have hnil : ∀ writer, s.pending writer = [] := by
    intro writer
    by_contra hne
    obtain ⟨message, rest, hpending⟩ := List.exists_cons_of_ne_nil hne
    exact hnone ⟨writer, message, rest, hpending⟩
  apply h
  unfold LogSystem.writersDone
  simp [hnil]

/-- The threads can write all their messages. -/
theorem exists_written (s : LogSystem) :
    ∃ s', Reach LogSystem.step s s' ∧ s'.writersDone = true := by
  induction hn : (allMessages s.pending).length generalizing s with
  | zero => exact ⟨s, .refl, allMessages_eq_nil_iff.mp (List.eq_nil_of_length_eq_zero hn)⟩
  | succ n ih =>
    have hnot : ¬ s.writersDone = true := by
      intro hdone
      rw [allMessages_eq_nil_iff.mpr hdone] at hn
      cases hn
    obtain ⟨writer, message, rest, hpending⟩ := exists_pending hnot
    have hlength := (allMessages_update hpending).length_eq
    rw [List.length_cons, hn] at hlength
    obtain ⟨s', hreach, hdone⟩ := ih { s with
      pending := Function.update s.pending writer rest
      written := s.written ++ [message]
      fifo := s.fifo ++ message.bytes } (Nat.succ.inj hlength)
    refine ⟨s', .head ⟨.write writer, trivial, ?_⟩ hreach, hdone⟩
    simp only [LogSystem.step, hpending]

theorem canRead_of_writersDone (h : s.writersDone = true) (hne : s.fifo ≠ []) : s.canRead := by
  have hline := @takeLine_ne_nil _ newline (recBufSize - 1) _ (by decide) _ hne
  unfold LogSystem.canRead
  simp [hline, h]

/-- The log process can read all that is written. -/
theorem exists_read (h : s.writersDone = true) : ∃ s', Reach LogSystem.step s s' ∧ s'.Done := by
  induction hn : s.fifo.length using Nat.strong_induction_on generalizing s with
  | h n ih =>
    by_cases hnil : s.fifo = []
    · exact ⟨s, .refl, h, hnil⟩
    · have hline := @takeLine_ne_nil _ newline (recBufSize - 1) _ (by decide) _ hnil
      have hsplit := congrArg List.length (@takeLine_append _ newline _ (recBufSize - 1) s.fifo)
      have hpos := List.length_pos_iff.mpr hline
      rw [List.length_append] at hsplit
      obtain ⟨s', hreach, hdone⟩ :=
        @ih (takeLine newline (recBufSize - 1) s.fifo).2.length (by omega) { s with
          fifo := (takeLine newline (recBufSize - 1) s.fifo).2
          sequenceNumber := nextSequence s.sequenceNumber
          log := s.log ++ logEntry (nextSequence s.sequenceNumber) 0
            (takeLine newline (recBufSize - 1) s.fifo).1 } h rfl
      refine ⟨s', .head ⟨.read 0, trivial, ?_⟩ hreach, hdone⟩
      unfold LogSystem.step
      exact if_pos (canRead_of_writersDone h hnil)

theorem exists_done (pending : Writer → List LogMessage) :
    ∃ s, Reach LogSystem.step (.start pending) s ∧ s.Done := by
  obtain ⟨t, hwrites, hdone⟩ := exists_written (.start pending)
  obtain ⟨s, hreads, hdone⟩ := exists_read hdone
  exact ⟨s, hwrites.trans hreads, hdone⟩

/-- The log has one line for each message if and only if they all fit and the sequence number can
    count them. -/
theorem oneLineEach_iff (h : Reach LogSystem.step (.start pending) s) (hdone : s.Done) :
    OneLineEach s ↔ (∀ m ∈ s.written, m.Fits) ∧ s.written.length < 2 ^ 31 := by
  obtain ⟨lines, hlogged⟩ := exists_logged h
  have hstream : (lines.map Prod.snd).flatten = s.written.flatMap LogMessage.bytes := by
    have hall := hlogged.stream
    rwa [hdone.2, List.append_nil] at hall
  constructor
  · rintro ⟨times, htimes, hlog⟩
    rw [hlogged.log] at hlog
    have hfits := fits_of_logEntries_eq hlogged.complete hstream htimes (by decide) hlog
    rwa [Nat.zero_add] at hfits
  · rintro ⟨hfits, hcount⟩
    have hmessages : ∀ line ∈ s.written.map LogMessage.bytes,
        Complete newline (recBufSize - 1) line := by
      intro line hmem
      obtain ⟨m, hm, rfl⟩ := List.mem_map.mp hmem
      exact m.isMessage.isLine.complete (m.fits_iff.mp (hfits m hm))
    have hlines := chunks_unique hlogged.complete hmessages hstream
    refine ⟨lines.map Prod.fst, ?_, ?_⟩
    · have hlength := congrArg List.length hlines
      rw [List.length_map, List.length_map] at hlength
      rw [List.length_map]
      exact hlength
    · rw [hlogged.log]
      exact logEntries_eq_logLines hlines (by rwa [Nat.zero_add])

end Runs

/-! ## The log -/

/-- Every interleaving of the writes and the reads can be finished, and has written all messages
    then. Its log has one line for each, in the order of the writes and with consecutive numbers
    from 1 on, if and only if no message is too long for the buffer and an `int` can count them. -/
theorem log_lines_iff (pending : Writer → List LogMessage) :
    (∃ s, Reach LogSystem.step (.start pending) s ∧ s.Done) ∧
    ∀ s, Reach LogSystem.step (.start pending) s → s.Done →
      s.written.Perm (allMessages pending) ∧
      (OneLineEach s ↔
        (∀ m ∈ allMessages pending, m.Fits) ∧ (allMessages pending).length < 2 ^ 31) := by
  refine ⟨exists_done pending, ?_⟩
  intro s hreach hdone
  have hperm := perm_done hreach hdone
  refine ⟨hperm, ?_⟩
  rw [oneLineEach_iff hreach hdone, hperm.length_eq]
  simp only [hperm.mem_iff]

/-- Two threads with a message each. -/
def samplePending : Writer → List LogMessage
  | .connmgr => [.opened 15]
  | .datamgr => [.invalidId 112]
  | .storagemgr => []

theorem log_lines_iff_sample :
    ∃ s, Reach LogSystem.step (.start samplePending) s ∧ s.Done ∧ OneLineEach s := by
  obtain ⟨⟨s, hreach, hdone⟩, hall⟩ := log_lines_iff samplePending
  refine ⟨s, hreach, hdone, (hall s hreach hdone).2.mpr ⟨?_, ?_⟩⟩
  · decide
  · decide

/-- A room with an average of 2 to the power of 1023, which has 308 digits in front of the point. -/
def hugeAvg : Double := ⟨0x7FE0000000000000, by decide⟩

def hotPending : Writer → List LogMessage
  | .datamgr => [.tooWarm 10001 10015 hugeAvg 1700000000]
  | _ => []

theorem log_lines_fails :
    ¬ ∀ s, Reach LogSystem.step (.start hotPending) s → s.Done → OneLineEach s := by
  intro hall
  obtain ⟨s, hreach, hdone⟩ := exists_done hotPending
  have hperm := perm_done hreach hdone
  have hfits := ((oneLineEach_iff hreach hdone).mp (hall s hreach hdone)).1
  have hlong : ¬ (LogMessage.tooWarm 10001 10015 hugeAvg 1700000000).Fits := by decide +kernel
  exact hlong (hfits _ (hperm.mem_iff.mpr (by simp [allMessages, hotPending])))

end SensorGateway
