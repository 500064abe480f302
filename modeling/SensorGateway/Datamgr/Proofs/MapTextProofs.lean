import SensorGateway.Datamgr.MapText
import SensorGateway.Datamgr.Proofs.MapFileProofs

/-!
# Reading the text of a map file

The loop over the characters is the one over the numbers and the text that the conversions meet, and
the lines that `file_creator` writes are read back.
-/

namespace SensorGateway

open Decimal Scan

/-! ## From characters to numbers -/

theorem mapTokens_of_none {cs rest : List Char} (h : scanHd cs = (none, rest)) :
    mapTokens cs = if cs.all isSpace then [] else [.text] := by
  rw [mapTokens]
  split
  · rfl
  · next h' => rw [h] at h'; cases h'

theorem mapTokens_of_some {cs rest : List Char} {n : Int} (h : scanHd cs = (some n, rest)) :
    mapTokens cs = .number n :: mapTokens rest := by
  rw [mapTokens]
  split
  · next h' => rw [h] at h'; cases h'
  · next h' => rw [h] at h'; cases h'; rfl

/-- A text without a number at its front ends the map file. -/
theorem endsNumbers_mapTokens {cs rest : List Char} (h : scanHd cs = (none, rest)) :
    EndsNumbers (mapTokens cs) := by
  intro n more
  rw [mapTokens_of_none h]
  split_ifs <;> simp

theorem scanHd_again {cs rest : List Char} (hlead : signsLead cs = true)
    (h : scanHd cs = (none, rest)) : (scanHd rest).1 = none := by
  obtain ⟨hnone, rfl⟩ := Prod.mk.inj h
  rw [Option.map_eq_none_iff] at hnone
  exact Option.map_eq_none_iff.mpr (scanInt_again hlead hnone)

theorem signsLead_of_scanHd {cs rest : List Char} {r : Option Int} (hlead : signsLead cs = true)
    (h : scanHd cs = (r, rest)) : signsLead rest = true := by
  obtain ⟨-, rfl⟩ := Prod.mk.inj h
  exact signsLead_of_suffix hlead (scanInt_suffix cs)

theorem readMapText_of_none {cs : List Char} (h : (scanHd cs).1 = none) (sensorBfr : UInt16)
    (junk : Nat → Uninitialised) (sensorList : List Sensor) :
    readMapText sensorBfr junk sensorList cs = sensorList := by
  rw [readMapText]
  split
  · rfl
  · next h' => rw [h'] at h; cases h

theorem readMapText_of_some_none {cs rest rest' : List Char} {room : Int}
    (h : scanHd cs = (some room, rest)) (h' : scanHd rest = (none, rest')) (sensorBfr : UInt16)
    (junk : Nat → Uninitialised) (sensorList : List Sensor) :
    readMapText sensorBfr junk sensorList cs = readMapText sensorBfr (fun k => junk (k + 1))
      (insertSensorEntry (UInt16.ofInt room) sensorBfr (junk 0) sensorList) rest' := by
  rw [readMapText]
  split
  · next h₁ => rw [h] at h₁; cases h₁
  · next h₁ =>
    rw [h] at h₁
    cases h₁
    split
    · next h₂ => rw [h'] at h₂; cases h₂; rfl
    · next h₂ => rw [h'] at h₂; cases h₂

theorem readMapText_of_some_some {cs rest rest' : List Char} {room sensor : Int}
    (h : scanHd cs = (some room, rest)) (h' : scanHd rest = (some sensor, rest'))
    (sensorBfr : UInt16) (junk : Nat → Uninitialised) (sensorList : List Sensor) :
    readMapText sensorBfr junk sensorList cs =
      readMapText (UInt16.ofInt sensor) (fun k => junk (k + 1))
      (insertSensorEntry (UInt16.ofInt room) (UInt16.ofInt sensor) (junk 0) sensorList) rest' := by
  rw [readMapText]
  split
  · next h₁ => rw [h] at h₁; cases h₁
  · next h₁ =>
    rw [h] at h₁
    cases h₁
    split
    · next h₂ => rw [h'] at h₂; cases h₂
    · next h₂ => rw [h'] at h₂; cases h₂; rfl

theorem readMap_of_endsNumbers {tokens : List MapToken} (h : EndsNumbers tokens)
    (sensorBfr : UInt16) (junk : Nat → Uninitialised) (sensorList : List Sensor) :
    readMap sensorBfr junk sensorList tokens = sensorList := by
  rw [readMap]
  · exact fun room sensor more => h room _
  · exact fun room more => h room _

/-- The loop over the characters is the one over what the conversions meet. -/
theorem readMapText_eq_readMap (sensorBfr : UInt16) (junk : Nat → Uninitialised)
    (sensorList : List Sensor) (cs : List Char) (hlead : signsLead cs = true) :
    readMapText sensorBfr junk sensorList cs =
      readMap sensorBfr junk sensorList (mapTokens cs) := by
  induction sensorBfr, junk, sensorList, cs using readMapText.induct with
  | case1 sensorBfr junk sensorList cs rest h =>
    rw [readMap_of_endsNumbers (endsNumbers_mapTokens h)]
    exact readMapText_of_none (congrArg Prod.fst h) sensorBfr junk sensorList
  | case2 sensorBfr junk sensorList cs room rest h rest' h' ih =>
    -- the next call of `fscanf` meets the same text and ends the loop
    have hends := endsNumbers_mapTokens h'
    have hagain := scanHd_again (signsLead_of_scanHd hlead h) h'
    rw [mapTokens_of_some h, readMap, readMapText_of_some_none h h', readMapText_of_none hagain]
    exact fun sensor more => hends sensor more
  | case3 sensorBfr junk sensorList cs room rest h sensor rest' h' ih =>
    rw [mapTokens_of_some h, mapTokens_of_some h', readMap, readMapText_of_some_some h h']
    exact ih (signsLead_of_scanHd (signsLead_of_scanHd hlead h) h')

/-! ## The lines of `file_creator` -/

theorem toLong_toNat (n : UInt16) : toLong (n.toNat : Int) = n.toNat := by
  have hlt := n.toNat_lt
  unfold toLong
  omega

theorem scanHd_natText {spaces rest : List Char} (hspaces : ∀ c ∈ spaces, isSpace c = true)
    (n : UInt16) (hrest : NoDigit rest) :
    scanHd (spaces ++ (natText n.toNat ++ rest)) = (some (n.toNat : Int), rest) := by
  rw [scanHd, scanInt_natText hspaces n.toNat hrest, Option.map_some, toLong_toNat]

theorem noDigit_cons {c : Char} {cs : List Char} (h : c.isDigit = false) : NoDigit (c :: cs) := by
  intro d hd
  obtain rfl := Option.some.inj hd
  exact h

/-- Behind a line feed or not, the lines read as their numbers. -/
theorem mapTokens_mapText {spaces : List Char} (hspaces : ∀ c ∈ spaces, isSpace c = true)
    (pairs : List (UInt16 × UInt16)) :
    mapTokens (spaces ++ mapText pairs) = numbers (pairs.flatMap fun pair => [pair.1, pair.2]) := by
  induction pairs generalizing spaces with
  | nil =>
    have hskip : spaces.dropWhile isSpace = [] := List.dropWhile_eq_nil_iff.mpr hspaces
    have hnone : scanHd spaces = (none, []) := by
      unfold scanHd scanInt
      rw [hskip]
      rfl
    rw [mapText, List.flatMap_nil, List.append_nil, mapTokens_of_none hnone,
      if_pos (List.all_eq_true.mpr hspaces)]
    rfl
  | cons pair pairs ih =>
    obtain ⟨room, sensor⟩ := pair
    have hblank : NoDigit (' ' :: (natText sensor.toNat ++ ('\n' :: mapText pairs))) :=
      noDigit_cons rfl
    have hroom := scanHd_natText hspaces room hblank
    have hsensor := @scanHd_natText [' '] ('\n' :: mapText pairs) (by simp [isSpace]) sensor
      (noDigit_cons rfl)
    have hrest := @ih ['\n'] (by simp [isSpace])
    have hline : spaces ++ mapText ((room, sensor) :: pairs) =
        spaces ++ (natText room.toNat ++
          (' ' :: (natText sensor.toNat ++ ('\n' :: mapText pairs)))) := by
      simp [mapText]
    rw [hline, mapTokens_of_some hroom]
    rw [List.singleton_append] at hsensor hrest
    rw [mapTokens_of_some hsensor, hrest]
    rfl

theorem signsLead_mapText (pairs : List (UInt16 × UInt16)) : signsLead (mapText pairs) = true := by
  have hnat : ∀ (n : UInt16) (c : Char), c ∈ natText n.toNat → isSign c = false :=
    fun n c hc => isSign_eq_false_of_isDigit (isDigit_of_mem_natText hc)
  apply signsLead_of_forall
  intro c hc
  obtain ⟨⟨room, sensor⟩, -, hc⟩ := List.mem_flatMap.mp hc
  rcases List.mem_append.mp hc with hc | hc
  · exact hnat room c hc
  · rcases List.mem_cons.mp hc with rfl | hc
    · rfl
    · rcases List.mem_append.mp hc with hc | hc
      · exact hnat sensor c hc
      · obtain rfl := List.mem_singleton.mp hc
        rfl

theorem completePairs_flatMap (pairs : List (UInt16 × UInt16)) :
    completePairs (pairs.flatMap fun pair => [pair.1, pair.2]) = pairs := by
  induction pairs with
  | nil => rfl
  | cons pair pairs ih => exact congrArg (pair :: ·) ih

theorem entries_readMapText_mapText (sensorBfr : UInt16) (junk : Nat → Uninitialised)
    (pairs : List (UInt16 × UInt16)) :
    entries (readMapText sensorBfr junk [] (mapText pairs)) = turnedAt 150 pairs := by
  let tokens := pairs.flatMap fun pair => [pair.1, pair.2]
  have htokens : mapTokens (mapText pairs) = numbers tokens :=
    mapTokens_mapText (List.forall_mem_nil _) pairs
  have heven : tokens.length % 2 = 0 := by
    simp [tokens, List.length_flatMap]
  obtain ⟨extra, hentries, hextra⟩ := @entries_buildSensorList [] (fun n more h => nomatch h) tokens
    sensorBfr junk
  rw [hextra.mpr heven, List.append_nil, List.append_nil, completePairs_flatMap] at hentries
  rw [readMapText_eq_readMap sensorBfr junk [] _ (signsLead_mapText pairs), htokens]
  exact hentries

/-- Whatever a map file contains, as long as no sign in it stands alone, the loop over its
    characters builds the sensor list of the numbers in front of the first text. And whatever rooms
    and sensors `file_creator` has, the data manager reads all of them back: in the order of the
    lines up to the 150th and in the opposite order from then on, so that the sensor list is that of
    the lines exactly when the lines from the 151st on read the same in both directions. -/
theorem map_text_round_trip (sensorBfr : UInt16) (junk : Nat → Uninitialised) :
    (∀ sensorList cs, signsLead cs = true →
      readMapText sensorBfr junk sensorList cs = readMap sensorBfr junk sensorList (mapTokens cs)) ∧
    ∀ pairs : List (UInt16 × UInt16),
      entries (readMapText sensorBfr junk [] (mapText pairs)) = turnedAt 150 pairs ∧
        (MapParsed (readMapText sensorBfr junk [] (mapText pairs)) pairs ↔
          (pairs.drop 150).reverse = pairs.drop 150) := by
  refine ⟨readMapText_eq_readMap sensorBfr junk, fun pairs => ?_⟩
  have hentries := entries_readMapText_mapText sensorBfr junk pairs
  rw [mapParsed_iff_entries, hentries]
  exact ⟨rfl, turnedAt_eq_self_iff 150 pairs⟩

/-- A text with signs, and the map of `file_creator`, which is read as it was meant. -/
theorem map_text_round_trip_sample :
    entries (readMapText 0 (fun _ => ⟨0, 0⟩) [] "1 +15\n 2 21 room".toList) = [(1, 15), (2, 21)] ∧
      MapParsed (readMapText 0 (fun _ => ⟨0, 0⟩) [] (mapText fileCreatorPairs))
        fileCreatorPairs := by
  obtain ⟨htext, hpairs⟩ := map_text_round_trip 0 fun _ => ⟨0, 0⟩
  refine ⟨?_, (hpairs fileCreatorPairs).2.mpr rfl⟩
  have htokens : mapTokens "1 +15\n 2 21 room".toList = numbers [1, 15, 2, 21] ++ [.text] := by
    rw [@mapTokens_of_some _ " +15\n 2 21 room".toList 1 rfl,
      @mapTokens_of_some _ "\n 2 21 room".toList 15 rfl,
      @mapTokens_of_some _ " 21 room".toList 2 rfl, @mapTokens_of_some _ " room".toList 21 rfl,
      @mapTokens_of_none _ "room".toList rfl]
    rfl
  rw [htext [] _ rfl, htokens]
  decide

end SensorGateway
