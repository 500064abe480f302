import SensorGateway.Datamgr.Datamgr
import SensorGateway.Lib.Scan

/-!
# The text of the map file

`room_sensor.map` as `file_creator` writes it and as the `fscanf` of the data manager reads it,
character by character.
-/

namespace SensorGateway

open Decimal Scan

/-! ## The writer -/

/-- The calls of `fprintf(fp_text, "%" PRIu16 " %" PRIu16 "\n", room_id[i], sensor_id[i])`. -/
def mapText (pairs : List (UInt16 × UInt16)) : List Char :=
  pairs.flatMap fun (room, sensor) =>
    natText room.toNat ++ (' ' :: (natText sensor.toNat ++ ['\n']))

/-- `room_id` and `sensor_id` of `file_creator`. -/
def fileCreatorPairs : List (UInt16 × UInt16) :=
  [(1, 15), (2, 21), (3, 37), (4, 49), (11, 112), (12, 129), (13, 132), (14, 142)]

/-! ## The reader -/

/-- `%hd`, up to the cut to 16 bits. The blank in front of the second one skips what it skips
    itself. -/
def scanHd (cs : List Char) : Option Int × List Char :=
  ((scanInt cs).1.map toLong, (scanInt cs).2)

theorem scanHd_length_lt {cs rest : List Char} {n : Int} (h : scanHd cs = (some n, rest)) :
    rest.length < cs.length := by
  obtain ⟨hfst, rfl⟩ := Prod.mk.inj h
  apply scanInt_length_lt
  intro hnone
  rw [hnone] at hfst
  cases hfst

theorem scanHd_length_le {cs rest : List Char} {r : Option Int} (h : scanHd cs = (r, rest)) :
    rest.length ≤ cs.length := by
  obtain ⟨-, rfl⟩ := Prod.mk.inj h
  exact (scanInt_suffix cs).length_le

/-- The loop on `fscanf(fp_sensor_map, "%hd %hd", &room_bfr, &sensor_bfr) > 0`, as in `readMap`. -/
def readMapText (sensorBfr : UInt16) (junk : Nat → Uninitialised) (sensorList : List Sensor)
    (cs : List Char) : List Sensor :=
  match _ : scanHd cs with
  | (none, _) => sensorList
  | (some room, rest) =>
    match _ : scanHd rest with
    | (none, rest') =>
      readMapText sensorBfr (fun k => junk (k + 1))
        (insertSensorEntry (UInt16.ofInt room) sensorBfr (junk 0) sensorList) rest'
    | (some sensor, rest') =>
      readMapText (UInt16.ofInt sensor) (fun k => junk (k + 1))
        (insertSensorEntry (UInt16.ofInt room) (UInt16.ofInt sensor) (junk 0) sensorList) rest'
termination_by cs.length
decreasing_by
  all_goals
    have hlt := scanHd_length_lt ‹scanHd cs = _›
    have hle := scanHd_length_le ‹scanHd rest = _›
    omega

/-- What the conversions meet in a text. -/
def mapTokens (cs : List Char) : List MapToken :=
  match _ : scanHd cs with
  | (none, _) => if cs.all isSpace then [] else [.text]
  | (some n, rest) => .number n :: mapTokens rest
termination_by cs.length
decreasing_by exact scanHd_length_lt ‹scanHd cs = _›

end SensorGateway
