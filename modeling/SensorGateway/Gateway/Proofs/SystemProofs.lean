import SensorGateway.Connmgr.Proofs.FramingProofs
import SensorGateway.Datamgr.Proofs.SensorListProofs
import SensorGateway.Gateway.Proofs.StorageProofs
import SensorGateway.Gateway.System
import SensorGateway.SensorDb.Proofs.DatabaseProofs

/-!
# The whole gateway process refines its parts

A run of the system is a run of the threads over the shared buffer and a run of the connection
manager, coupled by the insertions. From this and the results about the parts follows what the
managers hold in every reachable state, and what they hold for one sensor node.
-/

namespace SensorGateway

open Transition

namespace System

variable {K : Type} [Add K] [Sub K] [Mul K] [Div K] [IntCast K] [LT K] [DecidableLT K]
  {cfg : GatewayConfig K} {G : System K → SystemAction → Prop} {s s' : System K} {a : SystemAction}
  {connmgr : Connmgr} {sensorList : List (Sensor K)} {db : Database}

/-- What one step can do. -/
inductive Moves (cfg : GatewayConfig K) (s : System K) : SystemAction → System K → Prop where
  | iterate (input : IterationInput) (connmgr : Connmgr) (hpc : s.gateway.connmgr = .iteration)
      (htodo : s.toInsert = none)
      (hit : SensorGateway.iterate cfg.timeout s.connmgr input = some connmgr) :
      Moves cfg s (.iterate input) { s with
        connmgr := connmgr
        toInsert := some (insertions (connmgr.log.drop s.connmgr.log.length)) }
  | insert (m : Measurement) (rest : List Measurement)
      (gateway : Gateway Measurement (ManagerState K))
      (htodo : s.toInsert = some (m :: rest))
      (hg : s.gateway.step cfg.setup (.sbufferInsert m) = some gateway) :
      Moves cfg s (.thread (.sbufferInsert m)) { s with gateway := gateway, toInsert := some rest }
  | finish (b : Action Measurement) (gateway : Gateway Measurement (ManagerState K))
      (hb : b = .connmgrNext ∨ b = .connmgrReturn) (htodo : s.toInsert = some [])
      (hg : s.gateway.step cfg.setup b = some gateway) :
      Moves cfg s (.thread b) { s with gateway := gateway, toInsert := none }
  | other (b : Action Measurement) (gateway : Gateway Measurement (ManagerState K))
      (hb : ∀ m, b ≠ .sbufferInsert m) (hg : s.gateway.step cfg.setup b = some gateway) :
      Moves cfg s (.thread b) { s with gateway := gateway }

theorem threadStep_eq_some {b : Action Measurement} {toInsert : Option (List Measurement)}
    (h : s.threadStep cfg b toInsert = some s') :
    ∃ gateway, s.gateway.step cfg.setup b = some gateway ∧
      s' = { s with gateway := gateway, toInsert := toInsert } := by
  obtain ⟨gateway, hg, hs⟩ := Option.bind_eq_some_iff.mp h
  exact ⟨gateway, hg, (Option.some.inj hs).symm⟩

theorem moves_of_step (h : step cfg s a = some s') : Moves cfg s a s' := by
  cases a with
  | iterate input =>
    simp only [step, System.iterate] at h
    split_ifs at h with hc
    obtain ⟨connmgr, hit, hs⟩ := Option.bind_eq_some_iff.mp h
    obtain rfl := Option.some.inj hs
    exact .iterate input connmgr hc.1 hc.2 hit
  | thread b =>
    cases b with
    | sbufferInsert m =>
      simp only [step] at h
      split at h
      · rename_i next rest htodo
        split_ifs at h with hm
        subst hm
        obtain ⟨gateway, hg, rfl⟩ := threadStep_eq_some h
        exact .insert m rest gateway htodo hg
      · cases h
    | connmgrNext =>
      simp only [step] at h
      split_ifs at h with hc
      obtain ⟨gateway, hg, rfl⟩ := threadStep_eq_some h
      exact .finish _ gateway (.inl rfl) hc.1 hg
    | connmgrReturn =>
      simp only [step] at h
      split_ifs at h with hc
      obtain ⟨gateway, hg, rfl⟩ := threadStep_eq_some h
      exact .finish _ gateway (.inr rfl) hc.1 hg
    | _ =>
      obtain ⟨gateway, hg, rfl⟩ := threadStep_eq_some h
      exact .other _ gateway (by simp) hg

/-- The threads of a run of the system are a run of the threads. -/
theorem gateway_reach (h : ReachVia (step cfg) G (start connmgr sensorList db) s) :
    Reach (Gateway.step cfg.setup) (start connmgr sensorList db).gateway s.gateway := by
  refine h.simulates gateway fun s a s' _ hst => ?_
  cases moves_of_step hst with
  | iterate => exact .inl rfl
  | insert m rest gateway htodo hg => exact .inr ⟨_, hg⟩
  | finish b gateway hb htodo hg => exact .inr ⟨_, hg⟩
  | other b gateway hb hg => exact .inr ⟨_, hg⟩

variable {ms : Nat → List Measurement} {cut : Nat → Nat}

end System

end SensorGateway
