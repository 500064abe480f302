import Mathlib.Data.List.Nodup

/-!
# Reader/writer locks

The lock of a set of threads `T` that try to take it for reading or for writing. A thread may take
it for reading more than once. Giving back a lock that one does not hold is undefined.
-/

namespace Locks

inductive Mode where
  | read
  | write
deriving DecidableEq, Repr

/-- Who holds the lock; a writer holds it alone. -/
structure RwLock (T : Type*) where
  readers : List T
  writer : Option T
  exclusive : writer ≠ none → readers = []

namespace RwLock

variable {T : Type*} {l l' : RwLock T} {m n : Mode} {t u : T}

def free : RwLock T where
  readers := []
  writer := none
  exclusive := fun _ => rfl

/-- The thread holds the lock in the given mode. -/
def Holds (l : RwLock T) : Mode → T → Prop
  | .read, t => t ∈ l.readers
  | .write, t => l.writer = some t

/-- Taking the lock; `none` while it is not available in this mode. -/
def acquire (l : RwLock T) (m : Mode) (t : T) : Option (RwLock T) :=
  match m with
  | .read =>
    if h : l.writer = none then
      some { readers := t :: l.readers, writer := l.writer, exclusive := fun hw => absurd h hw }
    else none
  | .write =>
    if h : l.writer = none ∧ l.readers = [] then
      some { readers := l.readers, writer := some t, exclusive := fun _ => h.2 }
    else none

/-- Giving the lock back, in whichever mode the thread holds it; `none` when it does not. -/
def unlock [DecidableEq T] (l : RwLock T) (t : T) : Option (RwLock T) :=
  if l.writer = some t then
    some { readers := l.readers, writer := none, exclusive := fun h => absurd rfl h }
  else if t ∈ l.readers then
    some
      { readers := l.readers.erase t
        writer := l.writer
        exclusive := fun h => by rw [l.exclusive h]; rfl }
  else none

theorem not_holds_free : ¬ (free : RwLock T).Holds m t := by
  cases m with
  | read => exact List.not_mem_nil
  | write =>
    intro h
    cases h

/-- After taking the lock the thread holds it, and otherwise nothing changes. -/
theorem acquire_holds (h : l.acquire m t = some l') :
    l'.Holds n u ↔ l.Holds n u ∨ n = m ∧ u = t := by
  cases m with
  | read =>
    simp only [acquire] at h
    split at h
    · obtain rfl := Option.some.inj h
      cases n with
      | read => simp [Holds, or_comm]
      | write => simp [Holds]
    · cases h
  | write =>
    simp only [acquire] at h
    split at h
    · rename_i hfree
      obtain rfl := Option.some.inj h
      cases n with
      | read => simp [Holds]
      | write => simp [Holds, hfree.1, eq_comm]
    · cases h

theorem acquire_nodup (h : l.acquire m t = some l') (hnd : l.readers.Nodup)
    (ht : ¬ l.Holds .read t) : l'.readers.Nodup := by
  cases m with
  | read =>
    simp only [acquire] at h
    split at h
    · obtain rfl := Option.some.inj h
      exact List.nodup_cons.mpr ⟨ht, hnd⟩
    · cases h
  | write =>
    simp only [acquire] at h
    split at h
    · obtain rfl := Option.some.inj h
      exact hnd
    · cases h

/-- A thread that took the lock once holds it no more after giving it back; for the others nothing
    changes. -/
theorem unlock_holds [DecidableEq T] (h : l.unlock t = some l') (hnd : l.readers.Nodup) :
    l'.readers.Nodup ∧ ∀ n u, l'.Holds n u ↔ l.Holds n u ∧ u ≠ t := by
  unfold unlock at h
  split_ifs at h with hw hr
  · obtain rfl := Option.some.inj h
    have hreaders := l.exclusive (by simp [hw])
    refine ⟨hnd, fun n u => ?_⟩
    cases n with
    | read => simp [Holds, hreaders]
    | write =>
      simp only [Holds, hw, Option.some.injEq]
      constructor
      · intro hu
        cases hu
      · rintro ⟨hu, hne⟩
        exact absurd hu.symm hne
  · obtain rfl := Option.some.inj h
    refine ⟨hnd.erase t, fun n u => ?_⟩
    cases n with
    | read => simp only [Holds, hnd.mem_erase_iff, and_comm]
    | write =>
      have hnone : l.writer = none := by
        by_contra hsome
        rw [l.exclusive hsome] at hr
        exact List.not_mem_nil hr
      simp [Holds, hnone]

end RwLock

end Locks
