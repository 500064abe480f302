import SensorGateway.Lib.PtrHeap
import Mathlib.Tactic.Common

/-!
# Doubly linked segments

`Links h p xs q` says that the cells `xs` (addresses with their elements) form a doubly linked
segment of the heap `h` between the pointers `p` (what the first node calls its predecessor) and `q`
(what the last node calls its successor). A segment splits at every position, and only the cells it
lists matter.
-/

namespace DoublyLinked

open PtrHeap

structure Node (E : Type*) where
  prev : Ptr
  next : Ptr
  element : E
deriving DecidableEq, Repr

variable {E : Type*} {h h' : Heap (Node E)} {p q : Ptr} {xs ys : List (Nat × E)} {a : Nat} {e : E}

/-- The pointer to the first node of `xs`, and `q` when there is none. -/
def headPtr (xs : List (Nat × E)) (q : Ptr) : Ptr :=
  match xs with
  | [] => q
  | x :: _ => some x.1

/-- The pointer to the last node of `xs`, and `p` when there is none. -/
def lastPtr (p : Ptr) (xs : List (Nat × E)) : Ptr :=
  match xs with
  | [] => p
  | x :: xs => lastPtr (some x.1) xs

def Links (h : Heap (Node E)) (p : Ptr) (xs : List (Nat × E)) (q : Ptr) : Prop :=
  match xs with
  | [] => True
  | x :: xs => h.cells x.1 = some ⟨p, headPtr xs q, x.2⟩ ∧ Links h (some x.1) xs q

@[simp] theorem headPtr_nil : headPtr ([] : List (Nat × E)) q = q := rfl

@[simp] theorem headPtr_cons : headPtr ((a, e) :: xs) q = some a := rfl

@[simp] theorem lastPtr_nil : lastPtr p ([] : List (Nat × E)) = p := rfl

@[simp] theorem lastPtr_cons : lastPtr p ((a, e) :: xs) = lastPtr (some a) xs := rfl

@[simp] theorem headPtr_append : headPtr (xs ++ ys) q = headPtr xs (headPtr ys q) := by
  cases xs <;> rfl

@[simp] theorem lastPtr_append : lastPtr p (xs ++ ys) = lastPtr (lastPtr p xs) ys := by
  induction xs generalizing p with
  | nil => rfl
  | cons x xs ih => exact ih

@[simp] theorem links_nil : Links h p [] q := trivial

@[simp] theorem links_cons :
    Links h p ((a, e) :: xs) q ↔ h.cells a = some ⟨p, headPtr xs q, e⟩ ∧ Links h (some a) xs q :=
  Iff.rfl

/-- A segment splits at every position. -/
@[simp] theorem links_append :
    Links h p (xs ++ ys) q ↔ Links h p xs (headPtr ys q) ∧ Links h (lastPtr p xs) ys q := by
  induction xs generalizing p with
  | nil => simp
  | cons x xs ih =>
    obtain ⟨a, e⟩ := x
    simp [ih, and_assoc]

/-- A segment only depends on the cells it lists. -/
theorem Links.frame (hl : Links h p xs q) (hag : ∀ x ∈ xs, h'.cells x.1 = h.cells x.1) :
    Links h' p xs q := by
  induction xs generalizing p with
  | nil => trivial
  | cons x xs ih =>
    refine ⟨(hag x List.mem_cons_self).trans hl.1, ih hl.2 ?_⟩
    intro y hy
    exact hag y (List.mem_cons_of_mem _ hy)

theorem Links.write (hl : Links h p xs q) {n : Node E} (ha : a ∉ xs.map Prod.fst) :
    Links (h.write a n) p xs q :=
  hl.frame fun _ hx => Heap.write_cells_of_ne fun heq => ha (heq ▸ List.mem_map_of_mem hx)

theorem Links.erase (hl : Links h p xs q) (ha : a ∉ xs.map Prod.fst) : Links (h.erase a) p xs q :=
  hl.frame fun _ hx => Heap.erase_cells_of_ne fun heq => ha (heq ▸ List.mem_map_of_mem hx)

theorem Links.cells_ne_none (hl : Links h p xs q) : ∀ a ∈ xs.map Prod.fst, h.cells a ≠ none := by
  induction xs generalizing p with
  | nil => simp
  | cons x xs ih =>
    intro a ha
    rcases List.mem_cons.mp ha with rfl | ha
    · simp [hl.1]
    · exact ih hl.2 a ha

/-- An unallocated address is on no segment. -/
theorem Links.not_mem (hl : Links h p xs q) (ha : h.cells a = none) : a ∉ xs.map Prod.fst :=
  fun hmem => hl.cells_ne_none a hmem ha

/-- A segment without repetition has at most as many nodes as the heap has cells. -/
theorem Links.length_le (hl : Links h p xs q) (hnd : (xs.map Prod.fst).Nodup) :
    xs.length ≤ h.bound := by
  simpa using Heap.length_le_bound hnd hl.cells_ne_none

/-! ## Linking a node in and out

The heap `h'` has new contents in the nodes around the seam and agrees with `h` elsewhere. -/

variable {zs : List (Nat × E)} {b c : Nat} {eb ec : E} {p' : Ptr}

theorem fst_mem {x : Nat × E} (hx : x ∈ xs) : x.1 ∈ xs.map Prod.fst := List.mem_map_of_mem hx

theorem Links.link_front (hl : Links h p ((b, eb) :: zs) q)
    (hnd : (((a, e) :: (b, eb) :: zs).map Prod.fst).Nodup)
    (ha : h'.cells a = some ⟨p', some b, e⟩)
    (hb : h'.cells b = some ⟨some a, headPtr zs q, eb⟩)
    (hag : ∀ d, d ≠ a → d ≠ b → h'.cells d = h.cells d) :
    Links h' p' ((a, e) :: (b, eb) :: zs) q := by
  rw [links_cons] at hl
  rw [links_cons, links_cons]
  refine ⟨ha, hb, hl.2.frame ?_⟩
  intro x hx
  have := fst_mem hx
  grind

theorem Links.link_between (hl : Links h p (ys ++ (b, eb) :: (c, ec) :: zs) q)
    (hnd : ((ys ++ (b, eb) :: (a, e) :: (c, ec) :: zs).map Prod.fst).Nodup)
    (ha : h'.cells a = some ⟨some b, some c, e⟩)
    (hb : h'.cells b = some ⟨lastPtr p ys, some a, eb⟩)
    (hc : h'.cells c = some ⟨some a, headPtr zs q, ec⟩)
    (hag : ∀ d, d ≠ a → d ≠ b → d ≠ c → h'.cells d = h.cells d) :
    Links h' p (ys ++ (b, eb) :: (a, e) :: (c, ec) :: zs) q := by
  rw [links_append, links_cons, links_cons] at hl
  rw [links_append, links_cons, links_cons, links_cons]
  refine ⟨hl.1.frame fun x hx => ?_, hb, ha, hc, hl.2.2.2.frame fun x hx => ?_⟩
  · have := fst_mem hx
    grind
  · have := fst_mem hx
    grind

theorem Links.link_back (hl : Links h p (ys ++ [(b, eb)]) q)
    (hnd : ((ys ++ [(b, eb), (a, e)]).map Prod.fst).Nodup)
    (ha : h'.cells a = some ⟨some b, q, e⟩)
    (hb : h'.cells b = some ⟨lastPtr p ys, some a, eb⟩)
    (hag : ∀ d, d ≠ a → d ≠ b → h'.cells d = h.cells d) :
    Links h' p (ys ++ [(b, eb), (a, e)]) q := by
  rw [links_append, links_cons] at hl
  rw [links_append, links_cons, links_cons]
  refine ⟨hl.1.frame ?_, hb, ha, trivial⟩
  intro x hx
  have := fst_mem hx
  grind

theorem Links.unlink_front (hl : Links h p ((a, e) :: (c, ec) :: zs) q)
    (hnd : (((a, e) :: (c, ec) :: zs).map Prod.fst).Nodup)
    (hc : h'.cells c = some ⟨p', headPtr zs q, ec⟩)
    (hag : ∀ d, d ≠ a → d ≠ c → h'.cells d = h.cells d) :
    Links h' p' ((c, ec) :: zs) q := by
  rw [links_cons, links_cons] at hl
  rw [links_cons]
  refine ⟨hc, hl.2.2.frame ?_⟩
  intro x hx
  have := fst_mem hx
  grind

theorem Links.unlink_between (hl : Links h p (ys ++ (b, eb) :: (a, e) :: (c, ec) :: zs) q)
    (hnd : ((ys ++ (b, eb) :: (a, e) :: (c, ec) :: zs).map Prod.fst).Nodup)
    (hb : h'.cells b = some ⟨lastPtr p ys, some c, eb⟩)
    (hc : h'.cells c = some ⟨some b, headPtr zs q, ec⟩)
    (hag : ∀ d, d ≠ a → d ≠ b → d ≠ c → h'.cells d = h.cells d) :
    Links h' p (ys ++ (b, eb) :: (c, ec) :: zs) q := by
  rw [links_append, links_cons, links_cons, links_cons] at hl
  rw [links_append, links_cons, links_cons]
  refine ⟨hl.1.frame fun x hx => ?_, hb, hc, hl.2.2.2.2.frame fun x hx => ?_⟩
  · have := fst_mem hx
    grind
  · have := fst_mem hx
    grind

theorem Links.unlink_back (hl : Links h p (ys ++ [(b, eb), (a, e)]) q)
    (hnd : ((ys ++ [(b, eb), (a, e)]).map Prod.fst).Nodup)
    (hb : h'.cells b = some ⟨lastPtr p ys, q, eb⟩)
    (hag : ∀ d, d ≠ a → d ≠ b → h'.cells d = h.cells d) :
    Links h' p (ys ++ [(b, eb)]) q := by
  rw [links_append, links_cons, links_cons] at hl
  rw [links_append, links_cons]
  refine ⟨hl.1.frame ?_, hb, trivial⟩
  intro x hx
  have := fst_mem hx
  grind

end DoublyLinked
