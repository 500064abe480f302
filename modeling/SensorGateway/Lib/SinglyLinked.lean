import SensorGateway.Lib.DoublyLinked

/-!
# Singly linked segments

`Chain h xs q` says that the cells `xs` (addresses with their elements) form a singly linked segment
of the heap `h` that ends with the pointer `q`. Only the cells it lists matter.
-/

namespace SinglyLinked

open PtrHeap DoublyLinked

structure Node (E : Type*) where
  next : Ptr
  element : E
deriving DecidableEq, Repr

variable {E : Type*} {h h' : Heap (Node E)} {q : Ptr} {xs ys : List (Nat × E)}
    {a b : Nat} {e eb : E}

def Chain (h : Heap (Node E)) (xs : List (Nat × E)) (q : Ptr) : Prop :=
  match xs with
  | [] => True
  | x :: xs => h.cells x.1 = some ⟨headPtr xs q, x.2⟩ ∧ Chain h xs q

@[simp] theorem chain_nil : Chain h [] q := trivial

@[simp] theorem chain_cons :
    Chain h ((a, e) :: xs) q ↔ h.cells a = some ⟨headPtr xs q, e⟩ ∧ Chain h xs q := Iff.rfl

/-- A segment splits at every position. -/
@[simp] theorem chain_append :
    Chain h (xs ++ ys) q ↔ Chain h xs (headPtr ys q) ∧ Chain h ys q := by
  induction xs with
  | nil => simp
  | cons x xs ih =>
    obtain ⟨a, e⟩ := x
    simp [ih, and_assoc]

/-- A segment only depends on the cells it lists. -/
theorem Chain.frame (hc : Chain h xs q) (hag : ∀ x ∈ xs, h'.cells x.1 = h.cells x.1) :
    Chain h' xs q := by
  induction xs with
  | nil => trivial
  | cons x xs ih =>
    refine ⟨(hag x List.mem_cons_self).trans hc.1, ih hc.2 ?_⟩
    intro y hy
    exact hag y (List.mem_cons_of_mem _ hy)

theorem Chain.cells_ne_none (hc : Chain h xs q) : ∀ a ∈ xs.map Prod.fst, h.cells a ≠ none := by
  induction xs with
  | nil => simp
  | cons x xs ih =>
    intro a ha
    rcases List.mem_cons.mp ha with rfl | ha
    · simp [hc.1]
    · exact ih hc.2 a ha

/-- An unallocated address is on no segment. -/
theorem Chain.not_mem (hc : Chain h xs q) (ha : h.cells a = none) : a ∉ xs.map Prod.fst :=
  fun hmem => hc.cells_ne_none a hmem ha

theorem Chain.erase (hc : Chain h xs q) (ha : a ∉ xs.map Prod.fst) : Chain (h.erase a) xs q :=
  hc.frame fun _ hx => Heap.erase_cells_of_ne fun heq => ha (heq ▸ List.mem_map_of_mem hx)

/-- A node is linked behind the last one; the heap `h'` agrees with `h` elsewhere. -/
theorem Chain.link_back (hc : Chain h (ys ++ [(b, eb)]) q)
    (hnd : ((ys ++ [(b, eb), (a, e)]).map Prod.fst).Nodup)
    (hb : h'.cells b = some ⟨some a, eb⟩) (ha : h'.cells a = some ⟨q, e⟩)
    (hag : ∀ d, d ≠ a → d ≠ b → h'.cells d = h.cells d) :
    Chain h' (ys ++ [(b, eb), (a, e)]) q := by
  rw [chain_append] at hc
  rw [chain_append, chain_cons, chain_cons]
  refine ⟨hc.1.frame ?_, hb, ha, trivial⟩
  intro x hx
  have := fst_mem hx
  grind

end SinglyLinked
