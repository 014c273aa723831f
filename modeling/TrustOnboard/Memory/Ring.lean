import Mathlib.Data.List.Basic
import Mathlib.Data.Nat.ModEq
import Mathlib.Logic.Function.Basic
import Mathlib.Tactic.SplitIfs

/-
  Queues in a circle of places.

  A ring has the place the next element goes to and the place
  of the oldest one.  It is empty where they meet, so one of
  the places always stays free.

  Key definitions include:
    * `Ring`
    * `Ring.waiting`
    * `Ring.Within`

  Key results include:
    * `Ring.waiting_fill`
    * `Ring.waiting_push`
    * `Ring.waiting_pop`
    * `Ring.isFull_iff`
-/

------------------------------------------------------------
-- Stretches Of A Circle
------------------------------------------------------------

namespace TrustOnboard

variable {α : Type}

/- The elements of `n` places from `i` on. -/
def stretch
    (data : Nat → α)
    (size : Nat) : Nat → Nat → List α
  | _, 0 => []
  | i, n + 1 => data i :: stretch data size ((i + 1) % size) n

@[simp] theorem length_stretch
    (data : Nat → α)
    (size i n : Nat) :
    (stretch data size i n).length = n := by
  induction n generalizing i with
  | zero => rfl
  | succ n ih => rw [stretch, List.length_cons, ih]

/- One place forward and `n` more. -/
theorem next_add_mod
    (size i n : Nat) :
    ((i + 1) % size + n) % size = (i + (n + 1)) % size := by
  rw [Nat.mod_add_mod, Nat.add_assoc, Nat.add_comm 1 n]

/- The last place of a stretch. -/
theorem stretch_succ
    (data : Nat → α)
    {size i : Nat}
    (n : Nat)
    (hPlace : i < size) :
    stretch data size i (n + 1) =
      stretch data size i n ++ [data ((i + n) % size)] := by
  induction n generalizing i with
  | zero =>
      have hSame : (i + 0) % size = i := Nat.mod_eq_of_lt hPlace
      rw [hSame]
      rfl
  | succ n ih =>
      have hNext : (i + 1) % size < size :=
        Nat.mod_lt _ (Nat.zero_lt_of_lt hPlace)
      rw [stretch, ih hNext, next_add_mod, stretch,
        List.cons_append]

/- The place behind less than a whole circle is another. -/
theorem ne_add_mod
    {size i n : Nat}
    (hPlace : i < size)
    (hPos : 0 < n)
    (hLess : n < size) :
    i ≠ (i + n) % size := by
  rcases Nat.lt_or_ge (i + n) size with hSmall | hLarge
  · rw [Nat.mod_eq_of_lt hSmall]
    omega
  · rw [Nat.mod_eq_sub_mod hLarge, Nat.mod_eq_of_lt (by omega)]
    omega

/- The place behind a stretch is not in it. -/
theorem stretch_update
    (data : Nat → α)
    {size i n : Nat}
    (a : α)
    (hPlace : i < size)
    (hLess : n < size) :
    stretch (Function.update data ((i + n) % size) a) size i n =
      stretch data size i n := by
  induction n generalizing i with
  | zero => rfl
  | succ n ih =>
      have hNext : (i + 1) % size < size :=
        Nat.mod_lt _ (Nat.zero_lt_of_lt hPlace)
      have hOther : i ≠ (i + (n + 1)) % size :=
        ne_add_mod hPlace (Nat.succ_pos n) hLess
      have hRest := ih hNext (by omega)
      rw [next_add_mod] at hRest
      rw [stretch, stretch, Function.update_of_ne hOther, hRest]

end TrustOnboard

------------------------------------------------------------
-- Rings
------------------------------------------------------------

namespace TrustOnboard

/- The places, the next one to fill, and the oldest one. -/
structure Ring (α : Type) where
  head : Nat
  tail : Nat
  size : Nat
  data : Nat → α

namespace Ring

variable {α : Type}

/- The place behind a place. -/
def next (r : Ring α) (i : Nat) : Nat :=
  (i + 1) % r.size

/- An element in the place that is next to fill. -/
def fill (r : Ring α) (a : α) : Ring α :=
  { r with data := Function.update r.data r.head a }

/- The place that was filled counts. -/
def advance (r : Ring α) : Ring α :=
  { r with head := r.next r.head }

/- The oldest element is gone. -/
def drop (r : Ring α) : Ring α :=
  { r with tail := r.next r.tail }

/- Both at once. -/
def push (r : Ring α) (a : α) : Ring α :=
  (r.fill a).advance

/- The ring has nothing to give. -/
def isEmpty (r : Ring α) : Bool :=
  r.tail == r.head

/- The ring has no place to give away. -/
def isFull (r : Ring α) : Bool :=
  r.next r.head == r.tail

/- The number of elements. -/
def count (r : Ring α) : Nat :=
  (r.head + r.size - r.tail) % r.size

/- The elements, the oldest first. -/
def waiting (r : Ring α) : List α :=
  stretch r.data r.size r.tail r.count

/- Both ends are places of the ring. -/
structure Within (r : Ring α) : Prop where
  head : r.head < r.size
  tail : r.tail < r.size

/- A ring of some places that is empty. -/
def empty (size : Nat) (data : Nat → α) : Ring α where
  head := 0
  tail := 0
  size := size
  data := data

/- The number without a division. -/
theorem count_eq
    {r : Ring α}
    (hWithin : r.Within) :
    r.count =
      if r.tail ≤ r.head then r.head - r.tail
      else r.head + r.size - r.tail := by
  have hHead := hWithin.head
  have hTail := hWithin.tail
  unfold count
  split
  · rename_i hLe
    have hSum :
        r.head + r.size - r.tail =
          (r.head - r.tail) + r.size := by
      omega
    rw [hSum, Nat.add_mod_right, Nat.mod_eq_of_lt (by omega)]
  · exact Nat.mod_eq_of_lt (by omega)

/- The next place without a division. -/
theorem next_eq
    (r : Ring α)
    {i : Nat}
    (hPlace : i < r.size) :
    r.next i = if i + 1 = r.size then 0 else i + 1 := by
  unfold next
  split
  · rename_i hLast
    rw [hLast, Nat.mod_self]
  · exact Nat.mod_eq_of_lt (by omega)

theorem count_lt
    {r : Ring α}
    (hWithin : r.Within) :
    r.count < r.size :=
  Nat.mod_lt _ (Nat.zero_lt_of_lt hWithin.head)

@[simp] theorem length_waiting
    (r : Ring α) :
    r.waiting.length = r.count :=
  length_stretch _ _ _ _

/- The oldest element and those behind it end at the head. -/
theorem tail_add_count
    {r : Ring α}
    (hWithin : r.Within) :
    (r.tail + r.count) % r.size = r.head := by
  have hHead := hWithin.head
  have hTail := hWithin.tail
  rw [count_eq hWithin]
  split
  · rename_i hLe
    have hSum : r.tail + (r.head - r.tail) = r.head := by
      omega
    rw [hSum, Nat.mod_eq_of_lt hHead]
  · have hSum :
        r.tail + (r.head + r.size - r.tail) =
          r.head + r.size := by
      omega
    rw [hSum, Nat.add_mod_right, Nat.mod_eq_of_lt hHead]

theorem isEmpty_iff
    {r : Ring α}
    (hWithin : r.Within) :
    r.isEmpty = true ↔ r.waiting = [] := by
  have hHead := hWithin.head
  have hTail := hWithin.tail
  rw [isEmpty, beq_iff_eq, ← List.length_eq_zero_iff,
    length_waiting, count_eq hWithin]
  split <;> omega

/- One place is free where a ring is full. -/
theorem isFull_iff
    {r : Ring α}
    (hWithin : r.Within) :
    r.isFull = true ↔ r.count + 1 = r.size := by
  have hHead := hWithin.head
  have hTail := hWithin.tail
  rw [isFull, beq_iff_eq, r.next_eq hHead, count_eq hWithin]
  split <;> split <;> omega

theorem within_empty
    {size : Nat}
    (data : Nat → α)
    (hSome : 0 < size) :
    (empty size data).Within :=
  ⟨hSome, hSome⟩

theorem waiting_empty
    {size : Nat}
    (data : Nat → α) :
    (empty size data).waiting = [] := by
  have hNone : (empty size data).count = 0 := by
    simp [count, empty]
  rw [waiting, hNone]
  rfl

namespace Within

variable {r : Ring α}

theorem fill
    (hWithin : r.Within)
    (a : α) :
    (r.fill a).Within :=
  ⟨hWithin.head, hWithin.tail⟩

theorem advance
    (hWithin : r.Within) :
    r.advance.Within :=
  ⟨Nat.mod_lt _ (Nat.zero_lt_of_lt hWithin.head),
    hWithin.tail⟩

theorem drop
    (hWithin : r.Within) :
    r.drop.Within :=
  ⟨hWithin.head,
    Nat.mod_lt _ (Nat.zero_lt_of_lt hWithin.head)⟩

theorem push
    (hWithin : r.Within)
    (a : α) :
    (r.push a).Within :=
  (hWithin.fill a).advance

end Within

/- What is put in the free place does not wait yet. -/
theorem waiting_fill
    {r : Ring α}
    (hWithin : r.Within)
    (a : α) :
    (r.fill a).waiting = r.waiting := by
  have hUpdate :=
    stretch_update r.data a hWithin.tail (count_lt hWithin)
  rw [tail_add_count hWithin] at hUpdate
  exact hUpdate

/- It waits once its place counts. -/
theorem waiting_advance
    {r : Ring α}
    (hWithin : r.Within)
    (hRoom : r.isFull = false) :
    r.advance.waiting = r.waiting ++ [r.data r.head] := by
  have hHead := hWithin.head
  have hTail := hWithin.tail
  have hCount : r.advance.count = r.count + 1 := by
    have hNot : ¬ r.next r.head = r.tail := by
      intro hSame
      rw [isFull, hSame, beq_self_eq_true] at hRoom
      cases hRoom
    have hNext : r.advance.head = r.next r.head := rfl
    have hSame : r.advance.tail = r.tail := rfl
    have hSize : r.advance.size = r.size := rfl
    rw [r.next_eq hHead] at hNot
    rw [count_eq hWithin.advance, count_eq hWithin, hNext, hSame,
      hSize, r.next_eq hHead]
    split_ifs at hNot ⊢ <;> omega
  have hLast := stretch_succ r.data r.count hTail
  rw [tail_add_count hWithin] at hLast
  rw [waiting, hCount]
  exact hLast

theorem waiting_push
    {r : Ring α}
    (hWithin : r.Within)
    (hRoom : r.isFull = false)
    (a : α) :
    (r.push a).waiting = r.waiting ++ [a] := by
  have hHere : (r.fill a).data (r.fill a).head = a :=
    Function.update_self _ _ _
  have hAdvance :=
    waiting_advance (hWithin.fill a) (by exact hRoom)
  rw [hHere, waiting_fill hWithin] at hAdvance
  exact hAdvance

/- The oldest element comes out first. -/
theorem waiting_pop
    {r : Ring α}
    (hWithin : r.Within)
    (hSome : r.isEmpty = false) :
    r.waiting = r.data r.tail :: r.drop.waiting := by
  have hHead := hWithin.head
  have hTail := hWithin.tail
  have hCount : r.count = r.drop.count + 1 := by
    have hNot : ¬ r.tail = r.head := by
      intro hSame
      rw [isEmpty, hSame, beq_self_eq_true] at hSome
      cases hSome
    have hNext : r.drop.tail = r.next r.tail := rfl
    have hSame : r.drop.head = r.head := rfl
    have hSize : r.drop.size = r.size := rfl
    rw [count_eq hWithin.drop, count_eq hWithin, hNext, hSame,
      hSize, r.next_eq hTail]
    split_ifs <;> omega
  rw [waiting, hCount]
  rfl

end Ring

end TrustOnboard
