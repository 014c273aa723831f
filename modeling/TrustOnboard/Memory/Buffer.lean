import Mathlib.Algebra.Group.Int.Defs
import Mathlib.Algebra.Group.Nat.Defs
import Mathlib.Data.List.Basic

/-
  Byte memory starting at the first cell of an array.

  A buffer gives a byte to every offset, also to offsets past
  the end of the array it stands for.  A program that runs
  over the end of its array therefore has a definite result
  here, and the offsets it touched can be compared with the
  size of the array afterwards.

  Key definitions include:
    * `Buffer`
    * `Buffer.load`
    * `Buffer.store`

  Key results include:
    * `Buffer.load_add`
    * `Buffer.load_store_self`
    * `Buffer.load_store_of_disjoint`
-/

------------------------------------------------------------
-- Loads And Stores
------------------------------------------------------------

namespace TrustOnboard

/- A finite sequence of bytes. -/
abbrev Bytes := List UInt8

/- A byte for every offset. -/
abbrev Buffer := Nat → UInt8

namespace Buffer

/- The `n` bytes from offset `off` on. -/
def load
    (buf : Buffer)
    (off n : Nat) : Bytes :=
  (List.range n).map (fun i => buf (off + i))

/- Overwrite the bytes from offset `off` on. -/
def store
    (buf : Buffer)
    (off : Nat)
    (bs : Bytes) : Buffer :=
  fun i =>
    if i < off then buf i
    else bs.getD (i - off) (buf i)

@[simp] theorem length_load
    (buf : Buffer)
    (off n : Nat) :
    (buf.load off n).length = n := by
  simp [load]

@[simp] theorem load_zero
    (buf : Buffer)
    (off : Nat) :
    buf.load off 0 = [] := by
  simp [load]

/- Two adjacent loads make one. -/
theorem load_add
    (buf : Buffer)
    (off m n : Nat) :
    buf.load off (m + n) =
      buf.load off m ++ buf.load (off + m) n := by
  simp [load, List.range_add, Function.comp_def,
    Nat.add_assoc]

/- A load that gives two parts gives each of them. -/
theorem load_append
    {buf : Buffer}
    {off : Nat}
    {xs ys : Bytes}
    (hLoad :
      buf.load off (xs ++ ys).length = xs ++ ys) :
    buf.load off xs.length = xs ∧
      buf.load (off + xs.length) ys.length = ys := by
  rw [List.length_append, load_add] at hLoad
  exact List.append_inj hLoad (length_load _ _ _)

/- The first byte of a load. -/
theorem load_succ
    (buf : Buffer)
    (off n : Nat) :
    buf.load off (n + 1) =
      buf off :: buf.load (off + 1) n := by
  rw [Nat.add_comm n 1, load_add]
  simp [load]

/- A shorter load is a prefix of a longer one. -/
theorem take_load
    (buf : Buffer)
    (off : Nat)
    {m n : Nat}
    (hLe : m ≤ n) :
    (buf.load off n).take m = buf.load off m := by
  rcases Nat.exists_eq_add_of_le hLe with ⟨k, rfl⟩
  rw [load_add]
  simp

/- A store is visible at the offsets it covers. -/
theorem store_apply_of_mem
    (buf : Buffer)
    (off : Nat)
    (bs : Bytes)
    {i : Nat}
    (hi : i < bs.length) :
    buf.store off bs (off + i) = bs[i] := by
  unfold store
  rw [if_neg (by omega)]
  simp [hi]

/- A store leaves every other offset alone. -/
theorem store_apply_of_not_mem
    (buf : Buffer)
    (off : Nat)
    (bs : Bytes)
    {i : Nat}
    (hi : i < off ∨ off + bs.length ≤ i) :
    buf.store off bs i = buf i := by
  unfold store
  rcases hi with hi | hi
  · rw [if_pos hi]
  · rw [if_neg (by omega)]
    rw [List.getD_eq_getElem?_getD,
      List.getElem?_eq_none (by omega)]
    rfl

/- Loading back what was stored. -/
theorem load_store_self
    (buf : Buffer)
    (off : Nat)
    (bs : Bytes) :
    (buf.store off bs).load off bs.length = bs := by
  apply List.ext_getElem
  · simp
  · intro i hLoad hi
    simp only [load, List.getElem_map,
      List.getElem_range]
    exact store_apply_of_mem buf off bs hi

/- Loads and stores of separate regions commute. -/
theorem load_store_of_disjoint
    (buf : Buffer)
    (off : Nat)
    (bs : Bytes)
    {off' n : Nat}
    (hApart :
      off' + n ≤ off ∨ off + bs.length ≤ off') :
    (buf.store off bs).load off' n =
      buf.load off' n := by
  unfold load
  apply List.map_congr_left
  intro i hi
  have hLt : i < n := List.mem_range.mp hi
  apply store_apply_of_not_mem
  omega

end Buffer

end TrustOnboard
