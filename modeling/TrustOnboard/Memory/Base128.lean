import Mathlib.Tactic.Ring
import TrustOnboard.Memory.Buffer

/-
  Numbers in base 128, the least significant digit first.
  Every byte but the last carries the continuation bit.

  Key definitions include:
    * `Base128`
    * `Base128.Begun`

  Key results include:
    * `Base128.unique`
    * `Base128.append_cancel`
    * `Base128.lt_pow`
    * `Base128.dropWhile_append`
    * `Base128.Begun.snoc`
    * `Base128.Begun.close`
-/

------------------------------------------------------------
-- Digits
------------------------------------------------------------

namespace TrustOnboard

/- The digit of a byte is its value without the top bit. -/
theorem toNat_and_127
    (b : UInt8) :
    (b &&& 127).toNat = b.toNat % 128 := by
  rw [UInt8.toNat_and]
  exact Nat.and_two_pow_sub_one_eq_mod b.toNat 7

theorem nat_and_128 :
    ∀ n < 256, (n &&& 128 = 0 ↔ n < 128) := by
  decide +kernel

/- The continuation bit is the top bit. -/
theorem and_128_eq_zero_iff
    (b : UInt8) :
    b &&& 128 = 0 ↔ b.toNat < 128 := by
  rw [← nat_and_128 b.toNat b.toNat_lt, ← UInt8.toNat_inj,
    UInt8.toNat_and]
  rfl

theorem nat_or_128 :
    ∀ n < 128, n ||| 128 = n + 128 := by
  decide +kernel

/- Setting the continuation bit of a digit. -/
theorem toNat_or_128
    {n : Nat}
    (hDigit : n < 128) :
    (UInt8.ofNat n ||| 128).toNat = n + 128 := by
  have hByte : (UInt8.ofNat n).toNat = n := by
    rw [UInt8.toNat_ofNat']
    omega
  rw [UInt8.toNat_or, hByte]
  exact nat_or_128 n hDigit

end TrustOnboard

------------------------------------------------------------
-- Numbers
------------------------------------------------------------

namespace TrustOnboard

/- `Base128 bs n`: the bytes `bs` are a field of value `n`. -/
inductive Base128 : Bytes → Nat → Prop where
  | last
      (b : UInt8)
      (hLast : b &&& 128 = 0) :
      Base128 [b] (b &&& 127).toNat
  | more
      (b : UInt8)
      (bs : Bytes)
      (n : Nat)
      (hMore : b &&& 128 ≠ 0)
      (hRest : Base128 bs n) :
      Base128 (b :: bs) ((b &&& 127).toNat + n * 128)

namespace Base128

theorem length_pos
    {bs : Bytes}
    {n : Nat}
    (hField : Base128 bs n) :
    0 < bs.length := by
  cases hField with
  | last b hLast => simp
  | more b bs n hMore hRest => simp

/- A field of `k` bytes is below `128 ^ k`. -/
theorem lt_pow
    {bs : Bytes}
    {n : Nat}
    (hField : Base128 bs n) :
    n < 128 ^ bs.length := by
  induction hField with
  | last b hLast =>
      rw [toNat_and_127]
      simp only [List.length_singleton, Nat.pow_one]
      omega
  | more b bs n hMore hRest ih =>
      rw [toNat_and_127, List.length_cons, Nat.pow_succ]
      omega

/- A field ends with its first byte without the bit. -/
theorem dropWhile_append
    {bs : Bytes}
    {n : Nat}
    (hField : Base128 bs n)
    (rest : Bytes) :
    ∃ b,
      (bs ++ rest).dropWhile (fun b => b &&& 128 ≠ 0) =
        b :: rest := by
  induction hField with
  | last b hLast =>
      refine ⟨b, ?_⟩
      simp [hLast]
  | more b bs n hMore hRest ih =>
      rcases ih with ⟨b', hDrop⟩
      refine ⟨b', ?_⟩
      simpa [hMore] using hDrop

/- The bytes determine the value. -/
theorem unique
    {bs : Bytes}
    {n m : Nat}
    (hLeft : Base128 bs n)
    (hRight : Base128 bs m) :
    n = m := by
  induction hLeft generalizing m with
  | last b hLast =>
      cases hRight with
      | last _ _ => rfl
      | more _ _ _ hMore _ => exact absurd hLast hMore
  | more b bs n hMore hRest ih =>
      cases hRight with
      | last _ hLast => exact absurd hLast hMore
      | more _ _ m _ hRest' => rw [ih hRest']

/- No field continues another one. -/
theorem append_cancel
    {bs cs x y : Bytes}
    {n m : Nat}
    (hLeft : Base128 bs n)
    (hRight : Base128 cs m)
    (hSame : bs ++ x = cs ++ y) :
    bs = cs ∧ x = y := by
  induction hLeft generalizing cs m with
  | last b hLast =>
      cases hRight with
      | last b' _ => simpa using hSame
      | more b' cs m hMore _ =>
          rw [List.cons_append, List.cons_append,
            List.cons.injEq] at hSame
          rw [hSame.1] at hLast
          exact absurd hLast hMore
  | more b bs n hMore hRest ih =>
      cases hRight with
      | last b' hLast =>
          rw [List.cons_append, List.cons_append,
            List.cons.injEq] at hSame
          rw [hSame.1] at hMore
          exact absurd hLast hMore
      | more b' cs m _ hRest' =>
          rw [List.cons_append, List.cons_append,
            List.cons.injEq] at hSame
          rcases ih hRest' hSame.2 with ⟨rfl, rfl⟩
          exact ⟨by rw [hSame.1], rfl⟩

/- Some byte of a field lacks the continuation bit. -/
theorem exists_last
    {bs : Bytes}
    {n : Nat}
    (hField : Base128 bs n) :
    ∃ b ∈ bs, b &&& 128 = 0 := by
  induction hField with
  | last b hLast => exact ⟨b, by simp, hLast⟩
  | more b bs n hMore hRest ih =>
      rcases ih with ⟨b', hMem, hLast⟩
      exact ⟨b', by simp [hMem], hLast⟩

/-
  A field has begun with the bytes `bs`, whose digits make up
  the value `m`.
-/
def Begun (bs : Bytes) (m : Nat) : Prop :=
  ∀ rest n, Base128 rest n →
    Base128 (bs ++ rest) (m + 128 ^ bs.length * n)

theorem Begun.nil : Begun [] 0 := by
  intro rest n hRest
  simpa using hRest

/- One more byte with the continuation bit. -/
theorem Begun.snoc
    {bs : Bytes}
    {m : Nat}
    (hBegun : Begun bs m)
    (b : UInt8)
    (hMore : b &&& 128 ≠ 0) :
    Begun (bs ++ [b])
      (m + (b &&& 127).toNat * 128 ^ bs.length) := by
  intro rest n hRest
  have hField := hBegun _ _ (Base128.more b rest n hMore hRest)
  have hValue :
      m + 128 ^ bs.length * ((b &&& 127).toNat + n * 128) =
        m + (b &&& 127).toNat * 128 ^ bs.length +
          128 ^ (bs ++ [b]).length * n := by
    rw [List.length_append, List.length_singleton,
      Nat.pow_succ]
    ring
  rw [hValue] at hField
  simpa using hField

/- The last byte. -/
theorem Begun.close
    {bs : Bytes}
    {m : Nat}
    (hBegun : Begun bs m)
    (b : UInt8)
    (hLast : b &&& 128 = 0) :
    Base128 (bs ++ [b])
      (m + (b &&& 127).toNat * 128 ^ bs.length) := by
  have hField := hBegun _ _ (Base128.last b hLast)
  rwa [Nat.mul_comm] at hField

end Base128

end TrustOnboard
