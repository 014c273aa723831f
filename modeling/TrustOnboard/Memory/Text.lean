import Mathlib.Data.Nat.Digits.Lemmas
import TrustOnboard.Memory.Buffer

/-
  Texts as sequences of bytes: literals, decimal numerals and
  the bytes a `printf` conversion prints.

  Key definitions include:
    * `ascii`
    * `decimal`
    * `signedDecimal`
    * `IsDigit`

  Key results include:
    * `decimal_digits`
    * `decimal_head`
-/

------------------------------------------------------------
-- Literals And Numerals
------------------------------------------------------------

namespace TrustOnboard

/- The bytes of a literal. -/
def ascii (s : String) : Bytes :=
  s.toList.map (fun c => UInt8.ofNat c.toNat)

/- The byte of a decimal digit. -/
def digitByte (d : Nat) : UInt8 :=
  UInt8.ofNat (48 + d)

/- The conversions `%u` and `PRIu32`. -/
def decimal (n : Nat) : Bytes :=
  if n = 0 then [48]
  else (Nat.digits 10 n).reverse.map digitByte

/- The conversions `%d` and `PRIi32`. -/
def signedDecimal : Int → Bytes
  | .ofNat n => decimal n
  | .negSucc n => 45 :: decimal (n + 1)

@[simp]
theorem signedDecimal_natCast
    (n : Nat) :
    signedDecimal (n : Int) = decimal n :=
  rfl

/- A text is checked byte by byte. -/
theorem forall_mem_of_all
    {P : UInt8 → Prop}
    [DecidablePred P]
    {s : Bytes}
    (hAll : s.all (fun b => decide (P b)) = true) :
    ∀ b ∈ s, P b := by
  simpa using hAll

/- The bytes of the ten digits. -/
def IsDigit (b : UInt8) : Prop :=
  48 ≤ b ∧ b ≤ 57

instance (b : UInt8) : Decidable (IsDigit b) :=
  inferInstanceAs (Decidable (_ ∧ _))

theorem isDigit_digitByte
    {d : Nat}
    (hSmall : d < 10) :
    IsDigit (digitByte d) := by
  have hAll : ∀ i : Fin 10, IsDigit (digitByte i) := by
    decide
  exact hAll ⟨d, hSmall⟩

theorem decimal_digits
    (n : Nat) :
    ∀ b ∈ decimal n, IsDigit b := by
  unfold decimal
  split
  · simp [IsDigit]
  · intro b hb
    rcases List.mem_map.mp hb with ⟨d, hd, rfl⟩
    have hSmall : d < 10 :=
      Nat.digits_lt_base (by decide)
        (List.mem_reverse.mp hd)
    exact isDigit_digitByte hSmall

theorem decimal_ne_nil
    (n : Nat) :
    decimal n ≠ [] := by
  unfold decimal
  split
  · simp
  · simp_all [Nat.digits_ne_nil_iff_ne_zero]

/- Only zero begins with the digit zero. -/
theorem decimal_head
    {n : Nat}
    (hPos : n ≠ 0) :
    ∃ d ds, decimal n = d :: ds ∧ 49 ≤ d ∧ d ≤ 57 ∧
      ∀ b ∈ ds, IsDigit b := by
  have hAll := decimal_digits n
  unfold decimal at hAll ⊢
  rw [if_neg hPos] at hAll ⊢
  have hNe : Nat.digits 10 n ≠ [] :=
    Nat.digits_ne_nil_iff_ne_zero.mpr hPos
  have hLast := Nat.getLast_digit_ne_zero 10 hPos
  rw [← List.dropLast_append_getLast hNe] at hAll ⊢
  simp only [List.reverse_append, List.reverse_cons,
    List.reverse_nil, List.nil_append, List.cons_append,
    List.map_cons] at hAll ⊢
  refine ⟨_, _, rfl, ?_, ?_, ?_⟩
  · have hSmall :
        (Nat.digits 10 n).getLast hNe < 10 :=
      Nat.digits_lt_base (by decide) (List.getLast_mem hNe)
    have hAll :
        ∀ i : Fin 10, i ≠ 0 → 49 ≤ digitByte i := by
      decide
    refine hAll ⟨_, hSmall⟩ ?_
    intro hZero
    exact hLast (congrArg Fin.val hZero)
  · exact (hAll _ List.mem_cons_self).2
  · exact fun b hb => hAll b (List.mem_cons_of_mem _ hb)

/- A greater number has no fewer digits. -/
theorem length_decimal_le
    {m n : Nat}
    (hPos : m ≠ 0)
    (hLe : m ≤ n) :
    (decimal m).length ≤ (decimal n).length := by
  have hPos' : n ≠ 0 := by omega
  unfold decimal
  rw [if_neg hPos, if_neg hPos']
  simpa using Nat.le_length_digits_le 10 m n hLe

end TrustOnboard
