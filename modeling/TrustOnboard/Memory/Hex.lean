import TrustOnboard.Memory.Text

/-
  Bytes written as two hexadecimal digits each.

  A writer prints capital digits.  A reader accepts the
  digits in both cases, so that a sequence of bytes has many
  spellings.

  Key definitions include:
    * `IsHexDigit`
    * `digitValue`
    * `hexText`
    * `SpelledInHex`

  Key results include:
    * `spelledInHex_hexText`
    * `SpelledInHex.digits`
-/

------------------------------------------------------------
-- Digits
------------------------------------------------------------

namespace TrustOnboard

/- The bytes of `0` to `9`, `A` to `F` and `a` to `f`. -/
def IsHexDigit (c : UInt8) : Prop :=
  (48 ≤ c ∧ c ≤ 57) ∨ (65 ≤ c ∧ c ≤ 70) ∨ (97 ≤ c ∧ c ≤ 102)

instance (c : UInt8) : Decidable (IsHexDigit c) :=
  inferInstanceAs (Decidable (_ ∨ _ ∨ _))

/- The value of a digit, 0 for another byte. -/
def digitValue (c : UInt8) : UInt8 :=
  if 48 ≤ c ∧ c ≤ 57 then c - 48
  else if 97 ≤ c ∧ c ≤ 102 then c - 97 + 10
  else if 65 ≤ c ∧ c ≤ 70 then c - 65 + 10
  else 0

/- The byte of a capital digit. -/
def hexDigit (d : UInt8) : UInt8 :=
  if d < 10 then 48 + d else 55 + d

/- The conversion `%02X`. -/
def hexPair (b : UInt8) : Bytes :=
  [hexDigit (b >>> 4), hexDigit (b &&& 0xF)]

/- A sequence of bytes, printed one after the other. -/
def hexText (bs : Bytes) : Bytes :=
  bs.flatMap hexPair

/- What two digits stand for. -/
def joinDigits (h l : UInt8) : UInt8 :=
  digitValue h <<< 4 ||| digitValue l

/- A property of bytes is checked on all of them. -/
theorem forall_byte
    {P : UInt8 → Prop}
    (hAll : ∀ n : Fin 256, P (UInt8.ofNat n))
    (b : UInt8) :
    P b := by
  have hHere := hAll ⟨b.toNat, b.toNat_lt⟩
  rwa [UInt8.ofNat_toNat] at hHere

/- The digits of a byte are digits and join to it. -/
theorem hexPair_digits
    (b : UInt8) :
    IsHexDigit (hexDigit (b >>> 4)) ∧
      IsHexDigit (hexDigit (b &&& 0xF)) ∧
      joinDigits (hexDigit (b >>> 4)) (hexDigit (b &&& 0xF)) =
        b := by
  revert b
  apply forall_byte
  decide +kernel

@[simp] theorem length_hexText
    (bs : Bytes) :
    (hexText bs).length = 2 * bs.length := by
  induction bs with
  | nil => rfl
  | cons b bs ih =>
      have hCons : hexText (b :: bs) = hexPair b ++ hexText bs :=
        List.flatMap_cons
      rw [hCons, List.length_append, ih]
      simp only [hexPair, List.length_cons, List.length_nil]
      omega

/- A decimal digit is a hexadecimal one. -/
theorem IsDigit.isHexDigit
    {c : UInt8}
    (hDigit : IsDigit c) :
    IsHexDigit c :=
  Or.inl hDigit

end TrustOnboard

------------------------------------------------------------
-- Spellings
------------------------------------------------------------

namespace TrustOnboard

/- A text that reads as a sequence of bytes, in any case. -/
inductive SpelledInHex : Bytes → Bytes → Prop where
  | nil : SpelledInHex [] []
  | cons
      {h l : UInt8}
      {text bs : Bytes}
      (hHigh : IsHexDigit h)
      (hLow : IsHexDigit l)
      (hRest : SpelledInHex text bs) :
      SpelledInHex (h :: l :: text) (joinDigits h l :: bs)

namespace SpelledInHex

/- Every byte of a spelling is a digit. -/
theorem digits
    {text bs : Bytes}
    (hText : SpelledInHex text bs) :
    ∀ c ∈ text, IsHexDigit c := by
  induction hText with
  | nil => simp
  | cons hHigh hLow hRest ih =>
      intro c hc
      rcases List.mem_cons.mp hc with rfl | hc
      · exact hHigh
      · rcases List.mem_cons.mp hc with rfl | hc
        · exact hLow
        · exact ih c hc

/- A spelling has two digits for every byte. -/
theorem length
    {text bs : Bytes}
    (hText : SpelledInHex text bs) :
    text.length = 2 * bs.length := by
  induction hText with
  | nil => rfl
  | cons hHigh hLow hRest ih =>
      simp only [List.length_cons, ih]
      omega

end SpelledInHex

/- What is printed is a spelling of what was to be printed. -/
theorem spelledInHex_hexText
    (bs : Bytes) :
    SpelledInHex (hexText bs) bs := by
  induction bs with
  | nil => exact .nil
  | cons b bs ih =>
      rcases hexPair_digits b with ⟨hHigh, hLow, hJoin⟩
      have hText := SpelledInHex.cons hHigh hLow ih
      rw [hJoin] at hText
      exact hText

end TrustOnboard
