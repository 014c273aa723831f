import TrustOnboard.Shadow.Documents

/-
  Scanning what was printed.

  A numeral in front of anything but a digit is scanned as
  the number it was printed for.  The conversions for signed
  numbers look at the digits to choose a base, which no
  numeral without leading zeros misleads.

  Key definitions include:
    * `Delimited`

  Key results include:
    * `digitsValue_decimal`
    * `sscanfUnsigned_decimal`
    * `sscanfInteger_signedDecimal`
-/

------------------------------------------------------------
-- Digits
------------------------------------------------------------

namespace TrustOnboard

namespace Shadow

/- Text behind a value: it ends, or with a comma or brace. -/
def Delimited (r : Bytes) : Prop :=
  ∃ b rest, r = b :: rest ∧ (b = 44 ∨ b = 125)

theorem Delimited.head_not
    {r rest : Bytes}
    {b : UInt8}
    (hDelimited : Delimited r)
    (hText : r = b :: rest) :
    ¬ IsDigit b ∧ isBaseDigit 10 b = false ∧
      isBaseDigit 8 b = false ∧ b ≠ 120 ∧ b ≠ 88 := by
  rcases hDelimited with ⟨c, rest', rfl, rfl | rfl⟩ <;>
    cases hText <;> decide

theorem digitValue_digitByte
    {d : Nat}
    (hSmall : d < 10) :
    (digitValue (digitByte d)).toNat = d := by
  have hAll :
      ∀ i : Fin 10, (digitValue (digitByte i)).toNat = i := by
    decide
  exact hAll ⟨d, hSmall⟩

/- The digits of a numeral, most significant first. -/
theorem digitsValue_reverse
    {ds : List Nat}
    (hSmall : ∀ d ∈ ds, d < 10) :
    digitsValue 10 (ds.reverse.map digitByte) =
      Nat.ofDigits 10 ds := by
  unfold digitsValue
  rw [List.foldl_map, List.foldl_reverse]
  induction ds with
  | nil => rfl
  | cons d ds ih =>
      have hRest :=
        ih (fun d' hd' => hSmall d' (List.mem_cons_of_mem d hd'))
      have hHere := digitValue_digitByte (hSmall d (by simp))
      rw [List.foldr_cons, hRest, hHere, Nat.ofDigits_cons]
      exact Nat.add_comm _ _

/- A numeral spells its number. -/
theorem digitsValue_decimal
    (n : Nat) :
    digitsValue 10 (decimal n) = n := by
  unfold decimal
  split
  · rename_i hZero
    rw [hZero]
    rfl
  · rw [digitsValue_reverse
      (fun d hd => Nat.digits_lt_base (by decide) hd)]
    exact Nat.ofDigits_digits 10 n

end Shadow

end TrustOnboard

------------------------------------------------------------
-- Numbers
------------------------------------------------------------

namespace TrustOnboard

namespace Shadow

/- An unsigned number of some bits is scanned as it is. -/
theorem sscanfUnsigned_decimal
    {bits n : Nat}
    (hBits : 2 ^ bits ≤ 2 ^ 64)
    (hRange : n < 2 ^ bits)
    {r : Bytes}
    (hDelimited : Delimited r) :
    sscanfUnsigned bits (decimal n ++ r) = some n := by
  have hValue := digitsValue_decimal n
  have hScan :=
    sscanfUnsigned_digits hBits (decimal_ne_nil n)
      (decimal_digits n) (hValue.symm ▸ hRange)
      (fun _ _ hText => (hDelimited.head_not hText).1)
  rw [hScan, hValue]

/- The digits are taken up to what stands behind them. -/
theorem takeWhile_digits
    {base : Nat}
    {ds r : Bytes}
    (hDigits : ∀ b ∈ ds, isBaseDigit base b = true)
    (hEnd :
      ∀ b rest, r = b :: rest →
        isBaseDigit base b = false) :
    (ds ++ r).takeWhile (isBaseDigit base) = ds := by
  rw [List.takeWhile_append_of_pos hDigits]
  cases r with
  | nil => simp
  | cons b rest =>
      rw [List.takeWhile_cons_of_neg
        (by simp [hEnd b rest rfl]), List.append_nil]

theorem isBaseDigit_ten
    {b : UInt8}
    (hDigit : IsDigit b) :
    isBaseDigit 10 b = true := by
  have hAll :
      ∀ i : Fin 256, IsDigit (UInt8.ofNat i) →
        isBaseDigit 10 (UInt8.ofNat i) = true := by
    decide +kernel
  have hByte := hAll ⟨b.toNat, b.toNat_lt⟩
  rw [UInt8.ofNat_toNat] at hByte
  exact hByte hDigit

/-
  The base a numeral is read in, and its digits.  Only zero
  begins with the digit zero, and it is zero in base eight.
-/
theorem chooseBase_decimal
    (n : Nat)
    {r : Bytes}
    (hDelimited : Delimited r) :
    ∃ base ds,
      chooseBase (decimal n ++ r) = (base, ds) ∧
        ds.takeWhile (isBaseDigit base) = decimal n ∧
          digitsValue base (decimal n) = n := by
  by_cases hZero : n = 0
  · subst hZero
    rcases hDelimited with ⟨c, rest, rfl, rfl | rfl⟩
    · exact ⟨8, 48 :: 44 :: rest, rfl, rfl, rfl⟩
    · exact ⟨8, 48 :: 125 :: rest, rfl, rfl, rfl⟩
  · refine ⟨10, decimal n ++ r, ?_, ?_, digitsValue_decimal n⟩
    · rcases decimal_head hZero with ⟨d, ds, hText, hLow, _⟩
      rw [hText, List.cons_append]
      have hNot : d ≠ 48 := by
        rintro rfl
        exact absurd hLow (by decide)
      unfold chooseBase
      split
      · rename_i hEq
        exact absurd (List.cons.inj hEq).1 hNot
      · rename_i hEq
        exact absurd (List.cons.inj hEq).1 hNot
      · rename_i hEq
        exact absurd (List.cons.inj hEq).1 hNot
      · rfl
    · apply takeWhile_digits
      · exact fun b hb => isBaseDigit_ten (decimal_digits n b hb)
      · exact fun b rest hText =>
          (hDelimited.head_not hText).2.1

theorem isSpace_of_isDigit
    {b : UInt8}
    (hDigit : IsDigit b) :
    isSpace b = false ∧ b ≠ 45 ∧ b ≠ 43 := by
  have hAll :
      ∀ i : Fin 256, IsDigit (UInt8.ofNat i) →
        isSpace (UInt8.ofNat i) = false ∧
          UInt8.ofNat i ≠ 45 ∧ UInt8.ofNat i ≠ 43 := by
    decide +kernel
  have hByte := hAll ⟨b.toNat, b.toNat_lt⟩
  rw [UInt8.ofNat_toNat] at hByte
  exact hByte hDigit

/- No blank and no sign stands in front of a numeral. -/
theorem splitSign_decimal
    (n : Nat)
    (r : Bytes) :
    (decimal n ++ r).dropWhile isSpace = decimal n ++ r ∧
      splitSign (decimal n ++ r) = (false, decimal n ++ r) := by
  cases hText : decimal n with
  | nil => exact absurd hText (decimal_ne_nil n)
  | cons d ds =>
      have hDigit : IsDigit d := by
        apply decimal_digits n
        rw [hText]
        exact List.mem_cons_self
      rcases isSpace_of_isDigit hDigit with
        ⟨hSpace, hMinus, hPlus⟩
      rw [List.cons_append]
      refine
        ⟨List.dropWhile_cons_of_neg (by simp [hSpace]), ?_⟩
      unfold splitSign
      split
      · rename_i hEq
        cases hEq
        exact absurd rfl hMinus
      · rename_i hEq
        cases hEq
        exact absurd rfl hPlus
      · rfl

/- A number in the range of `intmax_t` is scanned as it is. -/
theorem sscanfInteger_signedDecimal
    {i : Int}
    (hLow : -(2 ^ 63 : Int) ≤ i)
    (hHigh : i < 2 ^ 63)
    {r : Bytes}
    (hDelimited : Delimited r) :
    sscanfInteger (signedDecimal i ++ r) = some i := by
  cases i with
  | ofNat n =>
      rcases chooseBase_decimal n hDelimited with
        ⟨base, ds, hBase, hTake, hValue⟩
      rcases splitSign_decimal n r with ⟨hDrop, hSign⟩
      have hMin : min n (2 ^ 63 - 1) = n := by
        simp only [Int.ofNat_eq_natCast] at hHigh
        omega
      unfold sscanfInteger signedDecimal
      simp only [hDrop, hSign, hBase, hTake, hValue,
        decimal_ne_nil, if_false, hMin, Bool.false_eq_true]
      rfl
  | negSucc n =>
      rcases chooseBase_decimal (n + 1) hDelimited with
        ⟨base, ds, hBase, hTake, hValue⟩
      have hMin : min (n + 1) (2 ^ 63) = n + 1 := by
        omega
      have hDrop :
          (45 :: decimal (n + 1) ++ r).dropWhile isSpace =
            45 :: (decimal (n + 1) ++ r) := rfl
      have hSign :
          splitSign (45 :: (decimal (n + 1) ++ r)) =
            (true, decimal (n + 1) ++ r) := rfl
      unfold sscanfInteger signedDecimal
      simp only [hDrop, hSign, hBase, hTake, hValue,
        decimal_ne_nil, if_false, hMin, if_true]
      rfl

end Shadow

end TrustOnboard

------------------------------------------------------------
-- Values
------------------------------------------------------------

namespace TrustOnboard

namespace Shadow

/- Two integers of one type, or two booleans. -/
inductive SameScalar : JsonData → JsonData → Prop where
  | int32 (v old : Int32) : SameScalar (.int32 v) (.int32 old)
  | int16 (v old : Int16) : SameScalar (.int16 v) (.int16 old)
  | int8 (v old : Int8) : SameScalar (.int8 v) (.int8 old)
  | uint32
      (v old : UInt32) :
      SameScalar (.uint32 v) (.uint32 old)
  | uint16
      (v old : UInt16) :
      SameScalar (.uint16 v) (.uint16 old)
  | uint8 (v old : UInt8) : SameScalar (.uint8 v) (.uint8 old)
  | bool (v old : Bool) : SameScalar (.bool v) (.bool old)

variable {E : Type}
variable {port : Port E}
variable {json r : Bytes}
variable {tok : JsmnTok}

theorem parseInteger_written
    {i : Int}
    (hLow : -(2 ^ 63 : Int) ≤ i)
    (hHigh : i < 2 ^ 63)
    (hType : tok.type = .primitive)
    (hText : tok.textFrom json = signedDecimal i ++ r)
    (hDelimited : Delimited r) :
    parseInteger json tok = some i := by
  unfold parseInteger
  rw [if_neg (not_not.mpr hType), hText,
    sscanfInteger_signedDecimal hLow hHigh hDelimited]

theorem parseUnsigned_written
    {bits n : Nat}
    (hBits : 2 ^ bits ≤ 2 ^ 64)
    (hRange : n < 2 ^ bits)
    (hType : tok.type = .primitive)
    (hText : tok.textFrom json = decimal n ++ r)
    (hDelimited : Delimited r) :
    parseUnsigned bits json tok = some n := by
  have hSign : (decimal n ++ r).head? ≠ some 45 := by
    cases hDecimal : decimal n with
    | nil => exact absurd hDecimal (decimal_ne_nil n)
    | cons d ds =>
        have hDigit : IsDigit d := by
          apply decimal_digits n
          rw [hDecimal]
          exact List.mem_cons_self
        intro hHead
        exact
          (isSpace_of_isDigit hDigit).2.1
            (Option.some.inj hHead)
  unfold parseUnsigned
  rw [if_neg (not_not.mpr hType), hText, if_neg hSign,
    sscanfUnsigned_decimal hBits hRange hDelimited]

theorem parseBooleanValue_written
    {b : Bool}
    (hType : tok.type = .primitive)
    (hText :
      tok.textFrom json =
        (if b then ascii "true" else ascii "false") ++ r) :
    parseBooleanValue json tok = some b := by
  have hTrue :
      (ascii "true" ++ r).take 4 = ascii "true" :=
    List.take_left' rfl
  have hFalse :
      (ascii "false" ++ r).take 5 = ascii "false" :=
    List.take_left' rfl
  have hNot :
      (ascii "false" ++ r).take 4 ≠ ascii "true" := by
    have hFour :
        (ascii "false" ++ r).take 4 = ascii "fals" := rfl
    rw [hFour]
    decide
  unfold parseBooleanValue
  rw [if_neg (not_not.mpr hType), hText]
  cases b with
  | true => exact if_pos hTrue
  | false =>
      rw [if_neg Bool.false_ne_true, if_neg hNot, if_pos hFalse]

/- What was printed for a value is stored as the value. -/
theorem updateValueIfNoObject_written
    {data old : JsonData}
    (hSame : SameScalar data old)
    {text : Bytes}
    (hValue : data.valueText = some text)
    (hType : tok.type = .primitive)
    (hText : tok.textFrom json = text ++ r)
    (hDelimited : Delimited r) :
    updateValueIfNoObject port json tok old = data := by
  cases hSame with
  | int32 v old =>
      cases hValue
      have hLow := v.le_toInt
      have hHigh := v.toInt_lt
      unfold updateValueIfNoObject parseInteger32Value
      rw [parseInteger_written (by omega) (by omega) hType
        hText hDelimited]
      simp
  | int16 v old =>
      cases hValue
      have hLow := v.le_toInt
      have hHigh := v.toInt_lt
      unfold updateValueIfNoObject parseInteger16Value
      rw [parseInteger_written (by omega) (by omega) hType
        hText hDelimited]
      simp
  | int8 v old =>
      cases hValue
      have hLow := v.le_toInt
      have hHigh := v.toInt_lt
      unfold updateValueIfNoObject parseInteger8Value
      rw [parseInteger_written (by omega) (by omega) hType
        hText hDelimited]
      simp
  | uint32 v old =>
      cases hValue
      unfold updateValueIfNoObject parseUnsignedInteger32Value
      rw [parseUnsigned_written (by decide) v.toNat_lt hType
        hText hDelimited]
      simp
  | uint16 v old =>
      cases hValue
      unfold updateValueIfNoObject parseUnsignedInteger16Value
      rw [parseUnsigned_written (by decide) v.toNat_lt hType
        hText hDelimited]
      simp
  | uint8 v old =>
      cases hValue
      unfold updateValueIfNoObject parseUnsignedInteger8Value
      rw [parseUnsigned_written (by decide) v.toNat_lt hType
        hText hDelimited]
      simp
  | bool v old =>
      cases hValue
      unfold updateValueIfNoObject
      rw [parseBooleanValue_written hType hText]
      rfl

end Shadow

end TrustOnboard
