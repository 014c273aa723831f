import TrustOnboard.Shadow.Scanning

/-
  The numbers and truth values that are read from primitives.

  The conversions run from the start of a token and do not
  look at its end.  What they take for a number need not be
  the whole token, nor in its base, nor in its range; what
  the reader of truth values compares is the beginning of the
  token only.

  Key definitions include:
    * `PrimitiveToken`
    * `SpellsInteger`
    * `Exact`

  Key results include:
    * `parse_values_exact_iff`
-/

------------------------------------------------------------
-- Primitives
------------------------------------------------------------

namespace TrustOnboard

namespace Shadow

open Json (IsWhole)

/- The bytes that end a primitive. -/
def endsPrimitive (b : UInt8) : Bool :=
  b == 58 || b == 9 || b == 13 || b == 10 || b == 32 ||
    b == 44 || b == 93 || b == 125

/- The bytes a primitive consists of. -/
def inPrimitive (b : UInt8) : Bool :=
  ! endsPrimitive b && (decide (32 ≤ b) && decide (b < 127))

/-
  A token the parser makes for a primitive, with its text: it
  reaches up to a byte that ends it, or to the end.
-/
inductive PrimitiveToken : Bytes → JsmnTok → Bytes → Prop where
  | mk
      {before text after : Bytes}
      (hSome : text ≠ [])
      (hInside : ∀ b ∈ text, inPrimitive b = true)
      (hBehind : ∀ b ∈ after.head?, endsPrimitive b = true) :
      PrimitiveToken (before ++ (text ++ after))
        ⟨.primitive, before.length,
          before.length + text.length⟩ text

/- A literal of an integer, and the integer. -/
inductive SpellsInteger : Bytes → Int → Prop where
  | plain
      {ds : Bytes}
      (hWhole : IsWhole ds) :
      SpellsInteger ds (digitsValue 10 ds)
  | minus
      {ds : Bytes}
      (hWhole : IsWhole ds) :
      SpellsInteger (45 :: ds) (-(digitsValue 10 ds : Int))

/- Exactly the values that are meant are returned. -/
def Exact
    {α : Type}
    (parsed : Option α)
    (meant : α → Prop) : Prop :=
  ∀ v, parsed = some v ↔ meant v

/- A digit stands at the start, or behind a sign there. -/
def BeginsNumber (text : Bytes) : Prop :=
  ∃ d ∈ (splitSign text).2.head?, IsDigit d

/- The literal of an integer between two bounds. -/
def SpellsBetween
    (text : Bytes)
    (low high : Int) : Prop :=
  ∃ i, SpellsInteger text i ∧ low ≤ i ∧ i < high

/- What the readers of signed numbers get right. -/
def SignedProper
    (bits : Nat)
    (text : Bytes) : Prop :=
  SpellsBetween text (-2 ^ (bits - 1)) (2 ^ (bits - 1)) ∨
    ¬ BeginsNumber text

/- What the readers of unsigned numbers get right. -/
def UnsignedProper
    (bits : Nat)
    (text : Bytes) : Prop :=
  text ≠ [45, 48] ∧
    (SpellsBetween text 0 (2 ^ bits) ∨
      text.head? = some 45 ∨ ¬ BeginsNumber text)

/- What the reader of truth values gets right. -/
def BooleanProper (text : Bytes) : Prop :=
  ∀ word, word = ascii "true" ∨ word = ascii "false" →
    word <+: text → text = word

end Shadow

end TrustOnboard

------------------------------------------------------------
-- The Text Of A Token
------------------------------------------------------------

namespace TrustOnboard

namespace Shadow

open Json (IsWhole)

/- What a conversion sees of a token. -/
theorem PrimitiveToken.textFrom
    {json text : Bytes}
    {tok : JsmnTok}
    (hToken : PrimitiveToken json tok text) :
    text ≠ [] ∧ tok.type = .primitive ∧
      (∀ b ∈ text, inPrimitive b = true) ∧
        ∃ after,
          tok.textFrom json = text ++ after ∧
            ∀ b ∈ after.head?, endsPrimitive b = true := by
  cases hToken with
  | @mk before _ after hSome hInside hBehind =>
      refine ⟨hSome, rfl, hInside, after, ?_, hBehind⟩
      exact List.drop_left

theorem of_byte
    {p : UInt8 → Prop}
    (hAll : ∀ i : Fin 256, p (UInt8.ofNat i))
    (b : UInt8) :
    p b := by
  have hByte := hAll ⟨b.toNat, b.toNat_lt⟩
  rwa [UInt8.ofNat_toNat] at hByte

theorem not_isSpace_of_inPrimitive
    {b : UInt8}
    (hInside : inPrimitive b = true) :
    isSpace b = false := by
  have hAll :
      ∀ i : Fin 256, inPrimitive (UInt8.ofNat i) = true →
        isSpace (UInt8.ofNat i) = false := by
    decide +kernel
  exact of_byte
    (p := fun b => inPrimitive b = true → isSpace b = false)
    hAll b hInside

theorem of_endsPrimitive
    {b : UInt8}
    (hEnds : endsPrimitive b = true) :
    ¬ IsDigit b ∧ isBaseDigit 10 b = false ∧
      isBaseDigit 8 b = false ∧ b ≠ 120 ∧ b ≠ 88 ∧
        inPrimitive b = false := by
  have hAll :
      ∀ i : Fin 256, endsPrimitive (UInt8.ofNat i) = true →
        ¬ IsDigit (UInt8.ofNat i) ∧
          isBaseDigit 10 (UInt8.ofNat i) = false ∧
          isBaseDigit 8 (UInt8.ofNat i) = false ∧
          UInt8.ofNat i ≠ 120 ∧ UInt8.ofNat i ≠ 88 ∧
          inPrimitive (UInt8.ofNat i) = false := by
    decide +kernel
  exact of_byte
    (p := fun b => endsPrimitive b = true →
      ¬ IsDigit b ∧ isBaseDigit 10 b = false ∧
        isBaseDigit 8 b = false ∧ b ≠ 120 ∧ b ≠ 88 ∧
          inPrimitive b = false)
    hAll b hEnds

theorem isBaseDigit_ten_iff
    (b : UInt8) :
    isBaseDigit 10 b = true ↔ IsDigit b := by
  have hAll :
      ∀ i : Fin 256, isBaseDigit 10 (UInt8.ofNat i) = true ↔
        IsDigit (UInt8.ofNat i) := by
    decide +kernel
  exact of_byte
    (p := fun b => isBaseDigit 10 b = true ↔ IsDigit b)
    hAll b

/- The sign of a text is not looked for behind it. -/
theorem splitSign_append
    {text : Bytes}
    (hSome : text ≠ [])
    (after : Bytes) :
    splitSign (text ++ after) =
      ((splitSign text).1, (splitSign text).2 ++ after) := by
  cases text with
  | nil => exact absurd rfl hSome
  | cons b rest =>
      by_cases hMinus : b = 45
      · subst hMinus
        rfl
      · by_cases hPlus : b = 43
        · subst hPlus
          rfl
        · have hNone : ∀ s : Bytes,
              splitSign (b :: s) = (false, b :: s) := by
            intro s
            unfold splitSign
            split
            · rename_i hEq
              exact absurd (List.cons.inj hEq).1 hMinus
            · rename_i hEq
              exact absurd (List.cons.inj hEq).1 hPlus
            · rfl
          rw [hNone rest]
          exact hNone (rest ++ after)

/- A whole part of a number begins with a digit. -/
theorem digits_of_isWhole
    {ds : Bytes}
    (hWhole : IsWhole ds) :
    ds ≠ [] ∧ ∀ b ∈ ds, IsDigit b := by
  rcases hWhole with rfl | ⟨d, rest, rfl, hLow, hHigh, hRest⟩
  · exact ⟨by decide +kernel, by decide +kernel⟩
  · refine ⟨by simp, ?_⟩
    intro b hb
    rcases List.mem_cons.mp hb with rfl | hMem
    · have hNat : 49 ≤ b.toNat := hLow
      have hZero : 48 ≤ b.toNat := by omega
      exact ⟨hZero, hHigh⟩
    · exact hRest b hMem

theorem splitSign_digits
    {ds : Bytes}
    (hSome : ds ≠ [])
    (hDigits : ∀ b ∈ ds, IsDigit b) :
    splitSign ds = (false, ds) := by
  cases ds with
  | nil => exact absurd rfl hSome
  | cons d rest =>
      have hSign := isSpace_of_isDigit (hDigits d (by simp))
      unfold splitSign
      split
      · rename_i hEq
        exact absurd (List.cons.inj hEq).1 hSign.2.1
      · rename_i hEq
        exact absurd (List.cons.inj hEq).1 hSign.2.2
      · rfl

/- A literal begins like a number. -/
theorem SpellsInteger.begins
    {text : Bytes}
    {i : Int}
    (hSpells : SpellsInteger text i) :
    BeginsNumber text := by
  have hHead : ∀ {ds : Bytes}, IsWhole ds →
      ∃ d ∈ ds.head?, IsDigit d := by
    intro ds hWhole
    rcases digits_of_isWhole hWhole with ⟨hSome, hDigits⟩
    cases ds with
    | nil => exact absurd rfl hSome
    | cons d rest => exact ⟨d, rfl, hDigits d (by simp)⟩
  cases hSpells with
  | plain hWhole =>
      rcases digits_of_isWhole hWhole with ⟨hSome, hDigits⟩
      unfold BeginsNumber
      rw [splitSign_digits hSome hDigits]
      exact hHead hWhole
  | minus hWhole => exact hHead hWhole

/- A literal has one value. -/
theorem SpellsInteger.unique
    {text : Bytes}
    {i j : Int}
    (hLeft : SpellsInteger text i)
    (hRight : SpellsInteger text j) :
    i = j := by
  have hNoSign : ∀ {ds : Bytes}, ¬ IsWhole (45 :: ds) := by
    intro ds hWhole
    exact absurd
      ((digits_of_isWhole hWhole).2 45 (by simp))
      (by decide)
  cases hLeft with
  | plain hWhole =>
      cases hRight with
      | plain _ => rfl
      | minus _ => exact absurd hWhole hNoSign
  | minus hWhole =>
      cases hRight with
      | plain hOther => exact absurd hOther hNoSign
      | minus _ => rfl

end Shadow

end TrustOnboard

------------------------------------------------------------
-- Conversions
------------------------------------------------------------

namespace TrustOnboard

namespace Shadow

open Json (IsWhole)

variable {text after : Bytes}

/- No blank stands in front of a primitive. -/
theorem dropWhile_isSpace
    (hSome : text ≠ [])
    (hInside : ∀ b ∈ text, inPrimitive b = true) :
    (text ++ after).dropWhile isSpace = text ++ after := by
  cases text with
  | nil => exact absurd rfl hSome
  | cons b rest =>
      have hSpace :=
        not_isSpace_of_inPrimitive (hInside b (by simp))
      exact List.dropWhile_cons_of_neg (by simp [hSpace])

/- A digit in front is one of the text. -/
theorem head_digit_iff
    (hBehind : ∀ b ∈ after.head?, endsPrimitive b = true)
    (s : Bytes) :
    (∃ d ∈ (s ++ after).head?, IsDigit d) ↔
      ∃ d ∈ s.head?, IsDigit d := by
  cases s with
  | cons b rest => rfl
  | nil =>
      constructor
      · rintro ⟨d, hd, hDigit⟩
        exact absurd hDigit (of_endsPrimitive (hBehind d hd)).1
      · rintro ⟨d, hd, _⟩
        cases hd

/- The digits of a signed number are missing without one. -/
theorem chooseBase_digits_eq_nil_iff
    (s : Bytes) :
    (chooseBase s).2.takeWhile
        (isBaseDigit (chooseBase s).1) = [] ↔
      ¬ ∃ d ∈ s.head?, IsDigit d := by
  unfold chooseBase
  split
  · simp [isBaseDigit, IsDigit, digitValue]
  · simp [isBaseDigit, IsDigit, digitValue]
  · simp [isBaseDigit, IsDigit, digitValue]
  · cases s with
    | nil => simp
    | cons b rest =>
        rw [List.takeWhile_cons]
        by_cases hDigit : IsDigit b
        · simp [hDigit, (isBaseDigit_ten_iff b).mpr hDigit]
        · have hNot : isBaseDigit 10 b = false := by
            rw [Bool.eq_false_iff]
            exact fun hTen =>
              hDigit ((isBaseDigit_ten_iff b).mp hTen)
          simp [hDigit, hNot]

/- The conversion for signed numbers fails without a digit. -/
theorem sscanfInteger_eq_none_iff
    (hSome : text ≠ [])
    (hInside : ∀ b ∈ text, inPrimitive b = true)
    (hBehind : ∀ b ∈ after.head?, endsPrimitive b = true) :
    sscanfInteger (text ++ after) = none ↔
      ¬ BeginsNumber text := by
  unfold sscanfInteger BeginsNumber
  dsimp only
  rw [dropWhile_isSpace hSome hInside,
    splitSign_append hSome]
  dsimp only
  rw [← head_digit_iff hBehind,
    ← chooseBase_digits_eq_nil_iff]
  split
  · rename_i hNone
    simp [hNone]
  · rename_i hNone
    simp [hNone]

/- The base a literal is read in, and its digits. -/
theorem chooseBase_whole
    {ds : Bytes}
    (hWhole : IsWhole ds)
    (hBehind : ∀ b ∈ after.head?, endsPrimitive b = true) :
    (chooseBase (ds ++ after)).2.takeWhile
        (isBaseDigit (chooseBase (ds ++ after)).1) = ds ∧
      digitsValue (chooseBase (ds ++ after)).1 ds =
        digitsValue 10 ds := by
  rcases hWhole with rfl | ⟨d, rest, rfl, hLow, hHigh, hRest⟩
  · have hEight : chooseBase ([48] ++ after) =
        (8, [48] ++ after) := by
      cases after with
      | nil => rfl
      | cons b rest =>
          have hEnds := of_endsPrimitive (hBehind b rfl)
          unfold chooseBase
          split
          · rename_i hEq
            cases hEq
            exact absurd rfl hEnds.2.2.2.1
          · rename_i hEq
            cases hEq
            exact absurd rfl hEnds.2.2.2.2.1
          · rename_i hEq
            cases hEq
            rfl
          · rename_i hEq
            exact absurd rfl (hEq _)
    rw [hEight]
    refine ⟨?_, rfl⟩
    apply takeWhile_digits
    · have hZero :
          ∀ b ∈ ([48] : Bytes), isBaseDigit 8 b = true := by
        decide +kernel
      exact hZero
    · intro b rest hText
      exact (of_endsPrimitive
        (hBehind b (by rw [hText]; rfl))).2.2.1
  · have hNot : d ≠ 48 := by
      rintro rfl
      exact absurd hLow (by decide)
    have hTen : chooseBase (d :: rest ++ after) =
        (10, d :: rest ++ after) := by
      unfold chooseBase
      split
      · rename_i hEq
        exact absurd (List.cons.inj hEq).1 hNot
      · rename_i hEq
        exact absurd (List.cons.inj hEq).1 hNot
      · rename_i hEq
        exact absurd (List.cons.inj hEq).1 hNot
      · rfl
    rw [hTen]
    refine ⟨?_, rfl⟩
    have hDigits :=
      (digits_of_isWhole
        (Or.inr ⟨d, rest, rfl, hLow, hHigh, hRest⟩)).2
    apply takeWhile_digits
    · exact fun b hb => isBaseDigit_ten (hDigits b hb)
    · intro b rest' hText
      exact (of_endsPrimitive
        (hBehind b (by rw [hText]; rfl))).2.1

/- A literal is converted to its integer. -/
theorem sscanfInteger_spelled
    {i : Int}
    (hSpells : SpellsInteger text i)
    (hLow : -(2 ^ 63 : Int) ≤ i)
    (hHigh : i < 2 ^ 63)
    (hBehind : ∀ b ∈ after.head?, endsPrimitive b = true) :
    sscanfInteger (text ++ after) = some i := by
  cases hSpells with
  | plain hWhole =>
      rcases digits_of_isWhole hWhole with ⟨hSome, hDigits⟩
      rcases chooseBase_whole hWhole hBehind with
        ⟨hTake, hValue⟩
      have hSign := splitSign_append hSome after
      rw [splitSign_digits hSome hDigits] at hSign
      have hSpace :
          (text ++ after).dropWhile isSpace =
            text ++ after := by
        cases text with
        | nil => exact absurd rfl hSome
        | cons d rest =>
            have hHead :=
              isSpace_of_isDigit (hDigits d (by simp))
            exact List.dropWhile_cons_of_neg
              (by simp [hHead.1])
      have hMin : min (digitsValue 10 text) (2 ^ 63 - 1) =
          digitsValue 10 text := by
        omega
      unfold sscanfInteger
      simp only [hSpace, hSign, hTake, hValue, hSome,
        if_false, hMin, Bool.false_eq_true]
  | @minus ds hWhole =>
      rcases digits_of_isWhole hWhole with ⟨hSome, hDigits⟩
      rcases chooseBase_whole hWhole hBehind with
        ⟨hTake, hValue⟩
      have hSpace :
          (45 :: ds ++ after).dropWhile isSpace =
            45 :: (ds ++ after) := rfl
      have hSign :
          splitSign (45 :: (ds ++ after)) =
            (true, ds ++ after) := rfl
      have hMin : min (digitsValue 10 ds) (2 ^ 63) =
          digitsValue 10 ds := by
        omega
      unfold sscanfInteger
      simp only [hSpace, hSign, hTake, hValue, hSome,
        if_false, hMin, if_true]

/- So does the conversion for unsigned numbers. -/
theorem sscanfUnsigned_eq_none_iff
    (hSome : text ≠ [])
    (hInside : ∀ b ∈ text, inPrimitive b = true)
    (hBehind : ∀ b ∈ after.head?, endsPrimitive b = true)
    (bits : Nat) :
    sscanfUnsigned bits (text ++ after) = none ↔
      ¬ BeginsNumber text := by
  unfold sscanfUnsigned BeginsNumber
  dsimp only
  rw [dropWhile_isSpace hSome hInside,
    splitSign_append hSome]
  dsimp only
  rw [← head_digit_iff hBehind]
  cases (splitSign text).2 ++ after with
  | nil => simp
  | cons b rest =>
      rw [List.takeWhile_cons]
      by_cases hDigit : IsDigit b
      · simp [hDigit]
      · simp [hDigit]

end Shadow

end TrustOnboard

------------------------------------------------------------
-- Readers
------------------------------------------------------------

namespace TrustOnboard

namespace Shadow

open Json (IsWhole)

variable {json text : Bytes}
variable {tok : JsmnTok}

theorem parseInteger_none_iff
    (hToken : PrimitiveToken json tok text) :
    parseInteger json tok = none ↔ ¬ BeginsNumber text := by
  rcases hToken.textFrom with
    ⟨hSome, hType, hInside, after, hText, hBehind⟩
  unfold parseInteger
  rw [if_neg (not_not.mpr hType), hText]
  exact sscanfInteger_eq_none_iff hSome hInside hBehind

theorem parseInteger_spelled
    (hToken : PrimitiveToken json tok text)
    {i : Int}
    (hSpells : SpellsInteger text i)
    (hLow : -(2 ^ 63 : Int) ≤ i)
    (hHigh : i < 2 ^ 63) :
    parseInteger json tok = some i := by
  rcases hToken.textFrom with
    ⟨_, hType, _, after, hText, hBehind⟩
  unfold parseInteger
  rw [if_neg (not_not.mpr hType), hText]
  exact sscanfInteger_spelled hSpells hLow hHigh hBehind

/-
  A reader of signed numbers, for the numbers of a type: it
  is exact for literals in the range of the type, and for
  texts that do not begin like a number.
-/
theorem signed_exact_iff
    (hToken : PrimitiveToken json tok text)
    {α : Type}
    {ofInt : Int → α}
    {toInt : α → Int}
    {bits : Nat}
    (hBits : bits ≤ 64)
    (hOf :
      ∀ i, -2 ^ (bits - 1) ≤ i → i < 2 ^ (bits - 1) →
        toInt (ofInt i) = i)
    (hTo : ∀ v, ofInt (toInt v) = v)
    (hRange :
      ∀ v, -2 ^ (bits - 1) ≤ toInt v ∧
        toInt v < 2 ^ (bits - 1)) :
    Exact ((parseInteger json tok).map ofInt)
        (fun v => SpellsInteger text (toInt v)) ↔
      SignedProper bits text := by
  have hPower : (2 : Int) ^ (bits - 1) ≤ 2 ^ 63 :=
    pow_le_pow_right₀ (by decide) (by omega)
  constructor
  case mp =>
    intro hExact
    by_cases hBegins : BeginsNumber text
    · left
      cases hParsed : parseInteger json tok with
      | none =>
          exact absurd hBegins
            ((parseInteger_none_iff hToken).mp hParsed)
      | some i =>
          rw [hParsed] at hExact
          have hSpells := (hExact (ofInt i)).mp rfl
          exact ⟨_, hSpells, hRange _⟩
    · exact Or.inr hBegins
  case mpr =>
    rintro (⟨i, hSpells, hLow, hHigh⟩ | hBegins) v
    · rw [parseInteger_spelled hToken hSpells (by omega)
        (by omega)]
      constructor
      · intro hSame
        cases hSame
        rw [hOf i hLow hHigh]
        exact hSpells
      · intro hOther
        rw [hSpells.unique hOther]
        exact congrArg some (hTo v)
    · rw [(parseInteger_none_iff hToken).mpr hBegins]
      constructor
      · exact fun hNo => by cases hNo
      · exact fun hOther => absurd hOther.begins hBegins

theorem parseUnsigned_none_iff
    (hToken : PrimitiveToken json tok text)
    (bits : Nat) :
    parseUnsigned bits json tok = none ↔
      text.head? = some 45 ∨ ¬ BeginsNumber text := by
  rcases hToken.textFrom with
    ⟨hSome, hType, hInside, after, hText, hBehind⟩
  have hHead : (text ++ after).head? = text.head? := by
    cases text with
    | nil => exact absurd rfl hSome
    | cons b rest => rfl
  unfold parseUnsigned
  rw [if_neg (not_not.mpr hType), hText, hHead]
  split
  · rename_i hMinus
    simp [hMinus]
  · rename_i hMinus
    simp only [hMinus, false_or]
    exact sscanfUnsigned_eq_none_iff hSome hInside hBehind bits

/- A literal without a sign is read as it is. -/
theorem parseUnsigned_spelled
    (hToken : PrimitiveToken json tok text)
    {bits : Nat}
    (hBits : bits ≤ 64)
    (hWhole : IsWhole text)
    (hRange : digitsValue 10 text < 2 ^ bits) :
    parseUnsigned bits json tok =
      some (digitsValue 10 text) := by
  rcases hToken.textFrom with
    ⟨hSome, hType, _, after, hText, hBehind⟩
  rcases digits_of_isWhole hWhole with ⟨_, hDigits⟩
  have hMinus : (text ++ after).head? ≠ some 45 := by
    cases text with
    | nil => exact absurd rfl hSome
    | cons d rest =>
        intro hHead
        exact
          (isSpace_of_isDigit (hDigits d (by simp))).2.1
            (Option.some.inj hHead)
  unfold parseUnsigned
  rw [if_neg (not_not.mpr hType), hText, if_neg hMinus]
  apply sscanfUnsigned_digits
  · exact Nat.pow_le_pow_right (by decide) hBits
  · exact hSome
  · exact hDigits
  · exact hRange
  · intro b rest hAfter
    exact (of_endsPrimitive
      (hBehind b (by rw [hAfter]; rfl))).1

/- A literal that is not negative has no sign, or is -0. -/
theorem SpellsInteger.nonneg
    {i : Int}
    (hSpells : SpellsInteger text i)
    (hNonneg : 0 ≤ i) :
    IsWhole text ∧ i = digitsValue 10 text ∨
      text = [45, 48] ∧ i = 0 := by
  cases hSpells with
  | plain hWhole => exact Or.inl ⟨hWhole, rfl⟩
  | @minus ds hWhole =>
      right
      have hZero : digitsValue 10 ds = 0 := by omega
      rcases hWhole with rfl | ⟨d, rest, rfl, hLow, hHigh, _⟩
      · exact ⟨rfl, by rw [hZero]; rfl⟩
      · have hGrows : ∀ (ds : Bytes) (n : Nat),
            n ≤ ds.foldl
              (fun n b => 10 * n + (digitValue b).toNat) n := by
          intro ds
          induction ds with
          | nil => exact fun n => Nat.le_refl n
          | cons b ds ih =>
              intro n
              have hNext := ih (10 * n + (digitValue b).toNat)
              rw [List.foldl_cons]
              omega
        have hFirst : 1 ≤ (digitValue d).toNat := by
          have hNat : 49 ≤ d.toNat := hLow
          have hDigit : IsDigit d :=
            ⟨Nat.le_trans (by decide) hNat, hHigh⟩
          rw [digitValue_of_isDigit hDigit]
          omega
        have hAll :=
          hGrows rest (10 * 0 + (digitValue d).toNat)
        unfold digitsValue at hZero
        rw [List.foldl_cons, hZero] at *
        omega

/-
  A reader of unsigned numbers.  It refuses whatever begins
  with a minus, and so the literal -0.
-/
theorem unsigned_exact_iff
    (hToken : PrimitiveToken json tok text)
    {α : Type}
    {ofNat : Nat → α}
    {toNat : α → Nat}
    {bits : Nat}
    (hBits : bits ≤ 64)
    (hOf : ∀ n, n < 2 ^ bits → toNat (ofNat n) = n)
    (hTo : ∀ v, ofNat (toNat v) = v)
    (hRange : ∀ v, toNat v < 2 ^ bits) :
    Exact ((parseUnsigned bits json tok).map ofNat)
        (fun v => SpellsInteger text (toNat v)) ↔
      UnsignedProper bits text := by
  have hSigned : SpellsInteger [45, 48] 0 :=
    SpellsInteger.minus (Or.inl rfl)
  constructor
  case mp =>
    intro hExact
    constructor
    · rintro rfl
      have hNone :=
        (parseUnsigned_none_iff hToken bits).mpr (Or.inl rfl)
      rw [hNone] at hExact
      have hParsed := (hExact (ofNat 0)).mpr (by
        dsimp only
        rw [hOf 0 (Nat.two_pow_pos bits)]
        exact hSigned)
      cases hParsed
    · cases hParsed : parseUnsigned bits json tok with
      | none =>
          exact Or.inr
            ((parseUnsigned_none_iff hToken bits).mp hParsed)
      | some n =>
          left
          rw [hParsed] at hExact
          have hSpells := (hExact (ofNat n)).mp rfl
          have hBound := hRange (ofNat n)
          exact ⟨_, hSpells, by omega, by exact_mod_cast hBound⟩
  case mpr =>
    rintro ⟨hNotZero, ⟨i, hSpells, hLow, hHigh⟩ | hNone⟩ v
    · rcases hSpells.nonneg hLow with
        ⟨hWhole, rfl⟩ | ⟨hZero, _⟩
      · have hBound : digitsValue 10 text < 2 ^ bits := by
          exact_mod_cast hHigh
        rw [parseUnsigned_spelled hToken hBits hWhole hBound]
        constructor
        · intro hSame
          cases hSame
          rw [hOf _ hBound]
          exact hSpells
        · intro hOther
          have hSame := hSpells.unique hOther
          rw [Int.ofNat_inj.mp hSame]
          exact congrArg some (hTo v)
      · exact absurd hZero hNotZero
    · rw [(parseUnsigned_none_iff hToken bits).mpr hNone]
      constructor
      · exact fun hNo => by cases hNo
      · intro hOther
        rcases hNone with hMinus | hBegins
        · rcases hOther.nonneg (Int.natCast_nonneg _) with
            ⟨hWhole, _⟩ | ⟨hZero, _⟩
          · have hDigit := (digits_of_isWhole hWhole).2 45
              (List.mem_of_mem_head? hMinus)
            exact absurd hDigit (by decide)
          · exact absurd hZero hNotZero
        · exact absurd hOther.begins hBegins

/- A word of letters is compared inside of the token. -/
theorem take_word_iff
    (word : Bytes)
    {after : Bytes}
    (hBehind : ∀ b ∈ after.head?, endsPrimitive b = true)
    (hWord : ∀ b ∈ word, endsPrimitive b = false) :
    (text ++ after).take word.length = word ↔
      word <+: text := by
  rw [← List.prefix_iff_eq_take.trans eq_comm]
  constructor
  · intro hPrefix
    rcases Nat.lt_or_ge text.length word.length with
      hLong | hShort
    · -- The byte behind the token would be one of the word.
      rcases List.prefix_of_prefix_length_le
        (List.prefix_append text after) hPrefix
          (Nat.le_of_lt hLong) with ⟨rest, hRest⟩
      rw [← hRest] at hPrefix
      rcases hPrefix with ⟨more, hMore⟩
      rw [List.append_assoc] at hMore
      have hAfter := List.append_cancel_left hMore
      cases rest with
      | nil =>
          rw [List.append_nil] at hRest
          rw [hRest] at hLong
          omega
      | cons b rest =>
          have hEnds := hBehind b (by rw [← hAfter]; rfl)
          have hMem : b ∈ word := by
            rw [← hRest]
            simp
          rw [hWord b hMem] at hEnds
          cases hEnds
    · exact List.prefix_of_prefix_length_le hPrefix
        (List.prefix_append text after) hShort
  · exact fun hPrefix =>
      hPrefix.trans (List.prefix_append text after)

/- The reader of truth values compares how a token begins. -/
theorem parseBooleanValue_eq
    (hToken : PrimitiveToken json tok text) :
    parseBooleanValue json tok =
      if ascii "true" <+: text then some true
      else if ascii "false" <+: text then some false
      else none := by
  rcases hToken.textFrom with
    ⟨_, hType, _, after, hText, hBehind⟩
  have hTrue :
      (text ++ after).take 4 = ascii "true" ↔
        ascii "true" <+: text :=
    take_word_iff (ascii "true") hBehind
      (by decide +kernel)
  have hFalse :
      (text ++ after).take 5 = ascii "false" ↔
        ascii "false" <+: text :=
    take_word_iff (ascii "false") hBehind
      (by decide +kernel)
  unfold parseBooleanValue
  rw [if_neg (not_not.mpr hType), hText]
  simp only [hTrue, hFalse]

theorem boolean_exact_iff
    (hToken : PrimitiveToken json tok text) :
    Exact (parseBooleanValue json tok)
        (fun b => text =
          if b then ascii "true" else ascii "false") ↔
      BooleanProper text := by
  rw [parseBooleanValue_eq hToken]
  constructor
  case mp =>
    rintro hExact word (rfl | rfl) hPrefix
    · exact (hExact true).mp (if_pos hPrefix)
    · have hNot : ¬ ascii "true" <+: text := by
        intro hOther
        have hBoth := List.prefix_of_prefix_length_le hOther
          hPrefix (by decide)
        exact absurd hBoth (by decide)
      exact (hExact false).mp
        ((if_neg hNot).trans (if_pos hPrefix))
  case mpr =>
    intro hProper v
    split
    · rename_i hPrefix
      rw [hProper _ (Or.inl rfl) hPrefix]
      cases v <;> decide
    · rename_i hTrue
      split
      · rename_i hPrefix
        rw [hProper _ (Or.inr rfl) hPrefix]
        cases v <;> decide
      · rename_i hFalse
        constructor
        · exact fun hNo => by cases hNo
        · intro hText
          cases v with
          | true => exact absurd ⟨[], by simp [hText]⟩ hTrue
          | false => exact absurd ⟨[], by simp [hText]⟩ hFalse

/-
  When the readers of typed values are exact, for a primitive
  with the given text.
-/
theorem parse_values_exact_iff
    (hToken : PrimitiveToken json tok text) :
    (Exact (parseInteger32Value json tok)
        (fun v => SpellsInteger text v.toInt) ↔
      SignedProper 32 text) ∧
    (Exact (parseInteger16Value json tok)
        (fun v => SpellsInteger text v.toInt) ↔
      SignedProper 16 text) ∧
    (Exact (parseInteger8Value json tok)
        (fun v => SpellsInteger text v.toInt) ↔
      SignedProper 8 text) ∧
    (Exact (parseUnsignedInteger32Value json tok)
        (fun v => SpellsInteger text v.toNat) ↔
      UnsignedProper 32 text) ∧
    (Exact (parseUnsignedInteger16Value json tok)
        (fun v => SpellsInteger text v.toNat) ↔
      UnsignedProper 16 text) ∧
    (Exact (parseUnsignedInteger8Value json tok)
        (fun v => SpellsInteger text v.toNat) ↔
      UnsignedProper 8 text) ∧
    (Exact (parseBooleanValue json tok)
        (fun b => text =
          if b then ascii "true" else ascii "false") ↔
      BooleanProper text) := by
  refine ⟨?_, ?_, ?_, ?_, ?_, ?_, ?_⟩
  · apply signed_exact_iff hToken (by decide)
    · intro i hLow hHigh
      exact Int32.toInt_ofInt_of_le hLow hHigh
    · exact Int32.ofInt_toInt
    · exact fun v => ⟨v.le_toInt, v.toInt_lt⟩
  · apply signed_exact_iff hToken (by decide)
    · intro i hLow hHigh
      exact Int16.toInt_ofInt_of_le hLow hHigh
    · exact Int16.ofInt_toInt
    · exact fun v => ⟨v.le_toInt, v.toInt_lt⟩
  · apply signed_exact_iff hToken (by decide)
    · intro i hLow hHigh
      exact Int8.toInt_ofInt_of_le hLow hHigh
    · exact Int8.ofInt_toInt
    · exact fun v => ⟨v.le_toInt, v.toInt_lt⟩
  · apply unsigned_exact_iff hToken (by decide)
    · intro n hRange
      exact UInt32.toNat_ofNat_of_lt' hRange
    · exact fun v => UInt32.ofNat_toNat
    · exact fun v => v.toNat_lt
  · apply unsigned_exact_iff hToken (by decide)
    · intro n hRange
      exact UInt16.toNat_ofNat_of_lt' hRange
    · exact fun v => UInt16.ofNat_toNat
    · exact fun v => v.toNat_lt
  · apply unsigned_exact_iff hToken (by decide)
    · intro n hRange
      exact UInt8.toNat_ofNat_of_lt' hRange
    · exact fun v => UInt8.ofNat_toNat
    · exact fun v => v.toNat_lt
  · exact boolean_exact_iff hToken

/- The number of the text {"a":300}. -/
def threeHundred : JsmnTok :=
  ⟨.primitive, 5, 8⟩

theorem threeHundred_token :
    PrimitiveToken (ascii "\x7b\"a\":300\x7d") threeHundred
      (ascii "300") :=
  @PrimitiveToken.mk (ascii "\x7b\"a\":") (ascii "300")
    (ascii "\x7d") (by decide +kernel) (by decide +kernel)
    (by decide +kernel)

/- It is a number, and none for eight bits. -/
theorem parse_values_exact_iff_threeHundred :
    PrimitiveToken (ascii "\x7b\"a\":300\x7d") threeHundred
        (ascii "300") ∧
      (Exact
          (parseUnsignedInteger8Value
            (ascii "\x7b\"a\":300\x7d") threeHundred)
          (fun v => SpellsInteger (ascii "300") v.toNat) ↔
        UnsignedProper 8 (ascii "300")) :=
  ⟨threeHundred_token,
    (parse_values_exact_iff threeHundred_token).2.2.2.2.2.1⟩

/- The reader of eight bits takes it for 44. -/
theorem parseUnsignedInteger8Value_threeHundred :
    PrimitiveToken (ascii "\x7b\"a\":300\x7d") threeHundred
        (ascii "300") ∧
      parseUnsignedInteger8Value
          (ascii "\x7b\"a\":300\x7d") threeHundred =
        some 44 ∧
      ¬ SpellsInteger (ascii "300") (44 : UInt8).toNat := by
  refine ⟨threeHundred_token, by decide +kernel, ?_⟩
  intro hSpells
  have hPlain : SpellsInteger (ascii "300") 300 :=
    SpellsInteger.plain
      (Or.inr ⟨51, [48, 48], by decide +kernel⟩)
  exact absurd (hPlain.unique hSpells) (by decide)

end Shadow

end TrustOnboard
