import TrustOnboard.Mqtt.LengthDecoders

/-
  The codec of the remaining length, with the decoder in the
  32-bit arithmetic of the source.

  A field may end in zero digits that add nothing to its
  value.  Among the fields of a number exactly one has none,
  and it is the shortest: the one that is written.

  Key definitions include:
    * `Base128.Superfluous`
    * `decodeRemainingLengthWords`
    * `LengthCodec`

  Key results include:
    * `Base128.eq_of_not_superfluous`
    * `decodeRemainingLengthWords_eq`
    * `remainingLength_codec`
-/

------------------------------------------------------------
-- Superfluous Digits
------------------------------------------------------------

namespace TrustOnboard

namespace Base128

/- The last byte adds nothing to the value. -/
def Superfluous (bs : Bytes) : Prop :=
  1 < bs.length ∧ bs.getLast? = some 0

instance decidableSuperfluous
    (bs : Bytes) :
    Decidable (Superfluous bs) := by
  unfold Superfluous
  infer_instance

/- A byte is its digit and its continuation bit. -/
theorem eq_of_digits
    {b c : UInt8}
    (hMoreLeft : b &&& 128 ≠ 0)
    (hMoreRight : c &&& 128 ≠ 0)
    (hDigit : (b &&& 127).toNat = (c &&& 127).toNat) :
    b = c := by
  rw [Ne, and_128_eq_zero_iff] at hMoreLeft hMoreRight
  rw [toNat_and_127, toNat_and_127] at hDigit
  have hLeft := b.toNat_lt
  have hRight := c.toNat_lt
  apply UInt8.toNat_inj.mp
  omega

theorem eq_of_last
    {b c : UInt8}
    (hLastLeft : b &&& 128 = 0)
    (hLastRight : c &&& 128 = 0)
    (hDigit : (b &&& 127).toNat = (c &&& 127).toNat) :
    b = c := by
  rw [and_128_eq_zero_iff] at hLastLeft hLastRight
  rw [toNat_and_127, toNat_and_127] at hDigit
  apply UInt8.toNat_inj.mp
  omega

/- A field of the value 0 ends in the byte 0. -/
theorem getLast_of_zero
    {bs : Bytes}
    {n : Nat}
    (hField : Base128 bs n)
    (hZero : n = 0) :
    bs.getLast? = some 0 := by
  induction hField with
  | last b hLast =>
      rw [and_128_eq_zero_iff] at hLast
      rw [toNat_and_127] at hZero
      have hByte : b = 0 := by
        apply UInt8.toNat_inj.mp
        change b.toNat = 0
        omega
      rw [hByte]
      rfl
  | more b bs n hMore hRest ih =>
      have hLast := ih (by omega)
      rw [List.getLast?_cons, hLast]
      rfl

/- In front of a field of the value 0 the rest is no use. -/
theorem superfluous_of_zero
    {b : UInt8}
    {bs : Bytes}
    (hRest : Base128 bs 0) :
    Superfluous (b :: bs) := by
  have hPos := hRest.length_pos
  refine ⟨by simp only [List.length_cons]; omega, ?_⟩
  rw [List.getLast?_cons, hRest.getLast_of_zero rfl]
  rfl

/- The rest of a field has its last byte. -/
theorem Superfluous.cons
    {b : UInt8}
    {bs : Bytes}
    (hRest : Superfluous bs) :
    Superfluous (b :: bs) := by
  refine ⟨Nat.lt_succ_of_lt hRest.1, ?_⟩
  rw [List.getLast?_cons, hRest.2]
  rfl

/- Of the fields of a number one has no superfluous byte. -/
theorem eq_of_not_superfluous
    {bs cs : Bytes}
    {n m : Nat}
    (hLeft : Base128 bs n)
    (hRight : Base128 cs m)
    (hSame : n = m)
    (hLeftShortest : ¬ Superfluous bs)
    (hRightShortest : ¬ Superfluous cs) :
    bs = cs := by
  induction hLeft generalizing cs m with
  | last b hLast =>
      have hDigit := toNat_and_127 b
      cases hRight with
      | last c hLast' =>
          rw [eq_of_last hLast hLast' hSame]
      | more c cs m hMore hRest =>
          have hZero : m = 0 := by omega
          subst hZero
          exact absurd (superfluous_of_zero hRest) hRightShortest
  | more b bs n hMore hRest ih =>
      have hDigitLeft := toNat_and_127 b
      cases hRight with
      | last c hLast' =>
          have hDigitRight := toNat_and_127 c
          have hZero : n = 0 := by omega
          subst hZero
          exact absurd (superfluous_of_zero hRest) hLeftShortest
      | more c cs m hMore' hRest' =>
          have hDigitRight := toNat_and_127 c
          rw [eq_of_digits hMore hMore' (by omega),
            ih hRest' (by omega)
              (fun hNo => hLeftShortest hNo.cons)
              (fun hNo => hRightShortest hNo.cons)]

/- A field without superfluous bytes is the shortest. -/
theorem length_le_of_not_superfluous
    {bs cs : Bytes}
    {n m : Nat}
    (hLeft : Base128 bs n)
    (hRight : Base128 cs m)
    (hSame : n = m)
    (hShortest : ¬ Superfluous bs) :
    bs.length ≤ cs.length := by
  induction hLeft generalizing cs m with
  | last b hLast => exact hRight.length_pos
  | more b bs n hMore hRest ih =>
      have hDigitLeft := toNat_and_127 b
      cases hRight with
      | last c hLast' =>
          have hDigitRight := toNat_and_127 c
          have hZero : n = 0 := by omega
          subst hZero
          exact absurd (superfluous_of_zero hRest) hShortest
      | more c cs m hMore' hRest' =>
          have hDigitRight := toNat_and_127 c
          exact Nat.succ_le_succ
            (ih hRest' (by omega) (fun hNo => hShortest hNo.cons))

/- Superfluous behind a byte: already so, or alone. -/
theorem Superfluous.of_cons
    {c : UInt8}
    {cs : Bytes}
    (hSuperfluous : Superfluous (c :: cs)) :
    Superfluous cs ∨ cs = [0] := by
  rcases hSuperfluous with ⟨hMany, hLast⟩
  cases cs with
  | nil => exact absurd hMany (by simp)
  | cons d ds =>
      rw [List.getLast?_cons_cons] at hLast
      by_cases hOne : ds = []
      · subst hOne
        rw [List.getLast?_singleton] at hLast
        rw [Option.some.inj hLast]
        exact Or.inr rfl
      · have hPos := List.length_pos_iff.mpr hOne
        refine Or.inl ⟨?_, hLast⟩
        rw [List.length_cons]
        omega

/- A field with superfluous bytes is longer. -/
theorem length_lt_of_superfluous
    {bs cs : Bytes}
    {n m : Nat}
    (hLeft : Base128 bs n)
    (hRight : Base128 cs m)
    (hSame : n = m)
    (hShortest : ¬ Superfluous bs)
    (hSuperfluous : Superfluous cs) :
    bs.length < cs.length := by
  induction hLeft generalizing cs m with
  | last b hLast => exact hSuperfluous.1
  | more b bs n hMore hRest ih =>
      have hDigitLeft := toNat_and_127 b
      cases hRight with
      | last c hLast' => exact absurd hSuperfluous.1 (by simp)
      | more c cs m hMore' hRest' =>
          have hDigitRight := toNat_and_127 c
          have hValue : n = m := by omega
          rcases hSuperfluous.of_cons with hInner | rfl
          · exact Nat.succ_lt_succ
              (ih hRest' hValue (fun hNo => hShortest hNo.cons)
                hInner)
          · have hZero : m = 0 :=
              hRest'.unique (Base128.last 0 rfl)
            rw [hValue, hZero] at hRest
            exact absurd (superfluous_of_zero hRest) hShortest

end Base128

end TrustOnboard

------------------------------------------------------------
-- The Encoder
------------------------------------------------------------

namespace TrustOnboard

namespace Mqtt

/- A digit other than 0 is no byte 0. -/
theorem getLast_digit
    {n : Nat}
    (hDigit : n < 128)
    (hPos : 0 < n) :
    [UInt8.ofNat n].getLast? ≠ some 0 := by
  rw [List.getLast?_singleton]
  intro hZero
  have hByte := congrArg UInt8.toNat (Option.some.inj hZero)
  rw [UInt8.toNat_ofNat'] at hByte
  change _ = 0 at hByte
  omega

/- The last byte written is 0 for the number 0 only. -/
theorem getLast_writeLenRounds
    (k : Nat)
    {n : Nat}
    (hSmall : n < 128 ^ (k + 1))
    (hPos : 0 < n) :
    (writeLenRounds (k + 1) n).getLast? ≠ some 0 := by
  induction k generalizing n with
  | zero =>
      have hDigit : n < 128 := by omega
      rw [writeLenRounds_digit 0 hDigit]
      exact getLast_digit hDigit hPos
  | succ k ih =>
      by_cases hMore : 0 < n / 128
      · have hRest : n / 128 < 128 ^ (k + 1) := by
          rw [Nat.pow_succ] at hSmall
          omega
        have hLater := ih hRest hMore
        rw [writeLenRounds]
        simp only [hMore, if_true, List.getLast?_cons]
        intro hZero
        cases hEnd :
            (writeLenRounds (k + 1) (n / 128)).getLast? with
        | none =>
            have hField := writeLenRounds_base128 k _ hRest
            have hSome := hField.length_pos
            rw [List.getLast?_eq_none_iff.mp hEnd] at hSome
            exact absurd hSome (by simp)
        | some c =>
            rw [hEnd] at hZero
            exact hLater (hEnd.trans hZero)
      · have hDigit : n < 128 := by omega
        rw [writeLenRounds_digit (k + 1) hDigit]
        exact getLast_digit hDigit hPos

/- What is written has no superfluous byte. -/
theorem writeLenToBuffer_lean
    (length : UInt32) :
    ¬ Base128.Superfluous (writeLenToBuffer length) := by
  rintro ⟨hMany, hZero⟩
  have hLt := length.toNat_lt
  by_cases hPos : 0 < length.toNat
  · exact getLast_writeLenRounds 4 (by omega) hPos hZero
  · have hNone : length.toNat = 0 := by omega
    unfold writeLenToBuffer at hMany
    rw [hNone] at hMany
    exact absurd hMany (by decide)

end Mqtt

end TrustOnboard

------------------------------------------------------------
-- The Decoder In 32 Bits
------------------------------------------------------------

namespace TrustOnboard

namespace Mqtt

/- The variables of the decoding loop. -/
structure DecodeLocals where
  off : Nat
  len : UInt32
  multiplier : UInt32
  decodedLen : UInt32

/- A round of the decoding loop. -/
def decodeLenRound
    (buf : Buffer)
    (v : DecodeLocals) :
    DecodeLocals ⊕ Except IoTError (UInt32 × UInt32) :=
  let len := v.len + 1
  if maxNoOfRemainingLengthBytes < len.toNat then
    .inr (.error .mqttDecodeRemainingLengthError)
  else
    let encodedByte := buf v.off
    let decodedLen :=
      v.decodedLen +
        (encodedByte &&& 127).toUInt32 * v.multiplier
    if encodedByte &&& 128 ≠ 0 then
      .inl
        { off := v.off + 1
          len := len
          multiplier := v.multiplier * 128
          decodedLen := decodedLen }
    else
      .inr (.ok (decodedLen, len))

/- Rounds until there is a result. -/
def decodeLenLoop
    (buf : Buffer) :
    Nat → DecodeLocals →
      Option (Except IoTError (UInt32 × UInt32))
  | 0, _ => none
  | fuel + 1, v =>
      match decodeLenRound buf v with
      | .inl v => decodeLenLoop buf fuel v
      | .inr r => some r

/-
  `aws_iot_mqtt_internal_decode_remaining_length_from_buffer`
  with its variables: `*decodedLen` and `*readBytesLen`.  The
  fifth round is the last that can begin.
-/
def decodeRemainingLengthWords
    (buf : Buffer)
    (off : Nat) :
    Option (Except IoTError (UInt32 × UInt32)) :=
  decodeLenLoop buf (maxNoOfRemainingLengthBytes + 1)
    { off := off, len := 0, multiplier := 1, decodedLen := 0 }

/- A result of the decoder in 32 bits. -/
def toWords
    (r : Except IoTError (Nat × Nat)) :
    Except IoTError (UInt32 × UInt32) :=
  r.map (fun p => (UInt32.ofNat p.1, UInt32.ofNat p.2))

/- The rounds in 32 bits are the ones without a bound. -/
theorem decodeLenLoop_eq
    (buf : Buffer)
    (rounds off : Nat)
    (len multiplier decoded : Nat)
    (hLen : len + rounds = maxNoOfRemainingLengthBytes) :
    decodeLenLoop buf (rounds + 1)
        { off := off
          len := .ofNat len
          multiplier := .ofNat multiplier
          decodedLen := .ofNat decoded } =
      some (toWords
        (decodeLenRounds buf rounds off len multiplier
          decoded)) := by
  unfold maxNoOfRemainingLengthBytes at hLen
  have hNext : ∀ n,
      UInt32.ofNat n + 1 = .ofNat (n + 1) := by
    intro n
    rw [UInt32.ofNat_add]
    rfl
  induction rounds generalizing
      off len multiplier decoded with
  | zero =>
      have hFull :
          maxNoOfRemainingLengthBytes < len + 1 := by
        unfold maxNoOfRemainingLengthBytes
        omega
      have hCount :
          (UInt32.ofNat (len + 1)).toNat = len + 1 := by
        rw [UInt32.toNat_ofNat']
        omega
      simp only [decodeLenLoop, decodeLenRound, hNext, hCount,
        if_pos hFull]
      rfl
  | succ rounds ih =>
      have hFew :
          ¬ maxNoOfRemainingLengthBytes < len + 1 := by
        unfold maxNoOfRemainingLengthBytes
        omega
      have hCount :
          (UInt32.ofNat (len + 1)).toNat = len + 1 := by
        rw [UInt32.toNat_ofNat']
        omega
      have hDigit :
          (buf off &&& 127).toUInt32 =
            .ofNat (buf off &&& 127).toNat := by
        apply UInt32.toNat_inj.mp
        rw [UInt32.toNat_ofNat', UInt8.toNat_toUInt32]
        have hLt := (buf off &&& 127).toNat_lt
        omega
      have hMult :
          UInt32.ofNat multiplier * 128 =
            .ofNat (multiplier * 128) := by
        rw [UInt32.ofNat_mul]
        rfl
      have hSum :
          UInt32.ofNat decoded +
              UInt32.ofNat (buf off &&& 127).toNat *
                UInt32.ofNat multiplier =
            .ofNat
              (decoded +
                (buf off &&& 127).toNat * multiplier) := by
        rw [UInt32.ofNat_add, UInt32.ofNat_mul]
      rw [decodeLenLoop, decodeLenRound, decodeLenRounds]
      simp only [hNext, hCount, if_neg hFew, hDigit, hSum,
        hMult]
      by_cases hMore : buf off &&& 128 ≠ 0
      · rw [if_pos hMore, if_pos hMore]
        exact ih _ _ _ _ (by omega)
      · rw [if_neg hMore, if_neg hMore]
        rfl

/- The decoder does not need more than 32 bits. -/
theorem decodeRemainingLengthWords_eq
    (buf : Buffer)
    (off : Nat) :
    decodeRemainingLengthWords buf off =
      some (toWords
        (decodeRemainingLengthFromBuffer buf off)) :=
  decodeLenLoop_eq buf maxNoOfRemainingLengthBytes off 0 1 0
    rfl

end Mqtt

end TrustOnboard

------------------------------------------------------------
-- The Codec
------------------------------------------------------------

namespace TrustOnboard

namespace Mqtt

/- The largest remaining length. -/
def maxRemainingLength : UInt32 := 268435455

/-
  The encoder and the decoder of the remaining length:
  `n` is written as the only field of its value that no
  other is shorter than, in one to four bytes, and decoded
  from these bytes whatever follows them; larger numbers are
  rejected; and what is decoded is written again as it was
  unless the last byte is a superfluous 0.
-/
structure LengthCodec : Prop where
  shortest :
    ∀ n ≤ maxRemainingLength,
      Base128 (writeLenToBuffer n) n.toNat ∧
        1 ≤ (writeLenToBuffer n).length ∧
        (writeLenToBuffer n).length ≤ 4 ∧
        ∀ bs, Base128 bs n.toNat →
          (writeLenToBuffer n).length ≤ bs.length ∧
            (bs.length ≤ (writeLenToBuffer n).length →
              bs = writeLenToBuffer n)
  decoded :
    ∀ n ≤ maxRemainingLength, ∀ buf off,
      buf.load off (writeLenToBuffer n).length =
          writeLenToBuffer n →
        decodeRemainingLengthWords buf off =
          some (.ok
            (n, .ofNat (writeLenToBuffer n).length))
  rejected :
    ∀ n, maxRemainingLength < n → ∀ buf off,
      buf.load off (writeLenToBuffer n).length =
          writeLenToBuffer n →
        decodeRemainingLengthWords buf off =
          some (.error .mqttDecodeRemainingLengthError)
  rewritten :
    ∀ buf off n k,
      decodeRemainingLengthWords buf off =
          some (.ok (n, k)) →
        (writeLenToBuffer n = buf.load off k.toNat ↔
          ¬ Base128.Superfluous (buf.load off k.toNat))

/- What is written fits into four bytes up to the largest. -/
theorem length_writeLenToBuffer_iff
    (n : UInt32) :
    (writeLenToBuffer n).length ≤
        maxNoOfRemainingLengthBytes ↔
      n ≤ maxRemainingLength := by
  have hMax : maxRemainingLength.toNat = 268435455 := rfl
  rw [UInt32.le_iff_toNat_le, hMax]
  constructor
  case mp =>
    intro hShort
    have hLt := (writeLenToBuffer_base128 n).lt_pow
    have hPow :
        128 ^ (writeLenToBuffer n).length ≤ 128 ^ 4 :=
      Nat.pow_le_pow_right (by decide) hShort
    omega
  case mpr =>
    intro hLe
    have hLimit : lengthLimit = 268435456 := by decide
    apply length_writeLenToBuffer_le
    omega

/- The decoder at a field that was written. -/
theorem decode_written
    {n : UInt32}
    {buf : Buffer}
    {off : Nat}
    (hLoad :
      buf.load off (writeLenToBuffer n).length =
        writeLenToBuffer n) :
    decodeRemainingLengthWords buf off =
      some
        (if n ≤ maxRemainingLength then
          .ok (n, .ofNat (writeLenToBuffer n).length)
        else
          .error .mqttDecodeRemainingLengthError) := by
  have hDecode :=
    decodeLenRounds_field (writeLenToBuffer_base128 n) hLoad
      maxNoOfRemainingLengthBytes 0 1 0
  rw [decodeRemainingLengthWords_eq]
  unfold decodeRemainingLengthFromBuffer
  rw [hDecode]
  by_cases hLe : n ≤ maxRemainingLength
  · rw [if_pos hLe,
      if_pos ((length_writeLenToBuffer_iff n).mpr hLe)]
    simp [toWords, Except.map]
  · rw [if_neg hLe, if_neg (fun hShort =>
      hLe ((length_writeLenToBuffer_iff n).mp hShort))]
    rfl

/- What the decoder accepts is a field of its result. -/
theorem field_of_decode
    {buf : Buffer}
    {off : Nat}
    {n k : UInt32}
    (hDecode :
      decodeRemainingLengthWords buf off =
        some (.ok (n, k))) :
    Base128 (buf.load off k.toNat) n.toNat := by
  rw [decodeRemainingLengthWords_eq] at hDecode
  cases hPlain : decodeRemainingLengthFromBuffer buf off with
  | error e =>
      rw [hPlain] at hDecode
      cases Option.some.inj hDecode
  | ok r =>
      rcases r with ⟨v, j⟩
      rw [hPlain] at hDecode
      cases Option.some.inj hDecode
      rcases decodeRemainingLength_iff.mp hPlain with
        ⟨hField, hShort⟩
      have hValue : (UInt32.ofNat v).toNat = v := by
        rw [UInt32.toNat_ofNat']
        have hPow :
            128 ^ j ≤ 128 ^ maxNoOfRemainingLengthBytes :=
          Nat.pow_le_pow_right (by decide) hShort
        have hSmall := hField.lt_pow
        rw [Buffer.length_load] at hSmall
        have hFour : 128 ^ maxNoOfRemainingLengthBytes =
            268435456 := by decide
        omega
      have hCount : (UInt32.ofNat j).toNat = j := by
        rw [UInt32.toNat_ofNat']
        have hFour : maxNoOfRemainingLengthBytes = 4 := rfl
        omega
      rw [hValue, hCount]
      exact hField

/- The remaining length is coded as it should be. -/
theorem remainingLength_codec : LengthCodec where
  shortest := by
    intro n hLe
    have hField := writeLenToBuffer_base128 n
    have hShortest := writeLenToBuffer_lean n
    have hShort := (length_writeLenToBuffer_iff n).mpr hLe
    refine ⟨hField, hField.length_pos, hShort, ?_⟩
    intro bs hOther
    refine
      ⟨hField.length_le_of_not_superfluous hOther rfl hShortest,
        ?_⟩
    intro hNoLonger
    apply hOther.eq_of_not_superfluous hField rfl ?_ hShortest
    intro hSuperfluous
    have hLonger :=
      hField.length_lt_of_superfluous hOther rfl hShortest
        hSuperfluous
    omega
  decoded := by
    intro n hLe buf off hLoad
    rw [decode_written hLoad, if_pos hLe]
  rejected := by
    intro n hGt buf off hLoad
    rw [decode_written hLoad, if_neg (UInt32.not_le.mpr hGt)]
  rewritten := by
    intro buf off n k hDecode
    have hField := field_of_decode hDecode
    have hWritten := writeLenToBuffer_base128 n
    have hShortest := writeLenToBuffer_lean n
    constructor
    case mp =>
      intro hSame
      rw [← hSame]
      exact hShortest
    case mpr =>
      intro hOtherLean
      exact
        hWritten.eq_of_not_superfluous hField rfl hShortest
          hOtherLean

end Mqtt

end TrustOnboard
