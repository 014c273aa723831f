import TrustOnboard.Mqtt.Stored
import TrustOnboard.Mqtt.Reading
import TrustOnboard.Mqtt.Script

/-
  The two decoders of the remaining length, one over the
  network and one over a buffer, on the same bytes.

  Both accept exactly the fields of base 128, the one over
  the buffer only up to four bytes.  The one over the network
  shares its byte counter with the network layer, which sets
  it back to one, so that it never rejects a field.

  Key definitions include:
    * `Supplies`
    * `Streams`
    * `DecodersAgree`

  Key results include:
    * `decodeRemainingLength_iff`
    * `decodeLoop_run`
    * `streams_iff`
    * `decodersAgree_iff`
-/

------------------------------------------------------------
-- Fields At An Offset
------------------------------------------------------------

namespace TrustOnboard

namespace Mqtt

/- A field ends with a byte whose top bit is clear. -/
theorem clear_of_field
    {buf : Buffer}
    {off k n : Nat}
    (hField : Base128 (buf.load off k) n) :
    ∃ i < k, buf (off + i) &&& 128 = 0 := by
  rcases hField.exists_last with ⟨b, hMem, hLast⟩
  rcases List.mem_map.mp hMem with ⟨i, hi, rfl⟩
  exact ⟨i, List.mem_range.mp hi, hLast⟩

/- The first byte whose top bit is clear ends a field. -/
theorem field_of_clear
    {buf : Buffer}
    {off k : Nat}
    (hClear : ∃ i < k, buf (off + i) &&& 128 = 0) :
    ∃ j ≤ k, ∃ n, Base128 (buf.load off j) n := by
  induction k generalizing off with
  | zero =>
      rcases hClear with ⟨i, hi, _⟩
      omega
  | succ k ih =>
      by_cases hFirst : buf off &&& 128 = 0
      · refine ⟨1, by omega, (buf off &&& 127).toNat, ?_⟩
        rw [Buffer.load_succ, Buffer.load_zero]
        exact Base128.last (buf off) hFirst
      · rcases hClear with ⟨i, hi, hLast⟩
        cases i with
        | zero => exact absurd hLast hFirst
        | succ i =>
            have hRest :
                ∃ i < k, buf (off + 1 + i) &&& 128 = 0 := by
              refine ⟨i, by omega, ?_⟩
              rw [Nat.add_assoc, Nat.add_comm 1 i]
              exact hLast
            rcases ih hRest with ⟨j, hj, n, hField⟩
            refine
              ⟨j + 1, by omega,
                (buf off &&& 127).toNat + n * 128, ?_⟩
            rw [Buffer.load_succ]
            exact Base128.more (buf off) _ n hFirst hField

/- The bytes at an offset begin with one field at most. -/
theorem field_unique
    {buf : Buffer}
    {off j k m n : Nat}
    (hLeft : Base128 (buf.load off j) m)
    (hRight : Base128 (buf.load off k) n) :
    j = k ∧ m = n := by
  wlog hLe : j ≤ k generalizing j k m n
  · rcases this hRight hLeft (by omega) with ⟨rfl, rfl⟩
    exact ⟨rfl, rfl⟩
  rcases Nat.exists_eq_add_of_le hLe with ⟨d, rfl⟩
  have hSame :
      buf.load off j ++ buf.load (off + j) d =
        buf.load off (j + d) ++ [] := by
    rw [List.append_nil, Buffer.load_add]
  have hEq := (hLeft.append_cancel hRight hSame).1
  have hLength := congrArg List.length hEq
  rw [Buffer.length_load, Buffer.length_load] at hLength
  rw [← hLength] at hRight
  exact ⟨hLength, hLeft.unique hRight⟩

/- Too many bytes with the top bit set are an error. -/
theorem decodeLenRounds_long
    {buf : Buffer}
    (rounds off len multiplier decoded : Nat)
    (hMore : ∀ i < rounds, buf (off + i) &&& 128 ≠ 0) :
    decodeLenRounds buf rounds off len multiplier decoded =
      .error .mqttDecodeRemainingLengthError := by
  induction rounds generalizing
      off len multiplier decoded with
  | zero => rfl
  | succ rounds ih =>
      have hFirst : buf off &&& 128 ≠ 0 :=
        hMore 0 (by omega)
      rw [decodeLenRounds, if_pos hFirst]
      apply ih
      intro i hi
      rw [Nat.add_assoc, Nat.add_comm 1 i]
      exact hMore (i + 1) (by omega)

/- The decoder over a buffer accepts fields of four bytes. -/
theorem decodeRemainingLength_iff
    {buf : Buffer}
    {off v k : Nat} :
    decodeRemainingLengthFromBuffer buf off = .ok (v, k) ↔
      Base128 (buf.load off k) v ∧
        k ≤ maxNoOfRemainingLengthBytes := by
  constructor
  · intro hOk
    by_cases hClear :
        ∃ i < maxNoOfRemainingLengthBytes,
          buf (off + i) &&& 128 = 0
    · rcases field_of_clear hClear with ⟨j, hj, n, hField⟩
      have hDecode :=
        decodeLenRounds_field hField
          (show buf.load off (buf.load off j).length = _ by
            rw [Buffer.length_load])
          maxNoOfRemainingLengthBytes 0 1 0
      rw [Buffer.length_load, if_pos hj] at hDecode
      unfold decodeRemainingLengthFromBuffer at hOk
      rw [hDecode] at hOk
      cases hOk
      simpa using And.intro hField hj
    · unfold decodeRemainingLengthFromBuffer at hOk
      rw [decodeLenRounds_long _ _ _ _ _
        (fun i hi hZero => hClear ⟨i, hi, hZero⟩)] at hOk
      cases hOk
  · rintro ⟨hField, hShort⟩
    have hDecode :=
      decodeLenRounds_field hField
        (show buf.load off (buf.load off k).length = _ by
          rw [Buffer.length_load])
        maxNoOfRemainingLengthBytes 0 1 0
    rw [Buffer.length_load, if_pos hShort] at hDecode
    unfold decodeRemainingLengthFromBuffer
    rw [hDecode, Nat.zero_add, Nat.zero_add, Nat.mul_one]

end Mqtt

end TrustOnboard

------------------------------------------------------------
-- The Decoder Over The Network
------------------------------------------------------------

namespace TrustOnboard

namespace Mqtt

variable {E : Type}
variable {port : Port E}
variable {stream : Buffer}
variable {pos : E → Nat}

/-
  The network supplies a stream of bytes, one for each read
  of one byte; `pos` is the number of bytes taken so far.
-/
def Supplies
    (port : Port E)
    (stream : Buffer)
    (pos : E → Nat) : Prop :=
  ∀ e,
    (port.netRead 1 e).1 = .success [stream (pos e)] rfl ∧
      pos (port.netRead 1 e).2 = pos e + 1

/- The state of the loop behind the bytes read so far. -/
structure LenState.Behind
    (v : LenState)
    (stream : Buffer)
    (off : Nat) : Prop where
  len_le : v.len ≤ 1
  more : ∀ i < v.index, stream (off + i) &&& 128 ≠ 0
  begun :
    ∃ m,
      Base128.Begun (stream.load off v.index) m ∧
        v.multiplier = 128 ^ v.index % sizeMax ∧
          v.remLen = m % sizeMax

theorem behind_start
    (stream : Buffer)
    (off : Nat) :
    LenState.Behind
      { len := 0, index := 0, multiplier := 1, remLen := 0 }
      stream off :=
  ⟨Nat.zero_le 1, fun i hi => absurd hi (Nat.not_lt_zero i),
    0, by simpa using Base128.Begun.nil, rfl, rfl⟩

/- One more byte with its top bit set. -/
theorem LenState.Behind.next
    {v : LenState}
    {off : Nat}
    (hBehind : v.Behind stream off)
    (hMore : stream (off + v.index) &&& 128 ≠ 0) :
    LenState.Behind
      { len := 1
        index := v.index + 1
        multiplier := v.multiplier * 128 % sizeMax
        remLen :=
          (v.remLen +
            (stream (off + v.index) &&& 127).toNat *
              v.multiplier) % sizeMax }
      stream off := by
  rcases hBehind.begun with ⟨m, hBegun, hMult, hRem⟩
  refine
    ⟨Nat.le_refl 1, ?_,
      m + (stream (off + v.index) &&& 127).toNat *
        128 ^ v.index, ?_, ?_, ?_⟩
  · intro i hi
    by_cases hLast : i = v.index
    · rw [hLast]
      exact hMore
    · exact hBehind.more i (by
        dsimp only at hi
        omega)
  · have hSnoc := hBegun.snoc _ hMore
    rw [Buffer.length_load] at hSnoc
    rw [Buffer.load_add]
    exact hSnoc
  · rw [hMult]
    exact lenRound_multiplier v.index
  · rw [hMult, hRem]
    exact lenRound_mod m v.index _

/- The body of the decoding loop. -/
def decodeLenStep
    (port : Port E)
    (v : LenState) :
    Code E (LenState ⊕ Except IoTError Nat) := do
  if v.len + 1 > maxNoOfRemainingLengthBytes then
    pure (.inr (.error .mqttDecodeRemainingLengthError))
  else do
    let r ← netRead port (.length v.index) none 1
    match r with
    | .success bs _ =>
        let encodedByte := bs.headD 0
        let remLen :=
          (v.remLen +
            (encodedByte &&& 127).toNat *
              v.multiplier) % sizeMax
        if encodedByte &&& 128 ≠ 0 then
          pure (.inl
            { len := 1
              index := v.index + 1
              multiplier := v.multiplier * 128 % sizeMax
              remLen := remLen })
        else
          pure (.inr (.ok remLen))
    | failed => pure (.inr (.error failed.rc))

theorem decodePacketRemainingLen_eq
    (port : Port E)
    (fuel : Nat) :
    decodePacketRemainingLen port fuel =
      Prog.loop fuel (decodeLenStep port)
        { len := 0, index := 0, multiplier := 1,
          remLen := 0 } :=
  rfl

/- A read of one byte from the stream. -/
theorem netRead_supplied
    (hSupply : Supplies port stream pos)
    (site : ReadSite)
    (w : Run E) :
    (netRead port site none 1).run w =
      (some (.success [stream (pos w.st.env)] rfl),
        ⟨{ w.st with env := (port.netRead 1 w.st.env).2 },
          .netRead site 1 [stream (pos w.st.env)] .success ::
            w.log⟩) := by
  have hRead := (hSupply w.st.env).1
  unfold netRead
  rw [Prog.run_step]
  dsimp only
  rw [hRead]
  rfl

/- One round reads one byte and looks at its top bit. -/
theorem decodeLenStep_run
    (hSupply : Supplies port stream pos)
    {v : LenState}
    (hLen : v.len ≤ 1)
    (w : Run E) :
    ∃ w',
      pos w'.st.env = pos w.st.env + 1 ∧
        (decodeLenStep port v).run w =
          (some
            (if stream (pos w.st.env) &&& 128 ≠ 0 then
              .inl
                { len := 1
                  index := v.index + 1
                  multiplier := v.multiplier * 128 % sizeMax
                  remLen :=
                    (v.remLen +
                      (stream (pos w.st.env) &&& 127).toNat *
                        v.multiplier) % sizeMax }
            else
              .inr (.ok
                ((v.remLen +
                  (stream (pos w.st.env) &&& 127).toNat *
                    v.multiplier) % sizeMax))), w') := by
  have hFew : ¬ v.len + 1 > maxNoOfRemainingLengthBytes := by
    unfold maxNoOfRemainingLengthBytes
    omega
  refine
    ⟨⟨{ w.st with env := (port.netRead 1 w.st.env).2 },
      .netRead (.length v.index) 1
        [stream (pos w.st.env)] .success :: w.log⟩,
      (hSupply w.st.env).2, ?_⟩
  unfold decodeLenStep
  rw [if_neg hFew,
    Prog.run_bind_of_run (netRead_supplied hSupply _ w)]
  by_cases hMore : stream (pos w.st.env) &&& 128 = 0
  · simp [hMore]
  · simp [hMore]

/-
  A run of the loop ends behind the field that the bytes
  begin with, or has met no end of a field in any round.
-/
theorem decodeLoop_run
    (hSupply : Supplies port stream pos)
    {off : Nat}
    (fuel : Nat)
    (v : LenState)
    (w : Run E)
    (hBehind : v.Behind stream off)
    (hPos : pos w.st.env = off + v.index) :
    (∃ k n w',
      (Prog.loop fuel (decodeLenStep port) v).run w =
          (some (.ok (n % sizeMax)), w') ∧
        Base128 (stream.load off k) n ∧
          pos w'.st.env = off + k) ∨
      ((Prog.loop fuel (decodeLenStep port) v).run w).1 =
          none ∧
        ∀ i < v.index + fuel,
          stream (off + i) &&& 128 ≠ 0 := by
  induction fuel generalizing v w with
  | zero => exact Or.inr ⟨rfl, hBehind.more⟩
  | succ fuel ih =>
      rcases decodeLenStep_run hSupply hBehind.len_le w with
        ⟨w', hNext, hRun⟩
      rw [Prog.loop_succ, Prog.run_bind_of_run hRun]
      rw [hPos] at hNext ⊢
      by_cases hMore : stream (off + v.index) &&& 128 ≠ 0
      · rw [if_pos hMore]
        have hAfter :=
          ih _ w' (hBehind.next hMore) (by
            rw [hNext]
            rfl)
        have hCount :
            v.index + 1 + fuel = v.index + (fuel + 1) := by
          omega
        rw [hCount] at hAfter
        exact hAfter
      · rw [if_neg hMore]
        rcases hBehind.begun with ⟨m, hBegun, hMult, hRem⟩
        have hField := hBegun.close _ (not_not.mp hMore)
        rw [Buffer.length_load] at hField
        refine
          Or.inl
            ⟨v.index + 1,
              m + (stream (off + v.index) &&& 127).toNat *
                128 ^ v.index, w', ?_, ?_, hNext⟩
        · rw [hMult, hRem, lenRound_mod]
          rfl
        · rw [Buffer.load_add]
          exact hField

/-
  The decoder over the network returns a result behind the
  first `k` bytes of the stream.
-/
def Streams
    (port : Port E)
    (pos : E → Nat)
    (w : Run E)
    (result : Except IoTError Nat)
    (k : Nat) : Prop :=
  ∃ fuel w',
    (decodePacketRemainingLen port fuel).run w =
        (some result, w') ∧
      pos w'.st.env = pos w.st.env + k

/- What the decoder returns is the value of a field. -/
theorem field_of_streams
    (hSupply : Supplies port stream pos)
    {w : Run E}
    {result : Except IoTError Nat}
    {k : Nat}
    (hStreams : Streams port pos w result k) :
    ∃ n,
      result = .ok (n % sizeMax) ∧
        Base128 (stream.load (pos w.st.env) k) n := by
  rcases hStreams with ⟨fuel, w', hRun, hPos⟩
  rw [decodePacketRemainingLen_eq] at hRun
  rcases decodeLoop_run hSupply fuel _ w
      (behind_start stream (pos w.st.env)) rfl with
    ⟨k', n, w'', hLoop, hField, hPos'⟩ | ⟨hNone, _⟩
  · rw [hLoop] at hRun
    cases hRun
    have hSame : k' = k := by omega
    rw [hSame] at hField
    exact ⟨n, rfl, hField⟩
  · rw [hRun] at hNone
    cases hNone

/- Every field of the stream is decoded. -/
theorem streams_of_field
    (hSupply : Supplies port stream pos)
    {w : Run E}
    {k n : Nat}
    (hField : Base128 (stream.load (pos w.st.env) k) n) :
    Streams port pos w (.ok (n % sizeMax)) k := by
  rcases decodeLoop_run hSupply k _ w
      (behind_start stream (pos w.st.env)) rfl with
    ⟨k', n', w', hLoop, hField', hPos⟩ | ⟨_, hMore⟩
  · rcases field_unique hField' hField with ⟨rfl, rfl⟩
    exact ⟨k', w', hLoop, hPos⟩
  · rcases clear_of_field hField with ⟨i, hi, hClear⟩
    exact absurd hClear (hMore i (by simpa using hi))

/- A field of at most four bytes has a small value. -/
theorem short_field_lt
    {field : Bytes}
    {n : Nat}
    (hField : Base128 field n)
    (hShort : field.length ≤ maxNoOfRemainingLengthBytes) :
    n < sizeMax := by
  have hLt := hField.lt_pow
  have hPow :
      128 ^ field.length ≤
        128 ^ maxNoOfRemainingLengthBytes :=
    Nat.pow_le_pow_right (by decide) hShort
  have hSize :
      128 ^ maxNoOfRemainingLengthBytes < sizeMax := by
    decide
  omega

end Mqtt

end TrustOnboard

------------------------------------------------------------
-- Agreement
------------------------------------------------------------

namespace TrustOnboard

namespace Mqtt

variable {E : Type}

/-
  The two decoders agree on the bytes that come next: on
  fields of at most four bytes, and in rejecting four bytes
  that all have their top bit set.
-/
structure DecodersAgree
    (port : Port E)
    (stream : Buffer)
    (pos : E → Nat)
    (w : Run E) : Prop where
  accept :
    ∀ v k,
      k ≤ maxNoOfRemainingLengthBytes ∧
          Streams port pos w (.ok v) k ↔
        decodeRemainingLengthFromBuffer stream
          (pos w.st.env) = .ok (v, k)
  reject :
    (∀ i < maxNoOfRemainingLengthBytes,
        stream (pos w.st.env + i) &&& 128 ≠ 0) →
      (∃ k ≤ maxNoOfRemainingLengthBytes,
        Streams port pos w
          (.error .mqttDecodeRemainingLengthError) k) ∧
        decodeRemainingLengthFromBuffer stream
            (pos w.st.env) =
          .error .mqttDecodeRemainingLengthError

/- On fields of at most four bytes the decoders agree. -/
theorem streams_iff
    {port : Port E}
    {stream : Buffer}
    {pos : E → Nat}
    (hSupply : Supplies port stream pos)
    (w : Run E)
    (v k : Nat) :
    k ≤ maxNoOfRemainingLengthBytes ∧
        Streams port pos w (.ok v) k ↔
      decodeRemainingLengthFromBuffer stream
        (pos w.st.env) = .ok (v, k) := by
  rw [decodeRemainingLength_iff]
  constructor
  · rintro ⟨hShort, hStreams⟩
    rcases field_of_streams hSupply hStreams with
      ⟨n, hValue, hField⟩
    cases hValue
    have hLt := short_field_lt hField (by
      rw [Buffer.length_load]
      exact hShort)
    rw [Nat.mod_eq_of_lt hLt]
    exact ⟨hField, hShort⟩
  · rintro ⟨hField, hShort⟩
    have hLt := short_field_lt hField (by
      rw [Buffer.length_load]
      exact hShort)
    have hStreams := streams_of_field hSupply hField
    rw [Nat.mod_eq_of_lt hLt] at hStreams
    exact ⟨hShort, hStreams⟩

/-
  The decoders agree exactly when one of the first four bytes
  has its top bit clear.
-/
theorem decodersAgree_iff
    (port : Port E)
    (stream : Buffer)
    (pos : E → Nat)
    (hSupply : Supplies port stream pos)
    (w : Run E) :
    DecodersAgree port stream pos w ↔
      ∃ i < maxNoOfRemainingLengthBytes,
        stream (pos w.st.env + i) &&& 128 = 0 := by
  constructor
  · intro hAgree
    by_contra hNone
    have hMore :
        ∀ i < maxNoOfRemainingLengthBytes,
          stream (pos w.st.env + i) &&& 128 ≠ 0 :=
      fun i hi hZero => hNone ⟨i, hi, hZero⟩
    rcases (hAgree.reject hMore).1 with ⟨k, _, hStreams⟩
    rcases field_of_streams hSupply hStreams with
      ⟨n, hError, _⟩
    cases hError
  · rintro ⟨i, hi, hClear⟩
    refine ⟨streams_iff hSupply w, ?_⟩
    intro hMore
    exact absurd hClear (hMore i hi)

/- A platform whose network never ends, over a counter. -/
def streamPort (stream : Buffer) : Port Nat where
  threadSupport := false
  txBufLen := 64
  rxBufLen := 64
  minReconnectWaitInterval := 1000
  maxReconnectWaitInterval := 128000
  hasTimerExpired := fun _ e => (false, e)
  countdown := fun _ _ e => e
  tlsInit := fun e => (.success, e)
  netConnect := fun e => (.success, e)
  netRead := fun n e =>
    (.success (stream.load e n) (stream.length_load e n),
      e + n)
  netWrite := fun bs e =>
    (.success bs.length (WriteResult.whole bs), e)
  netDisconnect := fun e => e
  netDestroy := fun e => (.success, e)
  netIsConnected := fun e =>
    (.networkPhysicalLayerConnected, e)
  mutexTrylock := fun _ e => (true, e)
  onMessage := fun _ _ _ e => ([], e)
  onDisconnect := fun _ _ e => ([], e)

theorem supplies_streamPort
    (stream : Buffer) :
    Supplies (streamPort stream) stream id :=
  fun _ => ⟨rfl, rfl⟩

/- A client at the start of such a stream. -/
def streamStart : Run Nat where
  st :=
    { client := scriptClient .connectedIdle [freeSlot]
      env := 0 }
  log := []

theorem decodersAgree_iff_digit :
    DecodersAgree (streamPort (fun _ => 7)) (fun _ => 7) id
        streamStart ↔
      ∃ i < maxNoOfRemainingLengthBytes,
        (7 : UInt8) &&& 128 = 0 :=
  decodersAgree_iff (streamPort (fun _ => 7)) (fun _ => 7) id
    (supplies_streamPort _) streamStart

/-
  A field of five bytes: the decoder over the buffer rejects
  it, the one over the network delivers its value.
-/
theorem fiveBytes_accepted :
    decodeRemainingLengthFromBuffer
        (Buffer.store (fun _ => 0) 0 [255, 255, 255, 255, 1])
        0 = .error .mqttDecodeRemainingLengthError ∧
      Streams
        (streamPort
          (Buffer.store (fun _ => 0) 0
            [255, 255, 255, 255, 1])) id streamStart
        (.ok 536870911) 5 ∧
      ¬ DecodersAgree
        (streamPort
          (Buffer.store (fun _ => 0) 0
            [255, 255, 255, 255, 1]))
        (Buffer.store (fun _ => 0) 0 [255, 255, 255, 255, 1])
        id streamStart := by
  refine ⟨by decide, ?_, ?_⟩
  · exact
      ⟨6, _, Prog.run_of_returns (by decide +kernel),
        by decide +kernel⟩
  · intro hAgree
    rcases (hAgree.reject (by decide)).1 with
      ⟨k, _, hStreams⟩
    rcases field_of_streams (supplies_streamPort _) hStreams
      with ⟨n, hError, _⟩
    cases hError

end Mqtt

end TrustOnboard
