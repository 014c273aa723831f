import TrustOnboard.Mqtt.Packets
import TrustOnboard.Mqtt.Assertions

/-
  Packets in the receive buffer.

  The reader leaves a packet as its header byte, its length
  encoded anew, and its body.  The decoders parse the buffer
  again; here is what they find there.

  Key definitions include:
    * `bodyStart`
    * `Stored`

  Key results include:
    * `decodeLenRounds_field`
    * `Stored.decode`
    * `readPacket_stores`
-/

------------------------------------------------------------
-- Decoding A Length Field
------------------------------------------------------------

namespace TrustOnboard

namespace Mqtt

/-
  The decoding loop at a field.  A field longer than the
  rounds left is an error.
-/
theorem decodeLenRounds_field
    {buf : Buffer}
    {field : Bytes}
    {n : Nat}
    (hValue : Base128 field n)
    {off : Nat}
    (hLoad : buf.load off field.length = field)
    (rounds len multiplier decoded : Nat) :
    decodeLenRounds buf rounds off len multiplier decoded =
      if field.length ≤ rounds then
        .ok (decoded + n * multiplier, len + field.length)
      else
        .error .mqttDecodeRemainingLengthError := by
  induction hValue generalizing
      off rounds len multiplier decoded with
  | last b hLast =>
      have hByte : buf off = b := by
        simpa [Buffer.load] using hLoad
      cases rounds with
      | zero => rfl
      | succ rounds =>
          simp [decodeLenRounds, hByte, hLast]
  | more b bs n hMore hRest ih =>
      rw [List.length_cons, Buffer.load_succ,
        List.cons.injEq] at hLoad
      rcases hLoad with ⟨hByte, hLoad⟩
      cases rounds with
      | zero => rfl
      | succ rounds =>
          rw [decodeLenRounds, hByte, if_pos hMore, ih hLoad,
            List.length_cons]
          have hSum :
              decoded + (b &&& 127).toNat * multiplier +
                  n * (multiplier * 128) =
                decoded +
                  ((b &&& 127).toNat + n * 128) *
                    multiplier := by
            ring
          have hCount :
              len + 1 + bs.length = len + (bs.length + 1) := by
            omega
          rw [hSum, hCount]
          by_cases hLe : bs.length ≤ rounds
          · rw [if_pos hLe, if_pos (by omega)]
          · rw [if_neg hLe, if_neg (by omega)]

end Mqtt

end TrustOnboard

------------------------------------------------------------
-- Stored Packets
------------------------------------------------------------

namespace TrustOnboard

namespace Mqtt

/- The length field the reader writes for a body. -/
def lengthField (body : Bytes) : Bytes :=
  writeLenToBuffer (UInt32.ofNat body.length)

/- The offset of the body in the receive buffer. -/
def bodyStart (body : Bytes) : Nat :=
  1 + (lengthField body).length

/- The buffer holds a packet as the reader leaves it. -/
structure Stored
    (buf : Buffer)
    (header : UInt8)
    (body : Bytes) : Prop where
  header : buf 0 = header
  length :
    buf.load 1 (lengthField body).length = lengthField body
  body : buf.load (bodyStart body) body.length = body

/- The length a decoder finds behind the header byte. -/
theorem Stored.decode
    {buf : Buffer}
    {header : UInt8}
    {body : Bytes}
    (hStored : Stored buf header body) :
    decodeRemainingLengthFromBuffer buf 1 =
      if (lengthField body).length ≤
          maxNoOfRemainingLengthBytes then
        .ok (body.length % 2 ^ 32, (lengthField body).length)
      else
        .error .mqttDecodeRemainingLengthError := by
  have hField :=
    decodeLenRounds_field
      (writeLenToBuffer_base128 (UInt32.ofNat body.length))
      hStored.length maxNoOfRemainingLengthBytes 0 1 0
  rw [UInt32.toNat_ofNat'] at hField
  unfold decodeRemainingLengthFromBuffer lengthField
  simpa using hField

/- A byte of the body in the buffer. -/
theorem Stored.body_apply
    {buf : Buffer}
    {header : UInt8}
    {body : Bytes}
    (hStored : Stored buf header body)
    {i : Nat}
    (hIndex : i < body.length) :
    buf (bodyStart body + i) = body[i] := by
  have hLoad :
      i < (buf.load (bodyStart body) body.length).length := by
    rw [Buffer.length_load]
    exact hIndex
  have hByte :
      (buf.load (bodyStart body) body.length)[i] =
        buf (bodyStart body + i) := by
    simp [Buffer.load]
  rw [← hByte]
  simp only [hStored.body]

/- The bytes of a stored packet. -/
theorem Stored.load
    {buf : Buffer}
    {header : UInt8}
    {body : Bytes}
    (hStored : Stored buf header body) :
    buf.load 0 (bodyStart body + body.length) =
      header :: (lengthField body ++ body) := by
  have hFirst : buf.load 0 1 = [header] := by
    rw [← hStored.header]
    rfl
  rw [Buffer.load_add, Nat.zero_add, hStored.body]
  unfold bodyStart
  rw [Buffer.load_add, hFirst, Nat.zero_add, hStored.length]
  rfl

/- Storing the length and the body behind the header. -/
theorem stored_of_stores
    (buf : Buffer)
    (body : Bytes) :
    Stored
      ((buf.store 1 (lengthField body)).store
        (bodyStart body) body)
      (buf 0) body where
  header := by
    have hBody : 0 < bodyStart body := by
      unfold bodyStart
      omega
    rw [Buffer.store_apply_of_not_mem _ _ _ (Or.inl hBody),
      Buffer.store_apply_of_not_mem _ _ _
        (Or.inl Nat.zero_lt_one)]
  length := by
    rw [Buffer.load_store_of_disjoint]
    · exact Buffer.load_store_self _ _ _
    · exact Or.inl (Nat.le_refl _)
  body := Buffer.load_store_self _ _ _

/- The length of an empty body is stored alone. -/
theorem stored_of_empty
    (buf : Buffer) :
    Stored (buf.store 1 (lengthField [])) (buf 0) [] where
  header :=
    Buffer.store_apply_of_not_mem _ _ _
      (Or.inl Nat.zero_lt_one)
  length := Buffer.load_store_self _ _ _
  body := Buffer.load_zero _ _

end Mqtt

end TrustOnboard

------------------------------------------------------------
-- What The Reader Stores
------------------------------------------------------------

namespace TrustOnboard

namespace Mqtt

variable {E : Type}
variable {port : Port E}

/- What the length decoder delivers. -/
def Decoded
    (size : Nat)
    (r : Except IoTError Nat)
    (w : Run E) : Prop :=
  match r with
  | .ok n => n < sizeMax ∧ w.st.client.readBufSize = size
  | .error rc => rc ≠ .success

theorem decodePacketRemainingLen_decoded
    (port : Port E)
    (fuel size : Nat) :
    Triple (Contract.plain (Sys E) Event)
      (fun w => w.st.client.readBufSize = size)
      (decodePacketRemainingLen port fuel)
      (Decoded size) := by
  refine
    Triple.loop
      (fun (_ : LenState) (w : Run E) =>
        w.st.client.readBufSize = size)
      (fun _ _ _ => trivial) ?_
  intro v
  apply Triple.ite
  · intro _
    exact Triple.pure (fun _ _ hNo => by cases hNo)
  · intro _
    refine Triple.bind
      (M := fun _ w => w.st.client.readBufSize = size)
      (Triple.step (fun _ h => Or.inr h)) ?_
    intro r
    cases r with
    | success bs h =>
        apply Triple.ite
        · intro _
          exact Triple.pure (fun _ h => h)
        · intro _
          apply Triple.pure
          intro w hSize
          exact ⟨Nat.mod_lt _ (by decide), hSize⟩
    | nothingToRead h =>
        exact Triple.pure (fun _ _ hNo => by cases hNo)
    | readTimeout bs hPos h =>
        exact Triple.pure (fun _ _ hNo => by cases hNo)
    | readError bs h =>
        exact Triple.pure (fun _ _ hNo => by cases hNo)

/-
  A packet the reader reports is stored in the receive
  buffer, and its body is shorter than the buffer.
-/
def ReadStored
    (size : Nat)
    (r : IoTError × Option UInt8)
    (w : Run E) : Prop :=
  r.1 = .success →
    ∃ header body,
      r.2 = some (headerType header) ∧
        Stored w.st.client.readBuf header body ∧
          body.length < size ∧ body.length < sizeMax ∧
            ∃ l,
              w.log =
                .rxPacket
                  (header :: (lengthField body ++ body)) :: l

theorem readBody_stores
    {C : Contract (Sys E) Event}
    {header : UInt8}
    {buf : Buffer}
    {n : Nat}
    (hHeader : buf 0 = header) :
    Triple C
      (fun w =>
        w.st.client.readBuf =
          buf.store 1
            (writeLenToBuffer (UInt32.ofNat n)))
      (readBody port
        (1 + (writeLenToBuffer (UInt32.ofNat n)).length) n)
      (fun complete w =>
        complete = true →
          ∃ body,
            body.length = n ∧
              Stored w.st.client.readBuf header body) := by
  apply Triple.ite
  · intro hPos
    refine Triple.bind
      (M := fun r w =>
        ∀ bs h, r = .success bs h →
          w.st.client.readBuf =
            (buf.store 1
              (writeLenToBuffer (UInt32.ofNat n))).store
              (1 + (writeLenToBuffer
                (UInt32.ofNat n)).length) bs) ?_ ?_
    · apply Triple.step
      intro w hBuf
      right
      intro bs h hRes
      dsimp only at hRes ⊢
      rw [hBuf, hRes]
      rfl
    · intro r
      cases r with
      | success bs h =>
          apply Triple.pure
          intro w hBuf _
          refine ⟨bs, h, ?_⟩
          have hStored := stored_of_stores buf bs
          rw [hHeader] at hStored
          rw [hBuf bs h rfl]
          unfold bodyStart lengthField at hStored
          rw [h] at hStored
          exact hStored
      | nothingToRead h =>
          exact Triple.pure (fun _ _ hNo => by cases hNo)
      | readTimeout bs hPos h =>
          exact Triple.pure (fun _ _ hNo => by cases hNo)
      | readError bs h =>
          exact Triple.pure (fun _ _ hNo => by cases hNo)
  · intro hZero
    have hNone : n = 0 := by omega
    subst hNone
    apply Triple.pure
    intro w hBuf _
    refine ⟨[], rfl, ?_⟩
    rw [hBuf, ← hHeader]
    exact stored_of_empty buf

theorem readContents_stores
    {C : Contract (Sys E) Event}
    {n size : Nat}
    (hSmall : n < size)
    (hValue : n < sizeMax) :
    Triple C (fun _ => True) (readContents port n)
      (ReadStored size) := by
  intro w _
  refine
    (Triple.bind
      (M := fun _ w' =>
        w'.st.client.readBuf =
          w.st.client.readBuf.store 1
            (writeLenToBuffer (UInt32.ofNat n)))
      (P := fun w' => w' = w) ?_ ?_) w rfl
  · apply Triple.step
    rintro w' rfl
    exact Or.inr rfl
  intro _
  refine (readBody_stores rfl).bind ?_
  intro complete
  cases complete with
  | false =>
      apply Triple.pure
      intro w' _ hNo
      cases hNo
  | true =>
      refine Triple.bind
        (M := fun c w' =>
          ∃ body,
            body.length = n ∧
              Stored c.readBuf (w.st.client.readBuf 0) body ∧
                w'.st.client.readBuf = c.readBuf) ?_ ?_
      · apply Triple.read
        intro w' h
        rcases h rfl with ⟨body, hLength, hStored⟩
        exact ⟨body, hLength, hStored, rfl⟩
      intro c
      refine Triple.bind
        (M := fun _ w' =>
          ∃ body,
            body.length = n ∧
              Stored c.readBuf (w.st.client.readBuf 0) body ∧
                w'.st.client.readBuf = c.readBuf ∧
                  ∃ l,
                    w'.log =
                      .rxPacket
                        (w.st.client.readBuf 0 ::
                          (lengthField body ++ body)) :: l)
        ?_ ?_
      · apply Triple.emit
        rintro w' ⟨body, hLength, hStored, hBuf⟩
        have hLoad := hStored.load
        unfold bodyStart lengthField at hLoad
        rw [hLength] at hLoad
        right
        refine ⟨body, hLength, hStored, hBuf, w'.log, ?_⟩
        unfold lengthField
        rw [hLoad, hLength]
      · intro _
        apply Triple.pure
        rintro w' ⟨body, hLength, hStored, hBuf, hLog⟩ _
        refine
          ⟨_, body, ?_, ?_, by omega, by omega, hLog⟩
        · rw [hStored.header]
        · rw [hBuf]
          exact hStored

/- Every packet the reader reports is stored. -/
theorem readPacket_stores
    (port : Port E)
    (fuel : Nat)
    (size : Nat) :
    Triple (Contract.plain (Sys E) Event)
      (fun w => w.st.client.readBufSize = size)
      (readPacket port fuel) (ReadStored size) := by
  have hFailed :
      ∀ (rc : IoTError) (type : Option UInt8) (w : Run E),
        rc ≠ .success → ReadStored size (rc, type) w :=
    fun _ _ _ hNo hYes => absurd hYes hNo
  refine Triple.seq (Triple.read (fun _ h => h)) ?_
  intro c
  refine Triple.seq (Triple.modify (fun _ h => h)) ?_
  intro _
  refine Triple.bind
    (M := fun _ w => w.st.client.readBufSize = size)
    (Triple.step (fun _ h => Or.inr h)) ?_
  intro r
  cases r with
  | nothingToRead h =>
      exact Triple.pure (fun w _ => hFailed _ _ w (by decide))
  | readTimeout bs hPos h =>
      exact
        Triple.pure
          (fun w _ => hFailed _ _ w (fun h => by cases h))
  | readError bs h =>
      exact
        Triple.pure
          (fun w _ => hFailed _ _ w (fun h => by cases h))
  | success bs h =>
      refine
        (decodePacketRemainingLen_decoded port fuel
          size).bind ?_
      intro decoded
      cases decoded with
      | error rc =>
          exact Triple.pure (fun w h => hFailed _ _ w h)
      | ok n =>
          refine Triple.bind
            (M := fun (c : Client) _ =>
              (n < sizeMax ∧ c.readBufSize = size) ∧ True)
            (Triple.read (fun _ h => ⟨h, trivial⟩)) ?_
          intro c
          apply Triple.of_fact
          rintro ⟨hValue, hSize⟩
          apply Triple.ite
          · intro _
            refine Triple.anything.bind ?_
            intro _
            exact
              Triple.pure
                (fun w _ => hFailed _ _ w (by decide))
          · intro hSmall
            exact readContents_stores (by omega) hValue

end Mqtt

end TrustOnboard
