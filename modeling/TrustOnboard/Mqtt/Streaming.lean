import TrustOnboard.Mqtt.LengthDecoders
import TrustOnboard.Mqtt.Quiet

/-
  Packets that come in over a stream of bytes.

  The network is a stream when every read and every write
  moves exactly the bytes it was asked for.  A read of a
  packet then returns, takes the bytes of that packet and no
  more, and either leaves the packet in the receive buffer or
  drops it.

  Key definitions include:
    * `Streaming`
    * `Since`
    * `Packet.Fits`
    * `Packet.Oversized`

  Key results include:
    * `since_decodeLength`
    * `since_drain`
    * `readPacket_fits`
    * `readPacket_oversized`
-/

------------------------------------------------------------
-- A Network That Is A Stream
------------------------------------------------------------

namespace TrustOnboard

namespace Mqtt

variable {E : Type}

/-
  The platform is a stream: `rest` is what the peer has sent
  and nobody read yet.  A read of bytes that are there takes
  them, a write takes all it is given, and nothing else
  touches the stream.  The given timer does not run out, no
  callback calls the interface, and no other thread holds a
  mutex.
-/
structure Streaming
    (port : Port E)
    (timer : TimerName)
    (rest : E → Bytes) : Prop where
  read :
    ∀ e xs ys,
      rest e = xs ++ ys →
        (port.netRead xs.length e).1 = .success xs rfl ∧
          rest (port.netRead xs.length e).2 = ys
  write :
    ∀ bs e,
      (port.netWrite bs e).1 =
          .success bs.length (WriteResult.whole bs) ∧
        rest (port.netWrite bs e).2 = rest e
  hasTimerExpired :
    ∀ timer' e,
      rest (port.hasTimerExpired timer' e).2 = rest e
  in_time : ∀ e, (port.hasTimerExpired timer e).1 = false
  countdown :
    ∀ timer' span e,
      rest (port.countdown timer' span e) = rest e
  onMessage :
    ∀ handler data msg e,
      (port.onMessage handler data msg e).1 = [] ∧
        rest (port.onMessage handler data msg e).2 = rest e
  mutexTrylock :
    ∀ m e,
      (port.mutexTrylock m e).1 = true ∧
        rest (port.mutexTrylock m e).2 = rest e

/- The stream holds the given bytes. -/
def Ahead (rest : E → Bytes) (bs : Bytes) (e : E) : Prop :=
  rest e = bs

/-
  The client is known, a fact of the platform holds, and the
  events since a point are of one kind.
-/
def Since
    (kind : Event → Bool)
    (c : Client)
    (l : List Event)
    (A : E → Prop)
    (w : Run E) : Prop :=
  w.st.client = c ∧ A w.st.env ∧
    ∃ es, w.log = es ++ l ∧ ∀ e ∈ es, kind e = true

/- More events of that kind. -/
theorem Since.more
    {kind : Event → Bool}
    {c c' : Client}
    {l : List Event}
    {A B : E → Prop}
    {w w' : Run E}
    (hSince : Since kind c l A w)
    {es : List Event}
    (hLog : w'.log = es ++ w.log)
    (hKind : ∀ e ∈ es, kind e = true)
    (hClient : w'.st.client = c')
    (hB : B w'.st.env) :
    Since kind c' l B w' := by
  rcases hSince with ⟨_, _, es', hOld, hAll⟩
  refine ⟨hClient, hB, es ++ es', ?_, ?_⟩
  · rw [hLog, hOld, List.append_assoc]
  · intro e he
    rcases List.mem_append.mp he with he | he
    · exact hKind e he
    · exact hAll e he

end Mqtt

end TrustOnboard

------------------------------------------------------------
-- Reading From A Stream
------------------------------------------------------------

namespace TrustOnboard

namespace Mqtt

variable {E : Type}
variable {C : Contract (Sys E) Event}
variable {port : Port E}
variable {timer : TimerName}
variable {rest : E → Bytes}
variable {c : Client}
variable {l : List Event}
variable {ys : Bytes}

/- The client after bytes were read to a place. -/
def Client.received
    (c : Client)
    (target : Option Nat)
    (bs : Bytes) : Client :=
  match target with
  | none => c
  | some off => { c with readBuf := c.readBuf.store off bs }

/- A read takes the bytes it asks for. -/
theorem since_netRead
    (hStream : Streaming port timer rest)
    (site : ReadSite)
    (target : Option Nat)
    {xs : Bytes}
    {n : Nat}
    (hLength : xs.length = n) :
    Triple C
      (Since Event.isInput c l (Ahead rest (xs ++ ys)))
      (netRead port site target n)
      (fun r w =>
        r = .success xs hLength ∧
          Since Event.isInput (c.received target xs) l
            (Ahead rest ys) w) := by
  subst hLength
  refine Triple.step ?_
  intro w hSince
  right
  have hRead := hStream.read w.st.env xs ys hSince.2.1
  have hClient := hSince.1
  subst hClient
  cases target with
  | none =>
      refine ⟨hRead.1, hSince.more rfl ?_ rfl hRead.2⟩
      intro e he
      rw [List.mem_singleton.mp he]
      rfl
  | some off =>
      refine ⟨hRead.1, hSince.more rfl ?_ ?_ hRead.2⟩
      · intro e he
        simp only [List.mem_cons, List.not_mem_nil,
          or_false] at he
        rcases he with rfl | rfl
        · rfl
        · rfl
      · dsimp only
        rw [hRead.1]
        rfl

/- One round of the decoder takes one byte. -/
theorem since_decodeLenStep
    (hStream : Streaming port timer rest)
    {v : LenState}
    (hLen : v.len ≤ 1)
    (b : UInt8) :
    Triple C
      (Since Event.isInput c l (Ahead rest (b :: ys)))
      (decodeLenStep port v)
      (fun r w =>
        r =
            (if b &&& 128 ≠ 0 then
              .inl
                { len := 1
                  index := v.index + 1
                  multiplier := v.multiplier * 128 % sizeMax
                  remLen :=
                    (v.remLen +
                      (b &&& 127).toNat * v.multiplier) %
                        sizeMax }
            else
              .inr (.ok
                ((v.remLen + (b &&& 127).toNat *
                  v.multiplier) % sizeMax))) ∧
          Since Event.isInput c l (Ahead rest ys) w) := by
  have hFew : ¬ v.len + 1 > maxNoOfRemainingLengthBytes := by
    unfold maxNoOfRemainingLengthBytes
    omega
  unfold decodeLenStep
  rw [if_neg hFew]
  have hOne : [b].length = 1 := rfl
  refine (since_netRead hStream _ none hOne).bind ?_
  intro r
  refine Triple.of_fact ?_
  rintro rfl
  refine Triple.ite ?_ ?_
  · intro hMore
    exact
      Triple.ret (fun _ hSince => ⟨(if_pos hMore).symm, hSince⟩)
  · intro hLast
    exact
      Triple.ret (fun _ hSince => ⟨(if_neg hLast).symm, hSince⟩)

/- The value of a field is computed modulo `size_t`. -/
theorem fieldValue_mod
    (a d m n : Nat) :
    ((a + d * m) % sizeMax + n * (m * 128 % sizeMax)) %
        sizeMax =
      (a + (d + n * 128) * m) % sizeMax := by
  rw [Nat.add_mod, Nat.mod_mod, Nat.mul_mod n, Nat.mod_mod,
    ← Nat.mul_mod, ← Nat.add_mod]
  have hSame :
      a + d * m + n * (m * 128) = a + (d + n * 128) * m := by
    ring
  rw [hSame]

/- The decoding loop takes one field from the stream. -/
theorem since_decodeLoop
    (hStream : Streaming port timer rest)
    {field : Bytes}
    {n : Nat}
    (hField : Base128 field n)
    {fuel : Nat}
    (hFuel : field.length ≤ fuel)
    {v : LenState}
    (hLen : v.len ≤ 1) :
    Triple C
      (Since Event.isInput c l (Ahead rest (field ++ ys)))
      (Prog.loop fuel (decodeLenStep port) v)
      (fun r w =>
        r = .ok ((v.remLen + n * v.multiplier) % sizeMax) ∧
          Since Event.isInput c l (Ahead rest ys) w) := by
  induction hField generalizing fuel v with
  | last b hLast =>
      cases fuel with
      | zero => simp at hFuel
      | succ fuel =>
          rw [Prog.loop_succ]
          refine
            (since_decodeLenStep hStream hLen b).bind ?_
          intro r
          refine Triple.of_fact ?_
          rintro rfl
          rw [if_neg (not_not.mpr hLast)]
          exact Triple.ret (fun _ hSince => ⟨rfl, hSince⟩)
  | more b bs n hMore _ ih =>
      cases fuel with
      | zero => simp at hFuel
      | succ fuel =>
          rw [Prog.loop_succ]
          refine
            (since_decodeLenStep hStream hLen b).bind ?_
          intro r
          refine Triple.of_fact ?_
          rintro rfl
          rw [if_pos hMore]
          simp only [List.length_cons] at hFuel
          refine
            (ih (by omega) (v := ⟨1, _, _, _⟩)
              (Nat.le_refl 1)).post ?_
          rintro r w ⟨rfl, hSince⟩
          exact ⟨by rw [fieldValue_mod], hSince⟩

/- The length of a packet is read from its field. -/
theorem since_decodeLength
    (hStream : Streaming port timer rest)
    {field : Bytes}
    {n : Nat}
    (hField : Base128 field n)
    (hSmall : n < sizeMax)
    {fuel : Nat}
    (hFuel : field.length ≤ fuel) :
    Triple C
      (Since Event.isInput c l (Ahead rest (field ++ ys)))
      (decodePacketRemainingLen port fuel)
      (fun r w =>
        r = .ok n ∧
          Since Event.isInput c l (Ahead rest ys) w) := by
  rw [decodePacketRemainingLen_eq]
  refine
    (since_decodeLoop hStream hField hFuel
      (v := ⟨0, 0, 1, 0⟩) (Nat.zero_le 1)).post ?_
  rintro r w ⟨rfl, hSince⟩
  refine ⟨?_, hSince⟩
  rw [Nat.zero_add, Nat.mul_one, Nat.mod_eq_of_lt hSmall]

end Mqtt

end TrustOnboard

------------------------------------------------------------
-- Dropping A Packet
------------------------------------------------------------

namespace TrustOnboard

namespace Mqtt

variable {E : Type}
variable {C : Contract (Sys E) Event}
variable {port : Port E}
variable {timer : TimerName}
variable {rest : E → Bytes}
variable {c : Client}
variable {l : List Event}
variable {ys : Bytes}

/-
  As `Since`, for a client whose receive buffer is no longer
  known.
-/
def Overwritten
    (c : Client)
    (l : List Event)
    (A : E → Prop)
    (w : Run E) : Prop :=
  ∃ readBuf,
    Since Event.isInput { c with readBuf := readBuf } l A w

/- The body of the loop that drops a packet. -/
def drainStep
    (port : Port E)
    (remLen readBufSize : Nat)
    (v : Nat × Nat) : Code E (Nat × Nat ⊕ Unit) := do
  let r ← netRead port .drain (some 0) v.2
  match r with
  | .success bs _ =>
      let total := v.1 + bs.length
      let next :=
        if remLen - total ≥ readBufSize then readBufSize
        else remLen - total
      if total < remLen then
        pure (.inl (total, next))
      else
        pure (.inr ())
  | _ => pure (.inr ())

theorem drainPacket_eq
    (port : Port E)
    (fuel remLen readBufSize : Nat) :
    drainPacket port fuel remLen readBufSize =
      Prog.loop fuel (drainStep port remLen readBufSize)
        (0, readBufSize) :=
  rfl

/- One round drops as many bytes as the buffer holds. -/
theorem overwritten_drainStep
    (hStream : Streaming port timer rest)
    (remLen size total : Nat)
    {xs : Bytes}
    {n : Nat}
    (hLength : xs.length = n) :
    Triple C (Overwritten c l (Ahead rest (xs ++ ys)))
      (drainStep port remLen size (total, n))
      (fun r w =>
        r =
            (if total + n < remLen then
              .inl
                (total + n, min size (remLen - (total + n)))
            else .inr ()) ∧
          Overwritten c l (Ahead rest ys) w) := by
  refine Triple.exists_pre ?_
  intro readBuf
  refine
    (since_netRead hStream .drain (some 0) hLength).bind ?_
  intro r
  refine Triple.of_fact ?_
  rintro rfl
  dsimp only
  rw [hLength]
  have hNext :
      (if remLen - (total + n) ≥ size then size
        else remLen - (total + n)) =
        min size (remLen - (total + n)) := by
    split
    · omega
    · omega
  rw [hNext]
  refine Triple.ite ?_ ?_
  · intro hMore
    exact
      Triple.ret
        (fun _ hSince => ⟨(if_pos hMore).symm, _, hSince⟩)
  · intro hDone
    exact
      Triple.ret
        (fun _ hSince => ⟨(if_neg hDone).symm, _, hSince⟩)

/- The rounds drop what is left of the body. -/
theorem overwritten_drainLoop
    (hStream : Streaming port timer rest)
    {size : Nat}
    (hSize : 0 < size)
    {remLen total : Nat}
    {xs : Bytes}
    (hLeft : total + xs.length = remLen)
    (hSome : xs ≠ [])
    {fuel : Nat}
    (hFuel : xs.length ≤ fuel) :
    Triple C (Overwritten c l (Ahead rest (xs ++ ys)))
      (Prog.loop fuel (drainStep port remLen size)
        (total, min size xs.length))
      (fun _ => Overwritten c l (Ahead rest ys)) := by
  have hPos := List.length_pos_of_ne_nil hSome
  induction fuel generalizing total xs with
  | zero => omega
  | succ fuel ih =>
      rw [Prog.loop_succ]
      have hTake :
          (xs.take (min size xs.length)).length =
            min size xs.length := by
        rw [List.length_take]
        omega
      have hSplit :
          xs ++ ys =
            xs.take (min size xs.length) ++
              (xs.drop (min size xs.length) ++ ys) := by
        rw [← List.append_assoc, List.take_append_drop]
      have hDrop :
          (xs.drop (min size xs.length)).length =
            xs.length - min size xs.length :=
        List.length_drop
      rw [hSplit]
      refine
        (overwritten_drainStep hStream remLen size total
          hTake).bind ?_
      intro r
      refine Triple.of_fact ?_
      rintro rfl
      by_cases hMore : total + min size xs.length < remLen
      · rw [if_pos hMore]
        have hRest :
            remLen - (total + min size xs.length) =
              (xs.drop (min size xs.length)).length := by
          omega
        dsimp only
        rw [hRest]
        refine ih (by omega) ?_ (by omega) (by omega)
        intro hNone
        rw [hNone, List.length_nil] at hRest
        omega
      · rw [if_neg hMore]
        have hNone : xs.drop (min size xs.length) = [] := by
          apply List.eq_nil_of_length_eq_zero
          omega
        rw [hNone]
        exact Triple.ret (fun _ hSince => hSince)

/- A packet that is too large is dropped whole. -/
theorem since_drain
    (hStream : Streaming port timer rest)
    {size : Nat}
    (hSize : 0 < size)
    {body : Bytes}
    (hLarge : size ≤ body.length)
    {fuel : Nat}
    (hFuel : body.length ≤ fuel) :
    Triple C
      (Since Event.isInput c l (Ahead rest (body ++ ys)))
      (drainPacket port fuel body.length size)
      (fun _ => Overwritten c l (Ahead rest ys)) := by
  have hSome : body ≠ [] := by
    rintro rfl
    simp only [List.length_nil] at hLarge
    omega
  have hFirst : (0, size) = (0, min size body.length) := by
    rw [Nat.min_eq_left hLarge]
  rw [drainPacket_eq, hFirst]
  exact
    (overwritten_drainLoop hStream hSize (Nat.zero_add _) hSome
      hFuel).pre (fun _ hSince => ⟨c.readBuf, hSince⟩)

end Mqtt

end TrustOnboard

------------------------------------------------------------
-- Reading One Packet
------------------------------------------------------------

namespace TrustOnboard

namespace Mqtt

variable {E : Type}
variable {C : Contract (Sys E) Event}
variable {port : Port E}
variable {timer : TimerName}
variable {rest : E → Bytes}
variable {c : Client}
variable {l : List Event}
variable {ys : Bytes}

/- A packet with its length field fits in the buffer. -/
def Packet.Fits (p : Packet) (readBufSize : Nat) : Prop :=
  1 + p.field.length + p.body.length ≤ readBufSize

/- The body of a packet is no shorter than the buffer. -/
def Packet.Oversized
    (p : Packet)
    (readBufSize : Nat) : Prop :=
  readBufSize ≤ p.body.length

/- A bound on the rounds of the loops that read a packet. -/
def Packet.rounds (p : Packet) : Nat :=
  p.field.length + p.body.length

theorem Packet.length_body_lt
    (p : Packet) :
    p.body.length < 128 ^ maxNoOfRemainingLengthBytes := by
  refine Nat.lt_of_lt_of_le p.field_decodes.lt_pow ?_
  exact Nat.pow_le_pow_right (by decide) p.field_short

/-
  The packet is the newest event and stands in the receive
  buffer, and the events before it are of its reading.
-/
def PacketStored
    (p : Packet)
    (c : Client)
    (l : List Event)
    (A : E → Prop)
    (w : Run E) : Prop :=
  ∃ readBuf es,
    Stored readBuf p.header p.body ∧
      w.st.client = { c with readBuf := readBuf } ∧
        A w.st.env ∧
          w.log =
            .rxPacket
                (p.header ::
                  (lengthField p.body ++ p.body)) ::
              (es ++ l) ∧
            ∀ e ∈ es, e.isInput = true

/- The body is read behind the length, which is rewritten. -/
theorem since_readContents
    (hStream : Streaming port timer rest)
    (p : Packet)
    (hHeader : c.readBuf 0 = p.header) :
    Triple C
      (Since Event.isInput c l (Ahead rest (p.body ++ ys)))
      (readContents port p.body.length)
      (fun r w =>
        r = (.success, some (headerType p.header)) ∧
          PacketStored p c l (Ahead rest ys) w) := by
  have hLength :
      Triple C
        (Since Event.isInput c l (Ahead rest (p.body ++ ys)))
        (storeRemainingLen (lengthField p.body))
        (fun _ =>
          Since Event.isInput
            { c with
              readBuf :=
                c.readBuf.store 1 (lengthField p.body) }
            l (Ahead rest (p.body ++ ys))) := by
    refine Triple.step ?_
    intro w hSince
    right
    refine hSince.more rfl ?_ ?_ hSince.2.1
    · intro e he
      rw [List.mem_singleton.mp he]
      rfl
    · rw [← hSince.1]
  refine hLength.bind ?_
  intro _
  have hBody :
      Triple C
        (Since Event.isInput
          { c with
            readBuf :=
              c.readBuf.store 1 (lengthField p.body) }
          l (Ahead rest (p.body ++ ys)))
        (readBody port (bodyStart p.body) p.body.length)
        (fun complete w =>
          complete = true ∧
            ∃ readBuf,
              Stored readBuf p.header p.body ∧
                Since Event.isInput
                  { c with readBuf := readBuf } l
                  (Ahead rest ys) w) := by
    refine Triple.ite ?_ ?_
    · intro hPos
      refine
        (since_netRead hStream .body
          (some (bodyStart p.body)) rfl).bind ?_
      intro r
      refine Triple.of_fact ?_
      rintro rfl
      refine Triple.ret ?_
      intro w hSince
      refine ⟨rfl, _, ?_, hSince⟩
      rw [← hHeader]
      exact stored_of_stores c.readBuf p.body
    · intro hZero
      have hNone : p.body = [] :=
        List.eq_nil_of_length_eq_zero (by omega)
      rw [hNone]
      refine Triple.ret ?_
      intro w hSince
      refine ⟨rfl, _, ?_, hSince⟩
      rw [← hHeader]
      exact stored_of_empty c.readBuf
  refine hBody.bind ?_
  intro complete
  refine Triple.of_fact ?_
  rintro rfl
  refine Triple.exists_pre ?_
  intro readBuf
  refine Triple.of_fact ?_
  intro hStored
  refine Triple.bind
    (M := fun c' w =>
      c' = { c with readBuf := readBuf } ∧
        Since Event.isInput { c with readBuf := readBuf } l
          (Ahead rest ys) w)
    (Triple.read (fun _ hSince => ⟨hSince.1, hSince⟩)) ?_
  intro c'
  refine Triple.of_fact ?_
  rintro rfl
  refine Triple.bind
    (M := fun _ => PacketStored p c l (Ahead rest ys))
    (Triple.emit ?_) ?_
  · rintro w ⟨hClient, hA, es, hLog, hAll⟩
    right
    refine ⟨readBuf, es, hStored, hClient, hA, ?_, hAll⟩
    have hLoad := hStored.load
    unfold bodyStart at hLoad
    dsimp only
    rw [hLog]
    exact congrArg (fun bs => Event.rxPacket bs :: _) hLoad
  · intro _
    refine Triple.ret ?_
    intro w hPacket
    refine ⟨?_, hPacket⟩
    exact
      congrArg
        (fun b => (IoTError.success, some (headerType b)))
        hStored.header

/- The beginning of every read: the header and the length. -/
theorem since_readHeader
    (hStream : Streaming port timer rest)
    (p : Packet)
    {fuel : Nat}
    (hFuel : p.rounds ≤ fuel)
    {Q : IoTError × Option UInt8 → Run E → Prop}
    (hRest :
      ∀ c', c' = c.received (some 0) [p.header] →
        Triple C
          (Since Event.isInput c' l
            (Ahead rest (p.body ++ ys)))
          (if p.body.length ≥ c'.readBufSize then do
            drainPacket port fuel p.body.length c'.readBufSize
            pure (.mqttRxBufferTooShortError, none)
          else
            readContents port p.body.length) Q) :
    Triple C
      (Since Event.isInput c l (Ahead rest (p.bytes ++ ys)))
      (readPacket port fuel) Q := by
  have hSmall : p.body.length < sizeMax :=
    Nat.lt_of_lt_of_le p.length_body_lt (by decide)
  refine Triple.seq (Triple.read (fun _ h => h)) ?_
  intro c₀
  refine Triple.seq (Triple.modify ?_) ?_
  · intro w hSince
    exact
      hSince.more (List.nil_append _).symm noEvents hSince.1
        ((hStream.countdown _ _ _).trans hSince.2.1)
  intro _
  have hBytes :
      p.bytes ++ ys = [p.header] ++ (p.field ++ (p.body ++ ys)) := by
    simp [Packet.bytes]
  rw [hBytes]
  refine
    (since_netRead hStream .header (some 0) rfl).bind ?_
  intro r
  refine Triple.of_fact ?_
  rintro rfl
  dsimp only
  refine
    (since_decodeLength hStream p.field_decodes hSmall
      (Nat.le_trans (Nat.le_add_right _ _) hFuel)).bind ?_
  intro decoded
  refine Triple.of_fact ?_
  rintro rfl
  dsimp only
  refine Triple.bind
    (M := fun c' w =>
      c' = c.received (some 0) [p.header] ∧
        Since Event.isInput (c.received (some 0) [p.header])
          l (Ahead rest (p.body ++ ys)) w)
    (Triple.read (fun _ hSince => ⟨hSince.1, hSince⟩)) ?_
  intro c'
  refine Triple.of_fact ?_
  intro hClient
  have hLater := hRest c' hClient
  rw [hClient] at hLater ⊢
  exact hLater

/- A packet that fits is stored, and its bytes are taken. -/
theorem readPacket_fits
    (hStream : Streaming port timer rest)
    {p : Packet}
    (hFits : p.Fits c.readBufSize)
    {fuel : Nat}
    (hFuel : p.rounds ≤ fuel) :
    Triple C
      (Since Event.isInput c l (Ahead rest (p.bytes ++ ys)))
      (readPacket port fuel)
      (fun r w =>
        r = (.success, some (headerType p.header)) ∧
          PacketStored p c l (Ahead rest ys) w) := by
  refine since_readHeader hStream p hFuel ?_
  rintro c' rfl
  refine Triple.ite ?_ ?_
  · intro hLarge
    change p.body.length ≥ c.readBufSize at hLarge
    unfold Packet.Fits at hFits
    omega
  · intro _
    refine (since_readContents hStream p ?_).post ?_
    · exact
        c.readBuf.store_apply_of_mem 0 [p.header]
          (i := 0) (by simp)
    · rintro r w ⟨hResult, readBuf, es, hStored, hRest⟩
      exact ⟨hResult, readBuf, es, hStored, hRest⟩

/- A packet that is too large is dropped, and refused. -/
theorem readPacket_oversized
    (hStream : Streaming port timer rest)
    (hSize : 0 < c.readBufSize)
    {p : Packet}
    (hLarge : p.Oversized c.readBufSize)
    {fuel : Nat}
    (hFuel : p.rounds ≤ fuel) :
    Triple C
      (Since Event.isInput c l (Ahead rest (p.bytes ++ ys)))
      (readPacket port fuel)
      (fun r w =>
        r = (.mqttRxBufferTooShortError, none) ∧
          Overwritten c l (Ahead rest ys) w) := by
  refine since_readHeader hStream p hFuel ?_
  rintro c' rfl
  refine Triple.ite ?_ (fun hNo => absurd hLarge hNo)
  intro _
  refine
    (since_drain hStream hSize hLarge
      (Nat.le_trans (Nat.le_add_left _ _) hFuel)).bind ?_
  intro _
  refine Triple.ret ?_
  rintro w ⟨readBuf, hSince⟩
  exact ⟨rfl, readBuf, hSince⟩

end Mqtt

end TrustOnboard
