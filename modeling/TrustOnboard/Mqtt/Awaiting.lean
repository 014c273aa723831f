import TrustOnboard.Mqtt.Effects
import TrustOnboard.Mqtt.Suback

/-
  Calls that wait for their acknowledgement among packets.

  The peer may send any packets before the one a call waits
  for.  The wait takes each of them from the stream and does
  with it what its bytes ask for, in the order in which they
  were sent, and returns with the first packet of the awaited
  type.

  Key definitions include:
    * `Alike`
    * `streamOf`
    * `Packet.Passes`
    * `Packet.Answers`
    * `pipePort`
    * `Legs`

  Key results include:
    * `went_waitForRead`
    * `publish_stream`
    * `unsubscribe_stream`
    * `subscribe_stream`
    * `resubscribe_stream`
-/

------------------------------------------------------------
-- One Thing After The Other
------------------------------------------------------------

namespace TrustOnboard

namespace Mqtt

variable {E α β : Type}
variable {C : Contract (Sys E) Event}
variable {port : Port E}
variable {c : Client}
variable {l : List Event}

/- Two clients that differ in buffers and ping alone. -/
def Alike (c c' : Client) : Prop :=
  ∃ readBuf writeBuf ping,
    c' =
      { c with
        readBuf := readBuf
        writeBuf := writeBuf
        isPingOutstanding := ping }

theorem Went.alike
    {A : E → Prop}
    {out : List Effect}
    {answered : Bool}
    {w : Run E}
    (hWent : Went c l A out answered w) :
    Alike c w.st.client := by
  rcases hWent.client with ⟨readBuf, writeBuf, hClient⟩
  exact ⟨readBuf, writeBuf, _, hClient⟩

theorem Alike.ready
    {c' : Client}
    (hAlike : Alike c c')
    (hReady : c.Ready port) :
    c'.Ready port := by
  rcases hAlike with ⟨readBuf, writeBuf, ping, rfl⟩
  exact hReady.touched readBuf writeBuf ping

theorem Alike.readBufSize
    {c' : Client}
    (hAlike : Alike c c') :
    c'.readBufSize = c.readBufSize := by
  rcases hAlike with ⟨_, _, _, rfl⟩
  rfl

theorem Alike.messageHandlers
    {c' : Client}
    (hAlike : Alike c c') :
    c'.messageHandlers = c.messageHandlers := by
  rcases hAlike with ⟨_, _, _, rfl⟩
  rfl

/- An event without effect comes before the others. -/
theorem Went.quiet
    {A : E → Prop}
    {out : List Effect}
    {answered : Bool}
    {e : Event}
    {w : Run E}
    (hWent : Went c (e :: l) A out answered w)
    (hNone : e.effect = none) :
    Went c l A out answered w where
  client := hWent.client
  env := hWent.env
  log := by
    rcases hWent.log with ⟨es, hLog, hOut⟩
    refine ⟨es ++ [e], ?_, ?_⟩
    · rw [hLog, List.append_assoc, List.singleton_append]
    · rw [effects_append, hOut, effects_cons, hNone]
      rfl

theorem Alike.writeBufSize
    {c' : Client}
    (hAlike : Alike c c') :
    c'.writeBufSize = c.writeBufSize := by
  rcases hAlike with ⟨_, _, _, rfl⟩
  rfl

theorem Alike.nextPacketId
    {c' : Client}
    (hAlike : Alike c c') :
    c'.nextPacketId = c.nextPacketId := by
  rcases hAlike with ⟨_, _, _, rfl⟩
  rfl

/- The effects of two programs in a row. -/
theorem went_bind
    {A B D : E → Prop}
    {out out' : List Effect}
    {answered answered' : Bool}
    {p : Code E α}
    {k : α → Code E β}
    {φ : α → Prop}
    {ψ : β → Run E → Prop}
    (hFirst :
      Triple C (Here c l A) p
        (fun a w => φ a ∧ Went c l B out answered w))
    (hSecond :
      ∀ a c' l', φ a → Alike c c' →
        Triple C (Here c' l' B) (k a)
          (fun b w =>
            ψ b w ∧ Went c' l' D out' answered' w)) :
    Triple C (Here c l A) (p >>= k)
      (fun b w =>
        ψ b w ∧
          Went c l D (out ++ out') (answered || answered')
            w) := by
  apply hFirst.bind
  intro a
  apply Triple.of_fact
  intro hA w hWent
  have hRest :=
    hSecond a w.st.client w.log hA hWent.alike
  refine
    (hRest.post (fun b w' hEnd => ?_)) w
      ⟨rfl, rfl, hWent.env⟩
  exact ⟨hEnd.1, hWent.trans hEnd.2⟩

/- A fact about the client, and a way that has no effect. -/
theorem went_of_here
    {A : E → Prop}
    {es : List Event}
    {w : Run E}
    {readBuf writeBuf : Buffer}
    (hHere :
      Here
        { c with readBuf := readBuf, writeBuf := writeBuf }
        (es ++ l) A w) :
    Went c l A (effects es) false w where
  client := by
    refine ⟨readBuf, writeBuf, ?_⟩
    rw [hHere.1, Bool.not_false, Bool.and_true]
  env := hHere.2.2
  log := ⟨es, hHere.2.1, rfl⟩

end Mqtt

end TrustOnboard

------------------------------------------------------------
-- Waiting
------------------------------------------------------------

namespace TrustOnboard

namespace Mqtt

variable {E : Type}
variable {C : Contract (Sys E) Event}
variable {port : Port E}
variable {callback : Callback E}
variable {timer : TimerName}
variable {rest : E → Bytes}
variable {c : Client}
variable {l : List Event}
variable {ys : Bytes}
variable {awaited : MessageType}

/- The bytes of the packets in a row. -/
def streamOf (ps : List Packet) : Bytes :=
  ps.flatMap Packet.bytes

/- A packet that does not end the wait. -/
structure Packet.Passes
    (p : Packet)
    (awaited : MessageType)
    (readBufSize : Nat) : Prop where
  manageable : p.Manageable readBufSize
  other :
    p.isOversized readBufSize = true ∨
      headerType p.header ≠ awaited.nibble

/- A packet that ends the wait. -/
structure Packet.Answers
    (p : Packet)
    (awaited : MessageType)
    (readBufSize : Nat) : Prop where
  fits : p.Fits readBufSize
  type : headerType p.header = awaited.nibble

/- The effects of the packets, one after the other. -/
def effectsOf
    (ps : List Packet)
    (readBufSize : Nat)
    (table : List MessageHandlers) : List Effect :=
  ps.flatMap (fun p => p.effects readBufSize table)

/- One of the packets answers the ping. -/
def answersPing
    (ps : List Packet)
    (readBufSize : Nat) : Bool :=
  ps.any (fun p => p.answersPing readBufSize)

/- The body of the loop that waits. -/
def waitStep
    (port : Port E)
    (fuel : Nat)
    (callback : Callback E)
    (awaited : MessageType)
    (timer : TimerName)
    (readPacketType : UInt8) : Code E (UInt8 ⊕ IoTError) := do
  let expired ← hasTimerExpired port timer
  if expired then
    pure (.inr .mqttRequestTimeoutError)
  else do
    let (rc, packetType) ←
      cycleRead port fuel callback timer
    let readPacketType := packetType.getD readPacketType
    if rc = .networkDisconnectedError then
      pure (.inr rc)
    else if readPacketType = awaited.nibble then
      pure (.inr rc)
    else
      pure (.inl readPacketType)

theorem waitForRead_eq
    (fuel : Nat) :
    waitForRead port fuel callback awaited timer =
      Prog.loop fuel
        (waitStep port fuel callback awaited timer) 0 :=
  rfl

/- No packet looks like a lost connection. -/
theorem result_connected
    (p : Packet)
    (size : Nat) :
    (p.result size).1 ≠ .networkDisconnectedError := by
  unfold Packet.result
  split
  · nofun
  · unfold Packet.code
    split
    case h_8 =>
      split
      · nofun
      · split
        · nofun
        · nofun
    all_goals nofun

/- The awaited packet is taken for a success. -/
theorem result_answers
    {p : Packet}
    {size : Nat}
    (hAck : awaited.isAck = true)
    (hAnswers : p.Answers awaited size) :
    p.isOversized size = false ∧
      p.result size = (.success, some awaited.nibble) := by
  have hSmall : p.isOversized size = false := by
    have hFits := hAnswers.fits
    unfold Packet.Fits at hFits
    apply decide_eq_false
    have hPos := p.field_decodes.length_pos
    omega
  refine ⟨hSmall, ?_⟩
  unfold Packet.result Packet.code
  rw [hSmall, hAnswers.type]
  cases awaited <;> first | rfl | cases hAck

theorem manageable_of_answers
    {p : Packet}
    {size : Nat}
    (hAck : awaited.isAck = true)
    (hAnswers : p.Answers awaited size) :
    p.Manageable size where
  sized := Or.inl hAnswers.fits
  with_id := by
    intro hType
    rw [hAnswers.type] at hType
    have hOther :
        awaited.nibble ≠ MessageType.publish.nibble := by
      cases awaited <;> first | decide | cases hAck
    exact absurd hType hOther

/- One round of the wait, with one packet. -/
theorem went_waitStep
    (hStream : Streaming port timer rest)
    (hReady : c.Ready port)
    (hCb : ∀ ys, Calm C (Ahead rest ys) callback)
    {p : Packet}
    (hManageable : p.Manageable c.readBufSize)
    {fuel : Nat}
    (hFuel : p.rounds + 2 ≤ fuel)
    (seen : UInt8) :
    Triple C (Here c l (Ahead rest (p.bytes ++ ys)))
      (waitStep port fuel callback awaited timer seen)
      (fun next w =>
        (next =
            if
              (p.result c.readBufSize).2.getD seen =
                awaited.nibble
            then .inr (p.result c.readBufSize).1
            else
              .inl
                ((p.result c.readBufSize).2.getD seen)) ∧
          (p.isOversized c.readBufSize = false →
            Stored w.st.client.readBuf p.header p.body) ∧
            Went c l (Ahead rest ys)
              (p.effects c.readBufSize c.messageHandlers)
              (p.answersPing c.readBufSize) w) := by
  refine Triple.bind
    (M := fun expired w =>
      expired = false ∧
        Here c (.timerChecked timer false :: l)
          (Ahead rest (p.bytes ++ ys)) w)
    (Triple.step ?_) ?_
  · intro w hHere
    rcases hHere with ⟨hClient, hLog, hA⟩
    right
    have hTime := hStream.in_time w.st.env
    refine ⟨hTime, hClient, ?_, ?_⟩
    · dsimp only
      rw [hTime, hLog]
      rfl
    · exact (hStream.hasTimerExpired _ _).trans hA
  intro expired
  apply Triple.of_fact
  rintro rfl
  rw [if_neg Bool.false_ne_true]
  refine
    (went_cycleRead hStream hReady hCb hManageable
      hFuel).bind ?_
  intro r
  apply Triple.of_fact
  intro hResult
  rw [hResult]
  dsimp only
  rw [if_neg (result_connected p _)]
  refine Triple.ite ?_ ?_
  · intro hType
    apply Triple.ret
    intro w hCycle
    exact
      ⟨(if_pos hType).symm, hCycle.1,
        hCycle.2.quiet rfl⟩
  · intro hType
    apply Triple.ret
    intro w hCycle
    exact
      ⟨(if_neg hType).symm, hCycle.1,
        hCycle.2.quiet rfl⟩

/- A packet that passes leaves the wait where it was. -/
theorem passes_goesOn
    {p : Packet}
    {size : Nat}
    (hPasses : p.Passes awaited size)
    {seen : UInt8}
    (hSeen : seen ≠ awaited.nibble) :
    (p.result size).2.getD seen ≠ awaited.nibble := by
  unfold Packet.result
  by_cases hLarge : p.isOversized size = true
  · rw [if_pos hLarge]
    exact hSeen
  · rw [if_neg hLarge]
    rcases hPasses.other with hOversized | hOther
    · exact absurd hOversized hLarge
    · exact hOther

/- One round of the wait, with a packet that passes. -/
theorem went_passing
    (hStream : Streaming port timer rest)
    (hReady : c.Ready port)
    (hCb : ∀ ys, Calm C (Ahead rest ys) callback)
    {p : Packet}
    (hPasses : p.Passes awaited c.readBufSize)
    {fuel : Nat}
    (hFuel : p.rounds + 2 ≤ fuel)
    {seen : UInt8}
    (hSeen : seen ≠ awaited.nibble) :
    Triple C (Here c l (Ahead rest (p.bytes ++ ys)))
      (waitStep port fuel callback awaited timer seen)
      (fun next w =>
        (∃ later,
          next = .inl later ∧ later ≠ awaited.nibble) ∧
          Went c l (Ahead rest ys)
            (p.effects c.readBufSize c.messageHandlers)
            (p.answersPing c.readBufSize) w) := by
  have hOn := passes_goesOn hPasses hSeen
  refine
    (went_waitStep hStream hReady hCb hPasses.manageable
      hFuel seen).post ?_
  intro next w hEnd
  rcases hEnd with ⟨hNext, _, hWent⟩
  rw [if_neg hOn] at hNext
  exact ⟨⟨_, hNext, hOn⟩, hWent⟩

/- The rounds of the wait, along the packets. -/
theorem went_waitLoop
    (hStream : Streaming port timer rest)
    (hCb : ∀ ys, Calm C (Ahead rest ys) callback)
    (hAck : awaited.isAck = true)
    {ack : Packet}
    {fuel : Nat}
    (hLast : ack.rounds + 2 ≤ fuel)
    {ps : List Packet}
    (hEach : ∀ p ∈ ps, p.rounds + 2 ≤ fuel)
    (hReady : c.Ready port)
    (hPasses : ∀ p ∈ ps, p.Passes awaited c.readBufSize)
    (hAnswers : ack.Answers awaited c.readBufSize)
    {rounds : Nat}
    (hRounds : ps.length < rounds)
    {seen : UInt8}
    (hSeen : seen ≠ awaited.nibble) :
    Triple C
      (Here c l
        (Ahead rest (streamOf (ps ++ [ack]) ++ ys)))
      (Prog.loop rounds
        (waitStep port fuel callback awaited timer) seen)
      (fun rc w =>
        (rc = .success ∧
          Stored w.st.client.readBuf ack.header ack.body) ∧
          Went c l (Ahead rest ys)
            (effectsOf (ps ++ [ack]) c.readBufSize
              c.messageHandlers)
            (answersPing (ps ++ [ack]) c.readBufSize)
            w) := by
  induction ps generalizing c l rounds seen with
  | nil =>
      rcases Nat.exists_eq_succ_of_ne_zero
          (Nat.ne_of_gt hRounds) with
        ⟨rounds, rfl⟩
      rcases result_answers hAck hAnswers with
        ⟨hSmall, hResult⟩
      have hOnly :
          streamOf ([] ++ [ack]) ++ ys = ack.bytes ++ ys := by
        simp [streamOf]
      rw [Prog.loop_succ, hOnly]
      refine
        (went_waitStep hStream hReady hCb
          (manageable_of_answers hAck hAnswers) hLast
          seen).bind ?_
      intro next
      apply Triple.of_fact
      rw [hResult]
      intro hNext
      change
        next =
          if awaited.nibble = awaited.nibble then _ else _
        at hNext
      rw [if_pos rfl] at hNext
      rw [hNext]
      apply Triple.ret
      intro w hEnd
      refine ⟨⟨rfl, hEnd.1 hSmall⟩, ?_⟩
      simpa [effectsOf, answersPing] using hEnd.2
  | cons p ps ih =>
      rcases Nat.exists_eq_succ_of_ne_zero
          (Nat.ne_of_gt (Nat.zero_lt_of_lt hRounds)) with
        ⟨rounds, rfl⟩
      have hSplit :
          streamOf (p :: ps ++ [ack]) ++ ys =
            p.bytes ++ (streamOf (ps ++ [ack]) ++ ys) := by
        simp [streamOf]
      rw [Prog.loop_succ, hSplit]
      refine
        went_bind
          (went_passing hStream hReady hCb
            (hPasses p List.mem_cons_self)
            (hEach p List.mem_cons_self) hSeen) ?_
      intro next c' l' hNext hAlike
      rcases hNext with ⟨later, rfl, hLater⟩
      have hSize := hAlike.readBufSize
      have hRest :=
        ih (l := l') (c := c')
          (fun q hq => hEach q (List.mem_cons_of_mem _ hq))
          (hAlike.ready hReady)
          (fun q hq => by
            rw [hSize]
            exact hPasses q (List.mem_cons_of_mem _ hq))
          (by rw [hSize]; exact hAnswers)
          (Nat.lt_of_succ_lt_succ hRounds) hLater
      rw [hSize, hAlike.messageHandlers] at hRest
      exact hRest

/-
  The packets of a stream up to an acknowledgement: those
  before it pass, and it is the first that answers.
-/
structure Brings
    (ps : List Packet)
    (ack : Packet)
    (awaited : MessageType)
    (readBufSize : Nat) : Prop where
  passes : ∀ p ∈ ps, p.Passes awaited readBufSize
  answers : ack.Answers awaited readBufSize

/- The rounds are enough for these packets. -/
structure Suffices
    (fuel : Nat)
    (ps : List Packet) : Prop where
  packets : ps.length ≤ fuel
  each : ∀ p ∈ ps, p.rounds + 2 ≤ fuel

theorem Suffices.two
    {fuel : Nat}
    {ps : List Packet}
    {ack : Packet}
    (hFuel : Suffices fuel (ps ++ [ack])) :
    2 ≤ fuel := by
  have hLast :=
    hFuel.each ack (List.mem_append_right _ List.mem_cons_self)
  omega

/-
  A wait takes the packets of the stream one by one, does
  with each what its bytes ask for, and ends with the first
  that is awaited, which stands in the receive buffer then.
-/
theorem went_waitForRead
    (hStream : Streaming port timer rest)
    (hCb : ∀ ys, Calm C (Ahead rest ys) callback)
    (hAck : awaited.isAck = true)
    (hReady : c.Ready port)
    {ps : List Packet}
    {ack : Packet}
    (hBrings : Brings ps ack awaited c.readBufSize)
    {fuel : Nat}
    (hFuel : Suffices fuel (ps ++ [ack])) :
    Triple C
      (Here c l
        (Ahead rest (streamOf (ps ++ [ack]) ++ ys)))
      (waitForRead port fuel callback awaited timer)
      (fun rc w =>
        rc = .success ∧
          Stored w.st.client.readBuf ack.header ack.body ∧
            Went c l (Ahead rest ys)
              (effectsOf (ps ++ [ack]) c.readBufSize
                c.messageHandlers)
              (answersPing (ps ++ [ack]) c.readBufSize)
              w) := by
  have hLength := hFuel.packets
  rw [List.length_append, List.length_singleton] at hLength
  have hStart : (0 : UInt8) ≠ awaited.nibble := by
    exact nibble_ne_zero awaited
  rw [waitForRead_eq]
  refine
    (went_waitLoop hStream hCb hAck ?_ ?_ hReady ?_ ?_
      hLength hStart).post ?_
  · exact
      hFuel.each ack
        (List.mem_append_right _ List.mem_cons_self)
  · intro p hp
    exact hFuel.each p (List.mem_append_left _ hp)
  · exact hBrings.passes
  · exact hBrings.answers
  · intro rc w hEnd
    exact ⟨hEnd.1.1, hEnd.1.2, hEnd.2⟩

end Mqtt

end TrustOnboard

------------------------------------------------------------
-- A Platform That Is A Stream
------------------------------------------------------------

namespace TrustOnboard

namespace Mqtt

/- A packet as the encoders write it. -/
def Packet.written
    (header : UInt8)
    (body : Bytes)
    (hShort : body.length < lengthLimit) : Packet where
  header := header
  field := lengthField body
  body := body
  field_decodes := by
    have hField :=
      writeLenToBuffer_base128 (UInt32.ofNat body.length)
    have hLimit : lengthLimit < 2 ^ 32 := by decide
    rw [UInt32.toNat_ofNat',
      Nat.mod_eq_of_lt (hShort.trans hLimit)] at hField
    exact hField
  field_short := by
    have hLimit : lengthLimit < 2 ^ 32 := by decide
    apply length_writeLenToBuffer_le
    rw [UInt32.toNat_ofNat',
      Nat.mod_eq_of_lt (hShort.trans hLimit)]
    exact hShort

/- A platform whose state is what the peer has sent. -/
def pipePort : Port Bytes where
  threadSupport := false
  txBufLen := 64
  rxBufLen := 64
  minReconnectWaitInterval := 1000
  maxReconnectWaitInterval := 128000
  hasTimerExpired := fun _ e => (false, e)
  countdown := fun _ _ e => e
  tlsInit := fun e => (.success, e)
  netConnect := fun e => (.success, e)
  netRead := fun n e =>
    if hEnough : (e.take n).length = n then
      (.success (e.take n) hEnough, e.drop n)
    else
      (.readError [] (by
        rw [List.length_take] at hEnough
        simp only [List.length_nil]
        omega), e)
  netWrite := fun bs e =>
    (.success bs.length (WriteResult.whole bs), e)
  netDisconnect := fun e => e
  netDestroy := fun e => (.success, e)
  netIsConnected := fun e =>
    (.networkPhysicalLayerConnected, e)
  mutexTrylock := fun _ e => (true, e)
  onMessage := fun _ _ _ e => ([], e)
  onDisconnect := fun _ _ e => ([], e)

theorem streaming_pipePort
    (timer : TimerName) :
    Streaming pipePort timer id where
  read := by
    intro e xs ys hAhead
    have hTake : e.take xs.length = xs := by
      rw [show e = xs ++ ys from hAhead, List.take_left]
    have hEnough : (e.take xs.length).length = xs.length :=
      congrArg List.length hTake
    have hRead :
        pipePort.netRead xs.length e =
          (.success (e.take xs.length) hEnough,
            e.drop xs.length) :=
      dif_pos hEnough
    have hDrop : e.drop xs.length = ys := by
      rw [show e = xs ++ ys from hAhead, List.drop_left]
    rw [hRead]
    refine ⟨?_, hDrop⟩
    simp only [hTake]
  write := fun _ _ => ⟨rfl, rfl⟩
  hasTimerExpired := fun _ _ => rfl
  in_time := fun _ => rfl
  countdown := fun _ _ _ => rfl
  onMessage := fun _ _ _ _ => ⟨rfl, rfl⟩
  mutexTrylock := fun _ _ => ⟨rfl, rfl⟩

/- A message to the topic `A`. -/
def messageA : Packet :=
  Packet.written 48 [0, 1, 65, 33] (by decide)

/- A client with these handlers, and what the peer sends. -/
def pipeWorld
    (table : List MessageHandlers)
    (ps : List Packet) : Run Bytes :=
  ⟨⟨scriptClient .connectedIdle table, streamOf ps⟩, []⟩

theorem ready_pipeWorld
    (s : ClientState)
    (table : List MessageHandlers) :
    (scriptClient s table).Ready pipePort where
  free := nofun
  room_read := Nat.zero_lt_succ 63
  room_ack := Nat.le_of_ble_eq_true rfl

theorem passes_messageA
    {awaited : MessageType}
    (hAck : awaited.isAck = true) :
    messageA.Passes awaited 64 where
  manageable :=
    { sized := Or.inl (by
        unfold Packet.Fits
        decide)
      with_id := by
        intro _ _
        decide }
  other := Or.inr (by
    cases awaited <;> first | decide | cases hAck)

/- A PUBACK, a SUBACK and an UNSUBACK for the first request. -/
def pubackTwo : Packet :=
  Packet.written 64 [0, 2] (by decide)

def unsubackTwo : Packet :=
  Packet.written 176 [0, 2] (by decide)

def subackOf (id : UInt8) : Packet :=
  Packet.written 144 [0, id, 0] (Nat.le_of_ble_eq_true rfl)

theorem brings_messageA
    {awaited : MessageType}
    (hAck : awaited.isAck = true)
    {ack : Packet}
    (hAnswers : ack.Answers awaited 64) :
    Brings [messageA] ack awaited 64 where
  passes := by
    intro p hp
    rw [List.mem_singleton.mp hp]
    exact passes_messageA hAck
  answers := hAnswers

end Mqtt

end TrustOnboard

------------------------------------------------------------
-- Publishing
------------------------------------------------------------

namespace TrustOnboard

namespace Mqtt

variable {E : Type}
variable {C : Contract (Sys E) Event}
variable {port : Port E}
variable {callback : Callback E}
variable {rest : E → Bytes}
variable {c : Client}
variable {l : List Event}
variable {ys : Bytes}

/- A send, in terms of its effects. -/
theorem went_sendSerialized
    (hStream : Streaming port .command rest)
    (hReady : c.Ready port)
    {r : Client → Serialized}
    {bs : Bytes}
    (hEnc : r c = some (.ok bs))
    (hPos : 0 < bs.length)
    (hShort : bs.length < c.writeBufSize)
    {fuel : Nat}
    (hFuel : 2 ≤ fuel) :
    Triple C (Here c l (Ahead rest ys))
      (sendSerialized port fuel .command r)
      (fun rc w =>
        rc = .success ∧
          Went c l (Ahead rest ys) [.sent bs] false w) := by
  refine
    (effects_sendSerialized hStream (hStream.lockable hReady)
      hEnc hPos hShort hFuel).post ?_
  intro rc w hSent
  rcases hSent with ⟨hRc, es, hEffects, hHere⟩
  refine ⟨hRc, ?_⟩
  rw [← hEffects]
  have hSame :
      Here
        { c with
          readBuf := c.readBuf
          writeBuf := c.writeBuf.store 0 bs }
        (es ++ l) (Ahead rest ys) w :=
    hHere
  exact went_of_here hSame

/- The packet that was awaited is read from the buffer. -/
theorem went_getClient
    {A : E → Prop}
    {header : UInt8}
    {body : Bytes}
    {out : List Effect}
    {answered : Bool}
    {k : Client → Code E IoTError}
    {Q : IoTError → Run E → Prop}
    (hRest :
      ∀ c',
        Stored c'.readBuf header body →
          c'.readBufSize = c.readBufSize →
            Triple C (Went c l A out answered) (k c') Q) :
    Triple C
      (fun w =>
        Stored w.st.client.readBuf header body ∧
          Went c l A out answered w)
      (getClient >>= k) Q := by
  refine Triple.bind
    (M := fun c' w =>
      (Stored c'.readBuf header body ∧
        c'.readBufSize = c.readBufSize) ∧
        Went c l A out answered w)
    (Triple.read ?_) ?_
  · intro w hEnd
    exact
      ⟨⟨hEnd.1, hEnd.2.alike.readBufSize⟩, hEnd.2⟩
  · intro c'
    apply Triple.of_fact
    intro hFacts
    exact hRest c' hFacts.1 hFacts.2

/- The answers of a wait, and what is done with the last. -/
theorem went_await
    (hStream : Streaming port .command rest)
    (hCb : ∀ ys, Calm C (Ahead rest ys) callback)
    {awaited : MessageType}
    (hAck : awaited.isAck = true)
    (hReady : c.Ready port)
    {ps : List Packet}
    {ack : Packet}
    (hBrings : Brings ps ack awaited c.readBufSize)
    {fuel : Nat}
    (hFuel : Suffices fuel (ps ++ [ack]))
    {out : List Effect}
    {answered : Bool}
    {k : Client → Code E IoTError}
    {Q : IoTError → Run E → Prop}
    (hRest :
      ∀ c',
        Stored c'.readBuf ack.header ack.body →
          c'.readBufSize = c.readBufSize →
            Triple C
              (Went c l (Ahead rest ys)
                (out ++
                  effectsOf (ps ++ [ack]) c.readBufSize
                    c.messageHandlers)
                (answered ||
                  answersPing (ps ++ [ack]) c.readBufSize))
              (k c') Q) :
    Triple C
      (Went c l
        (Ahead rest (streamOf (ps ++ [ack]) ++ ys)) out
        answered)
      (waitForRead port fuel callback awaited .command >>=
        fun rc =>
          if rc ≠ .success then pure rc
          else getClient >>= k) Q := by
  intro w hWent
  have hAlike := hWent.alike
  have hBrings' :
      Brings ps ack awaited w.st.client.readBufSize := by
    rw [hAlike.readBufSize]
    exact hBrings
  have hWait :
      Triple C
        (Here w.st.client w.log
          (Ahead rest (streamOf (ps ++ [ack]) ++ ys)))
        (waitForRead port fuel callback awaited .command)
        (fun rc w' =>
          rc = .success ∧
            Stored w'.st.client.readBuf ack.header ack.body ∧
              Went c l (Ahead rest ys)
                (out ++
                  effectsOf (ps ++ [ack]) c.readBufSize
                    c.messageHandlers)
                (answered ||
                  answersPing (ps ++ [ack]) c.readBufSize)
                w') := by
    refine
      (went_waitForRead hStream hCb hAck
        (hAlike.ready hReady) hBrings' hFuel).post ?_
    intro rc w' hEnd
    rcases hEnd with ⟨hRc, hStored, hThere⟩
    rw [hAlike.readBufSize, hAlike.messageHandlers] at hThere
    exact ⟨hRc, hStored, hWent.trans hThere⟩
  refine (hWait.bind ?_) w ⟨rfl, rfl, hWent.env⟩
  intro rc
  apply Triple.of_fact
  rintro rfl
  rw [if_neg (not_not.mpr rfl)]
  exact went_getClient hRest

/- A request and its answers. -/
theorem went_exchange
    (hStream : Streaming port .command rest)
    (hCb : ∀ ys, Calm C (Ahead rest ys) callback)
    {awaited : MessageType}
    (hAck : awaited.isAck = true)
    (hReady : c.Ready port)
    {r : Client → Serialized}
    {packet : Bytes}
    (hEnc : r c = some (.ok packet))
    (hPos : 0 < packet.length)
    (hShort : packet.length < c.writeBufSize)
    {ps : List Packet}
    {ack : Packet}
    (hBrings : Brings ps ack awaited c.readBufSize)
    {fuel : Nat}
    (hFuel : Suffices fuel (ps ++ [ack]))
    {k : Client → Code E IoTError}
    {Q : IoTError → Run E → Prop}
    (hRest :
      ∀ c',
        Stored c'.readBuf ack.header ack.body →
          c'.readBufSize = c.readBufSize →
            Triple C
              (Went c l (Ahead rest ys)
                (.sent packet ::
                  effectsOf (ps ++ [ack]) c.readBufSize
                    c.messageHandlers)
                (answersPing (ps ++ [ack]) c.readBufSize))
              (k c') Q) :
    Triple C
      (Here c l
        (Ahead rest (streamOf (ps ++ [ack]) ++ ys)))
      (sendSerialized port fuel .command r >>= fun rc =>
        if rc ≠ .success then pure rc
        else
          waitForRead port fuel callback awaited .command >>=
            fun rc =>
              if rc ≠ .success then pure rc
              else getClient >>= k) Q := by
  refine
    (went_sendSerialized hStream hReady hEnc hPos hShort
      hFuel.two).bind ?_
  intro rc
  apply Triple.of_fact
  rintro rfl
  rw [if_neg (not_not.mpr rfl)]
  exact
    went_await hStream hCb hAck hReady hBrings hFuel hRest

/- An acknowledgement with an identifier is accepted. -/
theorem deserializeAck_stored
    {ack : Packet}
    {buf : Buffer}
    {size : Nat}
    (hStored : Stored buf ack.header ack.body)
    (hFits : ack.Fits size)
    (hId : 2 ≤ ack.body.length) :
    ∃ id,
      deserializeAck buf size =
        .ok (headerType ack.header, id) := by
  have hPos := ack.field_decodes.length_pos
  unfold Packet.Fits at hFits
  unfold deserializeAck
  rw [if_neg (by omega), hStored.decode,
    if_pos ack.lengthField_short]
  dsimp only
  rw [Nat.mod_eq_of_lt ack.length_body_small,
    if_neg (by omega), hStored.header]
  exact ⟨_, rfl⟩

/- A client that is known is read. -/
theorem here_getClient
    {A : E → Prop}
    {k : Client → Code E IoTError}
    {Q : IoTError → Run E → Prop}
    (hRest : Triple C (Here c l A) (k c) Q) :
    Triple C (Here c l A) (getClient >>= k) Q := by
  refine Triple.bind
    (M := fun c' w => c' = c ∧ Here c l A w)
    (Triple.read (fun _ hHere => ⟨hHere.1, hHere⟩)) ?_
  intro c'
  apply Triple.of_fact
  rintro rfl
  exact hRest

/- The state of a client that is known. -/
theorem here_getClientState
    {A : E → Prop}
    {k : ClientState → Code E IoTError}
    {Q : IoTError → Run E → Prop}
    (hRest : Triple C (Here c l A) (k c.clientState) Q) :
    Triple C (Here c l A) (getClientState >>= k) Q := by
  refine Triple.bind
    (M := fun seen w => seen = c.clientState ∧ Here c l A w)
    (Triple.read ?_) ?_
  · intro w hHere
    exact ⟨by rw [hHere.1], hHere⟩
  · intro seen
    apply Triple.of_fact
    rintro rfl
    exact hRest

/- A state change has no effect. -/
theorem went_setClientState
    (hStream : Streaming port .command rest)
    {during new : ClientState}
    {out : List Effect}
    {answered : Bool}
    {d : Client}
    (hReady : d.Ready port) :
    Triple C
      (Went { d with clientState := during } l
        (Ahead rest ys) out answered)
      (setClientState port during new)
      (fun rc w =>
        rc = .success ∧
          Went { d with clientState := new } l
            (Ahead rest ys) out answered w) := by
  intro w hWent
  rcases hWent.client with ⟨readBuf, writeBuf, hClient⟩
  rcases hWent.log with ⟨es, hLog, hEffects⟩
  have hReady' : w.st.client.Ready port := by
    rw [hClient]
    exact ⟨hReady.free, hReady.room_read, hReady.room_ack⟩
  have hDuring : w.st.client.clientState = during := by
    rw [hClient]
  have hLocks : Lockable port (Ahead rest ys) w.st.client :=
    hStream.lockable hReady'
  have hChange :=
    here_setClientState (C := C) hLocks w.log new
  rw [hDuring] at hChange
  refine (hChange.post ?_) w ⟨rfl, rfl, hWent.env⟩
  intro rc w' hThere
  rcases hThere with ⟨hRc, hHere⟩
  refine ⟨hRc, ⟨readBuf, writeBuf, ?_⟩, hHere.2.2, ?_⟩
  · rw [hHere.1, hClient]
  · refine ⟨.setState during new during :: es, ?_, ?_⟩
    · rw [hHere.2.1, hLog]
      rfl
    · rw [effects_cons, hEffects]
      exact List.append_nil _

/- An operation ends with the state it is to put back. -/
theorem went_withClientState
    (hStream : Streaming port .command rest)
    {clientState during : ClientState}
    {operation : Code E IoTError}
    {xs : Bytes}
    {out : List Effect}
    {answered : Bool}
    {d : Client}
    (hReady : d.Ready port)
    (hOperation :
      Triple C (Here c l (Ahead rest xs)) operation
        (fun rc w =>
          rc = .success ∧
            Went { d with clientState := during } l
              (Ahead rest ys) out answered w)) :
    Triple C (Here c l (Ahead rest xs))
      (withClientState port clientState during operation)
      (fun rc w =>
        rc = .success ∧
          Went { d with clientState := clientState } l
            (Ahead rest ys) out answered w) := by
  apply hOperation.bind
  intro opRc
  apply Triple.of_fact
  rintro rfl
  apply (went_setClientState hStream hReady).bind
  intro rc
  apply Triple.of_fact
  rintro rfl
  refine Triple.ite (fun hNo => absurd rfl hNo.2) ?_
  intro _
  exact Triple.ret (fun _ hWent => ⟨rfl, hWent⟩)

/-
  An operation is entered from its two states and left for
  the state it was entered from.
-/
theorem went_enterOperation
    (hStream : Streaming port .command rest)
    (hReady : c.Ready port)
    (hIdle :
      c.clientState = .connectedIdle ∨
        c.clientState = .connectedWaitForCbReturn)
    {during : ClientState}
    {refused : ClientState → IoTError → Code E IoTError}
    {operation : Code E IoTError}
    {xs : Bytes}
    {out : List Effect}
    {answered : Bool}
    {d : Client}
    (hLater : d.Ready port)
    (hOperation :
      ∀ l,
        Triple C
          (Here { c with clientState := during } l
            (Ahead rest xs))
          operation
          (fun rc w =>
            rc = .success ∧
              Went { d with clientState := during } l
                (Ahead rest ys) out answered w)) :
    Triple C (Here c l (Ahead rest xs))
      (enterOperation port during refused operation)
      (fun rc w =>
        rc = .success ∧
          Went { d with clientState := c.clientState } l
            (Ahead rest ys) out answered w) := by
  have hConnected : isClientConnected c.clientState = true := by
    rcases hIdle with hIdle | hIdle
    · rw [hIdle]
      rfl
    · rw [hIdle]
      rfl
  have hAllowed :
      ¬ (c.clientState ≠ .connectedIdle ∧
        c.clientState ≠ .connectedWaitForCbReturn) := by
    intro hNot
    rcases hIdle with hIdle | hIdle
    · exact hNot.1 hIdle
    · exact hNot.2 hIdle
  apply here_getClientState
  rw [if_neg (not_not.mpr hConnected)]
  apply here_getClientState
  rw [if_neg hAllowed]
  refine
    (here_setClientState (hStream.lockable hReady) l
      during).bind ?_
  intro rc
  apply Triple.of_fact
  rintro rfl
  refine Triple.ite (fun hNo => absurd rfl hNo) ?_
  intro _
  refine
    (went_withClientState hStream hLater
      (hOperation _)).post ?_
  intro rc w hEnd
  exact ⟨hEnd.1, hEnd.2.quiet rfl⟩

/- The client after a request took an identifier. -/
def Client.requested (c : Client) : Client :=
  { c with nextPacketId := nextPacketIdAfter c.nextPacketId }

theorem Client.Ready.requested
    (hReady : c.Ready port) :
    c.requested.Ready port :=
  ⟨hReady.free, hReady.room_read, hReady.room_ack⟩

/-
  The client after a publish took an identifier.  It is also
  in the parameters, which may be those of a message.
-/
def Client.published
    (c : Client)
    (params : PublishParams) : Client :=
  { c.requested with
    messageParams :=
      params.change
        (fun old =>
          { old with
            id := some (nextPacketIdAfter c.nextPacketId) })
        c.messageParams }

theorem Client.Ready.published
    (hReady : c.Ready port)
    (params : PublishParams) :
    (c.published params).Ready port :=
  ⟨hReady.free, hReady.room_read, hReady.room_ack⟩

theorem Client.Ready.withState
    (hReady : c.Ready port)
    (new : ClientState) :
    Client.Ready { c with clientState := new } port :=
  ⟨hReady.free, hReady.room_read, hReady.room_ack⟩

/- The timer of a request leaves the stream where it is. -/
theorem here_startCommandTimer
    (hStream : Streaming port .command rest)
    {xs : Bytes} :
    Keeps C (Here c l (Ahead rest xs))
      (startCommandTimer port) := by
  refine Triple.seq (Triple.read (fun _ hHere => hHere)) ?_
  intro c'
  apply Triple.modify
  intro w hHere
  exact
    ⟨hHere.1, hHere.2.1,
      (hStream.countdown _ _ _).trans hHere.2.2⟩

/- The timer and the identifier of a request. -/
theorem here_startRequest
    (hStream : Streaming port .command rest)
    {β : Type}
    {k : UInt16 → Code E β}
    {Q : β → Run E → Prop}
    {xs : Bytes}
    (hRest :
      Triple C (Here c.requested l (Ahead rest xs))
        (k (nextPacketIdAfter c.nextPacketId)) Q) :
    Triple C (Here c l (Ahead rest xs))
      (startCommandTimer port >>= fun _ =>
        getNextPacketId >>= k) Q := by
  refine (here_startCommandTimer hStream).bind ?_
  intro _
  refine Triple.bind
    (M := fun id w =>
      id = nextPacketIdAfter c.nextPacketId ∧
        Here c.requested l (Ahead rest xs) w)
    (Triple.step ?_) ?_
  · intro w hHere
    rcases hHere with ⟨rfl, hLog, hA⟩
    exact Or.inr ⟨rfl, rfl, hLog, hA⟩
  intro id
  apply Triple.of_fact
  rintro rfl
  exact hRest

/- The identifier of a publish. -/
theorem here_assignPacketId
    (params : PublishParams)
    {A : E → Prop} :
    Triple C (Here c l A) (assignPacketId params)
      (fun id w =>
        id = nextPacketIdAfter c.nextPacketId ∧
          Here (c.published params) l A w) := by
  refine Triple.bind
    (M := fun id w =>
      id = nextPacketIdAfter c.nextPacketId ∧
        Here c.requested l A w)
    (Triple.step ?_) ?_
  · intro w hHere
    rcases hHere with ⟨rfl, hLog, hA⟩
    exact Or.inr ⟨rfl, rfl, hLog, hA⟩
  intro id
  apply Triple.of_fact
  rintro rfl
  refine Triple.bind
    (M := fun _ => Here (c.published params) l A)
    (Triple.modify ?_)
    (fun _ => Triple.ret (fun _ h => ⟨rfl, h⟩))
  intro w hHere
  refine ⟨?_, hHere.2⟩
  dsimp only
  rw [hHere.1]
  rfl

/- The packet of an encoder has a first byte. -/
theorem serializePublish_pos
    {size : Nat}
    {dup retained : UInt8}
    {qos : QoS}
    {id : UInt16}
    {topic : Option CString}
    {topicLen : UInt16}
    {payload : Option Bytes}
    {packet : Bytes}
    (hEnc :
      serializePublish size dup qos retained id topic
        topicLen payload = some (.ok packet)) :
    0 < packet.length := by
  cases payload with
  | none => cases hEnc
  | some payload =>
      rcases serializeFrame_ok hEnc with ⟨b, _, rfl⟩
      exact Nat.zero_lt_succ _

/- The inner function of a publish, among other packets. -/
theorem went_internalPublish
    (hStream : Streaming port .command rest)
    (hCb : ∀ ys, Calm C (Ahead rest ys) callback)
    (hReady : c.Ready port)
    {topic : Option CString}
    {topicLen : UInt16}
    {params : PublishParams}
    (hQos : params.qos = .qos1)
    {packet : Bytes}
    (hEnc :
      serializePublish c.writeBufSize 0 .qos1
          params.isRetained (nextPacketIdAfter c.nextPacketId)
          topic topicLen params.payload =
        some (.ok packet))
    (hShort : packet.length < c.writeBufSize)
    {ps : List Packet}
    {ack : Packet}
    (hBrings : Brings ps ack .puback c.readBufSize)
    (hId : 2 ≤ ack.body.length)
    {fuel : Nat}
    (hFuel : Suffices fuel (ps ++ [ack])) :
    Triple C
      (Here c l
        (Ahead rest (streamOf (ps ++ [ack]) ++ ys)))
      (internalPublish port fuel callback topic topicLen
        params)
      (fun rc w =>
        rc = .success ∧
          Went (c.published params) l (Ahead rest ys)
            (.sent packet ::
              effectsOf (ps ++ [ack]) c.readBufSize
                c.messageHandlers)
            (answersPing (ps ++ [ack]) c.readBufSize)
            w) := by
  unfold internalPublish
  rw [if_pos hQos]
  refine (here_startCommandTimer hStream).bind ?_
  intro _
  refine (here_assignPacketId params).bind ?_
  intro id
  apply Triple.of_fact
  rintro rfl
  rw [hQos]
  simp only [if_true]
  refine
    went_exchange hStream hCb rfl (hReady.published params) hEnc
      (serializePublish_pos hEnc) hShort hBrings hFuel ?_
  intro c' hStored hSize
  have hFits : ack.Fits c'.readBufSize := by
    rw [hSize]
    exact hBrings.answers.fits
  rcases deserializeAck_stored hStored hFits hId with
    ⟨id, hRead⟩
  rw [hRead]
  exact Triple.ret (fun _ hWent => ⟨rfl, hWent⟩)

theorem went_publish
    (hStream : Streaming port .command rest)
    (hCb : ∀ ys, Calm C (Ahead rest ys) callback)
    (hReady : c.Ready port)
    (hIdle :
      c.clientState = .connectedIdle ∨
        c.clientState = .connectedWaitForCbReturn)
    {topic : Option CString}
    {topicLen : UInt16}
    (hTopic : ¬ (topic.isNone = true ∨ topicLen = 0))
    {params : PublishParams}
    (hQos : params.qos = .qos1)
    {packet : Bytes}
    (hEnc :
      serializePublish c.writeBufSize 0 .qos1
          params.isRetained (nextPacketIdAfter c.nextPacketId)
          topic topicLen params.payload =
        some (.ok packet))
    (hShort : packet.length < c.writeBufSize)
    {ps : List Packet}
    {ack : Packet}
    (hBrings : Brings ps ack .puback c.readBufSize)
    (hId : 2 ≤ ack.body.length)
    {fuel : Nat}
    (hFuel : Suffices fuel (ps ++ [ack])) :
    Triple C
      (Here c l
        (Ahead rest (streamOf (ps ++ [ack]) ++ ys)))
      (publish port fuel callback topic topicLen
        (some params))
      (fun rc w =>
        rc = .success ∧
          Went (c.published params) l (Ahead rest ys)
            (.sent packet ::
              effectsOf (ps ++ [ack]) c.readBufSize
                c.messageHandlers)
            (answersPing (ps ++ [ack]) c.readBufSize)
            w) := by
  unfold publish
  dsimp only
  rw [if_neg hTopic]
  apply
    went_enterOperation (d := c.published params) hStream hReady
      hIdle (hReady.published params)
  intro l
  exact
    went_internalPublish hStream hCb
      (hReady.withState .connectedPublishInProgress) hQos hEnc
      hShort hBrings hId hFuel

/-
  A publish with quality of service one, with any packets on
  the stream before its acknowledgement.  It succeeds, sends
  its packet first, and every packet up to the acknowledgement
  has its own effects in its turn; what follows on the stream
  is left there.
-/
theorem publish_stream
    (port : Port E)
    (rest : E → Bytes)
    (call : ApiCall → Code E IoTError)
    (fuel : Nat)
    (topic : Option CString)
    (topicLen : UInt16)
    (params : PublishParams)
    (w : Run E)
    (packet : Bytes)
    (ps : List Packet)
    (ack : Packet)
    (ys : Bytes)
    (hStream : Streaming port .command rest)
    (hReady : w.st.client.Ready port)
    (hIdle :
      w.st.client.clientState = .connectedIdle ∨
        w.st.client.clientState = .connectedWaitForCbReturn)
    (hTopic : ¬ (topic.isNone = true ∨ topicLen = 0))
    (hQos : params.qos = .qos1)
    (hEnc :
      serializePublish w.st.client.writeBufSize 0 .qos1
          params.isRetained
          (nextPacketIdAfter w.st.client.nextPacketId) topic
          topicLen params.payload =
        some (.ok packet))
    (hShort : packet.length < w.st.client.writeBufSize)
    (hBrings :
      Brings ps ack .puback w.st.client.readBufSize)
    (hId : 2 ≤ ack.body.length)
    (hFuel : Suffices fuel (ps ++ [ack]))
    (hAhead :
      rest w.st.env = streamOf (ps ++ [ack]) ++ ys) :
    ∃ w',
      (publish port fuel (runCallback port call) topic
          topicLen (some params)).run w =
        (some .success, w') ∧
      Went (w.st.client.published params) w.log
        (Ahead rest ys)
        (.sent packet ::
          effectsOf (ps ++ [ack]) w.st.client.readBufSize
            w.st.client.messageHandlers)
        (answersPing (ps ++ [ack]) w.st.client.readBufSize)
        w' := by
  rcases
      (went_publish hStream (fun _ => hStream.calm call)
        hReady hIdle hTopic hQos hEnc hShort hBrings hId
        hFuel).returns ⟨rfl, rfl, hAhead⟩ with
    ⟨rc, w', hRun, rfl, hWent⟩
  exact ⟨w', hRun, hWent⟩

/- A message comes in before the PUBACK. -/
theorem publish_stream_message :
    ∃ w' es,
      (publish pipePort 20
          (runCallback pipePort (fun _ => pure .success))
          (some (letter 66 upperB_ne)) 1
          (some ⟨.qos1, 0, 0, some [33], none⟩)).run
          (pipeWorld [letterSlot 65 upperA_ne]
            [messageA, pubackTwo]) =
        (some .success, w') ∧
      w'.log = es ∧
        effects es =
          .sent [50, 6, 0, 1, 66, 0, 2, 33] ::
            effectsOf [messageA, pubackTwo] 64
              [letterSlot 65 upperA_ne] := by
  have hAnswers : pubackTwo.Answers .puback 64 :=
    ⟨by unfold Packet.Fits; decide, rfl⟩
  rcases
      publish_stream pipePort id (fun _ => pure .success) 20
        (some (letter 66 upperB_ne)) 1
        ⟨.qos1, 0, 0, some [33], none⟩
        (pipeWorld [letterSlot 65 upperA_ne]
          [messageA, pubackTwo])
        [50, 6, 0, 1, 66, 0, 2, 33] [messageA] pubackTwo []
        (streaming_pipePort .command)
        (ready_pipeWorld _ _) (Or.inl rfl) (by decide) rfl
        (by decide) (by decide)
        (brings_messageA rfl hAnswers) (by decide)
        ⟨by decide, by decide⟩ (List.append_nil _).symm with
    ⟨w', hRun, hWent⟩
  rcases hWent.log with ⟨es, hLog, hEffects⟩
  refine ⟨w', es, hRun, ?_, hEffects⟩
  rw [hLog]
  exact List.append_nil _

end Mqtt

end TrustOnboard

------------------------------------------------------------
-- Unsubscribing
------------------------------------------------------------

namespace TrustOnboard

namespace Mqtt

variable {E : Type}
variable {C : Contract (Sys E) Event}
variable {port : Port E}
variable {callback : Callback E}
variable {rest : E → Bytes}
variable {c : Client}
variable {l : List Event}
variable {ys : Bytes}

/- The client with another table of handlers. -/
def Client.withTable
    (c : Client)
    (table : List MessageHandlers) : Client :=
  { c with messageHandlers := table }

theorem Client.Ready.withTable
    (hReady : c.Ready port)
    (table : List MessageHandlers) :
    (c.withTable table).Ready port :=
  ⟨hReady.free, hReady.room_read, hReady.room_ack⟩

/- A change of the table is no effect. -/
theorem Went.withTable
    {A : E → Prop}
    {out : List Effect}
    {answered : Bool}
    {w : Run E}
    (hWent : Went c l A out answered w)
    (table : List MessageHandlers)
    {w' : Run E}
    (hClient :
      w'.st.client = w.st.client.withTable table)
    (hEnv : w'.st.env = w.st.env)
    {es : List Event}
    (hLog : w'.log = es ++ w.log)
    (hNone : effects es = []) :
    Went (c.withTable table) l A out answered w' where
  client := by
    rcases hWent.client with ⟨readBuf, writeBuf, hFrom⟩
    refine ⟨readBuf, writeBuf, ?_⟩
    rw [hClient, hFrom]
    rfl
  env := by
    rw [hEnv]
    exact hWent.env
  log := by
    rcases hWent.log with ⟨es', hFrom, hOut⟩
    refine ⟨es ++ es', ?_, ?_⟩
    · rw [hLog, hFrom, List.append_assoc]
    · rw [effects_append, hNone, hOut, List.append_nil]

theorem serializeUnsubscribe_pos
    {size : Nat}
    {dup : UInt8}
    {id : UInt16}
    {topics : List (Option CString × UInt16)}
    {packet : Bytes}
    (hEnc :
      serializeUnsubscribe size dup id topics =
        some (.ok packet)) :
    0 < packet.length := by
  rcases serializeFrame_ok hEnc with ⟨b, _, rfl⟩
  exact Nat.zero_lt_succ _

theorem serializeSubscribe_pos
    {size : Nat}
    {dup : UInt8}
    {id : UInt16}
    {topics : List (Option CString × UInt16 × QoS)}
    {packet : Bytes}
    (hEnc :
      serializeSubscribe size dup id topics =
        some (.ok packet)) :
    0 < packet.length := by
  rcases serializeFrame_ok hEnc with ⟨b, _, rfl⟩
  exact Nat.zero_lt_succ _

/- An UNSUBACK with an identifier is accepted. -/
theorem deserializeUnsuback_stored
    {ack : Packet}
    {buf : Buffer}
    {size : Nat}
    (hStored : Stored buf ack.header ack.body)
    (hAnswers : ack.Answers .unsuback size)
    (hId : 2 ≤ ack.body.length) :
    ∃ id, deserializeUnsuback buf size = .ok id := by
  rcases deserializeAck_stored hStored hAnswers.fits hId with
    ⟨id, hRead⟩
  unfold deserializeUnsuback
  rw [hRead, hAnswers.type]
  exact ⟨id, rfl⟩

/- The inner function of an unsubscribe. -/
theorem went_internalUnsubscribe
    (hStream : Streaming port .command rest)
    (hCb : ∀ ys, Calm C (Ahead rest ys) callback)
    (hReady : c.Ready port)
    {filter : Option CString}
    {filterLen : UInt16}
    (hHeld :
      c.messageHandlers.any (fun slot => slot.holds filter) =
        true)
    {packet : Bytes}
    (hEnc :
      serializeUnsubscribe c.writeBufSize 0
          (nextPacketIdAfter c.nextPacketId)
          [(filter, filterLen)] =
        some (.ok packet))
    (hShort : packet.length < c.writeBufSize)
    {ps : List Packet}
    {ack : Packet}
    (hBrings : Brings ps ack .unsuback c.readBufSize)
    (hId : 2 ≤ ack.body.length)
    {fuel : Nat}
    (hFuel : Suffices fuel (ps ++ [ack])) :
    Triple C
      (Here c l
        (Ahead rest (streamOf (ps ++ [ack]) ++ ys)))
      (internalUnsubscribe port fuel callback filter
        filterLen)
      (fun rc w =>
        rc = .success ∧
          Went
            (c.requested.withTable
              (removeFilter filter c.messageHandlers))
            l (Ahead rest ys)
            (.sent packet ::
              effectsOf (ps ++ [ack]) c.readBufSize
                c.messageHandlers)
            (answersPing (ps ++ [ack]) c.readBufSize)
            w) := by
  apply here_getClient
  rw [if_neg (not_not.mpr hHeld)]
  refine Triple.bind
    (M := fun rc w =>
      rc = .success ∧
        Went c.requested l (Ahead rest ys)
          (.sent packet ::
            effectsOf (ps ++ [ack]) c.readBufSize
              c.messageHandlers)
          (answersPing (ps ++ [ack]) c.readBufSize) w)
    ?_ ?_
  · apply here_startRequest hStream
    refine
      went_exchange (c := c.requested) hStream hCb rfl
        hReady.requested hEnc (serializeUnsubscribe_pos hEnc)
        hShort hBrings hFuel ?_
    intro d hStored hSize
    have hAnswers : ack.Answers .unsuback d.readBufSize := by
      rw [hSize]
      exact hBrings.answers
    rcases deserializeUnsuback_stored hStored hAnswers hId with
      ⟨id, hRead⟩
    rw [hRead]
    exact Triple.ret (fun _ hWent => ⟨rfl, hWent⟩)
  intro rc
  apply Triple.of_fact
  rintro rfl
  rw [if_neg (not_not.mpr rfl)]
  refine Triple.bind
    (M := fun _ =>
      Went
        (c.requested.withTable
          (removeFilter filter c.messageHandlers))
        l (Ahead rest ys)
        (.sent packet ::
          effectsOf (ps ++ [ack]) c.readBufSize
            c.messageHandlers)
        (answersPing (ps ++ [ack]) c.readBufSize))
    (Triple.modify ?_) ?_
  · intro w hWent
    refine
      hWent.withTable _ ?_ rfl (List.nil_append _).symm rfl
    have hTable := hWent.alike.messageHandlers
    dsimp only
    rw [hTable]
    rfl
  · intro _
    exact Triple.ret (fun _ hWent => ⟨rfl, hWent⟩)

theorem went_unsubscribe
    (hStream : Streaming port .command rest)
    (hCb : ∀ ys, Calm C (Ahead rest ys) callback)
    (hReady : c.Ready port)
    (hIdle :
      c.clientState = .connectedIdle ∨
        c.clientState = .connectedWaitForCbReturn)
    {filter : Option CString}
    {filterLen : UInt16}
    (hHeld :
      c.messageHandlers.any (fun slot => slot.holds filter) =
        true)
    {packet : Bytes}
    (hEnc :
      serializeUnsubscribe c.writeBufSize 0
          (nextPacketIdAfter c.nextPacketId)
          [(filter, filterLen)] =
        some (.ok packet))
    (hShort : packet.length < c.writeBufSize)
    {ps : List Packet}
    {ack : Packet}
    (hBrings : Brings ps ack .unsuback c.readBufSize)
    (hId : 2 ≤ ack.body.length)
    {fuel : Nat}
    (hFuel : Suffices fuel (ps ++ [ack])) :
    Triple C
      (Here c l
        (Ahead rest (streamOf (ps ++ [ack]) ++ ys)))
      (unsubscribe port fuel callback filter filterLen)
      (fun rc w =>
        rc = .success ∧
          Went
            (c.requested.withTable
              (removeFilter filter c.messageHandlers))
            l (Ahead rest ys)
            (.sent packet ::
              effectsOf (ps ++ [ack]) c.readBufSize
                c.messageHandlers)
            (answersPing (ps ++ [ack]) c.readBufSize)
            w) := by
  have hSome : ¬ filter.isNone = true := by
    intro hNone
    rcases List.any_eq_true.mp hHeld with ⟨slot, _, hSlot⟩
    unfold MessageHandlers.holds at hSlot
    rw [Option.isNone_iff_eq_none.mp hNone] at hSlot
    cases hTopic : slot.topicName with
    | none => simp [hTopic] at hSlot
    | some topic => simp [hTopic] at hSlot
  unfold unsubscribe
  rw [if_neg hSome]
  apply
    went_enterOperation
      (d :=
        c.requested.withTable
          (removeFilter filter c.messageHandlers))
      hStream hReady hIdle
  · exact hReady.requested.withTable _
  · intro l
    exact
      went_internalUnsubscribe hStream hCb
        (hReady.withState .connectedUnsubscribeInProgress)
        hHeld hEnc hShort hBrings hId hFuel

/-
  An unsubscribe with any packets on the stream before its
  acknowledgement.  Messages that come in before it are still
  handed to the handlers of the filter; the slots are free
  when it returns.
-/
theorem unsubscribe_stream
    (port : Port E)
    (rest : E → Bytes)
    (call : ApiCall → Code E IoTError)
    (fuel : Nat)
    (filter : Option CString)
    (filterLen : UInt16)
    (w : Run E)
    (packet : Bytes)
    (ps : List Packet)
    (ack : Packet)
    (ys : Bytes)
    (hStream : Streaming port .command rest)
    (hReady : w.st.client.Ready port)
    (hIdle :
      w.st.client.clientState = .connectedIdle ∨
        w.st.client.clientState = .connectedWaitForCbReturn)
    (hHeld :
      w.st.client.messageHandlers.any
          (fun slot => slot.holds filter) = true)
    (hEnc :
      serializeUnsubscribe w.st.client.writeBufSize 0
          (nextPacketIdAfter w.st.client.nextPacketId)
          [(filter, filterLen)] =
        some (.ok packet))
    (hShort : packet.length < w.st.client.writeBufSize)
    (hBrings :
      Brings ps ack .unsuback w.st.client.readBufSize)
    (hId : 2 ≤ ack.body.length)
    (hFuel : Suffices fuel (ps ++ [ack]))
    (hAhead :
      rest w.st.env = streamOf (ps ++ [ack]) ++ ys) :
    ∃ w',
      (unsubscribe port fuel (runCallback port call) filter
          filterLen).run w =
        (some .success, w') ∧
      Went
        (w.st.client.requested.withTable
          (removeFilter filter w.st.client.messageHandlers))
        w.log (Ahead rest ys)
        (.sent packet ::
          effectsOf (ps ++ [ack]) w.st.client.readBufSize
            w.st.client.messageHandlers)
        (answersPing (ps ++ [ack]) w.st.client.readBufSize)
        w' := by
  rcases
      (went_unsubscribe hStream (fun _ => hStream.calm call)
        hReady hIdle hHeld hEnc hShort hBrings hId
        hFuel).returns ⟨rfl, rfl, hAhead⟩ with
    ⟨rc, w', hRun, rfl, hWent⟩
  exact ⟨w', hRun, hWent⟩

/- A message to the filter comes in before the UNSUBACK. -/
theorem unsubscribe_stream_message :
    ∃ w' es,
      (unsubscribe pipePort 20
          (runCallback pipePort (fun _ => pure .success))
          (some (letter 65 upperA_ne)) 1).run
          (pipeWorld [letterSlot 65 upperA_ne]
            [messageA, unsubackTwo]) =
        (some .success, w') ∧
      w'.log = es ∧
        effects es =
          .sent [162, 5, 0, 2, 0, 1, 65] ::
            effectsOf [messageA, unsubackTwo] 64
              [letterSlot 65 upperA_ne] := by
  have hAnswers : unsubackTwo.Answers .unsuback 64 :=
    ⟨by unfold Packet.Fits; decide, rfl⟩
  rcases
      unsubscribe_stream pipePort id (fun _ => pure .success)
        20 (some (letter 65 upperA_ne)) 1
        (pipeWorld [letterSlot 65 upperA_ne]
          [messageA, unsubackTwo])
        [162, 5, 0, 2, 0, 1, 65] [messageA] unsubackTwo []
        (streaming_pipePort .command)
        (ready_pipeWorld _ _) (Or.inl rfl) (by decide)
        (by decide) (by decide)
        (brings_messageA rfl hAnswers) (by decide)
        ⟨by decide, by decide⟩ (List.append_nil _).symm with
    ⟨w', hRun, hWent⟩
  rcases hWent.log with ⟨es, hLog, hEffects⟩
  refine ⟨w', es, hRun, ?_, hEffects⟩
  rw [hLog]
  exact List.append_nil _

end Mqtt

end TrustOnboard

------------------------------------------------------------
-- Subscribing
------------------------------------------------------------

namespace TrustOnboard

namespace Mqtt

variable {E : Type}
variable {C : Contract (Sys E) Event}
variable {port : Port E}
variable {callback : Callback E}
variable {rest : E → Bytes}
variable {c : Client}
variable {l : List Event}
variable {ys : Bytes}

/- A SUBACK with one return code is accepted. -/
theorem deserializeSuback_accepted
    {ack : Packet}
    {buf : Buffer}
    {size : Nat}
    (hStored : Stored buf ack.header ack.body)
    (hAnswers : ack.Answers .suback size)
    (hCode : ack.body.length = 3) :
    ∃ r, deserializeSuback buf 1 size = .ok r := by
  have hFits := hAnswers.fits
  have hPos := ack.field_decodes.length_pos
  unfold Packet.Fits at hFits
  have hSuback : IsSuback ack.header ack.body :=
    ⟨hAnswers.type, by omega, ack.length_body_lt⟩
  have hOne : (returnCodes ack.body).length ≤ 1 + 1 := by
    unfold returnCodes
    rw [List.length_drop]
    omega
  exact
    (deserializeSuback_stored hSuback hStored 1
      (by omega)).2.1 hOne

/- The exchange of one subscription. -/
theorem went_subscribeExchange
    (hStream : Streaming port .command rest)
    (hCb : ∀ ys, Calm C (Ahead rest ys) callback)
    (hReady : c.Ready port)
    {id : UInt16}
    {topic : Option CString}
    {topicLen : UInt16}
    {qos : QoS}
    {packet : Bytes}
    (hEnc :
      serializeSubscribe c.writeBufSize 0 id
          [(topic, topicLen, qos)] =
        some (.ok packet))
    (hShort : packet.length < c.writeBufSize)
    {ps : List Packet}
    {ack : Packet}
    (hBrings : Brings ps ack .suback c.readBufSize)
    (hCode : ack.body.length = 3)
    {fuel : Nat}
    (hFuel : Suffices fuel (ps ++ [ack])) :
    Triple C
      (Here c l
        (Ahead rest (streamOf (ps ++ [ack]) ++ ys)))
      (subscribeExchange port fuel callback id topic topicLen
        qos)
      (fun rc w =>
        rc = .success ∧
          Went c l (Ahead rest ys)
            (.sent packet ::
              effectsOf (ps ++ [ack]) c.readBufSize
                c.messageHandlers)
            (answersPing (ps ++ [ack]) c.readBufSize)
            w) := by
  refine
    went_exchange hStream hCb rfl hReady hEnc
      (serializeSubscribe_pos hEnc) hShort hBrings hFuel ?_
  intro d hStored hSize
  have hAnswers : ack.Answers .suback d.readBufSize := by
    rw [hSize]
    exact hBrings.answers
  rcases deserializeSuback_accepted hStored hAnswers hCode with
    ⟨r, hRead⟩
  rw [hRead]
  exact Triple.ret (fun _ hWent => ⟨rfl, hWent⟩)

/- The inner function of a subscribe. -/
theorem went_internalSubscribe
    (hStream : Streaming port .command rest)
    (hCb : ∀ ys, Calm C (Ahead rest ys) callback)
    (hReady : c.Ready port)
    {entry : MessageHandlers}
    (hRoom :
      getFreeMessageHandlerIndex c.messageHandlers <
        c.messageHandlers.length)
    {packet : Bytes}
    (hEnc :
      serializeSubscribe c.writeBufSize 0
          (nextPacketIdAfter c.nextPacketId)
          [(entry.topicName, entry.topicNameLen,
            entry.qos)] =
        some (.ok packet))
    (hShort : packet.length < c.writeBufSize)
    {ps : List Packet}
    {ack : Packet}
    (hBrings : Brings ps ack .suback c.readBufSize)
    (hCode : ack.body.length = 3)
    {fuel : Nat}
    (hFuel : Suffices fuel (ps ++ [ack])) :
    Triple C
      (Here c l
        (Ahead rest (streamOf (ps ++ [ack]) ++ ys)))
      (internalSubscribe port fuel callback entry.topicName
        entry.topicNameLen entry.qos
        entry.pApplicationHandler
        entry.pApplicationHandlerData)
      (fun rc w =>
        rc = .success ∧
          Went
            (c.requested.withTable
              (c.messageHandlers.set
                (getFreeMessageHandlerIndex
                  c.messageHandlers) entry))
            l (Ahead rest ys)
            (.sent packet ::
              effectsOf (ps ++ [ack]) c.readBufSize
                c.messageHandlers)
            (answersPing (ps ++ [ack]) c.readBufSize)
            w) := by
  apply here_startRequest hStream
  refine
    (here_serialize (c := c.requested) hEnc).bind ?_
  intro encoded
  apply Triple.of_fact
  rintro rfl
  dsimp only
  refine Triple.bind
    (M := fun d w =>
      d.messageHandlers = c.messageHandlers ∧
        Here
          { c.requested with
            writeBuf := c.requested.writeBuf.store 0 packet }
          l (Ahead rest (streamOf (ps ++ [ack]) ++ ys)) w)
    (Triple.read ?_) ?_
  · intro w hHere
    refine ⟨?_, hHere⟩
    rw [hHere.1]
    rfl
  intro d
  apply Triple.of_fact
  intro hTable
  rw [hTable, if_neg (Nat.not_le.mpr hRoom)]
  have hSent :
      Triple C
        (Here
          { c.requested with
            writeBuf := c.requested.writeBuf.store 0 packet }
          l (Ahead rest (streamOf (ps ++ [ack]) ++ ys)))
        (sendPacket port fuel packet.length .command)
        (fun rc w =>
          rc = .success ∧
            Went c.requested l
              (Ahead rest (streamOf (ps ++ [ack]) ++ ys))
              [.sent packet] false w) := by
    refine
      (effects_sendPacket
        (c :=
          { c.requested with
            writeBuf := c.requested.writeBuf.store 0 packet })
        hStream
        ⟨hReady.free,
          (hStream.lockable hReady.requested).trylock⟩
        (c.requested.writeBuf.load_store_self 0 packet)
        (serializeSubscribe_pos hEnc) hShort
        hFuel.two).post ?_
    intro rc w hEnd
    rcases hEnd with ⟨hRc, es, hEffects, hHere⟩
    refine ⟨hRc, ?_⟩
    rw [← hEffects]
    exact went_of_here hHere
  apply hSent.bind
  intro rc
  apply Triple.of_fact
  rintro rfl
  rw [if_neg (not_not.mpr rfl)]
  refine
    went_await hStream hCb rfl hReady.requested hBrings hFuel
      ?_
  intro d hStored hSize
  have hAnswers : ack.Answers .suback d.readBufSize := by
    rw [hSize]
    exact hBrings.answers
  rcases deserializeSuback_accepted hStored hAnswers hCode with
    ⟨r, hRead⟩
  rw [hRead]
  refine Triple.bind
    (M := fun _ =>
      Went
        (c.requested.withTable
          (c.messageHandlers.set
            (getFreeMessageHandlerIndex c.messageHandlers)
            entry))
        l (Ahead rest ys)
        (.sent packet ::
          effectsOf (ps ++ [ack]) c.readBufSize
            c.messageHandlers)
        (answersPing (ps ++ [ack]) c.readBufSize))
    (Triple.step ?_) ?_
  · intro w hWent
    right
    refine hWent.withTable _ ?_ rfl rfl ?_
    · have hSame := hWent.alike.messageHandlers
      dsimp only
      rw [hSame]
      rfl
    · apply effects_of_none
      intro e he
      rcases List.mem_map.mp he with ⟨previous, _, rfl⟩
      rfl
  · intro _
    exact Triple.ret (fun _ hWent => ⟨rfl, hWent⟩)

theorem went_subscribe
    (hStream : Streaming port .command rest)
    (hCb : ∀ ys, Calm C (Ahead rest ys) callback)
    (hReady : c.Ready port)
    (hIdle :
      c.clientState = .connectedIdle ∨
        c.clientState = .connectedWaitForCbReturn)
    {entry : MessageHandlers}
    (hEntry :
      ¬ (entry.topicName.isNone = true ∨
        entry.pApplicationHandler.isNone = true))
    (hRoom :
      getFreeMessageHandlerIndex c.messageHandlers <
        c.messageHandlers.length)
    {packet : Bytes}
    (hEnc :
      serializeSubscribe c.writeBufSize 0
          (nextPacketIdAfter c.nextPacketId)
          [(entry.topicName, entry.topicNameLen,
            entry.qos)] =
        some (.ok packet))
    (hShort : packet.length < c.writeBufSize)
    {ps : List Packet}
    {ack : Packet}
    (hBrings : Brings ps ack .suback c.readBufSize)
    (hCode : ack.body.length = 3)
    {fuel : Nat}
    (hFuel : Suffices fuel (ps ++ [ack])) :
    Triple C
      (Here c l
        (Ahead rest (streamOf (ps ++ [ack]) ++ ys)))
      (subscribe port fuel callback entry.topicName
        entry.topicNameLen entry.qos
        entry.pApplicationHandler
        entry.pApplicationHandlerData)
      (fun rc w =>
        rc = .success ∧
          Went
            (c.requested.withTable
              (c.messageHandlers.set
                (getFreeMessageHandlerIndex
                  c.messageHandlers) entry))
            l (Ahead rest ys)
            (.sent packet ::
              effectsOf (ps ++ [ack]) c.readBufSize
                c.messageHandlers)
            (answersPing (ps ++ [ack]) c.readBufSize)
            w) := by
  unfold subscribe
  rw [if_neg hEntry]
  apply
    went_enterOperation
      (d :=
        c.requested.withTable
          (c.messageHandlers.set
            (getFreeMessageHandlerIndex c.messageHandlers)
            entry))
      hStream hReady hIdle
  · exact hReady.requested.withTable _
  · intro l
    exact
      went_internalSubscribe hStream hCb
        (hReady.withState .connectedSubscribeInProgress)
        hRoom hEnc hShort hBrings hCode hFuel

/-
  A subscribe with any packets on the stream before its
  acknowledgement.  Messages that come in before it are
  handed to the handlers there were; the new one is in its
  slot when the subscribe returns.
-/
theorem subscribe_stream
    (port : Port E)
    (rest : E → Bytes)
    (call : ApiCall → Code E IoTError)
    (fuel : Nat)
    (entry : MessageHandlers)
    (w : Run E)
    (packet : Bytes)
    (ps : List Packet)
    (ack : Packet)
    (ys : Bytes)
    (hStream : Streaming port .command rest)
    (hReady : w.st.client.Ready port)
    (hIdle :
      w.st.client.clientState = .connectedIdle ∨
        w.st.client.clientState = .connectedWaitForCbReturn)
    (hEntry :
      ¬ (entry.topicName.isNone = true ∨
        entry.pApplicationHandler.isNone = true))
    (hRoom :
      getFreeMessageHandlerIndex
          w.st.client.messageHandlers <
        w.st.client.messageHandlers.length)
    (hEnc :
      serializeSubscribe w.st.client.writeBufSize 0
          (nextPacketIdAfter w.st.client.nextPacketId)
          [(entry.topicName, entry.topicNameLen,
            entry.qos)] =
        some (.ok packet))
    (hShort : packet.length < w.st.client.writeBufSize)
    (hBrings :
      Brings ps ack .suback w.st.client.readBufSize)
    (hCode : ack.body.length = 3)
    (hFuel : Suffices fuel (ps ++ [ack]))
    (hAhead :
      rest w.st.env = streamOf (ps ++ [ack]) ++ ys) :
    ∃ w',
      (subscribe port fuel (runCallback port call)
          entry.topicName entry.topicNameLen entry.qos
          entry.pApplicationHandler
          entry.pApplicationHandlerData).run w =
        (some .success, w') ∧
      Went
        (w.st.client.requested.withTable
          (w.st.client.messageHandlers.set
            (getFreeMessageHandlerIndex
              w.st.client.messageHandlers) entry))
        w.log (Ahead rest ys)
        (.sent packet ::
          effectsOf (ps ++ [ack]) w.st.client.readBufSize
            w.st.client.messageHandlers)
        (answersPing (ps ++ [ack]) w.st.client.readBufSize)
        w' := by
  rcases
      (went_subscribe hStream (fun _ => hStream.calm call)
        hReady hIdle hEntry hRoom hEnc hShort hBrings hCode
        hFuel).returns ⟨rfl, rfl, hAhead⟩ with
    ⟨rc, w', hRun, rfl, hWent⟩
  exact ⟨w', hRun, hWent⟩

/- A message comes in before the SUBACK. -/
theorem subscribe_stream_message :
    ∃ w' es,
      (subscribe pipePort 20
          (runCallback pipePort (fun _ => pure .success))
          (some (letter 66 upperB_ne)) 1 .qos0 (some 0)
          0).run
          (pipeWorld [letterSlot 65 upperA_ne, freeSlot]
            [messageA, subackOf 2]) =
        (some .success, w') ∧
      w'.log = es ∧
        effects es =
          .sent [130, 6, 0, 2, 0, 1, 66, 0] ::
            effectsOf [messageA, subackOf 2] 64
              [letterSlot 65 upperA_ne, freeSlot] := by
  have hAnswers : (subackOf 2).Answers .suback 64 :=
    ⟨by unfold Packet.Fits; decide, rfl⟩
  rcases
      subscribe_stream pipePort id (fun _ => pure .success)
        20 (letterSlot 66 upperB_ne)
        (pipeWorld [letterSlot 65 upperA_ne, freeSlot]
          [messageA, subackOf 2])
        [130, 6, 0, 2, 0, 1, 66, 0] [messageA] (subackOf 2)
        [] (streaming_pipePort .command)
        (ready_pipeWorld _ _) (Or.inl rfl) (by decide)
        (by decide) (by decide) (by decide)
        (brings_messageA rfl hAnswers) (by decide)
        ⟨by decide, by decide⟩ (List.append_nil _).symm with
    ⟨w', hRun, hWent⟩
  rcases hWent.log with ⟨es, hLog, hEffects⟩
  refine ⟨w', es, hRun, ?_, hEffects⟩
  rw [hLog]
  exact List.append_nil _

end Mqtt

end TrustOnboard

------------------------------------------------------------
-- Resubscribing
------------------------------------------------------------

namespace TrustOnboard

namespace Mqtt

variable {E : Type}
variable {C : Contract (Sys E) Event}
variable {port : Port E}
variable {callback : Callback E}
variable {rest : E → Bytes}
variable {c : Client}
variable {l : List Event}
variable {ys : Bytes}

/-
  One subscription of many: its request, and the packets up
  to its acknowledgement.
-/
structure Leg where
  packet : Bytes
  before : List Packet
  ack : Packet

/- The packets the peer sends for a leg. -/
def Leg.packets (leg : Leg) : List Packet :=
  leg.before ++ [leg.ack]

/- The client after requests took identifiers. -/
def Client.requestedTimes
    (c : Client)
    (n : Nat) : Client :=
  { c with
    nextPacketId := nextPacketIdAfter^[n] c.nextPacketId }

/- The legs of the slots, with an identifier for each. -/
inductive Legs (fuel : Nat) :
    Client → List Nat → List Leg → Prop where
  | done
      (c : Client) :
      Legs fuel c [] []
  | next
      {c : Client}
      {itr : Nat}
      {slots : List Nat}
      {slot : MessageHandlers}
      {leg : Leg}
      {legs : List Leg}
      (hSlot : c.messageHandlers[itr]? = some slot)
      (hEnc :
        serializeSubscribe c.writeBufSize 0
            (nextPacketIdAfter c.nextPacketId)
            [(slot.topicName, slot.topicNameLen,
              slot.qos)] =
          some (.ok leg.packet))
      (hShort : leg.packet.length < c.writeBufSize)
      (hBrings :
        Brings leg.before leg.ack .suback c.readBufSize)
      (hCode : leg.ack.body.length = 3)
      (hFuel : Suffices fuel leg.packets)
      (hRest : Legs fuel c.requested slots legs) :
      Legs fuel c (itr :: slots) (leg :: legs)

/- The state of the client does not matter to the legs. -/
theorem Legs.withState
    {fuel : Nat}
    {slots : List Nat}
    {legs : List Leg}
    (hLegs : Legs fuel c slots legs)
    (new : ClientState) :
    Legs fuel { c with clientState := new } slots legs := by
  induction hLegs with
  | done c => exact .done _
  | next hSlot hEnc hShort hBrings hCode hFuel _ ih =>
      exact .next hSlot hEnc hShort hBrings hCode hFuel ih

/- What the peer sends for the legs. -/
def legsStream (legs : List Leg) : Bytes :=
  legs.flatMap (fun leg => streamOf leg.packets)

/- The effects of the legs, one after the other. -/
def legsEffects
    (legs : List Leg)
    (readBufSize : Nat)
    (table : List MessageHandlers) : List Effect :=
  legs.flatMap (fun leg =>
    .sent leg.packet ::
      effectsOf leg.packets readBufSize table)

/- One of the packets of the legs answers the ping. -/
def legsAnswerPing
    (legs : List Leg)
    (readBufSize : Nat) : Bool :=
  legs.any (fun leg => answersPing leg.packets readBufSize)

/- A request begins where something went on before. -/
theorem Went.requested
    {A B : E → Prop}
    {out out' : List Effect}
    {answered answered' : Bool}
    {w w' : Run E}
    (hFirst : Went c l A out answered w)
    (hSecond :
      Went w.st.client.requested w.log B out' answered' w') :
    Went c.requested l B (out ++ out')
      (answered || answered') w' := by
  rcases hFirst.client with ⟨_, _, hFrom⟩
  rcases hSecond.client with ⟨readBuf, writeBuf, hTo⟩
  refine hFirst.changed hSecond ⟨readBuf, writeBuf, ?_⟩
  rw [hTo, hFrom]
  unfold Client.requested
  dsimp only
  rw [Bool.not_or, Bool.and_assoc]

/- The exchange of one leg, after something else went on. -/
theorem went_leg
    (hStream : Streaming port .command rest)
    (hCb : ∀ ys, Calm C (Ahead rest ys) callback)
    (hReady : c.Ready port)
    {slot : MessageHandlers}
    {leg : Leg}
    (hEnc :
      serializeSubscribe c.writeBufSize 0
          (nextPacketIdAfter c.nextPacketId)
          [(slot.topicName, slot.topicNameLen, slot.qos)] =
        some (.ok leg.packet))
    (hShort : leg.packet.length < c.writeBufSize)
    (hBrings :
      Brings leg.before leg.ack .suback c.readBufSize)
    (hCode : leg.ack.body.length = 3)
    {fuel : Nat}
    (hFuel : Suffices fuel leg.packets)
    {out : List Effect}
    {answered : Bool}
    {w : Run E}
    (hWent :
      Went c l (Ahead rest (streamOf leg.packets ++ ys)) out
        answered w) :
    Triple C
      (Here w.st.client.requested w.log
        (Ahead rest (streamOf leg.packets ++ ys)))
      (subscribeExchange port fuel callback
        (nextPacketIdAfter w.st.client.nextPacketId)
        slot.topicName slot.topicNameLen slot.qos)
      (fun rc w' =>
        rc = .success ∧
          Went c.requested l (Ahead rest ys)
            (out ++
              (.sent leg.packet ::
                effectsOf leg.packets c.readBufSize
                  c.messageHandlers))
            (answered ||
              answersPing leg.packets c.readBufSize) w') := by
  have hAlike := hWent.alike
  have hEnc' :
      serializeSubscribe w.st.client.writeBufSize 0
          (nextPacketIdAfter w.st.client.nextPacketId)
          [(slot.topicName, slot.topicNameLen, slot.qos)] =
        some (.ok leg.packet) := by
    rw [hAlike.writeBufSize, hAlike.nextPacketId]
    exact hEnc
  have hShort' :
      leg.packet.length < w.st.client.writeBufSize := by
    rw [hAlike.writeBufSize]
    exact hShort
  have hBrings' :
      Brings leg.before leg.ack .suback
        w.st.client.readBufSize := by
    rw [hAlike.readBufSize]
    exact hBrings
  refine
    (went_subscribeExchange (c := w.st.client.requested)
      hStream hCb (hAlike.ready hReady).requested hEnc'
      hShort' hBrings' hCode hFuel).post ?_
  intro rc w' hEnd
  refine ⟨hEnd.1, hWent.requested ?_⟩
  rw [← hAlike.readBufSize, ← hAlike.messageHandlers]
  exact hEnd.2

/- The slots are subscribed to one after the other. -/
theorem went_resubscribeSlots
    (hStream : Streaming port .command rest)
    (hCb : ∀ ys, Calm C (Ahead rest ys) callback)
    {fuel : Nat}
    {slots : List Nat}
    {legs : List Leg}
    (hLegs : Legs fuel c slots legs)
    (hReady : c.Ready port)
    (out : List Effect)
    (answered : Bool) :
    Triple C
      (Went c l (Ahead rest (legsStream legs ++ ys)) out
        answered)
      (resubscribeSlots port fuel callback slots)
      (fun rc w =>
        rc = .success ∧
          Went (c.requestedTimes legs.length) l
            (Ahead rest ys)
            (out ++
              legsEffects legs c.readBufSize
                c.messageHandlers)
            (answered || legsAnswerPing legs c.readBufSize)
            w) := by
  induction hLegs generalizing out answered with
  | done c =>
      apply Triple.ret
      intro w hWent
      refine ⟨rfl, ?_⟩
      unfold legsEffects legsAnswerPing
      rw [List.flatMap_nil, List.append_nil, List.any_nil,
        Bool.or_false]
      exact hWent
  | @next c itr slots slot leg legs hSlot hEnc hShort hBrings
      hCode hFuel _ ih =>
      intro w hWent
      have hAlike := hWent.alike
      have hSplit :
          legsStream (leg :: legs) ++ ys =
            streamOf leg.packets ++
              (legsStream legs ++ ys) := by
        simp [legsStream]
      rw [hSplit] at hWent
      refine
        (here_startRequest hStream ?_) w
          ⟨rfl, rfl, hWent.env⟩
      apply here_getClient
      have hSlot' :
          w.st.client.requested.messageHandlers[itr]? =
            some slot := by
        change w.st.client.messageHandlers[itr]? = _
        rw [hAlike.messageHandlers]
        exact hSlot
      rw [hSlot']
      dsimp only
      apply
        (went_leg hStream hCb hReady hEnc hShort hBrings hCode
          hFuel hWent).bind
      intro rc
      apply Triple.of_fact
      rintro rfl
      rw [if_neg (not_not.mpr rfl)]
      refine (ih hReady.requested _ _).post ?_
      intro rc v hEnd
      refine ⟨hEnd.1, ?_⟩
      have hThere := hEnd.2
      rw [List.append_assoc, Bool.or_assoc] at hThere
      exact hThere

theorem went_resubscribe
    (hStream : Streaming port .command rest)
    (hCb : ∀ ys, Calm C (Ahead rest ys) callback)
    (hReady : c.Ready port)
    (hIdle : c.clientState = .connectedIdle)
    {fuel : Nat}
    {legs : List Leg}
    (hLegs :
      Legs fuel c
        (List.range
          (getFreeMessageHandlerIndex c.messageHandlers))
        legs) :
    Triple C (Here c l (Ahead rest (legsStream legs ++ ys)))
      (resubscribe port fuel callback)
      (fun rc w =>
        rc = .success ∧
          Went (c.requestedTimes legs.length) l
            (Ahead rest ys)
            (legsEffects legs c.readBufSize
              c.messageHandlers)
            (legsAnswerPing legs c.readBufSize) w) := by
  have hConnected :
      isClientConnected c.clientState = true := by
    rw [hIdle]
    rfl
  have hSlots :
      ∀ l,
        Triple C
          (Here
            { c with
              clientState := .connectedResubscribeInProgress }
            l (Ahead rest (legsStream legs ++ ys)))
          (internalResubscribe port fuel callback)
          (fun rc w =>
            rc = .success ∧
              Went
                { c.requestedTimes legs.length with
                  clientState :=
                    .connectedResubscribeInProgress }
                l (Ahead rest ys)
                (legsEffects legs c.readBufSize
                  c.messageHandlers)
                (legsAnswerPing legs c.readBufSize) w) := by
    intro l
    apply here_getClient
    apply
      (went_resubscribeSlots hStream hCb
        (hLegs.withState .connectedResubscribeInProgress)
        (hReady.withState _) [] false).pre
    intro v hHere
    have hNow := Went.refl hHere.2.2
    rw [hHere.1, hHere.2.1] at hNow
    exact hNow
  have hBack :
      { c.requestedTimes legs.length with
        clientState := .connectedIdle } =
        c.requestedTimes legs.length := by
    rw [← hIdle]
    rfl
  apply here_getClientState
  rw [if_neg (not_not.mpr hConnected)]
  apply here_getClientState
  rw [if_neg (not_not.mpr hIdle)]
  have hEnter :=
    here_setClientState (C := C)
      (A := Ahead rest (legsStream legs ++ ys))
      (hStream.lockable hReady) l
      .connectedResubscribeInProgress
  rw [hIdle] at hEnter
  apply hEnter.bind
  intro rc
  apply Triple.of_fact
  rintro rfl
  refine Triple.ite (fun hNo => absurd rfl hNo) ?_
  intro _
  refine
    (went_withClientState hStream ?_ (hSlots _)).post ?_
  · exact ⟨hReady.free, hReady.room_read, hReady.room_ack⟩
  · intro rc w hEnd
    rw [← hBack]
    exact ⟨hEnd.1, hEnd.2.quiet rfl⟩

/-
  A resubscribe sends one SUBSCRIBE for each occupied slot,
  in the order of the table and each with the next
  identifier, waits for its acknowledgement before the next,
  and has the effects of all packets that come in meanwhile.
-/
theorem resubscribe_stream
    (port : Port E)
    (rest : E → Bytes)
    (call : ApiCall → Code E IoTError)
    (fuel : Nat)
    (w : Run E)
    (legs : List Leg)
    (ys : Bytes)
    (hStream : Streaming port .command rest)
    (hReady : w.st.client.Ready port)
    (hIdle : w.st.client.clientState = .connectedIdle)
    (hLegs :
      Legs fuel w.st.client
        (List.range
          (getFreeMessageHandlerIndex
            w.st.client.messageHandlers)) legs)
    (hAhead : rest w.st.env = legsStream legs ++ ys) :
    ∃ w',
      (resubscribe port fuel (runCallback port call)).run w =
        (some .success, w') ∧
      Went (w.st.client.requestedTimes legs.length) w.log
        (Ahead rest ys)
        (legsEffects legs w.st.client.readBufSize
          w.st.client.messageHandlers)
        (legsAnswerPing legs w.st.client.readBufSize) w' := by
  rcases
      (went_resubscribe hStream (fun _ => hStream.calm call)
        hReady hIdle hLegs).returns ⟨rfl, rfl, hAhead⟩ with
    ⟨rc, w', hRun, rfl, hWent⟩
  exact ⟨w', hRun, hWent⟩

/- The legs of two slots, the second with a message. -/
def twoLegs : List Leg :=
  [⟨[130, 6, 0, 2, 0, 1, 65, 0], [], subackOf 2⟩,
    ⟨[130, 6, 0, 3, 0, 1, 66, 0], [messageA], subackOf 3⟩]

def twoSlots : List MessageHandlers :=
  [letterSlot 65 upperA_ne, letterSlot 66 upperB_ne,
    freeSlot]

theorem legs_twoLegs :
    Legs 20 (scriptClient .connectedIdle twoSlots) [0, 1]
      twoLegs := by
  have hFirst : (subackOf 2).Answers .suback 64 :=
    ⟨by unfold Packet.Fits; decide, rfl⟩
  have hSecond : (subackOf 3).Answers .suback 64 :=
    ⟨by unfold Packet.Fits; decide, rfl⟩
  have hSlotA :
      twoSlots[0]? = some (letterSlot 65 upperA_ne) :=
    rfl
  have hSlotB :
      twoSlots[1]? = some (letterSlot 66 upperB_ne) :=
    rfl
  refine
    .next hSlotA (by decide) (by decide) ⟨nofun, hFirst⟩ (by decide)
      ⟨by decide, by decide⟩ ?_
  refine
    .next hSlotB (by decide) (by decide) (brings_messageA rfl hSecond) (by decide)
      ⟨by decide, by decide⟩ ?_
  exact .done _

/- Two subscriptions are made again, one after the other. -/
theorem resubscribe_stream_two :
    ∃ w' es,
      (resubscribe pipePort 20
          (runCallback pipePort
            (fun _ => pure .success))).run
          ⟨⟨scriptClient .connectedIdle twoSlots,
            legsStream twoLegs⟩, []⟩ =
        (some .success, w') ∧
      w'.log = es ∧
        effects es = legsEffects twoLegs 64 twoSlots := by
  rcases
      resubscribe_stream pipePort id (fun _ => pure .success)
        20
        ⟨⟨scriptClient .connectedIdle twoSlots,
          legsStream twoLegs⟩, []⟩
        twoLegs [] (streaming_pipePort .command)
        (ready_pipeWorld _ _) rfl legs_twoLegs
        (List.append_nil _).symm with
    ⟨w', hRun, hWent⟩
  rcases hWent.log with ⟨es, hLog, hEffects⟩
  refine ⟨w', es, hRun, ?_, hEffects⟩
  rw [hLog]
  exact List.append_nil _

end Mqtt

end TrustOnboard
