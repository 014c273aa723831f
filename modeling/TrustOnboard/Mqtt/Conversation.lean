import TrustOnboard.Mqtt.Awaiting
import TrustOnboard.Mqtt.Connecting
import TrustOnboard.Mqtt.Transactions

/-
  Sessions of the client over one stream.

  An application connects, publishes, subscribes, unsubscribes
  and disconnects in any order it is allowed to.  Where the
  peer answers each request that asks for an answer, with any
  packets before it, every call succeeds, and all the peer has
  sent is read once and in its order: a message goes to the
  handlers there are when its turn comes.

  Key definitions include:
    * `Linked`
    * `Client.accepted`
    * `Client.asked`
    * `Answered`
    * `Conversation`
    * `conversationEffects`

  Key results include:
    * `went_disconnect`
    * `went_connect`
    * `went_call`
    * `session_stream`
    * `reconnect_stream`
-/

------------------------------------------------------------
-- Calls Without An Answer
------------------------------------------------------------

namespace TrustOnboard

namespace Mqtt

variable {E : Type}
variable {C : Contract (Sys E) Event}
variable {port : Port E}
variable {callback : Callback E}
variable {rest : E → Bytes}
variable {c : Client}
variable {l : List Event}
variable {ys : Bytes}
variable {fuel : Nat}

/-
  The network can be opened and closed, and does not lose
  what the peer sends.
-/
structure Linked
    (port : Port E)
    (rest : E → Bytes) : Prop where
  connect :
    ∀ e,
      (port.netConnect e).1 = .success ∧
        rest (port.netConnect e).2 = rest e
  disconnect : ∀ e, rest (port.netDisconnect e) = rest e
  destroy :
    ∀ e,
      (port.netDestroy e).1 = .success ∧
        rest (port.netDestroy e).2 = rest e

/- An event without effect comes after the others. -/
theorem Went.later
    {A B : E → Prop}
    {out : List Effect}
    {answered : Bool}
    {w w' : Run E}
    (hWent : Went c l A out answered w)
    (hClient : w'.st.client = w.st.client)
    (hEnv : B w'.st.env)
    {e : Event}
    (hLog : w'.log = e :: w.log)
    (hNone : e.effect = none) :
    Went c l B out answered w' where
  client := by
    rw [hClient]
    exact hWent.client
  env := hEnv
  log := by
    rcases hWent.log with ⟨es, hFrom, hOut⟩
    refine ⟨e :: es, ?_, ?_⟩
    · rw [hLog, hFrom]
      rfl
    · rw [effects_cons, hOut, hNone]
      exact List.append_nil _

/- A change of the state is no effect. -/
theorem Went.withState
    {A : E → Prop}
    {out : List Effect}
    {answered : Bool}
    {w w' : Run E}
    (hWent : Went c l A out answered w)
    {s : ClientState}
    (hClient :
      w'.st.client = { w.st.client with clientState := s })
    (hEnv : w'.st.env = w.st.env)
    (hLog : w'.log = w.log) :
    Went { c with clientState := s } l A out answered w' where
  client := by
    rcases hWent.client with ⟨readBuf, writeBuf, hFrom⟩
    refine ⟨readBuf, writeBuf, ?_⟩
    rw [hClient, hFrom]
  env := by
    rw [hEnv]
    exact hWent.env
  log := by
    rw [hLog]
    exact hWent.log

/- The inner function of a publish without an answer. -/
theorem went_internalPublish_plain
    (hStream : Streaming port .command rest)
    (hReady : c.Ready port)
    {topic : Option CString}
    {topicLen : UInt16}
    {params : PublishParams}
    (hQos : params.qos ≠ .qos1)
    {packet : Bytes}
    (hEnc :
      serializePublish c.writeBufSize 0 params.qos
          params.isRetained params.id topic topicLen
          params.payload =
        some (.ok packet))
    (hShort : packet.length < c.writeBufSize)
    (hFuel : 2 ≤ fuel) :
    Triple C (Here c l (Ahead rest ys))
      (internalPublish port fuel callback topic topicLen
        params)
      (fun rc w =>
        rc = .success ∧
          Went c l (Ahead rest ys) [.sent packet] false
            w) := by
  unfold internalPublish
  rw [if_neg hQos]
  apply (here_startCommandTimer hStream).bind
  intro _
  refine Triple.bind
    (M := fun id w =>
      id = params.id ∧ Here c l (Ahead rest ys) w)
    (Triple.pure (fun _ hHere => ⟨rfl, hHere⟩)) ?_
  intro id
  apply Triple.of_fact
  rintro rfl
  apply
    (went_sendSerialized hStream hReady hEnc
      (serializePublish_pos hEnc) hShort hFuel).bind
  intro rc
  apply Triple.of_fact
  rintro rfl
  rw [if_neg (not_not.mpr rfl), if_neg hQos]
  exact Triple.ret (fun _ hWent => ⟨rfl, hWent⟩)

/- A publish that asks for no answer leaves the stream alone. -/
theorem went_publish_plain
    (hStream : Streaming port .command rest)
    (hReady : c.Ready port)
    (hIdle :
      c.clientState = .connectedIdle ∨
        c.clientState = .connectedWaitForCbReturn)
    {topic : Option CString}
    {topicLen : UInt16}
    (hTopic : ¬ (topic.isNone = true ∨ topicLen = 0))
    {params : PublishParams}
    (hQos : params.qos ≠ .qos1)
    {packet : Bytes}
    (hEnc :
      serializePublish c.writeBufSize 0 params.qos
          params.isRetained params.id topic topicLen
          params.payload =
        some (.ok packet))
    (hShort : packet.length < c.writeBufSize)
    (hFuel : 2 ≤ fuel) :
    Triple C (Here c l (Ahead rest ys))
      (publish port fuel callback topic topicLen
        (some params))
      (fun rc w =>
        rc = .success ∧
          Went c l (Ahead rest ys) [.sent packet] false
            w) := by
  unfold publish
  dsimp only
  rw [if_neg hTopic]
  apply went_enterOperation hStream hReady hIdle hReady
  intro l
  exact
    went_internalPublish_plain hStream
      (hReady.withState .connectedPublishInProgress) hQos hEnc
      hShort hFuel

/- A DISCONNECT packet. -/
def disconnectPacket : Bytes := [224, 0]

theorem serializeZero_disconnect
    {size : Nat}
    (hRoom : 4 ≤ size) :
    serializeZero size .disconnect =
      some (.ok disconnectPacket) := by
  unfold serializeZero
  rw [if_neg (Nat.not_lt.mpr hRoom)]
  decide

/- The inner function of a disconnect. -/
theorem went_internalDisconnect
    (hStream : Streaming port .command rest)
    (hLinked : Linked port rest)
    (hReady : c.Ready port)
    (hFuel : 2 ≤ fuel) :
    Triple C (Here c l (Ahead rest ys))
      (internalDisconnect port fuel)
      (fun rc w =>
        rc = .success ∧
          Went c l (Ahead rest ys) [.sent disconnectPacket]
            false w) := by
  have hRoom : 4 ≤ c.writeBufSize := by
    have hAck := hReady.room_ack
    omega
  have hShort : disconnectPacket.length < c.writeBufSize :=
    Nat.lt_of_lt_of_le (by decide) hRoom
  apply
    (here_serialize
      (r := fun c => serializeZero c.writeBufSize .disconnect)
      (serializeZero_disconnect hRoom)).bind
  intro encoded
  apply Triple.of_fact
  rintro rfl
  apply (here_startCommandTimer hStream).bind
  intro _
  refine Triple.bind
    (M := fun rc w =>
      rc = .success ∧
        Went c l (Ahead rest ys) [.sent disconnectPacket]
          false w) ?_ ?_
  · refine
      (effects_sendPacket
        (c :=
          { c with
            writeBuf := c.writeBuf.store 0 disconnectPacket })
        hStream
        ⟨hReady.free, (hStream.lockable hReady).trylock⟩
        (c.writeBuf.load_store_self 0 disconnectPacket)
        (by decide) hShort hFuel).post ?_
    intro rc w hEnd
    rcases hEnd with ⟨hRc, es, hEffects, hHere⟩
    refine ⟨hRc, ?_⟩
    rw [← hEffects]
    exact went_of_here hHere
  intro rc
  apply Triple.of_fact
  rintro rfl
  dsimp only
  rw [if_neg (not_not.mpr rfl)]
  refine Triple.seq (Triple.step ?_) ?_
  · intro w hWent
    right
    exact
      hWent.later rfl
        ((hLinked.disconnect _).trans hWent.env) rfl rfl
  intro _
  refine Triple.bind
    (M := fun rc w =>
      rc = .success ∧
        Went c l (Ahead rest ys) [.sent disconnectPacket]
          false w)
    (Triple.step ?_) ?_
  · intro w hWent
    have hDestroy := hLinked.destroy w.st.env
    right
    exact
      ⟨hDestroy.1,
        hWent.later rfl (hDestroy.2.trans hWent.env) rfl rfl⟩
  intro rc
  apply Triple.of_fact
  rintro rfl
  rw [if_neg (not_not.mpr rfl)]
  exact Triple.ret (fun _ hWent => ⟨rfl, hWent⟩)

/- A disconnect says so and leaves the client disconnected. -/
theorem went_disconnect
    (hStream : Streaming port .command rest)
    (hLinked : Linked port rest)
    (hReady : c.Ready port)
    (hConnected : isClientConnected c.clientState = true)
    (hFuel : 2 ≤ fuel) :
    Triple C (Here c l (Ahead rest ys))
      (disconnect port fuel)
      (fun rc w =>
        rc = .success ∧
          Went { c with clientState := .disconnectedManually }
            l (Ahead rest ys) [.sent disconnectPacket] false
            w) := by
  apply here_getClientState
  apply here_getClientState
  rw [if_neg (not_not.mpr hConnected)]
  apply
    (here_setClientState (hStream.lockable hReady) l
      .disconnecting).bind
  intro rc
  apply Triple.of_fact
  rintro rfl
  rw [if_neg (not_not.mpr rfl)]
  apply
    (went_internalDisconnect hStream hLinked
      (hReady.withState .disconnecting) hFuel).bind
  intro rc
  apply Triple.of_fact
  rintro rfl
  rw [if_neg (not_not.mpr rfl)]
  refine Triple.bind
    (M := fun _ =>
      Went { c with clientState := .disconnectedManually } l
        (Ahead rest ys) [.sent disconnectPacket] false)
    (Triple.modify ?_) ?_
  · intro w hWent
    exact (hWent.quiet rfl).withState rfl rfl rfl
  intro _
  exact Triple.ret (fun _ hWent => ⟨rfl, hWent⟩)

end Mqtt

end TrustOnboard

------------------------------------------------------------
-- Connecting
------------------------------------------------------------

namespace TrustOnboard

namespace Mqtt

variable {E : Type}
variable {C : Contract (Sys E) Event}
variable {port : Port E}
variable {callback : Callback E}
variable {rest : E → Bytes}
variable {c : Client}
variable {l : List Event}
variable {ys : Bytes}
variable {fuel : Nat}
variable {params : Option ConnectParams}

/- The client with the parameters a connect brings. -/
def Client.configured
    (c : Client) :
    Option ConnectParams → Client
  | none => c
  | some params => setConnectParams c params

/- The client that sends its CONNECT packet. -/
def Client.opening
    (c : Client)
    (params : Option ConnectParams) : Client :=
  { c.configured params with
    keepAliveInterval :=
      (c.configured params).options.keepAliveIntervalInSec }

/- The client when the peer has accepted it. -/
def Client.accepted
    (c : Client)
    (params : Option ConnectParams) : Client :=
  { c.opening params with
    clientState := .connectedIdle
    isPingOutstanding := false }

theorem Client.Ready.accepted
    (hReady : c.Ready port)
    (params : Option ConnectParams) :
    (c.accepted params).Ready port := by
  cases params with
  | none =>
      exact ⟨hReady.free, hReady.room_read, hReady.room_ack⟩
  | some _ =>
      exact ⟨hReady.free, hReady.room_read, hReady.room_ack⟩

theorem serializeConnect_pos
    {size : Nat}
    {options : ConnectParams}
    {packet : Bytes}
    (hEnc :
      serializeConnect size options = some (.ok packet)) :
    0 < packet.length := by
  rcases serializeConnect_ok hEnc with ⟨_, _, _, _, rfl⟩
  exact Nat.zero_lt_succ _

/- A CONNACK that accepts, in the receive buffer. -/
theorem deserializeConnack_accepted
    {ack : Packet}
    {buf : Buffer}
    {size : Nat}
    (hStored : Stored buf ack.header ack.body)
    (hAnswers : ack.Answers .connack size)
    (hAccepts : ∃ flags, ack.body = [flags, 0]) :
    deserializeConnack buf size =
      .ok .mqttConnackConnectionAccepted := by
  rcases hAccepts with ⟨flags, hBody⟩
  have hSize : 4 ≤ size := by
    have hPos := ack.field_decodes.length_pos
    have hFits := hAnswers.fits
    unfold Packet.Fits at hFits
    rw [hBody] at hFits
    simp only [List.length_cons, List.length_nil] at hFits
    omega
  apply
    (deserializeConnack_stored hSize hAnswers.type
      hStored).mpr
  rw [lengthField_two (by rw [hBody]; rfl), hBody]
  simp [connackAccepts, hAnswers.type]

/- No ping is waited for behind an accepted connection. -/
theorem Went.pingCleared
    {A : E → Prop}
    {out : List Effect}
    {answered : Bool}
    {w w' : Run E}
    (hWent : Went c l A out answered w)
    (hClient :
      w'.st.client =
        { w.st.client with isPingOutstanding := false })
    (hLog : w'.log = w.log)
    (hEnv : A w'.st.env) :
    Went { c with isPingOutstanding := false } l A out
      answered w' where
  client := by
    rcases hWent.client with ⟨readBuf, writeBuf, hFrom⟩
    refine ⟨readBuf, writeBuf, ?_⟩
    rw [hClient, hFrom]
    rfl
  env := hEnv
  log := by
    rw [hLog]
    exact hWent.log

/- The exchange of CONNECT and CONNACK. -/
theorem went_connectExchange
    (hStream : Streaming port .command rest)
    (hCb : ∀ ys, Calm C (Ahead rest ys) callback)
    (hReady : c.Ready port)
    {packet : Bytes}
    (hEnc :
      serializeConnect c.writeBufSize c.options =
        some (.ok packet))
    (hShort : packet.length < c.writeBufSize)
    {ps : List Packet}
    {ack : Packet}
    (hBrings : Brings ps ack .connack c.readBufSize)
    (hAccepts : ∃ flags, ack.body = [flags, 0])
    (hFuel : Suffices fuel (ps ++ [ack])) :
    Triple C
      (Here c l
        (Ahead rest (streamOf (ps ++ [ack]) ++ ys)))
      (connectExchange port fuel callback)
      (fun rc w =>
        rc = .success ∧
          Went
            { c with
              keepAliveInterval :=
                c.options.keepAliveIntervalInSec
              isPingOutstanding := false }
            l (Ahead rest ys)
            (.sent packet ::
              effectsOf (ps ++ [ack]) c.readBufSize
                c.messageHandlers)
            (answersPing (ps ++ [ack]) c.readBufSize)
            w) := by
  apply (here_startCommandTimer hStream).bind
  intro _
  refine Triple.bind
    (M := fun _ =>
      Here
        { c with
          keepAliveInterval :=
            c.options.keepAliveIntervalInSec }
        l (Ahead rest (streamOf (ps ++ [ack]) ++ ys)))
    (Triple.modify ?_) ?_
  · rintro w ⟨rfl, hLog, hAhead⟩
    exact ⟨rfl, hLog, hAhead⟩
  intro _
  have hReady' :
      Client.Ready
        { c with
          keepAliveInterval :=
            c.options.keepAliveIntervalInSec } port :=
    ⟨hReady.free, hReady.room_read, hReady.room_ack⟩
  refine
    went_exchange hStream hCb rfl hReady' hEnc
      (serializeConnect_pos hEnc) hShort hBrings hFuel ?_
  intro c' hStored hSize
  have hAnswers : ack.Answers .connack c'.readBufSize := by
    rw [hSize]
    exact hBrings.answers
  rw [deserializeConnack_accepted hStored hAnswers hAccepts]
  dsimp only
  rw [if_neg (not_not.mpr rfl)]
  refine Triple.bind
    (M := fun _ =>
      Went
        { c with
          keepAliveInterval :=
            c.options.keepAliveIntervalInSec
          isPingOutstanding := false }
        l (Ahead rest ys)
        (.sent packet ::
          effectsOf (ps ++ [ack]) c.readBufSize
            c.messageHandlers)
        (answersPing (ps ++ [ack]) c.readBufSize))
    (Triple.modify ?_) ?_
  · intro w hWent
    exact hWent.pingCleared rfl rfl hWent.env
  intro _
  refine Triple.seq (Triple.read (fun _ hWent => hWent)) ?_
  intro _
  refine Triple.seq (Triple.modify ?_) ?_
  · intro w hWent
    exact
      ⟨hWent.client,
        (hStream.countdown _ _ _).trans hWent.env, hWent.log⟩
  intro _
  exact Triple.ret (fun _ hWent => ⟨rfl, hWent⟩)

/- The network is opened, and the packets exchanged. -/
theorem went_openNetwork
    (hStream : Streaming port .command rest)
    (hLinked : Linked port rest)
    (hCb : ∀ ys, Calm C (Ahead rest ys) callback)
    (hReady : c.Ready port)
    {packet : Bytes}
    (hEnc :
      serializeConnect c.writeBufSize c.options =
        some (.ok packet))
    (hShort : packet.length < c.writeBufSize)
    {ps : List Packet}
    {ack : Packet}
    (hBrings : Brings ps ack .connack c.readBufSize)
    (hAccepts : ∃ flags, ack.body = [flags, 0])
    (hFuel : Suffices fuel (ps ++ [ack])) :
    Triple C
      (Here c l
        (Ahead rest (streamOf (ps ++ [ack]) ++ ys)))
      (netConnect port >>= fun rc =>
        if rc ≠ .success then pure rc
        else connectExchange port fuel callback)
      (fun rc w =>
        rc = .success ∧
          Went
            { c with
              keepAliveInterval :=
                c.options.keepAliveIntervalInSec
              isPingOutstanding := false }
            l (Ahead rest ys)
            (.sent packet ::
              effectsOf (ps ++ [ack]) c.readBufSize
                c.messageHandlers)
            (answersPing (ps ++ [ack]) c.readBufSize)
            w) := by
  refine Triple.bind
    (M := fun rc w =>
      rc = .success ∧
        Here c (.netConnect .success :: l)
          (Ahead rest (streamOf (ps ++ [ack]) ++ ys)) w)
    (Triple.step ?_) ?_
  · intro w hHere
    have hOpen := hLinked.connect w.st.env
    right
    dsimp only
    rw [hOpen.1]
    exact
      ⟨rfl, hHere.1, congrArg (_ :: ·) hHere.2.1,
        hOpen.2.trans hHere.2.2⟩
  intro rc
  apply Triple.of_fact
  rintro rfl
  rw [if_neg (not_not.mpr rfl)]
  refine
    (went_connectExchange hStream hCb hReady hEnc hShort
      hBrings hAccepts hFuel).post ?_
  intro rc w hEnd
  exact ⟨hEnd.1, hEnd.2.quiet rfl⟩

theorem went_internalConnect
    (hStream : Streaming port .command rest)
    (hLinked : Linked port rest)
    (hCb : ∀ ys, Calm C (Ahead rest ys) callback)
    (hReady : c.Ready port)
    {packet : Bytes}
    (hEnc :
      serializeConnect c.writeBufSize
          (c.configured params).options =
        some (.ok packet))
    (hShort : packet.length < c.writeBufSize)
    {ps : List Packet}
    {ack : Packet}
    (hBrings : Brings ps ack .connack c.readBufSize)
    (hAccepts : ∃ flags, ack.body = [flags, 0])
    (hFuel : Suffices fuel (ps ++ [ack])) :
    Triple C
      (Here c l
        (Ahead rest (streamOf (ps ++ [ack]) ++ ys)))
      (internalConnect port fuel callback params)
      (fun rc w =>
        rc = .success ∧
          Went
            { c.opening params with
              isPingOutstanding := false }
            l (Ahead rest ys)
            (.sent packet ::
              effectsOf (ps ++ [ack]) c.readBufSize
                c.messageHandlers)
            (answersPing (ps ++ [ack]) c.readBufSize)
            w) := by
  cases params with
  | none =>
      exact
        went_openNetwork hStream hLinked hCb hReady hEnc hShort
          hBrings hAccepts hFuel
  | some params =>
      refine Triple.bind
        (M := fun _ =>
          Here (setConnectParams c params) l
            (Ahead rest (streamOf (ps ++ [ack]) ++ ys)))
        (Triple.modify ?_) ?_
      · rintro w ⟨rfl, hLog, hAhead⟩
        exact ⟨rfl, hLog, hAhead⟩
      intro _
      have hReady' : (setConnectParams c params).Ready port :=
        ⟨hReady.free, hReady.room_read, hReady.room_ack⟩
      exact
        went_openNetwork hStream hLinked hCb hReady' hEnc
          hShort hBrings hAccepts hFuel

/- A connect, with any packets before its CONNACK. -/
theorem went_connect
    (hStream : Streaming port .command rest)
    (hLinked : Linked port rest)
    (hCb : ∀ ys, Calm C (Ahead rest ys) callback)
    (hReady : c.Ready port)
    (hValid :
      isClientStateValidForConnect c.clientState = true)
    {packet : Bytes}
    (hEnc :
      serializeConnect c.writeBufSize
          (c.configured params).options =
        some (.ok packet))
    (hShort : packet.length < c.writeBufSize)
    {ps : List Packet}
    {ack : Packet}
    (hBrings : Brings ps ack .connack c.readBufSize)
    (hAccepts : ∃ flags, ack.body = [flags, 0])
    (hFuel : Suffices fuel (ps ++ [ack])) :
    Triple C
      (Here c l
        (Ahead rest (streamOf (ps ++ [ack]) ++ ys)))
      (connect port fuel callback params)
      (fun rc w =>
        rc = .success ∧
          Went (c.accepted params) l (Ahead rest ys)
            (.sent packet ::
              effectsOf (ps ++ [ack]) c.readBufSize
                c.messageHandlers)
            (answersPing (ps ++ [ack]) c.readBufSize)
            w) := by
  apply here_getClientState
  rw [if_neg (not_not.mpr hValid)]
  apply
    (here_setClientState (hStream.lockable hReady) l
      .connecting).bind
  intro rc
  apply Triple.of_fact
  rintro rfl
  have hInner :
      Triple C
        (Here { c with clientState := .connecting }
          (.setState c.clientState .connecting
            c.clientState :: l)
          (Ahead rest (streamOf (ps ++ [ack]) ++ ys)))
        (internalConnect port fuel callback params)
        (fun rc w =>
          rc = .success ∧
            Went
              { c.accepted params with
                clientState := .connecting }
              l (Ahead rest ys)
              (.sent packet ::
                effectsOf (ps ++ [ack]) c.readBufSize
                  c.messageHandlers)
              (answersPing (ps ++ [ack]) c.readBufSize)
              w) := by
    have hSame :
        ({ c with clientState := .connecting } :
            Client).configured params =
          { c.configured params with
            clientState := .connecting } := by
      cases params with
      | none => rfl
      | some _ => rfl
    have hEnc' :
        serializeConnect c.writeBufSize
            (({ c with clientState := .connecting } :
              Client).configured params).options =
          some (.ok packet) := by
      rw [hSame]
      exact hEnc
    refine
      (went_internalConnect hStream hLinked hCb
        (hReady.withState .connecting) hEnc' hShort hBrings
        hAccepts hFuel).post ?_
    intro rc w hEnd
    refine ⟨hEnd.1, ?_⟩
    have hWent := hEnd.2.quiet rfl
    unfold Client.opening at hWent
    rw [hSame] at hWent
    exact hWent
  apply hInner.bind
  intro rc
  apply Triple.of_fact
  rintro rfl
  rw [if_neg (not_not.mpr rfl)]
  apply
    (went_setClientState hStream
      (hReady.accepted params)).bind
  intro rc
  apply Triple.of_fact
  rintro rfl
  exact Triple.ret (fun _ hWent => ⟨rfl, hWent⟩)

end Mqtt

end TrustOnboard

------------------------------------------------------------
-- A Call And Its Answer
------------------------------------------------------------

namespace TrustOnboard

namespace Mqtt

variable {E : Type}
variable {C : Contract (Sys E) Event}
variable {port : Port E}
variable {rest : E → Bytes}
variable {c : Client}
variable {l : List Event}
variable {ys : Bytes}
variable {fuel : Nat}
variable {call : ApiCall}

/-
  What passes for one call: the packet of the client, and the
  packets of the peer up to the answer, if it waits for one.
-/
structure Exchange where
  packet : Bytes
  heard : List Packet

variable {x : Exchange}

/- The client after a call that succeeded. -/
def Client.asked (c : Client) : ApiCall → Client
  | .connect params => c.accepted params
  | .disconnect =>
      { c with clientState := .disconnectedManually }
  | .publish _ _ (some params) =>
      if params.qos = .qos1 then c.published params
      else c
  | .subscribe topic topicLen qos handler data =>
      c.requested.withTable
        (c.messageHandlers.set
          (getFreeMessageHandlerIndex c.messageHandlers)
          { topicName := topic
            topicNameLen := topicLen
            qos := qos
            pApplicationHandler := handler
            pApplicationHandlerData := data })
  | .unsubscribe filter _ =>
      c.requested.withTable
        (removeFilter filter c.messageHandlers)
  | _ => c

/- A connect ends the wait for a ping. -/
def ApiCall.keepsPing : ApiCall → Bool
  | .connect _ => false
  | _ => true

/-
  A call that the client can make, the packet it sends for
  it, and, where it waits, an answer that the peer gives.
-/
inductive Served
    (fuel : Nat)
    (c : Client) : ApiCall → Exchange → Prop where
  | connect
      {params : Option ConnectParams}
      {packet : Bytes}
      {ps : List Packet}
      {ack : Packet}
      (hValid :
        isClientStateValidForConnect c.clientState = true)
      (hEnc :
        serializeConnect c.writeBufSize
            (c.configured params).options =
          some (.ok packet))
      (hShort : packet.length < c.writeBufSize)
      (hBrings : Brings ps ack .connack c.readBufSize)
      (hAccepts : ∃ flags, ack.body = [flags, 0])
      (hFuel : Suffices fuel (ps ++ [ack])) :
      Served fuel c (.connect params) ⟨packet, ps ++ [ack]⟩
  | disconnect
      (hConnected : isClientConnected c.clientState = true)
      (hFuel : 2 ≤ fuel) :
      Served fuel c .disconnect ⟨disconnectPacket, []⟩
  | tell
      {topic : Option CString}
      {topicLen : UInt16}
      {params : PublishParams}
      {packet : Bytes}
      (hIdle :
        c.clientState = .connectedIdle ∨
          c.clientState = .connectedWaitForCbReturn)
      (hTopic : ¬ (topic.isNone = true ∨ topicLen = 0))
      (hQos : params.qos ≠ .qos1)
      (hEnc :
        serializePublish c.writeBufSize 0 params.qos
            params.isRetained params.id topic topicLen
            params.payload =
          some (.ok packet))
      (hShort : packet.length < c.writeBufSize)
      (hFuel : 2 ≤ fuel) :
      Served fuel c (.publish topic topicLen (some params))
        ⟨packet, []⟩
  | publish
      {topic : Option CString}
      {topicLen : UInt16}
      {params : PublishParams}
      {packet : Bytes}
      {ps : List Packet}
      {ack : Packet}
      (hIdle :
        c.clientState = .connectedIdle ∨
          c.clientState = .connectedWaitForCbReturn)
      (hTopic : ¬ (topic.isNone = true ∨ topicLen = 0))
      (hQos : params.qos = .qos1)
      (hEnc :
        serializePublish c.writeBufSize 0 .qos1
            params.isRetained
            (nextPacketIdAfter c.nextPacketId) topic topicLen
            params.payload =
          some (.ok packet))
      (hShort : packet.length < c.writeBufSize)
      (hBrings : Brings ps ack .puback c.readBufSize)
      (hId : 2 ≤ ack.body.length)
      (hFuel : Suffices fuel (ps ++ [ack])) :
      Served fuel c (.publish topic topicLen (some params))
        ⟨packet, ps ++ [ack]⟩
  | subscribe
      {entry : MessageHandlers}
      {packet : Bytes}
      {ps : List Packet}
      {ack : Packet}
      (hIdle :
        c.clientState = .connectedIdle ∨
          c.clientState = .connectedWaitForCbReturn)
      (hEntry :
        ¬ (entry.topicName.isNone = true ∨
          entry.pApplicationHandler.isNone = true))
      (hRoom :
        getFreeMessageHandlerIndex c.messageHandlers <
          c.messageHandlers.length)
      (hEnc :
        serializeSubscribe c.writeBufSize 0
            (nextPacketIdAfter c.nextPacketId)
            [(entry.topicName, entry.topicNameLen,
              entry.qos)] =
          some (.ok packet))
      (hShort : packet.length < c.writeBufSize)
      (hBrings : Brings ps ack .suback c.readBufSize)
      (hCode : ack.body.length = 3)
      (hFuel : Suffices fuel (ps ++ [ack])) :
      Served fuel c
        (.subscribe entry.topicName entry.topicNameLen
          entry.qos entry.pApplicationHandler
          entry.pApplicationHandlerData)
        ⟨packet, ps ++ [ack]⟩
  | unsubscribe
      {filter : Option CString}
      {filterLen : UInt16}
      {packet : Bytes}
      {ps : List Packet}
      {ack : Packet}
      (hIdle :
        c.clientState = .connectedIdle ∨
          c.clientState = .connectedWaitForCbReturn)
      (hHeld :
        c.messageHandlers.any
            (fun slot => slot.holds filter) = true)
      (hEnc :
        serializeUnsubscribe c.writeBufSize 0
            (nextPacketIdAfter c.nextPacketId)
            [(filter, filterLen)] =
          some (.ok packet))
      (hShort : packet.length < c.writeBufSize)
      (hBrings : Brings ps ack .unsuback c.readBufSize)
      (hId : 2 ≤ ack.body.length)
      (hFuel : Suffices fuel (ps ++ [ack])) :
      Served fuel c (.unsubscribe filter filterLen)
        ⟨packet, ps ++ [ack]⟩

/- Buffers and ping do not matter to what is asked. -/
theorem configured_options
    (c : Client)
    (params : Option ConnectParams)
    (readBuf writeBuf : Buffer)
    (ping : Bool) :
    (Client.configured
        { c with
          readBuf := readBuf
          writeBuf := writeBuf
          isPingOutstanding := ping } params).options =
      (c.configured params).options := by
  cases params with
  | none => rfl
  | some _ => rfl

theorem Served.alike
    {c' : Client}
    (hServed : Served fuel c call x)
    (hAlike : Alike c c') :
    Served fuel c' call x := by
  rcases hAlike with ⟨readBuf, writeBuf, ping, rfl⟩
  cases hServed with
  | connect hValid hEnc hShort hBrings hAccepts hFuel =>
      rw [← configured_options c _ readBuf writeBuf ping]
        at hEnc
      exact
        .connect hValid hEnc hShort hBrings hAccepts hFuel
  | disconnect hConnected hFuel =>
      exact .disconnect hConnected hFuel
  | tell hIdle hTopic hQos hEnc hShort hFuel =>
      exact .tell hIdle hTopic hQos hEnc hShort hFuel
  | publish hIdle hTopic hQos hEnc hShort hBrings hId hFuel =>
      exact
        .publish hIdle hTopic hQos hEnc hShort hBrings hId
          hFuel
  | subscribe hIdle hEntry hRoom hEnc hShort hBrings hCode
      hFuel =>
      exact
        .subscribe hIdle hEntry hRoom hEnc hShort hBrings
          hCode hFuel
  | unsubscribe hIdle hHeld hEnc hShort hBrings hId hFuel =>
      exact
        .unsubscribe hIdle hHeld hEnc hShort hBrings hId hFuel

/- What a call comes to, among other packets. -/
theorem went_call
    (hStream : Streaming port .command rest)
    (hLinked : Linked port rest)
    (inWait inYield : ApiCall → Code E IoTError)
    (hReady : c.Ready port)
    (hServed : Served fuel c call x) :
    Triple C
      (Here c l (Ahead rest (streamOf x.heard ++ ys)))
      (apiBody port fuel inWait inYield call)
      (fun rc w =>
        rc = .success ∧
          Went (c.asked call) l (Ahead rest ys)
            (.sent x.packet ::
              effectsOf x.heard c.readBufSize
                c.messageHandlers)
            (answersPing x.heard c.readBufSize) w) := by
  have hCb :
      ∀ ys, Calm C (Ahead rest ys) (runCallback port inWait) :=
    fun _ => hStream.calm inWait
  cases hServed with
  | connect hValid hEnc hShort hBrings hAccepts hFuel =>
      exact
        went_connect hStream hLinked hCb hReady hValid hEnc
          hShort hBrings hAccepts hFuel
  | disconnect hConnected hFuel =>
      exact
        went_disconnect hStream hLinked hReady hConnected
          hFuel
  | @tell topic topicLen params packet hIdle hTopic hQos hEnc
      hShort hFuel =>
      have hSame :
          c.asked (.publish topic topicLen (some params)) =
            c :=
        if_neg hQos
      rw [hSame]
      exact
        went_publish_plain hStream hReady hIdle hTopic hQos
          hEnc hShort hFuel
  | @publish topic topicLen params packet ps ack hIdle hTopic
      hQos hEnc hShort hBrings hId hFuel =>
      have hNext :
          c.asked (.publish topic topicLen (some params)) =
            c.published params :=
        if_pos hQos
      rw [hNext]
      exact
        went_publish hStream hCb hReady hIdle hTopic hQos
          hEnc hShort hBrings hId hFuel
  | subscribe hIdle hEntry hRoom hEnc hShort hBrings hCode
      hFuel =>
      exact
        went_subscribe hStream hCb hReady hIdle hEntry hRoom
          hEnc hShort hBrings hCode hFuel
  | unsubscribe hIdle hHeld hEnc hShort hBrings hId hFuel =>
      exact
        went_unsubscribe hStream hCb hReady hIdle hHeld hEnc
          hShort hBrings hId hFuel

/- The events around a call have no effect. -/
theorem went_api
    {A B : E → Prop}
    {d : Client}
    {out : List Effect}
    {answered : Bool}
    (waiting : Bool)
    (hBody :
      ∀ l,
        Triple C (Here c l A)
          (apiBody port fuel (api port fuel true)
            (api port fuel waiting) call)
          (fun rc w =>
            rc = .success ∧ Went d l B out answered w)) :
    Triple C (Here c l A)
      (api port (fuel + 1) waiting call)
      (fun rc w =>
        rc = .success ∧ Went d l B out answered w) := by
  refine Triple.bind
    (M := fun _ => Here c (.call waiting call :: l) A)
    (Triple.emit ?_) ?_
  · intro w hHere
    exact
      Or.inr
        ⟨hHere.1, congrArg (Event.call waiting call :: ·)
          hHere.2.1, hHere.2.2⟩
  intro _
  apply (hBody _).bind
  intro rc
  apply Triple.of_fact
  rintro rfl
  refine Triple.bind
    (M := fun _ =>
      Went d (.call waiting call :: l) B out answered)
    (Triple.emit ?_) ?_
  · intro w hWent
    exact Or.inr (hWent.later rfl hWent.env rfl rfl)
  intro _
  exact Triple.ret (fun _ hWent => ⟨rfl, hWent.quiet rfl⟩)

end Mqtt

end TrustOnboard

------------------------------------------------------------
-- Sessions
------------------------------------------------------------

namespace TrustOnboard

namespace Mqtt

variable {E : Type}
variable {port : Port E}
variable {rest : E → Bytes}
variable {c : Client}
variable {l : List Event}
variable {ys : Bytes}
variable {fuel : Nat}
variable {calls : List ApiCall}
variable {xs : List Exchange}

/- The client after calls that succeeded. -/
def Client.askedAll
    (c : Client)
    (calls : List ApiCall) : Client :=
  calls.foldl Client.asked c

/- What the peer sends in the exchanges. -/
def heardStream (xs : List Exchange) : Bytes :=
  xs.flatMap (fun x => streamOf x.heard)

/- One of the packets of the peer answers a ping. -/
def heardPing
    (xs : List Exchange)
    (readBufSize : Nat) : Bool :=
  xs.any (fun x => answersPing x.heard readBufSize)

/- Calls in a row, each with its exchange. -/
inductive Conversation (fuel : Nat) :
    Client → List ApiCall → List Exchange → Prop where
  | done
      (c : Client) :
      Conversation fuel c [] []
  | next
      {c : Client}
      {call : ApiCall}
      {calls : List ApiCall}
      {x : Exchange}
      {xs : List Exchange}
      (hServed : Served fuel c call x)
      (hRest : Conversation fuel (c.asked call) calls xs) :
      Conversation fuel c (call :: calls) (x :: xs)

/-
  The effects of the calls, one after the other: each with
  the client that those before it have left.
-/
def conversationEffects :
    Client → List ApiCall → List Exchange → List Effect
  | c, call :: calls, x :: xs =>
      (.sent x.packet ::
          effectsOf x.heard c.readBufSize
            c.messageHandlers) ++
        conversationEffects (c.asked call) calls xs
  | _, _, _ => []

/- What a call makes of buffers and ping. -/
theorem asked_touched
    (c : Client)
    (call : ApiCall)
    (readBuf writeBuf : Buffer)
    (ping : Bool) :
    Client.asked
        { c with
          readBuf := readBuf
          writeBuf := writeBuf
          isPingOutstanding := ping } call =
      { c.asked call with
        readBuf := readBuf
        writeBuf := writeBuf
        isPingOutstanding := ping && call.keepsPing } := by
  cases call with
  | connect params =>
      cases params with
      | none => cases ping <;> rfl
      | some _ => cases ping <;> rfl
  | publish topic topicLen params =>
      cases params with
      | none => cases ping <;> rfl
      | some params =>
          unfold Client.asked
          dsimp only
          split
          · cases ping <;> rfl
          · cases ping <;> rfl
  | _ => cases ping <;> rfl

theorem askedAll_touched
    (calls : List ApiCall) :
    ∀ (c : Client) (readBuf writeBuf : Buffer) (ping : Bool),
      Client.askedAll
          { c with
            readBuf := readBuf
            writeBuf := writeBuf
            isPingOutstanding := ping } calls =
        { c.askedAll calls with
          readBuf := readBuf
          writeBuf := writeBuf
          isPingOutstanding :=
            ping && calls.all ApiCall.keepsPing } := by
  induction calls with
  | nil =>
      intro c readBuf writeBuf ping
      cases ping <;> rfl
  | cons call calls ih =>
      intro c readBuf writeBuf ping
      unfold Client.askedAll at ih ⊢
      rw [List.foldl_cons, List.foldl_cons, asked_touched, ih,
        List.all_cons, Bool.and_assoc]

/- Calls in a row keep the ping, or one of them ends it. -/
theorem askedAll_ping
    (c : Client)
    (calls : List ApiCall) :
    (c.askedAll calls).isPingOutstanding =
      (c.isPingOutstanding &&
        calls.all ApiCall.keepsPing) :=
  congrArg Client.isPingOutstanding
    (askedAll_touched calls c c.readBuf c.writeBuf
      c.isPingOutstanding)

/- Clients that are alike stay so. -/
theorem Alike.asked
    {c' : Client}
    (hAlike : Alike c c')
    (call : ApiCall) :
    Alike (c.asked call) (c'.asked call) := by
  rcases hAlike with ⟨readBuf, writeBuf, ping, rfl⟩
  exact ⟨readBuf, writeBuf, _, asked_touched c call _ _ _⟩

theorem Alike.trans
    {c' c'' : Client}
    (hFirst : Alike c c')
    (hSecond : Alike c' c'') :
    Alike c c'' := by
  rcases hFirst with ⟨_, _, _, rfl⟩
  rcases hSecond with ⟨readBuf, writeBuf, ping, rfl⟩
  exact ⟨readBuf, writeBuf, ping, rfl⟩

/- No call takes a buffer or a mutex away. -/
theorem Client.Ready.asked
    (hReady : c.Ready port)
    (call : ApiCall) :
    (c.asked call).Ready port := by
  cases call with
  | connect params => exact hReady.accepted params
  | publish topic topicLen params =>
      cases params with
      | none => exact hReady
      | some params =>
          unfold Client.asked
          dsimp only
          split
          · exact hReady.published params
          · exact hReady
  | _ =>
      exact ⟨hReady.free, hReady.room_read, hReady.room_ack⟩

theorem asked_readBufSize
    (c : Client)
    (call : ApiCall) :
    (c.asked call).readBufSize = c.readBufSize := by
  cases call with
  | connect params =>
      cases params with
      | none => rfl
      | some _ => rfl
  | publish topic topicLen params =>
      cases params with
      | none => rfl
      | some params =>
          unfold Client.asked
          dsimp only
          split
          · rfl
          · rfl
  | _ => rfl

/- Later calls begin where something went on before. -/
theorem Went.askedAll
    {A B : E → Prop}
    {out out' : List Effect}
    {answered answered' : Bool}
    {w w' : Run E}
    (hFirst : Went c l A out answered w)
    (hSecond :
      Went (w.st.client.askedAll calls) w.log B out' answered'
        w') :
    Went (c.askedAll calls) l B (out ++ out')
      (answered || answered') w' := by
  rcases hFirst.client with ⟨_, _, hFrom⟩
  rcases hSecond.client with ⟨readBuf, writeBuf, hTo⟩
  refine hFirst.changed hSecond ⟨readBuf, writeBuf, ?_⟩
  have hPing :
      ∀ p a k a' : Bool,
        ((p && !a) && k && !a') = (p && k && !(a || a')) := by
    decide
  rw [hTo, hFrom, askedAll_touched]
  dsimp only
  rw [hPing, ← askedAll_ping]

/-
  The calls run one after the other.  The induction is on the
  conversation, from any world with a client like its first.
-/
theorem Conversation.run
    (hStream : Streaming port .command rest)
    (hLinked : Linked port rest)
    (hTalk : Conversation fuel c calls xs) :
    ∀ w : Run E,
      Alike c w.st.client → c.Ready port →
        rest w.st.env = heardStream xs ++ ys →
          ∃ w',
            CallRun port w
              (calls.map (fun call => (call, .success)))
              w' ∧
            Went (w.st.client.askedAll calls) w.log
              (Ahead rest ys)
              (conversationEffects c calls xs)
              (heardPing xs c.readBufSize) w' := by
  induction hTalk with
  | done c =>
      intro w _ _ hAhead
      exact ⟨w, .nil w, Went.refl hAhead⟩
  | @next c call calls x xs hServed _ ih =>
      intro w hAlike hReady hAhead
      have hSplit :
          heardStream (x :: xs) ++ ys =
            streamOf x.heard ++ (heardStream xs ++ ys) := by
        simp [heardStream]
      rw [hSplit] at hAhead
      rcases
          (went_api false (fun _ =>
            went_call hStream hLinked _ _
              (hAlike.ready hReady)
              (hServed.alike hAlike))).returns
            ⟨rfl, rfl, hAhead⟩ with
        ⟨rc, w₁, hCall, rfl, hWent⟩
      have hLike : Alike (c.asked call) w₁.st.client :=
        (hAlike.asked call).trans hWent.alike
      rcases ih w₁ hLike (hReady.asked call) hWent.env with
        ⟨w', hRun, hRest⟩
      rw [hAlike.readBufSize, hAlike.messageHandlers] at hWent
      rw [asked_readBufSize] at hRest
      exact
        ⟨w', .cons (fuel + 1) hCall hRun,
          hWent.askedAll hRest⟩

/-
  A session over one stream: calls in any order the client
  allows, each of which the peer answers, if it waits for an
  answer, with any packets before.  All of them succeed.
  Each sends its packet when its turn comes, and each packet
  of the peer has its effects once, in the order of the
  stream and for the client that the calls before have left.
-/
theorem session_stream
    (port : Port E)
    (rest : E → Bytes)
    (fuel : Nat)
    (calls : List ApiCall)
    (xs : List Exchange)
    (w : Run E)
    (ys : Bytes)
    (hStream : Streaming port .command rest)
    (hLinked : Linked port rest)
    (hReady : w.st.client.Ready port)
    (hTalk : Conversation fuel w.st.client calls xs)
    (hAhead : rest w.st.env = heardStream xs ++ ys) :
    ∃ w',
      CallRun port w
        (calls.map (fun call => (call, .success))) w' ∧
      Went (w.st.client.askedAll calls) w.log
        (Ahead rest ys)
        (conversationEffects w.st.client calls xs)
        (heardPing xs w.st.client.readBufSize) w' :=
  hTalk.run hStream hLinked w ⟨_, _, _, rfl⟩ hReady hAhead

/- A whole session, with one publish of either kind. -/
def wholeCalls : List ApiCall :=
  [.connect none,
    subscribeLetter 65 upperA_ne,
    .publish (some (letter 66 upperB_ne)) 1
      (some ⟨.qos0, 0, 0, some [33], none⟩),
    .publish (some (letter 66 upperB_ne)) 1
      (some ⟨.qos1, 0, 0, some [33], none⟩),
    .unsubscribe (some (letter 65 upperA_ne)) 1,
    .disconnect]

/- A message comes before each of the last two answers. -/
def wholeExchanges : List Exchange :=
  [⟨[16, 12, 0, 4, 77, 81, 84, 84, 4, 2, 0, 60, 0, 0],
      [] ++ [Packet.written 32 [0, 0] (by decide)]⟩,
    ⟨[130, 6, 0, 2, 0, 1, 65, 0], [] ++ [subackOf 2]⟩,
    ⟨[48, 4, 0, 1, 66, 33], []⟩,
    ⟨[50, 6, 0, 1, 66, 0, 3, 33],
      [messageA] ++ [Packet.written 64 [0, 3] (by decide)]⟩,
    ⟨[162, 5, 0, 4, 0, 1, 65],
      [messageA] ++ [Packet.written 176 [0, 4] (by decide)]⟩,
    ⟨disconnectPacket, []⟩]

/- A client that was never connected, with one free slot. -/
def newcomer : Run Bytes :=
  ⟨⟨scriptClient .initialized [freeSlot],
    heardStream wholeExchanges⟩, []⟩

theorem linked_pipePort : Linked pipePort id where
  connect := fun _ => ⟨rfl, rfl⟩
  disconnect := fun _ => rfl
  destroy := fun _ => ⟨rfl, rfl⟩

theorem conversation_whole :
    Conversation 20 newcomer.st.client wholeCalls
      wholeExchanges := by
  have hConnack :
      (Packet.written 32 [0, 0] (by decide)).Answers .connack
        64 :=
    ⟨by unfold Packet.Fits; decide, rfl⟩
  have hSuback : (subackOf 2).Answers .suback 64 :=
    ⟨by unfold Packet.Fits; decide, rfl⟩
  have hPuback :
      (Packet.written 64 [0, 3] (by decide)).Answers .puback
        64 :=
    ⟨by unfold Packet.Fits; decide, rfl⟩
  have hUnsuback :
      (Packet.written 176 [0, 4] (by decide)).Answers
        .unsuback 64 :=
    ⟨by unfold Packet.Fits; decide, rfl⟩
  refine
    .next
      (.connect rfl (by decide) (by decide) ⟨nofun, hConnack⟩
        ⟨0, rfl⟩ ⟨by decide, by decide⟩) ?_
  refine
    .next
      (@Served.subscribe 20 _ (letterSlot 65 upperA_ne) _ _ _
        (Or.inl rfl) (by decide) (by decide) (by decide)
        (by decide) ⟨nofun, hSuback⟩ (by decide)
        ⟨by decide, by decide⟩) ?_
  refine
    .next
      (.tell (Or.inl rfl) (by decide) nofun (by decide)
        (by decide) (by decide)) ?_
  refine
    .next
      (.publish (Or.inl rfl) (by decide) rfl (by decide)
        (by decide) (brings_messageA rfl hPuback) (by decide)
        ⟨by decide, by decide⟩) ?_
  refine
    .next
      (.unsubscribe (Or.inl rfl) (by decide) (by decide)
        (by decide) (brings_messageA rfl hUnsuback)
        (by decide) ⟨by decide, by decide⟩) ?_
  exact .next (.disconnect rfl (by decide)) (.done _)

/- All six succeed, and the slot is free again. -/
theorem session_stream_newcomer :
    ∃ w' es,
      CallRun pipePort newcomer
        (wholeCalls.map (fun call => (call, .success))) w' ∧
      w'.log = es ∧
        effects es =
          conversationEffects newcomer.st.client wholeCalls
            wholeExchanges ∧
        w'.st.client.clientState = .disconnectedManually ∧
        w'.st.client.messageHandlers.map
            MessageHandlers.topicName = [none] := by
  rcases
      session_stream pipePort id 20 wholeCalls wholeExchanges
        newcomer [] (streaming_pipePort .command)
        linked_pipePort (ready_pipeWorld _ _)
        conversation_whole (List.append_nil _).symm with
    ⟨w', hRun, hWent⟩
  rcases hWent.log with ⟨es, hLog, hEffects⟩
  refine ⟨w', es, hRun, ?_, hEffects, ?_, ?_⟩
  · rw [hLog]
    exact List.append_nil _
  · rcases hWent.alike with ⟨_, _, _, hClient⟩
    rw [hClient]
    rfl
  · rw [hWent.alike.messageHandlers]
    rfl

end Mqtt

end TrustOnboard

------------------------------------------------------------
-- Reconnecting
------------------------------------------------------------

namespace TrustOnboard

namespace Mqtt

variable {E : Type}
variable {C : Contract (Sys E) Event}
variable {port : Port E}
variable {callback : Callback E}
variable {rest : E → Bytes}
variable {c : Client}
variable {l : List Event}
variable {ys : Bytes}
variable {fuel : Nat}
variable {legs : List Leg}

/- Buffers and ping do not matter to the legs. -/
theorem Legs.alike
    {slots : List Nat}
    (hLegs : Legs fuel c slots legs) :
    ∀ {c' : Client},
      Alike c c' → Legs fuel c' slots legs := by
  induction hLegs with
  | done c => exact fun _ => .done _
  | next hSlot hEnc hShort hBrings hCode hFuel _ ih =>
      rintro c' ⟨_, _, _, rfl⟩
      exact
        .next hSlot hEnc hShort hBrings hCode hFuel
          (ih ⟨_, _, _, rfl⟩)

/- Requests begin where something went on before. -/
theorem Went.requestedTimes
    {A B : E → Prop}
    {out out' : List Effect}
    {answered answered' : Bool}
    {w w' : Run E}
    {n : Nat}
    (hFirst : Went c l A out answered w)
    (hSecond :
      Went (w.st.client.requestedTimes n) w.log B out'
        answered' w') :
    Went (c.requestedTimes n) l B (out ++ out')
      (answered || answered') w' := by
  rcases hFirst.client with ⟨_, _, hFrom⟩
  rcases hSecond.client with ⟨readBuf, writeBuf, hTo⟩
  refine hFirst.changed hSecond ⟨readBuf, writeBuf, ?_⟩
  rw [hTo, hFrom]
  unfold Client.requestedTimes
  dsimp only
  rw [Bool.not_or, Bool.and_assoc]

theorem not_connected_of_valid
    {s : ClientState}
    (hValid : isClientStateValidForConnect s = true) :
    ¬ isClientConnected s = true := by
  cases s with
  | initialized => exact nofun
  | disconnectedError => exact nofun
  | disconnectedManually => exact nofun
  | pendingReconnect => exact nofun
  | _ => cases hValid

/- An attempt to reconnect, and what it subscribes to again. -/
theorem went_attemptReconnect
    (hStream : Streaming port .command rest)
    (hLinked : Linked port rest)
    (hCb : ∀ ys, Calm C (Ahead rest ys) callback)
    (hReady : c.Ready port)
    (hValid :
      isClientStateValidForConnect c.clientState = true)
    {packet : Bytes}
    (hEnc :
      serializeConnect c.writeBufSize c.options =
        some (.ok packet))
    (hShort : packet.length < c.writeBufSize)
    {ps : List Packet}
    {ack : Packet}
    (hBrings : Brings ps ack .connack c.readBufSize)
    (hAccepts : ∃ flags, ack.body = [flags, 0])
    (hFuel : Suffices fuel (ps ++ [ack]))
    (hLegs :
      Legs fuel (c.accepted none)
        (List.range
          (getFreeMessageHandlerIndex c.messageHandlers))
        legs) :
    Triple C
      (Here c l
        (Ahead rest
          (streamOf (ps ++ [ack]) ++
            (legsStream legs ++ ys))))
      (attemptReconnect port fuel callback)
      (fun rc w =>
        rc = .networkReconnected ∧
          Went ((c.accepted none).requestedTimes legs.length)
            l (Ahead rest ys)
            ((.sent packet ::
                effectsOf (ps ++ [ack]) c.readBufSize
                  c.messageHandlers) ++
              legsEffects legs c.readBufSize
                c.messageHandlers)
            (answersPing (ps ++ [ack]) c.readBufSize ||
              legsAnswerPing legs c.readBufSize) w) := by
  apply here_getClientState
  rw [if_neg (not_connected_of_valid hValid)]
  have hEnc' :
      serializeConnect c.writeBufSize
          (c.configured none).options =
        some (.ok packet) :=
    hEnc
  apply
    (went_connect hStream hLinked hCb hReady hValid hEnc'
      hShort hBrings hAccepts hFuel).bind
  intro rc
  apply Triple.of_fact
  rintro rfl w hWent
  have hAlike := hWent.alike
  have hIdle : w.st.client.clientState = .connectedIdle := by
    rcases hAlike with ⟨_, _, _, hClient⟩
    rw [hClient]
    rfl
  have hTable :
      w.st.client.messageHandlers = c.messageHandlers :=
    hAlike.messageHandlers
  have hSize : w.st.client.readBufSize = c.readBufSize :=
    hAlike.readBufSize
  have hLegs' :
      Legs fuel w.st.client
        (List.range
          (getFreeMessageHandlerIndex
            w.st.client.messageHandlers)) legs := by
    rw [hTable]
    exact hLegs.alike hAlike
  refine
    (here_getClientState ?_) w ⟨rfl, rfl, hWent.env⟩
  rw [if_neg (not_not.mpr hIdle)]
  apply
    (went_resubscribe hStream hCb
      (hAlike.ready (hReady.accepted none)) hIdle
      hLegs').bind
  intro rc
  apply Triple.of_fact
  rintro rfl
  rw [if_neg (not_not.mpr rfl)]
  apply Triple.ret
  intro w' hThere
  rw [hSize, hTable] at hThere
  exact ⟨rfl, hWent.requestedTimes hThere⟩

/-
  An attempt to reconnect over a stream.  Where the peer
  accepts the CONNECT and answers the SUBSCRIBEs, with any
  packets before each answer, it sends the CONNECT of the
  options it has and then one SUBSCRIBE for each occupied
  slot, in their order, and reports to be reconnected; all
  packets of the peer have their effects meanwhile, with the
  table as it was.
-/
theorem reconnect_stream
    (port : Port E)
    (rest : E → Bytes)
    (call : ApiCall → Code E IoTError)
    (fuel : Nat)
    (w : Run E)
    (packet : Bytes)
    (ps : List Packet)
    (ack : Packet)
    (legs : List Leg)
    (ys : Bytes)
    (hStream : Streaming port .command rest)
    (hLinked : Linked port rest)
    (hReady : w.st.client.Ready port)
    (hValid :
      isClientStateValidForConnect w.st.client.clientState =
        true)
    (hEnc :
      serializeConnect w.st.client.writeBufSize
          w.st.client.options =
        some (.ok packet))
    (hShort : packet.length < w.st.client.writeBufSize)
    (hBrings :
      Brings ps ack .connack w.st.client.readBufSize)
    (hAccepts : ∃ flags, ack.body = [flags, 0])
    (hFuel : Suffices fuel (ps ++ [ack]))
    (hLegs :
      Legs fuel (w.st.client.accepted none)
        (List.range
          (getFreeMessageHandlerIndex
            w.st.client.messageHandlers)) legs)
    (hAhead :
      rest w.st.env =
        streamOf (ps ++ [ack]) ++ (legsStream legs ++ ys)) :
    ∃ w',
      (attemptReconnect port fuel
          (runCallback port call)).run w =
        (some .networkReconnected, w') ∧
      Went
        ((w.st.client.accepted none).requestedTimes
          legs.length)
        w.log (Ahead rest ys)
        ((.sent packet ::
            effectsOf (ps ++ [ack]) w.st.client.readBufSize
              w.st.client.messageHandlers) ++
          legsEffects legs w.st.client.readBufSize
            w.st.client.messageHandlers)
        (answersPing (ps ++ [ack]) w.st.client.readBufSize ||
          legsAnswerPing legs w.st.client.readBufSize) w' := by
  rcases
      (went_attemptReconnect hStream hLinked
        (fun _ => hStream.calm call) hReady hValid hEnc hShort
        hBrings hAccepts hFuel hLegs).returns
          ⟨rfl, rfl, hAhead⟩ with
    ⟨rc, w', hRun, rfl, hWent⟩
  exact ⟨w', hRun, hWent⟩

/- A client with two subscriptions that lost its connection. -/
def outOfTouch : Run Bytes :=
  ⟨⟨scriptClient .pendingReconnect twoSlots,
    streamOf [Packet.written 32 [0, 0] (by decide)] ++
      legsStream twoLegs⟩, []⟩

theorem legs_outOfTouch :
    Legs 20 (outOfTouch.st.client.accepted none) [0, 1]
      twoLegs := by
  have hFirst : (subackOf 2).Answers .suback 64 :=
    ⟨by unfold Packet.Fits; decide, rfl⟩
  have hSecond : (subackOf 3).Answers .suback 64 :=
    ⟨by unfold Packet.Fits; decide, rfl⟩
  have hSlotA :
      twoSlots[0]? = some (letterSlot 65 upperA_ne) :=
    rfl
  have hSlotB :
      twoSlots[1]? = some (letterSlot 66 upperB_ne) :=
    rfl
  refine
    .next hSlotA (by decide) (by decide) ⟨nofun, hFirst⟩
      (by decide) ⟨by decide, by decide⟩ ?_
  refine
    .next hSlotB (by decide) (by decide)
      (brings_messageA rfl hSecond) (by decide)
      ⟨by decide, by decide⟩ ?_
  exact .done _

/- Both subscriptions are made again. -/
theorem reconnect_stream_two :
    ∃ w' es,
      (attemptReconnect pipePort 20
          (runCallback pipePort
            (fun _ => pure .success))).run outOfTouch =
        (some .networkReconnected, w') ∧
      w'.log = es ∧
        effects es =
          (.sent [16, 12, 0, 4, 77, 81, 84, 84, 4, 2, 0, 60, 0,
              0] ::
              effectsOf
                [Packet.written 32 [0, 0] (by decide)] 64
                twoSlots) ++
            legsEffects twoLegs 64 twoSlots := by
  have hConnack :
      (Packet.written 32 [0, 0] (by decide)).Answers .connack
        64 :=
    ⟨by unfold Packet.Fits; decide, rfl⟩
  have hAhead :
      id outOfTouch.st.env =
        streamOf ([] ++ [Packet.written 32 [0, 0] (by decide)]) ++
          (legsStream twoLegs ++ []) := by
    rw [List.append_nil]
    rfl
  rcases
      reconnect_stream pipePort id (fun _ => pure .success)
        20 outOfTouch
        [16, 12, 0, 4, 77, 81, 84, 84, 4, 2, 0, 60, 0, 0] []
        (Packet.written 32 [0, 0] (by decide)) twoLegs []
        (streaming_pipePort .command) linked_pipePort
        (ready_pipeWorld _ _) rfl (by decide) (by decide)
        ⟨nofun, hConnack⟩ ⟨0, rfl⟩ ⟨by decide, by decide⟩
        legs_outOfTouch
        hAhead with
    ⟨w', hRun, hWent⟩
  rcases hWent.log with ⟨es, hLog, hEffects⟩
  refine ⟨w', es, hRun, ?_, hEffects⟩
  rw [hLog]
  exact List.append_nil _

end Mqtt

end TrustOnboard
