import TrustOnboard.Mqtt.Quiet
import TrustOnboard.Mqtt.Resubscribe

/-
  How `aws_iot_mqtt_connect` ends.

  A connect that is allowed to start succeeds exactly when
  the network was opened, the CONNECT packet was sent as a
  whole, and the first CONNACK that was read in time accepts.
  Every other connect that returns has torn the network down
  once and leaves the client disconnected.

  Key definitions include:
    * `connackAccepts`
    * `Accepted`
    * `Rejected`

  Key results include:
    * `deserializeConnack_stored`
    * `not_accepted_of_rejected`
    * `connect_outcome`
-/

------------------------------------------------------------
-- Accepting A Connection
------------------------------------------------------------

namespace TrustOnboard

namespace Mqtt

/-
  A CONNACK whose length field is the byte two and whose
  return code is zero.
-/
def connackAccepts : Bytes → Bool
  | header :: length :: _ :: code :: _ =>
      headerType header = MessageType.connack.nibble &&
        length == 2 && code == 0
  | _ => false

/-
  The events of an exchange that succeeds, the newest first:
  the CONNECT packet for the options of the client was sent,
  and a cycle begun when the command timer had not run out
  read the first CONNACK, which accepts.
-/
def Granted
    (c : Client)
    (es : List Event) : Prop :=
  ∃ request connack reads older before,
    serializeConnect c.writeBufSize c.options =
        some (.ok request) ∧
      connackAccepts connack = true ∧
        es =
          .rxPacket connack ::
            (reads ++ .timerChecked .command false ::
              (older ++ .txPacket request :: before)) ∧
          (∀ e ∈ reads,
            e.isReceive = true ∧ e.isPacketRead = false) ∧
            packetsRead .connack older = [] ∧
              packetsRead .connack before = []

/- The network was opened, and then the exchange granted. -/
def Accepted
    (c : Client)
    (es : List Event) : Prop :=
  ∃ newer exchange first,
    Granted c exchange ∧
      es =
        newer ++
          (exchange ++ .netConnect .success :: first) ∧
        packetsRead .connack first = []

/-
  The ways an exchange can fail: nothing was sent, no CONNACK
  was read, or the only one does not accept.
-/
inductive Unaccepted (es : List Event) : Prop where
  | unsent (h : ∀ packet, .txPacket packet ∉ es)
  | silent (h : packetsRead .connack es = [])
  | denied
      (packet : Bytes)
      (h : packetsRead .connack es = [packet])
      (hDenied : connackAccepts packet = false)

/- The network was not opened, or the exchange failed. -/
def Rejected (es : List Event) : Prop :=
  .netConnect .success ∉ es ∨ Unaccepted es

/- Events a connect adds around its exchange. -/
def Event.isFrame : Event → Bool
  | .call _ _ => true
  | .ret _ _ _ => true
  | .setState _ _ _ => true
  | .netDisconnect => true
  | .netDestroy _ _ _ => true
  | _ => false

/- The type of an accepting CONNACK. -/
theorem packetType_of_connackAccepts
    {packet : Bytes}
    (hAccepts : connackAccepts packet = true) :
    packetType packet = MessageType.connack.nibble := by
  unfold connackAccepts at hAccepts
  split at hAccepts
  · simp only [Bool.and_eq_true, decide_eq_true_eq]
      at hAccepts
    exact hAccepts.1.1
  · cases hAccepts

/- A granted exchange reads one CONNACK. -/
theorem Granted.packetsRead
    {c : Client}
    {es : List Event}
    (hGranted : Granted c es) :
    (∃ request, .txPacket request ∈ es) ∧
      ∃ connack,
        connackAccepts connack = true ∧
          Mqtt.packetsRead .connack es = [connack] := by
  rcases hGranted with
    ⟨request, connack, reads, older, before, _, hAccepts,
      rfl, hReads, hOlder, hBefore⟩
  refine ⟨⟨request, by simp⟩, connack, hAccepts, ?_⟩
  have hNone :=
    packetsRead_of_none .connack
      (fun e he => (hReads e he).2)
  simp [packetsRead_append, Mqtt.packetsRead, hNone, hOlder,
    hBefore, packetType_of_connackAccepts hAccepts]

/- What is rejected is not accepted. -/
theorem not_accepted_of_rejected
    {c : Client}
    {es : List Event}
    (hRejected : Rejected es) :
    ¬ Accepted c es := by
  rintro ⟨newer, exchange, first, hGranted, rfl, hFirst⟩
  rcases hGranted.packetsRead with
    ⟨⟨request, hSent⟩, connack, hAccepts, hOne⟩
  have hLast :
      packetsRead .connack
          (newer ++
            (exchange ++ .netConnect .success :: first)) =
        packetsRead .connack newer ++ [connack] := by
    simp [packetsRead_append, packetsRead, hOne, hFirst]
  rcases hRejected with hRefused | hFailed
  · exact hRefused (by simp)
  cases hFailed with
  | unsent h => exact h request (by simp [hSent])
  | silent h =>
      rw [hLast] at h
      simp at h
  | denied packet h hDenied =>
      rw [hLast] at h
      have hEnd := congrArg List.getLast? h
      simp only [List.getLast?_append, List.getLast?_singleton,
        Option.some_or, Option.some.injEq] at hEnd
      rw [← hEnd, hAccepts] at hDenied
      cases hDenied

theorem packetsRead_of_isFrame
    {es : List Event}
    (hFrame : ∀ e ∈ es, e.isFrame = true) :
    packetsRead .connack es = [] := by
  refine packetsRead_of_none .connack ?_
  intro e he
  have hKind := hFrame e he
  cases e <;> first | rfl | cases hKind

theorem Accepted.around
    {c : Client}
    {es : List Event}
    (newer older : List Event)
    (hOlder : ∀ e ∈ older, e.isFrame = true)
    (hAccepted : Accepted c es) :
    Accepted c (newer ++ es ++ older) := by
  rcases hAccepted with
    ⟨newer', exchange, first, hGranted, rfl, hFirst⟩
  refine
    ⟨newer ++ newer', exchange, first ++ older, hGranted,
      by simp, ?_⟩
  rw [packetsRead_append, hFirst, List.nil_append]
  exact packetsRead_of_isFrame hOlder

/- Events that neither open, send nor read change nothing. -/
theorem Rejected.around
    {es : List Event}
    (newer older : List Event)
    (hNewer : ∀ e ∈ newer, e.isFrame = true)
    (hOlder : ∀ e ∈ older, e.isFrame = true)
    (hRejected : Rejected es) :
    Rejected (newer ++ es ++ older) := by
  have hMem :
      ∀ e, Event.isFrame e = false →
        e ∈ newer ++ es ++ older → e ∈ es := by
    intro e hOther he
    rcases List.mem_append.mp he with he | he
    · rcases List.mem_append.mp he with he | he
      · rw [hNewer e he] at hOther
        cases hOther
      · exact he
    · rw [hOlder e he] at hOther
      cases hOther
  have hRead :
      packetsRead .connack (newer ++ es ++ older) =
        packetsRead .connack es := by
    rw [packetsRead_append, packetsRead_append,
      packetsRead_of_isFrame hNewer,
      packetsRead_of_isFrame hOlder, List.nil_append,
      List.append_nil]
  rcases hRejected with hRefused | hFailed
  · exact Or.inl (fun he => hRefused (hMem _ rfl he))
  refine Or.inr ?_
  cases hFailed with
  | unsent h =>
      exact .unsent (fun packet he => h packet (hMem _ rfl he))
  | silent h => exact .silent (hRead.trans h)
  | denied packet h hDenied =>
      exact .denied packet (hRead.trans h) hDenied

end Mqtt

end TrustOnboard

------------------------------------------------------------
-- Decoding A CONNACK
------------------------------------------------------------

namespace TrustOnboard

namespace Mqtt

/- The length two is encoded by one byte. -/
theorem lengthField_two
    {body : Bytes}
    (hLength : body.length % 2 ^ 32 = 2) :
    lengthField body = [2] := by
  have hSame : UInt32.ofNat body.length = 2 := by
    rw [← UInt32.toNat_inj, UInt32.toNat_ofNat', hLength]
    rfl
  unfold lengthField
  rw [hSame]
  rfl

/- No other length has an encoding that begins with two. -/
theorem length_of_lengthField
    {body rest : Bytes}
    (hField : lengthField body = 2 :: rest) :
    body.length % 2 ^ 32 = 2 := by
  have hValue :=
    writeLenToBuffer_base128 (UInt32.ofNat body.length)
  rw [UInt32.toNat_ofNat'] at hValue
  unfold lengthField at hField
  rw [hField] at hValue
  generalize body.length % 2 ^ 32 = n at hValue
  cases hValue with
  | last _ _ => rfl
  | more _ _ _ hMore _ => exact absurd rfl hMore

theorem connackCode_accepted
    (code : UInt8) :
    connackCode code = .mqttConnackConnectionAccepted ↔
      code = 0 := by
  unfold connackCode
  split
  · simp_all
  · split
    · simp_all
    · split
      · simp_all
      · split
        · simp_all
        · split
          · simp_all
          · split
            · simp_all
            · simp_all

/-
  The decoder accepts the CONNACK in the receive buffer
  exactly when it is an accepting one.
-/
theorem deserializeConnack_stored
    {buf : Buffer}
    {header : UInt8}
    {body : Bytes}
    {size : Nat}
    (hSize : 4 ≤ size)
    (hHeader :
      headerType header = MessageType.connack.nibble)
    (hStored : Stored buf header body) :
    deserializeConnack buf size =
        .ok .mqttConnackConnectionAccepted ↔
      connackAccepts
        (header :: (lengthField body ++ body)) = true := by
  unfold deserializeConnack
  rw [if_neg (Nat.not_lt.mpr hSize), hStored.header,
    if_neg (not_not.mpr hHeader), hStored.decode]
  by_cases hTwo : body.length % 2 ^ 32 = 2
  · have hField := lengthField_two hTwo
    have hLong : 1 < body.length := by
      have := Nat.mod_le body.length (2 ^ 32)
      omega
    have hByte := hStored.body_apply hLong
    have hStart : bodyStart body = 2 := by
      unfold bodyStart
      rw [hField]
      rfl
    rw [hStart] at hByte
    rw [hField, if_pos (by decide)]
    dsimp only
    rw [if_neg (not_not.mpr hTwo)]
    rcases body with _ | ⟨flags, _ | ⟨code, rest⟩⟩
    · cases hLong
    · simp at hLong
    · have hCode :
          buf (1 + [(2 : UInt8)].length + 1) = code := by
        simpa using hByte
      rw [hCode]
      simp [connackAccepts, hHeader, connackCode_accepted]
  · constructor
    · intro hOk
      split at hOk
      · cases hOk
      · rename_i decodedLen readBytesLen hDecode
        split at hDecode
        · cases hDecode
          rw [if_pos hTwo] at hOk
          cases hOk
        · cases hDecode
    · intro hAccepts
      exfalso
      cases hField : lengthField body with
      | nil =>
          have hPos :=
            (writeLenToBuffer_base128
              (UInt32.ofNat body.length)).length_pos
          unfold lengthField at hField
          rw [hField] at hPos
          cases hPos
      | cons length rest =>
          rw [hField, List.cons_append] at hAccepts
          have hLength : length = 2 := by
            unfold connackAccepts at hAccepts
            split at hAccepts
            · rename_i hEq
              simp only [List.cons.injEq] at hEq
              simp only [Bool.and_eq_true, beq_iff_eq]
                at hAccepts
              rw [hEq.2.1]
              exact hAccepts.1.2
            · cases hAccepts
          subst hLength
          exact hTwo (length_of_lengthField hField)

end Mqtt

end TrustOnboard

------------------------------------------------------------
-- The Exchange
------------------------------------------------------------

namespace TrustOnboard

namespace Mqtt

variable {E : Type}
variable {port : Port E}
variable {callback : Callback E}

/- The code of a CONNACK is never plain success. -/
theorem deserializeConnack_ne_success
    (buf : Buffer)
    (size : Nat) :
    deserializeConnack buf size ≠ .ok .success ∧
      deserializeConnack buf size ≠ .error .success := by
  unfold deserializeConnack
  split
  · exact ⟨nofun, nofun⟩
  split
  · exact ⟨nofun, nofun⟩
  split
  · rename_i rc hDecode
    rw [decodeLenRounds_error hDecode]
    exact ⟨nofun, nofun⟩
  split
  · exact ⟨nofun, nofun⟩
  · refine ⟨?_, nofun⟩
    intro hNo
    have hCode := Except.ok.inj hNo
    unfold connackCode at hCode
    split at hCode
    · cases hCode
    · split at hCode
      · cases hCode
      · split at hCode
        · cases hCode
        · split at hCode
          · cases hCode
          · split at hCode
            · cases hCode
            · split at hCode
              · cases hCode
              · cases hCode

/- The settings a connect depends on are the same. -/
structure SameSetup (c c' : Client) : Prop where
  clientState : c'.clientState = c.clientState
  options : c'.options = c.options
  writeBufSize : c'.writeBufSize = c.writeBufSize
  readBufSize : c'.readBufSize = c.readBufSize

theorem SameSetup.trans
    {c c' c'' : Client}
    (hFirst : SameSetup c c')
    (hSecond : SameSetup c' c'') :
    SameSetup c c'' :=
  ⟨hSecond.clientState.trans hFirst.clientState,
    hSecond.options.trans hFirst.options,
    hSecond.writeBufSize.trans hFirst.writeBufSize,
    hSecond.readBufSize.trans hFirst.readBufSize⟩

theorem Touched.sameSetup
    {c c' : Client}
    (hTouched : Touched c c') :
    SameSetup c c' := by
  rcases hTouched with ⟨_, _, _, _, rfl⟩
  exact ⟨rfl, rfl, rfl, rfl⟩

/- How the exchange of CONNECT and CONNACK ends. -/
structure Exchanged
    (c : Client)
    (l : List Event)
    (rc : IoTError)
    (w : Run E) : Prop where
  setup : SameSetup c w.st.client
  events :
    ∃ es,
      w.log = es ++ l ∧
        (∀ e ∈ es, e.isTraffic = true) ∧
          ((rc = .success ∧
              w.st.client.isPingOutstanding = false ∧
                Granted c es) ∨
            (rc ≠ .success ∧ Unaccepted es))

theorem isTraffic_of_isOutput
    {e : Event}
    (hOutput : e.isOutput = true) :
    e.isTraffic = true :=
  (isAnswer_of_isOutput hOutput).1

/- The wait for the CONNACK and what follows it. -/
def awaitConnack
    (port : Port E)
    (fuel : Nat)
    (callback : Callback E) : Code E IoTError := do
  let rc ← waitForRead port fuel callback .connack .command
  if rc ≠ .success then
    pure rc
  else do
    let c ← getClient
    match deserializeConnack c.readBuf c.readBufSize with
    | .error rc => pure rc
    | .ok connackRc =>
        if connackRc ≠ .mqttConnackConnectionAccepted then
          pure connackRc
        else do
          modifyClient (fun c =>
            { c with isPingOutstanding := false })
          let c ← getClient
          countdown port .ping
            (c.keepAliveInterval.toNat * 1000)
          pure .success

theorem awaitConnack_exchanged
    (hSingle : port.threadSupport = false)
    (hCb :
      Calm (Contract.plain (Sys E) Event) (fun _ => True)
        callback)
    (fuel : Nat)
    {c c' : Client}
    {l before : List Event}
    {request : Bytes}
    (hSize : 4 ≤ c.readBufSize)
    (hSetup : SameSetup c c')
    (hEnc :
      serializeConnect c.writeBufSize c.options =
        some (.ok request))
    (hAll : ∀ e ∈ before, Event.isOutput e = true) :
    Triple (Contract.plain (Sys E) Event)
      (fun w : Run E =>
        w.st.client = c' ∧
          w.log = .txPacket request :: (before ++ l))
      (awaitConnack port fuel callback)
      (Exchanged c l) := by
  have hBefore : packetsRead .connack before = [] :=
    packetsRead_of_none .connack
      (fun e he => (isAnswer_of_isOutput (hAll e he)).2)
  have hTraffic :
      ∀ es : List Event, (∀ e ∈ es, e.isTraffic = true) →
        ∀ e ∈ es ++ .txPacket request :: before,
          e.isTraffic = true := by
    intro es hEs e he
    rcases List.mem_append.mp he with he | he
    · exact hEs e he
    rcases List.mem_cons.mp he with rfl | he
    · rfl
    · exact isTraffic_of_isOutput (hAll e he)
  refine
    (waitForRead_outcome hSingle hCb rfl fuel .command c'
      _).bind ?_
  intro rc
  refine Triple.ite ?_ ?_
  · -- no CONNACK was read
    intro hRc
    refine Triple.ret ?_
    rintro w (⟨_, hTouched, es, hLog, hNone, hEs⟩ | ⟨hNo, _⟩)
    · refine
        ⟨hSetup.trans hTouched.sameSetup,
          es ++ .txPacket request :: before, ?_,
          hTraffic es hEs, Or.inr ⟨hRc, .silent ?_⟩⟩
      · rw [hLog, List.append_assoc, List.cons_append]
      · rw [packetsRead_append, hNone, List.nil_append,
          packetsRead_cons (fun _ hNo => by cases hNo),
          hBefore]
    · exact absurd hNo hRc
  intro _
  refine Triple.bind
    (M := fun (cl : Client) w =>
      cl = w.st.client ∧
        WaitEnded .connack .command c'
          (.txPacket request :: (before ++ l)) w) ?_ ?_
  · refine Triple.read ?_
    rintro w (⟨hNo, _⟩ | ⟨_, hEnd⟩)
    · exact absurd (not_not.mp ‹_›) hNo
    · exact ⟨rfl, hEnd⟩
  rintro cl w ⟨rfl, hTouched, hPacket⟩
  rcases hPacket with
    ⟨header, body, reads, es, hHeader, hStored, hLog, hReads,
      hNone, hEs⟩
  have hSame : SameSetup c w.st.client :=
    hSetup.trans hTouched.sameSetup
  have hWide : 4 ≤ w.st.client.readBufSize := by
    rw [hSame.readBufSize]
    exact hSize
  have hIff := deserializeConnack_stored hWide hHeader hStored
  -- the events since the CONNECT, with the CONNACK on top
  let connack := header :: (lengthField body ++ body)
  let since :=
    .rxPacket connack ::
      (reads ++ .timerChecked .command false ::
        (es ++ .txPacket request :: before))
  have hSince : w.log = since ++ l := by
    rw [hLog]
    simp [since, connack]
  have hEvents : ∀ e ∈ since, e.isTraffic = true := by
    intro e he
    rcases List.mem_cons.mp he with rfl | he
    · rfl
    rcases List.mem_append.mp he with he | he
    · exact isTraffic_of_isReceive (hReads e he).1
    rcases List.mem_cons.mp he with rfl | he
    · rfl
    · exact hTraffic es hEs e he
  have hOne : packetsRead .connack since = [connack] := by
    have hQuiet :=
      packetsRead_of_none .connack
        (fun e he => (hReads e he).2)
    have hType :
        packetType connack = MessageType.connack.nibble :=
      hHeader
    simp [since, packetsRead_append, packetsRead, hQuiet,
      hNone, hBefore, hType]
  have hDenied :
      ∀ rc, rc ≠ .success →
        deserializeConnack w.st.client.readBuf
            w.st.client.readBufSize ≠
          .ok .mqttConnackConnectionAccepted →
          Exchanged c l rc w := by
    intro rc hRc hNot
    refine
      ⟨hSame, since, hSince, hEvents,
        Or.inr ⟨hRc, .denied connack hOne ?_⟩⟩
    cases hAccepts : connackAccepts connack with
    | false => rfl
    | true => exact absurd (hIff.mpr hAccepts) hNot
  have hPlain :=
    deserializeConnack_ne_success w.st.client.readBuf
      w.st.client.readBufSize
  cases hDecode :
      deserializeConnack w.st.client.readBuf
        w.st.client.readBufSize with
  | error rc =>
      rw [hDecode] at hDenied hPlain
      refine Or.inr (hDenied rc ?_ (fun hNo => by cases hNo))
      rintro rfl
      exact hPlain.2 rfl
  | ok connackRc =>
      rw [hDecode] at hDenied hPlain hIff
      by_cases hCode :
          connackRc = .mqttConnackConnectionAccepted
      · subst hCode
        refine
          Or.inr
            ⟨⟨hSame.clientState, hSame.options,
              hSame.writeBufSize, hSame.readBufSize⟩,
              since, hSince, hEvents, Or.inl ⟨rfl, rfl, ?_⟩⟩
        exact
          ⟨request, connack, reads, es, before, hEnc,
            hIff.mp rfl, rfl, hReads, hNone, hBefore⟩
      · dsimp only
        rw [if_pos hCode]
        refine Or.inr (hDenied connackRc ?_ ?_)
        · rintro rfl
          exact hPlain.1 rfl
        · intro hEq
          exact hCode (Except.ok.inj hEq)

theorem connectExchange_exchanged
    (hSingle : port.threadSupport = false)
    (hCb :
      Calm (Contract.plain (Sys E) Event) (fun _ => True)
        callback)
    (fuel : Nat)
    (c : Client)
    (l : List Event)
    (hSize : 4 ≤ c.readBufSize) :
    Triple (Contract.plain (Sys E) Event)
      (fun w : Run E => w.st.client = c ∧ w.log = l)
      (connectExchange port fuel callback)
      (Exchanged c l) := by
  refine Triple.seq
    (Triple.seq (Triple.read (fun _ h => h))
      (fun _ => Triple.modify (fun _ h => h))) ?_
  intro _
  refine Triple.bind
    (M := fun _ w =>
      w.st.client =
          { c with
            keepAliveInterval :=
              c.options.keepAliveIntervalInSec } ∧
        w.log = l)
    (Triple.modify ?_) ?_
  · rintro w ⟨rfl, rfl⟩
    exact ⟨rfl, rfl⟩
  intro _
  refine
    (sendSerialized_outcome failsWithError_connect fuel
      .command _ l).bind ?_
  intro rc
  have hSetup :
      SameSetup c
        { c with
          keepAliveInterval :=
            c.options.keepAliveIntervalInSec } :=
    ⟨rfl, rfl, rfl, rfl⟩
  refine Triple.ite ?_ ?_
  · -- nothing was sent
    intro hRc
    refine Triple.ret ?_
    rintro w ⟨hResent, es, hAll, hEnd⟩
    rcases hEnd with ⟨_, hLog⟩ | ⟨hNo, _⟩
    · refine
        ⟨hSetup.trans (touched_of_resent hResent).sameSetup,
          es, hLog,
          fun e he => isTraffic_of_isOutput (hAll e he),
          Or.inr ⟨hRc, .unsent ?_⟩⟩
      intro packet hMem
      cases hAll _ hMem
    · exact absurd hNo hRc
  intro hRc
  rintro w ⟨hResent, before, hAll, hEnd⟩
  rcases hEnd with ⟨hNo, _⟩ | ⟨_, request, hEnc, hLog⟩
  · exact absurd hNo hRc
  have hSent : SameSetup c w.st.client :=
    hSetup.trans (touched_of_resent hResent).sameSetup
  exact
    awaitConnack_exchanged hSingle hCb fuel hSize hSent hEnc
      hAll w ⟨rfl, hLog⟩

end Mqtt

end TrustOnboard

------------------------------------------------------------
-- The Call
------------------------------------------------------------

namespace TrustOnboard

namespace Mqtt

variable {E : Type}
variable {port : Port E}
variable {callback : Callback E}

/- The calls of the network layer. -/
def Event.isNetwork : Event → Bool
  | .netConnect _ => true
  | .netRead _ _ _ _ => true
  | .netWrite _ _ _ => true
  | .netDisconnect => true
  | .netDestroy _ _ _ => true
  | _ => false

/- The call of `networkStack.disconnect`. -/
def Event.isNetDisconnect : Event → Bool
  | .netDisconnect => true
  | _ => false

/- The call of `networkStack.destroy`. -/
def Event.isNetDestroy : Event → Bool
  | .netDestroy _ _ _ => true
  | _ => false

/- The events that stand around the attempt. -/
def Event.isBracket : Event → Bool
  | .call _ _ => true
  | .ret _ _ _ => true
  | .setState _ _ _ => true
  | _ => false

/- How the attempt to open a connection ends. -/
structure Tried
    (s : ClientState)
    (l : List Event)
    (rc : IoTError)
    (w : Run E) : Prop where
  state : w.st.client.clientState = s
  events :
    ∃ es,
      w.log = es ++ l ∧
        es.countP Event.isNetDisconnect = 0 ∧
          es.countP Event.isNetDestroy = 0 ∧
            ((rc = .success ∧
                w.st.client.isPingOutstanding = false ∧
                  Accepted w.st.client es) ∨
              (rc ≠ .success ∧ Rejected es))

theorem isTraffic_of_isNetDisconnect
    {e : Event}
    (hYes : e.isNetDisconnect = true) :
    e.isTraffic = false ∧ e.isBracket = false := by
  cases e <;> first | exact ⟨rfl, rfl⟩ | cases hYes

theorem isTraffic_of_isNetDestroy
    {e : Event}
    (hYes : e.isNetDestroy = true) :
    e.isTraffic = false ∧ e.isBracket = false := by
  cases e <;> first | exact ⟨rfl, rfl⟩ | cases hYes

theorem countP_of_isTraffic
    {es : List Event}
    (hTraffic : ∀ e ∈ es, e.isTraffic = true) :
    es.countP Event.isNetDisconnect = 0 ∧
      es.countP Event.isNetDestroy = 0 := by
  rw [List.countP_eq_zero, List.countP_eq_zero]
  constructor
  · intro e he hYes
    have hKind := hTraffic e he
    rw [(isTraffic_of_isNetDisconnect hYes).1] at hKind
    cases hKind
  · intro e he hYes
    have hKind := hTraffic e he
    rw [(isTraffic_of_isNetDestroy hYes).1] at hKind
    cases hKind

/- Opening the network, then the exchange. -/
theorem openThenExchange_tried
    (hSingle : port.threadSupport = false)
    (hCb :
      Calm (Contract.plain (Sys E) Event) (fun _ => True)
        callback)
    (fuel : Nat)
    (c : Client)
    (l : List Event)
    (hSize : 4 ≤ c.readBufSize) :
    Triple (Contract.plain (Sys E) Event)
      (fun w : Run E => w.st.client = c ∧ w.log = l)
      (do
        let rc ← netConnect port
        if rc ≠ .success then pure rc
        else connectExchange port fuel callback)
      (Tried c.clientState l) := by
  refine Triple.bind
    (M := fun rc w =>
      w.st.client = c ∧ w.log = .netConnect rc :: l)
    (Triple.step ?_) ?_
  · rintro w ⟨rfl, rfl⟩
    exact Or.inr ⟨rfl, rfl⟩
  intro rc
  refine Triple.ite ?_ ?_
  · intro hRc
    refine Triple.ret ?_
    rintro w ⟨rfl, hLog⟩
    refine
      ⟨rfl, [.netConnect rc], hLog, rfl, rfl,
        Or.inr ⟨hRc, Or.inl ?_⟩⟩
    intro hMem
    cases List.mem_singleton.mp hMem
    exact hRc rfl
  intro hRc
  have hYes : rc = .success := not_not.mp hRc
  subst hYes
  refine
    (connectExchange_exchanged hSingle hCb fuel c _
      hSize).post ?_
  rintro rc w ⟨hSetup, es, hLog, hTraffic, hEnd⟩
  rcases countP_of_isTraffic hTraffic with ⟨hNo, hNo'⟩
  refine
    ⟨hSetup.clientState, es ++ [.netConnect .success], ?_, ?_,
      ?_, ?_⟩
  · rw [hLog, List.append_assoc]
    rfl
  · rw [List.countP_append, hNo]
    rfl
  · rw [List.countP_append, hNo']
    rfl
  rcases hEnd with ⟨rfl, hPing, hGranted⟩ | ⟨hFail, hFailed⟩
  · refine Or.inl ⟨rfl, hPing, [], es, [], ?_, rfl, rfl⟩
    unfold Granted
    rw [hSetup.writeBufSize, hSetup.options]
    exact hGranted
  · refine Or.inr ⟨hFail, Or.inr ?_⟩
    cases hFailed with
    | unsent h =>
        refine .unsent ?_
        intro packet hMem
        rcases List.mem_append.mp hMem with hMem | hMem
        · exact h packet hMem
        · cases List.mem_singleton.mp hMem
    | silent h =>
        refine .silent ?_
        rw [packetsRead_append, h]
        rfl
    | denied packet h hDenied =>
        refine .denied packet ?_ hDenied
        rw [packetsRead_append, h]
        rfl

theorem internalConnect_tried
    (hSingle : port.threadSupport = false)
    (hCb :
      Calm (Contract.plain (Sys E) Event) (fun _ => True)
        callback)
    (fuel : Nat)
    (params : Option ConnectParams)
    (c : Client)
    (l : List Event)
    (hSize : 4 ≤ c.readBufSize) :
    Triple (Contract.plain (Sys E) Event)
      (fun w : Run E => w.st.client = c ∧ w.log = l)
      (internalConnect port fuel callback params)
      (Tried c.clientState l) := by
  cases params with
  | none =>
      exact openThenExchange_tried hSingle hCb fuel c l hSize
  | some params =>
      refine Triple.bind
        (M := fun _ w =>
          w.st.client = setConnectParams c params ∧
            w.log = l)
        (Triple.modify ?_) ?_
      · rintro w ⟨rfl, rfl⟩
        exact ⟨rfl, rfl⟩
      intro _
      exact
        openThenExchange_tried hSingle hCb fuel
          (setConnectParams c params) l hSize

/- The states a connect may start from. -/
def connectStarts : List ClientState :=
  [.initialized, .disconnectedError, .disconnectedManually,
    .pendingReconnect]

theorem valid_iff_connectStarts
    (s : ClientState) :
    isClientStateValidForConnect s = true ↔
      s ∈ connectStarts := by
  cases s <;> decide

/- How a connect that may start ends. -/
def Connected
    (l : List Event)
    (rc : IoTError)
    (w : Run E) : Prop :=
  ∃ es,
    w.log = es ++ l ∧
      ((rc = .success ∧
          w.st.client.clientState = .connectedIdle ∧
            w.st.client.isPingOutstanding = false ∧
              Accepted w.st.client es) ∨
        (rc ≠ .success ∧
          w.st.client.clientState = .disconnectedError ∧
            es.countP Event.isNetDisconnect = 1 ∧
              es.countP Event.isNetDestroy = 1 ∧
                Rejected es))

theorem isFrame_of_isBracket
    {es : List Event}
    (hBracket : ∀ e ∈ es, e.isBracket = true) :
    (∀ e ∈ es, e.isFrame = true) ∧
      es.countP Event.isNetDisconnect = 0 ∧
        es.countP Event.isNetDestroy = 0 := by
  rw [List.countP_eq_zero, List.countP_eq_zero]
  refine ⟨?_, ?_, ?_⟩
  · intro e he
    have hKind := hBracket e he
    cases e <;> first | rfl | cases hKind
  · intro e he hYes
    have hKind := hBracket e he
    rw [(isTraffic_of_isNetDisconnect hYes).2] at hKind
    cases hKind
  · intro e he hYes
    have hKind := hBracket e he
    rw [(isTraffic_of_isNetDestroy hYes).2] at hKind
    cases hKind

/- The end of a connect with what stands around it. -/
theorem Connected.around
    {l : List Event}
    {rc : IoTError}
    {w w' : Run E}
    (newer older : List Event)
    (hNewer : ∀ e ∈ newer, e.isBracket = true)
    (hOlder : ∀ e ∈ older, e.isBracket = true)
    (hEnd : Connected (older ++ l) rc w)
    (hClient : w'.st.client = w.st.client)
    (hLog : w'.log = newer ++ w.log) :
    Connected l rc w' := by
  rcases isFrame_of_isBracket hNewer with
    ⟨hNewer, hNone, hNone'⟩
  rcases isFrame_of_isBracket hOlder with
    ⟨hOlder, hNo, hNo'⟩
  rcases hEnd with ⟨es, hEs, hEnd⟩
  refine ⟨newer ++ es ++ older, ?_, ?_⟩
  · rw [hLog, hEs]
    simp
  rw [hClient]
  rcases hEnd with
    ⟨hRc, hState, hPing, hAccepted⟩ |
      ⟨hRc, hState, hOne, hOne', hRejected⟩
  · exact
      Or.inl
        ⟨hRc, hState, hPing,
          hAccepted.around newer older hOlder⟩
  · refine Or.inr ⟨hRc, hState, ?_, ?_, ?_⟩
    · simp only [List.countP_append, hNone, hOne, hNo]
    · simp only [List.countP_append, hNone', hOne', hNo']
    · exact hRejected.around newer older hNewer hOlder

/- The end of a connect whose attempt failed. -/
theorem connectFailed_connected
    (hSingle : port.threadSupport = false)
    {rc : IoTError}
    (hRc : rc ≠ .success)
    (l : List Event) :
    Triple (Contract.plain (Sys E) Event)
      (Tried .connecting l rc)
      (do
        netDisconnect port
        let _ ← netDestroy port .connect
        let _ ←
          setClientState port .connecting .disconnectedError
        pure rc)
      (Connected l) := by
  rintro w ⟨hState, es, hLog, hNone, hNone', hEnd⟩
  have hRejected : Rejected es := by
    rcases hEnd with ⟨hNo, _⟩ | ⟨_, hRejected⟩
    · exact absurd hNo hRc
    · exact hRejected
  rw [setClientState_single hSingle]
  right
  simp only [netDisconnect, netDestroy, compareAndSetState,
    Prog.run_bind, Prog.run_step, hState, if_true]
  refine
    ⟨.setState .connecting .disconnectedError .connecting ::
      .netDestroy .connect
          (port.netDestroy
            (port.netDisconnect w.st.env)).1 .connecting ::
        .netDisconnect :: es, ?_, Or.inr ⟨hRc, rfl, ?_, ?_, ?_⟩⟩
  · simp [hLog]
  · simp [List.countP_cons, Event.isNetDisconnect, hNone]
  · simp [List.countP_cons, Event.isNetDestroy, hNone']
  · have hAround :=
      hRejected.around
        [.setState .connecting .disconnectedError
            .connecting,
          .netDestroy .connect
            (port.netDestroy
              (port.netDisconnect w.st.env)).1
            .connecting,
          .netDisconnect] [] ?_ noEvents
    · simpa using hAround
    · intro e he
      simp only [List.mem_cons, List.not_mem_nil, or_false]
        at he
      rcases he with rfl | rfl | rfl
      · rfl
      · rfl
      · rfl

/- A connect from a state it may start from. -/
theorem connect_connected
    (hSingle : port.threadSupport = false)
    (hCb :
      Calm (Contract.plain (Sys E) Event) (fun _ => True)
        callback)
    (fuel : Nat)
    (params : Option ConnectParams)
    (c : Client)
    (l : List Event)
    (hStart : c.clientState ∈ connectStarts)
    (hSize : 4 ≤ c.readBufSize) :
    Triple (Contract.plain (Sys E) Event)
      (fun w : Run E => w.st.client = c ∧ w.log = l)
      (connect port fuel callback params)
      (Connected l) := by
  have hValid := (valid_iff_connectStarts _).mpr hStart
  refine Triple.bind
    (M := fun s w =>
      s = c.clientState ∧ Here c l (fun _ => True) w)
    (Triple.read ?_) ?_
  · rintro w ⟨rfl, rfl⟩
    exact ⟨rfl, rfl, rfl, trivial⟩
  intro s
  refine Triple.of_fact ?_
  rintro rfl
  refine Triple.ite (fun hNo => absurd hValid hNo) ?_
  intro _
  refine
    (here_setClientState (lockable_of_single hSingle _ c) l
      .connecting).bind ?_
  intro rc
  refine Triple.of_fact ?_
  intro _
  refine
    ((internalConnect_tried hSingle hCb fuel params
      { c with clientState := .connecting } _ hSize).pre
        (fun w h => ⟨h.1, h.2.1⟩)).bind ?_
  intro rc
  have hBracket :
      ∀ e ∈ [Event.setState c.clientState .connecting
          c.clientState], e.isBracket = true := by
    intro e he
    rw [List.mem_singleton.mp he]
    rfl
  refine Triple.ite ?_ ?_
  · intro hRc
    refine (connectFailed_connected hSingle hRc _).post ?_
    intro rc w hEnd
    exact hEnd.around [] _ noEvents hBracket rfl rfl
  · intro hRc
    rintro w ⟨hState, es, hLog, _, _, hEnd⟩
    rcases hEnd with ⟨rfl, hPing, hAccepted⟩ | ⟨hNo, _⟩
    · change w.st.client.clientState = .connecting at hState
      rw [setClientState_single hSingle]
      right
      simp only [compareAndSetState, Prog.run_bind,
        Prog.run_step, hState, if_true]
      refine
        ⟨.setState .connecting .connectedIdle .connecting ::
          (es ++ [.setState c.clientState .connecting
            c.clientState]), by simp [hLog],
          Or.inl ⟨rfl, rfl, hPing, ?_⟩⟩
      change Accepted w.st.client _
      simpa using
        hAccepted.around
          [.setState .connecting .connectedIdle .connecting]
          _ (isFrame_of_isBracket hBracket).1
    · exact absurd hNo hRc

theorem api_connect_connected
    (hSingle : port.threadSupport = false)
    (hQuiet : QuietCallbacks port)
    (fuel : Nat)
    (params : Option ConnectParams)
    {w w' : Run E}
    {rc : IoTError}
    (hStart : w.st.client.clientState ∈ connectStarts)
    (hSize : 4 ≤ w.st.client.readBufSize)
    (hRun :
      (api port fuel false (.connect params)).run w =
        (some rc, w')) :
    Connected w.log rc w' := by
  cases fuel with
  | zero => cases hRun
  | succ fuel =>
      have hTriple :
          Triple (Contract.plain (Sys E) Event)
            (fun w₀ : Run E =>
              w₀.st.client = w.st.client ∧ w₀.log = w.log)
            (api port (fuel + 1) false (.connect params))
            (Connected w.log) := by
        refine Triple.bind
          (M := fun _ w₀ =>
            w₀.st.client = w.st.client ∧
              w₀.log = .call false (.connect params) :: w.log)
          (Triple.emit ?_) ?_
        · rintro w₀ ⟨hClient, hLog⟩
          exact Or.inr ⟨hClient, congrArg _ hLog⟩
        intro _
        refine
          (connect_connected hSingle
            (calm_runCallback hQuiet (fun _ _ _ _ h => h) _)
            fuel params w.st.client _ hStart hSize).bind ?_
        intro rc
        refine Triple.bind (M := fun _ => Connected w.log rc)
          (Triple.emit ?_) (fun _ => Triple.same)
        intro w₁ hEnd
        refine
          Or.inr
            (hEnd.around
              [.ret (.connect params) rc
                w₁.st.client.messageHandlers]
              [.call false (.connect params)] ?_ ?_ rfl rfl)
        · intro e he
          rw [List.mem_singleton.mp he]
          rfl
        · intro e he
          rw [List.mem_singleton.mp he]
          rfl
      rcases hTriple.of_run ⟨rfl, rfl⟩ hRun with hNo | hEnd
      · exact hNo.elim
      · exact hEnd

/-
  How a call of `aws_iot_mqtt_connect` ends.  Where it may
  not start it does nothing.  Elsewhere it succeeds exactly
  when the connection was accepted, and tears the network
  down once when it fails.  With such callbacks no cycle ever
  returns the code that would end its wait early.
-/
theorem connect_outcome
    (port : Port E)
    (hSingle : port.threadSupport = false)
    (hQuiet : QuietCallbacks port) :
    (∀ fuel params (w : Run E),
      w.st.client.clientState ∉ connectStarts →
      ∃ es w',
        (api port (fuel + 1) false (.connect params)).run w =
            (some .networkAlreadyConnectedError, w') ∧
          w'.st.client = w.st.client ∧
            w'.log = es ++ w.log ∧
              ∀ e ∈ es, Event.isNetwork e = false) ∧
    (∀ fuel params (w w' : Run E) rc,
      w.st.client.clientState ∈ connectStarts →
      4 ≤ w.st.client.readBufSize →
      (api port fuel false (.connect params)).run w =
        (some rc, w') →
      ∃ es,
        w'.log = es ++ w.log ∧
        (rc = .success ↔ Accepted w'.st.client es) ∧
        (rc = .success →
          w'.st.client.clientState = .connectedIdle ∧
            w'.st.client.isPingOutstanding = false) ∧
        (rc ≠ .success →
          w'.st.client.clientState = .disconnectedError ∧
            es.countP Event.isNetDisconnect = 1 ∧
              es.countP Event.isNetDestroy = 1)) ∧
    (∀ fuel call timer,
      Triple (Contract.plain (Sys E) Event) (fun _ => True)
        (cycleRead port fuel (runCallback port call) timer)
        (fun r _ => r.1 ≠ .networkDisconnectedError)) := by
  refine ⟨?_, ?_, ?_⟩
  · intro fuel params w hStart
    have hInvalid :
        isClientStateValidForConnect
          w.st.client.clientState = false := by
      rw [← Bool.not_eq_true, valid_iff_connectStarts]
      exact hStart
    refine
      ⟨[.ret (.connect params)
          .networkAlreadyConnectedError
          w.st.client.messageHandlers,
        .call false (.connect params)],
        ⟨w.st,
          .ret (.connect params)
              .networkAlreadyConnectedError
              w.st.client.messageHandlers ::
            .call false (.connect params) :: w.log⟩,
        ?_, rfl, rfl, ?_⟩
    · simp only [api, record, logReturn, apiBody, connect,
        getClientState, Prog.emit, Prog.read,
        Prog.run_bind, Prog.run_step, hInvalid]
      rfl
    · intro e he
      simp only [List.mem_cons, List.not_mem_nil, or_false]
        at he
      rcases he with rfl | rfl
      · rfl
      · rfl
  · intro fuel params w w' rc hStart hSize hRun
    have hEnd :=
      api_connect_connected hSingle hQuiet fuel params
        hStart hSize hRun
    rcases hEnd with ⟨es, hLog, hEnd⟩
    refine ⟨es, hLog, ?_⟩
    rcases hEnd with
      ⟨hRc, hState, hPing, hAccepted⟩ |
        ⟨hRc, hState, hOne, hOne', hRejected⟩
    · exact
        ⟨⟨fun _ => hAccepted, fun _ => hRc⟩,
          fun _ => ⟨hState, hPing⟩,
          fun hNo => absurd hRc hNo⟩
    · refine
        ⟨⟨fun hYes => absurd hYes hRc, fun hYes => ?_⟩,
          fun hYes => absurd hYes hRc,
          fun _ => ⟨hState, hOne, hOne'⟩⟩
      exact absurd hYes (not_accepted_of_rejected hRejected)
  · intro fuel call timer
    exact
      (cycleRead_common hSingle fuel timer).post
        (fun _ _ hCommon => hCommon.1.1)

/-
  A client that connects while a message arrives before the
  CONNACK.
-/
def connackArrives : Run Script :=
  scriptStart
    (scriptClient .initialized [letterSlot 84 upperT_ne])
    { Script.idle with
      incoming := [some (publishPacket 84 ++ connackPacket)]
      timers := List.replicate 3 false }

theorem connect_outcome_connackArrives :
    ∃ w' es,
      (api quietPort 6 false (.connect none)).run
          connackArrives = (some .success, w') ∧
        w'.log = es ∧
          Accepted w'.st.client es ∧
            w'.st.client.clientState = .connectedIdle := by
  have hRun :=
    Prog.run_of_returns (a := IoTError.success)
      (p := api quietPort 6 false (.connect none))
      (w := connackArrives) (by decide +kernel)
  rcases
    (connect_outcome quietPort rfl (fun _ _ _ _ => rfl)).2.1
      6 none connackArrives _ _ (by decide) (by decide)
      hRun with
    ⟨es, hLog, hIff, hDone, _⟩
  refine ⟨_, es, hRun, ?_, hIff.mp rfl, (hDone rfl).1⟩
  rw [hLog]
  exact List.append_nil es

end Mqtt

end TrustOnboard
