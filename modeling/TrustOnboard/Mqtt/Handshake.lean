import TrustOnboard.Mqtt.ConnectPacket
import TrustOnboard.Mqtt.Steady
import TrustOnboard.Mqtt.Script

/-
  The CONNECT packets of a run.

  After a call of connect with parameters every CONNECT
  packet is made from these, until parameters are given
  again.  The packets decode to the parameters of the caller
  only when the password says the same as the user name,
  because the client takes the one for the other.

  Key definitions include:
    * `connectsSent`
    * `Event.configures`
    * `Carried`

  Key results include:
    * `connectContents_stored`
    * `introduces_steady`
    * `connect_carries_iff`
-/

------------------------------------------------------------
-- Stored Parameters
------------------------------------------------------------

namespace TrustOnboard

namespace Mqtt

/- The options a client has after it was given parameters. -/
def storedParams (params : ConnectParams) : ConnectParams :=
  { params with pPassword := params.pUsername }

/-
  The password and the user name are both absent, or both
  present with the same bytes up to the password's length;
  and the will has a quality of service that MQTT knows.
-/
structure Carried (params : ConnectParams) : Prop where
  present :
    params.pPassword.isSome = params.pUsername.isSome
  same :
    params.pPassword.isSome = true →
      copied params.pPassword params.passwordLen =
        copied params.pUsername params.passwordLen
  will :
    params.isWillMsgPresent = true → params.will.qos ≠ .qos3

instance (params : ConnectParams) :
    Decidable (Carried params) :=
  decidable_of_iff
    (params.pPassword.isSome = params.pUsername.isSome ∧
      (params.pPassword.isSome = true →
        copied params.pPassword params.passwordLen =
          copied params.pUsername params.passwordLen) ∧
      (params.isWillMsgPresent = true →
        params.will.qos ≠ .qos3))
    ⟨fun h => ⟨h.1, h.2.1, h.2.2⟩,
      fun h => ⟨h.present, h.same, h.will⟩⟩

/- Stored parameters never have a password alone. -/
theorem isValid_stored
    (params : ConnectParams) :
    (ConnectFlags.ofParams (storedParams params)).isValid =
        true ↔
      (params.isWillMsgPresent = true →
        params.will.qos ≠ .qos3) := by
  unfold ConnectFlags.isValid ConnectFlags.ofParams
    storedParams
  cases params.isWillMsgPresent <;>
    cases params.pUsername.isSome <;>
    cases params.will.qos <;>
    simp

/- Only the password can get lost. -/
theorem connectContents_stored
    (params : ConnectParams) :
    connectContents (storedParams params) =
        connectContents params ↔
      params.pPassword.isSome = params.pUsername.isSome ∧
        (params.pPassword.isSome = true →
          copied params.pPassword params.passwordLen =
            copied params.pUsername params.passwordLen) := by
  have hPassword :
      connectContents (storedParams params) =
          connectContents params ↔
        (connectContents (storedParams params)).password =
          (connectContents params).password := by
    constructor
    · intro hSame
      rw [hSame]
    · intro hSame
      unfold connectContents storedParams at *
      simpa using hSame
  rw [hPassword]
  unfold connectContents storedParams
  cases params.pUsername.isSome <;>
    cases params.pPassword.isSome <;>
    simp [eq_comm]

/-
  A packet made from stored parameters decodes to those of
  the caller exactly when they are carried.
-/
theorem decodeConnect_stored_iff
    {txBufLen : Nat}
    {params : ConnectParams}
    {packet : Bytes}
    (hEnc :
      serializeConnect txBufLen (storedParams params) =
        some (.ok packet)) :
    decodeConnect packet = some (connectContents params) ↔
      Carried params := by
  rw [decodeConnect_serialized hEnc]
  constructor
  · intro hDecoded
    split at hDecoded
    · rename_i hFlags
      have hSame := Option.some.inj hDecoded
      rcases (connectContents_stored params).mp hSame with
        ⟨hPresent, hBytes⟩
      exact
        ⟨hPresent, hBytes, (isValid_stored params).mp hFlags⟩
    · cases hDecoded
  · intro hCarried
    rw [if_pos ((isValid_stored params).mpr hCarried.will)]
    exact
      congrArg some
        ((connectContents_stored params).mpr
          ⟨hCarried.present, hCarried.same⟩)

/- The options determine the packet. -/
theorem serializeConnect_unique
    {n m : Nat}
    {o : ConnectParams}
    {left right : Bytes}
    (hLeft : serializeConnect n o = some (.ok left))
    (hRight : serializeConnect m o = some (.ok right)) :
    left = right := by
  rcases serializeConnect_ok hLeft with
    ⟨_, _, body, hBody, rfl⟩
  rcases serializeConnect_ok hRight with
    ⟨_, _, body', hBody', rfl⟩
  rw [hBody] at hBody'
  cases hBody'
  rfl

end Mqtt

end TrustOnboard

------------------------------------------------------------
-- Packets Of A Run
------------------------------------------------------------

namespace TrustOnboard

namespace Mqtt

/- A CONNECT packet that was sent. -/
def Event.connectSent : Event → Option Bytes
  | .txPacket packet =>
      if packetType packet = MessageType.connect.nibble then
        some packet
      else
        none
  | _ => none

/- The CONNECT packets of a run, the newest first. -/
def connectsSent (l : List Event) : List Bytes :=
  l.filterMap Event.connectSent

/- The events that give the client new options. -/
def Event.configures : Event → Bool
  | .call _ (.connect (some _)) => true
  | .init => true
  | _ => false

/- How often the client was given options. -/
def configurations (l : List Event) : Nat :=
  l.countP Event.configures

/- Every CONNECT packet is made from the same options. -/
def MadeFrom (o : ConnectParams) (l : List Event) : Prop :=
  ∀ packet ∈ connectsSent l,
    ∃ n, serializeConnect n o = some (.ok packet)

theorem connectsSent_append
    (es l : List Event) :
    connectsSent (es ++ l) =
      connectsSent es ++ connectsSent l :=
  List.filterMap_append

/- Events that send no packet leave the list alone. -/
theorem connectsSent_of_none
    {es : List Event}
    (hNone : ∀ e ∈ es, e.connectSent = none)
    (l : List Event) :
    connectsSent (es ++ l) = connectsSent l := by
  rw [connectsSent_append]
  have hEmpty : connectsSent es = [] :=
    List.filterMap_eq_nil_iff.mpr hNone
  rw [hEmpty, List.nil_append]

theorem configurations_append
    (es l : List Event) :
    configurations (es ++ l) =
      configurations es + configurations l :=
  List.countP_append

theorem madeFrom_append
    {o : ConnectParams}
    {es l : List Event}
    (hNone : ∀ e ∈ es, e.connectSent = none)
    (hMade : MadeFrom o l) :
    MadeFrom o (es ++ l) := by
  intro packet hPacket
  rw [connectsSent_of_none hNone] at hPacket
  exact hMade packet hPacket

/- One more packet of a run. -/
theorem madeFrom_sent
    {o : ConnectParams}
    {packet : Bytes}
    {l : List Event}
    (hPacket :
      packetType packet = MessageType.connect.nibble →
        ∃ n, serializeConnect n o = some (.ok packet))
    (hMade : MadeFrom o l) :
    MadeFrom o (.txPacket packet :: l) := by
  intro other hOther
  by_cases hType :
      packetType packet = MessageType.connect.nibble
  · have hList :
        connectsSent (.txPacket packet :: l) =
          packet :: connectsSent l := by
      simp [connectsSent, Event.connectSent, hType]
    rw [hList] at hOther
    rcases List.mem_cons.mp hOther with rfl | hOther
    · exact hPacket hType
    · exact hMade other hOther
  · have hList :
        connectsSent (.txPacket packet :: l) =
          connectsSent l := by
      simp [connectsSent, Event.connectSent, hType]
    rw [hList] at hOther
    exact hMade other hOther

end Mqtt

end TrustOnboard

------------------------------------------------------------
-- Runs After Connect
------------------------------------------------------------

namespace TrustOnboard

namespace Mqtt

variable {E : Type}
variable {port : Port E}
variable {o : ConnectParams}

/-
  Runs are followed until options are given a second time,
  also when they never return.
-/
def configuredOnce
    (E : Type)
    (o : ConnectParams) : Contract (Sys E) Event where
  excused := fun l => 2 ≤ configurations l
  excused_append := by
    intro l es hTwice
    rw [configurations_append]
    omega
  halted := fun w => MadeFrom o w.log

/- The client was given the options and uses them. -/
structure Introduces
    (o : ConnectParams)
    (w : Run E) : Prop where
  options : w.st.client.options = o
  configured : 1 ≤ configurations w.log
  made : MadeFrom o w.log

theorem connectSent_of_aside
    {e : Event}
    (hAside : e.aside = true) :
    e.connectSent = none := by
  cases e <;>
    simp_all [Event.aside, Event.connectSent]

theorem connectSent_of_isOutput
    {e : Event}
    (hOutput : e.isOutput = true) :
    e.connectSent = none := by
  cases e <;>
    simp_all [Event.isOutput, Event.connectSent]

theorem connectSent_of_isReceive
    {e : Event}
    (hReceive : e.isReceive = true) :
    e.connectSent = none := by
  cases e <;>
    simp_all [Event.isReceive, Event.isInput,
      Event.connectSent]

/- Steps that send no CONNECT. -/
theorem Introduces.append
    {s s' : Sys E}
    {es l : List Event}
    (hOptions : s'.client.options = s.client.options)
    (hNone : ∀ e ∈ es, e.connectSent = none)
    (hIntro : Introduces o ⟨s, l⟩) :
    Introduces o ⟨s', es ++ l⟩ where
  options := hOptions.trans hIntro.options
  configured := by
    have hOnce : 1 ≤ configurations l := hIntro.configured
    change 1 ≤ configurations (es ++ l)
    rw [configurations_append]
    omega
  made := madeFrom_append hNone hIntro.made

theorem introduces_aside :
    KeptAside (configuredOnce E o) (Introduces o) where
  halt := fun _ hIntro => hIntro.made
  aside := fun _ _ _ _ hAside hIntro =>
    hIntro.append hAside.options
      (fun e he => connectSent_of_aside (hAside.events e he))

/- A packet is sent, and it is no CONNECT of other options. -/
theorem introduces_send
    {r : Client → Serialized}
    (hType :
      ∀ c packet, r c = some (.ok packet) →
        packetType packet = MessageType.connect.nibble →
          serializeConnect c.writeBufSize c.options =
            some (.ok packet))
    (fuel n : Nat)
    (timer : TimerName) :
    Triple (configuredOnce E o)
      (fun w => Ready r n w.st.client ∧ Introduces o w)
      (sendPacket port fuel n timer)
      (fun _ => Introduces o) := by
  refine sendPacket_steps ?_ ?_ ?_ ?_ fuel
  · exact fun _ hPre => hPre.2.made
  · intro s s' es l hSends hPre
    refine ⟨hPre.1.sends hSends, ?_⟩
    rcases hSends with ⟨⟨locked, hClient⟩, hOutput⟩
    refine hPre.2.append (by rw [hClient]) ?_
    exact
      fun e he =>
        connectSent_of_isOutput
          (isOutput_of_isOutputOf (hOutput e he))
  · intro w hPre
    rcases hPre with ⟨⟨c, hEnc, hOptions⟩, hIntro⟩
    refine ⟨hIntro.options, ?_, ?_⟩
    · have hOnce := hIntro.configured
      change 1 ≤ configurations ([.txPacket _] ++ w.log)
      rw [configurations_append]
      omega
    · refine madeFrom_sent ?_ hIntro.made
      intro hConnect
      have hMade := hType c _ hEnc hConnect
      rw [hOptions, hIntro.options] at hMade
      exact ⟨_, hMade⟩
  · exact fun _ _ _ hPre => hPre.2

/- A PUBACK is no CONNECT. -/
theorem introduces_ack
    (fuel : Nat)
    (timer : TimerName)
    (id : UInt16) :
    Keeps (configuredOnce E o) (Introduces o)
      (sendSerialized port fuel timer (fun c =>
        serializeAck c.writeBufSize .puback 0 id)) := by
  refine (introduces_aside.states.serialize_ready _).bind ?_
  intro encoded
  cases encoded with
  | error rc => exact Triple.pure (fun _ h => h.2)
  | ok n =>
      refine introduces_send ?_ fuel n timer
      intro c packet hEnc hConnect
      rw [packetType_puback hEnc] at hConnect
      cases hConnect

theorem introduces_request
    (r : Client → Serialized)
    (hRequest : Request r ∨ r = pingRequest)
    (fuel n : Nat) :
    Triple (configuredOnce E o)
      (fun w => Ready r n w.st.client ∧ Introduces o w)
      (sendPacket port fuel n .command)
      (fun _ => Introduces o) := by
  refine introduces_send ?_ fuel n .command
  intro c packet hEnc
  rcases hRequest with hRequest | rfl
  · exact (hRequest.packetType hEnc).2.2
  · rw [packetType_zero hEnc]
    exact fun hNo => by cases hNo

theorem introduces_steady :
    Steady port (configuredOnce E o) (Introduces o) := by
  refine
    introduces_aside.steady introduces_request ?_ ?_
  · intro call hCall fuel timer
    refine
      introduces_aside.cycleRead ?_ ?_
        (introduces_ack fuel timer)
    · intro s s' es l hReceives hIntro
      rcases hReceives with ⟨⟨readBuf, hClient⟩, hReceive⟩
      refine hIntro.append (by rw [hClient]) ?_
      exact
        fun e he => connectSent_of_isReceive (hReceive e he)
    · intro handler data msg
      exact
        (introduces_aside.states.platform
          (port.onMessage handler data msg)).seq
          (introduces_aside.states.eachCall hCall)
  · intro s l waiting c hIntro
    cases hConf : (Event.call waiting c).configures with
    | true =>
        left
        have hOnce : 1 ≤ configurations l :=
          hIntro.configured
        change 2 ≤ configurations (.call waiting c :: l)
        simp only [configurations, List.countP_cons, hConf]
        simp only [configurations] at hOnce
        simp only [if_true]
        omega
    | false =>
        right
        have hNone :
            ∀ e ∈ [Event.call waiting c],
              e.connectSent = none := by
          intro e he
          rw [List.mem_singleton.mp he]
          rfl
        refine ⟨hIntro.append rfl hNone, ?_⟩
        rintro _ rfl params rfl
        cases hConf

/- A client that has not yet been given its options. -/
def Unintroduced (w : Run E) : Prop :=
  1 ≤ configurations w.log ∧ connectsSent w.log = []

theorem unintroduced_aside :
    KeptAside (configuredOnce E o) Unintroduced where
  halt := by
    intro w hFresh packet hPacket
    rw [hFresh.2] at hPacket
    cases hPacket
  aside := by
    intro s s' es l hAside hFresh
    have hOnce : 1 ≤ configurations l := hFresh.1
    have hNone : connectsSent l = [] := hFresh.2
    constructor
    · change 1 ≤ configurations (es ++ l)
      rw [configurations_append]
      omega
    · change connectsSent (es ++ l) = []
      rw [connectsSent_of_none (fun e he =>
        connectSent_of_aside (hAside.events e he))]
      exact hNone

/- The first call gives the client its options. -/
theorem connect_introduces
    (fuel : Nat)
    {call : ApiCall → Code E IoTError}
    (hCall :
      ∀ c, Keeps (configuredOnce E o) (Introduces o)
        (call c))
    (params : ConnectParams)
    (hStored : storedParams params = o) :
    Triple (configuredOnce E o)
      (fun w =>
        isClientStateValidForConnect
            w.st.client.clientState = true ∧
          Unintroduced w)
      (connect port fuel (runCallback port call)
        (some params))
      (fun _ => Introduces o) := by
  have hI :
      Steady port (configuredOnce E o) (Introduces o) :=
    introduces_steady
  refine Triple.bind
    (M := fun clientState w =>
      isClientStateValidForConnect clientState = true ∧
        Unintroduced w)
    (Triple.read (fun _ h => h)) ?_
  intro clientState
  refine Triple.of_fact ?_
  intro hValid
  refine Triple.ite (fun hNo => absurd hValid hNo) ?_
  intro _
  refine
    (unintroduced_aside.states.setClientState _
      trivial).bind ?_
  intro _
  have hInner :
      Triple (configuredOnce E o) Unintroduced
        (internalConnect port fuel (runCallback port call)
          (some params))
        (fun _ => Introduces o) := by
    change Triple _ _
      (modifyClient _ >>= fun _ =>
        internalConnect port fuel _ none) _
    refine Triple.bind (M := fun _ => Introduces o) ?_
      (fun _ =>
        introduces_aside.internalConnect hI.send
          (fun fuel => hI.cycle call hCall fuel .command)
          fuel)
    refine Triple.modify ?_
    intro w hFresh
    refine ⟨hStored, hFresh.1, ?_⟩
    intro packet hPacket
    have hNone : connectsSent w.log = [] := hFresh.2
    change packet ∈ connectsSent w.log at hPacket
    rw [hNone] at hPacket
    cases hPacket
  exact
    hInner.bind
      (fun rc => hI.finishConnect trivial trivial rc)

/- Later calls send the same packet or end the account. -/
theorem topCall_introduces
    (fuel : Nat)
    (c : TopCall) :
    Keeps (configuredOnce E o) (Introduces o)
      (topCall port fuel c) := by
  cases c with
  | api c =>
      exact
        (introduces_steady.api fuel false c).seq
          (fun _ => Triple.same)
  | init params =>
      refine Triple.seq ?_ (fun _ => Triple.same)
      cases params with
      | none => exact Triple.same
      | some p =>
          refine
            Triple.ite (fun _ => Triple.same) (fun _ => ?_)
          refine Triple.bind
            (M := fun _ w =>
              (configuredOnce E o).excused w.log) ?_
            (fun _ => Triple.of_excused (fun _ h => h))
          refine Triple.emit ?_
          intro w hIntro
          have hOnce : 1 ≤ configurations w.log :=
            hIntro.configured
          left
          change 2 ≤ configurations ([.init] ++ w.log)
          rw [configurations_append]
          change 2 ≤ 1 + configurations w.log
          omega

/-
  The application connects with some parameters, and nobody
  gives others later on.
-/
theorem session_introduces
    (port : Port E)
    (fuel : Nat)
    (params : ConnectParams)
    (later : List TopCall) :
    Triple (configuredOnce E (storedParams params))
      (fun w =>
        isClientStateValidForConnect
            w.st.client.clientState = true ∧
          w.log = [])
      (session port fuel
        (.api (.connect (some params)) :: later))
      (fun _ => Introduces (storedParams params)) := by
  refine Triple.bind
    (M := fun _ => Introduces (storedParams params)) ?_
    (fun _ =>
      Triple.each (fun c _ => topCall_introduces fuel c))
  refine Triple.bind
    (M := fun _ => Introduces (storedParams params)) ?_
    (fun _ => Triple.same)
  cases fuel with
  | zero =>
      refine Triple.stop ?_
      rintro w ⟨_, hEmpty⟩ packet hPacket
      rw [hEmpty] at hPacket
      cases hPacket
  | succ fuel =>
      refine Triple.bind
        (M := fun _ w =>
          isClientStateValidForConnect
              w.st.client.clientState = true ∧
            Unintroduced w) ?_ ?_
      · refine Triple.emit ?_
        rintro w ⟨hValid, hEmpty⟩
        right
        rw [hEmpty]
        exact ⟨hValid, Nat.le_refl 1, rfl⟩
      · intro _
        refine
          (connect_introduces fuel
            (introduces_steady.api fuel true) params
            rfl).bind ?_
        intro rc
        exact
          (introduces_aside.states.emit (fun _ => rfl)).seq
            (fun _ => Triple.same)

/-
  All CONNECT packets of the run are the same packet, and it
  decodes to the parameters of the caller exactly when these
  are carried.
-/
theorem connect_carries_iff
    (port : Port E)
    (fuel : Nat)
    (params : ConnectParams)
    (later : List TopCall)
    (s : Sys E)
    (r : Option Unit)
    (w' : Run E)
    (hValid :
      isClientStateValidForConnect s.client.clientState =
        true)
    (hRun :
      (session port fuel
          (.api (.connect (some params)) :: later)).run
        ⟨s, []⟩ = (r, w'))
    (hOnce : configurations w'.log = 1) :
    ∀ packet ∈ connectsSent w'.log,
      (decodeConnect packet =
          some (connectContents params) ↔
        Carried params) ∧
        ∀ other ∈ connectsSent w'.log, other = packet := by
  have hMeets :=
    session_introduces port fuel params later
      ⟨s, []⟩ ⟨hValid, rfl⟩
  rw [hRun] at hMeets
  have hMade : MadeFrom (storedParams params) w'.log := by
    rcases hMeets with hTwice | hMeets
    · have hTwice : 2 ≤ configurations w'.log := hTwice
      omega
    · cases r with
      | none => exact hMeets
      | some _ => exact hMeets.made
  intro packet hPacket
  rcases hMade packet hPacket with ⟨n, hEnc⟩
  refine ⟨decodeConnect_stored_iff hEnc, ?_⟩
  intro other hOther
  rcases hMade other hOther with ⟨m, hOther⟩
  exact serializeConnect_unique hOther hEnc

/- A client that is answered twice by the broker. -/
def answeredTwice : Run Script :=
  scriptStart (scriptClient .initialized [freeSlot])
    { Script.idle with
      incoming := [some connackPacket, some connackPacket]
      timers := List.replicate 6 false }

/- Parameters with a will. -/
def willParams : ConnectParams :=
  { ConnectParams.initializer with
    pClientID := some [99]
    clientIDLen := 1
    isWillMsgPresent := true
    will :=
      { pTopicName := some [119]
        topicNameLen := 1
        pMessage := some [98]
        msgLen := 1
        isRetained := true
        qos := .qos1 } }

/- Parameters with a user name and a password. -/
def loginParams : ConnectParams :=
  { ConnectParams.initializer with
    pUsername := some [117]
    usernameLen := 1
    pPassword := some [112]
    passwordLen := 1 }

/- Connect, disconnect and connect again. -/
def connectTwice (params : ConnectParams) : List TopCall :=
  [.api (.connect (some params)), .api .disconnect,
    .api .attemptReconnect]

/- The packet of the first. -/
def willPacket : Bytes :=
  [16, 19, 0, 4, 77, 81, 84, 84, 4, 46, 0, 60, 0, 1, 99,
    0, 1, 119, 0, 1, 98]

theorem connect_carries_iff_will :
    ∃ w',
      (session scriptPort 6 (connectTwice willParams)).run
          answeredTwice = (some (), w') ∧
        connectsSent w'.log = [willPacket, willPacket] ∧
          decodeConnect willPacket =
            some (connectContents willParams) := by
  have hRun :=
    Prog.run_of_returns
      (p := session scriptPort 6 (connectTwice willParams))
      (w := answeredTwice) (a := ()) (by decide +kernel)
  have hSent :
      connectsSent
          ((session scriptPort 6
            (connectTwice willParams)).run
              answeredTwice).2.log =
        [willPacket, willPacket] := by
    decide +kernel
  have hCarries :=
    connect_carries_iff scriptPort 6 willParams _ _ _ _ rfl
      hRun (by decide +kernel) willPacket
      (by rw [hSent]; simp)
  exact ⟨_, hRun, hSent, hCarries.1.mpr (by decide)⟩

/- The password on the wire is the user name. -/
theorem passwordFromUsername_sent :
    ∃ w' packet contents,
      (session scriptPort 6 (connectTwice loginParams)).run
          answeredTwice = (some (), w') ∧
        configurations w'.log = 1 ∧
          packet ∈ connectsSent w'.log ∧
            decodeConnect packet = some contents ∧
              contents.password = some [117] ∧
                (connectContents loginParams).password =
                  some [112] := by
  refine
    ⟨_,
      [16, 18, 0, 4, 77, 81, 84, 84, 4, 194, 0, 60, 0, 0,
        0, 1, 117, 0, 1, 117],
      { connectContents loginParams with
        password := some [117] },
      Prog.run_of_returns (by decide +kernel), ?_⟩
  decide +kernel

end Mqtt

end TrustOnboard
