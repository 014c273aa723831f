import TrustOnboard.Mqtt.Codec
import TrustOnboard.Program.History
import TrustOnboard.Shadow.Actions

/-
  The registration for deltas over the life of a client.

  A run starts, connects and registers in any order, with any
  answers of the MQTT client.  A registration marks the delta
  topic as subscribed whatever the answer was, and it enters
  its struct even when it returns the error it got.

  Key definitions include:
    * `shadowInit`
    * `shadowConnect`
    * `shadowRegisterDelta`
    * `Session`
    * `Honest`
    * `Met`

  Key results include:
    * `shadowRegisterDelta_cases`
    * `Session.books`
    * `Session.acked`
    * `honest_iff_met`
-/

------------------------------------------------------------
-- Starting And Connecting
------------------------------------------------------------

namespace TrustOnboard

namespace Shadow

open Mqtt (IoTError CString HandlerId ConnectParams)

variable {E : Type}

/- `MAX_SIZE_OF_UNIQUE_CLIENT_ID_BYTES`. -/
abbrev maxSizeOfUniqueClientIdBytes : Nat := 80

/- `ShadowInitParameters_t`. -/
structure ShadowInitParameters where
  pHost : Option CString
  port : UInt16
  pRootCA : Option CString
  pClientCRT : Option CString
  pClientKey : Option CString
  enableAutoReconnect : Bool
  disconnectHandler : Option HandlerId
  deriving DecidableEq

/- `ShadowConnectParameters_t`. -/
structure ShadowConnectParameters where
  pMyThingName : CString
  pMqttClientId : Option CString
  mqttClientIdLen : UInt16
  deleteActionHandler : Option HandlerId
  deriving DecidableEq

/-
  The answers of the MQTT client to the calls that are made
  while the shadow client starts and connects.
-/
structure Starter (E : Type) where
  mqttInit : ShadowInitParameters → E → IoTError × E
  mqttConnect : ConnectParams → E → IoTError × E
  subscribeDeleted :
    Bytes → HandlerId → CString → E → IoTError × E

/- What `snprintf` leaves of a string, as a string. -/
def snprintfString (size : Nat) (s : CString) : CString where
  bytes := snprintfText size s.bytes
  nul_free := fun hMem => s.nul_free (List.mem_of_mem_take hMem)

/- `initDeltaTokens`. -/
def State.initDeltaTokens (s : State) : State :=
  { s with
    tokenTable := []
    deltaTopicSubscribedFlag := false }

/- `aws_iot_shadow_init`. -/
def shadowInit
    (starter : Starter E) :
    Option ShadowInitParameters → Code E IoTError
  | none => pure .nullValueError
  | some pParams => do
      let rc ← ask (starter.mqttInit pParams)
      if rc = .success then do
        modifyShadow (fun s =>
          State.initDeltaTokens
            { s with
              clientTokenNum := 0
              shadowJsonVersionNum := 0 })
        pure .success
      else pure rc

/- The parameters `aws_iot_shadow_connect` connects with. -/
def connectParams
    (pMqttClientId : CString)
    (mqttClientIdLen : UInt16) : ConnectParams :=
  { ConnectParams.initializer with
    keepAliveIntervalInSec := 10
    mqttVersion := 4
    isCleanSession := true
    isWillMsgPresent := false
    pClientID := some pMqttClientId.object
    clientIDLen := mqttClientIdLen
    pPassword := none
    pUsername := none }

/- The topic of the deletions of a thing. -/
def deleteAcceptedTopic (thing : Bytes) : Bytes :=
  snprintfText maxShadowTopicLengthBytes
    (ascii "$aws/things/" ++ thing ++
      ascii "/shadow/delete/accepted")

/- `aws_iot_shadow_connect`. -/
def shadowConnect
    (starter : Starter E)
    (pParams : Option ShadowConnectParameters) :
    Code E IoTError :=
  match pParams with
  | none => pure .nullValueError
  | some p =>
      match p.pMqttClientId with
      | none => pure .nullValueError
      | some pMqttClientId => do
          modifyShadow (fun s =>
            { s with
              myThingName :=
                snprintfString maxSizeOfThingName
                  p.pMyThingName
              mqttClientID :=
                snprintfString maxSizeOfUniqueClientIdBytes
                  pMqttClientId })
          let rc ←
            ask
              (starter.mqttConnect
                (connectParams pMqttClientId
                  p.mqttClientIdLen))
          if rc = .success then
            modifyShadow State.initializeRecords
          else pure ()
          match p.deleteActionHandler with
          | none => pure rc
          | some handler => do
              let thing ←
                Prog.read (fun s => s.shadow.myThingName)
              ask
                (starter.subscribeDeleted
                  (deleteAcceptedTopic thing.bytes) handler
                  thing)

/-
  The calls of the MQTT client as far as their answers go.
  No message is looked at while such a call is made.
-/
def answersOnly (port : Port E) : Services E where
  mqtt := fun c => do
    record (.called c)
    let rc ← ask (port.answer c)
    record (.answered c rc)
    pure rc
  call := fun _ => .stop

/- `aws_iot_shadow_register_delta`. -/
def shadowRegisterDelta
    (port : Port E) :
    Option DeltaStruct → Code E IoTError
  | none => pure .nullValueError
  | some pStruct =>
      whenConnected port
        (registerJsonTokenOnDelta (answersOnly port) pStruct)

end Shadow

end TrustOnboard

------------------------------------------------------------
-- Sessions
------------------------------------------------------------

namespace TrustOnboard

namespace Shadow

open Mqtt (IoTError CString)

variable {E : Type}

/- The calls of a run.  A `none` pointer stands for NULL. -/
inductive SessionCall where
  | init (pParams : Option ShadowInitParameters)
  | connect (pParams : Option ShadowConnectParameters)
  | registerDelta (pStruct : Option DeltaStruct)
  deriving DecidableEq

def sessionCall
    (port : Port E)
    (starter : Starter E) : SessionCall → Code E IoTError
  | .init pParams => shadowInit starter pParams
  | .connect pParams => shadowConnect starter pParams
  | .registerDelta pStruct => shadowRegisterDelta port pStruct

/- A call that has returned, with what it made visible. -/
structure Done (E : Type) where
  call : SessionCall
  rc : IoTError
  before : Sys E
  after : Sys E
  events : List Event

/-
  The runs of a client, newest call first, from the start of
  the program on.
-/
inductive Session
    (port : Port E)
    (starter : Starter E) : List (Done E) → Sys E → Prop
  | start
      (env : E) :
      Session port starter [] ⟨State.blank, env⟩
  | next
      {done : List (Done E)}
      {s : Sys E}
      {w : Run E}
      {call : SessionCall}
      {rc : IoTError}
      (hSession : Session port starter done s)
      (hRun :
        (sessionCall port starter call).run ⟨s, []⟩ =
          (some rc, w)) :
      Session port starter
        (⟨call, rc, s, w.st, w.log⟩ :: done) w.st

/- A call that has started the client. -/
def Done.Starts (d : Done E) : Prop :=
  (∃ pParams, d.call = .init pParams) ∧ d.rc = .success

/- A SUBSCRIBE for deltas. -/
def deltaSubscribe (topic : Bytes) : MqttCall :=
  .subscribe topic .shadowDeltaCallback

/- A SUBSCRIBE acknowledged since the last start. -/
def SubscribedSinceInit
    (topic : Bytes) : List (Done E) → Prop
  | [] => False
  | d :: done =>
      Event.answered (deltaSubscribe topic) .success ∈
          d.events ∨
        ¬ d.Starts ∧ SubscribedSinceInit topic done

/- The topic of the deltas, in full. -/
def fullDeltaTopic (thing : CString) : Bytes :=
  ascii "$aws/things/" ++ thing.bytes ++
    ascii "/shadow/update/delta"

/-
  A registration is honest: one that succeeds has a SUBSCRIBE
  acknowledged and its struct entered once, one that fails
  has left the table alone, and one that is made before any
  SUBSCRIBE was acknowledged makes one.
-/
structure HonestRegistration
    (port : Port E)
    (pStruct : Option DeltaStruct)
    (d : Done E)
    (done : List (Done E)) : Prop where
  success :
    d.rc = .success →
      SubscribedSinceInit
          (fullDeltaTopic d.before.shadow.myThingName)
          (d :: done) ∧
        ∃ entry,
          pStruct = some entry ∧
            d.after.shadow.tokenTable =
              d.before.shadow.tokenTable ++ [entry]
  failure :
    d.rc ≠ .success →
      d.after.shadow.tokenTable = d.before.shadow.tokenTable
  again :
    pStruct.isSome = true →
      (port.isClientConnected d.before.env).1 = true →
        (∀ topic, ¬ SubscribedSinceInit topic done) →
          Event.called
              (deltaSubscribe
                (fullDeltaTopic
                  d.before.shadow.myThingName)) ∈
            d.events

def Honest
    (port : Port E)
    (d : Done E)
    (done : List (Done E)) : Prop :=
  ∀ pStruct, d.call = .registerDelta pStruct →
    HonestRegistration port pStruct d done

end Shadow

end TrustOnboard

------------------------------------------------------------
-- What A Call Does
------------------------------------------------------------

namespace TrustOnboard

namespace Shadow

open Mqtt (IoTError CString)

variable {E : Type}
variable {port : Port E}
variable {starter : Starter E}

/- What a registration on a connected client does. -/
inductive Registered
    (port : Port E)
    (entry : DeltaStruct)
    (s : State)
    (env : E) : IoTError → State → List Event → Prop
  | full
      (hFlag : s.deltaTopicSubscribedFlag = true)
      (hFull : maxJsonTokenExpected ≤ s.tokenTable.length) :
      Registered port entry s env .failure s []
  | entered
      (hFlag : s.deltaTopicSubscribedFlag = true)
      (hRoom : s.tokenTable.length < maxJsonTokenExpected) :
      Registered port entry s env .success
        { s with tokenTable := s.tokenTable ++ [entry] } []
  | subscribedFull
      {rc : IoTError}
      (hFlag : s.deltaTopicSubscribedFlag = false)
      (hFull : maxJsonTokenExpected ≤ s.tokenTable.length)
      (hAnswer :
        (port.answer
          (deltaSubscribe (deltaTopic s.myThingName.bytes))
          env).1 = rc) :
      Registered port entry s env .failure
        { s with deltaTopicSubscribedFlag := true }
        [.answered
            (deltaSubscribe
              (deltaTopic s.myThingName.bytes)) rc,
          .called
            (deltaSubscribe
              (deltaTopic s.myThingName.bytes))]
  | subscribed
      {rc : IoTError}
      (hFlag : s.deltaTopicSubscribedFlag = false)
      (hRoom : s.tokenTable.length < maxJsonTokenExpected)
      (hAnswer :
        (port.answer
          (deltaSubscribe (deltaTopic s.myThingName.bytes))
          env).1 = rc) :
      Registered port entry s env rc
        { s with
          deltaTopicSubscribedFlag := true
          tokenTable := s.tokenTable ++ [entry] }
        [.answered
            (deltaSubscribe
              (deltaTopic s.myThingName.bytes)) rc,
          .called
            (deltaSubscribe
              (deltaTopic s.myThingName.bytes))]

/- The answer of the client in front of a registration. -/
theorem registerJsonTokenOnDelta_cases
    {entry : DeltaStruct}
    {s : Sys E}
    {rc : IoTError}
    {w : Run E}
    (hRun :
      (registerJsonTokenOnDelta (answersOnly port) entry).run
          ⟨s, []⟩ =
        (some rc, w)) :
    Registered port entry s.shadow s.env rc w.st.shadow
      w.log := by
  unfold registerJsonTokenOnDelta answersOnly at hRun
  cases hFlag : s.shadow.deltaTopicSubscribedFlag with
  | true =>
      by_cases hRoom :
          maxJsonTokenExpected ≤ s.shadow.tokenTable.length
      · simp [Prog.run_bind, Prog.read, hFlag, hRoom] at hRun
        rcases hRun with ⟨rfl, rfl⟩
        exact .full hFlag hRoom
      · simp [Prog.run_bind, Prog.read, hFlag, hRoom,
          modifyShadow, Prog.modify] at hRun
        rcases hRun with ⟨rfl, rfl⟩
        have hEntered :
            Registered port entry s.shadow s.env _ _ _ :=
          .entered hFlag (Nat.lt_of_not_le hRoom)
        rw [hFlag] at hEntered
        exact hEntered
  | false =>
      by_cases hRoom :
          maxJsonTokenExpected ≤ s.shadow.tokenTable.length
      · simp [Prog.run_bind, Prog.read, hFlag, hRoom,
          modifyShadow, Prog.modify, record, ask, Prog.emit]
          at hRun
        rcases hRun with ⟨rfl, rfl⟩
        exact .subscribedFull hFlag hRoom rfl
      · simp [Prog.run_bind, Prog.read, hFlag, hRoom,
          modifyShadow, Prog.modify, record, ask, Prog.emit]
          at hRun
        rcases hRun with ⟨rfl, rfl⟩
        exact
          .subscribed hFlag (Nat.lt_of_not_le hRoom) rfl

/- What `aws_iot_shadow_register_delta` does. -/
theorem shadowRegisterDelta_cases
    {pStruct : Option DeltaStruct}
    {s : Sys E}
    {rc : IoTError}
    {w : Run E}
    (hRun :
      (shadowRegisterDelta port pStruct).run ⟨s, []⟩ =
        (some rc, w)) :
    (rc ≠ .success ∧ w.st.shadow = s.shadow ∧ w.log = [] ∧
      (pStruct = none ∨
        (port.isClientConnected s.env).1 = false)) ∨
    (∃ entry,
      pStruct = some entry ∧
        (port.isClientConnected s.env).1 = true ∧
          Registered port entry s.shadow
            (port.isClientConnected s.env).2 rc w.st.shadow
            w.log) := by
  cases pStruct with
  | none =>
      cases hRun
      exact .inl ⟨by decide, rfl, rfl, .inl rfl⟩
  | some entry =>
      unfold shadowRegisterDelta whenConnected ask at hRun
      rw [Prog.run_bind, Prog.run_step] at hRun
      dsimp only at hRun
      cases hConnected : (port.isClientConnected s.env).1 with
      | false =>
          rw [hConnected] at hRun
          cases hRun
          exact .inl ⟨by decide, rfl, rfl, .inr rfl⟩
      | true =>
          rw [hConnected] at hRun
          exact
            .inr
              ⟨entry, rfl, rfl,
                registerJsonTokenOnDelta_cases hRun⟩

/- The variables `aws_iot_shadow_init` sets. -/
theorem shadowInit_cases
    {pParams : Option ShadowInitParameters}
    {s : Sys E}
    {rc : IoTError}
    {w : Run E}
    (hRun :
      (shadowInit starter pParams).run ⟨s, []⟩ =
        (some rc, w)) :
    w.log = [] ∧
      ((rc ≠ .success ∧ w.st.shadow = s.shadow) ∨
        (rc = .success ∧
          w.st.shadow =
            State.initDeltaTokens
              { s.shadow with
                clientTokenNum := 0
                shadowJsonVersionNum := 0 })) := by
  cases pParams with
  | none =>
      cases hRun
      exact ⟨rfl, .inl ⟨by decide, rfl⟩⟩
  | some pParams =>
      unfold shadowInit ask modifyShadow Prog.modify at hRun
      rw [Prog.run_bind, Prog.run_step] at hRun
      dsimp only at hRun
      by_cases hInit :
          (starter.mqttInit pParams s.env).1 = .success
      · rw [if_pos hInit] at hRun
        cases hRun
        exact ⟨rfl, .inr ⟨rfl, rfl⟩⟩
      · rw [if_neg hInit] at hRun
        cases hRun
        exact ⟨rfl, .inl ⟨hInit, rfl⟩⟩

/- A connect leaves the registrations alone. -/
theorem shadowConnect_cases
    {pParams : Option ShadowConnectParameters}
    {s : Sys E}
    {rc : IoTError}
    {w : Run E}
    (hRun :
      (shadowConnect starter pParams).run ⟨s, []⟩ =
        (some rc, w)) :
    w.log = [] ∧
      w.st.shadow.tokenTable = s.shadow.tokenTable ∧
        w.st.shadow.deltaTopicSubscribedFlag =
            s.shadow.deltaTopicSubscribedFlag ∧
          (w.st.shadow.myThingName = s.shadow.myThingName ∨
            ∃ name,
              w.st.shadow.myThingName =
                snprintfString maxSizeOfThingName name) := by
  cases pParams with
  | none =>
      cases hRun
      exact ⟨rfl, rfl, rfl, .inl rfl⟩
  | some p =>
      unfold shadowConnect at hRun
      dsimp only at hRun
      cases hClient : p.pMqttClientId with
      | none =>
          rw [hClient] at hRun
          cases hRun
          exact ⟨rfl, rfl, rfl, .inl rfl⟩
      | some pMqttClientId =>
          rw [hClient] at hRun
          dsimp only at hRun
          unfold ask modifyShadow at hRun
          rw [Prog.run_bind, Prog.modify, Prog.run_step]
            at hRun
          dsimp only at hRun
          rw [Prog.run_bind, Prog.run_step] at hRun
          dsimp only at hRun
          split at hRun <;>
            cases hHandler : p.deleteActionHandler <;>
              rw [hHandler] at hRun <;> cases hRun <;>
                exact ⟨rfl, rfl, rfl, .inr ⟨_, rfl⟩⟩

end Shadow

end TrustOnboard

------------------------------------------------------------
-- The Books Of A Session
------------------------------------------------------------

namespace TrustOnboard

namespace Shadow

open Mqtt (IoTError CString)

variable {E : Type}
variable {port : Port E}
variable {starter : Starter E}

/- The call makes a SUBSCRIBE for deltas. -/
def Done.subscribes (d : Done E) : Bool :=
  d.events.any fun e =>
    match e with
    | .called (.subscribe _ .shadowDeltaCallback) => true
    | _ => false

/- The name at the time of the last SUBSCRIBE for deltas. -/
def subscribedName : List (Done E) → Option CString
  | [] => none
  | d :: done =>
      if d.subscribes then some d.before.shadow.myThingName
      else subscribedName done

/-
  The condition on a registration: the SUBSCRIBE it makes is
  acknowledged, and if it makes none although it has room,
  the thing has the name the delta topic was subscribed with.
-/
structure Met
    (port : Port E)
    (d : Done E)
    (done : List (Done E)) : Prop where
  acknowledged :
    ∀ entry, d.call = .registerDelta (some entry) →
      (port.isClientConnected d.before.env).1 = true →
        d.before.shadow.deltaTopicSubscribedFlag = false →
          (port.answer
            (deltaSubscribe
              (fullDeltaTopic d.before.shadow.myThingName))
            (port.isClientConnected d.before.env).2).1 =
              .success
  named :
    ∀ entry, d.call = .registerDelta (some entry) →
      (port.isClientConnected d.before.env).1 = true →
        d.before.shadow.deltaTopicSubscribedFlag = true →
          d.before.shadow.tokenTable.length <
              maxJsonTokenExpected →
            subscribedName done =
              some d.before.shadow.myThingName

/- What the variables say about the calls made so far. -/
structure Books
    (done : List (Done E))
    (s : State) : Prop where
  name_short : s.myThingName.bytes.length < maxSizeOfThingName
  clear :
    s.deltaTopicSubscribedFlag = false →
      s.tokenTable = [] ∧
        ∀ topic, ¬ SubscribedSinceInit topic done
  known :
    s.deltaTopicSubscribedFlag = true →
      (subscribedName done).isSome = true
  topic_known :
    ∀ topic, SubscribedSinceInit topic done →
      ∃ name,
        subscribedName done = some name ∧
          topic = fullDeltaTopic name

/- The delta topic fits its buffer. -/
theorem deltaTopic_eq_full
    {thing : CString}
    (hShort : thing.bytes.length < maxSizeOfThingName) :
    deltaTopic thing.bytes = fullDeltaTopic thing := by
  have hPrefix : (ascii "$aws/things/").length = 12 := by
    decide
  have hSuffix :
      (ascii "/shadow/update/delta").length = 20 := by
    decide
  unfold deltaTopic fullDeltaTopic snprintfText
  apply List.take_of_length_le
  simp only [List.length_append, hPrefix, hSuffix]
  unfold maxSizeOfThingName at hShort
  unfold maxShadowTopicLengthBytes
  omega

theorem fullDeltaTopic_injective
    {a b : CString}
    (hSame : fullDeltaTopic a = fullDeltaTopic b) :
    a = b := by
  unfold fullDeltaTopic at hSame
  have hBytes :=
    List.append_cancel_left (List.append_cancel_right hSame)
  cases a
  cases b
  cases hBytes
  rfl

/- A call without events makes no SUBSCRIBE. -/
theorem subscribedName_keep
    {done : List (Done E)}
    {d : Done E}
    (hEvents : d.events = []) :
    subscribedName (d :: done) = subscribedName done := by
  have hNot : d.subscribes = false := by
    unfold Done.subscribes
    rw [hEvents]
    rfl
  rw [subscribedName, hNot]
  rfl

/- A call without events, and not a start, changes no book. -/
theorem Books.keep
    {done : List (Done E)}
    {s after : State}
    {d : Done E}
    (hBooks : Books done s)
    (hEvents : d.events = [])
    (hName :
      after.myThingName.bytes.length <
        maxSizeOfThingName)
    (hTable :
      after.deltaTopicSubscribedFlag = false →
        after.tokenTable = s.tokenTable)
    (hFlag :
      after.deltaTopicSubscribedFlag =
        s.deltaTopicSubscribedFlag) :
    Books (d :: done) after := by
  have hSubscribed :
      ∀ topic, SubscribedSinceInit topic (d :: done) →
        SubscribedSinceInit topic done := by
    intro topic hSince
    rcases hSince with hNow | ⟨_, hBefore⟩
    · rw [hEvents] at hNow
      cases hNow
    · exact hBefore
  have hNameSame :
      subscribedName (d :: done) = subscribedName done :=
    subscribedName_keep hEvents
  refine ⟨hName, ?_, ?_, ?_⟩
  · intro hClear
    rw [hTable hClear]
    rw [hFlag] at hClear
    rcases hBooks.clear hClear with ⟨hEmpty, hNone⟩
    exact
      ⟨hEmpty, fun topic hSince =>
        hNone topic (hSubscribed topic hSince)⟩
  · intro hSet
    rw [hFlag] at hSet
    rw [hNameSame]
    exact hBooks.known hSet
  · intro topic hSince
    rw [hNameSame]
    exact hBooks.topic_known topic (hSubscribed topic hSince)

/- A start clears the books. -/
theorem Books.started
    {done : List (Done E)}
    {s after : State}
    {d : Done E}
    (hBooks : Books done s)
    (hEvents : d.events = [])
    (hStarts : d.Starts)
    (hAfter :
      after.tokenTable = [] ∧
        after.deltaTopicSubscribedFlag = false ∧
          after.myThingName = s.myThingName) :
    Books (d :: done) after := by
  rcases hAfter with ⟨hTable, hFlag, hName⟩
  have hNone :
      ∀ topic, ¬ SubscribedSinceInit topic (d :: done) := by
    intro topic hSince
    rcases hSince with hNow | ⟨hNot, _⟩
    · rw [hEvents] at hNow
      cases hNow
    · exact hNot hStarts
  refine ⟨?_, ?_, ?_, ?_⟩
  · rw [hName]
    exact hBooks.name_short
  · intro _
    exact ⟨hTable, hNone⟩
  · intro hSet
    rw [hFlag] at hSet
    cases hSet
  · intro topic hSince
    exact absurd hSince (hNone topic)

/- A SUBSCRIBE opens them. -/
theorem Books.subscribed
    {done : List (Done E)}
    {s after : State}
    {d : Done E}
    {rc : IoTError}
    (hBooks : Books done s)
    (hBefore : d.before.shadow = s)
    (hClear : s.deltaTopicSubscribedFlag = false)
    (hEvents :
      d.events =
        [.answered
            (deltaSubscribe (fullDeltaTopic s.myThingName)) rc,
          .called
            (deltaSubscribe (fullDeltaTopic s.myThingName))])
    (hAfter :
      after.deltaTopicSubscribedFlag = true ∧
        after.myThingName = s.myThingName) :
    Books (d :: done) after := by
  rcases hAfter with ⟨hFlag, hName⟩
  rcases hBooks.clear hClear with ⟨_, hNone⟩
  have hNameNow :
      subscribedName (d :: done) = some s.myThingName := by
    have hDoes : d.subscribes = true := by
      unfold Done.subscribes
      rw [hEvents]
      rfl
    rw [subscribedName, hDoes, hBefore]
    rfl
  refine ⟨?_, ?_, ?_, ?_⟩
  · rw [hName]
    exact hBooks.name_short
  · intro hStill
    rw [hFlag] at hStill
    cases hStill
  · intro _
    rw [hNameNow]
    rfl
  · intro topic hSince
    refine ⟨s.myThingName, hNameNow, ?_⟩
    rcases hSince with hNow | ⟨_, hEarlier⟩
    · rw [hEvents] at hNow
      unfold deltaSubscribe at hNow
      simp at hNow
      exact hNow.1
    · exact absurd hEarlier (hNone topic)

/- Every registration keeps them. -/
theorem Books.registered
    {done : List (Done E)}
    {s after : State}
    {d : Done E}
    {entry : DeltaStruct}
    {env : E}
    {rc : IoTError}
    {log : List Event}
    (hBooks : Books done s)
    (hBefore : d.before.shadow = s)
    (hEvents : d.events = log)
    (hRegistered :
      Registered port entry s env rc after log) :
    Books (d :: done) after := by
  have hShort := hBooks.name_short
  have hTopic := deltaTopic_eq_full hShort
  cases hRegistered with
  | full hFlag hFull =>
      exact hBooks.keep hEvents hShort (fun _ => rfl) rfl
  | entered hFlag hRoom =>
      refine hBooks.keep hEvents hShort ?_ rfl
      intro hClear
      rw [hFlag] at hClear
      cases hClear
  | subscribedFull hFlag hFull hAnswer =>
      rw [hTopic] at hEvents
      exact
        hBooks.subscribed hBefore hFlag hEvents ⟨rfl, rfl⟩
  | subscribed hFlag hRoom hAnswer =>
      rw [hTopic] at hEvents
      exact
        hBooks.subscribed hBefore hFlag hEvents ⟨rfl, rfl⟩

end Shadow

end TrustOnboard

------------------------------------------------------------
-- Honesty
------------------------------------------------------------

namespace TrustOnboard

namespace Shadow

open Mqtt (IoTError CString)

variable {E : Type}
variable {port : Port E}
variable {starter : Starter E}

theorem length_snprintfString
    (name : CString) :
    (snprintfString maxSizeOfThingName name).bytes.length <
      maxSizeOfThingName := by
  unfold snprintfString snprintfText
  rw [List.length_take]
  unfold maxSizeOfThingName
  omega

/- The books are kept by every call. -/
theorem Session.books
    {done : List (Done E)}
    {s : Sys E}
    (hSession : Session port starter done s) :
    Books done s.shadow := by
  induction hSession with
  | start env =>
      refine ⟨?_, fun _ => ⟨rfl, fun _ h => h⟩, ?_, ?_⟩
      · exact (by decide : 0 < maxSizeOfThingName)
      · intro hSet
        cases hSet
      · intro topic hSince
        cases hSince
  | @next done s w call rc hSession hRun ih =>
      cases call with
      | init pParams =>
          rcases shadowInit_cases hRun with
            ⟨hLog, ⟨_, hSame⟩ | ⟨hSuccess, hAfter⟩⟩
          · apply ih.keep hLog
            · rw [hSame]
              exact ih.name_short
            · intro _
              rw [hSame]
            · rw [hSame]
          · apply ih.started hLog ⟨⟨pParams, rfl⟩, hSuccess⟩
            rw [hAfter]
            exact ⟨rfl, rfl, rfl⟩
      | connect pParams =>
          rcases shadowConnect_cases hRun with
            ⟨hLog, hTable, hFlag, hName⟩
          apply ih.keep hLog ?_ (fun _ => hTable) hFlag
          rcases hName with hName | ⟨name, hName⟩
          · rw [hName]
            exact ih.name_short
          · rw [hName]
            exact length_snprintfString name
      | registerDelta pStruct =>
          rcases shadowRegisterDelta_cases hRun with
            ⟨_, hSame, hLog, _⟩ | ⟨entry, _, _, hRegistered⟩
          · apply ih.keep hLog
            · rw [hSame]
              exact ih.name_short
            · intro _
              rw [hSame]
            · rw [hSame]
          · exact ih.registered rfl rfl hRegistered

/-
  A registration with its SUBSCRIBE acknowledged before, if
  it makes none, is honest exactly when it is met.
-/
theorem honest_iff_met_of_registered
    {done : List (Done E)}
    {d : Done E}
    {entry : DeltaStruct}
    (hBooks : Books done d.before.shadow)
    (hAcked :
      d.before.shadow.deltaTopicSubscribedFlag = true →
        ∀ name, subscribedName done = some name →
          SubscribedSinceInit (fullDeltaTopic name) done)
    (hCall : d.call = .registerDelta (some entry))
    (hConnected :
      (port.isClientConnected d.before.env).1 = true)
    (hRegistered :
      Registered port entry d.before.shadow
        (port.isClientConnected d.before.env).2 d.rc
        d.after.shadow d.events) :
    Honest port d done ↔ Met port d done := by
  have hTopic := deltaTopic_eq_full hBooks.name_short
  rcases d with ⟨call, rc, before, ⟨after, env⟩, events⟩
  dsimp only at *
  subst hCall
  cases hRegistered with
  | full hFlag hFull =>
      refine iff_of_true ?_ ⟨?_, ?_⟩
      · intro pStruct hCall
        refine ⟨?_, fun _ => rfl, ?_⟩
        · intro hSuccess
          cases hSuccess
        intro _ _ hNone
        rcases Option.isSome_iff_exists.mp
            (hBooks.known hFlag) with
          ⟨name, hName⟩
        exact absurd (hAcked hFlag name hName) (hNone _)
      · intro _ _ _ hClear
        rw [hFlag] at hClear
        cases hClear
      · intro _ _ _ _ hRoom
        exact absurd hFull (Nat.not_le.mpr hRoom)
  | entered hFlag hRoom =>
      constructor
      · intro hHonest
        refine ⟨?_, ?_⟩
        · intro _ _ _ hClear
          rw [hFlag] at hClear
          cases hClear
        · intro _ _ _ _ _
          rcases (hHonest _ rfl).success rfl with ⟨hSince, _⟩
          rcases hSince with hNow | ⟨_, hBefore⟩
          · cases hNow
          · rcases hBooks.topic_known _ hBefore with
              ⟨name, hName, hSame⟩
            rw [hName, fullDeltaTopic_injective hSame]
      · intro hMet pStruct hCall
        cases hCall
        have hName := hMet.named entry rfl hConnected hFlag hRoom
        have hSince := hAcked hFlag _ hName
        refine ⟨fun _ => ⟨.inr ⟨?_, hSince⟩, entry, rfl, rfl⟩,
          fun h => absurd rfl h, ?_⟩
        · rintro ⟨⟨_, hInit⟩, _⟩
          cases hInit
        · intro _ _ hNone
          exact absurd hSince (hNone _)
  | subscribedFull hFlag hFull hAnswer =>
      rw [(hBooks.clear hFlag).1] at hFull
      cases hFull
  | subscribed hFlag hRoom hAnswer =>
      rw [hTopic] at hAnswer
      constructor
      · intro hHonest
        refine ⟨?_, ?_⟩
        · intro _ _ _ _
          by_contra hNot
          have hSame :=
            (hHonest _ rfl).failure (fun h => hNot
              (hAnswer.trans h))
          exact absurd hSame (by simp)
        · intro _ _ _ hSet
          rw [hFlag] at hSet
          cases hSet
      · intro hMet pStruct hCall
        cases hCall
        have hSuccess :=
          hMet.acknowledged entry rfl hConnected hFlag
        dsimp only at hSuccess
        rw [hAnswer] at hSuccess
        subst hSuccess
        rw [hTopic]
        refine
          ⟨fun _ =>
              ⟨.inl List.mem_cons_self, entry, rfl, rfl⟩,
            fun h => absurd rfl h, ?_⟩
        intro _ _ _
        exact
          List.mem_cons_of_mem _ List.mem_cons_self

/- The SUBSCRIBE behind the flag has been acknowledged. -/
def Acked (done : List (Done E)) (s : State) : Prop :=
  s.deltaTopicSubscribedFlag = true →
    ∀ name, subscribedName done = some name →
      SubscribedSinceInit (fullDeltaTopic name) done

/- Calls that are neither starts nor subscribe keep it. -/
theorem Acked.keep
    {done : List (Done E)}
    {s after : State}
    {d : Done E}
    (hAcked : Acked done s)
    (hEvents : d.events = [])
    (hNot : ¬ d.Starts)
    (hFlag :
      after.deltaTopicSubscribedFlag =
        s.deltaTopicSubscribedFlag) :
    Acked (d :: done) after := by
  intro hSet name hName
  rw [hFlag] at hSet
  rw [subscribedName_keep hEvents] at hName
  exact .inr ⟨hNot, hAcked hSet name hName⟩

theorem not_starts_of_ne
    {d : Done E}
    (hCall : ∀ pParams, d.call ≠ .init pParams) :
    ¬ d.Starts := by
  rintro ⟨⟨pParams, hInit⟩, _⟩
  exact hCall pParams hInit

/- A registration that is met keeps it. -/
theorem Acked.registered
    {done : List (Done E)}
    {d : Done E}
    {entry : DeltaStruct}
    (hAcked : Acked done d.before.shadow)
    (hBooks : Books done d.before.shadow)
    (hMet : Met port d done)
    (hCall : d.call = .registerDelta (some entry))
    (hConnected :
      (port.isClientConnected d.before.env).1 = true)
    (hRegistered :
      Registered port entry d.before.shadow
        (port.isClientConnected d.before.env).2 d.rc
        d.after.shadow d.events) :
    Acked (d :: done) d.after.shadow := by
  have hTopic := deltaTopic_eq_full hBooks.name_short
  have hNot : ¬ d.Starts := by
    apply not_starts_of_ne
    intro pParams hInit
    rw [hCall] at hInit
    cases hInit
  rcases d with ⟨call, rc, before, ⟨after, env⟩, events⟩
  dsimp only at *
  cases hRegistered with
  | full hFlag hFull => exact hAcked.keep rfl hNot rfl
  | entered hFlag hRoom => exact hAcked.keep rfl hNot rfl
  | subscribedFull hFlag hFull hAnswer =>
      rw [(hBooks.clear hFlag).1] at hFull
      cases hFull
  | subscribed hFlag hRoom hAnswer =>
      intro _ name hName
      have hSuccess :=
        hMet.acknowledged entry hCall hConnected hFlag
      dsimp only at hSuccess
      rw [hTopic] at hAnswer
      rw [hAnswer] at hSuccess
      subst hSuccess
      cases hName
      rw [hTopic]
      exact .inl List.mem_cons_self

/- The SUBSCRIBE is acknowledged in a run that is met. -/
theorem Session.acked
    {done : List (Done E)}
    {s : Sys E}
    (hSession : Session port starter done s)
    (hMet : Along (Met port) done) :
    Acked done s.shadow := by
  induction hSession with
  | start env =>
      intro hSet
      cases hSet
  | @next done s w call rc hSession hRun ih =>
      rcases along_cons.mp hMet with ⟨hNow, hEarlier⟩
      have hAcked := ih hEarlier
      cases call with
      | init pParams =>
          rcases shadowInit_cases hRun with
            ⟨hLog, ⟨hFailed, hSame⟩ | ⟨hSuccess, hAfter⟩⟩
          · apply hAcked.keep hLog
            · rintro ⟨_, hSuccess⟩
              exact hFailed hSuccess
            · rw [hSame]
          · intro hSet
            rw [hAfter] at hSet
            cases hSet
      | connect pParams =>
          rcases shadowConnect_cases hRun with
            ⟨hLog, _, hFlag, _⟩
          exact
            hAcked.keep hLog
              (not_starts_of_ne (fun _ h => nomatch h)) hFlag
      | registerDelta pStruct =>
          rcases shadowRegisterDelta_cases hRun with
            ⟨_, hSame, hLog, _⟩ |
              ⟨entry, rfl, hConnected, hRegistered⟩
          · apply hAcked.keep hLog
            · exact not_starts_of_ne (fun _ h => nomatch h)
            · rw [hSame]
          · exact
              Acked.registered
                (d := ⟨_, rc, s, w.st, w.log⟩) hAcked
                hSession.books hNow rfl hConnected hRegistered

/- A registration that is refused is honest, and met. -/
theorem honest_iff_met_of_refused
    {done : List (Done E)}
    {d : Done E}
    {pStruct : Option DeltaStruct}
    (hCall : d.call = .registerDelta pStruct)
    (hFailed : d.rc ≠ .success)
    (hSame : d.after.shadow = d.before.shadow)
    (hRefused :
      pStruct = none ∨
        (port.isClientConnected d.before.env).1 = false) :
    Honest port d done ↔ Met port d done := by
  have hNever :
      ∀ entry, pStruct = some entry →
        (port.isClientConnected d.before.env).1 ≠ true := by
    intro entry hSome hConnected
    rcases hRefused with hNone | hOff
    · rw [hSome] at hNone
      cases hNone
    · rw [hConnected] at hOff
      cases hOff
  have hCalled :
      ∀ entry, d.call = .registerDelta (some entry) →
        pStruct = some entry := by
    intro entry hEntry
    rw [hCall] at hEntry
    cases hEntry
    rfl
  refine iff_of_true ?_ ⟨?_, ?_⟩
  · intro pStruct' hCall'
    rw [hCall] at hCall'
    cases hCall'
    refine ⟨fun h => absurd h hFailed, fun _ => ?_, ?_⟩
    · rw [hSame]
    · intro hSome hConnected
      rcases Option.isSome_iff_exists.mp hSome with
        ⟨entry, hEntry⟩
      exact absurd hConnected (hNever entry hEntry)
  · intro entry hEntry hConnected
    exact
      absurd hConnected (hNever entry (hCalled entry hEntry))
  · intro entry hEntry hConnected
    exact
      absurd hConnected (hNever entry (hCalled entry hEntry))

/-
  All registrations of a run are honest exactly when all of
  them are met.
-/
theorem honest_iff_met
    {done : List (Done E)}
    {s : Sys E}
    (hSession : Session port starter done s) :
    Along (Honest port) done ↔ Along (Met port) done := by
  induction hSession with
  | start env => exact iff_of_true along_nil along_nil
  | @next done s w call rc hSession hRun ih =>
      rw [along_cons, along_cons, ih]
      apply and_congr_left
      intro hMet
      have hAcked := hSession.acked hMet
      cases call with
      | init pParams =>
          refine iff_of_true (fun _ h => nomatch h) ⟨?_, ?_⟩
          · exact fun _ h => nomatch h
          · exact fun _ h => nomatch h
      | connect pParams =>
          refine iff_of_true (fun _ h => nomatch h) ⟨?_, ?_⟩
          · exact fun _ h => nomatch h
          · exact fun _ h => nomatch h
      | registerDelta pStruct =>
          rcases shadowRegisterDelta_cases hRun with
            ⟨hFailed, hSame, _, hRefused⟩ |
              ⟨entry, rfl, hConnected, hRegistered⟩
          · exact
              honest_iff_met_of_refused rfl hFailed hSame
                hRefused
          · exact
              honest_iff_met_of_registered hSession.books
                hAcked rfl hConnected hRegistered

/- Perform a call after others. -/
def perform
    (port : Port E)
    (starter : Starter E)
    (r : List (Done E) × Sys E)
    (call : SessionCall) : List (Done E) × Sys E :=
  match (sessionCall port starter call).run ⟨r.2, []⟩ with
  | (some rc, w) =>
      (⟨call, rc, r.2, w.st, w.log⟩ :: r.1, w.st)
  | (none, _) => r

/- Calls from the start of the program on. -/
def performed
    (port : Port E)
    (starter : Starter E)
    (env : E)
    (calls : List SessionCall) : List (Done E) × Sys E :=
  calls.foldl (perform port starter) ([], ⟨State.blank, env⟩)

theorem Session.foldl_perform
    {done : List (Done E)}
    {s : Sys E}
    (hSession : Session port starter done s)
    (calls : List SessionCall) :
    Session port starter
      (calls.foldl (perform port starter) (done, s)).1
      (calls.foldl (perform port starter) (done, s)).2 := by
  induction calls generalizing done s with
  | nil => exact hSession
  | cons call calls ih =>
      rw [List.foldl_cons]
      cases hRun :
          (sessionCall port starter call).run ⟨s, []⟩ with
      | mk result w =>
          cases result with
          | none =>
              have hSame :
                  perform port starter (done, s) call =
                    (done, s) := by
                unfold perform
                rw [hRun]
              rw [hSame]
              exact ih hSession
          | some rc =>
              have hNext :
                  perform port starter (done, s) call =
                    (⟨call, rc, s, w.st, w.log⟩ :: done,
                      w.st) := by
                unfold perform
                rw [hRun]
              rw [hNext]
              exact ih (.next hSession hRun)

/- Every list of calls is a session. -/
theorem session_performed
    (env : E)
    (calls : List SessionCall) :
    Session port starter
      (performed port starter env calls).1
      (performed port starter env calls).2 :=
  (Session.start env).foldl_perform calls

end Shadow

end TrustOnboard

------------------------------------------------------------
-- A SUBSCRIBE That Is Not Answered
------------------------------------------------------------

namespace TrustOnboard

namespace Shadow

open Mqtt (IoTError CString)

/- An MQTT client that starts and connects. -/
def Starter.willing : Starter Script where
  mqttInit := fun _ env => (.success, env)
  mqttConnect := fun _ env => (.success, env)
  subscribeDeleted := fun _ _ _ env => (.success, env)

/- A platform that answers as its script says. -/
def responding : Port Script :=
  Port.scripted (fun _ => (-2, []))

/- Start, connect and register two structs. -/
def registerTwice : List SessionCall :=
  let entry : DeltaStruct :=
    { pKey := ⟨[107], by decide⟩
      data := .bool false
      cb := none }
  [.init (some ⟨none, 8883, none, none, none, false, none⟩),
    .connect
      (some ⟨⟨[97], by decide⟩, some ⟨[99], by decide⟩, 1, none⟩),
    .registerDelta (some entry),
    .registerDelta (some entry)]

/- A script whose first answer never comes. -/
def unanswered : Script :=
  { arrivals := []
    answers := [.mqttRequestTimeoutError]
    expiries := []
    calls := [] }

/- A script in which everything is answered. -/
def answered : Script :=
  { arrivals := []
    answers := []
    expiries := []
    calls := [] }

/-
  The first registration reports the timeout with its struct
  in the table, the second succeeds, and nothing has been
  subscribed to.
-/
theorem registration_dishonest :
    let r :=
      performed responding .willing unanswered registerTwice
    Session responding .willing r.1 r.2 ∧
      r.1.map Done.rc =
          [.success, .mqttRequestTimeoutError, .success,
            .success] ∧
        r.1.map (fun d => d.after.shadow.tokenTable.length) =
            [2, 1, 0, 0] ∧
          (∀ topic, ¬ SubscribedSinceInit topic r.1) ∧
            ¬ Along (Honest responding) r.1 := by
  intro r
  have hNone : ∀ topic, ¬ SubscribedSinceInit topic r.1 := by
    intro topic hSince
    rcases hSince with hNow | ⟨_, hNow | ⟨_, hNow | ⟨_,
      hNow | ⟨_, hNow⟩⟩⟩⟩
    · cases hNow
    · rcases List.mem_cons.mp hNow with hHead | hTail
      · injection hHead with _ hRc
        cases hRc
      · rcases List.mem_cons.mp hTail with hHead | hTail
        · cases hHead
        · cases hTail
    · cases hNow
    · cases hNow
    · exact hNow
  refine ⟨session_performed _ _, by decide, rfl, hNone, ?_⟩
  intro hHonest
  have hFirst := hHonest [] _ _ rfl _ rfl
  exact hNone _ (hFirst.success rfl).1

/- With an answer both registrations are honest. -/
theorem registration_honest :
    Along (Honest responding)
      (performed responding .willing answered
        registerTwice).1 := by
  apply (honest_iff_met (session_performed _ _)).mpr
  refine along_cons.mpr ⟨⟨?_, ?_⟩, along_cons.mpr ⟨⟨?_, ?_⟩,
    along_cons.mpr ⟨⟨?_, ?_⟩, along_cons.mpr
      ⟨⟨?_, ?_⟩, along_nil⟩⟩⟩⟩
  · intro _ _ _ hClear
    cases hClear
  · intro _ _ _ _ _
    rfl
  · intro _ _ _ _
    rfl
  · intro _ _ _ hSet
    cases hSet
  · exact fun _ h => nomatch h
  · exact fun _ h => nomatch h
  · exact fun _ h => nomatch h
  · exact fun _ h => nomatch h

end Shadow

end TrustOnboard
