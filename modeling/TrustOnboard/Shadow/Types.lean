import TrustOnboard.Shadow.Builder

/-
  The data model of the shadow client: its records, the calls
  of its interface, the messages it receives, the platform it
  runs on and the events a run makes visible.

  The MQTT client is a part of the platform.  A call of it
  may deliver any messages to the callbacks of the shadow
  client before it answers, and it may answer in any way.
  The callbacks of the application may make any calls of the
  shadow interface.

  Key definitions include:
    * `cString`
    * `ToBeReceivedAckRecord`
    * `SubscriptionRecord`
    * `State`
    * `ShadowCall`
    * `Event`
    * `Port`
-/

------------------------------------------------------------
-- Strings In Memory
------------------------------------------------------------

namespace TrustOnboard

namespace Shadow

/- The string that begins where some memory begins. -/
def cString (memory : Bytes) : Bytes :=
  memory.takeWhile (fun b => b != 0)

/- What `strncpy` stores. -/
def strncpy (src : Bytes) (n : Nat) : Bytes :=
  src.take n ++ List.replicate (n - src.length) 0

/- `strstr` finds something. -/
def strstr (haystack needle : Bytes) : Bool :=
  decide (needle <:+: haystack)

/- What `snprintf` leaves in a buffer of the given size. -/
def snprintfText (size : Nat) (text : Bytes) : Bytes :=
  text.take (size - 1)

end Shadow

end TrustOnboard

------------------------------------------------------------
-- Records
------------------------------------------------------------

namespace TrustOnboard

namespace Shadow

open Mqtt (IoTError CString HandlerId)

/- `ShadowActions_t`. -/
inductive ShadowAction where
  | get
  | update
  | delete
  deriving DecidableEq, Repr

/- `Shadow_Ack_Status_t`. -/
inductive AckStatus where
  | timeout
  | rejected
  | accepted
  deriving DecidableEq, Repr

/- `ShadowAckTopicTypes_t`. -/
inductive AckTopicType where
  | accepted
  | rejected
  | action
  deriving DecidableEq, Repr

/- `MAX_SIZE_OF_THING_NAME`. -/
abbrev maxSizeOfThingName : Nat := 20

/- `MAX_SHADOW_TOPIC_LENGTH_BYTES`. -/
abbrev maxShadowTopicLengthBytes : Nat := 80

/- `MAX_SIZE_CLIENT_ID_WITH_SEQUENCE`. -/
abbrev maxSizeClientIdWithSequence : Nat := 90

/- `MAX_SIZE_CLIENT_TOKEN_CLIENT_SEQUENCE`. -/
abbrev maxSizeClientTokenClientSequence : Nat := 110

/- `MAX_ACKS_TO_COMEIN_AT_ANY_GIVEN_TIME`. -/
abbrev maxAcks : Nat := 10

/- `MAX_TOPICS_AT_ANY_GIVEN_TIME`. -/
abbrev maxTopics : Nat := 20

/- `MAX_JSON_TOKEN_EXPECTED`. -/
abbrev maxJsonTokenExpected : Nat := 120

/-
  `ToBeReceivedAckRecord_t`.  The two names are the bytes of
  their arrays; the timer is a part of the platform.
-/
structure ToBeReceivedAckRecord where
  clientTokenID : Bytes
  thingName : Bytes
  action : ShadowAction
  callback : Option HandlerId
  pCallbackContext : Nat
  isFree : Bool
  deriving DecidableEq

/- `SubscriptionRecord_t`, its topic up to the terminator. -/
structure SubscriptionRecord where
  topic : Bytes
  count : UInt8
  isFree : Bool
  isSticky : Bool
  deriving DecidableEq

/- A `jsonStruct_t` registered for deltas. -/
structure DeltaStruct where
  pKey : CString
  data : JsonData
  cb : Option HandlerId
  deriving DecidableEq

/- `jsmntype_t`. -/
inductive JsmnType where
  | undefined
  | object
  | array
  | string
  | primitive
  deriving DecidableEq, Repr

/- `jsmntok_t`, less its size. -/
structure JsmnTok where
  type : JsmnType
  start : Int
  stop : Int
  deriving DecidableEq

/- The variables of the shadow client. -/
structure State where
  ackWaitList : Fin maxAcks → ToBeReceivedAckRecord
  subscriptionList : Fin maxTopics → SubscriptionRecord
  myThingName : CString
  mqttClientID : CString
  clientTokenNum : UInt32
  shadowRxBuf : Bytes
  jsonTokenStruct : List JsmnTok
  tokenTable : List DeltaStruct
  deltaTopicSubscribedFlag : Bool
  shadowJsonVersionNum : UInt32
  shadowDiscardOldDeltaFlag : Bool

/- The variables at the start of the program. -/
def State.blank : State where
  ackWaitList := fun _ => ⟨[], [], .get, none, 0, true⟩
  subscriptionList := fun _ => ⟨[], 0, true, false⟩
  myThingName := ⟨[], by decide⟩
  mqttClientID := ⟨[], by decide⟩
  clientTokenNum := 0
  shadowRxBuf := []
  jsonTokenStruct := []
  tokenTable := []
  deltaTopicSubscribedFlag := false
  shadowJsonVersionNum := 0
  shadowDiscardOldDeltaFlag := true

end Shadow

end TrustOnboard

------------------------------------------------------------
-- Calls, Messages And Events
------------------------------------------------------------

namespace TrustOnboard

namespace Shadow

open Mqtt (IoTError CString HandlerId)

/-
  The calls of the shadow interface on a client.  A `none`
  pointer argument stands for NULL.
-/
inductive ShadowCall where
  | get
      (pThingName : Option CString)
      (callback : Option HandlerId)
      (pContextData : Nat)
      (timeoutSeconds : UInt8)
      (isPersistentSubscribe : Bool)
  | update
      (pThingName : Option CString)
      (pJsonString : Option CString)
      (callback : Option HandlerId)
      (pContextData : Nat)
      (timeoutSeconds : UInt8)
      (isPersistentSubscribe : Bool)
  | delete
      (pThingName : Option CString)
      (callback : Option HandlerId)
      (pContextData : Nat)
      (timeoutSeconds : UInt8)
      (isPersistentSubscribe : Bool)
  | yield (timeout : UInt32)
  | registerDelta (pStruct : DeltaStruct)
  | resetLastReceivedVersion
  | enableDiscardOldDeltaMsgs
  | disableDiscardOldDeltaMsgs
  deriving DecidableEq

/- The callbacks the shadow client gives to a subscribe. -/
inductive Receiver where
  | ackStatusCallback
  | shadowDeltaCallback
  deriving DecidableEq

/- The calls the shadow client makes of the MQTT client. -/
inductive MqttCall where
  | subscribe (topic : Bytes) (receiver : Receiver)
  | unsubscribe (topic : Bytes)
  | publish (topic payload : Bytes)
  | yield (timeout : UInt32)
  deriving DecidableEq

/-
  A message as a callback sees it.  The topic lies in the
  receive buffer and has no terminator: `behind` is what
  follows it in memory.
-/
structure Message where
  topic : Bytes
  behind : Bytes
  payload : Bytes
  deriving DecidableEq

/- The topic as the functions for strings read it. -/
def Message.topicName (m : Message) : Bytes :=
  cString (m.topic ++ m.behind)

/- A message that reaches a callback. -/
structure Arrival where
  receiver : Receiver
  message : Message
  deriving DecidableEq

/-
  What a run makes visible.

  `requested` and `returned` bracket the calls of the shadow
  interface, `called` and `answered` those of the MQTT
  client.  `arrived` is a message that reaches a callback.
  `acked` is the token and the status found in it, with the
  entry that waits for it.  `raised` is a subscription made
  or counted for an action, `tracked` the start of the wait
  for an acknowledgement, `expired` the end of its time,
  `notified` the callback of an action and `freed` the
  release of its entry.  `noRoom` is a subscribe that did not
  find two free entries, `readOutside` the read in front of
  the list.  The others are about versions and deltas.
-/
inductive Event where
  | requested (c : ShadowCall)
  | returned (c : ShadowCall) (rc : IoTError)
  | called (c : MqttCall)
  | answered (c : MqttCall) (rc : IoTError)
  | arrived (a : Arrival)
  | acked
      (token : Bytes)
      (status : AckStatus)
      (entry : Option (Fin maxAcks))
  | raised
      (thing : Bytes)
      (action : ShadowAction)
      (isSticky : Bool)
  | tracked
      (i : Fin maxAcks)
      (token thing : Bytes)
      (action : ShadowAction)
  | expired (i : Fin maxAcks)
  | notified
      (i : Fin maxAcks)
      (thing : Bytes)
      (action : ShadowAction)
      (status : AckStatus)
      (document : Bytes)
  | freed (i : Fin maxAcks)
  | noRoom
  | readOutside
  | ackVersion (version : UInt32)
  | deltaTaken (version : Option UInt32)
  | deltaIgnored (version : UInt32)
  | versionReset
  | discardOldDelta (enabled : Bool)
  | dataUpdated
      (index : Nat)
      (data : JsonData)
      (source : Bytes)
  | deltaNotified (index : Nat) (value : Bytes)
  deriving DecidableEq

end Shadow

end TrustOnboard

------------------------------------------------------------
-- The Platform
------------------------------------------------------------

namespace TrustOnboard

namespace Shadow

open Mqtt (IoTError CString HandlerId)

/-
  The platform of the shadow client: the memory the code
  runs into, the parser of JSON texts, the timers, the MQTT
  client and the application.  Each operation may depend on
  and change a private state `E`, so that a platform can
  behave in any way whatsoever.
-/
structure Port (E : Type) where
  /- `SHADOW_MAX_SIZE_OF_RX_BUFFER` -/
  rxBufferSize : Nat
  /- What follows the array `thingName` in a record. -/
  behindThingName : ShadowAction → Bytes
  /- `SubscriptionList[-1]` -/
  beforeList : E → SubscriptionRecord
  /- The content of `status` before it is set. -/
  unsetStatus : AckStatus
  jsmnParse : Bytes → Int × List JsmnTok
  /- The conversions `%f` and `%lf`. -/
  scanFloat : Bytes → Option Bytes
  hasTimerExpired : Fin maxAcks → E → Bool × E
  countdown : Fin maxAcks → UInt32 → E → E
  isClientConnected : E → Bool × E
  arrivals : MqttCall → E → List Arrival × E
  answer : MqttCall → E → IoTError × E
  onAction :
    HandlerId → Bytes → ShadowAction → AckStatus → Bytes →
      Nat → E → List ShadowCall × E
  onDelta :
    HandlerId → Bytes → Nat → E → List ShadowCall × E

/-
  A platform on which nothing ever arrives and every call of
  the MQTT client succeeds.  The bytes behind the array
  `thingName` are the padding of the record.
-/
def Port.calm : Port Unit where
  rxBufferSize := 513
  behindThingName := fun _ => [0, 0]
  beforeList := fun _ => ⟨[], 0, false, false⟩
  unsetStatus := .timeout
  jsmnParse := fun _ => (-2, [])
  scanFloat := fun _ => none
  hasTimerExpired := fun _ e => (false, e)
  countdown := fun _ _ e => e
  isClientConnected := fun e => (true, e)
  arrivals := fun _ e => ([], e)
  answer := fun _ e => (.success, e)
  onAction := fun _ _ _ _ _ _ e => ([], e)
  onDelta := fun _ _ _ e => ([], e)

/- What a platform with a script has in store. -/
structure Script where
  arrivals : List (List Arrival)
  answers : List IoTError
  expiries : List Bool
  calls : List (List ShadowCall)
  deriving DecidableEq

/-
  A platform that follows a script and is calm behind its
  end.  A call that does not read takes no arrivals.
-/
def Port.scripted
    (jsmnParse : Bytes → Int × List JsmnTok) :
    Port Script where
  rxBufferSize := 513
  behindThingName := fun _ => [0, 0]
  beforeList := fun _ => ⟨[], 0, false, false⟩
  unsetStatus := .timeout
  jsmnParse := jsmnParse
  scanFloat := fun _ => none
  hasTimerExpired := fun _ e =>
    (e.expiries.headD false,
      { e with expiries := e.expiries.tail })
  countdown := fun _ _ e => e
  isClientConnected := fun e => (true, e)
  arrivals := fun _ e =>
    (e.arrivals.headD [],
      { e with arrivals := e.arrivals.tail })
  answer := fun _ e =>
    (e.answers.headD .success,
      { e with answers := e.answers.tail })
  onAction := fun _ _ _ _ _ _ e =>
    (e.calls.headD [], { e with calls := e.calls.tail })
  onDelta := fun _ _ _ e =>
    (e.calls.headD [], { e with calls := e.calls.tail })

/- The shadow client and its platform as one state. -/
structure Sys (E : Type) where
  shadow : State
  env : E

/- Programs of the shadow client. -/
abbrev Code (E : Type) := Prog (Sys E) Event

/- Worlds of the shadow client. -/
abbrev Run (E : Type) := World (Sys E) Event

variable {E : Type}

/- Change the variables of the shadow client. -/
def modifyShadow
    (f : State → State) : Code E Unit :=
  Prog.modify (fun s => { s with shadow := f s.shadow })

/- Ask the platform. -/
def ask
    {α : Type}
    (f : E → α × E) : Code E α :=
  Prog.step (fun s =>
    ((f s.env).1, { s with env := (f s.env).2 }, []))

/- Record an event. -/
def record (e : Event) : Code E Unit :=
  Prog.emit (fun _ => e)

end Shadow

end TrustOnboard
