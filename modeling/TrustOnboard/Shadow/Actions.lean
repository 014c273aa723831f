import TrustOnboard.Shadow.Records

/-
  The calls of the shadow interface,
  `aws_iot_shadow_actions.c` and `aws_iot_shadow.c`.

  `services` ties the knot left open by the records: a call
  of the MQTT client delivers messages to the callbacks of
  the shadow client, these call the application, and the
  application may call the shadow interface again.  The level
  bounds the depth of this nesting; statements about runs
  quantify over it, so that every finite run is covered.

  Key definitions include:
    * `internalAction`
    * `shadowCall`
    * `mqttCall`
    * `services`
    * `session`
-/

------------------------------------------------------------
-- Actions
------------------------------------------------------------

namespace TrustOnboard

namespace Shadow

open Mqtt (IoTError CString HandlerId)

variable {E : Type}

/- The client token of a document that is to be sent. -/
def readClientToken
    (port : Port E)
    (json : Bytes) : Code E (Option Bytes) :=
  Prog.step (fun s =>
    let r :=
      extractClientToken port json s.shadow.jsonTokenStruct
    (r.1,
      { s with
        shadow := { s.shadow with jsonTokenStruct := r.2 } },
      []))

/- The subscriptions an action needs. -/
def prepareSubscriptions
    (port : Port E)
    (sv : Services E)
    (thing : Bytes)
    (action : ShadowAction)
    (isSticky : Bool) : Code E IoTError := do
  let present ←
    Prog.read (fun s =>
      s.shadow.isSubscriptionPresent thing action)
  if present then do
    modifyShadow (fun s =>
      s.incrementSubscriptionCnt thing action isSticky)
    pure .success
  else
    subscribeToShadowActionAcks port sv thing action isSticky

/- An action whose answer is awaited in a free entry. -/
def trackedAction
    (port : Port E)
    (sv : Services E)
    (thing : CString)
    (action : ShadowAction)
    (json : Bytes)
    (token : Bytes)
    (callback : HandlerId)
    (context : Nat)
    (timeoutSeconds : UInt32)
    (isSticky : Bool)
    (i : Fin maxAcks) : Code E IoTError := do
  let rc ←
    prepareSubscriptions port sv thing.bytes action isSticky
  if rc = .success then do
    record (.raised thing.bytes action isSticky)
    let rc ←
      publishToShadowAction sv thing.bytes action json
    if rc = .success then do
      addToAckWaitList port i thing action token callback
        context timeoutSeconds
      pure rc
    else pure rc
  else pure rc

/- `aws_iot_shadow_internal_action`. -/
def internalAction
    (port : Port E)
    (sv : Services E)
    (pThingName : Option CString)
    (action : ShadowAction)
    (pJsonDocumentToBeSent : Option Bytes)
    (callback : Option HandlerId)
    (context : Nat)
    (timeoutSeconds : UInt32)
    (isSticky : Bool) : Code E IoTError :=
  match pThingName, pJsonDocumentToBeSent with
  | some thing, some json => do
      let token ← readClientToken port json
      match token, callback with
      | some token, some handler => do
          let free ←
            Prog.read (fun s =>
              s.shadow.getNextFreeIndexOfAckWaitList)
          match free with
          | some i =>
              trackedAction port sv thing action json token
                handler context timeoutSeconds isSticky i
          | none => pure .failure
      | _, _ =>
          publishToShadowAction sv thing.bytes action json
  | _, _ => pure .nullValueError

/-
  `aws_iot_shadow_internal_get_request_json` and the same for
  a delete: a document with nothing but a client token.
-/
def requestJson : Code E Bytes :=
  Prog.step (fun s =>
    (ascii "\x7b\"clientToken\":\"" ++
        clientTokenText s.shadow.mqttClientID
          s.shadow.clientTokenNum ++
        ascii "\"\x7d",
      { s with
        shadow :=
          { s.shadow with
            clientTokenNum := s.shadow.clientTokenNum + 1 } },
      []))

/- What every call that needs a connection begins with. -/
def whenConnected
    (port : Port E)
    (body : Code E IoTError) : Code E IoTError := do
  let connected ← ask port.isClientConnected
  if connected then body else pure .mqttConnectionError

/- `aws_iot_shadow_reset_last_received_version`. -/
def resetLastReceivedVersion : Code E IoTError :=
  Prog.step (fun s =>
    (.success,
      { s with
        shadow := { s.shadow with shadowJsonVersionNum := 0 } },
      [.versionReset]))

/-
  `aws_iot_shadow_enable_discard_old_delta_msgs` and the call
  that disables it.
-/
def setDiscardOldDelta (enabled : Bool) : Code E IoTError :=
  Prog.step (fun s =>
    (.success,
      { s with
        shadow :=
          { s.shadow with
            shadowDiscardOldDeltaFlag := enabled } },
      [.discardOldDelta enabled]))

/- The calls of the shadow interface. -/
def shadowCall
    (port : Port E)
    (sv : Services E) : ShadowCall → Code E IoTError
  | .get pThingName callback context timeout persistent =>
      whenConnected port (do
        let json ← requestJson
        internalAction port sv pThingName .get (some json)
          callback context timeout.toUInt32 persistent)
  | .update pThingName pJsonString callback context timeout
      persistent =>
      whenConnected port
        (internalAction port sv pThingName .update
          (pJsonString.map CString.bytes) callback context
          timeout.toUInt32 persistent)
  | .delete pThingName callback context timeout persistent =>
      whenConnected port (do
        let json ← requestJson
        internalAction port sv pThingName .delete (some json)
          callback context timeout.toUInt32 persistent)
  | .yield timeout => do
      handleExpiredResponseCallbacks port sv
      sv.mqtt (.yield timeout)
  | .registerDelta pStruct =>
      whenConnected port
        (registerJsonTokenOnDelta sv pStruct)
  | .resetLastReceivedVersion => resetLastReceivedVersion
  | .enableDiscardOldDeltaMsgs => setDiscardOldDelta true
  | .disableDiscardOldDeltaMsgs => setDiscardOldDelta false

end Shadow

end TrustOnboard

------------------------------------------------------------
-- Runs
------------------------------------------------------------

namespace TrustOnboard

namespace Shadow

open Mqtt (IoTError CString HandlerId)

variable {E : Type}

/-
  The calls of the MQTT client that read from the network.  A
  publish of quality of service zero does not.
-/
def MqttCall.reads : MqttCall → Bool
  | .publish _ _ => false
  | _ => true

/- A call of the MQTT client with what arrives during it. -/
def mqttCall
    (port : Port E)
    (deliver : Arrival → Code E Unit)
    (c : MqttCall) : Code E IoTError := do
  record (.called c)
  if c.reads then do
    let arrivals ← ask (port.arrivals c)
    Prog.each deliver arrivals
  else pure ()
  let rc ← ask (port.answer c)
  record (.answered c rc)
  pure rc

/- A message that arrives is given to its callback. -/
def deliver
    (port : Port E)
    (sv : Services E)
    (a : Arrival) : Code E Unit :=
  match a.receiver with
  | .ackStatusCallback => ackStatusCallback port sv a.message
  | .shadowDeltaCallback =>
      shadowDeltaCallback port sv a.message

/- A call of the interface between its two events. -/
def loggedCall
    (port : Port E)
    (sv : Services E)
    (c : ShadowCall) : Code E IoTError := do
  record (.requested c)
  let rc ← shadowCall port sv c
  record (.returned c rc)
  pure rc

/- The services up to some level of nesting. -/
def services (port : Port E) : Nat → Services E
  | 0 => ⟨fun _ => .stop, fun _ => .stop⟩
  | level + 1 =>
      ⟨mqttCall port (deliver port (services port level)),
        loggedCall port (services port level)⟩

/- A run: calls of the interface one after another. -/
def session
    (port : Port E)
    (level : Nat)
    (calls : List ShadowCall) : Code E Unit :=
  Prog.each
    (fun c => (services port level).call c >>= fun _ => pure ())
    calls

end Shadow

end TrustOnboard
