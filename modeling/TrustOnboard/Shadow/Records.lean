import TrustOnboard.Shadow.Parsing
import TrustOnboard.Shadow.Topics

/-
  The records of the shadow client,
  `aws_iot_shadow_records.c`.

  The functions are programs.  What they need from outside is
  given to them as `Services`: the calls of the MQTT client,
  during which messages may arrive, and the calls of the
  shadow interface the application makes in a callback.

  Key definitions include:
    * `Services`
    * `subscribeToShadowActionAcks`
    * `unsubscribeFromAcceptedAndRejected`
    * `ackStatusCallback`
    * `handleExpiredResponseCallbacks`
    * `shadowDeltaCallback`
-/

------------------------------------------------------------
-- The Lists
------------------------------------------------------------

namespace TrustOnboard

namespace Shadow

open Mqtt (IoTError CString HandlerId)

variable {E : Type}

/- What a function calls that is not in the records. -/
structure Services (E : Type) where
  mqtt : MqttCall → Code E IoTError
  call : ShadowCall → Code E IoTError

namespace State

/- Change an entry of the list of subscriptions. -/
def setSubscription
    (s : State)
    (k : Fin maxTopics)
    (f : SubscriptionRecord → SubscriptionRecord) : State :=
  { s with
    subscriptionList :=
      Function.update s.subscriptionList k
        (f (s.subscriptionList k)) }

/- Change an entry of the list of awaited answers. -/
def setAck
    (s : State)
    (i : Fin maxAcks)
    (f : ToBeReceivedAckRecord → ToBeReceivedAckRecord) :
    State :=
  { s with
    ackWaitList :=
      Function.update s.ackWaitList i (f (s.ackWaitList i)) }

/- The first free entry of the list of subscriptions. -/
def firstFree (s : State) : Option (Fin maxTopics) :=
  (List.finRange maxTopics).find? (fun k =>
    (s.subscriptionList k).isFree)

/- `findIndexOfSubscriptionList`. -/
def findIndexOfSubscriptionList
    (s : State)
    (topic : Bytes) : Option (Fin maxTopics) :=
  (List.finRange maxTopics).find? (fun k =>
    !(s.subscriptionList k).isFree &&
      decide ((s.subscriptionList k).topic = topic))

/- `isSubscriptionPresent`. -/
def isSubscriptionPresent
    (s : State)
    (thing : Bytes)
    (action : ShadowAction) : Bool :=
  let accepted :=
    topicNameFromThingAndAction thing action .accepted
  let rejected :=
    topicNameFromThingAndAction thing action .rejected
  ((List.finRange maxTopics).any fun k =>
      !(s.subscriptionList k).isFree &&
        decide ((s.subscriptionList k).topic = accepted)) &&
    (List.finRange maxTopics).any fun k =>
      !(s.subscriptionList k).isFree &&
        decide
          ((s.subscriptionList k).topic ≠ accepted ∧
            (s.subscriptionList k).topic = rejected)

/- `incrementSubscriptionCnt`. -/
def incrementSubscriptionCnt
    (s : State)
    (thing : Bytes)
    (action : ShadowAction)
    (isSticky : Bool) : State :=
  { s with
    subscriptionList := fun k =>
      let entry := s.subscriptionList k
      if entry.isFree = false ∧
          (topicNameFromThingAndAction thing action
              .accepted = entry.topic ∨
            topicNameFromThingAndAction thing action
              .rejected = entry.topic) then
        { entry with
          count := entry.count + 1
          isSticky := isSticky }
      else entry }

/- `getNextFreeIndexOfAckWaitList`. -/
def getNextFreeIndexOfAckWaitList
    (s : State) : Option (Fin maxAcks) :=
  (List.finRange maxAcks).find? (fun i =>
    (s.ackWaitList i).isFree)

/- `initializeRecords`. -/
def initializeRecords (s : State) : State :=
  { s with
    ackWaitList := fun i =>
      { s.ackWaitList i with isFree := true }
    subscriptionList := fun k =>
      { s.subscriptionList k with
        isFree := true
        count := 0
        isSticky := false } }

end State

/- `getNextFreeIndexOfSubscriptionList`. -/
def getNextFreeIndexOfSubscriptionList :
    Code E (Option (Fin maxTopics)) :=
  Prog.step (fun s =>
    match s.shadow.firstFree with
    | none => (none, s, [])
    | some k =>
        (some k,
          { s with
            shadow :=
              s.shadow.setSubscription k (fun entry =>
                { entry with isFree := false }) }, []))

end Shadow

end TrustOnboard

------------------------------------------------------------
-- Subscriptions
------------------------------------------------------------

namespace TrustOnboard

namespace Shadow

open Mqtt (IoTError CString HandlerId)

variable {E : Type}

/- Print a topic into an entry and subscribe to it. -/
def subscribeEntry
    (sv : Services E)
    (k : Fin maxTopics)
    (topic : Bytes) : Code E IoTError := do
  modifyShadow (fun s =>
    s.setSubscription k (fun entry =>
      { entry with topic := topic }))
  sv.mqtt (.subscribe topic .ackStatusCallback)

/- The count and the flag of an entry that is subscribed. -/
def settleEntry
    (k : Fin maxTopics)
    (isSticky : Bool) : Code E Unit :=
  modifyShadow (fun s =>
    s.setSubscription k (fun entry =>
      { entry with count := 1, isSticky := isSticky }))

/-
  The part of `subscribeToShadowActionAcks` with two entries,
  and whether both are to be cleared.
-/
def subscribeBoth
    (sv : Services E)
    (thing : Bytes)
    (action : ShadowAction)
    (isSticky : Bool)
    (accepted rejected : Fin maxTopics) :
    Code E (IoTError × Bool) := do
  let rc ←
    subscribeEntry sv accepted
      (topicNameFromThingAndAction thing action .accepted)
  if rc = .success then do
    settleEntry accepted isSticky
    let rc ←
      subscribeEntry sv rejected
        (topicNameFromThingAndAction thing action .rejected)
    if rc = .success then do
      settleEntry rejected isSticky
      pure (rc, false)
    else pure (rc, true)
  else pure (rc, true)

/- Free an entry of the list of subscriptions. -/
def freeEntry (k : Fin maxTopics) : Code E Unit :=
  modifyShadow (fun s =>
    s.setSubscription k (fun entry =>
      { entry with isFree := true }))

/- `SubscriptionList[indexAcceptedSubList]`. -/
def acceptedEntry
    (port : Port E) :
    Option (Fin maxTopics) → Code E SubscriptionRecord
  | some k => Prog.read (fun s => s.shadow.subscriptionList k)
  | none => do
      record .readOutside
      Prog.read (fun s => port.beforeList s.env)

/- The end of `subscribeToShadowActionAcks`. -/
def clearBothEntries
    (port : Port E)
    (sv : Services E)
    (accepted rejected : Option (Fin maxTopics)) :
    Code E Unit := do
  match accepted, rejected with
  | some k, _ => freeEntry k
  | none, some k => freeEntry k
  | none, none => pure ()
  let entry ← acceptedEntry port accepted
  if entry.count = 1 then do
    let _ ← sv.mqtt (.unsubscribe entry.topic)
    pure ()
  else pure ()

/- `subscribeToShadowActionAcks`. -/
def subscribeToShadowActionAcks
    (port : Port E)
    (sv : Services E)
    (thing : Bytes)
    (action : ShadowAction)
    (isSticky : Bool) : Code E IoTError := do
  let accepted ← getNextFreeIndexOfSubscriptionList
  let rejected ← getNextFreeIndexOfSubscriptionList
  let r ←
    match accepted, rejected with
    | some a, some r =>
        subscribeBoth sv thing action isSticky a r
    | _, _ => do
        record .noRoom
        pure (.success, true)
  if r.2 then do
    clearBothEntries port sv accepted rejected
    pure r.1
  else pure r.1

/-
  Either half of `unsubscribeFromAcceptedAndRejected`, for
  its topic.
-/
def unsubscribeFromTopic
    (sv : Services E)
    (topic : Bytes) : Code E Unit := do
  let found ←
    Prog.read (fun s =>
      (s.shadow.findIndexOfSubscriptionList topic).map
        (fun k => (k, s.shadow.subscriptionList k)))
  match found with
  | none => pure ()
  | some (k, entry) =>
      if entry.isSticky = false ∧ entry.count = 1 then do
        let rc ← sv.mqtt (.unsubscribe topic)
        if rc = .success then freeEntry k else pure ()
      else if 1 < entry.count then
        modifyShadow (fun s =>
          s.setSubscription k (fun entry =>
            { entry with count := entry.count - 1 }))
      else pure ()

/- `unsubscribeFromAcceptedAndRejected`. -/
def unsubscribeFromAcceptedAndRejected
    (port : Port E)
    (sv : Services E)
    (i : Fin maxAcks) : Code E Unit := do
  let r ← Prog.read (fun s => s.shadow.ackWaitList i)
  unsubscribeFromTopic sv (r.topic port .accepted)
  unsubscribeFromTopic sv (r.topic port .rejected)

/- `publishToShadowAction`. -/
def publishToShadowAction
    (sv : Services E)
    (thing : Bytes)
    (action : ShadowAction)
    (json : Bytes) : Code E IoTError :=
  sv.mqtt
    (.publish
      (topicNameFromThingAndAction thing action .action)
      json)

end Shadow

end TrustOnboard

------------------------------------------------------------
-- Awaited Answers
------------------------------------------------------------

namespace TrustOnboard

namespace Shadow

open Mqtt (IoTError CString HandlerId)

variable {E : Type}

/- `addToAckWaitList`. -/
def addToAckWaitList
    (port : Port E)
    (i : Fin maxAcks)
    (thing : CString)
    (action : ShadowAction)
    (token : Bytes)
    (callback : HandlerId)
    (context : Nat)
    (timeoutSeconds : UInt32) : Code E Unit :=
  Prog.step (fun s =>
    ((),
      { s with
        shadow :=
          s.shadow.setAck i (fun _ =>
            ackRecord thing action token (some callback)
              context)
        env := port.countdown i timeoutSeconds s.env },
      [.tracked i token thing.bytes action]))

/- The callback of an action, with the calls it makes. -/
def notify
    (port : Port E)
    (sv : Services E)
    (i : Fin maxAcks)
    (status : AckStatus) : Code E Unit := do
  let r ← Prog.read (fun s => s.shadow.ackWaitList i)
  let document ← Prog.read (fun s => s.shadow.shadowRxBuf)
  match r.callback with
  | none => pure ()
  | some handler => do
      record
        (.notified i (r.nameString port) r.action status
          document)
      let calls ←
        ask
          (port.onAction handler (r.nameString port)
            r.action status document r.pCallbackContext)
      Prog.each (fun c => sv.call c >>= fun _ => pure ())
        calls

/- `AckWaitList[i].isFree = true`. -/
def freeAck (i : Fin maxAcks) : Code E Unit :=
  Prog.step (fun s =>
    ((),
      { s with
        shadow :=
          s.shadow.setAck i (fun r =>
            { r with isFree := true }) },
      [.freed i]))

/- The record of a version found in an acknowledgement. -/
def recordAckVersion
    (s : State)
    (version : Option UInt32) : State × List Event :=
  match version with
  | none => (s, [])
  | some v =>
      (if s.shadowJsonVersionNum < v then
          { s with shadowJsonVersionNum := v }
        else s,
        [.ackVersion v])

/- The awaited answer a token belongs to. -/
def findAwaited
    (port : Port E)
    (s : State)
    (token : Bytes) : Option (Fin maxAcks) :=
  (List.finRange maxAcks).find? (fun i =>
    !(s.ackWaitList i).isFree &&
      decide ((s.ackWaitList i).tokenString port = token))

/-
  `AckStatusCallback` up to the callback of an action: the
  state, the events, and the entry and the status it calls
  back with.
-/
def takeAck
    (port : Port E)
    (s : State)
    (m : Message) :
    State × List Event × Option (Fin maxAcks × AckStatus) :=
  if port.rxBufferSize < m.payload.length then (s, [], none)
  else
    let json := cString m.payload
    let r := isJsonValidAndParse port json s.jsonTokenStruct
    let s :=
      { s with shadowRxBuf := json, jsonTokenStruct := r.2 }
    match r.1 with
    | none => (s, [], none)
    | some tokenCount =>
        let v :=
          recordAckVersion s
            (if isAckForMyThingName m.topicName
                s.myThingName.bytes then
              extractVersionNumber json r.2 tokenCount
            else none)
        let t :=
          extractClientToken port json v.1.jsonTokenStruct
        let s := { v.1 with jsonTokenStruct := t.2 }
        let status := ackStatus port.unsetStatus m.topicName
        match t.1 with
        | none => (s, v.2, none)
        | some token =>
            if status = .accepted ∨ status = .rejected then
              let found := findAwaited port s token
              (s, .acked token status found :: v.2,
                found.map (fun i => (i, status)))
            else (s, v.2, none)

/- `AckStatusCallback`. -/
def ackStatusCallback
    (port : Port E)
    (sv : Services E)
    (m : Message) : Code E Unit := do
  let hit ←
    Prog.step (fun s =>
      let r := takeAck port s.shadow m
      (r.2.2, { s with shadow := r.1 },
        r.2.1 ++ [.arrived ⟨.ackStatusCallback, m⟩]))
  match hit with
  | none => pure ()
  | some (i, status) => do
      notify port sv i status
      unsubscribeFromAcceptedAndRejected port sv i
      freeAck i

/- One round of `HandleExpiredResponseCallbacks`. -/
def handleExpiredResponse
    (port : Port E)
    (sv : Services E)
    (i : Fin maxAcks) : Code E Unit := do
  let r ← Prog.read (fun s => s.shadow.ackWaitList i)
  if r.isFree then pure ()
  else do
    let expired ← ask (port.hasTimerExpired i)
    if expired then do
      record (.expired i)
      notify port sv i .timeout
      freeAck i
      unsubscribeFromAcceptedAndRejected port sv i
    else pure ()

/- `HandleExpiredResponseCallbacks`. -/
def handleExpiredResponseCallbacks
    (port : Port E)
    (sv : Services E) : Code E Unit :=
  Prog.each (handleExpiredResponse port sv)
    (List.finRange maxAcks)

end Shadow

end TrustOnboard

------------------------------------------------------------
-- Deltas
------------------------------------------------------------

namespace TrustOnboard

namespace Shadow

open Mqtt (IoTError CString HandlerId)

variable {E : Type}

/- The topic of the deltas of a thing. -/
def deltaTopic (thing : Bytes) : Bytes :=
  snprintfText maxShadowTopicLengthBytes
    (ascii "$aws/things/" ++ thing ++
      ascii "/shadow/update/delta")

/- `registerJsonTokenOnDelta`. -/
def registerJsonTokenOnDelta
    (sv : Services E)
    (pStruct : DeltaStruct) : Code E IoTError := do
  let subscribed ←
    Prog.read (fun s => s.shadow.deltaTopicSubscribedFlag)
  let rc ←
    if subscribed then pure IoTError.success
    else do
      let thing ←
        Prog.read (fun s => s.shadow.myThingName.bytes)
      let rc ←
        sv.mqtt
          (.subscribe (deltaTopic thing) .shadowDeltaCallback)
      modifyShadow (fun s =>
        { s with deltaTopicSubscribedFlag := true })
      pure rc
  let full ←
    Prog.read (fun s =>
      decide
        (maxJsonTokenExpected ≤ s.shadow.tokenTable.length))
  if full then pure .failure
  else do
    modifyShadow (fun s =>
      { s with tokenTable := s.tokenTable ++ [pStruct] })
    pure rc

/-
  `shadow_delta_callback` up to its loop: the number of
  tokens when the delta is taken.
-/
def takeDelta
    (port : Port E)
    (s : State)
    (m : Message) : State × List Event × Option Nat :=
  if port.rxBufferSize < m.payload.length then (s, [], none)
  else
    let json := cString m.payload
    let r := isJsonValidAndParse port json s.jsonTokenStruct
    let s :=
      { s with shadowRxBuf := json, jsonTokenStruct := r.2 }
    match r.1 with
    | none => (s, [], none)
    | some tokenCount =>
        if s.shadowDiscardOldDeltaFlag then
          match extractVersionNumber json r.2 tokenCount with
          | none => (s, [.deltaTaken none], some tokenCount)
          | some v =>
              if s.shadowJsonVersionNum < v then
                ({ s with shadowJsonVersionNum := v },
                  [.deltaTaken (some v)], some tokenCount)
              else (s, [.deltaIgnored v], none)
        else (s, [.deltaTaken none], some tokenCount)

/-
  What a round of the loop finds for a registered token, read
  from the text in `shadowRxBuf`.
-/
def updateToken
    (port : Port E)
    (tokenCount index : Nat)
    (s : State) :
    Option (Option HandlerId × Bytes) × State × List Event :=
  match s.tokenTable[index]? with
  | none => (none, s, [])
  | some d =>
      match
        isJsonKeyMatchingAndUpdateValue port s.shadowRxBuf
          s.jsonTokenStruct tokenCount d with
      | none => (none, s, [])
      | some (data, value) =>
          (some (d.cb, value),
            { s with
              tokenTable :=
                s.tokenTable.set index
                  { d with data := data } },
            d.cb.toList.map (fun _ =>
                .deltaNotified index value) ++
              [.dataUpdated index data s.shadowRxBuf])

/- One round of the loop of `shadow_delta_callback`. -/
def dispatchToken
    (port : Port E)
    (sv : Services E)
    (tokenCount index : Nat) : Code E Unit := do
  let hit ←
    Prog.step (fun s =>
      let r := updateToken port tokenCount index s.shadow
      (r.1, { s with shadow := r.2.1 }, r.2.2))
  match hit with
  | some (some handler, value) => do
      let calls ← ask (port.onDelta handler value index)
      Prog.each (fun c => sv.call c >>= fun _ => pure ())
        calls
  | _ => pure ()

/- `shadow_delta_callback`. -/
def shadowDeltaCallback
    (port : Port E)
    (sv : Services E)
    (m : Message) : Code E Unit := do
  let taken ←
    Prog.step (fun s =>
      let r := takeDelta port s.shadow m
      (r.2.2, { s with shadow := r.1 },
        r.2.1 ++ [.arrived ⟨.shadowDeltaCallback, m⟩]))
  match taken with
  | none => pure ()
  | some tokenCount =>
      Prog.each (dispatchToken port sv tokenCount)
        (List.range maxJsonTokenExpected)

end Shadow

end TrustOnboard
