import TrustOnboard.Shadow.Types

/-
  The topics of the shadow client and what is read off them.

  A topic is printed into a buffer of 80 bytes.  The thing
  name of a request is kept in an array of 20 bytes, which
  `strncpy` does not terminate when the name fills it: the
  name read back then goes on with what follows the array.

  Key definitions include:
    * `topicNameFromThingAndAction`
    * `ackTopic`
    * `isAckForMyThingName`
    * `ToBeReceivedAckRecord.nameString`

  Key results include:
    * `cString_strncpy`
    * `ackTopic_injective`
    * `sameTopics_iff`
-/

------------------------------------------------------------
-- Names
------------------------------------------------------------

namespace TrustOnboard

namespace Shadow

open Mqtt (IoTError CString HandlerId)

/- What is printed for an action. -/
def ShadowAction.word : ShadowAction → Bytes
  | .get => ascii "get"
  | .update => ascii "update"
  | .delete => ascii "delete"

/- What is printed for an acknowledgement. -/
def AckTopicType.word : AckTopicType → Bytes
  | .accepted => ascii "accepted"
  | .rejected => ascii "rejected"
  | .action => []

/- `$aws/things/{thingName}/shadow/{action}/{ack}`. -/
def ackTopic
    (thing : Bytes)
    (action : ShadowAction)
    (ack : AckTopicType) : Bytes :=
  ascii "$aws/things/" ++ thing ++ ascii "/shadow/" ++
    action.word ++ ascii "/" ++ ack.word

/- `topicNameFromThingAndAction`. -/
def topicNameFromThingAndAction
    (thing : Bytes)
    (action : ShadowAction)
    (ackType : AckTopicType) : Bytes :=
  snprintfText maxShadowTopicLengthBytes
    (match ackType with
    | .action =>
        ascii "$aws/things/" ++ thing ++ ascii "/shadow/" ++
          action.word
    | _ => ackTopic thing action ackType)

/- `isAckForMyThingName`. -/
def isAckForMyThingName
    (topicName myThingName : Bytes) : Bool :=
  strstr topicName myThingName &&
    (strstr topicName (ascii "get/accepted") ||
      strstr topicName (ascii "update/accepted") ||
      strstr topicName (ascii "delta"))

/- The status `AckStatusCallback` reads off a topic. -/
def ackStatus
    (unsetStatus : AckStatus)
    (topicName : Bytes) : AckStatus :=
  if strstr topicName (ascii "accepted") then .accepted
  else if strstr topicName (ascii "rejected") then .rejected
  else unsetStatus

variable {E : Type}

namespace ToBeReceivedAckRecord

/- The thing name of a record, read as a string. -/
def nameString
    (port : Port E)
    (r : ToBeReceivedAckRecord) : Bytes :=
  cString (r.thingName ++ port.behindThingName r.action)

/- The token of a record, read as a string. -/
def tokenString
    (port : Port E)
    (r : ToBeReceivedAckRecord) : Bytes :=
  cString
    (r.clientTokenID ++ r.thingName ++
      port.behindThingName r.action)

end ToBeReceivedAckRecord

/- What `addToAckWaitList` stores. -/
def ackRecord
    (thing : CString)
    (action : ShadowAction)
    (token : Bytes)
    (callback : Option HandlerId)
    (context : Nat) : ToBeReceivedAckRecord where
  clientTokenID := strncpy token maxSizeClientIdWithSequence
  thingName := strncpy thing.bytes maxSizeOfThingName
  action := action
  callback := callback
  pCallbackContext := context
  isFree := false

end Shadow

end TrustOnboard

------------------------------------------------------------
-- Reading Names Back
------------------------------------------------------------

namespace TrustOnboard

namespace Shadow

open Mqtt (IoTError CString HandlerId)

/- A string ends at its terminator. -/
theorem cString_append_zero
    {s : Bytes}
    (hFree : (0 : UInt8) ∉ s)
    (rest : Bytes) :
    cString (s ++ 0 :: rest) = s := by
  unfold cString
  rw [List.takeWhile_append_of_pos]
  · simp
  · intro b hb
    have hNe : b ≠ 0 := fun h => hFree (h ▸ hb)
    simpa using hNe

theorem cString_append
    {s : Bytes}
    (hFree : (0 : UInt8) ∉ s)
    (rest : Bytes) :
    cString (s ++ rest) = s ++ cString rest := by
  unfold cString
  rw [List.takeWhile_append_of_pos]
  intro b hb
  have hNe : b ≠ 0 := fun h => hFree (h ▸ hb)
  simpa using hNe

/- A copy that does not fill its array is terminated. -/
theorem cString_strncpy
    {s : Bytes}
    (hFree : (0 : UInt8) ∉ s)
    {n : Nat}
    (hShort : s.length < n)
    (rest : Bytes) :
    cString (strncpy s n ++ rest) = s := by
  unfold strncpy
  obtain ⟨k, hk⟩ : ∃ k, n - s.length = k + 1 :=
    ⟨n - s.length - 1, by omega⟩
  rw [List.take_of_length_le (by omega), hk,
    List.replicate_succ, List.append_assoc, List.cons_append]
  exact cString_append_zero hFree _

/- A copy that fills it runs on into what follows. -/
theorem cString_strncpy_long
    {s : Bytes}
    (hFree : (0 : UInt8) ∉ s)
    {n : Nat}
    (hLong : n ≤ s.length)
    (rest : Bytes) :
    cString (strncpy s n ++ rest) =
      s.take n ++ cString rest := by
  unfold strncpy
  rw [Nat.sub_eq_zero_of_le hLong, List.replicate_zero,
    List.append_nil]
  refine cString_append ?_ rest
  exact fun hMem => hFree (List.mem_of_mem_take hMem)

variable {E : Type}

/- When the thing name of a record is the requested one. -/
theorem nameString_eq_iff
    (port : Port E)
    (thing : CString)
    (action : ShadowAction)
    (token : Bytes)
    (callback : Option HandlerId)
    (context : Nat) :
    (ackRecord thing action token callback
        context).nameString port = thing.bytes ↔
      thing.bytes.length < maxSizeOfThingName ∨
        cString (port.behindThingName action) =
          thing.bytes.drop maxSizeOfThingName := by
  unfold ToBeReceivedAckRecord.nameString ackRecord
  simp only
  rcases Nat.lt_or_ge thing.bytes.length maxSizeOfThingName
    with hShort | hLong
  · rw [cString_strncpy thing.nul_free hShort]
    simp [hShort]
  · rw [cString_strncpy_long thing.nul_free hLong]
    have hNot :
        ¬ thing.bytes.length < maxSizeOfThingName := by
      omega
    rw [or_iff_right hNot]
    constructor
    · intro hEq
      have hBoth :
          thing.bytes.take maxSizeOfThingName ++
              cString (port.behindThingName action) =
            thing.bytes.take maxSizeOfThingName ++
              thing.bytes.drop maxSizeOfThingName := by
        rw [List.take_append_drop]
        exact hEq
      exact List.append_cancel_left hBoth
    · intro hEq
      rw [hEq, List.take_append_drop]

end Shadow

end TrustOnboard

------------------------------------------------------------
-- Topics
------------------------------------------------------------

namespace TrustOnboard

namespace Shadow

open Mqtt (IoTError CString HandlerId)

/- What follows the thing name in a topic. -/
def ackSuffix
    (action : ShadowAction)
    (ack : AckTopicType) : Bytes :=
  ascii "/shadow/" ++ action.word ++ ascii "/" ++ ack.word

theorem ackTopic_eq
    (thing : Bytes)
    (action : ShadowAction)
    (ack : AckTopicType) :
    ackTopic thing action ack =
      ascii "$aws/things/" ++ thing ++
        ackSuffix action ack := by
  simp [ackTopic, ackSuffix]

/- The two acknowledgements of an action. -/
def AckTopicType.IsAck (ack : AckTopicType) : Prop :=
  ack ≠ .action

theorem topicNameFromThingAndAction_ack
    {ack : AckTopicType}
    (hAck : ack.IsAck)
    (thing : Bytes)
    (action : ShadowAction) :
    topicNameFromThingAndAction thing action ack =
      (ackTopic thing action ack).take 79 := by
  cases ack with
  | accepted => rfl
  | rejected => rfl
  | action => exact absurd rfl hAck

theorem length_ackTopic
    (thing : Bytes)
    (action : ShadowAction)
    (ack : AckTopicType) :
    (ackTopic thing action ack).length =
      12 + thing.length + (ackSuffix action ack).length := by
  have hHead : (ascii "$aws/things/").length = 12 := by
    decide
  rw [ackTopic_eq, List.length_append, List.length_append,
    hHead]

theorem length_ackSuffix_le
    (action : ShadowAction)
    (ack : AckTopicType) :
    (ackSuffix action ack).length ≤ 23 := by
  cases action <;> cases ack <;> decide

/- A topic is not cut off when it has at most 79 bytes. -/
theorem topicName_whole_iff
    {ack : AckTopicType}
    (hAck : ack.IsAck)
    (thing : Bytes)
    (action : ShadowAction) :
    topicNameFromThingAndAction thing action ack =
        ackTopic thing action ack ↔
      12 + thing.length + (ackSuffix action ack).length ≤
        79 := by
  rw [topicNameFromThingAndAction_ack hAck,
    List.take_eq_self_iff, length_ackTopic]

/- The end of a topic tells its action and its kind. -/
theorem ackSuffix_end
    {action action' : ShadowAction}
    {ack ack' : AckTopicType}
    (hAck : ack.IsAck)
    (hAck' : ack'.IsAck)
    (hEnd :
      (ackSuffix action ack).reverse.take 12 =
        (ackSuffix action' ack').reverse.take 12) :
    action = action' ∧ ack = ack' := by
  cases ack with
  | action => exact absurd rfl hAck
  | accepted | rejected =>
      cases ack' with
      | action => exact absurd rfl hAck'
      | accepted | rejected =>
          revert hEnd
          cases action <;> cases action' <;> decide

theorem reverse_ackTopic
    {ack : AckTopicType}
    (hAck : ack.IsAck)
    (thing : Bytes)
    (action : ShadowAction) :
    (ackTopic thing action ack).reverse.take 12 =
      (ackSuffix action ack).reverse.take 12 := by
  have hLong : 12 ≤ (ackSuffix action ack).length := by
    cases ack with
    | action => exact absurd rfl hAck
    | accepted | rejected => cases action <;> decide
  rw [ackTopic_eq, List.reverse_append]
  refine List.take_append_of_le_length ?_
  rw [List.length_reverse]
  exact hLong

/- A topic tells its thing, its action and its kind. -/
theorem ackTopic_injective
    {thing thing' : Bytes}
    {action action' : ShadowAction}
    {ack ack' : AckTopicType}
    (hAck : ack.IsAck)
    (hAck' : ack'.IsAck)
    (hEq :
      ackTopic thing action ack =
        ackTopic thing' action' ack') :
    thing = thing' ∧ action = action' ∧ ack = ack' := by
  have hEnd :
      (ackSuffix action ack).reverse.take 12 =
        (ackSuffix action' ack').reverse.take 12 := by
    rw [← reverse_ackTopic hAck thing,
      ← reverse_ackTopic hAck' thing', hEq]
  rcases ackSuffix_end hAck hAck' hEnd with ⟨rfl, rfl⟩
  rw [ackTopic_eq, ackTopic_eq, List.append_assoc,
    List.append_assoc] at hEq
  have hTail := List.append_cancel_left hEq
  exact ⟨List.append_cancel_right hTail, rfl, rfl⟩

end Shadow

end TrustOnboard

------------------------------------------------------------
-- Request And Completion
------------------------------------------------------------

namespace TrustOnboard

namespace Shadow

open Mqtt (IoTError CString HandlerId)

variable {E : Type}

/-
  A topic `unsubscribeFromAcceptedAndRejected` computes for a
  record.
-/
def ToBeReceivedAckRecord.topic
    (port : Port E)
    (r : ToBeReceivedAckRecord)
    (ack : AckTopicType) : Bytes :=
  topicNameFromThingAndAction (r.nameString port) r.action
    ack

/-
  A request and its completion name the same topics: the two
  that are subscribed are the documented ones and differ, the
  record leads back to them, and it gives the thing name to
  the callback.
-/
structure SameTopics
    (port : Port E)
    (thing : CString)
    (action : ShadowAction)
    (r : ToBeReceivedAckRecord) : Prop where
  distinct :
    topicNameFromThingAndAction thing.bytes action
        .accepted ≠
      topicNameFromThingAndAction thing.bytes action
        .rejected
  accepted :
    topicNameFromThingAndAction thing.bytes action
        .accepted =
      ackTopic thing.bytes action .accepted
  rejected :
    topicNameFromThingAndAction thing.bytes action
        .rejected =
      ackTopic thing.bytes action .rejected
  acceptedAgain :
    r.topic port .accepted =
      topicNameFromThingAndAction thing.bytes action
        .accepted
  rejectedAgain :
    r.topic port .rejected =
      topicNameFromThingAndAction thing.bytes action
        .rejected
  name : r.nameString port = thing.bytes

theorem length_ackSuffix_rejected
    (action : ShadowAction) :
    (ackSuffix action .rejected).length =
      (ackSuffix action .accepted).length := by
  cases action <;> decide

/-
  They do exactly for a name that leaves room for its
  terminator, and otherwise when the memory behind the array
  happens to go on as the name does and the topics still fit
  into their buffers.
-/
theorem sameTopics_iff
    (port : Port E)
    (thing : CString)
    (action : ShadowAction)
    (token : Bytes)
    (callback : Option HandlerId)
    (context : Nat) :
    SameTopics port thing action
        (ackRecord thing action token callback context) ↔
      thing.bytes.length < maxSizeOfThingName ∨
        (cString (port.behindThingName action) =
            thing.bytes.drop maxSizeOfThingName ∧
          12 + thing.bytes.length +
              (ackSuffix action .accepted).length ≤ 79) := by
  have hAck : AckTopicType.accepted.IsAck := by
    simp [AckTopicType.IsAck]
  have hAck' : AckTopicType.rejected.IsAck := by
    simp [AckTopicType.IsAck]
  have hName :=
    nameString_eq_iff port thing action token callback
      context
  have hSuffix := length_ackSuffix_le action .accepted
  have hSize : maxSizeOfThingName = 20 := rfl
  constructor
  · intro hSame
    have hFits :=
      (topicName_whole_iff hAck thing.bytes action).mp
        hSame.accepted
    exact
      (hName.mp hSame.name).imp id (fun h => ⟨h, hFits⟩)
  · intro hWhen
    have hRead := hName.mpr (hWhen.imp id And.left)
    have hFits :
        12 + thing.bytes.length +
            (ackSuffix action .accepted).length ≤ 79 := by
      rcases hWhen with hShort | hBoth
      · omega
      · exact hBoth.2
    have hAccepted :=
      (topicName_whole_iff hAck thing.bytes action).mpr hFits
    have hRejected :=
      (topicName_whole_iff hAck' thing.bytes action).mpr
        (by rw [length_ackSuffix_rejected]; exact hFits)
    refine ⟨?_, hAccepted, hRejected, ?_, ?_, hRead⟩
    · rw [hAccepted, hRejected]
      intro hEq
      cases (ackTopic_injective hAck hAck' hEq).2.2
    · unfold ToBeReceivedAckRecord.topic
      rw [hRead]
      rfl
    · unfold ToBeReceivedAckRecord.topic
      rw [hRead]
      rfl

/- A name of 21 bytes. -/
def longName : CString :=
  ⟨ascii "greenhouse-sensor-021", by decide⟩

/-
  The record of a longer name leads to the topics of another
  thing, where the padding behind the array is zero.
-/
theorem longName_crossed :
    ¬ SameTopics Port.calm longName .get
      (ackRecord longName .get (ascii "c-0") (some 0) 0) := by
  intro hSame
  have hName := hSame.name
  revert hName
  decide

end Shadow

end TrustOnboard
