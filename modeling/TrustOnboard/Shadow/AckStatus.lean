import TrustOnboard.Shadow.Actions

/-
  The status of an acknowledgement.

  `AckStatusCallback` searches the text that begins at the
  topic for the word `accepted`.  That text does not end with
  the topic, and the topic contains the thing name: a
  rejected message is taken for an accepted one when either
  of them has the word.

  Key definitions include:
    * `AckTopicType.status`

  Key results include:
    * `takeAck_status`
    * `ackStatus_right_iff`
-/

------------------------------------------------------------
-- The Status
------------------------------------------------------------

namespace TrustOnboard

namespace Shadow

open Mqtt (IoTError CString HandlerId)

variable {E : Type}

/- The status a topic stands for. -/
def AckTopicType.status : AckTopicType → AckStatus
  | .accepted => .accepted
  | .rejected => .rejected
  | .action => .timeout

theorem strstr_iff
    (haystack needle : Bytes) :
    strstr haystack needle = true ↔ needle <:+: haystack := by
  simp [strstr]

/- The topic of a message is the beginning of its text. -/
theorem topicName_of_free
    {m : Message}
    (hFree : (0 : UInt8) ∉ m.topic) :
    m.topicName = m.topic ++ cString m.behind :=
  cString_append hFree _

theorem zero_not_mem_ackTopic
    (thing : CString)
    (action : ShadowAction)
    (ack : AckTopicType) :
    (0 : UInt8) ∉ ackTopic thing.bytes action ack := by
  have hHead : (0 : UInt8) ∉ ascii "$aws/things/" := by
    decide
  have hTail : (0 : UInt8) ∉ ackSuffix action ack := by
    cases action <;> cases ack <;> decide
  rw [ackTopic_eq]
  simp [hHead, thing.nul_free, hTail]

/- The word of an acknowledgement is in its topic. -/
theorem word_infix
    {m : Message}
    {thing : CString}
    {action : ShadowAction}
    {ack : AckTopicType}
    (hTopic : m.topic = ackTopic thing.bytes action ack) :
    ack.word <:+: m.topicName := by
  have hFree : (0 : UInt8) ∉ m.topic := by
    rw [hTopic]
    exact zero_not_mem_ackTopic thing action ack
  rw [topicName_of_free hFree, hTopic]
  exact ⟨_, _, rfl⟩

/- The callback is called with the status of the topic. -/
theorem takeAck_status
    {port : Port E}
    {s : State}
    {m : Message}
    {i : Fin maxAcks}
    {status : AckStatus}
    (hInvoked :
      (takeAck port s m).2.2 = some (i, status)) :
    status = ackStatus port.unsetStatus m.topicName := by
  unfold takeAck at hInvoked
  split at hInvoked
  · cases hInvoked
  simp only at hInvoked
  split at hInvoked
  · cases hInvoked
  split at hInvoked
  · cases hInvoked
  split at hInvoked
  · rcases Option.map_eq_some_iff.mp hInvoked with
      ⟨j, _, hPair⟩
    cases hPair
    rfl
  · cases hInvoked

/-
  When the callback of an action is called for a message on
  its accepted or rejected topic, the status is right exactly
  if the topic is the accepted one or the word `accepted` is
  not in the text that begins at the topic.
-/
theorem ackStatus_right_iff
    {port : Port E}
    {s : State}
    {m : Message}
    {thing : CString}
    {action : ShadowAction}
    {ack : AckTopicType}
    (hAck : ack.IsAck)
    (hTopic : m.topic = ackTopic thing.bytes action ack)
    {i : Fin maxAcks}
    {status : AckStatus}
    (hInvoked :
      (takeAck port s m).2.2 = some (i, status)) :
    status = ack.status ↔
      ack = .accepted ∨
        ¬ ascii "accepted" <:+: m.topicName := by
  have hWord := word_infix hTopic
  rw [takeAck_status hInvoked]
  unfold ackStatus
  simp only [strstr_iff]
  cases ack with
  | action => exact absurd rfl hAck
  | accepted =>
      have hHere : ascii "accepted" <:+: m.topicName := hWord
      rw [if_pos hHere]
      simp [AckTopicType.status]
  | rejected =>
      have hHere : ascii "rejected" <:+: m.topicName := hWord
      by_cases hOther : ascii "accepted" <:+: m.topicName
      · rw [if_pos hOther]
        simp [AckTopicType.status, hOther]
      · rw [if_neg hOther, if_pos hHere]
        simp [AckTopicType.status, hOther]

end Shadow

end TrustOnboard

------------------------------------------------------------
-- Examples
------------------------------------------------------------

namespace TrustOnboard

namespace Shadow

open Mqtt (IoTError CString HandlerId)

/- A document with the client token `t`. -/
def tokenDocument : Bytes :=
  ascii "\x7b\"clientToken\":\"t\"\x7d"

/- A platform whose parser knows this document. -/
def tokenPort : Port Unit where
  __ := Port.calm
  jsmnParse := fun _ =>
    (3, [⟨.object, 0, 19⟩, ⟨.string, 2, 13⟩,
      ⟨.string, 16, 17⟩])

/- A thing whose name contains the word. -/
def acceptedLamp : CString :=
  ⟨ascii "accepted-lamp", by decide⟩

/- An ordinary thing. -/
def someLamp : CString :=
  ⟨ascii "lamp", nul_free_lamp⟩

/- An action on a thing that waits for the token `t`. -/
def awaiting (thing : CString) : State where
  __ := State.blank
  ackWaitList := fun _ =>
    ackRecord thing .get (ascii "t") (some 0) 0

/- The rejection of this action. -/
def rejection (thing : CString) : Message where
  topic := ackTopic thing.bytes .get .rejected
  behind := tokenDocument ++ [0]
  payload := tokenDocument

theorem ackStatus_right_iff_someLamp :
    (takeAck tokenPort (awaiting someLamp)
        (rejection someLamp)).2.2 = some (0, .rejected) ∧
      ¬ ascii "accepted" <:+:
        (rejection someLamp).topicName := by
  have hInvoked :
      (takeAck tokenPort (awaiting someLamp)
        (rejection someLamp)).2.2 = some (0, .rejected) := by
    decide +kernel
  have hAck : AckTopicType.rejected.IsAck := by
    simp [AckTopicType.IsAck]
  have hTopic :
      (rejection someLamp).topic =
        ackTopic someLamp.bytes .get .rejected := rfl
  refine ⟨hInvoked, ?_⟩
  have hRight :=
    (ackStatus_right_iff hAck hTopic hInvoked).mp rfl
  exact hRight.resolve_left (by decide)

/- The rejection reaches the callback as an acceptance. -/
theorem acceptedLamp_misread :
    (rejection acceptedLamp).topic =
        ackTopic acceptedLamp.bytes .get .rejected ∧
      (takeAck tokenPort (awaiting acceptedLamp)
          (rejection acceptedLamp)).2.2 =
        some (0, .accepted) := by
  refine ⟨rfl, ?_⟩
  decide +kernel

end Shadow

end TrustOnboard
