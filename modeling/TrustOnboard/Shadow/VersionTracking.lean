import TrustOnboard.Shadow.AckStatus
import TrustOnboard.Shadow.Versions

/-
  The recorded version as the maximum of those received.

  Whether a message is about the thing is decided by searching
  its topic for words, and its version by searching the text
  for a word.  The recorded version is the maximum of the
  versions of the messages on the topics of the thing as long
  as no other message with a version is taken for one of them
  and no other number is taken for a version.

  Key definitions include:
    * `OnOwnTopic`
    * `claimedVersion`
    * `Fair`

  Key results include:
    * `lastReceivedVersion_max`
    * `updateAccepted_counted`
-/

------------------------------------------------------------
-- The Maximum Of The Versions
------------------------------------------------------------

namespace TrustOnboard

namespace Shadow

open Mqtt (IoTError CString HandlerId)

variable {E : Type}

/- The topic on which deltas of a thing are published. -/
def wholeDeltaTopic (thing : Bytes) : Bytes :=
  ascii "$aws/things/" ++ thing ++ ascii "/shadow/update/delta"

/- The topics whose versions count. -/
def OnOwnTopic (thing : Bytes) (m : Message) : Prop :=
  m.topic = ackTopic thing .get .accepted ∨
    m.topic = wholeDeltaTopic thing

instance (thing : Bytes) (m : Message) :
    Decidable (OnOwnTopic thing m) :=
  inferInstanceAs (Decidable (_ ∨ _))

/- The version a message ought to contribute. -/
def claimedOf
    (docs : Message → Reading)
    (thing : Bytes)
    (m : Message) : Nat :=
  if OnOwnTopic thing m then
    ((docVersion m.json (docs m).members).getD 0).toNat
  else 0

/-
  The maximum of zero and the versions of the messages on the
  topics of the thing.
-/
def claimedVersion
    (docs : Message → Reading)
    (thing : Bytes) : List Event → Nat
  | [] => 0
  | .arrived a :: earlier =>
      max (claimedVersion docs thing earlier)
        (claimedOf docs thing a.message)
  | _ :: earlier => claimedVersion docs thing earlier

/- The text of a message is read and accepted. -/
def IsRead (port : Port E) (m : Message) : Prop :=
  m.payload.length ≤ port.rxBufferSize ∧
    1 ≤ (port.jsmnParse m.json).1

instance (port : Port E) (m : Message) :
    Decidable (IsRead port m) :=
  inferInstanceAs (Decidable (_ ∧ _))

/-
  The callbacks look for a version in the message.  A delta
  is looked at whatever its topic is.
-/
def Counted
    (port : Port E)
    (thing : Bytes)
    (a : Arrival) : Prop :=
  IsRead port a.message ∧
    (a.receiver = .shadowDeltaCallback ∨
      isAckForMyThingName a.message.topicName thing = true)

/-
  A message that is treated as its topic and its document ask
  for.
-/
structure Fair
    (port : Port E)
    (docs : Message → Reading)
    (thing : Bytes)
    (a : Arrival) : Prop where
  own :
    OnOwnTopic thing a.message →
      docVersion a.message.json (docs a.message).members ≠
          none →
        IsRead port a.message
  clear :
    Counted port thing a →
      (tokenAt (docs a.message).tokens 0).type = .object →
        Unobstructed a.message.json (docs a.message).members
          (docs a.message).tokens
  foreign :
    Counted port thing a →
      ¬ OnOwnTopic thing a.message →
        docVersion a.message.json (docs a.message).members =
          none

/-
  A run without a reset whose messages are documents that are
  treated as they ask for.
-/
structure FairRun
    (port : Port E)
    (docs : Message → Reading)
    (thing : Bytes)
    (log : List Event) : Prop where
  noReset : .versionReset ∉ log
  enabled : .discardOldDelta false ∉ log
  parsed :
    ∀ a, .arrived a ∈ log →
      Parsed port (docs a.message) a.message
  fair : ∀ a, .arrived a ∈ log → Fair port docs thing a

theorem FairRun.of_append
    {port : Port E}
    {docs : Message → Reading}
    {thing : Bytes}
    {es log : List Event}
    (hFair : FairRun port docs thing (es ++ log)) :
    FairRun port docs thing log where
  noReset hMem := hFair.noReset (List.mem_append_right _ hMem)
  enabled hMem := hFair.enabled (List.mem_append_right _ hMem)
  parsed a hMem := hFair.parsed a (List.mem_append_right _ hMem)
  fair a hMem := hFair.fair a (List.mem_append_right _ hMem)

end Shadow

end TrustOnboard

------------------------------------------------------------
-- One Message
------------------------------------------------------------

namespace TrustOnboard

namespace Shadow

open Mqtt (IoTError CString HandlerId)

variable {E : Type}
variable {port : Port E}
variable {docs : Message → Reading}

/- A document with a version is an object. -/
theorem IsDocument.object_of_version
    {json : Bytes}
    {ms : List Member}
    {ts : List JsmnTok}
    (hDocument : IsDocument json ms ts)
    (hVersion : docVersion json ms ≠ none) :
    (tokenAt ts 0).type = .object := by
  cases hDocument with
  | object hObject hEnd =>
      cases hObject with
      | empty hOpen hClose => rfl
      | full hOpen hMembers => rfl
  | other hTokens hOther hEnd => exact absurd rfl hVersion

/- A version is found in a message that is read. -/
theorem foundVersion_read
    {d : Reading}
    {m : Message}
    (s : State)
    (hParsed : Parsed port d m)
    (hRead : IsRead port m)
    (hVersion : docVersion m.json d.members ≠ none) :
    ∃ found, foundVersion port s m = some found := by
  rcases hRead with ⟨hFits, hAccepted⟩
  have hObject := hParsed.document.object_of_version hVersion
  have hSome : d.tokens ≠ [] := by
    rcases hParsed.document.tokens with
      ⟨first, rest, hTokens, _⟩
    rw [hTokens]
    exact List.cons_ne_nil first rest
  have hStandard := hParsed.standard.resolve_right (by omega)
  unfold foundVersion
  rw [if_neg (by omega),
    isJsonValidAndParse_standard _ hStandard hSome,
    if_pos hObject]
  exact ⟨_, rfl⟩

/- Nothing is found in a message that is not read. -/
theorem foundVersion_unread
    {m : Message}
    (s : State)
    (hUnread : ¬ IsRead port m) :
    foundVersion port s m = none := by
  unfold foundVersion
  split
  · rfl
  · rename_i hFits
    have hRefused : (port.jsmnParse m.json).1 < 1 := by
      by_contra hAccepted
      exact hUnread ⟨by omega, by omega⟩
    simp only [isJsonValidAndParse_refused _ hRefused,
      Option.map_none]

/- What is found in a message that is looked at. -/
theorem foundVersion_claimed
    {thing : Bytes}
    {a : Arrival}
    (s : State)
    (hParsed : Parsed port (docs a.message) a.message)
    (hFair : Fair port docs thing a)
    (hLooked :
      a.receiver = .shadowDeltaCallback ∨
        isAckForMyThingName a.message.topicName thing =
          true) :
    ((foundVersion port s a.message).join.getD 0).toNat =
      claimedOf docs thing a.message := by
  unfold claimedOf
  by_cases hRead : IsRead port a.message
  · have hCounted : Counted port thing a := ⟨hRead, hLooked⟩
    have hFound :
        ∀ found, foundVersion port s a.message = some found →
          found =
            docVersion a.message.json
              (docs a.message).members := by
      intro found hSome
      exact
        foundVersion_parsed s hParsed (hFair.clear hCounted)
          hSome
    by_cases hVersion :
        docVersion a.message.json (docs a.message).members =
          none
    · have hNone :
          (foundVersion port s a.message).join = none := by
        cases hRead : foundVersion port s a.message with
        | none => rfl
        | some found =>
            rw [hFound found hRead, hVersion]
            rfl
      rw [hNone, hVersion]
      exact (ite_self _).symm
    · have hOwn : OnOwnTopic thing a.message := by
        by_contra hNot
        exact hVersion (hFair.foreign hCounted hNot)
      rcases foundVersion_read s hParsed hRead hVersion with
        ⟨found, hSome⟩
      rw [if_pos hOwn, hSome, hFound found hSome,
        Option.join_some]
  · rw [foundVersion_unread s hRead]
    split
    · rename_i hOwn
      have hVersion :
          docVersion a.message.json (docs a.message).members =
            none := by
        by_contra hSome
        exact hRead (hFair.own hOwn hSome)
      rw [hVersion]
      rfl
    · rfl

/- The topics of the thing are recognised. -/
theorem isAck_of_ownTopic
    {thing : CString}
    {m : Message}
    (hOwn : OnOwnTopic thing.bytes m) :
    isAckForMyThingName m.topicName thing.bytes = true := by
  have hInfix :
      ∀ front word back : Bytes,
        (0 : UInt8) ∉ m.topic →
        m.topic = front ++ word ++ back →
          word <:+: m.topicName := by
    intro front word back hFree hTopic
    rw [topicName_of_free hFree, hTopic]
    exact ⟨front, back ++ cString m.behind, by simp⟩
  unfold isAckForMyThingName
  simp only [Bool.and_eq_true, Bool.or_eq_true, strstr_iff]
  rcases hOwn with hTopic | hTopic
  · have hFree : (0 : UInt8) ∉ m.topic := by
      rw [hTopic]
      exact zero_not_mem_ackTopic thing .get .accepted
    rw [ackTopic_eq] at hTopic
    refine ⟨hInfix _ _ _ hFree hTopic, Or.inl (Or.inl ?_)⟩
    refine
      hInfix
        (ascii "$aws/things/" ++ thing.bytes ++
          ascii "/shadow/") _ [] hFree ?_
    have hSuffix :
        ackSuffix .get .accepted =
          ascii "/shadow/" ++ ascii "get/accepted" := by
      decide
    rw [hTopic, hSuffix, List.append_nil]
    simp only [List.append_assoc]
  · have hFree : (0 : UInt8) ∉ m.topic := by
      have hHead : (0 : UInt8) ∉ ascii "$aws/things/" := by
        decide
      have hTail :
          (0 : UInt8) ∉ ascii "/shadow/update/delta" := by
        decide
      rw [hTopic]
      simp [wholeDeltaTopic, hHead, thing.nul_free, hTail]
    refine ⟨hInfix _ _ _ hFree hTopic, Or.inr ?_⟩
    refine
      hInfix
        (ascii "$aws/things/" ++ thing.bytes ++
          ascii "/shadow/update/") _ [] hFree ?_
    have hSuffix :
        ascii "/shadow/update/delta" =
          ascii "/shadow/update/" ++ ascii "delta" := by
      decide
    rw [hTopic, wholeDeltaTopic, hSuffix, List.append_nil]
    simp only [List.append_assoc]

/- What an acknowledgement contributes. -/
theorem ackedVersion_claimed
    {s : State}
    {m : Message}
    (hParsed : Parsed port (docs m) m)
    (hFair :
      Fair port docs s.myThingName.bytes
        ⟨.ackStatusCallback, m⟩) :
    ((ackedVersion port s m).getD 0).toNat =
      claimedOf docs s.myThingName.bytes m := by
  unfold ackedVersion
  split
  · rename_i hAck
    exact foundVersion_claimed s hParsed hFair (Or.inr hAck)
  · rename_i hNot
    have hForeign : ¬ OnOwnTopic s.myThingName.bytes m :=
      fun hOwn => hNot (isAck_of_ownTopic hOwn)
    unfold claimedOf
    rw [if_neg hForeign]
    rfl

end Shadow

end TrustOnboard

------------------------------------------------------------
-- Whole Runs
------------------------------------------------------------

namespace TrustOnboard

namespace Shadow

open Mqtt (IoTError CString HandlerId)

variable {E : Type}
variable {port : Port E}
variable {docs : Message → Reading}
variable {thing : CString}

/- The recorded version is the one claimed. -/
structure Tracks
    (docs : Message → Reading)
    (thing : CString)
    (w : Run E) : Prop where
  flag : w.st.shadow.shadowDiscardOldDeltaFlag = true
  name : w.st.shadow.myThingName = thing
  version :
    w.st.shadow.shadowJsonVersionNum.toNat =
      claimedVersion docs thing.bytes w.log

/- Events other than an arrival claim nothing. -/
theorem claimedVersion_append
    {es : List Event}
    (hNone : ∀ a, .arrived a ∉ es)
    (log : List Event) :
    claimedVersion docs thing.bytes (es ++ log) =
      claimedVersion docs thing.bytes log := by
  induction es with
  | nil => rfl
  | cons e es ih =>
      have hRest :=
        ih (fun a hMem => hNone a (List.mem_cons_of_mem e hMem))
      cases e with
      | arrived a => exact absurd (by simp) (hNone a)
      | _ => exact hRest

/- An arrival with events that are no arrivals. -/
theorem claimedVersion_arrived
    {es : List Event}
    (hNone : ∀ a, .arrived a ∉ es)
    (a : Arrival)
    (log : List Event) :
    claimedVersion docs thing.bytes
        ((es ++ [.arrived a]) ++ log) =
      max (claimedVersion docs thing.bytes log)
        (claimedOf docs thing.bytes a.message) := by
  rw [List.append_assoc, claimedVersion_append hNone]
  rfl

theorem Tracks.ack
    {s : Sys E}
    {log : List Event}
    {m : Message}
    (hInv : Tracks docs thing ⟨s, log⟩)
    (hParsed : Parsed port (docs m) m)
    (hFair :
      Fair port docs thing.bytes ⟨.ackStatusCallback, m⟩) :
    Tracks docs thing
      ⟨{ s with shadow := (takeAck port s.shadow m).1 },
        ((takeAck port s.shadow m).2.1 ++
          [.arrived ⟨.ackStatusCallback, m⟩]) ++ log⟩ := by
  have hEffect := takeAck_effect port s.shadow m
  have hName : s.shadow.myThingName = thing := hInv.name
  have hNone :
      ∀ a, .arrived a ∉ (takeAck port s.shadow m).2.1 := by
    rcases hEffect.events with ⟨aside, hAside, hEvents⟩
    intro a hMem
    rw [hEvents] at hMem
    rcases List.mem_append.mp hMem with hMem | hMem
    · cases hAside _ hMem
    · rcases List.mem_map.mp hMem with ⟨v, _, hEq⟩
      cases hEq
  refine
    ⟨hEffect.flag.trans hInv.flag,
      hEffect.thing.trans hName, ?_⟩
  have hVersion :
      s.shadow.shadowJsonVersionNum.toNat =
        claimedVersion docs thing.bytes log := hInv.version
  rw [claimedVersion_arrived hNone, ← hVersion]
  rw [← hName] at hFair ⊢
  rw [← ackedVersion_claimed hParsed hFair]
  exact hEffect.recorded

theorem Tracks.delta
    {s : Sys E}
    {log : List Event}
    {m : Message}
    (hInv : Tracks docs thing ⟨s, log⟩)
    (hParsed : Parsed port (docs m) m)
    (hFair :
      Fair port docs thing.bytes ⟨.shadowDeltaCallback, m⟩) :
    Tracks docs thing
      ⟨{ s with shadow := (takeDelta port s.shadow m).1 },
        ((takeDelta port s.shadow m).2.1 ++
          [.arrived ⟨.shadowDeltaCallback, m⟩]) ++ log⟩ := by
  have hEffect := takeDelta_effect port m hInv.flag
  have hClaimed :=
    foundVersion_claimed s.shadow hParsed hFair (Or.inl rfl)
  have hVersion :
      s.shadow.shadowJsonVersionNum.toNat =
        claimedVersion docs thing.bytes log := hInv.version
  obtain ⟨s', hs'⟩ :
      ∃ s', (takeDelta port s.shadow m).1 = s' := ⟨_, rfl⟩
  obtain ⟨es, hes⟩ :
      ∃ es, (takeDelta port s.shadow m).2.1 = es := ⟨_, rfl⟩
  obtain ⟨taken, hTaken⟩ :
      ∃ taken, (takeDelta port s.shadow m).2.2 = taken :=
    ⟨_, rfl⟩
  obtain ⟨found, hFound⟩ :
      ∃ found, foundVersion port s.shadow m = found :=
    ⟨_, rfl⟩
  rw [hs', hes]
  rw [hs', hes, hFound, hTaken] at hEffect
  rw [hFound] at hClaimed
  have hSame :
      s.shadow.SameVersion s' →
      (∀ a, .arrived a ∉ es) →
      claimedOf docs thing.bytes m ≤
        s.shadow.shadowJsonVersionNum.toNat →
        Tracks docs thing
          ⟨{ s with shadow := s' },
            (es ++ [.arrived ⟨.shadowDeltaCallback, m⟩]) ++
              log⟩ := by
    intro hSame hNone hLe
    refine
      ⟨hSame.flag.trans hInv.flag,
        hSame.thing.trans hInv.name, ?_⟩
    rw [claimedVersion_arrived hNone, ← hVersion,
      Nat.max_eq_left hLe]
    exact congrArg _ hSame.version
  cases hEffect with
  | unread hKept hTable =>
      refine hSame hKept (by simp) ?_
      rw [← hClaimed]
      exact Nat.zero_le _
  | plain tokenCount hKept =>
      refine hSame hKept (by simp) ?_
      rw [← hClaimed]
      exact Nat.zero_le _
  | older hLe hKept hTable =>
      refine hSame hKept (by simp) ?_
      rw [← hClaimed]
      exact hLe
  | newer tokenCount hLess hNew hFlag hThing =>
      refine
        ⟨hFlag.trans hInv.flag, hThing.trans hInv.name, ?_⟩
      rw [claimedVersion_arrived (by simp), ← hVersion,
        ← hClaimed]
      exact
        (congrArg UInt32.toNat hNew).trans
          (Nat.max_eq_right (Nat.le_of_lt hLess)).symm

theorem Tracks.step
    {s s' : Sys E}
    {es log : List Event}
    (hMove : Within port everyKind s s' es)
    (hFair : FairRun port docs thing.bytes (es ++ log))
    (hInv : Tracks docs thing ⟨s, log⟩) :
    Tracks docs thing ⟨s', es ++ log⟩ := by
  rcases hMove with ⟨k, _, hMove⟩
  cases hMove with
  | other hSame hText hAside hFits =>
      have hNone : ∀ a, .arrived a ∉ es := by
        intro a hMem
        cases hAside _ hMem
      refine
        ⟨hSame.flag.trans hInv.flag,
          hSame.thing.trans hInv.name, ?_⟩
      rw [claimedVersion_append hNone]
      exact (congrArg _ hSame.version).trans hInv.version
  | ack _ m =>
      have hMem :
          .arrived ⟨.ackStatusCallback, m⟩ ∈
            ((takeAck port s.shadow m).2.1 ++
              [.arrived ⟨.ackStatusCallback, m⟩]) ++ log := by
        simp
      exact
        hInv.ack (hFair.parsed _ hMem) (hFair.fair _ hMem)
  | delta _ m =>
      have hMem :
          .arrived ⟨.shadowDeltaCallback, m⟩ ∈
            ((takeDelta port s.shadow m).2.1 ++
              [.arrived ⟨.shadowDeltaCallback, m⟩]) ++
                log := by
        simp
      exact
        hInv.delta (hFair.parsed _ hMem) (hFair.fair _ hMem)
  | round _ tokenCount index =>
      rcases updateToken_cases port tokenCount index
          s.shadow with
        ⟨hSame, hNone⟩ | ⟨table, data, value, told, hSame,
          hEvents, hTold⟩
      · rw [hSame, hNone]
        exact hInv
      · rw [hSame, hEvents]
        refine ⟨hInv.flag, hInv.name, ?_⟩
        rw [claimedVersion_append]
        · exact hInv.version
        · rcases hTold with rfl | rfl
          · simp
          · simp
  | reset => exact absurd (by simp) hFair.noReset
  | discard _ enabled =>
      cases enabled with
      | false => exact absurd (by simp) hFair.enabled
      | true => exact ⟨rfl, hInv.name, hInv.version⟩

/-
  In a run whose messages are treated as they ask for, the
  recorded version is the maximum of the versions of those on
  the topics of the thing.
-/
theorem lastReceivedVersion_max
    (port : Port E)
    (docs : Message → Reading)
    (level : Nat)
    (calls : List ShadowCall)
    (s : Sys E)
    (hFlag : s.shadow.shadowDiscardOldDeltaFlag = true)
    (hZero : s.shadow.shadowJsonVersionNum = 0)
    (hFair :
      FairRun port docs s.shadow.myThingName.bytes
        ((session port level calls).run ⟨s, []⟩).2.log) :
    ((session port level calls).run
        ⟨s, []⟩).2.st.shadow.shadowJsonVersionNum.toNat =
      claimedVersion docs s.shadow.myThingName.bytes
        ((session port level calls).run ⟨s, []⟩).2.log := by
  have hStart :
      Tracks docs s.shadow.myThingName (⟨s, []⟩ : Run E) :=
    ⟨hFlag, rfl, by rw [hZero]; rfl⟩
  have hEnd :=
    (session_moves level calls).final
      (G := FairRun port docs s.shadow.myThingName.bytes)
      (fun _ _ hAfter => hAfter.of_append)
      (fun _ _ _ _ hMove hAfter hBefore =>
        Tracks.step hMove hAfter hBefore)
      hStart hFair
  exact hEnd.version

theorem lampLog_fair :
    FairRun versionPort oneDigit (ascii "lamp") lampLog := by
  have hOrderly := lampLog_orderly
  have hAll := List.all_eq_true.mp lampLog_all
  refine
    ⟨hOrderly.noReset, hOrderly.enabled, hOrderly.parsed, ?_⟩
  intro a hMem
  have hMessage : a.message ∈ lampMessages :=
    of_decide_eq_true (hAll _ hMem)
  have hParsed := lampMessages_parsed hMessage
  have hOwn :
      ∀ m ∈ lampMessages,
        OnOwnTopic (ascii "lamp") m ∧ IsRead versionPort m := by
    decide +kernel
  rcases hOwn _ hMessage with ⟨hOwn, hRead⟩
  exact
    ⟨fun _ _ => hRead,
      fun _ hObject =>
        hParsed.2.unobstructed hParsed.1.document hObject,
      fun _ hNot => absurd hOwn hNot⟩

theorem lastReceivedVersion_max_lamp :
    ((session versionPort 2 [.yield 0, .yield 0]).run
        ⟨⟨lampState, deltaScript⟩,
          []⟩).2.st.shadow.shadowJsonVersionNum.toNat =
      claimedVersion oneDigit (ascii "lamp") lampLog :=
  lastReceivedVersion_max versionPort oneDigit 2
    [.yield 0, .yield 0] ⟨lampState, deltaScript⟩ rfl rfl
    lampLog_fair

/- The answer to an update of the thing. -/
def updateAnswer (d : UInt8) : Message where
  topic := ackTopic (ascii "lamp") .update .accepted
  behind := versionDocument d ++ [0]
  payload := versionDocument d

def updateScript : Script where
  arrivals := [[⟨.ackStatusCallback, updateAnswer 55⟩]]
  answers := []
  expiries := []
  calls := []

/-
  The version of a message that is to be left out is recorded
  all the same.
-/
theorem updateAccepted_counted :
    Parsed versionPort (oneDigit (updateAnswer 55))
        (updateAnswer 55) ∧
      ((session versionPort 2 [.yield 0]).run
        ⟨⟨lampState, updateScript⟩,
          []⟩).2.st.shadow.shadowJsonVersionNum = 7 ∧
      claimedVersion oneDigit (ascii "lamp")
        ((session versionPort 2 [.yield 0]).run
          ⟨⟨lampState, updateScript⟩, []⟩).2.log = 0 := by
  refine
    ⟨⟨versionReading_document (by decide), Or.inl rfl⟩, ?_, ?_⟩
  · decide +kernel
  · decide +kernel

end Shadow

end TrustOnboard
