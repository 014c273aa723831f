import TrustOnboard.Program.Triple
import TrustOnboard.Shadow.Actions

/-
  What the steps of a run can do.

  Every step of every program of the shadow client is of one
  of a few kinds: it leaves both lists alone, or changes the
  list of subscriptions only, or the list of awaited answers
  only, or is the beginning of one of the two callbacks, or
  one of the calls that set the version or its flag.

  Key definitions include:
    * `StepKind`
    * `Moves`
    * `Within`
    * `Services.Part`

  Key results include:
    * `services_moves`
    * `session_moves`
-/

------------------------------------------------------------
-- Steps
------------------------------------------------------------

namespace TrustOnboard

namespace Shadow

open Mqtt (IoTError CString HandlerId)

variable {E : Type}

/- The events that are about no version and no delta. -/
def Event.isAside : Event → Bool
  | .arrived _ => false
  | .ackVersion _ => false
  | .deltaTaken _ => false
  | .deltaIgnored _ => false
  | .versionReset => false
  | .discardOldDelta _ => false
  | .dataUpdated _ _ _ => false
  | .deltaNotified _ _ => false
  | _ => true

/- The events that are about neither list nor any call. -/
def Event.isPlain : Event → Bool
  | .arrived _ => true
  | .ackVersion _ => true
  | .deltaTaken _ => true
  | .deltaIgnored _ => true
  | .versionReset => true
  | .discardOldDelta _ => true
  | .dataUpdated _ _ _ => true
  | .deltaNotified _ _ => true
  | _ => false

/- The events about awaited answers. -/
def Event.onEntry : Event → Bool
  | .acked _ _ _ => true
  | .raised _ _ _ => true
  | .tracked _ _ _ _ => true
  | .expired _ => true
  | .notified _ _ _ _ _ => true
  | .freed _ => true
  | _ => false

/- Two states with the same version, flag and thing name. -/
structure State.SameVersion (s s' : State) : Prop where
  version :
    s'.shadowJsonVersionNum = s.shadowJsonVersionNum
  flag :
    s'.shadowDiscardOldDeltaFlag =
      s.shadowDiscardOldDeltaFlag
  thing : s'.myThingName = s.myThingName

theorem State.SameVersion.refl
    (s : State) :
    s.SameVersion s :=
  ⟨rfl, rfl, rfl⟩

/- Two states with the same lists. -/
structure State.SameLists (s s' : State) : Prop where
  acks : s'.ackWaitList = s.ackWaitList
  subscriptions : s'.subscriptionList = s.subscriptionList

/- The kinds of steps. -/
inductive StepKind where
  | plain
  | bracket
  | list
  | entry
  | ack
  | delta
  | setting
  deriving DecidableEq

/- What the kinds without a version leave alone. -/
def StepKind.Fits
    (k : StepKind)
    (s s' : State)
    (es : List Event) : Prop :=
  match k with
  | .plain =>
      s.SameLists s' ∧ ∀ e ∈ es, e.isPlain = true
  | .bracket => s.SameLists s'
  | .list =>
      s'.ackWaitList = s.ackWaitList ∧
        ∀ e ∈ es, e.onEntry = false
  | .entry => s'.subscriptionList = s.subscriptionList
  | _ => False

/- The steps of the programs. -/
inductive Moves
    (port : Port E) :
    StepKind → Sys E → Sys E → List Event → Prop where
  | other
      {k : StepKind}
      {s s' : Sys E}
      {es : List Event}
      (hSame : s.shadow.SameVersion s'.shadow)
      (hText : s'.shadow.shadowRxBuf = s.shadow.shadowRxBuf)
      (hAside : ∀ e ∈ es, e.isAside = true)
      (hFits : k.Fits s.shadow s'.shadow es) :
      Moves port k s s' es
  | ack
      (s : Sys E)
      (m : Message) :
      Moves port .ack s
        { s with shadow := (takeAck port s.shadow m).1 }
        ((takeAck port s.shadow m).2.1 ++
          [.arrived ⟨.ackStatusCallback, m⟩])
  | delta
      (s : Sys E)
      (m : Message) :
      Moves port .delta s
        { s with shadow := (takeDelta port s.shadow m).1 }
        ((takeDelta port s.shadow m).2.1 ++
          [.arrived ⟨.shadowDeltaCallback, m⟩])
  | round
      (s : Sys E)
      (tokenCount index : Nat) :
      Moves port .plain s
        { s with
          shadow :=
            (updateToken port tokenCount index
              s.shadow).2.1 }
        (updateToken port tokenCount index s.shadow).2.2
  | reset
      (s : Sys E) :
      Moves port .setting s
        { s with
          shadow :=
            { s.shadow with shadowJsonVersionNum := 0 } }
        [.versionReset]
  | discard
      (s : Sys E)
      (enabled : Bool) :
      Moves port .setting s
        { s with
          shadow :=
            { s.shadow with
              shadowDiscardOldDeltaFlag := enabled } }
        [.discardOldDelta enabled]

/-
  A round of the loop over the registered data: nothing, or
  an update from the text in the receive buffer, and the
  callback that is told of it.
-/
theorem updateToken_cases
    (port : Port E)
    (tokenCount index : Nat)
    (s : State) :
    ((updateToken port tokenCount index s).2.1 = s ∧
        (updateToken port tokenCount index s).2.2 = []) ∨
      ∃ table data value told,
        (updateToken port tokenCount index s).2.1 =
            { s with tokenTable := table } ∧
          (updateToken port tokenCount index s).2.2 =
              told ++ [.dataUpdated index data s.shadowRxBuf] ∧
            (told = [] ∨ told = [.deltaNotified index value]) := by
  unfold updateToken
  split
  · exact .inl ⟨rfl, rfl⟩
  rename_i d hEntry
  split
  · exact .inl ⟨rfl, rfl⟩
  · rename_i data value hFound
    refine .inr ⟨_, data, value, _, rfl, rfl, ?_⟩
    cases d.cb with
    | none => exact .inl rfl
    | some handler => exact .inr rfl

/- The steps of some kinds. -/
def Within
    (port : Port E)
    (ks : List StepKind)
    (s s' : Sys E)
    (es : List Event) : Prop :=
  ∃ k ∈ ks, Moves port k s s' es

/- A call of the services. -/
inductive Services.Part
    (sv : Services E) : Code E IoTError → Prop where
  | mqtt (c : MqttCall) : sv.Part (sv.mqtt c)
  | call (c : ShadowCall) : sv.Part (sv.call c)

/- Programs of steps of some kinds and calls of services. -/
abbrev Made
    (port : Port E)
    (sv : Services E)
    (ks : List StepKind)
    {α : Type}
    (p : Code E α) : Prop :=
  Prog.Built (Within port ks) sv.Part p

theorem Made.mono
    {port : Port E}
    {sv : Services E}
    {ks ks' : List StepKind}
    {α : Type}
    {p : Code E α}
    (hMade : Made port sv ks p)
    (hSub : ∀ k ∈ ks, k ∈ ks') :
    Made port sv ks' p :=
  Prog.Built.mono hMade
    (fun _ _ _ hWithin => by
      rcases hWithin with ⟨k, hMem, hMove⟩
      exact ⟨k, hSub k hMem, hMove⟩)
    (fun _ hPart => .part hPart)

end Shadow

end TrustOnboard

------------------------------------------------------------
-- Single Steps
------------------------------------------------------------

namespace TrustOnboard

namespace Shadow

open Mqtt (IoTError CString HandlerId)

variable {E : Type}
variable {port : Port E}
variable {sv : Services E}
variable {ks : List StepKind}
variable {α : Type}

/- What leaves the state of the shadow client alone. -/
theorem made_read
    (f : Sys E → α)
    (hPlain : .plain ∈ ks) :
    Made port sv ks (Prog.read f : Code E α) :=
  .step
    (fun s =>
      ⟨.plain, hPlain,
        .other (State.SameVersion.refl _) rfl
          (fun e he => (by cases he))
          ⟨⟨rfl, rfl⟩, fun e he => (by cases he)⟩⟩)

theorem made_ask
    (f : E → α × E)
    (hPlain : .plain ∈ ks) :
    Made port sv ks (ask f : Code E α) :=
  .step
    (fun s =>
      ⟨.plain, hPlain,
        .other (State.SameVersion.refl _) rfl
          (fun e he => (by cases he))
          ⟨⟨rfl, rfl⟩, fun e he => (by cases he)⟩⟩)

/- An event and nothing else. -/
theorem made_record
    {k : StepKind}
    {e : Event}
    (hKind : k ∈ ks)
    (hAside : e.isAside = true)
    (hFits : ∀ s : State, k.Fits s s [e]) :
    Made port sv ks (record e : Code E Unit) := by
  refine .step (fun s => ⟨k, hKind, ?_⟩)
  refine .other (State.SameVersion.refl _) rfl ?_ (hFits _)
  intro e' he'
  cases List.mem_singleton.mp he'
  exact hAside

/- A change of variables outside the lists. -/
theorem made_plain
    {f : Sys E → α × Sys E × List Event}
    (hPlain : .plain ∈ ks)
    (hSame :
      ∀ s : Sys E, s.shadow.SameVersion (f s).2.1.shadow)
    (hLists :
      ∀ s : Sys E, s.shadow.SameLists (f s).2.1.shadow)
    (hText :
      ∀ s : Sys E,
        (f s).2.1.shadow.shadowRxBuf = s.shadow.shadowRxBuf)
    (hEvents : ∀ s, (f s).2.2 = []) :
    Made port sv ks (Prog.step f : Code E α) := by
  refine .step (fun s => ⟨.plain, hPlain, ?_⟩)
  rw [hEvents]
  exact
    .other (hSame s) (hText s) (fun e he => (by cases he))
      ⟨hLists s, fun e he => (by cases he)⟩

/- A change of the list of subscriptions. -/
theorem made_list
    {f : State → State}
    (hList : .list ∈ ks)
    (hSame : ∀ s : State, s.SameVersion (f s))
    (hText : ∀ s, (f s).shadowRxBuf = s.shadowRxBuf)
    (hAcks : ∀ s, (f s).ackWaitList = s.ackWaitList) :
    Made port sv ks (modifyShadow f : Code E Unit) :=
  .step
    (fun s =>
      ⟨.list, hList,
        .other (hSame s.shadow) (hText s.shadow)
          (fun e he => (by cases he))
          ⟨hAcks s.shadow, fun e he => (by cases he)⟩⟩)

theorem made_setEntry
    (k : Fin maxTopics)
    (f : SubscriptionRecord → SubscriptionRecord)
    (hList : .list ∈ ks) :
    Made port sv ks
      (modifyShadow (fun s => s.setSubscription k f) :
        Code E Unit) :=
  made_list hList (fun _ => ⟨rfl, rfl, rfl⟩) (fun _ => rfl)
    (fun _ => rfl)

theorem made_pure
    (a : α) :
    Made port sv ks (pure a : Code E α) :=
  .ret a

theorem made_mqtt
    (c : MqttCall) :
    Made port sv ks (sv.mqtt c) :=
  .part (.mqtt c)

theorem made_call
    (c : ShadowCall) :
    Made port sv ks (sv.call c) :=
  .part (.call c)

theorem made_calls
    (cs : List ShadowCall) :
    Made port sv ks
      (Prog.each (fun c => sv.call c >>= fun _ => pure ())
        cs) :=
  Prog.Built.each
    (fun c => (made_call c).bind (fun _ => made_pure ()))

end Shadow

end TrustOnboard

------------------------------------------------------------
-- Subscribing And Unsubscribing
------------------------------------------------------------

namespace TrustOnboard

namespace Shadow

open Mqtt (IoTError CString HandlerId)

variable {E : Type}
variable {port : Port E}
variable {sv : Services E}

theorem made_getNextFree :
    Made port sv [.plain, .list]
      (getNextFreeIndexOfSubscriptionList : Code E _) := by
  refine .step (fun s => ⟨.list, by simp, ?_⟩)
  cases s.shadow.firstFree with
  | none =>
      exact
        .other (State.SameVersion.refl _) rfl
          (fun e he => (by cases he))
          ⟨rfl, fun e he => (by cases he)⟩
  | some k =>
      exact
        .other ⟨rfl, rfl, rfl⟩ rfl
          (fun e he => (by cases he))
          ⟨rfl, fun e he => (by cases he)⟩

theorem made_noRoom :
    Made port sv [.plain, .list]
      (record .noRoom : Code E Unit) :=
  made_record (k := .list) (by simp) rfl
    (fun s => ⟨rfl, by simp [Event.onEntry]⟩)

theorem made_subscribeEntry
    (k : Fin maxTopics)
    (topic : Bytes) :
    Made port sv [.plain, .list]
      (subscribeEntry sv k topic) :=
  (made_setEntry k _ (by simp)).bind (fun _ => made_mqtt _)

theorem made_subscribeBoth
    (thing : Bytes)
    (action : ShadowAction)
    (isSticky : Bool)
    (a r : Fin maxTopics) :
    Made port sv [.plain, .list]
      (subscribeBoth sv thing action isSticky a r) := by
  refine (made_subscribeEntry a _).bind (fun rc => ?_)
  refine Prog.Built.ite ?_ (made_pure _)
  refine (made_setEntry a _ (by simp)).bind (fun _ => ?_)
  refine (made_subscribeEntry r _).bind (fun rc => ?_)
  refine Prog.Built.ite ?_ (made_pure _)
  exact
    (made_setEntry r _ (by simp)).bind (fun _ => made_pure _)

theorem made_clearBothEntries
    (accepted rejected : Option (Fin maxTopics)) :
    Made port sv [.plain, .list]
      (clearBothEntries port sv accepted rejected) := by
  have hEntry :
      Made port sv [.plain, .list]
        (acceptedEntry port accepted) := by
    cases accepted with
    | some k => exact made_read _ (by simp)
    | none =>
        refine Prog.Built.bind ?_
          (fun _ => made_read _ (by simp))
        exact
          made_record (k := .list) (by simp) rfl
            (fun s => ⟨rfl, by simp [Event.onEntry]⟩)
  have hRest :
      ∀ entry : SubscriptionRecord,
        Made port sv [.plain, .list]
          (if entry.count = 1 then do
            let _ ← sv.mqtt (.unsubscribe entry.topic)
            pure ()
          else pure () : Code E Unit) := by
    intro entry
    refine Prog.Built.ite ?_ (made_pure _)
    exact (made_mqtt _).bind (fun _ => made_pure _)
  cases accepted with
  | some k =>
      refine (made_setEntry k _ (by simp)).bind (fun _ => ?_)
      exact hEntry.bind hRest
  | none =>
      cases rejected with
      | some k =>
          refine
            (made_setEntry k _ (by simp)).bind (fun _ => ?_)
          exact hEntry.bind hRest
      | none => exact hEntry.bind hRest

theorem made_subscribeToShadowActionAcks
    (thing : Bytes)
    (action : ShadowAction)
    (isSticky : Bool) :
    Made port sv [.plain, .list]
      (subscribeToShadowActionAcks port sv thing action
        isSticky) := by
  refine made_getNextFree.bind (fun accepted => ?_)
  refine made_getNextFree.bind (fun rejected => ?_)
  have hClear :
      ∀ rc : IoTError,
        Made port sv [.plain, .list]
          (clearBothEntries port sv accepted rejected >>=
            fun _ => pure rc : Code E IoTError) :=
    fun rc =>
      (made_clearBothEntries accepted rejected).bind
        (fun _ => made_pure rc)
  cases accepted with
  | none => exact made_noRoom.bind (fun _ => hClear _)
  | some a =>
      cases rejected with
      | none => exact made_noRoom.bind (fun _ => hClear _)
      | some r =>
          refine Prog.Built.bind
            (made_subscribeBoth thing action isSticky a r)
            (fun r => ?_)
          exact Prog.Built.ite (hClear r.1) (made_pure _)

theorem made_prepareSubscriptions
    (thing : Bytes)
    (action : ShadowAction)
    (isSticky : Bool) :
    Made port sv [.plain, .list]
      (prepareSubscriptions port sv thing action
        isSticky) := by
  refine (made_read _ (by simp)).bind (fun present => ?_)
  refine Prog.Built.ite ?_ ?_
  · refine Prog.Built.bind ?_ (fun _ => made_pure _)
    exact
      made_list (by simp) (fun _ => ⟨rfl, rfl, rfl⟩)
        (fun _ => rfl) (fun _ => rfl)
  · exact
      made_subscribeToShadowActionAcks thing action isSticky

theorem made_unsubscribeFromTopic
    (topic : Bytes) :
    Made port sv [.plain, .list]
      (unsubscribeFromTopic sv topic) := by
  refine (made_read _ (by simp)).bind (fun found => ?_)
  cases found with
  | none => exact made_pure ()
  | some p =>
      refine Prog.Built.ite ?_ ?_
      · refine (made_mqtt _).bind (fun rc => ?_)
        exact
          Prog.Built.ite (made_setEntry p.1 _ (by simp))
            (made_pure ())
      · exact
          Prog.Built.ite (made_setEntry p.1 _ (by simp))
            (made_pure ())

theorem made_unsubscribe
    (i : Fin maxAcks) :
    Made port sv [.plain, .list]
      (unsubscribeFromAcceptedAndRejected port sv i) := by
  refine (made_read _ (by simp)).bind (fun r => ?_)
  exact
    (made_unsubscribeFromTopic _).bind
      (fun _ => made_unsubscribeFromTopic _)

end Shadow

end TrustOnboard

------------------------------------------------------------
-- Awaited Answers
------------------------------------------------------------

namespace TrustOnboard

namespace Shadow

open Mqtt (IoTError CString HandlerId)

variable {E : Type}
variable {port : Port E}
variable {sv : Services E}

/- The kinds of steps an action and its end are made of. -/
abbrev actionKinds : List StepKind :=
  [.plain, .list, .entry, .ack]

theorem made_recordEntry
    {e : Event}
    (hAside : e.isAside = true) :
    Made port sv actionKinds (record e : Code E Unit) :=
  made_record (k := .entry) (by simp) hAside (fun _ => rfl)

theorem made_notify
    (i : Fin maxAcks)
    (status : AckStatus) :
    Made port sv actionKinds (notify port sv i status) := by
  refine (made_read _ (by simp)).bind (fun r => ?_)
  refine (made_read _ (by simp)).bind (fun document => ?_)
  cases r.callback with
  | none => exact made_pure ()
  | some handler =>
      refine (made_recordEntry rfl).bind (fun _ => ?_)
      exact
        (made_ask _ (by simp)).bind (fun cs => made_calls cs)

theorem made_freeAck
    (i : Fin maxAcks) :
    Made port sv actionKinds (freeAck i : Code E Unit) := by
  refine .step (fun s => ⟨.entry, by simp, ?_⟩)
  refine .other ⟨rfl, rfl, rfl⟩ rfl ?_ rfl
  intro e he
  cases List.mem_singleton.mp he
  rfl

theorem made_ackStatusCallback
    (m : Message) :
    Made port sv actionKinds
      (ackStatusCallback port sv m) := by
  have hUnsubscribe :
      ∀ i, Made port sv actionKinds
        (unsubscribeFromAcceptedAndRejected port sv i) :=
    fun i => (made_unsubscribe i).mono (by decide)
  refine Prog.Built.bind
    (.step (fun s => ⟨.ack, by simp, .ack s m⟩))
    (fun hit => ?_)
  cases hit with
  | none => exact made_pure ()
  | some p =>
      refine (made_notify p.1 p.2).bind (fun _ => ?_)
      refine (hUnsubscribe p.1).bind (fun _ => ?_)
      exact made_freeAck p.1

theorem made_handleExpired
    (i : Fin maxAcks) :
    Made port sv actionKinds
      (handleExpiredResponse port sv i) := by
  refine (made_read _ (by simp)).bind (fun r => ?_)
  refine Prog.Built.ite (made_pure ()) ?_
  refine (made_ask _ (by simp)).bind (fun expired => ?_)
  refine Prog.Built.ite ?_ (made_pure ())
  refine (made_recordEntry rfl).bind (fun _ => ?_)
  refine (made_notify i _).bind (fun _ => ?_)
  exact
    (made_freeAck i).bind
      (fun _ => (made_unsubscribe i).mono (by decide))

theorem made_trackedAction
    (thing : CString)
    (action : ShadowAction)
    (json token : Bytes)
    (callback : HandlerId)
    (context : Nat)
    (timeoutSeconds : UInt32)
    (isSticky : Bool)
    (i : Fin maxAcks) :
    Made port sv actionKinds
      (trackedAction port sv thing action json token callback
        context timeoutSeconds isSticky i) := by
  have hPrepare :
      Made port sv actionKinds
        (prepareSubscriptions port sv thing.bytes action
          isSticky) :=
    (made_prepareSubscriptions thing.bytes action
      isSticky).mono (by decide)
  refine hPrepare.bind (fun rc => ?_)
  refine Prog.Built.ite ?_ (made_pure _)
  refine (made_recordEntry rfl).bind (fun _ => ?_)
  refine (made_mqtt _).bind (fun rc => ?_)
  refine Prog.Built.ite ?_ (made_pure _)
  refine Prog.Built.bind ?_ (fun _ => made_pure _)
  refine .step (fun s => ⟨.entry, by simp, ?_⟩)
  refine .other ⟨rfl, rfl, rfl⟩ rfl ?_ rfl
  intro e he
  cases List.mem_singleton.mp he
  rfl

end Shadow

end TrustOnboard

------------------------------------------------------------
-- Deltas And Calls
------------------------------------------------------------

namespace TrustOnboard

namespace Shadow

open Mqtt (IoTError CString HandlerId)

variable {E : Type}
variable {port : Port E}
variable {sv : Services E}

/- The kinds of steps outside the two lists. -/
abbrev outerKinds : List StepKind :=
  [.plain, .delta, .setting]

/-
  The programs inside a call of the interface that change the
  lists.
-/
inductive Services.Inner
    (port : Port E)
    (sv : Services E) : Code E IoTError → Prop where
  | part
      {p : Code E IoTError}
      (hPart : sv.Part p) :
      sv.Inner port p
  | action
      (thing : CString)
      (action : ShadowAction)
      (json token : Bytes)
      (callback : HandlerId)
      (context : Nat)
      (timeoutSeconds : UInt32)
      (isSticky : Bool)
      (i : Fin maxAcks) :
      sv.Inner port
        (trackedAction port sv thing action json token
          callback context timeoutSeconds isSticky i)

theorem Services.Inner.made
    {p : Code E IoTError}
    (hInner : sv.Inner port p) :
    Made port sv actionKinds p := by
  cases hInner with
  | part hPart => exact .part hPart
  | action => exact made_trackedAction _ _ _ _ _ _ _ _ _

/- Programs that reach the lists through others only. -/
abbrev Outer
    (port : Port E)
    (sv : Services E)
    {α : Type}
    (p : Code E α) : Prop :=
  Prog.Built (Within port outerKinds) (sv.Inner port) p

theorem Made.outer
    {α : Type}
    {p : Code E α}
    (hMade : Made port sv outerKinds p) :
    Outer port sv p :=
  Prog.Built.mono hMade (fun _ _ _ hStep => hStep)
    (fun _ hPart => .part (.part hPart))

theorem made_register
    (pStruct : DeltaStruct) :
    Made port sv outerKinds
      (registerJsonTokenOnDelta sv pStruct) := by
  have hStore :
      ∀ rc : IoTError,
        Made port sv outerKinds
          (do
            let full ←
              Prog.read (fun s =>
                decide
                  (maxJsonTokenExpected ≤
                    s.shadow.tokenTable.length))
            if full then pure .failure
            else do
              modifyShadow (fun s =>
                { s with
                  tokenTable := s.tokenTable ++ [pStruct] })
              pure rc : Code E IoTError) := by
    intro rc
    refine (made_read _ (by simp)).bind (fun full => ?_)
    refine Prog.Built.ite (made_pure _) ?_
    refine Prog.Built.bind ?_ (fun _ => made_pure _)
    exact
      made_plain (by simp) (fun _ => ⟨rfl, rfl, rfl⟩)
        (fun _ => ⟨rfl, rfl⟩) (fun _ => rfl) (fun _ => rfl)
  refine (made_read _ (by simp)).bind (fun subscribed => ?_)
  refine Prog.Built.ite (hStore _) ?_
  refine (made_read _ (by simp)).bind (fun thing => ?_)
  refine (made_mqtt _).bind (fun rc => ?_)
  refine Prog.Built.bind ?_ (fun _ => hStore rc)
  exact
    made_plain (by simp) (fun _ => ⟨rfl, rfl, rfl⟩)
      (fun _ => ⟨rfl, rfl⟩) (fun _ => rfl) (fun _ => rfl)

theorem made_dispatchToken
    (tokenCount index : Nat) :
    Made port sv outerKinds
      (dispatchToken port sv tokenCount index) := by
  refine Prog.Built.bind
    (.step (fun s =>
      ⟨.plain, by simp, .round s tokenCount index⟩))
    (fun hit => ?_)
  rcases hit with _ | ⟨_ | handler, value⟩
  · exact made_pure ()
  · exact made_pure ()
  · exact
      (made_ask _ (by simp)).bind (fun cs => made_calls cs)

theorem made_shadowDeltaCallback
    (m : Message) :
    Made port sv outerKinds
      (shadowDeltaCallback port sv m) := by
  refine Prog.Built.bind
    (.step (fun s => ⟨.delta, by simp, .delta s m⟩))
    (fun taken => ?_)
  cases taken with
  | none => exact made_pure ()
  | some tokenCount =>
      exact Prog.Built.each (made_dispatchToken tokenCount)

theorem outer_internalAction
    (pThingName : Option CString)
    (action : ShadowAction)
    (json : Option Bytes)
    (callback : Option HandlerId)
    (context : Nat)
    (timeoutSeconds : UInt32)
    (isSticky : Bool) :
    Outer port sv
      (internalAction port sv pThingName action json callback
        context timeoutSeconds isSticky) := by
  cases pThingName with
  | none => exact .ret _
  | some thing =>
  cases json with
  | none => exact .ret _
  | some json =>
  have hToken :
      Made port sv outerKinds
        (readClientToken port json) :=
    made_plain (by simp) (fun _ => ⟨rfl, rfl, rfl⟩)
      (fun _ => ⟨rfl, rfl⟩) (fun _ => rfl) (fun _ => rfl)
  refine hToken.outer.bind (fun token => ?_)
  have hPublish :
      Outer port sv
        (publishToShadowAction sv thing.bytes action json) :=
    .part (.part (.mqtt _))
  cases token with
  | none => exact hPublish
  | some token =>
  cases callback with
  | none => exact hPublish
  | some handler =>
  have hFree :
      Made port sv outerKinds
        (Prog.read (fun s : Sys E =>
          s.shadow.getNextFreeIndexOfAckWaitList)) :=
    made_read _ (by simp)
  refine hFree.outer.bind (fun free => ?_)
  cases free with
  | none => exact .ret _
  | some i => exact .part (.action _ _ _ _ _ _ _ _ _)

theorem outer_whenConnected
    {body : Code E IoTError}
    (hBody : Outer port sv body) :
    Outer port sv (whenConnected port body) := by
  have hAsk :
      Made port sv outerKinds
        (ask port.isClientConnected : Code E Bool) :=
    made_ask _ (by simp)
  refine hAsk.outer.bind (fun connected => ?_)
  exact Prog.Built.ite hBody (.ret _)

theorem outer_requestJson :
    Outer port sv (requestJson : Code E Bytes) :=
  Made.outer
    (made_plain (by simp) (fun _ => ⟨rfl, rfl, rfl⟩)
      (fun _ => ⟨rfl, rfl⟩) (fun _ => rfl) (fun _ => rfl))

/- The calls other than a yield. -/
theorem outer_shadowCall
    {c : ShadowCall}
    (hNot : ∀ timeout, c ≠ .yield timeout) :
    Outer port sv (shadowCall port sv c) := by
  cases c with
  | get thing callback context timeout persistent =>
      refine outer_whenConnected ?_
      refine outer_requestJson.bind (fun json => ?_)
      exact outer_internalAction _ _ _ _ _ _ _
  | update thing json callback context timeout persistent =>
      exact
        outer_whenConnected
          (outer_internalAction _ _ _ _ _ _ _)
  | delete thing callback context timeout persistent =>
      refine outer_whenConnected ?_
      refine outer_requestJson.bind (fun json => ?_)
      exact outer_internalAction _ _ _ _ _ _ _
  | yield timeout => exact absurd rfl (hNot timeout)
  | registerDelta pStruct =>
      exact outer_whenConnected (made_register pStruct).outer
  | resetLastReceivedVersion =>
      exact .step (fun s => ⟨.setting, by simp, .reset s⟩)
  | enableDiscardOldDeltaMsgs =>
      exact .step (fun s => ⟨.setting, by simp, .discard s _⟩)
  | disableDiscardOldDeltaMsgs =>
      exact .step (fun s => ⟨.setting, by simp, .discard s _⟩)

end Shadow

end TrustOnboard

------------------------------------------------------------
-- Whole Runs
------------------------------------------------------------

namespace TrustOnboard

namespace Shadow

open Mqtt (IoTError CString HandlerId)

variable {E : Type}
variable {port : Port E}
variable {sv : Services E}

/- Any step at all. -/
abbrev everyKind : List StepKind :=
  [.plain, .bracket, .list, .entry, .ack, .delta, .setting]

theorem Made.every
    {ks : List StepKind}
    {α : Type}
    {p : Code E α}
    (hMade : Made port sv ks p) :
    Made port sv everyKind p := by
  refine hMade.mono (fun k _ => ?_)
  cases k <;> decide

theorem Outer.every
    {α : Type}
    {p : Code E α}
    (hOuter : Outer port sv p) :
    Made port sv everyKind p :=
  Prog.Built.mono hOuter
    (fun _ _ _ hStep => by
      rcases hStep with ⟨k, _, hMove⟩
      refine ⟨k, ?_, hMove⟩
      cases k <;> decide)
    (fun _ hInner => hInner.made.every)

theorem made_bracket
    {e : Event}
    (hAside : e.isAside = true) :
    Made port sv everyKind (record e : Code E Unit) :=
  made_record (k := .bracket) (by decide) hAside
    (fun _ => ⟨rfl, rfl⟩)

theorem made_shadowCall
    (c : ShadowCall) :
    Made port sv everyKind (shadowCall port sv c) := by
  by_cases hYield : ∃ timeout, c = .yield timeout
  · rcases hYield with ⟨timeout, rfl⟩
    refine Prog.Built.bind ?_ (fun _ => made_mqtt _)
    exact
      Prog.Built.each (fun i => (made_handleExpired i).every)
  · exact
      (outer_shadowCall
        (fun t hEq => hYield ⟨t, hEq⟩)).every

theorem made_deliver
    (a : Arrival) :
    Made port sv everyKind (deliver port sv a) := by
  rcases a with ⟨receiver, m⟩
  cases receiver with
  | ackStatusCallback =>
      exact (made_ackStatusCallback m).every
  | shadowDeltaCallback =>
      exact (made_shadowDeltaCallback m).every

theorem made_mqttCall
    (c : MqttCall) :
    Made port sv everyKind
      (mqttCall port (deliver port sv) c) := by
  have hAnswer :
      Made port sv everyKind
        (do
          let rc ← ask (port.answer c)
          record (.answered c rc)
          pure rc : Code E IoTError) := by
    refine (made_ask _ (by decide)).bind (fun rc => ?_)
    exact (made_bracket rfl).bind (fun _ => made_pure _)
  refine (made_bracket rfl).bind (fun _ => ?_)
  refine Prog.Built.ite ?_ hAnswer
  refine (made_ask _ (by decide)).bind (fun arrivals => ?_)
  exact
    (Prog.Built.each made_deliver).bind (fun _ => hAnswer)

theorem made_loggedCall
    (c : ShadowCall) :
    Made port sv everyKind (loggedCall port sv c) := by
  refine (made_bracket rfl).bind (fun _ => ?_)
  refine (made_shadowCall c).bind (fun rc => ?_)
  exact (made_bracket rfl).bind (fun _ => made_pure _)

/- Every step at every level is of one of the kinds. -/
theorem services_moves
    (level : Nat)
    {p : Code E IoTError}
    (hPart : (services port level).Part p) :
    p.Uses (Within port everyKind) := by
  induction level generalizing p with
  | zero => cases hPart <;> trivial
  | succ level ih =>
      cases hPart with
      | mqtt c =>
          exact (made_mqttCall c).uses (fun _ hPart => ih hPart)
      | call c =>
          exact
            (made_loggedCall c).uses (fun _ hPart => ih hPart)

theorem session_moves
    (level : Nat)
    (calls : List ShadowCall) :
    (session port level calls).Uses (Within port everyKind) :=
  (made_calls calls).uses
    (fun _ hPart => services_moves level hPart)

end Shadow

end TrustOnboard
