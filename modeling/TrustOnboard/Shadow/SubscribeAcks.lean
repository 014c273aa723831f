import TrustOnboard.Shadow.Actions
import TrustOnboard.Shadow.Lists

/-
  Subscribing to the two answers of an action.

  The function reserves two entries and gives back only one
  of them when it fails, and it reports success when it does
  not find two.  It is all-or-nothing exactly when it finds
  two free entries and both subscribes succeed.

  Key definitions include:
    * `answering`
    * `LeftSubscribed`
    * `AllOrNothing`
    * `Goes`

  Key results include:
    * `run_subscribeToShadowActionAcks`
    * `allOrNothing_iff_goes`
-/

------------------------------------------------------------
-- The Property
------------------------------------------------------------

namespace TrustOnboard

namespace Shadow

open Mqtt (IoTError CString HandlerId)

variable {E : Type}

/- An MQTT client that only answers. -/
def answering (port : Port E) : Services E where
  mqtt := fun c => do
    record (.called c)
    let rc ← ask (port.answer c)
    record (.answered c rc)
    pure rc
  call := fun _ => pure .success

/- Some subscribe to the topic has succeeded. -/
def Subscribed (es : List Event) (topic : Bytes) : Prop :=
  .answered (.subscribe topic .ackStatusCallback) .success ∈
    es

/-
  The last subscribe or unsubscribe of the topic that has
  succeeded is a subscribe.
-/
def LeftSubscribed (topic : Bytes) : List Event → Prop
  | [] => False
  | .answered (.subscribe t _) .success :: es =>
      t = topic ∨ LeftSubscribed topic es
  | .answered (.unsubscribe t) .success :: es =>
      t ≠ topic ∧ LeftSubscribed topic es
  | _ :: es => LeftSubscribed topic es

/- An entry that was reserved and subscribed. -/
def subscribedEntry
    (topic : Bytes)
    (isSticky : Bool) : SubscriptionRecord where
  topic := topic
  count := 1
  isFree := false
  isSticky := isSticky

/-
  The call is all-or-nothing, between two lists, with its
  code and its events.
-/
structure AllOrNothing
    (accepted rejected : Bytes)
    (isSticky : Bool)
    (before after : Fin maxTopics → SubscriptionRecord)
    (rc : IoTError)
    (es : List Event) : Prop where
  success :
    rc = .success ↔
      Subscribed es accepted ∧ Subscribed es rejected
  all :
    rc = .success →
      ∃ a r, a ≠ r ∧
        (before a).isFree = true ∧
        (before r).isFree = true ∧
        after a = subscribedEntry accepted isSticky ∧
        after r = subscribedEntry rejected isSticky ∧
        ∀ k, k ≠ a → k ≠ r → after k = before k
  nothing :
    ¬ (rc = .success ∧ Subscribed es accepted ∧
        Subscribed es rejected) →
      (∀ k, (after k).isFree = (before k).isFree) ∧
        .readOutside ∉ es ∧
        ((∀ t c, .answered (.unsubscribe t) c ∈ es →
            c = .success) →
          ¬ LeftSubscribed accepted es ∧
            ¬ LeftSubscribed rejected es)

/- Two entries of the list are free. -/
def TwoFree
    (list : Fin maxTopics → SubscriptionRecord) : Prop :=
  ∃ a r, a ≠ r ∧ (list a).isFree = true ∧
    (list r).isFree = true

/-
  Two entries are free, and the MQTT client answers both
  subscribes with success.
-/
structure Goes
    (port : Port E)
    (accepted rejected : Bytes)
    (s : Sys E) : Prop where
  room : TwoFree s.shadow.subscriptionList
  first :
    (port.answer
      (.subscribe accepted .ackStatusCallback) s.env).1 =
      .success
  second :
    (port.answer
      (.subscribe rejected .ackStatusCallback)
      (port.answer
        (.subscribe accepted .ackStatusCallback)
        s.env).2).1 = .success

end Shadow

end TrustOnboard

------------------------------------------------------------
-- The Call
------------------------------------------------------------

namespace TrustOnboard

namespace Shadow

open Mqtt (IoTError CString HandlerId)

variable {E : Type}

@[simp]
theorem run_answering
    (port : Port E)
    (c : MqttCall)
    (w : Run E) :
    ((answering port).mqtt c).run w =
      (some (port.answer c w.st.env).1,
        ⟨{ w.st with env := (port.answer c w.st.env).2 },
          .answered c (port.answer c w.st.env).1 ::
            .called c :: w.log⟩) :=
  rfl

/- A reservation that finds an entry. -/
theorem run_getNextFree_some
    {w : Run E}
    {k : Fin maxTopics}
    (hFree : w.st.shadow.firstFree = some k) :
    (getNextFreeIndexOfSubscriptionList).run w =
      (some (some k),
        ⟨{ w.st with
          shadow :=
            w.st.shadow.setSubscription k (fun entry =>
              { entry with isFree := false }) }, w.log⟩) := by
  unfold getNextFreeIndexOfSubscriptionList
  rw [Prog.run_step, hFree]
  rfl

/- A reservation that finds none. -/
theorem run_getNextFree_none
    {w : Run E}
    (hFull : w.st.shadow.firstFree = none) :
    (getNextFreeIndexOfSubscriptionList).run w =
      (some none, w) := by
  unfold getNextFreeIndexOfSubscriptionList
  rw [Prog.run_step, hFull]
  rfl

/- Two free entries are found one after the other. -/
theorem firstFree_of_twoFree
    {s : State}
    (hTwo : TwoFree s.subscriptionList) :
    ∃ a r,
      s.firstFree = some a ∧
        (s.setSubscription a (fun entry =>
          { entry with isFree := false })).firstFree =
            some r ∧
        a ≠ r ∧ (s.subscriptionList a).isFree = true ∧
        (s.subscriptionList r).isFree = true := by
  rcases hTwo with ⟨x, y, hNe, hx, hy⟩
  cases hFirst : s.firstFree with
  | none =>
      have hAll := (s.firstFree_eq_none_iff).mp hFirst x
      rw [hx] at hAll
      cases hAll
  | some a =>
      have ha := (s.firstFree_eq_some_iff a).mp hFirst
      cases hSecond :
          (s.setSubscription a (fun entry =>
            { entry with isFree := false })).firstFree with
      | none =>
          -- One of the two is not the one that was reserved.
          have hAll :=
            (State.firstFree_eq_none_iff _).mp hSecond
          by_cases hxa : x = a
          · subst hxa
            have hNo := hAll y
            rw [s.setSubscription_other (Ne.symm hNe), hy]
              at hNo
            cases hNo
          · have hNo := hAll x
            rw [s.setSubscription_other hxa, hx] at hNo
            cases hNo
      | some r =>
          have hr :=
            ((State.firstFree_eq_some_iff _ r).mp hSecond).1
          have hra : r ≠ a := by
            rintro rfl
            rw [s.setSubscription_same] at hr
            cases hr
          rw [s.setSubscription_other hra] at hr
          exact ⟨a, r, rfl, hSecond, hra.symm, ha.1, hr⟩

/- Fewer than two free entries. -/
theorem firstFree_of_not_twoFree
    {s : State}
    (hFew : ¬ TwoFree s.subscriptionList) :
    s.firstFree = none ∨
      ∃ a, s.firstFree = some a ∧
        (s.setSubscription a (fun entry =>
          { entry with isFree := false })).firstFree =
            none := by
  cases hFirst : s.firstFree with
  | none => exact Or.inl rfl
  | some a =>
      refine Or.inr ⟨a, rfl, ?_⟩
      have ha := (s.firstFree_eq_some_iff a).mp hFirst
      rw [State.firstFree_eq_none_iff]
      intro k
      by_cases hka : k = a
      · rw [hka, s.setSubscription_same]
      · rw [s.setSubscription_other hka]
        cases hFree : (s.subscriptionList k).isFree with
        | false => rfl
        | true =>
            exact absurd ⟨a, k, Ne.symm hka, ha.1, hFree⟩ hFew

/- What is left to do with the entry of the answer. -/
def cleanUp
    (port : Port E)
    (entry : SubscriptionRecord)
    (w : Run E) : Run E :=
  if entry.count = 1 then
    (((answering port).mqtt (.unsubscribe entry.topic)).run
      w).2
  else w

/- The end of the call, with an entry that was reserved. -/
theorem run_clearBothEntries_some
    (port : Port E)
    (a : Fin maxTopics)
    (rejected : Option (Fin maxTopics))
    (w : Run E) :
    (clearBothEntries port (answering port) (some a)
        rejected).run w =
      (some (),
        cleanUp port (w.st.shadow.subscriptionList a)
          ⟨{ w.st with
            shadow :=
              w.st.shadow.setSubscription a (fun entry =>
                { entry with isFree := true }) },
            w.log⟩) := by
  unfold clearBothEntries cleanUp
  simp only [freeEntry, acceptedEntry, Prog.run_bind,
    modifyShadow, Prog.modify, Prog.read, Prog.run_step,
    List.nil_append, State.setSubscription_same]
  by_cases hOne : (w.st.shadow.subscriptionList a).count = 1
  · rw [if_pos hOne, if_pos hOne]
    rfl
  · rw [if_neg hOne, if_neg hOne]
    rfl

/- The end of the call, when no entry was free. -/
theorem run_clearBothEntries_none
    (port : Port E)
    (w : Run E) :
    (clearBothEntries port (answering port) none none).run
        w =
      (some (),
        cleanUp port (port.beforeList w.st.env)
          ⟨w.st, .readOutside :: w.log⟩) := by
  unfold clearBothEntries cleanUp
  simp only [acceptedEntry, Prog.run_bind, Prog.pure_eq,
    record, Prog.emit, Prog.read, Prog.run_step,
    List.nil_append]
  by_cases hOne : (port.beforeList w.st.env).count = 1
  · rw [if_pos hOne, if_pos hOne]
    rfl
  · rw [if_neg hOne, if_neg hOne]
    rfl

@[simp]
theorem cleanUp_subscriptionList
    (port : Port E)
    (entry : SubscriptionRecord)
    (w : Run E) :
    (cleanUp port entry w).st.shadow.subscriptionList =
      w.st.shadow.subscriptionList := by
  unfold cleanUp
  split
  · rw [run_answering]
  · rfl

/- It does not subscribe. -/
theorem subscribed_cleanUp_iff
    (port : Port E)
    (entry : SubscriptionRecord)
    (w : Run E)
    (topic : Bytes) :
    Subscribed (cleanUp port entry w).log topic ↔
      Subscribed w.log topic := by
  unfold cleanUp Subscribed
  split
  · rw [run_answering]
    simp
  · rfl

end Shadow

end TrustOnboard

------------------------------------------------------------
-- When It Is All Or Nothing
------------------------------------------------------------

namespace TrustOnboard

namespace Shadow

open Mqtt (IoTError CString HandlerId)

variable {E : Type}
variable (port : Port E)
variable (thing : Bytes) (action : ShadowAction)
variable (isSticky : Bool)

/- The call from a state, with an empty log. -/
def callSubscribe
    (s : Sys E) : Option IoTError × Run E :=
  (subscribeToShadowActionAcks port (answering port) thing
    action isSticky).run ⟨s, []⟩

/- Without two free entries it reports success. -/
theorem callSubscribe_few
    {s : Sys E}
    (hFew : ¬ TwoFree s.shadow.subscriptionList) :
    (callSubscribe port thing action isSticky s).1 =
        some .success ∧
      ∀ topic,
        ¬ Subscribed
          (callSubscribe port thing action isSticky s).2.log
          topic := by
  unfold callSubscribe subscribeToShadowActionAcks
  rcases firstFree_of_not_twoFree hFew with
    hNone | ⟨a, hFirst, hSecond⟩
  · rw [Prog.run_bind_of_run (run_getNextFree_none hNone),
      Prog.run_bind_of_run (run_getNextFree_none hNone)]
    simp only [Prog.run_bind, record, Prog.emit,
      Prog.run_step, Prog.pure_eq, Prog.run_ret, if_true, run_clearBothEntries_none]
    refine ⟨trivial, fun topic => ?_⟩
    rw [subscribed_cleanUp_iff]
    simp [Subscribed]
  · rw [Prog.run_bind_of_run (run_getNextFree_some hFirst),
      Prog.run_bind_of_run (run_getNextFree_none hSecond)]
    simp only [Prog.run_bind, record, Prog.emit,
      Prog.run_step, Prog.pure_eq, Prog.run_ret, if_true, run_clearBothEntries_some]
    refine ⟨trivial, fun topic => ?_⟩
    rw [subscribed_cleanUp_iff]
    simp [Subscribed]

/-
  With two free entries it answers as the MQTT client does,
  and a failure leaves the second entry reserved.
-/
theorem callSubscribe_fails
    {s : Sys E}
    (hTwo : TwoFree s.shadow.subscriptionList)
    (hNot :
      ¬ Goes port
        (topicNameFromThingAndAction thing action .accepted)
        (topicNameFromThingAndAction thing action .rejected)
        s) :
    ∃ rc r, rc ≠ .success ∧
      (callSubscribe port thing action isSticky s).1 =
        some rc ∧
      (s.shadow.subscriptionList r).isFree = true ∧
      ((callSubscribe port thing action
        isSticky s).2.st.shadow.subscriptionList r).isFree =
          false := by
  rcases firstFree_of_twoFree hTwo with
    ⟨a, r, hFirst, hSecond, hNe, ha, hr⟩
  unfold callSubscribe subscribeToShadowActionAcks
  rw [Prog.run_bind_of_run (run_getNextFree_some hFirst),
    Prog.run_bind_of_run (run_getNextFree_some hSecond)]
  simp only [Prog.run_bind, subscribeBoth,
    subscribeEntry, modifyShadow, Prog.modify, Prog.run_step,
    run_answering]
  generalize hOne :
    port.answer
      (.subscribe
        (topicNameFromThingAndAction thing action .accepted)
        .ackStatusCallback) s.env = one
  by_cases hGood : one.1 = .success
  · rw [if_pos hGood]
    simp only [Prog.run_bind, settleEntry, modifyShadow,
      Prog.modify, Prog.run_step, run_answering]
    generalize hAgain :
      port.answer
        (.subscribe
          (topicNameFromThingAndAction thing action
            .rejected)
          .ackStatusCallback) one.2 = two
    have hBad : two.1 ≠ .success := by
      intro hBoth
      refine hNot ⟨hTwo, ?_, ?_⟩
      · rw [hOne]
        exact hGood
      · rw [hOne, hAgain]
        exact hBoth
    rw [if_neg hBad]
    simp only [Prog.pure_eq, Prog.run_ret, if_true,
      Prog.run_bind, run_clearBothEntries_some]
    refine ⟨two.1, r, hBad, rfl, hr, ?_⟩
    simp [State.setSubscription_other, hNe.symm]
  · rw [if_neg hGood]
    simp only [Prog.pure_eq, Prog.run_ret, if_true,
      Prog.run_bind, run_clearBothEntries_some]
    refine ⟨one.1, r, hGood, rfl, hr, ?_⟩
    simp [State.setSubscription_other, hNe.symm]

/- When it goes, both entries hold their topics. -/
theorem callSubscribe_goes
    {s : Sys E}
    (hGoes :
      Goes port
        (topicNameFromThingAndAction thing action .accepted)
        (topicNameFromThingAndAction thing action .rejected)
        s) :
    (callSubscribe port thing action isSticky s).1 =
        some .success ∧
      AllOrNothing
        (topicNameFromThingAndAction thing action .accepted)
        (topicNameFromThingAndAction thing action .rejected)
        isSticky s.shadow.subscriptionList
        (callSubscribe port thing action
          isSticky s).2.st.shadow.subscriptionList
        .success
        (callSubscribe port thing action isSticky
          s).2.log := by
  rcases firstFree_of_twoFree hGoes.room with
    ⟨a, r, hFirst, hSecond, hNe, ha, hr⟩
  unfold callSubscribe subscribeToShadowActionAcks
  rw [Prog.run_bind_of_run (run_getNextFree_some hFirst),
    Prog.run_bind_of_run (run_getNextFree_some hSecond)]
  simp only [Prog.run_bind, subscribeBoth,
    subscribeEntry, run_answering, hGoes.first, if_true,
    settleEntry, modifyShadow, Prog.modify, Prog.run_step,
    hGoes.second,
    Prog.pure_eq, Prog.run_ret, Bool.false_eq_true,
    if_false, true_and]
  refine ⟨⟨fun _ => ⟨?_, ?_⟩, fun _ => rfl⟩, ?_, ?_⟩
  · simp [Subscribed]
  · simp [Subscribed]
  · intro _
    refine ⟨a, r, hNe, ha, hr, ?_, ?_, ?_⟩
    · simp [State.setSubscription_other, hNe,
        subscribedEntry]
    · simp [State.setSubscription_other, hNe.symm,
        subscribedEntry]
    · intro k hka hkr
      simp [State.setSubscription_other, hka, hkr]
  · intro hNo
    exact
      absurd
        ⟨rfl, by simp [Subscribed], by simp [Subscribed]⟩ hNo

/-
  The call is all-or-nothing exactly when two entries are
  free and both subscribes succeed.
-/
theorem allOrNothing_iff_goes
    (s : Sys E) :
    (∃ rc,
      (callSubscribe port thing action isSticky s).1 =
          some rc ∧
        AllOrNothing
          (topicNameFromThingAndAction thing action
            .accepted)
          (topicNameFromThingAndAction thing action
            .rejected)
          isSticky s.shadow.subscriptionList
          (callSubscribe port thing action
            isSticky s).2.st.shadow.subscriptionList
          rc
          (callSubscribe port thing action isSticky
            s).2.log) ↔
      Goes port
        (topicNameFromThingAndAction thing action .accepted)
        (topicNameFromThingAndAction thing action .rejected)
        s := by
  constructor
  · rintro ⟨rc, hRc, hAll⟩
    by_contra hNot
    by_cases hTwo : TwoFree s.shadow.subscriptionList
    · rcases
        callSubscribe_fails port thing action isSticky hTwo
          hNot with ⟨rc', r, hBad, hRc', hr, hr'⟩
      rw [hRc] at hRc'
      cases hRc'
      have hSame := (hAll.nothing (fun h => hBad h.1)).1 r
      rw [hr, hr'] at hSame
      cases hSame
    · rcases callSubscribe_few port thing action isSticky
        hTwo with ⟨hRc', hNone⟩
      rw [hRc] at hRc'
      cases hRc'
      exact hNone _ (hAll.success.mp rfl).1
  · intro hGoes
    exact
      ⟨.success,
        callSubscribe_goes port thing action isSticky hGoes⟩

/-
  An MQTT client that refuses the second subscribe for a
  thing.
-/
def refusing : Port Unit where
  __ := Port.calm
  answer := fun c e =>
    (if c =
        .subscribe
          (topicNameFromThingAndAction (ascii "lamp") .get
            .rejected) .ackStatusCallback then .failure
      else .success, e)

/- The entry of the refused topic stays reserved. -/
theorem refusing_notAllOrNothing :
    ¬ ∃ rc,
      (callSubscribe refusing (ascii "lamp") .get false
          ⟨State.blank, ()⟩).1 = some rc ∧
        AllOrNothing
          (topicNameFromThingAndAction (ascii "lamp") .get
            .accepted)
          (topicNameFromThingAndAction (ascii "lamp") .get
            .rejected)
          false State.blank.subscriptionList
          (callSubscribe refusing (ascii "lamp") .get false
            ⟨State.blank, ()⟩).2.st.shadow.subscriptionList
          rc
          (callSubscribe refusing (ascii "lamp") .get false
            ⟨State.blank, ()⟩).2.log := by
  rintro ⟨rc, hRc, hAll⟩
  have hTwo :
      TwoFree State.blank.subscriptionList :=
    ⟨0, 1, by decide, rfl, rfl⟩
  have hNot :
      ¬ Goes refusing
        (topicNameFromThingAndAction (ascii "lamp") .get
          .accepted)
        (topicNameFromThingAndAction (ascii "lamp") .get
          .rejected) ⟨State.blank, ()⟩ := by
    intro hGoes
    have hSecond := hGoes.second
    revert hSecond
    decide
  rcases
    callSubscribe_fails refusing (ascii "lamp") .get false
      (s := ⟨State.blank, ()⟩) hTwo hNot with
    ⟨rc', r, hBad, hRc', hr, hr'⟩
  rw [hRc] at hRc'
  cases hRc'
  have hSame := (hAll.nothing (fun h => hBad h.1)).1 r
  rw [hr, hr'] at hSame
  cases hSame

end Shadow

end TrustOnboard
