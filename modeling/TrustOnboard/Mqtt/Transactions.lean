import TrustOnboard.Mqtt.Subscriptions
import TrustOnboard.Mqtt.Resubscribe

/-
  Subscribe and unsubscribe as transactions on the handler
  table.

  With callbacks that do not call the client, a call that
  fails leaves the table as it was.  A subscribe that
  succeeds fills the first free slot and no other; an
  unsubscribe that succeeds frees the slots of its topic and
  no other.  Over a run of such calls the free slots and the
  live subscriptions therefore add up to the whole table.

  Key definitions include:
    * `Subscribed`
    * `Unsubscribed`
    * `FirstFree`
    * `CallRun`
    * `liveAfter`
    * `freeSlots`

  Key results include:
    * `api_subscribed`
    * `api_unsubscribed`
    * `callRun_live`
    * `table_transactions`
-/

------------------------------------------------------------
-- Waiting With An Unchanged Table
------------------------------------------------------------

namespace TrustOnboard

namespace Mqtt

variable {E : Type}
variable {port : Port E}
variable {callback : Callback E}
variable {table : List MessageHandlers}

/- Nothing but the two calls changes the table. -/
theorem keptInWaits_tableIs
    (hSingle : port.threadSupport = false)
    (hCb : Harmless (Contract.plain (Sys E) Event) callback)
    (s : ClientState) :
    KeptInWaits port (Contract.plain (Sys E) Event) callback
      (At s (TableIs table)) := by
  have hKept :
      Kept port (Contract.plain (Sys E) Event)
        (At s (TableIs table)) :=
    { halt := fun _ _ => trivial
      quiet := fun _ _ _ _ _ h => h
      read := fun fuel =>
        in_readPacket (fun _ _ => trivial)
          (fun _ _ _ _ h => h) fuel
      send := fun fuel length timer =>
        (in_sendPacket hSingle (fun _ _ => trivial)
          (fun _ _ _ _ h => h) fuel length timer).pre
            (fun _ h => h.2) }
  refine ⟨hKept, hKept.waitForRead ?_⟩
  refine hKept.cycleRead_of_deliver hSingle ?_
  intro msg
  exact
    (at_deliverMessage hSingle hCb (fun _ _ _ _ h => h) s
      msg).post (fun _ _ h => h.2)

/-
  An operation puts the state it was called in back, so that
  its code is the code of the call.
-/
theorem enterOperation_tableIs
    (hSingle : port.threadSupport = false)
    {J : IoTError → Fact}
    (hQuiet :
      ∀ rc f l e, Event.quiet e = true → J rc f l →
        J rc f (e :: l))
    (hRefused :
      ∀ rc f l,
        rc = .networkDisconnectedError ∨
            rc = .mqttClientNotIdleError →
          TableIs table f l → J rc f l)
    {during : ClientState}
    {refused : ClientState → IoTError → Code E IoTError}
    {operation : Code E IoTError}
    (hOp :
      Triple (Contract.plain (Sys E) Event)
        (Holds (At during (TableIs table))) operation
        (fun rc => Holds (At during (J rc)))) :
    Triple (Contract.plain (Sys E) Event)
      (Holds (TableIs table).cond)
      (enterOperation port during refused operation)
      (fun rc => Holds (J rc).cond) := by
  refine in_pre ?_
  intro s _
  refine at_getClientState.bind ?_
  intro seen
  refine Triple.of_fact ?_
  intro _
  refine Triple.ite ?_ ?_
  · intro _
    exact Triple.ret
      (fun w h =>
        ⟨trivial, hRefused _ _ _ (Or.inl rfl) h.2⟩)
  intro _
  refine at_getClientState.bind ?_
  intro clientState
  refine Triple.of_fact ?_
  rintro rfl
  refine Triple.ite ?_ ?_
  · intro _
    exact Triple.ret
      (fun w h =>
        ⟨trivial, hRefused _ _ _ (Or.inr rfl) h.2⟩)
  intro _
  refine
    (setClientState_of_eq hSingle (fun _ _ _ _ h => h)
      during).bind ?_
  intro rc
  refine Triple.of_fact ?_
  rintro rfl
  refine Triple.ite (fun hNo => absurd rfl hNo) ?_
  intro _
  refine hOp.bind ?_
  intro opRc
  refine
    (setClientState_of_eq hSingle (hQuiet opRc) _).bind ?_
  intro rc
  refine Triple.of_fact ?_
  rintro rfl
  refine Triple.ite ?_ ?_
  · rintro ⟨_, hNo⟩
    exact absurd rfl hNo
  · intro _
    exact Triple.ret (fun _ h => ⟨trivial, h.2⟩)

/- A call whose body ends with the given fact. -/
theorem api_of_body
    {c : ApiCall}
    {J : IoTError → List MessageHandlers → Prop}
    (hBody :
      ∀ fuel inWait inYield,
        Triple (Contract.plain (Sys E) Event)
          (Holds (TableIs table).cond)
          (apiBody port fuel inWait inYield c)
          (fun rc =>
            Holds (Fact.cond (fun f _ => J rc f.table))))
    {fuel : Nat}
    {waiting : Bool}
    {w w' : Run E}
    {rc : IoTError}
    (hTable : w.st.client.messageHandlers = table)
    (hRun : (api port fuel waiting c).run w = (some rc, w')) :
    J rc w'.st.client.messageHandlers := by
  have hTriple :
      Triple (Contract.plain (Sys E) Event)
        (Holds (TableIs table).cond)
        (api port fuel waiting c)
        (fun rc =>
          Holds (Fact.cond (fun f _ => J rc f.table))) := by
    cases fuel with
    | zero => exact Triple.stop (fun _ _ => trivial)
    | succ fuel =>
        refine Triple.seq
          (Triple.emit (fun _ h => Or.inr h)) ?_
        intro _
        refine (hBody fuel _ _).bind ?_
        intro rc
        exact
          Triple.seq (Triple.emit (fun _ h => Or.inr h))
            (fun _ => Triple.same)
  rcases hTriple.of_run ⟨trivial, hTable⟩ hRun with
    hNo | hPost
  · exact hNo.elim
  · exact hPost.2

end Mqtt

end TrustOnboard

------------------------------------------------------------
-- Subscribe
------------------------------------------------------------

namespace TrustOnboard

namespace Mqtt

variable {E : Type}
variable {port : Port E}
variable {callback : Callback E}
variable {table : List MessageHandlers}

/- What a subscribe does to the table, by its code. -/
structure Subscribed
    (entry : MessageHandlers)
    (rc : IoTError)
    (table table' : List MessageHandlers) : Prop where
  success :
    rc = .success →
      getFreeMessageHandlerIndex table < table.length ∧
        table' =
          table.set (getFreeMessageHandlerIndex table) entry
  failure : rc ≠ .success → table' = table
  full :
    rc = .mqttMaxSubscriptionsReachedError →
      table.length ≤ getFreeMessageHandlerIndex table

/-
  The code for a full table is returned only for a table
  without a free slot.
-/
theorem internalSubscribe_full
    (hSingle : port.threadSupport = false)
    (fuel : Nat)
    (topic : Option CString)
    (topicLen : UInt16)
    (qos : QoS)
    (handler : Option HandlerId)
    (data : Nat) :
    Triple (Contract.plain (Sys E) Event)
      (Holds (TableIs table).cond)
      (internalSubscribe port fuel callback topic topicLen
        qos handler data)
      (fun rc _ =>
        rc = .mqttMaxSubscriptionsReachedError →
          table.length ≤
            getFreeMessageHandlerIndex table) := by
  refine holds_startCommandTimer.bind ?_
  intro _
  refine holds_getNextPacketId.bind ?_
  intro txPacketId
  refine
    (holds_serialize (fun _ _ => trivial)
      (serializeSubscribe_encodes txPacketId topic topicLen
        qos)).bind ?_
  intro encoded
  cases encoded with
  | error rc =>
      refine Triple.ret ?_
      rintro w ⟨⟨c, hError⟩, _⟩ hFull
      rw [serializeFrame_error hError] at hFull
      cases hFull
  | ok n =>
      refine Triple.bind
        (M := fun (c : Client) _ =>
          c.messageHandlers = table ∧ True)
        (Triple.read (fun _ h => ⟨h.2.2, trivial⟩)) ?_
      intro c
      refine Triple.of_fact ?_
      rintro rfl
      refine Triple.ite ?_ ?_
      · intro hFull
        exact Triple.ret (fun _ _ _ => hFull)
      intro _
      -- the codes of the exchange are all others
      refine Triple.post (B := fun rc _ => Common rc) ?_
        (fun rc _ hCommon hFull =>
          absurd hFull hCommon.2.2)
      refine (sendPacket_common hSingle fuel n _).bind ?_
      intro rc
      refine
        Triple.ite (fun _ => Triple.ret (fun _ h => h)) ?_
      intro _
      refine
        ((waitForRead_common hSingle fuel _ _).pre
          (fun _ _ => trivial)).bind ?_
      intro rc
      refine
        Triple.ite (fun _ => Triple.ret (fun _ h => h)) ?_
      intro _
      refine Triple.anything.bind ?_
      intro c
      cases hAck :
          deserializeSuback c.readBuf 1 c.readBufSize with
      | error rc =>
          refine Triple.ret (fun _ _ => ?_)
          rcases deserializeSuback_error hAck with
            rfl | rfl | rfl
          · decide
          · decide
          · decide
      | ok _ =>
          exact
            Triple.anything.bind
              (fun _ => Triple.ret (fun _ _ => common_success))

theorem internalSubscribe_subscribed
    (hSingle : port.threadSupport = false)
    (hCb : Harmless (Contract.plain (Sys E) Event) callback)
    (fuel : Nat)
    (topic : Option CString)
    (topicLen : UInt16)
    (qos : QoS)
    (handler : Option HandlerId)
    (data : Nat) :
    Triple (Contract.plain (Sys E) Event)
      (Holds (At .connectedSubscribeInProgress
        (TableIs table)))
      (internalSubscribe port fuel callback topic topicLen
        qos handler data)
      (fun rc =>
        Holds (At .connectedSubscribeInProgress (fun f _ =>
          Subscribed
            { topicName := topic
              topicNameLen := topicLen
              qos := qos
              pApplicationHandler := handler
              pApplicationHandlerData := data }
            rc table f.table))) := by
  have hStored :
      Triple (Contract.plain (Sys E) Event)
        (Holds (At .connectedSubscribeInProgress
          (TableIs table)))
        (internalSubscribe port fuel callback topic topicLen
          qos handler data)
        (fun rc =>
          Holds (At .connectedSubscribeInProgress
            (fun f _ =>
              (rc = .success →
                getFreeMessageHandlerIndex table <
                    table.length ∧
                  f.table =
                    table.set
                      (getFreeMessageHandlerIndex table)
                      { topicName := topic
                        topicNameLen := topicLen
                        qos := qos
                        pApplicationHandler := handler
                        pApplicationHandlerData := data }) ∧
              (rc ≠ .success → f.table = table)))) := by
    refine
      (keptInWaits_tableIs hSingle hCb _).internalSubscribe
        ?_ fuel topic topicLen qos handler data ?_
    · rintro rc w hRc ⟨hState, hTable⟩
      exact
        ⟨hState, fun hYes => absurd hYes hRc,
          fun _ => hTable⟩
    · rintro s f l ⟨_, rfl⟩ hFree
      refine Triple.step ?_
      rintro w ⟨hState, hTable⟩
      refine
        Or.inr
          ⟨hState, fun _ => ⟨hFree, ?_⟩,
            fun hNo => absurd rfl hNo⟩
      have hSame : w.st.client.messageHandlers = f.table :=
        hTable
      simp only [Client.frame, hSame]
  refine
    ((hStored.and_plain
      (internalSubscribe_full hSingle fuel topic topicLen
        qos handler data)).pre
          (fun w h => ⟨h, trivial, h.2⟩)).post ?_
  rintro rc w ⟨⟨hState, hSuccess, hFailure⟩, hFull⟩
  exact ⟨hState, hSuccess, hFailure, hFull⟩

/- What a call of `aws_iot_mqtt_subscribe` does. -/
theorem api_subscribed
    (hSingle : port.threadSupport = false)
    (hQuiet : QuietCallbacks port)
    {fuel : Nat}
    {waiting : Bool}
    {topic : Option CString}
    {topicLen : UInt16}
    {qos : QoS}
    {handler : Option HandlerId}
    {data : Nat}
    {w w' : Run E}
    {rc : IoTError}
    (hRun :
      (api port fuel waiting
        (.subscribe topic topicLen qos handler data)).run w =
          (some rc, w')) :
    Subscribed
      { topicName := topic
        topicNameLen := topicLen
        qos := qos
        pApplicationHandler := handler
        pApplicationHandlerData := data }
      rc w.st.client.messageHandlers
      w'.st.client.messageHandlers := by
  refine
    api_of_body
      (J := fun rc table' =>
        Subscribed
          { topicName := topic
            topicNameLen := topicLen
            qos := qos
            pApplicationHandler := handler
            pApplicationHandlerData := data }
          rc w.st.client.messageHandlers table')
      ?_ rfl hRun
  intro fuel inWait inYield
  refine Triple.ite ?_ ?_
  · intro _
    refine Triple.ret ?_
    intro w hTable
    exact ⟨trivial, nofun, fun _ => hTable.2, nofun⟩
  intro _
  refine
    enterOperation_tableIs hSingle (fun _ _ _ _ _ h => h) ?_
      (internalSubscribe_subscribed hSingle
        (harmless_runCallback hQuiet _) fuel _ _ _ _ _)
  rintro rc f l (rfl | rfl) hTable
  · exact ⟨nofun, fun _ => hTable, nofun⟩
  · exact ⟨nofun, fun _ => hTable, nofun⟩

end Mqtt

end TrustOnboard

------------------------------------------------------------
-- Unsubscribe
------------------------------------------------------------

namespace TrustOnboard

namespace Mqtt

variable {E : Type}
variable {port : Port E}
variable {callback : Callback E}
variable {table : List MessageHandlers}

/- What an unsubscribe does to the table, by its code. -/
structure Unsubscribed
    (filter : Option CString)
    (rc : IoTError)
    (table table' : List MessageHandlers) : Prop where
  success :
    rc = .success →
      table.any (fun slot => slot.holds filter) = true ∧
        table' = removeFilter filter table
  failure : rc ≠ .success → table' = table

theorem internalUnsubscribe_unsubscribed
    (hSingle : port.threadSupport = false)
    (hCb : Harmless (Contract.plain (Sys E) Event) callback)
    (fuel : Nat)
    (filter : Option CString)
    (filterLen : UInt16) :
    Triple (Contract.plain (Sys E) Event)
      (Holds (At .connectedUnsubscribeInProgress
        (TableIs table)))
      (internalUnsubscribe port fuel callback filter
        filterLen)
      (fun rc =>
        Holds (At .connectedUnsubscribeInProgress
          (fun f _ =>
            Unsubscribed filter rc table f.table))) := by
  refine
    (keptInWaits_tableIs hSingle hCb _).internalUnsubscribe
      ?_ fuel filter filterLen ?_
  · rintro rc w hRc ⟨hState, hTable⟩
    exact
      ⟨hState, fun hYes => absurd hYes hRc, fun _ => hTable⟩
  · rintro s f l ⟨_, rfl⟩ hHeld
    refine Triple.modify ?_
    rintro w ⟨hState, hTable⟩
    refine
      ⟨hState, fun _ => ⟨hHeld, ?_⟩,
        fun hNo => absurd rfl hNo⟩
    have hSame : w.st.client.messageHandlers = f.table :=
      hTable
    simp only [Client.frame, hSame]

/- What a call of `aws_iot_mqtt_unsubscribe` does. -/
theorem api_unsubscribed
    (hSingle : port.threadSupport = false)
    (hQuiet : QuietCallbacks port)
    {fuel : Nat}
    {waiting : Bool}
    {filter : Option CString}
    {filterLen : UInt16}
    {w w' : Run E}
    {rc : IoTError}
    (hRun :
      (api port fuel waiting
        (.unsubscribe filter filterLen)).run w =
          (some rc, w')) :
    Unsubscribed filter rc w.st.client.messageHandlers
      w'.st.client.messageHandlers := by
  refine
    api_of_body
      (J := fun rc table' =>
        Unsubscribed filter rc w.st.client.messageHandlers
          table')
      ?_ rfl hRun
  intro fuel inWait inYield
  refine Triple.ite ?_ ?_
  · intro _
    refine Triple.ret ?_
    intro w hTable
    exact ⟨trivial, nofun, fun _ => hTable.2⟩
  intro _
  refine
    enterOperation_tableIs hSingle (fun _ _ _ _ _ h => h) ?_
      (internalUnsubscribe_unsubscribed hSingle
        (harmless_runCallback hQuiet _) fuel _ _)
  rintro rc f l (rfl | rfl) hTable
  · exact ⟨nofun, fun _ => hTable⟩
  · exact ⟨nofun, fun _ => hTable⟩

end Mqtt

end TrustOnboard

------------------------------------------------------------
-- Slots And Subscriptions
------------------------------------------------------------

namespace TrustOnboard

namespace Mqtt

/- The slots without a subscription. -/
def freeSlots (table : List MessageHandlers) : Nat :=
  table.countP (fun slot => slot.topicName.isNone)

/- The first slot without a subscription. -/
def FirstFree
    (table : List MessageHandlers)
    (i : Nat) : Prop :=
  (∃ slot, table[i]? = some slot ∧
      slot.topicName = none) ∧
    ∀ j < i, ∀ slot, table[j]? = some slot →
      slot.topicName ≠ none

/- A slot is free or stands for one subscription. -/
theorem freeSlots_add_subscriptions
    (table : List MessageHandlers) :
    freeSlots table + (subscriptions table).length =
      table.length := by
  unfold freeSlots subscriptions
  induction table with
  | nil => rfl
  | cons slot table ih =>
      cases hTopic : slot.topicName with
      | none =>
          simp only [List.countP_cons, List.filterMap_cons,
            MessageHandlers.subscription, hTopic,
            Option.map_none, Option.isNone_none, if_true,
            List.length_cons]
          omega
      | some topic =>
          simp only [List.countP_cons, List.filterMap_cons,
            MessageHandlers.subscription, hTopic,
            Option.map_some, Option.isNone_some,
            List.length_cons]
          simp only [Bool.false_eq_true, if_false]
          omega

/- The search finds the first free slot. -/
theorem firstFree_getFreeMessageHandlerIndex
    {table : List MessageHandlers}
    (hFree :
      getFreeMessageHandlerIndex table < table.length) :
    FirstFree table (getFreeMessageHandlerIndex table) := by
  constructor
  · refine
      ⟨table[getFreeMessageHandlerIndex table],
        List.getElem?_eq_getElem hFree, ?_⟩
    exact
      Option.isNone_iff_eq_none.mp
        (List.findIdx_getElem (w := hFree))
  · intro j hBefore slot hSlot hNone
    have hNot := List.not_of_lt_findIdx hBefore
    rw [List.getElem?_eq_some_iff] at hSlot
    rcases hSlot with ⟨_, rfl⟩
    simp [hNone] at hNot

/- A full table has no free slot. -/
theorem freeSlots_of_full
    {table : List MessageHandlers}
    (hFull :
      table.length ≤ getFreeMessageHandlerIndex table) :
    freeSlots table = 0 := by
  unfold freeSlots
  rw [List.countP_eq_zero]
  intro slot hSlot
  rcases List.mem_iff_getElem.mp hSlot with ⟨i, hi, rfl⟩
  have hNot :=
    List.not_of_lt_findIdx (Nat.lt_of_lt_of_le hi hFull)
  rw [hNot]
  decide

/- Freeing a held topic leaves a free slot. -/
theorem freeSlots_removeFilter_pos
    {filter : Option CString}
    {table : List MessageHandlers}
    (hHeld :
      table.any (fun slot => slot.holds filter) = true) :
    0 < freeSlots (removeFilter filter table) := by
  rcases List.any_eq_true.mp hHeld with ⟨slot, hSlot, hHolds⟩
  unfold freeSlots removeFilter
  rw [List.countP_pos_iff]
  refine
    ⟨{ slot with topicName := none },
      List.mem_map.mpr ⟨slot, hSlot, ?_⟩, rfl⟩
  rw [if_pos hHolds]

/- A slot holds a topic exactly when that is its topic. -/
theorem holds_some_iff
    (slot : MessageHandlers)
    (filter : CString) :
    slot.holds (some filter) = true ↔
      slot.topicName = some filter := by
  cases hTopic : slot.topicName with
  | none => simp [MessageHandlers.holds, hTopic]
  | some topic => simp [MessageHandlers.holds, hTopic]

theorem not_holds_none
    (slot : MessageHandlers) :
    ¬ slot.holds none = true := by
  cases hTopic : slot.topicName with
  | none => simp [MessageHandlers.holds, hTopic]
  | some topic => simp [MessageHandlers.holds, hTopic]

theorem removeFilter_getElem?
    (filter : CString)
    (table : List MessageHandlers)
    (i : Nat) :
    (removeFilter (some filter) table)[i]? =
      table[i]?.map (fun slot =>
        if slot.topicName = some filter then
          { slot with topicName := none }
        else slot) := by
  unfold removeFilter
  simp only [List.getElem?_map, holds_some_iff]

end Mqtt

end TrustOnboard

------------------------------------------------------------
-- Runs Of Calls
------------------------------------------------------------

namespace TrustOnboard

namespace Mqtt

variable {E : Type}
variable {port : Port E}

/- Calls made one after another, with their codes. -/
inductive CallRun (port : Port E) :
    Run E → List (ApiCall × IoTError) → Run E → Prop where
  | nil (w : Run E) : CallRun port w [] w
  | cons
      (fuel : Nat)
      {c : ApiCall}
      {rc : IoTError}
      {w w₁ w' : Run E}
      {rest : List (ApiCall × IoTError)}
      (hCall :
        (api port fuel false c).run w = (some rc, w₁))
      (hRest : CallRun port w₁ rest w') :
      CallRun port w ((c, rc) :: rest) w'

/- The subscriptions after calls with the given codes. -/
def liveAfter
    (subs : List Subscription)
    (outcomes : List (ApiCall × IoTError)) :
    List Subscription :=
  outcomes.foldl (fun subs o => o.1.effect o.2 subs) subs

/- The effect of a call does not depend on an order. -/
theorem effect_perm
    (c : ApiCall)
    (rc : IoTError)
    {subs subs' : List Subscription}
    (hPerm : subs.Perm subs') :
    (c.effect rc subs).Perm (c.effect rc subs') := by
  unfold ApiCall.effect
  split
  · exact hPerm
  · split
    · exact hPerm.cons _
    · exact hPerm.filter _
    · exact hPerm

theorem liveAfter_perm
    (outcomes : List (ApiCall × IoTError))
    {subs subs' : List Subscription}
    (hPerm : subs.Perm subs') :
    (liveAfter subs outcomes).Perm
      (liveAfter subs' outcomes) := by
  induction outcomes generalizing subs subs' with
  | nil => exact hPerm
  | cons o outcomes ih => exact ih (effect_perm o.1 o.2 hPerm)

/- A successful subscribe has its effect. -/
theorem Subscribed.effect
    {topic : Option CString}
    {topicLen : UInt16}
    {qos : QoS}
    {handler : Option HandlerId}
    {data : Nat}
    {rc : IoTError}
    {table table' : List MessageHandlers}
    (hTopic : rc = .success → topic.isSome = true)
    (hDone :
      Subscribed
        { topicName := topic
          topicNameLen := topicLen
          qos := qos
          pApplicationHandler := handler
          pApplicationHandlerData := data }
        rc table table') :
    table'.length = table.length ∧
      (subscriptions table').Perm
        (ApiCall.effect
          (.subscribe topic topicLen qos handler data) rc
          (subscriptions table)) := by
  by_cases hRc : rc = .success
  · rcases Option.isSome_iff_exists.mp (hTopic hRc) with
      ⟨topic, rfl⟩
    rcases hDone.success hRc with ⟨hFree, rfl⟩
    refine ⟨List.length_set, ?_⟩
    rcases firstFree_getFreeMessageHandlerIndex hFree with
      ⟨⟨slot, hSlot, hNone⟩, _⟩
    subst hRc
    exact subscriptions_set_free hSlot hNone rfl
  · rw [hDone.failure hRc, effect_of_code (fun _ => hRc)]
    exact ⟨rfl, List.Perm.refl _⟩

/- A successful unsubscribe has its effect. -/
theorem Unsubscribed.effect
    {filter : Option CString}
    {filterLen : UInt16}
    {rc : IoTError}
    {table table' : List MessageHandlers}
    (hDone : Unsubscribed filter rc table table') :
    table'.length = table.length ∧
      (subscriptions table').Perm
        (ApiCall.effect (.unsubscribe filter filterLen) rc
          (subscriptions table)) := by
  by_cases hRc : rc = .success
  · rcases hDone.success hRc with ⟨hHeld, rfl⟩
    refine ⟨by simp [removeFilter], ?_⟩
    subst hRc
    cases filter with
    | none =>
        rcases List.any_eq_true.mp hHeld with
          ⟨slot, _, hHolds⟩
        exact absurd hHolds (not_holds_none slot)
    | some filter =>
        rw [subscriptions_removeFilter]
        rfl
  · rw [hDone.failure hRc, effect_of_code (fun _ => hRc)]
    exact ⟨rfl, List.Perm.refl _⟩

/- A subscribe of the NULL topic never succeeds. -/
theorem subscribe_success_topic
    {fuel : Nat}
    {topic : Option CString}
    {topicLen : UInt16}
    {qos : QoS}
    {handler : Option HandlerId}
    {data : Nat}
    {w w' : Run E}
    (hRun :
      (api port fuel false
        (.subscribe topic topicLen qos handler data)).run w =
          (some .success, w')) :
    topic.isSome = true := by
  cases fuel with
  | zero => cases hRun
  | succ fuel =>
      cases topic with
      | some topic => rfl
      | none =>
          have hCode := congrArg Prod.fst hRun
          simp [api, record, logReturn, apiBody, subscribe,
            Prog.emit, Prog.run_bind] at hCode

/-
  Each call of a run keeps the size of the table, and has the
  effect its code announces.
-/
theorem callRun_live
    (hSingle : port.threadSupport = false)
    (hQuiet : QuietCallbacks port)
    {outcomes : List (ApiCall × IoTError)}
    {w w' : Run E}
    (hCalls :
      ∀ o ∈ outcomes, o.1.changesTable = true)
    (hRun : CallRun port w outcomes w') :
    w'.st.client.messageHandlers.length =
        w.st.client.messageHandlers.length ∧
      (subscriptions w'.st.client.messageHandlers).Perm
        (liveAfter
          (subscriptions w.st.client.messageHandlers)
          outcomes) := by
  induction hRun with
  | nil w => exact ⟨rfl, List.Perm.refl _⟩
  | @cons fuel c rc w w₁ w' rest hCall hRest ih =>
      rcases ih (fun o ho => hCalls o (by simp [ho])) with
        ⟨hLength, hPerm⟩
      have hStep :
          w₁.st.client.messageHandlers.length =
              w.st.client.messageHandlers.length ∧
            (subscriptions
              w₁.st.client.messageHandlers).Perm
              (c.effect rc
                (subscriptions
                  w.st.client.messageHandlers)) := by
        have hKind := hCalls (c, rc) (by simp)
        cases c with
        | subscribe topic topicLen qos handler data =>
            refine
              (api_subscribed hSingle hQuiet hCall).effect ?_
            rintro rfl
            exact subscribe_success_topic hCall
        | unsubscribe filter filterLen =>
            exact
              (api_unsubscribed hSingle hQuiet hCall).effect
        | connect params => cases hKind
        | disconnect => cases hKind
        | attemptReconnect => cases hKind
        | publish topic topicLen params => cases hKind
        | resubscribe => cases hKind
        | yield timeoutMs => cases hKind
        | autoreconnectSetStatus status => cases hKind
        | setDisconnectHandler handler data => cases hKind
      exact
        ⟨hLength.trans hStep.1,
          hPerm.trans (liveAfter_perm rest hStep.2)⟩

/-
  Subscribe and unsubscribe change the table only when they
  succeed, and then exactly the slots they are about.  Over
  runs of these calls the free slots are those that no live
  subscription takes; after a successful unsubscribe there is
  one, and a table with one is never reported to be full.
-/
theorem table_transactions
    (port : Port E)
    (hSingle : port.threadSupport = false)
    (hQuiet : QuietCallbacks port) :
    (∀ fuel topic topicLen qos handler data (w w' : Run E)
        rc,
      (api port fuel false
        (.subscribe topic topicLen qos handler data)).run w =
          (some rc, w') →
      (rc ≠ .success →
        w'.st.client.messageHandlers =
          w.st.client.messageHandlers) ∧
      (rc = .success →
        ∃ i,
          FirstFree w.st.client.messageHandlers i ∧
            w'.st.client.messageHandlers =
              w.st.client.messageHandlers.set i
                { topicName := topic
                  topicNameLen := topicLen
                  qos := qos
                  pApplicationHandler := handler
                  pApplicationHandlerData := data }) ∧
      (rc = .mqttMaxSubscriptionsReachedError →
        freeSlots w.st.client.messageHandlers = 0)) ∧
    (∀ fuel filter filterLen (w w' : Run E) rc,
      (api port fuel false
        (.unsubscribe filter filterLen)).run w =
          (some rc, w') →
      (rc ≠ .success →
        w'.st.client.messageHandlers =
          w.st.client.messageHandlers) ∧
      (rc = .success →
        ∃ topic,
          filter = some topic ∧
          (∃ slot ∈ w.st.client.messageHandlers,
            slot.topicName = some topic) ∧
          (∀ i : Nat,
            w'.st.client.messageHandlers[i]? =
              w.st.client.messageHandlers[i]?.map
                (fun (slot : MessageHandlers) =>
                  if slot.topicName = some topic then
                    { slot with topicName := none }
                  else slot)) ∧
          0 < freeSlots w'.st.client.messageHandlers)) ∧
    (∀ outcomes (w w' : Run E),
      (∀ o ∈ outcomes, o.1.changesTable = true) →
      CallRun port w outcomes w' →
      w'.st.client.messageHandlers.length =
          w.st.client.messageHandlers.length ∧
        freeSlots w'.st.client.messageHandlers +
            (liveAfter
              (subscriptions w.st.client.messageHandlers)
              outcomes).length =
          w.st.client.messageHandlers.length) := by
  refine ⟨?_, ?_, ?_⟩
  · intro fuel topic topicLen qos handler data w w' rc hRun
    have hDone := api_subscribed hSingle hQuiet hRun
    refine ⟨hDone.failure, ?_, ?_⟩
    · intro hRc
      rcases hDone.success hRc with ⟨hFree, hTable⟩
      exact
        ⟨_, firstFree_getFreeMessageHandlerIndex hFree,
          hTable⟩
    · intro hRc
      exact freeSlots_of_full (hDone.full hRc)
  · intro fuel filter filterLen w w' rc hRun
    have hDone := api_unsubscribed hSingle hQuiet hRun
    refine ⟨hDone.failure, ?_⟩
    intro hRc
    rcases hDone.success hRc with ⟨hHeld, hTable⟩
    rcases List.any_eq_true.mp hHeld with
      ⟨slot, hSlot, hHolds⟩
    cases filter with
    | none => exact absurd hHolds (not_holds_none slot)
    | some topic =>
        refine
          ⟨topic, rfl,
            ⟨slot, hSlot, (holds_some_iff slot topic).mp
              hHolds⟩, ?_, ?_⟩
        · intro i
          rw [hTable]
          exact removeFilter_getElem? topic _ i
        · rw [hTable]
          exact freeSlots_removeFilter_pos hHeld
  · intro outcomes w w' hCalls hRun
    rcases callRun_live hSingle hQuiet hCalls hRun with
      ⟨hLength, hPerm⟩
    refine ⟨hLength, ?_⟩
    rw [← hPerm.length_eq, ← hLength]
    exact freeSlots_add_subscriptions _

/-
  A client with one slot that is granted three requests.
-/
def oneSlotGranted : Run Script :=
  scriptStart
    (scriptClient .connectedIdle [freeSlot])
    { Script.idle with
      incoming :=
        [some (subackPacket 2 ++ [176, 2, 0, 4] ++
          subackPacket 5)]
      timers := List.replicate 6 false }

/-
  The only slot is filled, a second subscription is refused,
  and after an unsubscribe it is filled again.
-/
def oneSlotCalls : List (ApiCall × IoTError) :=
  [(subscribeLetter 84 upperT_ne, .success),
    (subscribeLetter 65 upperA_ne,
      .mqttMaxSubscriptionsReachedError),
    (.unsubscribe (some (letter 84 upperT_ne)) 1,
      .success),
    (subscribeLetter 65 upperA_ne, .success)]

theorem table_transactions_oneSlot :
    ∃ w',
      CallRun quietPort oneSlotGranted oneSlotCalls w' ∧
        freeSlots w'.st.client.messageHandlers +
            (liveAfter
              (subscriptions
                oneSlotGranted.st.client.messageHandlers)
              oneSlotCalls).length = 1 := by
  have hRun :
      ∃ w',
        CallRun quietPort oneSlotGranted oneSlotCalls w' :=
    ⟨_,
      .cons 6
        (Prog.run_of_returns (by decide +kernel))
        (.cons 6
          (Prog.run_of_returns (by decide +kernel))
          (.cons 6
            (Prog.run_of_returns (by decide +kernel))
            (.cons 6
              (Prog.run_of_returns (by decide +kernel))
              (.nil _))))⟩
  rcases hRun with ⟨w', hRun⟩
  refine ⟨w', hRun, ?_⟩
  exact
    ((table_transactions quietPort rfl
      (fun _ _ _ _ => rfl)).2.2 oneSlotCalls _ w'
        (by decide) hRun).2

end Mqtt

end TrustOnboard
