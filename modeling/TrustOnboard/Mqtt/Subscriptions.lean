import TrustOnboard.Mqtt.StateMachine

/-
  The handler table and the calls that succeeded.

  The table is compared with a list of subscriptions computed
  from the returns in the log alone: a successful subscribe
  adds its entry, a successful unsubscribe removes all
  entries of its topic.  The two agree at every return as
  long as no subscription is stored over a live one.

  Key definitions include:
    * `subscriptions`
    * `expected`
    * `tracked`
    * `Event.overwrites`

  Key results include:
    * `subscriptions_set_free`
    * `subscriptions_removeFilter`
    * `subscriptions_tracked`
-/

------------------------------------------------------------
-- Subscriptions In The Table And In The Log
------------------------------------------------------------

namespace TrustOnboard

namespace Mqtt

/- What a slot in use stands for. -/
structure Subscription where
  topic : CString
  handler : Option HandlerId
  data : Nat
  qos : QoS
  deriving DecidableEq

def MessageHandlers.subscription
    (slot : MessageHandlers) : Option Subscription :=
  slot.topicName.map (fun topic =>
    { topic := topic
      handler := slot.pApplicationHandler
      data := slot.pApplicationHandlerData
      qos := slot.qos })

/- The subscriptions the slots in use stand for. -/
def subscriptions
    (table : List MessageHandlers) : List Subscription :=
  table.filterMap MessageHandlers.subscription

/- The effect a call has when it returns the given code. -/
def ApiCall.effect
    (c : ApiCall)
    (rc : IoTError)
    (subs : List Subscription) : List Subscription :=
  if rc ≠ .success then subs
  else
    match c with
    | .subscribe (some topic) _ qos handler data =>
        { topic := topic
          handler := handler
          data := data
          qos := qos } :: subs
    | .unsubscribe (some filter) _ =>
        subs.filter (fun sub => sub.topic ≠ filter)
    | _ => subs

/- The subscriptions according to the returns in the log. -/
def expected : List Event → List Subscription
  | [] => []
  | .init :: _ => []
  | .ret c rc _ :: l => c.effect rc (expected l)
  | _ :: l => expected l

/- At every return the table is the expected one. -/
def tracked : List Event → Bool
  | [] => true
  | .ret c rc table :: l =>
      (subscriptions table).isPerm
          (c.effect rc (expected l)) &&
        tracked l
  | _ :: l => tracked l

/- A subscription is stored into a slot that is in use. -/
def Event.overwrites : Event → Bool
  | .registered _ previous => previous.topicName.isSome
  | _ => false

/- The events that say something of the table. -/
def Event.concernsTable : Event → Bool
  | .init => true
  | .ret _ _ _ => true
  | _ => false

theorem expected_cons
    {e : Event}
    (hOther : e.concernsTable = false)
    (l : List Event) :
    expected (e :: l) = expected l := by
  cases e <;> simp_all [Event.concernsTable, expected]

theorem tracked_cons
    {e : Event}
    (hOther : e.concernsTable = false)
    (l : List Event) :
    tracked (e :: l) = tracked l := by
  cases e <;> simp_all [Event.concernsTable, tracked]

/- A call that does not change the table has no effect. -/
theorem effect_of_code
    {c : ApiCall}
    {rc : IoTError}
    (hCode : c.changesTable = true → rc ≠ .success)
    (subs : List Subscription) :
    c.effect rc subs = subs := by
  unfold ApiCall.effect
  by_cases hRc : rc = .success
  · rw [if_neg (by simp [hRc])]
    cases c <;> simp_all [ApiCall.changesTable]
  · rw [if_pos hRc]

/- A store into a free slot adds one subscription. -/
theorem subscriptions_set_free
    {table : List MessageHandlers}
    {i : Nat}
    {previous entry : MessageHandlers}
    {sub : Subscription}
    (hSlot : table[i]? = some previous)
    (hFree : previous.topicName = none)
    (hEntry : entry.subscription = some sub) :
    (subscriptions (table.set i entry)).Perm
      (sub :: subscriptions table) := by
  induction table generalizing i with
  | nil => simp at hSlot
  | cons slot table ih =>
      cases i with
      | zero =>
          have hSame : slot = previous := by
            simpa using hSlot
          subst hSame
          have hNone : slot.subscription = none := by
            simp [MessageHandlers.subscription, hFree]
          simp [subscriptions, hEntry, hNone]
      | succ i =>
          have hRest := ih (by simpa using hSlot)
          cases hHead : slot.subscription with
          | none =>
              simpa [subscriptions, hHead] using hRest
          | some head =>
              have hSwap :=
                (hRest.cons head).trans
                  (List.Perm.swap sub head _)
              simpa [subscriptions, hHead] using hSwap

/- Freeing a slot of a topic drops what it stood for. -/
theorem subscription_removeFilter
    (filter : CString)
    (slot : MessageHandlers) :
    (if slot.holds (some filter) then
        { slot with topicName := none }
      else slot).subscription =
      slot.subscription.filter
        (fun sub => sub.topic ≠ filter) := by
  cases hTopic : slot.topicName with
  | none =>
      simp [MessageHandlers.subscription,
        MessageHandlers.holds, hTopic]
  | some topic =>
      by_cases hSame : topic = filter
      · simp [MessageHandlers.subscription,
          MessageHandlers.holds, hTopic, hSame,
          Option.filter]
      · simp [MessageHandlers.subscription,
          MessageHandlers.holds, hTopic, hSame,
          Option.filter]

/- Freeing the slots of a topic removes its subscriptions. -/
theorem subscriptions_removeFilter
    (filter : CString)
    (table : List MessageHandlers) :
    subscriptions (removeFilter (some filter) table) =
      (subscriptions table).filter
        (fun sub => sub.topic ≠ filter) := by
  unfold subscriptions removeFilter
  rw [List.filterMap_map, List.filter_filterMap]
  congr 1
  funext slot
  exact subscription_removeFilter filter slot

theorem subscriptions_clearedTable
    (table : List MessageHandlers) :
    subscriptions (clearedTable table) = [] := by
  simp [subscriptions, clearedTable,
    MessageHandlers.subscription]

end Mqtt

end TrustOnboard

------------------------------------------------------------
-- The Regime
------------------------------------------------------------

namespace TrustOnboard

namespace Mqtt

variable {E : Type}
variable {port : Port E}
variable {size : Nat}

/- The table is the expected one, and always was. -/
def Tracked (size : Nat) : Fact :=
  fun f l =>
    f.table.length = size ∧
      (subscriptions f.table).Perm (expected l) ∧
        tracked l = true

/- The same, once the effect of a call is recorded. -/
def Due
    (size : Nat)
    (c : ApiCall)
    (rc : IoTError) : Fact :=
  fun f l =>
    f.table.length = size ∧
      (subscriptions f.table).Perm
          (c.effect rc (expected l)) ∧
        tracked l = true

theorem tracked_of_due
    {c : ApiCall}
    {rc : IoTError}
    {f : Frame}
    {l : List Event}
    (hDue : Due size c rc f l) :
    Tracked size f (.ret c rc f.table :: l) := by
  rcases hDue with ⟨hSize, hPerm, hTracked⟩
  refine ⟨hSize, hPerm, ?_⟩
  simp only [tracked, List.isPerm_iff.mpr hPerm, hTracked,
    Bool.and_self]

theorem due_of_tracked
    {c : ApiCall}
    {rc : IoTError}
    (hCode : c.changesTable = true → rc ≠ .success)
    {f : Frame}
    {l : List Event}
    (hFact : Tracked size f l) :
    Due size c rc f l := by
  unfold Due
  rw [effect_of_code hCode]
  exact hFact

/- Events that do not concern the table keep the facts. -/
theorem Tracked.cons
    {f : Frame}
    {l : List Event}
    (hFact : Tracked size f l)
    {e : Event}
    (hOther : e.concernsTable = false) :
    Tracked size f (e :: l) := by
  unfold Tracked
  rw [expected_cons hOther, tracked_cons hOther]
  exact hFact

theorem Due.cons
    {c : ApiCall}
    {rc : IoTError}
    {f : Frame}
    {l : List Event}
    (hFact : Due size c rc f l)
    {e : Event}
    (hOther : e.concernsTable = false) :
    Due size c rc f (e :: l) := by
  unfold Due
  rw [expected_cons hOther, tracked_cons hOther]
  exact hFact

theorem concernsTable_neutral
    {e : Event}
    (hNeutral : e.neutral = true) :
    e.concernsTable = false := by
  cases e <;>
    simp_all [Event.neutral, Event.quiet,
      Event.concernsTable]

theorem concernsTable_receive
    {e : Event}
    (hKind : e.isReceive = true) :
    e.concernsTable = false := by
  cases e <;>
    simp_all [Event.isReceive, Event.isInput,
      Event.concernsTable]

theorem concernsTable_transmit
    {e : Event}
    (hKind : e.isTransmit = true) :
    e.concernsTable = false := by
  cases e <;>
    simp_all [Event.isTransmit, Event.isOutput,
      Event.concernsTable]

/-
  Runs are followed until a live subscription is overwritten,
  also when they never return.
-/
def notOverwritten : Contract (Sys E) Event where
  excused := fun l => l.any Event.overwrites = true
  excused_append := by
    intro l es hBad
    simp only [List.any_append, Bool.or_eq_true]
    exact Or.inr hBad
  halted := fun w => tracked w.log = true

/-
  The table is tracked in every situation.  Message callbacks
  do not disconnect.
-/
def tableRegime (size : Nat) : Regime E where
  contract := notOverwritten
  live := Tracked size
  down := Tracked size
  cut := False
  allowed := fun c => c ≠ .disconnect

theorem tableRegime_mode
    {I : Fact}
    (hMode : (tableRegime (E := E) size).Mode I) :
    I = Tracked size := by
  rcases hMode with hEq | ⟨hNo, _⟩
  · exact hEq
  · exact hNo.elim

theorem tableRegime_lawful
    (hSingle : port.threadSupport = false)
    (hCalls :
      ∀ handler data msg e,
        ∀ c ∈ (port.onMessage handler data msg e).1,
          c ≠ .disconnect) :
    (tableRegime (E := E) size).Lawful port where
  single := hSingle
  halt_live := fun _ hFact => hFact.2.2
  halt_down := fun _ hFact => hFact.2.2
  neutral_live := fun _ _ _ hE hFact =>
    hFact.cons (concernsTable_neutral hE)
  neutral_down := fun _ _ _ hE hFact =>
    hFact.cons (concernsTable_neutral hE)
  read := by
    intro φ I fuel hMode
    rw [tableRegime_mode hMode]
    exact
      in_readPacket (fun _ hFact => hFact.2.2)
        (fun _ _ _ hE hFact =>
          hFact.cons (concernsTable_receive hE)) fuel
  send := by
    intro φ I fuel length timer hMode
    rw [tableRegime_mode hMode]
    exact
      (in_sendPacket hSingle (fun _ hFact => hFact.2.2)
        (fun _ _ _ hE hFact =>
          hFact.cons (concernsTable_transmit hE)) fuel length
        timer).pre (fun _ h => h.2)
  connected := fun _ _ hFact => Or.inr (hFact.cons rfl)
  refused := fun _ _ _ _ hFact => hFact.cons rfl
  destroyed := fun _ _ _ _ _ _ hFact =>
    (hFact.elim id id).cons rfl
  destroyedCut := fun _ _ _ _ hNo _ => hNo.elim
  closed := by
    intro I f l found hMode hI
    rw [tableRegime_mode hMode] at hI
    exact hI.cons rfl
  notClosed := by
    intro I f l rc found hMode _ hI
    rw [tableRegime_mode hMode] at hI ⊢
    exact Or.inr (hI.cons rfl)
  handlerConnected := fun _ _ _ _ hFact =>
    Or.inr (hFact.cons rfl)
  handlerDisconnected := fun _ _ _ hFact => hFact.cons rfl
  ret_live := fun _ _ _ _ hCode hFact =>
    tracked_of_due (due_of_tracked hCode hFact)
  ret_down := fun _ _ _ _ hCode hFact =>
    tracked_of_due (due_of_tracked hCode hFact)
  uncut := fun _ _ _ hNo _ => absurd rfl hNo
  calls := hCalls
  reset := by
    intro f l hEither
    rcases hEither.elim id id with ⟨hSize, _, hTracked⟩
    refine Or.inr ⟨?_, ?_, hTracked⟩
    · simpa [initFrame, clearedTable] using hSize
    · change (subscriptions (clearedTable f.table)).Perm []
      rw [subscriptions_clearedTable]

end Mqtt

end TrustOnboard

------------------------------------------------------------
-- Subscribe And Unsubscribe
------------------------------------------------------------

namespace TrustOnboard

namespace Mqtt

variable {E : Type}
variable {port : Port E}
variable {size : Nat}

/- The record of a return settles what was due. -/
theorem logReturn_due
    {c : ApiCall}
    {s : ClientState}
    {P : Run E → Prop}
    {body : Code E IoTError}
    (hBody :
      Triple notOverwritten P body
        (fun rc =>
          Holds ((tableRegime (E := E) size).Phase s
            (Due size c rc)))) :
    Triple notOverwritten P (logReturn c body)
      (fun _ =>
        Holds ((tableRegime (E := E) size).Phase s
          (Tracked size))) := by
  refine hBody.bind ?_
  intro rc
  refine Triple.bind
    (M := fun _ =>
      Holds ((tableRegime (E := E) size).Phase s
        (Tracked size)))
    (Triple.emit ?_) (fun _ => Triple.same)
  intro w hPhase
  rcases at_of_phase (fun h => h) hPhase with ⟨hState, hDue⟩
  exact Or.inr (Or.inl ⟨hState, tracked_of_due hDue⟩)

/-
  An operation whose effect is due when it returns.  Refused
  operations have no effect.
-/
theorem enterOperation_due
    (hR : (tableRegime (E := E) size).Lawful port)
    {c : ApiCall}
    {during s : ClientState}
    (hBusy : during.isStable = false)
    (hReady : s.isReady = true)
    {refused : ClientState → IoTError → Code E IoTError}
    {operation : Code E IoTError}
    (hOp :
      Triple notOverwritten
        (Holds ((tableRegime (E := E) size).Phase during
          (Tracked size)))
        operation
        (fun rc =>
          Holds ((tableRegime (E := E) size).Phase during
            (Due size c rc)))) :
    Triple notOverwritten
      (Holds (At s (Tracked size)))
      (enterOperation port during refused operation)
      (fun rc =>
        Holds ((tableRegime (E := E) size).Phase s
          (Due size c rc))) :=
  hR.enterOperation Regime.live_mode
    (fun _ _ _ _ hQuiet hDue =>
      hDue.cons
        (concernsTable_neutral
          (Regime.neutral_of_quiet hQuiet)))
    (fun _ _ _ hRc hFact =>
      due_of_tracked (fun _ => hRc) hFact)
    hBusy hReady hOp

/- A refusal on a tracked table. -/
theorem due_of_failure
    {c : ApiCall}
    {s : ClientState}
    (rc : IoTError)
    (w : Run E)
    (hRc : rc ≠ .success)
    (hPhase :
      Holds ((tableRegime (E := E) size).Phase s
        (Tracked size)) w) :
    Holds ((tableRegime (E := E) size).Phase s
      (Due size c rc)) w := by
  rcases at_of_phase (fun h => h) hPhase with
    ⟨hState, hFact⟩
  exact
    Or.inl ⟨hState, due_of_tracked (fun _ => hRc) hFact⟩

/-
  The store into the slot that was free before the wait.  If
  it is in use by now the run is excused.
-/
theorem registerHandler_due
    {index : Nat}
    (hIndex : index < size)
    (s : ClientState)
    (topic : CString)
    (topicLen : UInt16)
    (qos : QoS)
    (handler : Option HandlerId)
    (data : Nat) :
    Triple notOverwritten
      (Holds ((tableRegime (E := E) size).Phase s
        (Tracked size)))
      (registerHandler index
        { topicName := some topic
          topicNameLen := topicLen
          qos := qos
          pApplicationHandler := handler
          pApplicationHandlerData := data } : Code E Unit)
      (fun _ =>
        Holds ((tableRegime (E := E) size).Phase s
          (Due size
            (.subscribe (some topic) topicLen qos handler
              data) .success))) := by
  refine Triple.step ?_
  intro w hPhase
  rcases at_of_phase (fun h => h) hPhase with
    ⟨hState, hSize, hPerm, hTracked⟩
  have hLt : index < w.st.client.messageHandlers.length := by
    rw [← hSize] at hIndex
    exact hIndex
  have hSlot := List.getElem?_eq_getElem hLt
  dsimp only
  rw [hSlot]
  cases hOld :
      (w.st.client.messageHandlers[index]).topicName with
  | some old =>
      left
      change List.any _ _ = true
      simp [Event.overwrites, hOld]
  | none =>
      right
      refine Or.inl ⟨hState, ?_, ?_, hTracked⟩
      · simpa [Client.frame] using hSize
      · exact
          (subscriptions_set_free hSlot hOld rfl).trans
            (hPerm.cons _)

/- The removal of a topic from the table. -/
theorem removeFilter_due
    (s : ClientState)
    (filter : CString)
    (filterLen : UInt16) :
    Triple notOverwritten
      (Holds ((tableRegime (E := E) size).Phase s
        (Tracked size)))
      (modifyClient (fun c =>
        { c with
          messageHandlers :=
            removeFilter (some filter) c.messageHandlers }) :
              Code E Unit)
      (fun _ =>
        Holds ((tableRegime (E := E) size).Phase s
          (Due size (.unsubscribe (some filter) filterLen)
            .success))) := by
  refine Triple.modify ?_
  intro w hPhase
  rcases at_of_phase (fun h => h) hPhase with
    ⟨hState, hSize, hPerm, hTracked⟩
  refine Or.inl ⟨hState, ?_, ?_, hTracked⟩
  · simpa [Client.frame, removeFilter] using hSize
  · change (subscriptions (removeFilter _ _)).Perm
      ((expected w.log).filter _)
    rw [subscriptions_removeFilter]
    exact hPerm.filter _

theorem tableRegime_tableLaws
    (hR : (tableRegime (E := E) size).Lawful port) :
    (tableRegime (E := E) size).TableLaws port where
  subscribe := by
    intro callback I s fuel topic topicLen qos handler data
      hCb hMode hReady
    rw [tableRegime_mode hMode]
    refine logReturn_due ?_
    refine Triple.ite ?_ ?_
    · intro _
      exact Triple.ret
        (fun w hAt =>
          due_of_failure _ w (by decide) (Or.inl hAt))
    · intro hArgs
      cases topic with
      | none => simp at hArgs
      | some topic =>
          refine enterOperation_due hR rfl hReady ?_
          refine
            (hR.keptInWaits hCb Regime.live_mode
              _).internalSubscribe due_of_failure fuel
                (some topic) topicLen qos handler data ?_
          intro s' f l hSeen hIndex
          refine
            registerHandler_due ?_ _ topic topicLen qos
              handler data
          rcases at_of_phase (fun h => h) hSeen with
            ⟨_, hSize, _⟩
          rw [← hSize]
          exact hIndex
  unsubscribe := by
    intro callback I s fuel filter filterLen hCb hMode hReady
    rw [tableRegime_mode hMode]
    refine logReturn_due ?_
    refine Triple.ite ?_ ?_
    · intro _
      exact Triple.ret
        (fun w hAt =>
          due_of_failure _ w (by decide) (Or.inl hAt))
    · intro hArgs
      cases filter with
      | none => simp at hArgs
      | some filter =>
          refine enterOperation_due hR rfl hReady ?_
          exact
            (hR.keptInWaits hCb Regime.live_mode
              _).internalUnsubscribe due_of_failure fuel
                (some filter) filterLen
                (fun _ _ _ _ _ =>
                  removeFilter_due _ filter filterLen)

end Mqtt

end TrustOnboard

------------------------------------------------------------
-- Whole Runs
------------------------------------------------------------

namespace TrustOnboard

namespace Mqtt

variable {E : Type}

/-
  In every run, returning or not, in which message callbacks
  do not disconnect and no subscription is stored over a live
  one, the table is the expected one at every return.
-/
theorem subscriptions_tracked
    (port : Port E)
    (hSingle : port.threadSupport = false)
    (hCalls :
      ∀ handler data msg e,
        ∀ c ∈ (port.onMessage handler data msg e).1,
          c ≠ .disconnect)
    (fuel : Nat)
    (calls : List TopCall)
    (w w' : Run E)
    (res : Option Unit)
    (hStable : w.st.client.clientState.isStable = true)
    (hStart :
      (subscriptions w.st.client.messageHandlers).Perm
        (expected w.log))
    (hBefore : tracked w.log = true)
    (hRun : (session port fuel calls).run w = (res, w'))
    (hFree : w'.log.any Event.overwrites = false) :
    tracked w'.log = true := by
  have hR :
      (tableRegime (E := E)
        w.st.client.messageHandlers.length).Lawful port :=
    tableRegime_lawful hSingle hCalls
  have hSession :=
    hR.session (tableRegime_tableLaws hR) fuel calls
  have hMeets :=
    hSession w
      ⟨hStable, fun _ => ⟨rfl, hStart, hBefore⟩,
        fun _ => ⟨rfl, hStart, hBefore⟩⟩
  rw [hRun] at hMeets
  rcases hMeets with hBad | hMeets
  · have hYes : w'.log.any Event.overwrites = true := hBad
    rw [hFree] at hYes
    cases hYes
  · cases res with
    | none => exact hMeets
    | some _ =>
        cases hOn :
            isClientConnected w'.st.client.clientState with
        | true => exact (hMeets.2.1 hOn).2.2
        | false => exact (hMeets.2.2 hOn).2.2

/-
  A platform like the scripted one whose message callbacks
  make the prepared calls except a disconnect.
-/
def connectedPort : Port Script :=
  { scriptPort with
    onMessage := fun handler data msg e =>
      let r := scriptPort.onMessage handler data msg e
      (r.1.filter (fun c => c ≠ .disconnect), r.2) }

theorem connectedPort_calls
    (handler : HandlerId)
    (data : Nat)
    (msg : Message)
    (e : Script)
    (c : ApiCall)
    (hMem :
      c ∈ (connectedPort.onMessage handler data msg e).1) :
    c ≠ .disconnect := by
  have hKept := List.of_mem_filter hMem
  simpa using hKept

/-
  A client with an empty table subscribes to a topic and then
  makes a second call.  A message arrives while that call
  waits, and its callback subscribes as well.
-/
def callbackSubscribes (ack : Bytes) : Run Script :=
  scriptStart
    (scriptClient .connectedIdle
      [freeSlot, freeSlot, freeSlot])
    { Script.idle with
      incoming :=
        [some (subackPacket 2 ++ publishPacket 84 ++
          subackPacket 4 ++ ack)]
      timers := List.replicate 12 false
      callbacks := [[subscribeLetter 66 upperB_ne]] }

def callbackSubscribesCalls (second : ApiCall) :
    List TopCall :=
  [.api (subscribeLetter 84 upperT_ne), .api second]

/- A message published with quality of service one. -/
def publishLetter (c : UInt8) (h : c ≠ 0) : ApiCall :=
  .publish (some (letter c h)) 1
    (some
      { qos := .qos1
        isRetained := 0
        id := 0
        payload := some [] })

/- The second call publishes: nothing is overwritten. -/
theorem subscriptions_tracked_publish :
    ∃ w',
      (session connectedPort 6
        (callbackSubscribesCalls
          (publishLetter 84 (by decide)))).run
          (callbackSubscribes [64, 2, 0, 3]) =
        (some (), w') ∧
      tracked w'.log = true ∧
      (expected w'.log).length = 2 := by
  have hRun :=
    Prog.run_of_returns (a := ())
      (p :=
        session connectedPort 6
          (callbackSubscribesCalls
            (publishLetter 84 (by decide))))
      (w := callbackSubscribes [64, 2, 0, 3])
      (by decide +kernel)
  refine ⟨_, hRun, ?_, by decide +kernel⟩
  exact
    subscriptions_tracked connectedPort rfl
      connectedPort_calls 6 _
      (callbackSubscribes [64, 2, 0, 3]) _ _ rfl
      (List.Perm.refl _) rfl hRun (by decide +kernel)

/-
  The second call subscribes: it found the slot the callback
  fills meanwhile, and overwrites it.
-/
theorem nestedSubscribe_untracked :
    ∃ w',
      (session connectedPort 6
        (callbackSubscribesCalls
          (subscribeLetter 65 upperA_ne))).run
          (callbackSubscribes (subackPacket 3)) =
        (some (), w') ∧
      tracked w'.log = false :=
  ⟨_, Prog.run_of_returns (by decide +kernel),
    by decide +kernel⟩

end Mqtt

end TrustOnboard
