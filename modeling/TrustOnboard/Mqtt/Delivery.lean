import TrustOnboard.Mqtt.Matching
import TrustOnboard.Mqtt.Footprint
import TrustOnboard.Mqtt.Script

/-
  The delivery of a message: which slots of the table are
  selected, in which order, and for which names.

  A slot is selected exactly when its filter covers the name
  and no wildcard of the filter faces an empty level.  With
  callbacks that make no calls the slots are selected at most
  once each, from the first to the last.

  Key definitions include:
    * `Selected`
    * `Matches`
    * `turnOf`
    * `Delivering`

  Key results include:
    * `selected_iff_accepts`
    * `deliverMessage_delivering`
    * `selected_iff_facesText`
    * `deliverMessage_sound`
-/

------------------------------------------------------------
-- The Selection Of One Slot
------------------------------------------------------------

namespace TrustOnboard

namespace Mqtt

variable {E : Type}

/- The name a message carries in a world. -/
def Message.nameIn
    (msg : Message)
    (w : Run E) : Bytes :=
  w.st.client.readBuf.load msg.topicOff msg.topicLen

/- In its turn the slot hands the message to its handler. -/
def Selected
    (callback : Callback E)
    (msg : Message)
    (itr : Nat)
    (w : Run E) : Prop :=
  ∃ later handler data seen,
    ((deliverToSlot callback msg itr).run w).2.log =
      later ++ .deliver itr handler data seen :: w.log

/- Selection is decided by the test of the slot. -/
theorem selected_iff_accepts
    {callback : Callback E}
    {msg : Message}
    {itr : Nat}
    {w : Run E}
    {slot : MessageHandlers}
    (hSlot : w.st.client.messageHandlers[itr]? = some slot)
    (hHandler : slot.pApplicationHandler.isSome = true) :
    Selected callback msg itr w ↔
      slot.accepts (msg.nameIn w) = true := by
  have hRead :
      (getClient : Code E Client).run w =
        (some w.st.client, w) := rfl
  rcases Option.isSome_iff_exists.mp hHandler with
    ⟨handler, hSome⟩
  unfold Selected deliverToSlot
  rw [Prog.run_bind_of_run hRead]
  dsimp only
  rw [hSlot]
  dsimp only
  split
  case isTrue hAccepts =>
    rw [hSome]
    refine iff_of_true ?_ hAccepts
    dsimp only
    rw [Prog.run_bind_of_run
      (show (record _ : Code E Unit).run w = (some (), _)
        from rfl)]
    rcases Prog.run_log_suffix
        (callback handler slot.pApplicationHandlerData _) _
      with ⟨later, hLog⟩
    exact ⟨later, handler, _, _, hLog⟩
  case isFalse hNo =>
    refine iff_of_false ?_ hNo
    rintro ⟨later, handler', data, seen, hLog⟩
    have hLength := congrArg List.length hLog
    simp only [Prog.pure_eq, Prog.run_ret,
      List.length_append, List.length_cons] at hLength
    omega

/- The character `$` at the start of reserved names. -/
def dollar : UInt8 := 36

/-
  A filter matches a name: level by level, and no wildcard
  stands for the first level of a reserved name.
-/
structure Matches (filter name : Bytes) : Prop where
  covered : FilterCovers filter name
  not_reserved :
    name.head? = some dollar →
      filter.head? ≠ some singleLevel ∧
        filter.head? ≠ some multiLevel

/-
  A slot whose filter matches a name is selected for it
  exactly when no wildcard faces an empty level.
-/
theorem selected_iff_facesText
    (callback : Callback E)
    (msg : Message)
    (itr : Nat)
    (w : Run E)
    (slot : MessageHandlers)
    (filter : CString)
    (hSlot : w.st.client.messageHandlers[itr]? = some slot)
    (hHolding : slot.Holding filter)
    (hHandler : slot.pApplicationHandler.isSome = true)
    (hOk : FilterOk filter.bytes)
    (hMatches : Matches filter.bytes (msg.nameIn w)) :
    Selected callback msg itr w ↔
      WildcardsFaceText filter.bytes (msg.nameIn w) := by
  rw [selected_iff_accepts hSlot hHandler]
  exact accepts_iff_facesText hHolding hOk hMatches.covered

/- The filter `sport/#`. -/
def sportFilter : CString where
  bytes := [115, 112, 111, 114, 116, 47, 35]
  nul_free := by decide

/- A slot with that filter. -/
def sportSlot : MessageHandlers where
  topicName := some sportFilter
  topicNameLen := 7
  qos := .qos0
  pApplicationHandler := some 0
  pApplicationHandlerData := 0

/- A receive buffer that begins with some name. -/
def sportWorld (name : Bytes) : Run Script :=
  scriptStart
    { scriptClient .connectedIdle [sportSlot] with
      readBuf := Buffer.store (fun _ => 0) 0 name }
    Script.idle

/- A message whose name is the first bytes of the buffer. -/
def sportMessage (topicLen : Nat) : Message where
  isDup := false
  qos := .qos0
  isRetained := false
  id := none
  topicOff := 0
  topicLen := topicLen
  payloadOff := topicLen
  payloadLen := 0
  buf := fun _ => 0

theorem sportSlot_holding :
    sportSlot.Holding sportFilter :=
  ⟨rfl, by decide⟩

/- The name `sport/a` is covered level by level. -/
theorem selected_iff_facesText_sport :
    Selected (fun _ _ _ => pure ()) (sportMessage 7) 0
        (sportWorld [115, 112, 111, 114, 116, 47, 97]) ↔
      WildcardsFaceText sportFilter.bytes
        [115, 112, 111, 114, 116, 47, 97] := by
  refine
    selected_iff_facesText (fun _ _ _ => pure ())
      (sportMessage 7) 0
      (sportWorld [115, 112, 111, 114, 116, 47, 97])
      sportSlot sportFilter rfl sportSlot_holding rfl
      (by decide) ⟨?_, ?_⟩
  · exact .same [115, 112, 111, 114, 116] (.multi [[97]])
  · intro hDollar
    cases hDollar

/-
  The filter `sport/#` matches the name of its parent level,
  but the slot is passed over.
-/
theorem parentLevel_missed :
    FilterOk sportFilter.bytes ∧
      Matches sportFilter.bytes
        ((sportMessage 5).nameIn
          (sportWorld [115, 112, 111, 114, 116])) ∧
      ¬ Selected (fun _ _ _ => pure ()) (sportMessage 5) 0
        (sportWorld [115, 112, 111, 114, 116]) := by
  refine ⟨by decide, ⟨?_, ?_⟩, ?_⟩
  · exact .same [115, 112, 111, 114, 116] (.multi [])
  · intro hDollar
    cases hDollar
  · rw [@selected_iff_accepts _ _ _ _ _ sportSlot rfl rfl]
    decide

end Mqtt

end TrustOnboard

------------------------------------------------------------
-- The Whole Table
------------------------------------------------------------

namespace TrustOnboard

namespace Mqtt

variable {E : Type}
variable {port : Port E}
variable {call : ApiCall → Code E IoTError}

/- The event of handing a message over. -/
def Event.isDeliver : Event → Bool
  | .deliver _ _ _ _ => true
  | _ => false

/- The slot a message was handed to. -/
def Event.slot : Event → Option Nat
  | .deliver itr _ _ _ => some itr
  | _ => none

/- What the turn of a slot makes of a message. -/
def turnOf
    (c : Client)
    (msg : Message)
    (itr : Nat) : Option Event :=
  match c.messageHandlers[itr]? with
  | none => none
  | some slot =>
      let seen := c.sees msg
      if slot.accepts seen.topic then
        slot.pApplicationHandler.map (fun handler =>
          .deliver itr handler slot.pApplicationHandlerData
            seen)
      else
        none

theorem slot_of_turnOf
    {c : Client}
    {msg : Message}
    {itr : Nat}
    {e : Event}
    (hTurn : turnOf c msg itr = some e) :
    e.slot = some itr ∧ e.isDeliver = true := by
  unfold turnOf at hTurn
  split at hTurn
  · cases hTurn
  · dsimp only at hTurn
    split at hTurn
    · rcases Option.map_eq_some_iff.mp hTurn with
        ⟨handler, _, rfl⟩
      exact ⟨rfl, rfl⟩
    · cases hTurn

/- The application makes no calls from its callbacks. -/
def NoCalls (port : Port E) : Prop :=
  ∀ handler data msg e,
    (port.onMessage handler data msg e).1 = []

/- A callback without calls changes only the platform. -/
theorem runCallback_quiet
    (hQuiet : NoCalls port)
    (handler : HandlerId)
    (data : Nat)
    (msg : Message)
    (w : Run E) :
    ∃ env,
      (runCallback port call handler data msg).run w =
        (some (), ⟨{ w.st with env := env }, w.log⟩) := by
  have hNone := hQuiet handler data msg w.st.env
  refine
    ⟨(port.onMessage handler data msg w.st.env).2, ?_⟩
  unfold runCallback
  rw [Prog.run_bind, Prog.run_step, hNone]
  rfl

/- The turn of a slot when callbacks make no calls. -/
theorem deliverToSlot_quiet
    (call : ApiCall → Code E IoTError)
    (hQuiet : NoCalls port)
    (msg : Message)
    (itr : Nat)
    (w : Run E) :
    ∃ env,
      (deliverToSlot (runCallback port call) msg itr).run w =
        (some (), ⟨{ w.st with env := env },
          (turnOf w.st.client msg itr).toList ++ w.log⟩) := by
  have hRead :
      (getClient : Code E Client).run w =
        (some w.st.client, w) := rfl
  unfold deliverToSlot turnOf
  rw [Prog.run_bind_of_run hRead]
  dsimp only
  cases w.st.client.messageHandlers[itr]? with
  | none => exact ⟨w.st.env, rfl⟩
  | some slot =>
      dsimp only
      by_cases hAccepts :
          slot.accepts (w.st.client.sees msg).topic = true
      · rw [if_pos hAccepts, if_pos hAccepts]
        cases slot.pApplicationHandler with
        | none => exact ⟨w.st.env, rfl⟩
        | some handler =>
            dsimp only
            rw [Prog.run_bind_of_run
              (show
                (record _ : Code E Unit).run w = (some (), _)
                from rfl)]
            exact runCallback_quiet hQuiet _ _ _ _
      · rw [if_neg hAccepts, if_neg hAccepts]
        exact ⟨w.st.env, rfl⟩

/- The turns of the first `n` slots. -/
theorem deliverToSlots_quiet
    (call : ApiCall → Code E IoTError)
    (hQuiet : NoCalls port)
    (msg : Message)
    (n : Nat)
    (w : Run E) :
    ∃ env,
      (Prog.each
        (deliverToSlot (runCallback port call) msg)
        (List.range n)).run w =
        (some (), ⟨{ w.st with env := env },
          ((List.range n).filterMap
            (turnOf w.st.client msg)).reverse ++
              w.log⟩) := by
  induction n with
  | zero => exact ⟨w.st.env, rfl⟩
  | succ n ih =>
      rcases ih with ⟨env, hRun⟩
      rw [List.range_succ, Prog.run_each_append,
        Prog.run_bind_of_run hRun]
      rcases deliverToSlot_quiet call hQuiet msg n
          ⟨{ w.st with env := env },
            ((List.range n).filterMap
              (turnOf w.st.client msg)).reverse ++ w.log⟩
        with ⟨env', hLast⟩
      refine ⟨env', ?_⟩
      change
        (deliverToSlot (runCallback port call) msg n
          >>= fun _ => pure ()).run _ = _
      rw [Prog.run_bind_of_run hLast]
      cases hTurn : turnOf w.st.client msg n with
      | none => simp [hTurn]
      | some e => simp [hTurn]

/- The turns of slots are deliveries and nothing else. -/
theorem filter_turns
    (c : Client)
    (msg : Message)
    (itrs : List Nat) :
    (itrs.filterMap (turnOf c msg)).reverse.filter
        Event.isDeliver =
      (itrs.filterMap (turnOf c msg)).reverse := by
  apply List.filter_eq_self.mpr
  intro e hMem
  rcases List.mem_filterMap.mp (List.mem_reverse.mp hMem)
    with ⟨itr, _, hTurn⟩
  exact (slot_of_turnOf hTurn).2

/-
  The deliveries of a run from `w₀` are those of the first
  `n` slots, and table, receive buffer and parameters are as
  they were.
-/
structure Delivering
    (msg : Message)
    (w₀ : Run E)
    (n : Nat)
    (w : Run E) : Prop where
  table :
    w.st.client.messageHandlers =
      w₀.st.client.messageHandlers
  readBuf : w.st.client.readBuf = w₀.st.client.readBuf
  params :
    w.st.client.messageParams = w₀.st.client.messageParams
  log :
    ∃ es,
      w.log = es ++ w₀.log ∧
        es.filter Event.isDeliver =
          ((List.range n).filterMap
            (turnOf w₀.st.client msg)).reverse

/- A step that hands nothing over and keeps what is read. -/
def OffTable (s s' : Sys E) (es : List Event) : Prop :=
  s'.client.messageHandlers = s.client.messageHandlers ∧
    s'.client.readBuf = s.client.readBuf ∧
      s'.client.messageParams = s.client.messageParams ∧
        ∀ e ∈ es, e.isDeliver = false

theorem offTable_of_onlyLocks
    (s s' : Sys E)
    (es : List Event)
    (hStep : OnlyLocks s s' es) :
    OffTable s s' es := by
  rcases hStep with ⟨⟨held, hClient⟩, rfl⟩
  unfold OffTable
  rw [hClient]
  exact ⟨rfl, rfl, rfl, fun _ h => by cases h⟩

theorem offTable_event
    {s s' : Sys E}
    {e : Event}
    (hTable :
      s'.client.messageHandlers = s.client.messageHandlers)
    (hBuf : s'.client.readBuf = s.client.readBuf)
    (hParams :
      s'.client.messageParams = s.client.messageParams)
    (hEvent : e.isDeliver = false) :
    OffTable s s' [e] := by
  refine ⟨hTable, hBuf, hParams, ?_⟩
  intro e' hMem
  rw [List.mem_singleton.mp hMem]
  exact hEvent

theorem uses_setClientState
    (port : Port E)
    (expected new : ClientState) :
    (setClientState port expected new).Uses OffTable := by
  refine Prog.Uses.bind
    ((uses_lockMutex_only port _).mono offTable_of_onlyLocks) ?_
  intro rc
  split
  · exact
      Prog.Uses.bind
        (Prog.Uses.step
          (fun _ => offTable_event rfl rfl rfl rfl))
        (fun _ => Prog.Uses.pure _)
  refine Prog.Uses.bind (Prog.Uses.step ?_) ?_
  · intro s
    dsimp only
    split
    · exact offTable_event rfl rfl rfl rfl
    · exact offTable_event rfl rfl rfl rfl
  intro rc
  refine Prog.Uses.bind
    ((uses_unlockMutex_only port _).mono offTable_of_onlyLocks)
    ?_
  intro threadRc
  split
  · exact Prog.Uses.pure _
  · exact Prog.Uses.pure _

/- Steps off the table keep the deliveries. -/
theorem Delivering.offTable
    {msg : Message}
    {w₀ : Run E}
    {n : Nat}
    {s s' : Sys E}
    {es l : List Event}
    (hStep : OffTable s s' es)
    (hBefore : Delivering msg w₀ n ⟨s, l⟩) :
    Delivering msg w₀ n ⟨s', es ++ l⟩ := by
  rcases hStep with ⟨hTable, hBuf, hParams, hNone⟩
  rcases hBefore.log with ⟨es', hLog, hFilter⟩
  refine
    ⟨hTable.trans hBefore.table,
      hBuf.trans hBefore.readBuf,
      hParams.trans hBefore.params, es ++ es', ?_, ?_⟩
  · change es ++ l = _
    rw [show l = es' ++ w₀.log from hLog, List.append_assoc]
  · rw [List.filter_append, hFilter,
      List.filter_eq_nil_iff.mpr (by simpa using hNone),
      List.nil_append]

/- Runs that halt have handed over to some first slots. -/
def deliveryContract
    (msg : Message)
    (w₀ : Run E) : Contract (Sys E) Event where
  excused := fun _ => False
  excused_append := fun _ h => h
  halted := fun w =>
    ∃ n, n ≤ w₀.st.client.messageHandlers.length ∧
      Delivering msg w₀ n w

/-
  However far a delivery gets, it has handed the message to
  some first slots of the table.
-/
theorem deliverMessage_delivering
    (call : ApiCall → Code E IoTError)
    (hQuiet : NoCalls port)
    (msg : Message)
    (w₀ : Run E) :
    ∃ n, n ≤ w₀.st.client.messageHandlers.length ∧
      Delivering msg w₀ n
        ((deliverMessage port (runCallback port call) msg).run
          w₀).2 := by
  have hState (expected new : ClientState) (n : Nat)
      (hLe : n ≤ w₀.st.client.messageHandlers.length) :
      Triple (deliveryContract msg w₀)
        (Delivering msg w₀ n)
        (setClientState port expected new)
        (fun _ => Delivering msg w₀ n) :=
    (uses_setClientState port expected new).triple
      (fun w hIn => ⟨n, hLe, hIn⟩)
      (fun _ _ _ _ hStep hIn => hIn.offTable hStep)
  have hAll :
      Triple (deliveryContract msg w₀)
        (Delivering msg w₀ 0)
        (deliverMessage port (runCallback port call) msg)
        (fun _ => Delivering msg w₀
          w₀.st.client.messageHandlers.length) := by
    have hRead :
        Triple (deliveryContract msg w₀)
          (Delivering msg w₀ 0) getClientState
          (fun _ => Delivering msg w₀ 0) :=
      Triple.read (fun _ h => h)
    refine hRead.bind ?_
    intro clientState
    refine (hState _ _ 0 (Nat.zero_le _)).bind ?_
    intro _ w hIn
    have hRead :
        (getClient : Code E Client).run w =
          (some w.st.client, w) := rfl
    rw [Prog.run_bind_of_run hRead, hIn.table]
    rcases deliverToSlots_quiet call hQuiet msg
        w₀.st.client.messageHandlers.length w with
      ⟨env, hRun⟩
    rw [Prog.run_bind_of_run hRun]
    refine hState _ _ _ (Nat.le_refl _) _ ?_
    rcases hIn.log with ⟨es, hLog, hFilter⟩
    have hSame : ∀ itr,
        turnOf w.st.client msg itr =
          turnOf w₀.st.client msg itr := by
      intro itr
      unfold turnOf Client.sees
      rw [hIn.table, hIn.readBuf, hIn.params]
    have hTurns := funext hSame
    rw [funext hSame]
    refine
      ⟨hIn.table, hIn.readBuf, hIn.params,
        ((List.range
          w₀.st.client.messageHandlers.length).filterMap
            (turnOf w₀.st.client msg)).reverse ++ es, ?_, ?_⟩
    · rw [List.append_assoc, ← hLog]
    · rw [List.filter_append, hFilter, filter_turns]
      simp
  have hStart : Delivering msg w₀ 0 w₀ :=
    ⟨rfl, rfl, rfl, [], rfl, rfl⟩
  rcases hAll w₀ hStart with hNo | hMeets
  · exact hNo.elim
  · cases hResult :
        ((deliverMessage port (runCallback port call)
          msg).run w₀).1 with
    | none =>
        rw [hResult] at hMeets
        exact hMeets
    | some rc =>
        rw [hResult] at hMeets
        exact ⟨_, Nat.le_refl _, hMeets⟩

/- A filter of the table and a slot that holds none. -/
def MessageHandlers.InOrder (slot : MessageHandlers) : Prop :=
  slot.topicName = none ∨
    ∃ filter, slot.Holding filter ∧ FilterOk filter.bytes

/- The slots are numbered in the order of their turns. -/
theorem slots_pairwise
    (c : Client)
    (msg : Message)
    (n : Nat) :
    (((List.range n).filterMap (turnOf c msg)).filterMap
      Event.slot).Pairwise (· < ·) := by
  have hSlots :
      ((List.range n).filterMap (turnOf c msg)).filterMap
          Event.slot =
        (List.range n).filter
          (fun itr => (turnOf c msg itr).isSome) := by
    induction List.range n with
    | nil => rfl
    | cons itr itrs ih =>
        cases hTurn : turnOf c msg itr with
        | none => simp [hTurn, ih]
        | some e =>
            simp [hTurn, ih, (slot_of_turnOf hTurn).1]
  rw [hSlots]
  exact List.pairwise_lt_range.filter _

/-
  Delivery is sound: only slots whose filter covers the name
  are selected, each at most once, in the order of the table,
  and the tests examine no byte past the name.
-/
theorem deliverMessage_sound
    (port : Port E)
    (call : ApiCall → Code E IoTError)
    (hQuiet : NoCalls port)
    (msg : Message)
    (w : Run E)
    (hTable :
      ∀ slot ∈ w.st.client.messageHandlers, slot.InOrder) :
    ∃ es,
      ((deliverMessage port (runCallback port call) msg).run
          w).2.log = es ++ w.log ∧
        (∀ itr handler data seen,
          .deliver itr handler data seen ∈ es →
            ∃ slot filter,
              w.st.client.messageHandlers[itr]? = some slot ∧
                slot.topicName = some filter ∧
                  slot.pApplicationHandler = some handler ∧
                    FilterCovers filter.bytes (msg.nameIn w)) ∧
        (es.reverse.filterMap Event.slot).Pairwise (· < ·) ∧
        ∀ slot ∈ w.st.client.messageHandlers,
          (slot.acceptsAt w.st.client.readBuf msg.topicOff
              msg.topicLen).1 =
            slot.accepts (msg.nameIn w) ∧
          ∀ a ∈ (slot.acceptsAt w.st.client.readBuf
              msg.topicOff msg.topicLen).2,
            msg.topicOff ≤ a ∧
              a < msg.topicOff + msg.topicLen := by
  rcases deliverMessage_delivering call hQuiet msg w
    with ⟨n, _, hDelivering⟩
  rcases hDelivering.log with ⟨es, hLog, hFilter⟩
  refine ⟨es, hLog, ?_, ?_, ?_⟩
  · intro itr handler data seen hMem
    have hTurn :
        Event.deliver itr handler data seen ∈
          (List.range n).filterMap
            (turnOf w.st.client msg) := by
      rw [← List.mem_reverse, ← hFilter]
      exact List.mem_filter.mpr ⟨hMem, rfl⟩
    rcases List.mem_filterMap.mp hTurn with
      ⟨itr', _, hTurn⟩
    have hSame := (slot_of_turnOf hTurn).1
    cases hSame
    unfold turnOf at hTurn
    cases hSlot : w.st.client.messageHandlers[itr]? with
    | none =>
        rw [hSlot] at hTurn
        cases hTurn
    | some slot =>
        rw [hSlot] at hTurn
        dsimp only at hTurn
        split at hTurn
        case isFalse => cases hTurn
        case isTrue hAccepts =>
          rcases Option.map_eq_some_iff.mp hTurn with
            ⟨handler', hHandler, hEvent⟩
          cases hEvent
          rcases hTable slot (List.mem_of_getElem? hSlot)
            with hFree | ⟨filter, hHolding, hOk⟩
          · unfold MessageHandlers.accepts at hAccepts
            rw [hFree] at hAccepts
            cases hAccepts
          · exact
              ⟨slot, filter, rfl, hHolding.topicName,
                hHandler,
                covered_of_accepts hHolding hOk hAccepts⟩
  · have hOrder := slots_pairwise w.st.client msg n
    have hAll :
        es.reverse.filterMap Event.slot =
          ((es.filter Event.isDeliver).reverse).filterMap
            Event.slot := by
      rw [← List.filter_reverse, List.filterMap_filter]
      congr 1
      funext e
      cases e <;> rfl
    rw [hAll, hFilter, List.reverse_reverse]
    exact hOrder
  · intro slot _
    exact
      ⟨acceptsAt_accepts slot _ _ _,
        acceptsAt_inside slot _ _ _⟩

theorem deliverMessage_sound_sport :
    ∃ es,
      ((deliverMessage quietPort
          (runCallback quietPort (fun _ => pure .success))
          (sportMessage 7)).run
            (sportWorld
              [115, 112, 111, 114, 116, 47, 97])).2.log =
          es ++ [] ∧
        (es.reverse.filterMap Event.slot).Pairwise
          (· < ·) := by
  rcases
    deliverMessage_sound quietPort (fun _ => pure .success)
      (fun _ _ _ _ => rfl) (sportMessage 7)
      (sportWorld [115, 112, 111, 114, 116, 47, 97])
      (by
        intro slot hMem
        rw [List.mem_singleton.mp hMem]
        exact
          Or.inr
            ⟨sportFilter, sportSlot_holding, by decide⟩)
    with ⟨es, hLog, _, hOrder, _⟩
  exact ⟨es, hLog, hOrder⟩

end Mqtt

end TrustOnboard
