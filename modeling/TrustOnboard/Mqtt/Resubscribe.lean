import Mathlib.Data.List.Perm.Subperm
import TrustOnboard.Mqtt.Script
import TrustOnboard.Mqtt.Correlation
import TrustOnboard.Mqtt.StateMachine

/-
  Resubscription after a reconnect.

  The loop of `_aws_iot_mqtt_internal_resubscribe` runs over
  as many slots as come before the first free one.  When the
  client reports that it is connected again and no callback
  has called it meanwhile, every slot in use has been
  subscribed again exactly when no free slot comes before a
  slot in use.  Callbacks that call the client are the
  subject of `Mqtt/Reconnect`.

  Key definitions include:
    * `MessageHandlers.entry`
    * `Compact`
    * `progress`
    * `Resubscribed`

  Key results include:
    * `requestEntry_subscribe`
    * `resubscribed_of_completed`
    * `attemptReconnect_completed`
-/

------------------------------------------------------------
-- Tables With And Without Holes
------------------------------------------------------------

namespace TrustOnboard

namespace Mqtt

/- A slot in use. -/
def MessageHandlers.used (slot : MessageHandlers) : Bool :=
  slot.topicName.isSome

/- What a SUBSCRIBE packet for the slot carries. -/
def MessageHandlers.entry
    (slot : MessageHandlers) : Option Bytes :=
  subscribeEntry slot.topicName slot.topicNameLen slot.qos

/- No free slot comes before a slot in use. -/
def Compact (table : List MessageHandlers) : Prop :=
  table.Pairwise (fun a b => b.used = true → a.used = true)

instance (table : List MessageHandlers) :
    Decidable (Compact table) :=
  inferInstanceAs (Decidable (List.Pairwise _ _))

/- The entries of all slots in use. -/
def usedEntries (table : List MessageHandlers) : List Bytes :=
  (table.filter MessageHandlers.used).filterMap
    MessageHandlers.entry

/- The slots before the first free one. -/
def leading
    (table : List MessageHandlers) : List MessageHandlers :=
  table.takeWhile MessageHandlers.used

theorem getFreeMessageHandlerIndex_eq
    (table : List MessageHandlers) :
    getFreeMessageHandlerIndex table =
      (leading table).length := by
  unfold getFreeMessageHandlerIndex leading
  induction table with
  | nil => rfl
  | cons slot table ih =>
      cases hTopic : slot.topicName with
      | none =>
          simp [List.findIdx_cons, MessageHandlers.used,
            hTopic]
      | some topic =>
          simp [List.findIdx_cons, MessageHandlers.used,
            hTopic, ih]

/- A slot in use always has an entry. -/
theorem entry_of_used
    {slot : MessageHandlers}
    (hUsed : slot.used = true) :
    ∃ bs, slot.entry = some bs := by
  rcases Option.isSome_iff_exists.mp hUsed with
    ⟨topic, hTopic⟩
  unfold MessageHandlers.entry subscribeEntry writeUtf8String
    memcpyFrom
  rw [hTopic]
  split
  · exact ⟨_, rfl⟩
  · exact ⟨_, rfl⟩

theorem length_usedEntries
    (table : List MessageHandlers) :
    (usedEntries table).length =
      (table.filter MessageHandlers.used).length := by
  unfold usedEntries
  induction table with
  | nil => rfl
  | cons slot table ih =>
      by_cases hUsed : slot.used = true
      · rcases entry_of_used hUsed with ⟨bs, hEntry⟩
        simp [hUsed, hEntry, ih]
      · simp [hUsed, ih]

/- In a compact table the leading slots are all in use. -/
theorem filter_used_of_compact
    {table : List MessageHandlers}
    (hCompact : Compact table) :
    table.filter MessageHandlers.used = leading table := by
  induction table with
  | nil => rfl
  | cons slot table ih =>
      rcases List.pairwise_cons.mp hCompact with
        ⟨hHead, hTail⟩
      unfold leading at ih ⊢
      by_cases hUsed : slot.used = true
      · rw [List.filter_cons_of_pos hUsed,
          List.takeWhile_cons_of_pos hUsed, ih hTail]
      · rw [List.filter_cons_of_neg hUsed,
          List.takeWhile_cons_of_neg hUsed]
        rw [List.filter_eq_nil_iff]
        intro other hMem hOther
        exact hUsed (hHead other hMem hOther)

/- A table whose leading slots are all in use is compact. -/
theorem compact_of_length
    {table : List MessageHandlers}
    (hLength :
      (table.filter MessageHandlers.used).length ≤
        (leading table).length) :
    Compact table := by
  unfold Compact leading at *
  induction table with
  | nil => exact List.Pairwise.nil
  | cons slot table ih =>
      refine List.pairwise_cons.mpr ?_
      by_cases hUsed : slot.used = true
      · rw [List.filter_cons_of_pos hUsed,
          List.takeWhile_cons_of_pos hUsed] at hLength
        refine ⟨fun _ _ _ => hUsed, ih ?_⟩
        simpa using hLength
      · rw [List.filter_cons_of_neg hUsed,
          List.takeWhile_cons_of_neg hUsed] at hLength
        have hNone :
            table.filter MessageHandlers.used = [] := by
          simpa using hLength
        rw [List.filter_eq_nil_iff] at hNone
        constructor
        · intro other hMem hOther
          exact absurd hOther (hNone other hMem)
        · refine
            List.Pairwise.imp_of_mem
              (R := fun _ _ => True) ?_
              (List.pairwise_of_forall (fun _ _ => trivial))
          intro a b _ hMem _ hOther
          exact absurd hOther (hNone b hMem)

end Mqtt

end TrustOnboard

------------------------------------------------------------
-- The Packets Of A Resubscription
------------------------------------------------------------

namespace TrustOnboard

namespace Mqtt

/-
  What a SUBSCRIBE packet carries behind its identifier: the
  topic with its length and the quality of service.
-/
def requestEntry (packet : Bytes) : Option Bytes :=
  if packetType packet = MessageType.subscribe.nibble then
    some (((packet.drop 1).dropWhile
      (fun b => b &&& 128 ≠ 0)).drop 3)
  else none

/- The entry is behind the length and the identifier. -/
theorem requestEntry_frame
    (remLen : UInt32)
    (id : UInt16)
    (entry : Bytes) :
    requestEntry
      (initHeader .subscribe .qos1 0 0 ::
        writeLenToBuffer remLen ++
          (writeUint16 id ++ entry)) = some entry := by
  rcases
    (writeLenToBuffer_base128 remLen).dropWhile_append
      (writeUint16 id ++ entry) with ⟨last, hDrop⟩
  have hType :
      headerType (initHeader .subscribe .qos1 0 0) =
        MessageType.subscribe.nibble := by
    decide
  simp only [requestEntry, packetType, List.cons_append,
    List.headD_cons, hType, if_true, List.drop_succ_cons,
    List.drop_zero]
  rw [hDrop]
  rfl

/- The encoder puts the entry into the packet. -/
theorem requestEntry_subscribe
    {txBufLen : Nat}
    {id : UInt16}
    {topic : Option CString}
    {topicLen : UInt16}
    {qos : QoS}
    {packet : Bytes}
    (hEnc :
      serializeSubscribe txBufLen 0 id
        [(topic, topicLen, qos)] = some (.ok packet)) :
    ∃ entry,
      subscribeEntry topic topicLen qos = some entry ∧
        requestEntry packet = some entry := by
  rcases serializeFrame_ok hEnc with ⟨b, hBody, rfl⟩
  simp only [concatParts, List.map_cons, List.map_nil,
    List.foldr_cons, List.foldr_nil, Option.bind_some,
    Option.map_eq_some_iff] at hBody
  rcases hBody with ⟨rest, hRest, rfl⟩
  cases hEntry : subscribeEntry topic topicLen qos with
  | none =>
      rw [hEntry] at hRest
      cases hRest
  | some entry =>
      rw [hEntry] at hRest
      simp only [Option.bind_some, Option.map_some,
        List.append_nil, Option.some.injEq] at hRest
      subst hRest
      exact ⟨entry, rfl, requestEntry_frame _ id entry⟩

end Mqtt

end TrustOnboard

------------------------------------------------------------
-- Progress On The Connection In Use
------------------------------------------------------------

namespace TrustOnboard

namespace Mqtt

/-
  The SUBSCRIBE packets that were sent and acknowledged on
  the connection in use, by their entries, and the one that
  waits for its SUBACK.
-/
structure Progress where
  done : List Bytes
  pending : Option Bytes

/- A SUBACK acknowledges the packet that waits for it. -/
def Progress.acknowledge (p : Progress) : Progress where
  done := p.pending.toList ++ p.done
  pending := none

/- The progress according to the log. -/
def progress : List Event → Progress
  | [] => { done := [], pending := none }
  | .netConnect rc :: l =>
      if rc = .success then { done := [], pending := none }
      else progress l
  | .txPacket packet :: l =>
      match requestEntry packet with
      | some entry =>
          { progress l with pending := some entry }
      | none => progress l
  | .rxPacket packet :: l =>
      if packetType packet = MessageType.suback.nibble then
        (progress l).acknowledge
      else progress l
  | _ :: l => progress l

/-
  Every slot in use has its own SUBSCRIBE packet that was
  sent and acknowledged on the connection in use.
-/
def Resubscribed
    (table : List MessageHandlers)
    (l : List Event) : Prop :=
  (usedEntries table).Subperm (progress l).done

/- The events progress depends on. -/
def Event.isProgress : Event → Bool
  | .netConnect _ => true
  | .txPacket _ => true
  | .rxPacket _ => true
  | _ => false

theorem progress_cons
    {e : Event}
    (hOther : e.isProgress = false)
    (l : List Event) :
    progress (e :: l) = progress l := by
  cases e <;> simp_all [Event.isProgress, progress]

theorem isProgress_of_quiet
    {e : Event}
    (hQuiet : e.quiet = true) :
    e.isProgress = false := by
  cases e <;> simp_all [Event.quiet, Event.isProgress]

theorem isProgress_of_isInput
    {e : Event}
    (hInput : e.isInput = true) :
    e.isProgress = false := by
  cases e <;> simp_all [Event.isInput, Event.isProgress]

theorem isProgress_of_isOutput
    {e : Event}
    (hOutput : e.isOutput = true) :
    e.isProgress = false := by
  cases e <;> simp_all [Event.isOutput, Event.isProgress]

/- A sent packet of another type changes nothing. -/
theorem progress_sent_other
    {packet : Bytes}
    (hType :
      packetType packet ≠ MessageType.subscribe.nibble)
    (l : List Event) :
    progress (.txPacket packet :: l) = progress l := by
  simp [progress, requestEntry, hType]

/- The table is unchanged and the progress is known. -/
def Reached
    (table : List MessageHandlers)
    (done : List Bytes)
    (pending : Option Bytes) : Fact :=
  fun f l =>
    f.table = table ∧
      progress l = { done := done, pending := pending }

theorem Reached.cons
    {table : List MessageHandlers}
    {done : List Bytes}
    {pending : Option Bytes}
    {f : Frame}
    {l : List Event}
    {e : Event}
    (hOther : e.isProgress = false)
    (hReached : Reached table done pending f l) :
    Reached table done pending f (e :: l) :=
  ⟨hReached.1, (progress_cons hOther l).trans hReached.2⟩

theorem Reached.sent_other
    {table : List MessageHandlers}
    {done : List Bytes}
    {pending : Option Bytes}
    {packet : Bytes}
    (hType :
      packetType packet ≠ MessageType.subscribe.nibble)
    {f : Frame}
    {l : List Event}
    (hReached : Reached table done pending f l) :
    Reached table done pending f (.txPacket packet :: l) :=
  ⟨hReached.1,
    (progress_sent_other hType l).trans hReached.2⟩

/- A packet that was read, by its type. -/
theorem Reached.read
    {table : List MessageHandlers}
    {done : List Bytes}
    {pending : Option Bytes}
    {f : Frame}
    {l : List Event}
    (packet : Bytes)
    (hReached : Reached table done pending f l) :
    if packetType packet = MessageType.suback.nibble then
      Reached table (pending.toList ++ done) none f
        (.rxPacket packet :: l)
    else
      Reached table done pending f
        (.rxPacket packet :: l) := by
  rcases hReached with ⟨hTable, hProgress⟩
  split
  case isTrue hType =>
    refine ⟨hTable, ?_⟩
    simp [progress, hType, hProgress, Progress.acknowledge]
  case isFalse hType =>
    refine ⟨hTable, ?_⟩
    simp [progress, hType, hProgress]

end Mqtt

end TrustOnboard

------------------------------------------------------------
-- Exchanges With Quiet Callbacks
------------------------------------------------------------

namespace TrustOnboard

namespace Mqtt

variable {E : Type}
variable {port : Port E}
variable {callback : Callback E}
variable {φ : ClientState → Prop}
variable {table : List MessageHandlers}
variable {done : List Bytes}
variable {pending : Option Bytes}

/- Where a SUBACK leads to. -/
def AfterPacket
    (table : List MessageHandlers)
    (done : List Bytes)
    (pending : Option Bytes)
    (type : UInt8) : Fact :=
  if type = MessageType.suback.nibble then
    Reached table (pending.toList ++ done) none
  else Reached table done pending

/- A wait, with the progress made by the packets it reads. -/
theorem waitForRead_reached
    (hSingle : port.threadSupport = false)
    (hCb : Harmless (Contract.plain (Sys E) Event) callback)
    {awaited : MessageType}
    (hAwaited : awaited = .suback ∨ pending = none)
    (fuel : Nat) :
    Triple (Contract.plain (Sys E) Event)
      (Holds (In φ (Reached table done pending)))
      (waitForRead port fuel callback awaited .command)
      (AfterWait (In φ (Reached table done pending))
        (fun type =>
          In φ (AfterPacket table done pending type))
        awaited) := by
  have hKeep :
      ∀ type f l (e : Event), e.isProgress = false →
        AfterPacket table done pending type f l →
          AfterPacket table done pending type f (e :: l) := by
    intro type f l e hOther hReached
    unfold AfterPacket at hReached ⊢
    split
    case isTrue hType =>
      rw [if_pos hType] at hReached
      exact hReached.cons hOther
    case isFalse hType =>
      rw [if_neg hType] at hReached
      exact hReached.cons hOther
  refine
    waitForRead_received hSingle (fun _ _ => trivial) ?_ ?_
      ?_ ?_
  · rintro s f l e hQuiet ⟨hState, hReached⟩
    exact
      ⟨hState, hReached.cons (isProgress_of_quiet hQuiet)⟩
  · refine
      (in_readPacket_received (fun _ _ => trivial) ?_
        fuel).post ?_
    · intro f l e hInput hReached
      exact hReached.cons (isProgress_of_isInput hInput)
    · rintro ⟨rc, type⟩ w ⟨hState, hLast⟩
      cases type with
      | none => exact ⟨hState, hLast⟩
      | some type =>
          rcases hLast with ⟨packet, l', hLog, rfl, hReached⟩
          refine ⟨hState, ?_⟩
          rw [hLog]
          have hRead := hReached.read packet
          unfold AfterPacket
          split
          case isTrue hType =>
            rw [if_pos hType] at hRead
            exact hRead
          case isFalse hType =>
            rw [if_neg hType] at hRead
            exact hRead
  · intro type
    refine
      in_dispatchPacket hSingle hCb
        (fun f l e hQuiet =>
          hKeep type f l e (isProgress_of_quiet hQuiet))
        (fun s id =>
          in_sendPuback hSingle (fun _ _ => trivial)
            (fun f l e hOutput =>
              hKeep type f l e
                (isProgress_of_isOutput hOutput))
            ?_ fuel .command id) type
    intro f l packet hType hReached
    have hNot :
        packetType packet ≠ MessageType.subscribe.nibble := by
      rw [hType]
      decide
    unfold AfterPacket at hReached ⊢
    split
    case isTrue hType =>
      rw [if_pos hType] at hReached
      exact hReached.sent_other hNot
    case isFalse hType =>
      rw [if_neg hType] at hReached
      exact hReached.sent_other hNot
  · rintro type s f l hType ⟨hState, hReached⟩
    refine ⟨hState, ?_⟩
    unfold AfterPacket at hReached
    split at hReached
    case isTrue hSuback =>
      rcases hAwaited with rfl | rfl
      · exact absurd hSuback hType
      · exact hReached
    case isFalse _ => exact hReached

/- One SUBSCRIBE and its SUBACK. -/
theorem subscribeExchange_reached
    (hSingle : port.threadSupport = false)
    (hCb : Harmless (Contract.plain (Sys E) Event) callback)
    (fuel : Nat)
    (id : UInt16)
    (topic : Option CString)
    (topicLen : UInt16)
    (qos : QoS) :
    Triple (Contract.plain (Sys E) Event)
      (Holds (Reached table done none).cond)
      (subscribeExchange port fuel callback id topic topicLen
        qos)
      (fun rc w =>
        rc = .success →
          ∃ entry,
            subscribeEntry topic topicLen qos = some entry ∧
              Holds (Reached table (entry :: done)
                none).cond w) := by
  refine
    (in_sendSerialized_sent hSingle (fun _ _ => trivial)
      (fun f l e hOutput hReached =>
        hReached.cons (isProgress_of_isOutput hOutput))
      (failsWithError_request
        (.subscribe topic topicLen qos none 0) id) fuel
        .command).bind ?_
  intro rc
  refine Triple.ite ?_ ?_
  · intro hRc
    exact Triple.ret (fun _ _ hYes => absurd hYes hRc)
  · intro hRc
    have hOk : rc = .success := not_not.mp hRc
    refine Triple.pre
      (A := fun w =>
        ∃ entry,
          subscribeEntry topic topicLen qos = some entry ∧
            Holds (Reached table done
              (some entry)).cond w) ?_ ?_
    · refine Triple.exists_pre ?_
      intro entry
      refine Triple.of_fact ?_
      intro hEntry
      refine
        (waitForRead_reached hSingle hCb (Or.inl rfl)
          fuel).bind ?_
      intro rc
      refine Triple.ite ?_ ?_
      · intro hRc
        exact Triple.ret (fun _ _ hYes => absurd hYes hRc)
      · intro hRc
        have hAck :
            ∀ w : Run E,
              AfterWait
                (In (fun _ => True)
                  (Reached table done (some entry)))
                (fun type =>
                  In (fun _ => True)
                    (AfterPacket table done (some entry)
                      type)) .suback rc w →
              Holds (Reached table (entry :: done)
                none).cond w := by
          intro w hWait
          have hReached := hWait.received (not_not.mp hRc)
          exact hReached
        refine Triple.pre ?_ hAck
        refine (holds_read _).bind ?_
        intro c
        cases deserializeSuback c.readBuf 1 c.readBufSize with
        | error rc =>
            exact
              Triple.ret (fun _ h _ => ⟨entry, hEntry, h⟩)
        | ok _ =>
            exact
              Triple.ret (fun _ h _ => ⟨entry, hEntry, h⟩)
    · intro w hPost
      rcases hPost with
        ⟨hNo, _⟩ | ⟨_, c, packet, hEnc, hSent⟩
      · exact absurd hOk hNo
      · rcases requestEntry_subscribe hEnc with
          ⟨entry, hEntry, hRequest⟩
        rcases hSent.2 with ⟨l', hLog, hTable, hProgress⟩
        refine ⟨entry, hEntry, trivial, hTable, ?_⟩
        rw [hLog]
        simp [progress, hRequest, hProgress]

end Mqtt

end TrustOnboard

------------------------------------------------------------
-- The Resubscription Loop
------------------------------------------------------------

namespace TrustOnboard

namespace Mqtt

variable {E : Type}
variable {port : Port E}
variable {callback : Callback E}
variable {table : List MessageHandlers}
variable {done : List Bytes}

/- The client that is read has the known table. -/
theorem getClient_reached
    {pending : Option Bytes} :
    Triple (Contract.plain (Sys E) Event)
      (Holds (Reached table done pending).cond)
      (getClient : Code E Client)
      (fun c w =>
        c.messageHandlers = table ∧
          Holds (Reached table done pending).cond w) :=
  Triple.read (fun _ h => ⟨h.2.1, h⟩)

/- The slots that were sent, one after the other. -/
theorem resubscribeSlots_reached
    (hSingle : port.threadSupport = false)
    (hCb : Harmless (Contract.plain (Sys E) Event) callback)
    (fuel : Nat)
    (slots : List Nat) :
    Triple (Contract.plain (Sys E) Event)
      (Holds (Reached table done none).cond)
      (resubscribeSlots port fuel callback slots)
      (fun rc w =>
        rc = .success →
          ∃ entries : List Bytes,
            slots.map (fun i =>
                table[i]?.bind MessageHandlers.entry) =
              entries.map some ∧
            Holds (Reached table (entries.reverse ++ done)
              none).cond w) := by
  induction slots generalizing done with
  | nil => exact Triple.ret (fun _ h _ => ⟨[], rfl, h⟩)
  | cons itr rest ih =>
      refine holds_startCommandTimer.bind ?_
      intro _
      refine holds_getNextPacketId.bind ?_
      intro id
      refine getClient_reached.bind ?_
      intro c
      refine Triple.of_fact ?_
      intro hTable
      rw [hTable]
      cases hSlot : table[itr]? with
      | none => exact Triple.stop (fun _ _ => trivial)
      | some slot =>
          refine
            (subscribeExchange_reached hSingle hCb fuel id _ _
              _).bind ?_
          intro rc
          refine Triple.ite ?_ ?_
          · intro hRc
            exact
              Triple.ret (fun _ _ hYes => absurd hYes hRc)
          · intro hRc
            refine Triple.pre
              (A := fun w =>
                ∃ entry,
                  slot.entry = some entry ∧
                    Holds (Reached table (entry :: done)
                      none).cond w) ?_
              (fun w h => h (not_not.mp hRc))
            refine Triple.exists_pre ?_
            intro entry
            refine Triple.of_fact ?_
            intro hEntry
            refine ih.post ?_
            intro rc w hPost hRc
            rcases hPost hRc with
              ⟨entries, hEntries, hReached⟩
            refine ⟨entry :: entries, ?_, ?_⟩
            · simp [hSlot, hEntry, hEntries]
            · simpa using hReached

/- The loop runs over the leading slots. -/
theorem range_leading
    (table : List MessageHandlers) :
    (List.range (leading table).length).map (fun i =>
        table[i]?.bind MessageHandlers.entry) =
      (leading table).map MessageHandlers.entry := by
  apply List.ext_getElem
  · simp
  · intro i hLeft hRight
    have hLt : i < (leading table).length := by
      simpa using hLeft
    have hSame : table[i]? = some ((leading table)[i]) := by
      rcases
        List.takeWhile_prefix MessageHandlers.used
          (l := table) with ⟨rest, hSplit⟩
      have hAppend :
          (leading table ++ rest)[i]? =
            some ((leading table)[i]) := by
        rw [List.getElem?_append_left hLt,
          List.getElem?_eq_getElem hLt]
      unfold leading at hAppend ⊢
      rw [hSplit] at hAppend
      exact hAppend
    simp [hSame]

/- The leading slots, and only they, were sent. -/
def Completed (table : List MessageHandlers) : Fact :=
  fun f l =>
    ∃ entries : List Bytes,
      (leading table).map MessageHandlers.entry =
          entries.map some ∧
        Reached table entries.reverse none f l

theorem Completed.cons
    {f : Frame}
    {l : List Event}
    {e : Event}
    (hOther : e.isProgress = false)
    (hCompleted : Completed table f l) :
    Completed table f (e :: l) := by
  rcases hCompleted with ⟨entries, hEntries, hReached⟩
  exact ⟨entries, hEntries, hReached.cons hOther⟩

/- `_aws_iot_mqtt_internal_resubscribe`. -/
theorem internalResubscribe_reached
    (hSingle : port.threadSupport = false)
    (hCb : Harmless (Contract.plain (Sys E) Event) callback)
    (fuel : Nat) :
    Triple (Contract.plain (Sys E) Event)
      (Holds (Reached table [] none).cond)
      (internalResubscribe port fuel callback)
      (fun rc w =>
        rc = .success → Holds (Completed table).cond w) := by
  refine getClient_reached.bind ?_
  intro c
  refine Triple.of_fact ?_
  intro hTable
  rw [hTable, getFreeMessageHandlerIndex_eq]
  refine
    (resubscribeSlots_reached hSingle hCb fuel _).post ?_
  intro rc w hPost hRc
  rcases hPost hRc with ⟨entries, hEntries, _, hReached⟩
  rw [range_leading] at hEntries
  rw [List.append_nil] at hReached
  exact ⟨trivial, entries, hEntries, hReached⟩

/- Sent entries against slots in use. -/
theorem resubscribed_of_completed
    {f : Frame}
    {l : List Event}
    (hCompleted : Completed table f l) :
    Resubscribed table l ↔ Compact table := by
  rcases hCompleted with ⟨entries, hEntries, _, hProgress⟩
  unfold Resubscribed
  rw [hProgress]
  constructor
  · intro hSub
    apply compact_of_length
    have hLeading := congrArg List.length hEntries
    have hLength := hSub.length_le
    rw [length_usedEntries] at hLength
    simp only [List.length_map, List.length_reverse]
      at hLeading hLength
    omega
  · intro hCompact
    have hUsed : usedEntries table = entries := by
      unfold usedEntries
      rw [filter_used_of_compact hCompact]
      have hMap :=
        congrArg (List.filterMap id) hEntries
      simpa [List.filterMap_map] using hMap
    rw [hUsed]
    exact (List.reverse_perm entries).symm.subperm

end Mqtt

end TrustOnboard

------------------------------------------------------------
-- Codes
------------------------------------------------------------

namespace TrustOnboard

namespace Mqtt

variable {E : Type}
variable {port : Port E}
variable {callback : Callback E}

theorem waitForRead_common
    (hSingle : port.threadSupport = false)
    (fuel : Nat)
    (awaited : MessageType)
    (timer : TimerName) :
    ReturnsCommon
      (waitForRead port fuel callback awaited timer) := by
  refine
    Triple.loop (fun _ _ => True) (fun _ _ _ => trivial) ?_
  intro seen
  refine Triple.anything.bind ?_
  intro expired
  refine Triple.ite ?_ ?_
  · intro _
    exact Triple.ret (fun _ _ => by decide)
  · intro _
    refine
      ((cycleRead_common hSingle fuel timer).pre
        (fun _ _ => trivial)).bind ?_
    rintro ⟨rc, type⟩
    refine Triple.ite ?_ ?_
    · intro _
      exact Triple.ret (fun _ h => h)
    · intro _
      refine Triple.ite ?_ ?_
      · intro _
        exact Triple.ret (fun _ h => h)
      · intro _
        exact Triple.ret (fun _ _ => trivial)

theorem sendSubscribe_common
    (hSingle : port.threadSupport = false)
    (fuel : Nat)
    (id : UInt16)
    (topic : Option CString)
    (topicLen : UInt16)
    (qos : QoS) :
    ReturnsCommon
      (sendSerialized port fuel .command (fun c =>
        serializeSubscribe c.writeBufSize 0 id
          [(topic, topicLen, qos)])) := by
  have hSerialize :=
    holds_serialize (E := E) (K := fun _ _ _ => True)
      (C := Contract.plain (Sys E) Event)
      (fun _ _ => trivial)
      (serializeSubscribe_encodes id topic topicLen qos)
  refine (hSerialize.pre (fun _ _ => trivial)).bind ?_
  intro res
  cases res with
  | error rc =>
      refine Triple.ret ?_
      rintro w ⟨⟨c, hError⟩, _⟩
      rw [serializeFrame_error hError]
      decide
  | ok n =>
      exact
        (sendPacket_common hSingle fuel n .command).pre
          (fun _ _ => trivial)

theorem subscribeExchange_common
    (hSingle : port.threadSupport = false)
    (fuel : Nat)
    (id : UInt16)
    (topic : Option CString)
    (topicLen : UInt16)
    (qos : QoS) :
    ReturnsCommon
      (subscribeExchange port fuel callback id topic topicLen
        qos) := by
  refine
    (sendSubscribe_common hSingle fuel id topic topicLen
      qos).bind ?_
  intro rc
  refine Triple.ite (fun _ => Triple.ret (fun _ h => h)) ?_
  intro _
  refine
    ((waitForRead_common hSingle fuel .suback .command).pre
      (fun _ _ => trivial)).bind ?_
  intro rc
  refine Triple.ite (fun _ => Triple.ret (fun _ h => h)) ?_
  intro _
  refine Triple.anything.bind ?_
  intro c
  cases hAck :
      deserializeSuback c.readBuf 1 c.readBufSize with
  | error rc =>
      refine Triple.ret (fun _ _ => ?_)
      rcases deserializeSuback_error hAck with
        rfl | rfl | rfl
      · decide
      · decide
      · decide
  | ok _ => exact Triple.ret (fun _ _ => common_success)

theorem resubscribeSlots_common
    (hSingle : port.threadSupport = false)
    (fuel : Nat)
    (slots : List Nat) :
    ReturnsCommon
      (resubscribeSlots port fuel callback slots) := by
  induction slots with
  | nil => exact Triple.ret (fun _ _ => common_success)
  | cons itr rest ih =>
      refine Triple.anything.bind ?_
      intro _
      refine Triple.anything.bind ?_
      intro id
      refine Triple.anything.bind ?_
      intro c
      cases c.messageHandlers[itr]? with
      | none => exact Triple.stop (fun _ _ => trivial)
      | some slot =>
          refine
            (subscribeExchange_common hSingle fuel id _ _
              _).bind ?_
          intro rc
          refine
            Triple.ite (fun _ => Triple.ret (fun _ h => h)) ?_
          intro _
          exact ih.pre (fun _ _ => trivial)

/- Resubscribing never reports that it reconnected. -/
theorem resubscribe_ne_networkReconnected
    (hSingle : port.threadSupport = false)
    (fuel : Nat) :
    Triple (Contract.plain (Sys E) Event) (fun _ => True)
      (resubscribe port fuel callback)
      (fun rc _ => rc ≠ .networkReconnected) := by
  refine Triple.anything.bind ?_
  intro seen
  refine Triple.ite ?_ ?_
  · intro _
    exact Triple.ret (fun _ _ => by decide)
  intro _
  refine Triple.anything.bind ?_
  intro clientState
  refine Triple.ite ?_ ?_
  · intro _
    exact Triple.ret (fun _ _ => by decide)
  intro _
  refine
    ((setClientState_common hSingle _ _).pre
      (fun _ _ => trivial)).bind ?_
  intro rc
  refine Triple.ite (fun _ => Triple.ret (fun _ h => h.2.1)) ?_
  intro _
  refine Triple.bind (M := fun rc _ => Common rc) ?_ ?_
  · refine Triple.anything.bind ?_
    intro c
    exact
      (resubscribeSlots_common hSingle fuel _).pre
        (fun _ _ => trivial)
  · intro opRc
    refine Triple.pre (A := fun _ => Common opRc ∧ True) ?_
      (fun _ h => ⟨h, trivial⟩)
    refine Triple.of_fact ?_
    intro hOp
    refine (setClientState_common hSingle _ _).bind ?_
    intro rc
    refine Triple.ite ?_ ?_
    · intro _
      exact Triple.ret (fun _ h => h.2.1)
    · intro _
      exact Triple.ret (fun _ _ => hOp.2.1)

end Mqtt

end TrustOnboard

------------------------------------------------------------
-- Connecting Again
------------------------------------------------------------

namespace TrustOnboard

namespace Mqtt

variable {E : Type}
variable {port : Port E}
variable {callback : Callback E}
variable {table : List MessageHandlers}

/- The table is the given one. -/
def TableIs (table : List MessageHandlers) : Fact :=
  fun f _ => f.table = table

theorem failsWithError_connect :
    FailsWithError (fun c =>
      serializeConnect c.writeBufSize c.options) := by
  intro c rc hError
  unfold serializeConnect at hError
  dsimp only at hError
  split at hError
  · cases hError
    decide
  · split at hError
    · cases hError
      decide
    · rw [serializeFrame_error hError]
      decide

/- No SUBSCRIBE is sent while the connection is opened. -/
theorem connectExchange_reached
    (hSingle : port.threadSupport = false)
    (hCb : Harmless (Contract.plain (Sys E) Event) callback)
    (fuel : Nat) :
    Triple (Contract.plain (Sys E) Event)
      (Holds (At .connecting (Reached table [] none)))
      (connectExchange port fuel callback)
      (fun _ =>
        Holds (At .connecting (Reached table [] none))) := by
  refine holds_startCommandTimer.bind ?_
  intro _
  refine Triple.seq
    (holds_modifyClient (fun _ => rfl) (fun _ => rfl)) ?_
  intro _
  have hSend :
      Triple (Contract.plain (Sys E) Event)
        (Holds (At .connecting (Reached table [] none)))
        (sendSerialized port fuel .command (fun c =>
          serializeConnect c.writeBufSize c.options))
        (fun _ =>
          Holds (At .connecting
            (Reached table [] none))) := by
    refine
      (in_sendSerialized_sent hSingle (fun _ _ => trivial)
        (fun f l e hOutput hReached =>
          hReached.cons (isProgress_of_isOutput hOutput))
        failsWithError_connect fuel .command).post ?_
    intro rc w hPost
    rcases hPost with ⟨_, hAt⟩ | ⟨_, c, packet, hEnc, hSent⟩
    · exact hAt
    · refine ⟨hSent.1, ?_⟩
      rcases hSent.2 with ⟨l', hLog, hReached⟩
      rw [hLog]
      refine hReached.sent_other ?_
      rw [packetType_connect hEnc]
      decide
  refine hSend.bind ?_
  intro rc
  refine Triple.ite (fun _ => Triple.same) (fun _ => ?_)
  have hWait :
      Triple (Contract.plain (Sys E) Event)
        (Holds (At .connecting (Reached table [] none)))
        (waitForRead port fuel callback .connack .command)
        (fun _ =>
          Holds (At .connecting
            (Reached table [] none))) := by
    refine
      (waitForRead_reached hSingle hCb (Or.inr rfl)
        fuel).post ?_
    intro rc w hPost
    rcases hPost with ⟨_, hAt⟩ | ⟨type, _, hState, hAfter⟩
    · exact hAt
    · refine ⟨hState, ?_⟩
      unfold AfterPacket at hAfter
      split at hAfter
      · exact hAfter
      · exact hAfter
  refine hWait.bind ?_
  intro rc
  refine Triple.ite (fun _ => Triple.same) (fun _ => ?_)
  refine (holds_read _).bind ?_
  intro c
  cases deserializeConnack c.readBuf c.readBufSize with
  | error rc => exact Triple.same
  | ok connackRc =>
      refine Triple.ite (fun _ => Triple.same) (fun _ => ?_)
      refine Triple.seq
        (holds_modifyClient (fun _ => rfl) (fun _ => rfl)) ?_
      intro _
      refine (holds_read _).seq ?_
      intro c
      exact (holds_countdown _ _).seq (fun _ => Triple.same)

theorem internalConnect_reached
    (hSingle : port.threadSupport = false)
    (hCb : Harmless (Contract.plain (Sys E) Event) callback)
    (fuel : Nat) :
    Triple (Contract.plain (Sys E) Event)
      (Holds (At .connecting (TableIs table)))
      (internalConnect port fuel callback none)
      (fun rc =>
        Holds (At .connecting (fun f l =>
          f.table = table ∧
            (rc = .success →
              Reached table [] none f l)))) := by
  refine Triple.bind
    (M := fun rc =>
      Holds (At .connecting (fun f l =>
        f.table = table ∧
          (rc = .success → Reached table [] none f l)))) ?_ ?_
  · refine Triple.step ?_
    intro w hAt
    refine Or.inr ⟨hAt.1, hAt.2, ?_⟩
    intro hRc
    refine ⟨hAt.2, ?_⟩
    simp only [List.cons_append, List.nil_append, progress]
    rw [if_pos hRc]
  intro rc
  refine Triple.ite (fun _ => Triple.same) ?_
  intro hRc
  refine
    (connectExchange_reached hSingle hCb fuel).conseq
      (A := Holds (At .connecting (Reached table [] none)))
      ?_ ?_
  · intro w hAt
    exact ⟨hAt.1, hAt.2.2 (not_not.mp hRc)⟩
  · intro rc w hAt
    exact ⟨hAt.1, hAt.2.1, fun _ => hAt.2⟩

/-
  After a connect, a client that is idle has a new connection
  on which nothing was subscribed yet.
-/
theorem connect_reached
    (hSingle : port.threadSupport = false)
    (hCb : Harmless (Contract.plain (Sys E) Event) callback)
    {s : ClientState}
    (hOff : isClientConnected s = false)
    (fuel : Nat) :
    Triple (Contract.plain (Sys E) Event)
      (Holds (At s (TableIs table)))
      (connect port fuel callback none)
      (fun _ =>
        Holds (fun s f l =>
          s = .connectedIdle → Reached table [] none f l)) := by
  refine at_getClientState.bind ?_
  intro clientState
  refine Triple.of_fact ?_
  rintro rfl
  refine Triple.ite ?_ ?_
  · intro _
    refine Triple.ret ?_
    intro w hAt hIdle
    rw [← hAt.1, hIdle] at hOff
    cases hOff
  · intro _
    refine
      (setClientState_of_eq hSingle (fun _ _ _ _ h => h)
        .connecting).bind ?_
    intro rc
    refine Triple.of_fact ?_
    intro _
    refine (internalConnect_reached hSingle hCb fuel).bind ?_
    intro rc
    refine Triple.ite ?_ ?_
    · intro hRc
      refine Triple.bind
        (M := fun _ => Holds (At .connecting (TableIs table)))
        (Triple.step (fun _ h => Or.inr ⟨h.1, h.2.1⟩)) ?_
      intro _
      refine Triple.bind
        (M := fun _ => Holds (At .connecting (TableIs table)))
        (Triple.step (fun _ h => Or.inr h)) ?_
      intro _
      refine
        (setClientState_of_eq hSingle (fun _ _ _ _ h => h)
          .disconnectedError).bind ?_
      intro _
      refine Triple.ret ?_
      intro w hAt hIdle
      rw [hAt.2.1] at hIdle
      cases hIdle
    · intro hRc
      refine Triple.bind
        (M := fun _ =>
          Holds (At .connectedIdle (Reached table [] none)))
        ?_ (fun _ => Triple.ret (fun _ h _ => h.2))
      refine
        (setClientState_of_eq hSingle
          (fun f l e hQuiet hReached =>
            hReached.cons (isProgress_of_quiet hQuiet))
          .connectedIdle).conseq ?_ (fun _ _ h => h.2)
      intro w hAt
      exact ⟨hAt.1, hAt.2.2 (not_not.mp hRc)⟩

theorem resubscribe_reached
    (hSingle : port.threadSupport = false)
    (hCb : Harmless (Contract.plain (Sys E) Event) callback)
    (fuel : Nat) :
    Triple (Contract.plain (Sys E) Event)
      (Holds (Reached table [] none).cond)
      (resubscribe port fuel callback)
      (fun rc w =>
        rc = .success → Holds (Completed table).cond w) := by
  refine (holds_read _).bind ?_
  intro seen
  refine Triple.ite ?_ ?_
  · intro _
    exact Triple.ret (fun _ _ hNo => by cases hNo)
  intro _
  refine (holds_read _).bind ?_
  intro clientState
  refine Triple.ite ?_ ?_
  · intro _
    exact Triple.ret (fun _ _ hNo => by cases hNo)
  intro _
  refine
    (setClientState_in hSingle
      (fun f l e hQuiet hReached =>
        hReached.cons (isProgress_of_quiet hQuiet))
      _ _ trivial).bind ?_
  intro rc
  refine Triple.ite ?_ ?_
  · intro hRc
    exact Triple.ret (fun _ _ hYes => absurd hYes hRc)
  intro _
  exact
    withClientState_success hSingle
      (fun f l e hQuiet hCompleted =>
        hCompleted.cons (isProgress_of_quiet hQuiet))
      (internalResubscribe_reached hSingle hCb fuel)

/-
  A client that reports that it is connected again has sent
  the leading slots of its table.
-/
theorem attemptReconnect_completed
    (hSingle : port.threadSupport = false)
    (hCb : Harmless (Contract.plain (Sys E) Event) callback)
    (fuel : Nat) :
    Triple (Contract.plain (Sys E) Event)
      (Holds (TableIs table).cond)
      (attemptReconnect port fuel callback)
      (fun rc w =>
        rc = .networkReconnected →
          Holds (Completed table).cond w) := by
  refine in_pre ?_
  intro s _
  refine at_getClientState.bind ?_
  intro seen
  refine Triple.of_fact ?_
  rintro rfl
  refine Triple.ite ?_ ?_
  · intro _
    exact Triple.ret (fun _ _ hNo => by cases hNo)
  intro hOn
  have hOff : isClientConnected seen = false := by
    simpa using hOn
  refine (connect_reached hSingle hCb hOff fuel).bind ?_
  intro _
  refine Triple.bind
    (M := fun clientState w =>
      clientState = .connectedIdle →
        Holds (Reached table [] none).cond w)
    (Triple.read (fun _ h hIdle => ⟨trivial, h hIdle⟩)) ?_
  intro clientState
  refine Triple.ite ?_ ?_
  · intro _
    refine Triple.anything.bind ?_
    intro _
    refine Triple.bind (M := fun _ _ => True) ?_
      (fun _ => Triple.ret (fun _ _ hNo => by cases hNo))
    exact Triple.anything.pre (fun _ _ => trivial)
  intro hIdle
  refine
    (((resubscribe_reached hSingle hCb fuel).and_plain
      (resubscribe_ne_networkReconnected hSingle fuel)).pre
        (fun _ h => ⟨h (not_not.mp hIdle), trivial⟩)).bind ?_
  intro rc
  refine Triple.ite ?_ ?_
  · intro hRc
    exact Triple.ret (fun _ h hYes => absurd hYes h.2)
  · intro hRc
    exact Triple.ret (fun _ h _ => h.1 (not_not.mp hRc))

end Mqtt

end TrustOnboard
