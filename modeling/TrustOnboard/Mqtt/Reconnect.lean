import TrustOnboard.Mqtt.Network
import TrustOnboard.Mqtt.Resubscribe

/-
  Resubscription with callbacks that call the client.

  While the client resubscribes, message callbacks may change
  the handler table.  Every slot that is in use at the end was
  either sent by the loop or filled by a subscribe of a
  callback, as long as the table had no holes when the loop
  started and no callback replaces the connection.

  Key definitions include:
    * `sentOn`
    * `ackedOn`
    * `Event.replacesConnection`
    * `loopRegime`

  Key results include:
    * `loopRegime_tableLaws`
    * `resubscribe_acked`
    * `resubscribed_iff_compact`
-/

------------------------------------------------------------
-- Requests On The Connection In Use
------------------------------------------------------------

namespace TrustOnboard

namespace Mqtt

/- A SUBSCRIBE with the entry was sent on the connection. -/
def sentOn (entry : Bytes) : List Event → Prop
  | [] => False
  | .netConnect rc :: l =>
      if rc = .success then False else sentOn entry l
  | .txPacket packet :: l =>
      requestEntry packet = some entry ∨ sentOn entry l
  | _ :: l => sentOn entry l

/- It was sent, and a SUBACK was read after it. -/
def ackedOn (entry : Bytes) : List Event → Prop
  | [] => False
  | .netConnect rc :: l =>
      if rc = .success then False else ackedOn entry l
  | .rxPacket packet :: l =>
      (packetType packet = MessageType.suback.nibble ∧
          sentOn entry l) ∨
        ackedOn entry l
  | _ :: l => ackedOn entry l

/- The connection is closed by a callback or opened anew. -/
def Event.replacesConnection (e : Event) : Bool :=
  e.opensConnection || e.isDisconnectInWait

theorem sentOn_cons
    {entry : Bytes}
    {e : Event}
    (hSame : e.opensConnection = false)
    {l : List Event}
    (hSent : sentOn entry l) :
    sentOn entry (e :: l) := by
  cases e with
  | netConnect rc =>
      have hRc : rc ≠ .success := by
        simpa [Event.opensConnection] using hSame
      simpa [sentOn, hRc] using hSent
  | txPacket packet => exact Or.inr hSent
  | _ => exact hSent

theorem ackedOn_cons
    {entry : Bytes}
    {e : Event}
    (hSame : e.opensConnection = false)
    {l : List Event}
    (hAcked : ackedOn entry l) :
    ackedOn entry (e :: l) := by
  cases e with
  | netConnect rc =>
      have hRc : rc ≠ .success := by
        simpa [Event.opensConnection] using hSame
      simpa [ackedOn, hRc] using hAcked
  | rxPacket packet => exact Or.inr hAcked
  | _ => exact hAcked

/- A request followed by a SUBACK. -/
theorem ackedOn_append
    {entry request : Bytes}
    (hEntry : requestEntry request = some entry)
    {after : List Event}
    (hSame : ∀ e ∈ after, e.opensConnection = false)
    (hRead : packetsRead .suback after ≠ [])
    (l : List Event) :
    ackedOn entry (after ++ .txPacket request :: l) := by
  have hSent :
      ∀ es : List Event,
        (∀ e ∈ es, e.opensConnection = false) →
          sentOn entry (es ++ .txPacket request :: l) := by
    intro es hEs
    induction es with
    | nil => exact Or.inl hEntry
    | cons e es ih =>
        exact
          sentOn_cons (hEs e (by simp))
            (ih (fun e' he' => hEs e' (by simp [he'])))
  induction after with
  | nil => exact absurd rfl hRead
  | cons e es ih =>
      have hRest : ∀ e' ∈ es, e'.opensConnection = false :=
        fun e' he' => hSame e' (by simp [he'])
      by_cases hSome : packetsRead .suback es = []
      · by_cases hPacket : ∃ packet, e = .rxPacket packet
        · rcases hPacket with ⟨packet, rfl⟩
          refine Or.inl ⟨?_, hSent es hRest⟩
          by_contra hType
          simp [packetsRead, hType, hSome] at hRead
        · rw [packetsRead_cons
            (fun packet hEq => hPacket ⟨packet, hEq⟩)]
            at hRead
          exact absurd hSome hRead
      · exact
          ackedOn_cons (hSame e (by simp)) (ih hRest hSome)

end Mqtt

end TrustOnboard

------------------------------------------------------------
-- The Regime Of The Loop
------------------------------------------------------------

namespace TrustOnboard

namespace Mqtt

variable {E : Type}
variable {port : Port E}

/- A slot in use that satisfies a condition. -/
def EachUsed
    (table : List MessageHandlers)
    (P : Nat → MessageHandlers → Prop) : Prop :=
  ∀ j slot, table[j]? = some slot → slot.used = true →
    P j slot

/-
  Since the loop started no connection was opened, and every
  slot in use was acknowledged or satisfies `P`.
-/
def Covered
    (l₁ : List Event)
    (P : Nat → MessageHandlers → Prop) : Fact :=
  fun f l =>
    ∃ es,
      l = es ++ l₁ ∧
        (∀ e ∈ es, e.opensConnection = false) ∧
          EachUsed f.table (fun j slot =>
            (∃ entry, slot.entry = some entry ∧
              ackedOn entry l) ∨ P j slot)

theorem Covered.cons
    {l₁ : List Event}
    {P : Nat → MessageHandlers → Prop}
    {f : Frame}
    {l : List Event}
    {e : Event}
    (hSame : e.opensConnection = false)
    (hCovered : Covered l₁ P f l) :
    Covered l₁ P f (e :: l) := by
  rcases hCovered with ⟨es, rfl, hEs, hEach⟩
  refine ⟨e :: es, rfl, ?_, ?_⟩
  · intro e' he'
    rcases List.mem_cons.mp he' with rfl | he'
    · exact hSame
    · exact hEs e' he'
  · intro j slot hSlot hUsed
    rcases hEach j slot hSlot hUsed with
      ⟨entry, hEntry, hAcked⟩ | hP
    · exact
        Or.inl ⟨entry, hEntry, ackedOn_cons hSame hAcked⟩
    · exact Or.inr hP

theorem Covered.mono
    {l₁ : List Event}
    {P Q : Nat → MessageHandlers → Prop}
    {f : Frame}
    {l : List Event}
    (hSub : ∀ j slot, P j slot → Q j slot)
    (hCovered : Covered l₁ P f l) :
    Covered l₁ Q f l := by
  rcases hCovered with ⟨es, hLog, hEs, hEach⟩
  refine ⟨es, hLog, hEs, ?_⟩
  intro j slot hSlot hUsed
  rcases hEach j slot hSlot hUsed with hAcked | hP
  · exact Or.inl hAcked
  · exact Or.inr (hSub j slot hP)

/- Runs are followed until the connection is replaced. -/
def sameConnection (l₁ : List Event) :
    Contract (Sys E) Event where
  excused := fun l =>
    ∃ es, l = es ++ l₁ ∧
      ∃ e ∈ es, Event.replacesConnection e = true
  excused_append := by
    intro l es hBad
    rcases hBad with ⟨es', rfl, e, hMem, hKind⟩
    exact ⟨es ++ es', by simp, e, by simp [hMem], hKind⟩
  halted := fun _ => True

/-
  The regime of one round of the loop.  `P` describes the
  slots that are still to be sent.
-/
def loopRegime
    (l₁ : List Event)
    (P : Nat → MessageHandlers → Prop) : Regime E where
  contract := sameConnection l₁
  live := Covered l₁ P
  down := fun _ l => ∃ es, l = es ++ l₁
  cut := False
  allowed := fun _ => True

variable {l₁ : List Event}
variable {P : Nat → MessageHandlers → Prop}

theorem loopRegime_mode
    {I : Fact}
    (hMode : (loopRegime (E := E) l₁ P).Mode I) :
    I = Covered l₁ P := by
  rcases hMode with hEq | ⟨hNo, _⟩
  · exact hEq
  · exact hNo.elim

/- An event that replaces the connection excuses the run. -/
theorem excused_of_replaces
    {e : Event}
    (hKind : e.replacesConnection = true)
    {l : List Event}
    (hExt : ∃ es, l = es ++ l₁) :
    (sameConnection (E := E) l₁).excused (e :: l) := by
  rcases hExt with ⟨es, rfl⟩
  exact ⟨e :: es, rfl, e, by simp, hKind⟩

theorem Covered.extends
    {f : Frame}
    {l : List Event}
    (hCovered : Covered l₁ P f l) :
    ∃ es, l = es ++ l₁ := by
  rcases hCovered with ⟨es, hLog, _⟩
  exact ⟨es, hLog⟩

theorem loopRegime_lawful
    (hSingle : port.threadSupport = false) :
    (loopRegime (E := E) l₁ P).Lawful port where
  single := hSingle
  halt_live := fun _ _ => trivial
  halt_down := fun _ _ => trivial
  neutral_live := fun _ _ _ hE hCovered =>
    hCovered.cons (opens_of_neutral hE)
  neutral_down := fun _ l e _ hExt => extends_cons l e hExt
  read := by
    intro φ I fuel hMode
    rw [loopRegime_mode hMode]
    exact
      in_readPacket (fun _ _ => trivial)
        (fun _ _ _ hE hCovered =>
          hCovered.cons (opens_of_receive hE)) fuel
  send := by
    intro φ I fuel length timer hMode
    rw [loopRegime_mode hMode]
    exact
      (in_sendPacket hSingle (fun _ _ => trivial)
        (fun _ _ _ hE hCovered =>
          hCovered.cons (opens_of_transmit hE)) fuel length
        timer).pre (fun _ h => h.2)
  connected := fun _ _ hExt =>
    Or.inl (excused_of_replaces rfl hExt)
  refused := fun _ l _ _ hExt => extends_cons l _ hExt
  destroyed := by
    intro f l site rc found _ hEither
    refine extends_cons l _ ?_
    rcases hEither with hCovered | hExt
    · exact hCovered.extends
    · exact hExt
  destroyedCut := fun _ _ _ _ hNo _ => hNo.elim
  closed := by
    intro I f l found hMode hI
    rw [loopRegime_mode hMode] at hI
    exact extends_cons l _ hI.extends
  notClosed := by
    intro I f l rc found hMode _ hI
    rw [loopRegime_mode hMode] at hI ⊢
    exact Or.inr (hI.cons rfl)
  handlerConnected := fun _ l _ _ hCovered =>
    Or.inr (extends_cons l _ hCovered.extends)
  handlerDisconnected := fun _ l _ hExt =>
    extends_cons l _ hExt
  ret_live := fun _ _ _ _ _ hCovered => hCovered.cons rfl
  ret_down := fun _ l _ _ _ hExt => extends_cons l _ hExt
  uncut := fun _ _ _ _ hCovered =>
    excused_of_replaces rfl hCovered.extends
  calls := fun _ _ _ _ _ _ => trivial
  reset := by
    intro f l hEither
    refine Or.inr (extends_cons l _ ?_)
    rcases hEither with hCovered | hExt
    · exact hCovered.extends
    · exact hExt

end Mqtt

end TrustOnboard

------------------------------------------------------------
-- Subscribe And Unsubscribe In Callbacks
------------------------------------------------------------

namespace TrustOnboard

namespace Mqtt

variable {E : Type}
variable {port : Port E}
variable {l₁ : List Event}
variable {P : Nat → MessageHandlers → Prop}

/-
  A request that succeeded is acknowledged, when no connection
  was opened meanwhile.
-/
theorem ackedOn_of_requested
    {topic : Option CString}
    {topicLen : UInt16}
    {qos : QoS}
    {handler : Option HandlerId}
    {data : Nat}
    {l l₀ : List Event}
    {f f' : Frame}
    {Q : Nat → MessageHandlers → Prop}
    (hStart : ∃ es, l₀ = es ++ l₁)
    (hCovered : Covered l₁ Q f l)
    (hReq :
      Requested (.subscribe topic topicLen qos handler data)
        l₀ (fun after => packetsRead .suback after ≠ []) f'
        l) :
    ∃ entry,
      subscribeEntry topic topicLen qos = some entry ∧
        ackedOn entry l := by
  rcases hStart with ⟨es₀, rfl⟩
  rcases hCovered with ⟨es, hLog, hEs, _⟩
  rcases hReq with
    ⟨txBufLen, id, request, before, after, hEnc, hSplit, _,
      hRead⟩
  rcases requestEntry_subscribe hEnc with
    ⟨entry, hEntry, hRequest⟩
  refine ⟨entry, hEntry, ?_⟩
  have hParts :
      es = after ++ .txPacket request :: (before ++ es₀) := by
    rw [hLog] at hSplit
    refine (List.append_left_inj l₁).mp ?_
    simpa using hSplit
  rw [hSplit]
  refine ackedOn_append hRequest ?_ hRead _
  intro e he
  apply hEs
  rw [hParts]
  simp [he]

/- The store of a subscription that is still to be covered. -/
theorem covered_set
    {f : Frame}
    {l : List Event}
    (index : Nat)
    (entry : MessageHandlers)
    (hCovered : Covered l₁ P f l) :
    Covered l₁
      (fun j slot => P j slot ∨ slot.entry = entry.entry)
      { f with table := f.table.set index entry } l := by
  rcases hCovered with ⟨es, hLog, hEs, hEach⟩
  refine ⟨es, hLog, hEs, ?_⟩
  intro j slot hSlot hUsed
  by_cases hIndex : index = j
  · subst hIndex
    rw [List.getElem?_set_self'] at hSlot
    rcases Option.map_eq_some_iff.mp hSlot with
      ⟨_, _, rfl⟩
    exact Or.inr (Or.inr rfl)
  · rw [List.getElem?_set_ne hIndex] at hSlot
    rcases hEach j slot hSlot hUsed with hAcked | hP
    · exact Or.inl hAcked
    · exact Or.inr (Or.inl hP)

/- Freeing slots leaves the others covered. -/
theorem covered_removeFilter
    {f : Frame}
    {l : List Event}
    (filter : Option CString)
    (hCovered : Covered l₁ P f l) :
    Covered l₁ P
      { f with table := removeFilter filter f.table } l := by
  rcases hCovered with ⟨es, hLog, hEs, hEach⟩
  refine ⟨es, hLog, hEs, ?_⟩
  intro j slot hSlot hUsed
  unfold removeFilter at hSlot
  rw [List.getElem?_map] at hSlot
  rcases Option.map_eq_some_iff.mp hSlot with
    ⟨old, hOld, hEq⟩
  by_cases hHolds : old.holds filter = true
  · rw [if_pos hHolds] at hEq
    subst hEq
    cases hUsed
  · rw [if_neg hHolds] at hEq
    subst hEq
    exact hEach j old hOld hUsed

/- The subscription of a callback covers its own slot. -/
theorem covered_of_acked
    {f : Frame}
    {l : List Event}
    {entry : Bytes}
    {expected : Option Bytes}
    (hEntry : expected = some entry)
    (hAcked : ackedOn entry l)
    (hCovered :
      Covered l₁
        (fun j slot => P j slot ∨ slot.entry = expected)
        f l) :
    Covered l₁ P f l := by
  rcases hCovered with ⟨es, hLog, hEs, hEach⟩
  refine ⟨es, hLog, hEs, ?_⟩
  intro j slot hSlot hUsed
  rcases hEach j slot hSlot hUsed with hDone | hP | hSame
  · exact Or.inl hDone
  · exact Or.inr hP
  · exact Or.inl ⟨entry, hSame.trans hEntry, hAcked⟩

/-
  What is covered when a subscribe returns: on success its own
  slot still has to be found acknowledged.
-/
def CoveredBut
    (l₁ : List Event)
    (P : Nat → MessageHandlers → Prop)
    (expected : Option Bytes)
    (rc : IoTError) : Fact :=
  Covered l₁
    (fun j slot =>
      P j slot ∨ (rc = .success ∧ slot.entry = expected))

theorem coveredBut_of_failure
    {expected : Option Bytes}
    {s : ClientState}
    (rc : IoTError)
    (w : Run E)
    (hPhase :
      Holds ((loopRegime (E := E) l₁ P).Phase s
        (Covered l₁ P)) w) :
    Holds ((loopRegime (E := E) l₁ P).Phase s
      (CoveredBut l₁ P expected rc)) w := by
  rcases at_of_phase (fun h => h) hPhase with
    ⟨hState, hCovered⟩
  exact
    Or.inl
      ⟨hState, hCovered.mono (fun _ _ hP => Or.inl hP)⟩

/- The subscribe of a callback, up to its own slot. -/
theorem subscribe_coveredBut
    (hR : (loopRegime (E := E) l₁ P).Lawful port)
    {callback : Callback E}
    (hCb : (loopRegime (E := E) l₁ P).Reentry callback true)
    {s : ClientState}
    (hReady : s.isReady = true)
    (fuel : Nat)
    (topic : Option CString)
    (topicLen : UInt16)
    (qos : QoS)
    (handler : Option HandlerId)
    (data : Nat) :
    Triple (sameConnection l₁)
      (Holds (At s (Covered l₁ P)))
      (subscribe port fuel callback topic topicLen qos
        handler data)
      (fun rc =>
        Holds ((loopRegime (E := E) l₁ P).Phase s
          (CoveredBut l₁ P
            (subscribeEntry topic topicLen qos) rc))) := by
  refine Triple.ite ?_ ?_
  · intro _
    exact
      Triple.ret (fun w hAt =>
        coveredBut_of_failure _ w (Or.inl hAt))
  · intro _
    refine
      hR.enterOperation Regime.live_mode ?_ ?_ rfl hReady ?_
    · intro rc f l e hQuiet hCovered
      exact
        hCovered.cons
          (opens_of_neutral (Regime.neutral_of_quiet hQuiet))
    · intro rc f l _ hCovered
      exact
        Covered.mono (fun _ _ hP => Or.inl hP) hCovered
    · refine
        (hR.keptInWaits hCb Regime.live_mode
          _).internalSubscribe
            (fun rc w _ => coveredBut_of_failure rc w) fuel
            topic topicLen qos handler data ?_
      intro _ f _ _ _
      refine Triple.step ?_
      intro w hPhase
      rcases at_of_phase (fun h => h) hPhase with
        ⟨hState, hCovered⟩
      refine Or.inr (Or.inl ⟨hState, ?_⟩)
      have hSet :=
        (covered_set
          (getFreeMessageHandlerIndex f.table)
          { topicName := topic
            topicNameLen := topicLen
            qos := qos
            pApplicationHandler := handler
            pApplicationHandlerData := data }
          hCovered).mono
            (Q := fun j slot =>
              P j slot ∨
                (IoTError.success = .success ∧
                  slot.entry =
                    subscribeEntry topic topicLen qos))
            (fun _ _ hP => hP.imp_right (fun h => ⟨rfl, h⟩))
      dsimp only
      cases w.st.client.messageHandlers[
          getFreeMessageHandlerIndex f.table]? with
      | none => exact hSet
      | some previous => exact hSet.cons rfl

/- The subscribe of a callback covers its own slot. -/
theorem subscribe_covered
    (hR : (loopRegime (E := E) l₁ P).Lawful port)
    {callback : Callback E}
    (hCb : (loopRegime (E := E) l₁ P).Reentry callback true)
    {s : ClientState}
    (hReady : s.isReady = true)
    (fuel : Nat)
    (topic : Option CString)
    (topicLen : UInt16)
    (qos : QoS)
    (handler : Option HandlerId)
    (data : Nat) :
    Triple (sameConnection l₁)
      (Holds (At s (Covered l₁ P)))
      (subscribe port fuel callback topic topicLen qos
        handler data)
      (fun _ => Holds (At s (Covered l₁ P))) := by
  intro w hAt
  have hWaits :
      WaitsFor port callback
        (.subscribe topic topicLen qos handler data) w.log
        .suback (fun _ => True)
        (fun after => packetsRead .suback after ≠ []) :=
    waitsFor_some hR.single
  have hBoth :=
    (subscribe_coveredBut hR hCb hReady fuel topic topicLen
      qos handler data).and_plain
      (hWaits.subscribe hR.single fuel)
  refine
    (hBoth.post ?_) w
      ⟨hAt, trivial, [], rfl, fun _ h => by cases h⟩
  rintro rc w' ⟨hPhase, hReq⟩
  rcases at_of_phase (fun h => h) hPhase with
    ⟨hState, hCovered⟩
  refine ⟨hState, ?_⟩
  by_cases hRc : rc = .success
  · rcases
      ackedOn_of_requested hAt.2.extends hCovered
        (hReq hRc).2 with ⟨entry, hEntry, hAcked⟩
    exact
      covered_of_acked hEntry hAcked
        (hCovered.mono
          (fun _ _ hP => hP.imp_right (fun h => h.2)))
  · refine hCovered.mono ?_
    rintro j slot (hP | ⟨hYes, _⟩)
    · exact hP
    · exact absurd hYes hRc

/- The unsubscribe of a callback frees covered slots. -/
theorem unsubscribe_covered
    (hR : (loopRegime (E := E) l₁ P).Lawful port)
    {callback : Callback E}
    (hCb : (loopRegime (E := E) l₁ P).Reentry callback true)
    {s : ClientState}
    (hReady : s.isReady = true)
    (fuel : Nat)
    (filter : Option CString)
    (filterLen : UInt16) :
    Triple (sameConnection l₁)
      (Holds (At s (Covered l₁ P)))
      (unsubscribe port fuel callback filter filterLen)
      (fun _ => Holds (At s (Covered l₁ P))) := by
  refine Triple.ite (fun _ => Triple.same) ?_
  intro _
  refine
    (hR.enterOperation (J := fun _ => Covered l₁ P)
      Regime.live_mode (fun _ => hR.quiet_live)
      (fun _ _ _ _ h => h) rfl hReady ?_).post
      (fun _ _ h => at_of_phase (fun h => h) h)
  refine
    (hR.keptInWaits hCb Regime.live_mode
      _).internalUnsubscribe (fun _ _ _ h => h) fuel filter
        filterLen ?_
  intro _ _ _ _ _
  refine Triple.modify ?_
  intro w hPhase
  rcases at_of_phase (fun h => h) hPhase with
    ⟨hState, hCovered⟩
  exact
    Or.inl ⟨hState, covered_removeFilter filter hCovered⟩

/- The record of a return changes nothing. -/
theorem logReturn_covered
    {s : ClientState}
    {c : ApiCall}
    {body : Code E IoTError}
    (hBody :
      Triple (sameConnection l₁)
        (Holds (At s (Covered l₁ P))) body
        (fun _ => Holds (At s (Covered l₁ P)))) :
    Triple (sameConnection l₁)
      (Holds (At s (Covered l₁ P))) (logReturn c body)
      (fun _ =>
        Holds ((loopRegime (E := E) l₁ P).Phase s
          (Covered l₁ P))) :=
  (Regime.holds_logReturn (φ := fun _ => True)
    (fun _ _ _ _ _ hAt => ⟨hAt.1, hAt.2.cons rfl⟩)
    (hBody.post (fun _ _ h => ⟨trivial, h⟩))).post
    (fun _ _ h => Or.inl h)

theorem loopRegime_tableLaws
    (hR : (loopRegime (E := E) l₁ P).Lawful port) :
    (loopRegime (E := E) l₁ P).TableLaws port where
  subscribe := by
    intro callback I s fuel topic topicLen qos handler data
      hCb hMode hReady
    rw [loopRegime_mode hMode]
    exact
      logReturn_covered
        (subscribe_covered hR hCb hReady fuel topic topicLen
          qos handler data)
  unsubscribe := by
    intro callback I s fuel filter filterLen hCb hMode hReady
    rw [loopRegime_mode hMode]
    exact
      logReturn_covered
        (unsubscribe_covered hR hCb hReady fuel filter
          filterLen)

end Mqtt

end TrustOnboard

------------------------------------------------------------
-- The Loop
------------------------------------------------------------

namespace TrustOnboard

namespace Mqtt

variable {E : Type}
variable {port : Port E}
variable {l₁ : List Event}

/- The slots from `i` on that the loop still has to send. -/
def FromSlot (i n : Nat) : Nat → MessageHandlers → Prop :=
  fun j _ => i ≤ j ∧ j < n

/- The slot that is being sent, and those after it. -/
def Sending
    (i n : Nat)
    (sent : MessageHandlers) :
    Nat → MessageHandlers → Prop :=
  fun j slot =>
    (j = i ∧ slot = sent) ∨ FromSlot (i + 1) n j slot

/- Nothing is left to be sent. -/
def NoSlot : Nat → MessageHandlers → Prop :=
  fun _ _ => False

/-
  One slot is sent and acknowledged.  Callbacks may change
  the table meanwhile, also the slot itself.
-/
theorem subscribeExchange_covered
    (hSingle : port.threadSupport = false)
    (i n : Nat)
    (sent : MessageHandlers)
    (s : ClientState)
    (fuel depth : Nat)
    (packetId : UInt16) :
    Triple (sameConnection l₁)
      (Holds (At s (Covered l₁ (Sending i n sent))))
      (subscribeExchange port fuel
        (runCallback port (api port depth true)) packetId
        sent.topicName sent.topicNameLen sent.qos)
      (fun rc w =>
        rc = .success →
          Holds (At s (Covered l₁ (FromSlot (i + 1) n)))
            w) := by
  intro w hAt
  have hR :
      (loopRegime (E := E) l₁ (Sending i n sent)).Lawful
        port :=
    loopRegime_lawful hSingle
  have hCb :=
    hR.reentry_of_callSpec
      (hR.callSpec (loopRegime_tableLaws hR) depth) true
  have hWaits :
      WaitsFor port (runCallback port (api port depth true))
        (.subscribe sent.topicName sent.topicNameLen sent.qos
          none 0) w.log .suback (fun _ => True)
        (fun after => packetsRead .suback after ≠ []) :=
    waitsFor_some hSingle
  have hPlain :
      Triple (Contract.plain (Sys E) Event)
        (Holds (Unsent w.log).cond)
        (subscribeExchange port fuel
          (runCallback port (api port depth true)) packetId
          sent.topicName sent.topicNameLen sent.qos)
        (fun rc w' =>
          rc = .success →
            Holds (Requested
              (.subscribe sent.topicName sent.topicNameLen
                sent.qos none 0) w.log
              (fun after =>
                packetsRead .suback after ≠ [])).cond w') := by
    refine
      hWaits.exchange
        (hWaits.sendRequest hSingle fuel packetId) ?_ fuel
    intro cl
    split
    · exact Triple.same
    · exact Triple.same
  have hBoth :=
    ((hR.keptInWaits hCb Regime.live_mode s).subscribeExchange
      fuel packetId sent.topicName sent.topicNameLen
      sent.qos).and_plain hPlain
  refine
    (hBoth.post ?_) w
      ⟨Or.inl hAt, trivial, [], rfl, fun _ h => by cases h⟩
  rintro rc w' ⟨hPhase, hReq⟩ hRc
  rcases at_of_phase (fun h => h) hPhase with
    ⟨hState, hCovered⟩
  rcases
    ackedOn_of_requested hAt.2.extends hCovered
      (hReq hRc).2 with ⟨entry, hEntry, hAcked⟩
  refine ⟨hState, covered_of_acked hEntry hAcked ?_⟩
  refine hCovered.mono ?_
  rintro j slot (⟨_, rfl⟩ | hLater)
  · exact Or.inr rfl
  · exact Or.inl hLater

/-
  Every slot in use at the end was sent by the loop or filled
  by a callback.  The induction is on the slots that are left.
-/
theorem resubscribeSlots_covered
    (hSingle : port.threadSupport = false)
    (s : ClientState)
    (fuel depth i k : Nat) :
    Triple (sameConnection l₁)
      (Holds (At s (Covered l₁ (FromSlot i (i + k)))))
      (resubscribeSlots port fuel
        (runCallback port (api port depth true))
        (List.range' i k))
      (fun rc w =>
        rc = .success →
          Holds (At s (Covered l₁ NoSlot)) w) := by
  induction k generalizing i with
  | zero =>
      refine Triple.ret ?_
      intro w hAt _
      refine ⟨hAt.1, hAt.2.mono ?_⟩
      rintro j slot ⟨hLow, hHigh⟩
      omega
  | succ k ih =>
      rw [List.range'_succ]
      refine holds_startCommandTimer.bind ?_
      intro _
      refine holds_getNextPacketId.bind ?_
      intro packetId
      refine Triple.bind
        (M := fun c =>
          Holds (At s (fun f l =>
            f.table = c.messageHandlers ∧
              Covered l₁ (FromSlot i (i + (k + 1))) f l)))
        (Triple.read (fun _ h => ⟨h.1, rfl, h.2⟩)) ?_
      intro c
      cases hSlot : c.messageHandlers[i]? with
      | none => exact Triple.stop (fun _ _ => trivial)
      | some sent =>
          refine
            ((subscribeExchange_covered hSingle i
              (i + (k + 1)) sent s fuel depth
              packetId).pre ?_).bind ?_
          · rintro w ⟨hState, hTable, es, hLog, hEs, hEach⟩
            refine ⟨hState, es, hLog, hEs, ?_⟩
            intro j slot hGet hUsed
            rcases hEach j slot hGet hUsed with
              hAcked | ⟨hLow, hHigh⟩
            · exact Or.inl hAcked
            · refine Or.inr ?_
              rcases Nat.eq_or_lt_of_le hLow with rfl | hLt
              · rw [hTable, hSlot] at hGet
                exact Or.inl ⟨rfl, (Option.some.inj hGet).symm⟩
              · exact Or.inr ⟨hLt, hHigh⟩
          · intro rc
            refine Triple.ite ?_ ?_
            · intro hRc
              exact
                Triple.ret (fun _ _ hYes => absurd hYes hRc)
            · intro hRc
              have hCount : i + (k + 1) = i + 1 + k := by
                omega
              rw [hCount]
              exact
                (ih (i + 1)).pre
                  (fun _ h => h (not_not.mp hRc))

/- In a compact table the slots in use come first. -/
theorem lt_leading_of_compact
    {table : List MessageHandlers}
    (hCompact : Compact table)
    {j : Nat}
    {slot : MessageHandlers}
    (hSlot : table[j]? = some slot)
    (hUsed : slot.used = true) :
    j < (leading table).length := by
  induction table generalizing j with
  | nil => simp at hSlot
  | cons head rest ih =>
      rcases List.pairwise_cons.mp hCompact with
        ⟨hHead, hRest⟩
      have hFirst : head.used = true := by
        cases j with
        | zero =>
            rw [List.getElem?_cons_zero] at hSlot
            rw [Option.some.inj hSlot]
            exact hUsed
        | succ j =>
            rw [List.getElem?_cons_succ] at hSlot
            exact
              hHead slot (List.mem_of_getElem? hSlot) hUsed
      unfold leading at ih ⊢
      rw [List.takeWhile_cons_of_pos hFirst,
        List.length_cons]
      cases j with
      | zero => omega
      | succ j =>
          rw [List.getElem?_cons_succ] at hSlot
          have hLt := ih hRest hSlot
          omega

/- The loop is about to start on a compact table. -/
def AboutToSend (l₁ : List Event) : Fact :=
  fun f l =>
    Compact f.table ∧
      ∃ es, l = es ++ l₁ ∧
        ∀ e ∈ es, Event.opensConnection e = false

theorem AboutToSend.quiet
    (f : Frame)
    (l : List Event)
    (e : Event)
    (hQuiet : e.quiet = true)
    (hAbout : AboutToSend l₁ f l) :
    AboutToSend l₁ f (e :: l) := by
  rcases hAbout with ⟨hCompact, es, rfl, hEs⟩
  refine ⟨hCompact, e :: es, rfl, ?_⟩
  intro e' hMem
  rcases List.mem_cons.mp hMem with rfl | hMem
  · exact opens_of_neutral (Regime.neutral_of_quiet hQuiet)
  · exact hEs e' hMem

theorem internalResubscribe_covered
    (hSingle : port.threadSupport = false)
    (s : ClientState)
    (fuel depth : Nat) :
    Triple (sameConnection l₁)
      (Holds (At s (AboutToSend l₁)))
      (internalResubscribe port fuel
        (runCallback port (api port depth true)))
      (fun rc w =>
        rc = .success →
          Holds (At s (Covered l₁ NoSlot)) w) := by
  refine Triple.bind
    (M := fun c =>
      Holds (At s (Covered l₁
        (FromSlot 0
          (0 + getFreeMessageHandlerIndex
            c.messageHandlers))))) ?_ ?_
  · refine Triple.read ?_
    rintro w ⟨hState, hCompact, es, hLog, hEs⟩
    refine ⟨hState, es, hLog, hEs, ?_⟩
    intro j slot hSlot hUsed
    refine Or.inr ⟨Nat.zero_le j, ?_⟩
    rw [Nat.zero_add, getFreeMessageHandlerIndex_eq]
    exact lt_leading_of_compact hCompact hSlot hUsed
  · intro c
    dsimp only
    rw [List.range_eq_range']
    exact
      resubscribeSlots_covered hSingle s fuel depth 0 _

/- `aws_iot_mqtt_resubscribe` on a compact table. -/
theorem resubscribe_covered
    (hSingle : port.threadSupport = false)
    (fuel depth : Nat) :
    Triple (sameConnection l₁)
      (Holds (At .connectedIdle (AboutToSend l₁)))
      (resubscribe port fuel
        (runCallback port (api port depth true)))
      (fun rc w =>
        rc = .success →
          Holds (Covered l₁ NoSlot).cond w) := by
  refine at_getClientState.bind ?_
  intro seen
  refine Triple.of_fact ?_
  rintro rfl
  refine Triple.ite ?_ ?_
  · intro _
    exact Triple.ret (fun _ _ hNo => by cases hNo)
  intro _
  refine at_getClientState.bind ?_
  intro clientState
  refine Triple.of_fact ?_
  rintro rfl
  refine Triple.ite ?_ ?_
  · intro _
    exact Triple.ret (fun _ _ hNo => by cases hNo)
  intro _
  refine
    (setClientState_of_eq hSingle AboutToSend.quiet
      .connectedResubscribeInProgress).bind ?_
  intro rc
  refine Triple.of_fact ?_
  rintro rfl
  refine Triple.ite ?_ ?_
  · intro hNo
    exact absurd rfl hNo
  intro _
  refine withClientState_success hSingle ?_ ?_
  · intro f l e hQuiet hCovered
    exact
      hCovered.cons
        (opens_of_neutral (Regime.neutral_of_quiet hQuiet))
  · exact
      (internalResubscribe_covered hSingle _ fuel depth).post
        (fun _ _ h hRc => ⟨trivial, (h hRc).2⟩)

end Mqtt

end TrustOnboard

------------------------------------------------------------
-- A Reconnected Client
------------------------------------------------------------

namespace TrustOnboard

namespace Mqtt

variable {E : Type}
variable {port : Port E}
variable {callback : Callback E}

/-
  A reconnect that is reported consists of a connect that
  left the client idle and a resubscribe that succeeded.
-/
theorem attemptReconnect_run
    (hSingle : port.threadSupport = false)
    {fuel : Nat}
    {w w' : Run E}
    (hRun :
      (attemptReconnect port fuel callback).run w =
        (some .networkReconnected, w')) :
    ∃ rc w₁,
      (connect port fuel callback none).run w =
          (some rc, w₁) ∧
        w₁.st.client.clientState = .connectedIdle ∧
          (resubscribe port fuel callback).run w₁ =
            (some .success, w') := by
  have hRead :
      ∀ v : Run E,
        (getClientState : Code E _).run v =
          (some v.st.client.clientState, v) :=
    fun _ => rfl
  unfold attemptReconnect at hRun
  rw [Prog.run_bind_of_run (hRead w)] at hRun
  split at hRun
  · cases hRun
  rw [Prog.run_bind] at hRun
  cases hConnect :
      (connect port fuel callback none).run w with
  | mk result w₁ =>
      rw [hConnect] at hRun
      cases result with
      | none => cases hRun
      | some rc =>
          dsimp only at hRun
          rw [Prog.run_bind_of_run (hRead w₁)] at hRun
          split at hRun
          case isTrue hBusy =>
            rw [setClientState_single hSingle] at hRun
            cases hRun
          case isFalse hIdle =>
            rw [Prog.run_bind] at hRun
            cases hRes :
                (resubscribe port fuel callback).run w₁ with
            | mk result w₂ =>
                rw [hRes] at hRun
                cases result with
                | none => cases hRun
                | some rc' =>
                    dsimp only at hRun
                    split at hRun
                    case isTrue hRc =>
                      cases hRun
                      rcases
                        (resubscribe_ne_networkReconnected
                          hSingle fuel).of_run trivial
                          hRes with hNo | hNe
                      · exact hNo.elim
                      · exact absurd rfl hNe
                    case isFalse hRc =>
                      have hOk := not_not.mp hRc
                      subst hOk
                      cases hRun
                      exact
                        ⟨rc, w₁, rfl, not_not.mp hIdle, hRes⟩

/- The general part, for callbacks that call the client. -/
theorem resubscribe_acked
    (hSingle : port.threadSupport = false)
    {fuel depth : Nat}
    {w w' : Run E}
    {es : List Event}
    (hIdle : w.st.client.clientState = .connectedIdle)
    (hRun :
      (resubscribe port fuel
        (runCallback port (api port depth true))).run w =
        (some .success, w'))
    (hLog : w'.log = es ++ w.log)
    (hCompact : Compact w.st.client.messageHandlers)
    (hSame : ∀ e ∈ es, Event.replacesConnection e = false) :
    ∀ slot ∈ w'.st.client.messageHandlers,
      slot.used = true →
        ∃ entry,
          slot.entry = some entry ∧
            ackedOn entry w'.log := by
  have hStart :
      Holds (At .connectedIdle (AboutToSend w.log)) w :=
    ⟨hIdle, hCompact, [], rfl, fun _ h => by cases h⟩
  rcases
    (resubscribe_covered hSingle fuel depth).of_run hStart
      hRun with hBad | hPost
  · rcases hBad with ⟨es', hLog', e, hMem, hKind⟩
    rw [hLog] at hLog'
    have hEq := List.append_cancel_right hLog'
    subst hEq
    rw [hSame e hMem] at hKind
    cases hKind
  · rcases (hPost rfl).2 with ⟨_, _, _, hEach⟩
    intro slot hMem hUsed
    rcases List.getElem?_of_mem hMem with ⟨j, hSlot⟩
    rcases hEach j slot hSlot hUsed with hAcked | hNo
    · exact hAcked
    · exact hNo.elim

/-
  A client that reports that it is connected again.  If the
  table had no hole when the loop started and no callback
  replaced the connection since, every slot in use has been
  sent and acknowledged on the new connection.  When callbacks
  make no calls the table is the one found at the start, and
  each of its slots has a packet of its own exactly when the
  table has no hole.
-/
theorem resubscribed_iff_compact
    (port : Port E)
    (hSingle : port.threadSupport = false)
    (fuel depth : Nat)
    (w w' : Run E)
    (hRun :
      (attemptReconnect port fuel
        (runCallback port (api port depth true))).run w =
        (some .networkReconnected, w')) :
    (∃ rc w₁ es,
      (connect port fuel
        (runCallback port (api port depth true)) none).run
          w = (some rc, w₁) ∧
      w'.log = es ++ w₁.log ∧
      (Compact w₁.st.client.messageHandlers →
        (∀ e ∈ es, Event.replacesConnection e = false) →
          ∀ slot ∈ w'.st.client.messageHandlers,
            slot.used = true →
              ∃ entry,
                slot.entry = some entry ∧
                  ackedOn entry w'.log)) ∧
    (QuietCallbacks port →
      w'.st.client.messageHandlers =
          w.st.client.messageHandlers ∧
        (Resubscribed w'.st.client.messageHandlers w'.log ↔
          Compact w.st.client.messageHandlers)) := by
  constructor
  · rcases attemptReconnect_run hSingle hRun with
      ⟨rc, w₁, hConnect, hIdle, hRes⟩
    rcases
      Prog.run_log_suffix
        (resubscribe port fuel
          (runCallback port (api port depth true))) w₁ with
      ⟨es, hLog⟩
    rw [hRes] at hLog
    exact
      ⟨rc, w₁, es, hConnect, hLog,
        resubscribe_acked hSingle hIdle hRes hLog⟩
  · intro hQuiet
    have hStart :
        Holds (TableIs w.st.client.messageHandlers).cond w :=
      ⟨trivial, rfl⟩
    rcases
      (attemptReconnect_completed hSingle
        (harmless_runCallback hQuiet (api port depth true))
        fuel).of_run hStart hRun with hNo | hPost
    · exact hNo.elim
    · have hCompleted := (hPost rfl).2
      have hTable :
          w'.st.client.messageHandlers =
            w.st.client.messageHandlers := by
        rcases hCompleted with ⟨_, _, hTable, _⟩
        exact hTable
      rw [hTable]
      exact ⟨rfl, resubscribed_of_completed hCompleted⟩

/- An UNSUBACK. -/
def unsubackPacket (id : UInt8) : Bytes :=
  [176, 2, 0, id]

/-
  A client is set up, connects, makes some calls, disconnects
  on purpose and is then told to reconnect.
-/
def beforeReconnect (calls : List ApiCall) : List TopCall :=
  [.init (some scriptInit), .api (.connect none)] ++
    calls.map .api ++ [.api .disconnect]

/- The broker answers with the given packets. -/
def answering (packets : List Bytes) : Run Script :=
  scriptStart
    (scriptClient .invalid [freeSlot, freeSlot])
    { Script.idle with
      incoming := [some packets.flatten]
      timers := List.replicate 40 false }

/- One topic is subscribed, and again after the reconnect. -/
def oneTopic : Run Script :=
  ((session quietPort 6
    (beforeReconnect [subscribeLetter 65 upperA_ne])).run
    (answering
      [connackPacket, subackPacket 2, connackPacket,
        subackPacket 3])).2

theorem resubscribed_iff_compact_oneTopic :
    ∃ w',
      (attemptReconnect quietPort 6
        (runCallback quietPort (api quietPort 6 true))).run
          oneTopic = (some .networkReconnected, w') ∧
      Compact oneTopic.st.client.messageHandlers ∧
      (usedEntries w'.st.client.messageHandlers).length = 1 ∧
      Resubscribed w'.st.client.messageHandlers w'.log := by
  have hRun :=
    Prog.run_of_returns (a := IoTError.networkReconnected)
      (p :=
        attemptReconnect quietPort 6
          (runCallback quietPort (api quietPort 6 true)))
      (w := oneTopic) (by decide +kernel)
  have hCompact :
      Compact oneTopic.st.client.messageHandlers := by
    decide +kernel
  have hIff :=
    (resubscribed_iff_compact quietPort rfl 6 6 _ _ hRun).2
      (fun _ _ _ _ => rfl)
  exact
    ⟨_, hRun, hCompact, by decide +kernel,
      hIff.2.mpr hCompact⟩

/-
  Two topics are subscribed and the first is unsubscribed, so
  that the table has a hole.
-/
def holeBeforeTopic : List TopCall :=
  beforeReconnect
    [subscribeLetter 65 upperA_ne,
      subscribeLetter 66 upperB_ne,
      .unsubscribe (some (letter 65 upperA_ne)) 1]

/-
  The client reports that it is connected again, but the
  second topic was not subscribed on the new connection.
-/
theorem holeBeforeTopic_missed :
    ∃ w w',
      (session quietPort 6 holeBeforeTopic).run
        (answering
          [connackPacket, subackPacket 2, subackPacket 3,
            unsubackPacket 4, connackPacket]) =
        (some (), w) ∧
      (attemptReconnect quietPort 6
        (runCallback quietPort (api quietPort 6 true))).run
          w = (some .networkReconnected, w') ∧
      (usedEntries w'.st.client.messageHandlers).length = 1 ∧
      (progress w'.log).done = [] ∧
      ¬ Resubscribed w'.st.client.messageHandlers w'.log := by
  refine
    ⟨_, _, Prog.run_of_returns (by decide +kernel),
      Prog.run_of_returns (by decide +kernel),
      by decide +kernel, by decide +kernel, ?_⟩
  intro hAll
  have hLength := hAll.length_le
  revert hLength
  decide +kernel

end Mqtt

end TrustOnboard
