import TrustOnboard.Mqtt.Assertions

/-
  The footprint of the transfer of one packet: neither the
  client state nor the frame changes, only events of the one
  direction are recorded, and a packet that was transferred
  as a whole is the last of them.

  Key definitions include:
    * `Event.isInput`
    * `Event.isOutput`
    * `Transfers`
    * `OnlyLocks`
    * `Received`
    * `Sent`

  Key results include:
    * `in_readPacket_received`
    * `in_readPacket`
    * `in_sendPacket_sent`
    * `in_sendPacket`
    * `holds_serialize_packet`
    * `in_sendSerialized_sent`
-/

------------------------------------------------------------
-- Footprints
------------------------------------------------------------

namespace TrustOnboard

namespace Mqtt

variable {E : Type}

/- The events of reading bytes. -/
def Event.isInput : Event → Bool
  | .netRead _ _ _ _ => true
  | .rxStore _ _ => true
  | _ => false

/- The events of reading a packet. -/
def Event.isReceive : Event → Bool
  | .rxPacket _ => true
  | e => e.isInput

/- The events of writing bytes, under a timer. -/
def Event.isOutput : Event → Bool
  | .netWrite _ _ _ => true
  | .timerChecked _ _ => true
  | _ => false

/- The events of sending a packet. -/
def Event.isTransmit : Event → Bool
  | .txPacket _ => true
  | e => e.isOutput

theorem isReceive_of_quiet
    {e : Event}
    (hQuiet : e.quiet = true) :
    e.isReceive = false := by
  cases e <;>
    simp_all [Event.quiet, Event.isReceive, Event.isInput]

theorem isReceive_of_isOutput
    {e : Event}
    (hOutput : e.isOutput = true) :
    e.isReceive = false := by
  cases e <;>
    simp_all [Event.isOutput, Event.isReceive, Event.isInput]

/- A step that only transfers, with events of one kind. -/
def Transfers
    (kind : Event → Bool)
    (s s' : Sys E)
    (es : List Event) : Prop :=
  s'.client.clientState = s.client.clientState ∧
    s'.client.frame = s.client.frame ∧
      s'.client.writeBuf = s.client.writeBuf ∧
        ∀ e ∈ es, kind e = true

theorem uses_hasTimerExpired
    (port : Port E)
    (timer : TimerName) :
    (hasTimerExpired port timer).Uses
      (Transfers Event.isOutput) := by
  apply Prog.Uses.step
  intro s
  refine ⟨rfl, rfl, rfl, ?_⟩
  intro e he
  rw [List.mem_singleton.mp he]
  rfl

theorem uses_netRead
    (port : Port E)
    (site : ReadSite)
    (target : Option Nat)
    (n : Nat) :
    (netRead port site target n).Uses
      (Transfers Event.isInput) := by
  refine Prog.Uses.step ?_
  intro s
  cases target with
  | none =>
      refine ⟨rfl, rfl, rfl, ?_⟩
      intro e he
      rw [List.mem_singleton.mp he]
      rfl
  | some off =>
      refine ⟨rfl, rfl, rfl, ?_⟩
      intro e he
      simp only [List.mem_cons, List.not_mem_nil,
        or_false] at he
      rcases he with rfl | rfl
      · rfl
      · rfl

theorem uses_decodePacketRemainingLen
    (port : Port E)
    (fuel : Nat) :
    (decodePacketRemainingLen port fuel).Uses
      (Transfers Event.isInput) := by
  refine Prog.Uses.loop ?_
  intro v
  dsimp only
  split
  · exact Prog.Uses.pure _
  · refine Prog.Uses.bind (uses_netRead _ _ _ _) ?_
    intro r
    cases r with
    | success bs h =>
        dsimp only
        split
        · exact Prog.Uses.pure _
        · exact Prog.Uses.pure _
    | nothingToRead h => exact Prog.Uses.pure _
    | readTimeout bs hPos h => exact Prog.Uses.pure _
    | readError bs h => exact Prog.Uses.pure _

theorem uses_drainPacket
    (port : Port E)
    (fuel remLen readBufSize : Nat) :
    (drainPacket port fuel remLen readBufSize).Uses
      (Transfers Event.isInput) := by
  refine Prog.Uses.loop ?_
  intro v
  refine Prog.Uses.bind (uses_netRead _ _ _ _) ?_
  intro r
  cases r with
  | success bs h =>
      dsimp only
      split
      · exact Prog.Uses.pure _
      · exact Prog.Uses.pure _
  | nothingToRead h => exact Prog.Uses.pure _
  | readTimeout bs hPos h => exact Prog.Uses.pure _
  | readError bs h => exact Prog.Uses.pure _

theorem uses_readBody
    (port : Port E)
    (len remLen : Nat) :
    (readBody port len remLen).Uses
      (Transfers Event.isInput) := by
  unfold readBody
  split
  · refine Prog.Uses.bind (uses_netRead _ _ _ _) ?_
    intro r
    cases r with
    | success bs h => exact Prog.Uses.pure _
    | nothingToRead h => exact Prog.Uses.pure _
    | readTimeout bs hPos h => exact Prog.Uses.pure _
    | readError bs h => exact Prog.Uses.pure _
  · exact Prog.Uses.pure _

theorem uses_storeRemainingLen
    (lenBytes : Bytes) :
    (storeRemainingLen lenBytes : Code E Unit).Uses
      (Transfers Event.isInput) := by
  refine Prog.Uses.step ?_
  intro s
  refine ⟨rfl, rfl, rfl, ?_⟩
  intro e he
  rw [List.mem_singleton.mp he]
  rfl

/- A step that changes at most which mutexes are held. -/
def OnlyLocks (s s' : Sys E) (es : List Event) : Prop :=
  (∃ held, s'.client = { s.client with locked := held }) ∧
    es = []

theorem uses_lockMutex_only
    (port : Port E)
    (m : Mutex) :
    (lockMutex port m).Uses OnlyLocks := by
  unfold lockMutex
  split
  · refine Prog.Uses.bind
      (Prog.Uses.step (fun s => ⟨⟨s.client.locked, rfl⟩, rfl⟩))
      ?_
    intro c
    split
    · exact
        Prog.Uses.bind
          (Prog.Uses.await (fun s => ⟨⟨_, rfl⟩, rfl⟩))
          (fun _ => Prog.Uses.pure _)
    · apply Prog.Uses.step
      intro s
      dsimp only
      split
      · exact ⟨⟨_, rfl⟩, rfl⟩
      · exact ⟨⟨s.client.locked, rfl⟩, rfl⟩
  · exact Prog.Uses.pure _

theorem uses_unlockMutex_only
    (port : Port E)
    (m : Mutex) :
    (unlockMutex port m).Uses OnlyLocks := by
  unfold unlockMutex
  split
  · exact
      Prog.Uses.bind
        (Prog.Uses.step (fun s => ⟨⟨_, rfl⟩, rfl⟩))
        (fun _ => Prog.Uses.pure _)
  · exact Prog.Uses.pure _

/- What a run that only changes mutexes leaves alone. -/
theorem run_onlyLocks
    {α : Type}
    {p : Code E α}
    (hUses : p.Uses OnlyLocks)
    {w w' : Run E}
    {result : Option α}
    (hRun : p.run w = (result, w')) :
    w'.log = w.log ∧
      ∃ held, w'.st.client =
        { w.st.client with locked := held } := by
  have hKept :=
    hUses.final (G := fun _ => True)
      (I := fun w₁ =>
        w₁.log = w.log ∧
          ∃ held, w₁.st.client =
            { w.st.client with locked := held })
      (fun _ _ _ => trivial)
      (by
        rintro s s' es l ⟨⟨held, hStep⟩, rfl⟩ _
          ⟨hLog, held', hClient⟩
        refine ⟨hLog, held, ?_⟩
        rw [hStep, hClient])
      (w := w) ⟨rfl, w.st.client.locked, rfl⟩ trivial
  rw [hRun] at hKept
  exact hKept

/- Taking a mutex shows nothing. -/
theorem uses_lockMutex
    (port : Port E)
    (m : Mutex) :
    (lockMutex port m).Uses
      (fun s s' es =>
        s'.client.frame = s.client.frame ∧ es = []) := by
  apply (uses_lockMutex_only port m).mono
  rintro s s' es ⟨⟨held, hClient⟩, hNone⟩
  rw [hClient]
  exact ⟨rfl, hNone⟩

theorem uses_sendRounds
    (port : Port E)
    (fuel length : Nat)
    (timer : TimerName) :
    (sendRounds port fuel length timer).Uses
      (Transfers Event.isOutput) := by
  refine Prog.Uses.loop ?_
  intro sent
  split
  · refine Prog.Uses.bind (uses_hasTimerExpired _ _) ?_
    intro expired
    split
    · exact Prog.Uses.pure _
    · refine Prog.Uses.bind ?_ ?_
      · refine Prog.Uses.step ?_
        intro s
        refine ⟨rfl, rfl, rfl, ?_⟩
        intro e he
        rw [List.mem_singleton.mp he]
        rfl
      · intro r
        split
        · exact Prog.Uses.pure _
        · exact Prog.Uses.pure _
  · exact Prog.Uses.pure _

end Mqtt

end TrustOnboard

------------------------------------------------------------
-- What Transfers Keep
------------------------------------------------------------

namespace TrustOnboard

namespace Mqtt

variable {E : Type}
variable {C : Contract (Sys E) Event}
variable {port : Port E}
variable {φ : ClientState → Prop}
variable {I : Fact}

/- A fact that survives all events of one kind. -/
theorem fact_append
    {kind : Event → Bool}
    (hEvent :
      ∀ f l e, kind e = true → I f l → I f (e :: l))
    (f : Frame)
    (l es : List Event)
    (hKind : ∀ e ∈ es, kind e = true)
    (hI : I f l) :
    I f (es ++ l) := by
  induction es with
  | nil => exact hI
  | cons e es ih =>
      refine hEvent f (es ++ l) e (hKind e (by simp)) ?_
      exact ih (fun e' he' => hKind e' (by simp [he']))

/- The transmit buffer is kept as well. -/
theorem in_of_transfers
    {α : Type}
    {kind : Event → Bool}
    {p : Code E α}
    (hUses : p.Uses (Transfers kind))
    (hHalt :
      ∀ w : Run E, I w.st.client.frame w.log → C.halted w)
    (hEvent :
      ∀ f l e, kind e = true → I f l → I f (e :: l))
    (A : Buffer → Prop) :
    Triple C
      (fun w =>
        A w.st.client.writeBuf ∧ Holds (In φ I) w) p
      (fun _ w =>
        A w.st.client.writeBuf ∧ Holds (In φ I) w) := by
  refine hUses.triple (fun w hIn => hHalt w hIn.2.2) ?_
  intro s s' es l hStep hIn
  rcases hStep with ⟨hState, hFrame, hBuf, hKind⟩
  unfold Holds at *
  dsimp only at *
  rw [hState, hFrame, hBuf]
  exact
    ⟨hIn.1, hIn.2.1,
      fact_append hEvent _ _ _ hKind hIn.2.2⟩

/- The same without the buffer. -/
theorem in_of_input
    {α : Type}
    {p : Code E α}
    (hUses : p.Uses (Transfers Event.isInput))
    (hHalt :
      ∀ w : Run E, I w.st.client.frame w.log → C.halted w)
    (hEvent :
      ∀ f l e, Event.isInput e = true → I f l →
        I f (e :: l)) :
    Triple C (Holds (In φ I)) p
      (fun _ => Holds (In φ I)) :=
  (in_of_transfers hUses hHalt hEvent
    (fun _ => True)).conseq
      (fun _ h => ⟨trivial, h⟩) (fun _ _ h => h.2)

end Mqtt

end TrustOnboard

------------------------------------------------------------
-- Reading A Packet
------------------------------------------------------------

namespace TrustOnboard

namespace Mqtt

variable {E : Type}
variable {C : Contract (Sys E) Event}
variable {port : Port E}
variable {φ : ClientState → Prop}
variable {I : Fact}

/-
  A fact, and on top of it a packet of the given type if one
  was read.
-/
def Received (type : Option UInt8) (I : Fact) : Fact :=
  match type with
  | none => I
  | some t => fun f l =>
      ∃ packet l',
        l = .rxPacket packet :: l' ∧
          packetType packet = t ∧ I f l'

theorem in_readContents_received
    (hHalt :
      ∀ w : Run E, I w.st.client.frame w.log → C.halted w)
    (hEvent :
      ∀ f l e, Event.isInput e = true → I f l →
        I f (e :: l))
    (remLen : Nat) :
    Triple C (Holds (In φ I)) (readContents port remLen)
      (fun r => Holds (In φ (Received r.2 I))) := by
  refine
    (in_of_input (uses_storeRemainingLen _) hHalt
      hEvent).bind ?_
  intro _
  refine
    (in_of_input (uses_readBody _ _ _) hHalt hEvent).bind ?_
  intro complete
  refine Triple.ite ?_ ?_
  · intro _
    refine Triple.bind
      (M := fun c w =>
        c = w.st.client ∧ Holds (In φ I) w)
      (Triple.read (fun _ h => ⟨rfl, h⟩)) ?_
    intro c
    refine Triple.bind
      (M := fun _ =>
        Holds (In φ (Received
          (some (headerType (c.readBuf 0))) I))) ?_
      (fun _ => Triple.same)
    refine Triple.emit ?_
    rintro w ⟨rfl, hIn⟩
    refine Or.inr ⟨hIn.1, _, _, rfl, ?_, hIn.2⟩
    rw [Nat.add_assoc, Nat.add_comm, Buffer.load_succ]
    rfl
  · intro _
    exact Triple.same

/- Reading a packet leaves it as the last event. -/
theorem in_readPacket_received
    (hHalt :
      ∀ w : Run E, I w.st.client.frame w.log → C.halted w)
    (hEvent :
      ∀ f l e, Event.isInput e = true → I f l →
        I f (e :: l))
    (fuel : Nat) :
    Triple C (Holds (In φ I)) (readPacket port fuel)
      (fun r => Holds (In φ (Received r.2 I))) := by
  refine (holds_read _).bind ?_
  intro c
  refine (holds_countdown _ _).bind ?_
  intro _
  refine
    (in_of_input (uses_netRead _ _ _ _) hHalt hEvent).bind ?_
  intro r
  cases r with
  | nothingToRead h => exact Triple.same
  | readTimeout bs hPos h => exact Triple.same
  | readError bs h => exact Triple.same
  | success bs h =>
      refine
        (in_of_input (uses_decodePacketRemainingLen _ _)
          hHalt hEvent).bind ?_
      intro decoded
      cases decoded with
      | error rc => exact Triple.same
      | ok remLen =>
          refine (holds_read _).bind ?_
          intro c
          refine Triple.ite ?_ ?_
          · intro _
            exact
              (in_of_input (uses_drainPacket _ _ _ _) hHalt
                hEvent).bind (fun _ => Triple.same)
          · intro _
            exact in_readContents_received hHalt hEvent _

theorem in_readPacket
    (hHalt :
      ∀ w : Run E, I w.st.client.frame w.log → C.halted w)
    (hEvent :
      ∀ f l e, Event.isReceive e = true → I f l →
        I f (e :: l))
    (fuel : Nat) :
    Triple C (Holds (In φ I)) (readPacket port fuel)
      (fun _ => Holds (In φ I)) := by
  refine
    (in_readPacket_received hHalt ?_ fuel).post ?_
  · intro f l e hInput hI
    refine hEvent f l e ?_ hI
    cases e <;> simp_all [Event.isInput, Event.isReceive]
  · intro r w hIn
    refine ⟨hIn.1, ?_⟩
    have hLast := hIn.2
    cases hType : r.2 with
    | none =>
        rw [hType] at hLast
        exact hLast
    | some t =>
        rw [hType] at hLast
        rcases hLast with ⟨packet, l', hLog, _, hI⟩
        rw [hLog]
        exact hEvent _ _ _ rfl hI

end Mqtt

end TrustOnboard

------------------------------------------------------------
-- Sending A Packet
------------------------------------------------------------

namespace TrustOnboard

namespace Mqtt

variable {E : Type}
variable {C : Contract (Sys E) Event}
variable {port : Port E}
variable {φ : ClientState → Prop}
variable {I : Fact}

/- A fact, and on top of it the packet if it was sent. -/
def Sent
    (rc : IoTError)
    (packet : Bytes)
    (I : Fact) : Fact :=
  fun f l =>
    if rc = .success then
      ∃ l', l = .txPacket packet :: l' ∧ I f l'
    else I f l

/- Sending a packet leaves it as the last event. -/
theorem in_sendPacket_sent
    (hSingle : port.threadSupport = false)
    (hHalt :
      ∀ w : Run E, I w.st.client.frame w.log → C.halted w)
    (hEvent :
      ∀ f l e, Event.isOutput e = true → I f l →
        I f (e :: l))
    (fuel length : Nat)
    (timer : TimerName)
    (packet : Bytes) :
    Triple C
      (fun w =>
        w.st.client.writeBuf.load 0 length = packet ∧
          Holds (In φ I) w)
      (sendPacket port fuel length timer)
      (fun rc => Holds (In φ (Sent rc packet I))) := by
  rw [sendPacket_single hSingle]
  refine Triple.seq (Triple.read (fun _ h => h)) ?_
  intro c
  refine Triple.ite ?_ ?_
  · intro _
    exact Triple.ret (fun _ h => h.2)
  · intro _
    refine
      (in_of_transfers (uses_sendRounds _ _ _ _) hHalt hEvent
        (fun b => b.load 0 length = packet)).bind ?_
    intro sent
    refine Triple.ite ?_ ?_
    · intro _
      refine Triple.bind
        (M := fun _ =>
          Holds (In φ (Sent .success packet I))) ?_
        (fun _ => Triple.same)
      refine Triple.emit ?_
      rintro w ⟨hPacket, hIn⟩
      rw [hPacket]
      exact Or.inr ⟨hIn.1, _, rfl, hIn.2⟩
    · intro _
      exact Triple.ret (fun _ h => h.2)

theorem in_sendPacket
    (hSingle : port.threadSupport = false)
    (hHalt :
      ∀ w : Run E, I w.st.client.frame w.log → C.halted w)
    (hEvent :
      ∀ f l e, Event.isTransmit e = true → I f l →
        I f (e :: l))
    (fuel length : Nat)
    (timer : TimerName) :
    Triple C (Holds (In φ I))
      (sendPacket port fuel length timer)
      (fun _ => Holds (In φ I)) := by
  intro w hIn
  refine
    ((in_sendPacket_sent hSingle hHalt ?_ fuel length timer
      (w.st.client.writeBuf.load 0 length)).post ?_) w
        ⟨rfl, hIn⟩
  · intro f l e hOutput hI
    refine hEvent f l e ?_ hI
    cases e <;> simp_all [Event.isOutput, Event.isTransmit]
  · intro rc w' hSent
    refine ⟨hSent.1, ?_⟩
    have hLast := hSent.2
    unfold Sent at hLast
    split at hLast
    · rcases hLast with ⟨l', hLog, hI⟩
      rw [hLog]
      exact hEvent _ _ _ rfl hI
    · exact hLast

/- An encoder that fails says so in its code. -/
def FailsWithError (r : Client → Serialized) : Prop :=
  ∀ c rc, r c = some (.error rc) → rc ≠ .success

/-
  Encode a packet: it is at the start of the transmit buffer,
  or the code is an error.
-/
theorem holds_serialize_packet
    {K : Cond}
    {r : Client → Serialized}
    (hHalt : ∀ w : Run E, Holds K w → C.halted w)
    (hError : FailsWithError r) :
    Triple C (Holds K) (serialize r : Code E _)
      (fun res w =>
        match res with
        | .error rc => rc ≠ .success ∧ Holds K w
        | .ok n =>
            ∃ c packet,
              r c = some (.ok packet) ∧
                w.st.client.writeBuf.load 0 n = packet ∧
                  Holds K w) := by
  intro w hK
  unfold serialize
  have hRead :
      (getClient : Code E Client).run w =
        (some w.st.client, w) := rfl
  rw [Prog.run_bind_of_run hRead]
  cases hEncoded : r w.st.client with
  | none => exact Or.inr (hHalt w hK)
  | some res =>
      cases res with
      | error rc => exact Or.inr ⟨hError _ _ hEncoded, hK⟩
      | ok packet =>
          refine Or.inr ⟨_, packet, hEncoded, ?_, hK⟩
          exact
            w.st.client.writeBuf.load_store_self 0 packet

/- Encode and send: the packet is one the encoder gave. -/
theorem in_sendSerialized_sent
    (hSingle : port.threadSupport = false)
    (hHalt :
      ∀ w : Run E, I w.st.client.frame w.log → C.halted w)
    (hEvent :
      ∀ f l e, Event.isOutput e = true → I f l →
        I f (e :: l))
    {r : Client → Serialized}
    (hError : FailsWithError r)
    (fuel : Nat)
    (timer : TimerName) :
    Triple C (Holds (In φ I))
      (sendSerialized port fuel timer r)
      (fun rc w =>
        (rc ≠ .success ∧ Holds (In φ I) w) ∨
          (rc = .success ∧
            ∃ c packet,
              r c = some (.ok packet) ∧
                Holds (In φ (Sent .success packet I)) w)) := by
  refine
    (holds_serialize_packet (fun w hIn => hHalt w hIn.2)
      hError).bind ?_
  intro res
  cases res with
  | error rc => exact Triple.ret (fun _ h => Or.inl h)
  | ok n =>
      refine Triple.exists_pre ?_
      intro c
      refine Triple.exists_pre ?_
      intro packet
      refine Triple.of_fact ?_
      intro hEncoded
      refine
        (in_sendPacket_sent hSingle hHalt hEvent fuel n timer
          packet).post ?_
      intro rc w hSent
      by_cases hRc : rc = .success
      · subst hRc
        exact Or.inr ⟨rfl, c, packet, hEncoded, hSent⟩
      · refine Or.inl ⟨hRc, hSent.1, ?_⟩
        have hLast := hSent.2
        unfold Sent at hLast
        rw [if_neg hRc] at hLast
        exact hLast

end Mqtt

end TrustOnboard
