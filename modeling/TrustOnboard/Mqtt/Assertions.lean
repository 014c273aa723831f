import TrustOnboard.Program.Triple
import TrustOnboard.Mqtt.Packets
import TrustOnboard.Mqtt.Operations

/-
  Assertions about the client and the rules for its
  primitives.

  An assertion may speak of the client state, of the handler
  table and the buffer sizes, and of the log.  Everything
  else of the client (buffers, timers, counters) is out of
  its reach, so that the steps which only touch those keep
  every assertion.

  Key definitions include:
    * `Frame`
    * `Fact`
    * `Cond`
    * `Holds`
    * `In`
    * `At`

  Key results include:
    * `holds_modifyClient`
    * `setClientState_of_eq`
    * `setClientState_of_ne`
    * `setClientState_in`
    * `holds_serialize`
-/

------------------------------------------------------------
-- Assertions
------------------------------------------------------------

namespace TrustOnboard

namespace Mqtt

variable {E : Type}

/- The part of the client an assertion may speak of. -/
structure Frame where
  table : List MessageHandlers
  writeBufSize : Nat
  readBufSize : Nat

def Client.frame (c : Client) : Frame where
  table := c.messageHandlers
  writeBufSize := c.writeBufSize
  readBufSize := c.readBufSize

/- An assertion that does not depend on the client state. -/
abbrev Fact := Frame → List Event → Prop

/- An assertion that may depend on the client state. -/
abbrev Cond := ClientState → Fact

/- The world satisfies the assertion. -/
def Holds (K : Cond) (w : Run E) : Prop :=
  K w.st.client.clientState w.st.client.frame w.log

/- The client is in one of the states and the fact holds. -/
def In (φ : ClientState → Prop) (I : Fact) : Cond :=
  fun s f l => φ s ∧ I f l

/- The client is in the given state and the fact holds. -/
abbrev At (s : ClientState) (I : Fact) : Cond :=
  In (fun s' => s' = s) I

/- One of two assertions holds. -/
def Cond.or (K L : Cond) : Cond :=
  fun s f l => K s f l ∨ L s f l

/-
  Events that no assertion used here depends on: answers of
  timers, state changes that were tried, messages handed over
  and the course of a reconnect.
-/
def Event.quiet : Event → Bool
  | .timerChecked _ _ => true
  | .setState _ _ _ => true
  | .setStateBusy _ _ _ => true
  | .stateRollback _ => true
  | .deliver _ _ _ _ => true
  | .backOffStarted => true
  | .reconnectFailed _ _ => true
  | _ => false

end Mqtt

end TrustOnboard

------------------------------------------------------------
-- Primitives
------------------------------------------------------------

namespace TrustOnboard

namespace Mqtt

variable {E : Type}
variable {C : Contract (Sys E) Event}
variable {K : Cond}
variable {port : Port E}

/- Reading the state changes nothing. -/
theorem holds_read
    {α : Type}
    (f : Sys E → α) :
    Triple C (Holds K) (Prog.read f)
      (fun _ => Holds K) :=
  Triple.read (fun _ hK => hK)

/- A change outside the reach of assertions. -/
theorem holds_modifyClient
    {f : Client → Client}
    (hState : ∀ c, (f c).clientState = c.clientState)
    (hFrame : ∀ c, (f c).frame = c.frame) :
    Triple C (Holds K) (modifyClient f : Code E Unit)
      (fun _ => Holds K) := by
  refine Triple.modify ?_
  intro w hK
  unfold Holds
  simp only [hState, hFrame]
  exact hK

theorem holds_countdown
    (timer : TimerName)
    (span : Nat) :
    Triple C (Holds K) (countdown port timer span)
      (fun _ => Holds K) :=
  Triple.modify (fun _ hK => hK)

theorem holds_hasTimerExpired
    (hQuiet :
      ∀ s f l e, Event.quiet e = true → K s f l →
        K s f (e :: l))
    (timer : TimerName) :
    Triple C (Holds K) (hasTimerExpired port timer)
      (fun _ => Holds K) :=
  Triple.step
    (fun _ hK => Or.inr (hQuiet _ _ _ _ rfl hK))

/- A quiet event is recorded. -/
theorem holds_emit
    (hQuiet :
      ∀ s f l e, Event.quiet e = true → K s f l →
        K s f (e :: l))
    {event : Sys E → Event}
    (hKind : ∀ s, (event s).quiet = true) :
    Triple C (Holds K) (Prog.emit event)
      (fun _ => Holds K) :=
  Triple.emit
    (fun _ hK => Or.inr (hQuiet _ _ _ _ (hKind _) hK))

theorem holds_netIsConnected :
    Triple C (Holds K) (netIsConnected port)
      (fun _ => Holds K) :=
  Triple.step (fun _ hK => Or.inr hK)

theorem holds_getNextPacketId :
    Triple C (Holds K) (getNextPacketId : Code E UInt16)
      (fun _ => Holds K) :=
  Triple.step (fun _ hK => Or.inr hK)

theorem holds_modifyMessages
    (f : List MessageParams → List MessageParams) :
    Triple C (Holds K) (modifyMessages f : Code E Unit)
      (fun _ => Holds K) :=
  Triple.modify (fun _ hK => hK)

theorem holds_assignPacketId
    (params : PublishParams) :
    Triple C (Holds K)
      (assignPacketId params : Code E UInt16)
      (fun _ => Holds K) := by
  refine holds_getNextPacketId.bind ?_
  intro id
  exact (holds_modifyMessages _).bind (fun _ => Triple.same)

theorem holds_startCommandTimer :
    Triple C (Holds K) (startCommandTimer port)
      (fun _ => Holds K) :=
  (holds_read _).seq (fun _ => holds_countdown _ _)

/- Treat each of the states an assertion allows. -/
theorem in_pre
    {α : Type}
    {φ : ClientState → Prop}
    {I : Fact}
    {p : Code E α}
    {Q : α → Run E → Prop}
    (hEach :
      ∀ s, φ s → Triple C (Holds (At s I)) p Q) :
    Triple C (Holds (In φ I)) p Q := by
  intro w hIn
  exact hEach _ hIn.1 w ⟨rfl, hIn.2⟩

/- Treat both alternatives of an assertion. -/
theorem or_pre
    {α : Type}
    {K L : Cond}
    {p : Code E α}
    {Q : α → Run E → Prop}
    (hLeft : Triple C (Holds K) p Q)
    (hRight : Triple C (Holds L) p Q) :
    Triple C (Holds (K.or L)) p Q :=
  Triple.or_pre hLeft hRight

/- The value of the state read under `At`. -/
theorem at_getClientState
    {s : ClientState}
    {I : Fact} :
    Triple C (Holds (At s I))
      (getClientState : Code E ClientState)
      (fun a w => a = s ∧ Holds (At s I) w) :=
  Triple.read (fun _ hAt => ⟨hAt.1, hAt⟩)

/-
  What encoding achieved: the packet is at the start of the
  transmit buffer, or the code is one of the encoder's.
-/
def Encoded
    (r : Client → Serialized)
    (res : Except IoTError Nat)
    (w : Run E) : Prop :=
  match res with
  | .error rc => ∃ c, r c = some (.error rc)
  | .ok n => Sendable (w.st.client.writeBuf.load 0 n)

/- The run of an encoder that accepts. -/
theorem serialize_run
    {r : Client → Serialized}
    {w : Run E}
    {bs : Bytes}
    (hEnc : r w.st.client = some (.ok bs)) :
    (serialize r : Code E _).run w =
      (some (.ok bs.length),
        ⟨{ w.st with
            client :=
              { w.st.client with
                writeBuf :=
                  w.st.client.writeBuf.store 0 bs } },
          w.log⟩) := by
  unfold serialize
  have hRead :
      (getClient : Code E Client).run w =
        (some w.st.client, w) := rfl
  rw [Prog.run_bind_of_run hRead]
  dsimp only
  rw [hEnc]
  rfl

theorem holds_serialize
    {r : Client → Serialized}
    (hHalt : ∀ w : Run E, Holds K w → C.halted w)
    (hEnc : Encodes r) :
    Triple C (Holds K) (serialize r : Code E _)
      (fun res w => Encoded r res w ∧ Holds K w) := by
  intro w hK
  unfold serialize
  have hRead :
      (getClient : Code E Client).run w =
        (some w.st.client, w) := rfl
  rw [Prog.run_bind_of_run hRead]
  cases hEncoded : r w.st.client with
  | none => exact Or.inr (hHalt w hK)
  | some res =>
      cases res with
      | error rc => exact Or.inr ⟨⟨_, hEncoded⟩, hK⟩
      | ok bs =>
          refine Or.inr ⟨?_, hK⟩
          have hLoad :=
            w.st.client.writeBuf.load_store_self 0 bs
          have hSend := hEnc _ _ hEncoded
          rw [← hLoad] at hSend
          exact hSend

end Mqtt

end TrustOnboard

------------------------------------------------------------
-- State Changes
------------------------------------------------------------

namespace TrustOnboard

namespace Mqtt

variable {E : Type}
variable {C : Contract (Sys E) Event}
variable {port : Port E}

/- Without threads no mutex is compiled in. -/
theorem lockMutex_single
    (hSingle : port.threadSupport = false)
    (m : Mutex) :
    lockMutex port m = pure .success := by
  simp [lockMutex, hSingle]

theorem unlockMutex_single
    (hSingle : port.threadSupport = false)
    (m : Mutex) :
    unlockMutex port m = pure .success := by
  simp [unlockMutex, hSingle]

/- Without threads a state change is one action. -/
theorem setClientState_single
    (hSingle : port.threadSupport = false)
    (expected new : ClientState) :
    setClientState port expected new =
      compareAndSetState expected new := by
  simp [setClientState, lockMutex_single hSingle,
    unlockMutex_single hSingle, Prog.bind_ret]

/- Without threads only the rounds of a send remain. -/
theorem sendPacket_single
    (hSingle : port.threadSupport = false)
    (fuel length : Nat)
    (timer : TimerName) :
    sendPacket port fuel length timer =
      (do
        let c ← getClient
        if length ≥ c.writeBufSize then
          pure .mqttTxBufferTooShortError
        else do
          let sent ← sendRounds port fuel length timer
          if sent = length then do
            Prog.emit (fun s =>
              .txPacket (s.client.writeBuf.load 0 length))
            pure .success
          else
            pure .failure) := by
  simp only [sendPacket, lockMutex_single hSingle,
    unlockMutex_single hSingle, Prog.pure_eq, Prog.ret_bind,
    ne_eq, not_true_eq_false, if_false]

/- Without threads a cycle reads and dispatches. -/
theorem cycleRead_single
    (hSingle : port.threadSupport = false)
    (fuel : Nat)
    (callback : Callback E)
    (timer : TimerName) :
    cycleRead port fuel callback timer =
      (do
        let r ← readPacket port fuel
        if r.1 = .mqttNothingToRead then
          pure (.success, r.2)
        else if r.1 ≠ .success then
          pure (r.1, r.2)
        else
          match r.2 with
          | none => pure (r.1, r.2)
          | some type => do
              let rc ←
                dispatchPacket port fuel callback timer type
              pure (rc, r.2)) := by
  simp only [cycleRead, lockMutex_single hSingle,
    unlockMutex_single hSingle]
  rfl

/- The state is the expected one. -/
theorem setClientState_of_eq
    (hSingle : port.threadSupport = false)
    {s : ClientState}
    {I : Fact}
    (hQuiet :
      ∀ f l e, Event.quiet e = true → I f l →
        I f (e :: l))
    (new : ClientState) :
    Triple C (Holds (At s I))
      (setClientState port s new)
      (fun rc w =>
        rc = .success ∧ Holds (At new I) w) := by
  rw [setClientState_single hSingle]
  refine Triple.step ?_
  intro w hAt
  refine Or.inr ?_
  rcases hAt with ⟨hState, hI⟩
  simp only [hState, if_true]
  exact ⟨trivial, rfl, hQuiet _ _ _ rfl hI⟩

/- The state is not the expected one. -/
theorem setClientState_of_ne
    (hSingle : port.threadSupport = false)
    {expected : ClientState}
    {K : Cond}
    (hQuiet :
      ∀ s f l e, Event.quiet e = true → K s f l →
        K s f (e :: l))
    (hNe : ∀ s f l, K s f l → s ≠ expected)
    (new : ClientState) :
    Triple C (Holds K)
      (setClientState port expected new)
      (fun rc w =>
        rc = .mqttUnexpectedClientStateError ∧
          Holds K w) := by
  rw [setClientState_single hSingle]
  refine Triple.step ?_
  intro w hK
  refine Or.inr ?_
  have hState : expected ≠ w.st.client.clientState :=
    fun hEq => hNe _ _ _ hK hEq.symm
  simp only [hState, if_false]
  exact ⟨trivial, hQuiet _ _ _ _ rfl hK⟩

/- The state may or may not be the expected one. -/
theorem setClientState_in
    (hSingle : port.threadSupport = false)
    {φ : ClientState → Prop}
    {I : Fact}
    (hQuiet :
      ∀ f l e, Event.quiet e = true → I f l →
        I f (e :: l))
    (expected new : ClientState)
    (hNew : φ new) :
    Triple C (Holds (In φ I))
      (setClientState port expected new)
      (fun _ => Holds (In φ I)) := by
  rw [setClientState_single hSingle]
  refine Triple.step ?_
  intro w hIn
  refine Or.inr ?_
  by_cases hState : expected = w.st.client.clientState
  · simp only [hState, if_true]
    exact ⟨hNew, hQuiet _ _ _ rfl hIn.2⟩
  · simp only [hState, if_false]
    exact ⟨hIn.1, hQuiet _ _ _ rfl hIn.2⟩

/- An assignment to the state. -/
theorem in_assignClientState
    {φ : ClientState → Prop}
    {I : Fact}
    (new : ClientState) :
    Triple C (Holds (In φ I))
      (assignClientState new : Code E Unit)
      (fun _ => Holds (At new I)) :=
  Triple.modify (fun _ hIn => ⟨rfl, hIn.2⟩)

end Mqtt

end TrustOnboard
