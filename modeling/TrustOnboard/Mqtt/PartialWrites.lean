import TrustOnboard.Program.History
import TrustOnboard.Mqtt.Footprint
import TrustOnboard.Mqtt.Reading
import TrustOnboard.Mqtt.Script

/-
  The sending of a packet over a network that may take only
  part of what it is offered.

  Every round of the loop offers as many bytes as the packet
  has, from the first byte not yet sent.  After a write that
  takes part of the packet the next one therefore reaches
  past its end.

  Key definitions include:
    * `TakesSome`
    * `SendsExactly`
    * `FirstWriteSettles`

  Key results include:
    * `sendRounds_settled`
    * `sendRounds_past`
    * `sendsExactly_iff`
-/

------------------------------------------------------------
-- What Is Offered And What Is Taken
------------------------------------------------------------

namespace TrustOnboard

namespace Mqtt

variable {E : Type}

/- The bytes a write put on the connection. -/
def Event.taken : Event → Bytes
  | .netWrite _ accepted _ => accepted
  | _ => []

/- All bytes that were put on the connection, in order. -/
def takenBytes (l : List Event) : Bytes :=
  gather Event.taken l

/-
  A write offers the bytes behind those taken so far, and
  none past the length of the packet.
-/
def OfferedInside (length : Nat) : Event → List Event → Prop
  | .netWrite requested _ _, earlier =>
      (takenBytes earlier).length + requested ≤ length
  | _, _ => True

/-
  The network takes at least one byte of what it is offered
  and reports success.
-/
def TakesSome (port : Port E) : Prop :=
  ∀ bs e, bs ≠ [] →
    (port.netWrite bs e).1.rc = .success ∧
      0 < (port.netWrite bs e).1.count

/-
  A run of `send_packet` offers no byte past the packet, and
  success means that exactly the packet was taken.
-/
structure SendsExactly
    (buf : Buffer)
    (length : Nat)
    (result : Option IoTError)
    (es : List Event) : Prop where
  inside : Along (OfferedInside length) es
  whole :
    result = some .success → takenBytes es = buf.load 0 length

/-
  The first write takes the whole packet, unless the timer
  has expired before it or expires right after it.
-/
def FirstWriteSettles
    (port : Port E)
    (timer : TimerName)
    (buf : Buffer)
    (length : Nat)
    (e : E) : Prop :=
  let first := port.hasTimerExpired timer e
  let write := port.netWrite (buf.load 0 length) first.2
  first.1 = true ∨
    write.1.count = length ∨
      (port.hasTimerExpired timer write.2).1 = true

end Mqtt

end TrustOnboard

------------------------------------------------------------
-- The Rounds
------------------------------------------------------------

namespace TrustOnboard

namespace Mqtt

variable {E : Type}
variable {port : Port E}

/- One round of the loop of `send_packet`. -/
def sendRound
    (port : Port E)
    (length : Nat)
    (timer : TimerName)
    (sent : Nat) : Code E (Nat ⊕ Nat) := do
  if sent < length then do
    let expired ← hasTimerExpired port timer
    if expired then
      pure (.inr sent)
    else do
      let r ← netWrite port sent length
      if r.1 ≠ .success then
        pure (.inr sent)
      else
        pure (.inl (sent + r.2))
  else
    pure (.inr sent)

theorem sendRounds_eq
    (port : Port E)
    (fuel length : Nat)
    (timer : TimerName) :
    sendRounds port fuel length timer =
      Prog.loop fuel (sendRound port length timer) 0 :=
  rfl

/- A round behind the end of the packet. -/
theorem sendRound_end
    {length sent : Nat}
    (hEnd : length ≤ sent)
    (timer : TimerName)
    (w : Run E) :
    (sendRound port length timer sent).run w =
      (some (.inr sent), w) := by
  unfold sendRound
  rw [if_neg (by omega)]
  rfl

/- A round whose timer has expired. -/
theorem sendRound_expired
    {length sent : Nat}
    (hMore : sent < length)
    {timer : TimerName}
    {w : Run E}
    (hExpired :
      (port.hasTimerExpired timer w.st.env).1 = true) :
    (sendRound port length timer sent).run w =
      (some (.inr sent),
        ⟨{ w.st with
            env := (port.hasTimerExpired timer w.st.env).2 },
          .timerChecked timer true :: w.log⟩) := by
  unfold sendRound hasTimerExpired
  rw [if_pos hMore, Prog.run_bind, Prog.run_step]
  dsimp only
  rw [hExpired]
  rfl

/- A round that writes. -/
theorem sendRound_write
    (hTakes : TakesSome port)
    {length sent : Nat}
    (hMore : sent < length)
    {timer : TimerName}
    {w : Run E}
    (hOpen :
      (port.hasTimerExpired timer w.st.env).1 = false) :
    (sendRound port length timer sent).run w =
      (some
        (.inl (sent +
          (port.netWrite
            (w.st.client.writeBuf.load sent length)
            (port.hasTimerExpired timer w.st.env).2).1.count)),
        ⟨{ w.st with
            env :=
              (port.netWrite
                (w.st.client.writeBuf.load sent length)
                (port.hasTimerExpired timer
                  w.st.env).2).2 },
          .netWrite length
            ((w.st.client.writeBuf.load sent length).take
              (port.netWrite
                (w.st.client.writeBuf.load sent length)
                (port.hasTimerExpired timer
                  w.st.env).2).1.count) .success ::
            .timerChecked timer false :: w.log⟩) := by
  have hSome :
      w.st.client.writeBuf.load sent length ≠ [] := by
    intro hNil
    have hLength := congrArg List.length hNil
    rw [Buffer.length_load, List.length_nil] at hLength
    omega
  have hRc :=
    (hTakes _ (port.hasTimerExpired timer w.st.env).2
      hSome).1
  unfold sendRound hasTimerExpired netWrite
  rw [if_pos hMore, Prog.run_bind, Prog.run_step]
  dsimp only
  rw [hOpen]
  simp [Prog.run_bind, hRc]

/-
  When the first write settles the matter, the loop offers
  nothing past the packet.
-/
theorem sendRounds_settled
    (hTakes : TakesSome port)
    (fuel length : Nat)
    (timer : TimerName)
    (w : Run E)
    (hSettles :
      FirstWriteSettles port timer w.st.client.writeBuf length
        w.st.env) :
    ∃ es,
      ((sendRounds port fuel length timer).run w).2.log =
          es ++ w.log ∧
        Along (OfferedInside length) es ∧
          (((sendRounds port fuel length timer).run w).1 =
              some length →
            takenBytes es = w.st.client.writeBuf.load 0 length)
    := by
  rw [sendRounds_eq]
  cases fuel with
  | zero =>
      exact ⟨[], rfl, along_nil, fun hNo => by cases hNo⟩
  | succ fuel =>
  rw [Prog.loop_succ]
  by_cases hMore : 0 < length
  · cases hFirst :
        (port.hasTimerExpired timer w.st.env).1 with
    | true =>
        rw [Prog.run_bind_of_run
          (sendRound_expired hMore hFirst)]
        refine
          ⟨[.timerChecked timer true], rfl,
            along_cons.mpr ⟨trivial, along_nil⟩, ?_⟩
        intro hAll
        cases hAll
        omega
    | false =>
        rw [Prog.run_bind_of_run
          (sendRound_write hTakes hMore hFirst)]
        obtain ⟨r, hr⟩ :
            ∃ r, port.netWrite
                (w.st.client.writeBuf.load 0 length)
                (port.hasTimerExpired timer w.st.env).2 =
              r := ⟨_, rfl⟩
        unfold FirstWriteSettles at hSettles
        dsimp only at hSettles ⊢
        rw [hr] at hSettles ⊢
        have hLog :
            Along (OfferedInside length)
              [.netWrite length
                ((w.st.client.writeBuf.load 0 length).take
                  r.1.count) .success,
                .timerChecked timer false] := by
          refine along_cons.mpr
            ⟨?_, along_cons.mpr ⟨trivial, along_nil⟩⟩
          simp [OfferedInside, takenBytes, gather, Event.taken]
        rw [Nat.zero_add]
        cases fuel with
        | zero =>
            exact
              ⟨[_, _], rfl, hLog, fun hNo => by cases hNo⟩
        | succ fuel =>
        rw [Prog.loop_succ]
        have hLe : r.1.count ≤ length :=
          (WriteResult.count_le r.1).trans_eq
            (Buffer.length_load _ _ _)
        by_cases hPart : r.1.count < length
        · -- only the timer can end the loop here
          have hLast :
              (port.hasTimerExpired timer r.2).1 = true := by
            rcases hSettles with hNo | hWhole | hLast
            · rw [hFirst] at hNo
              cases hNo
            · omega
            · exact hLast
          rw [Prog.run_bind_of_run
            (sendRound_expired hPart hLast)]
          refine
            ⟨[.timerChecked timer true, _, _], rfl,
              along_cons.mpr ⟨trivial, hLog⟩, ?_⟩
          intro hAll
          exact absurd (Option.some.inj hAll) (by omega)
        · have hWhole : r.1.count = length := by omega
          rw [hWhole] at hLog ⊢
          rw [Prog.run_bind_of_run
            (sendRound_end (Nat.le_refl _) timer _)]
          refine ⟨[_, _], rfl, hLog, ?_⟩
          intro _
          have hTake :
              (w.st.client.writeBuf.load 0 length).take
                  length =
                w.st.client.writeBuf.load 0 length :=
            Buffer.take_load _ _ (Nat.le_refl _)
          simp [takenBytes, gather, Event.taken, hTake]
  · have hZero : length = 0 := by omega
    rw [Prog.run_bind_of_run
      (sendRound_end (by omega) timer w)]
    refine ⟨[], rfl, along_nil, ?_⟩
    intro _
    rw [hZero]
    simp [takenBytes, gather]

/-
  When the first write does not settle the matter, the second
  one is offered bytes past the packet.
-/
theorem sendRounds_past
    (hTakes : TakesSome port)
    (length : Nat)
    (timer : TimerName)
    (w : Run E)
    (hNot :
      ¬ FirstWriteSettles port timer w.st.client.writeBuf
        length w.st.env) :
    ((sendRounds port 2 length timer).run w).1 = none ∧
      ∃ es,
        ((sendRounds port 2 length timer).run w).2.log =
            es ++ w.log ∧
          ¬ Along (OfferedInside length) es := by
  obtain ⟨r, hr⟩ :
      ∃ r, port.netWrite
          (w.st.client.writeBuf.load 0 length)
          (port.hasTimerExpired timer w.st.env).2 = r :=
    ⟨_, rfl⟩
  have hLe : r.1.count ≤ length :=
    (WriteResult.count_le r.1).trans_eq
      (Buffer.length_load _ _ _)
  unfold FirstWriteSettles at hNot
  dsimp only at hNot
  rw [hr, not_or, not_or, Bool.not_eq_true,
    Bool.not_eq_true] at hNot
  rcases hNot with ⟨hFirst, hPart, hSecond⟩
  have hMore : 0 < length := by omega
  have hPos : 0 < r.1.count := by
    rw [← hr]
    refine (hTakes _ _ ?_).2
    intro hNil
    have hLength := congrArg List.length hNil
    rw [Buffer.length_load, List.length_nil] at hLength
    omega
  rw [sendRounds_eq, Prog.loop_succ, Prog.run_bind_of_run
    (sendRound_write hTakes hMore hFirst), hr, Nat.zero_add]
  dsimp only
  rw [Prog.loop_succ, Prog.run_bind_of_run
    (sendRound_write hTakes (by omega) hSecond)]
  refine ⟨rfl, [_, _, _, _], rfl, ?_⟩
  rw [along_cons]
  rintro ⟨hInside, _⟩
  simp only [OfferedInside, takenBytes, gather, Event.taken,
    List.nil_append, List.append_nil, List.length_take,
    Buffer.length_load] at hInside
  omega

end Mqtt

end TrustOnboard

------------------------------------------------------------
-- The Whole Send
------------------------------------------------------------

namespace TrustOnboard

namespace Mqtt

variable {E : Type}
variable {port : Port E}

/- A send is a lock, the rounds, an unlock and a verdict. -/
theorem sendPacket_eq
    (fuel length : Nat)
    (timer : TimerName)
    (w : Run E)
    (hFits : length < w.st.client.writeBufSize) :
    (sendPacket port fuel length timer).run w =
      (lockMutex port .tlsWrite >>= fun rc =>
        if rc ≠ .success then
          pure rc
        else
          sendRounds port fuel length timer >>= fun sent =>
            unlockMutex port .tlsWrite >>= fun rc =>
              if rc ≠ .success then
                pure rc
              else if sent = length then do
                Prog.emit (fun s =>
                  .txPacket
                    (s.client.writeBuf.load 0 length))
                pure .success
              else
                pure .failure).run w := by
  have hRead :
      (getClient : Code E Client).run w =
        (some w.st.client, w) := rfl
  unfold sendPacket
  rw [Prog.run_bind_of_run hRead, if_neg (by omega)]

/- What a send adds to the log of its rounds. -/
theorem sendsExactly_of_rounds
    {length sent : Nat}
    {buf : Buffer}
    {es : List Event}
    (hInside : Along (OfferedInside length) es)
    (hWhole : sent = length → takenBytes es = buf.load 0 length)
    {w w' : Run E}
    {l : List Event}
    (hLog : w.log = es ++ l)
    {result : Option IoTError}
    (hRun :
      (unlockMutex port .tlsWrite >>= fun rc =>
        if rc ≠ .success then
          pure rc
        else if sent = length then do
          Prog.emit (fun s =>
            .txPacket (s.client.writeBuf.load 0 length))
          pure .success
        else
          pure .failure).run w = (result, w')) :
    ∃ es',
      w'.log = es' ++ l ∧
        SendsExactly buf length result es' := by
  rw [Prog.run_bind] at hRun
  cases hUnlock : (unlockMutex port .tlsWrite).run w with
  | mk rc w₁ =>
      have hSame :=
        (run_onlyLocks (uses_unlockMutex_only port _)
          hUnlock).1
      rw [hUnlock] at hRun
      cases rc with
      | none =>
          cases hRun
          exact
            ⟨es, hSame.trans hLog, hInside,
              fun hNo => by cases hNo⟩
      | some rc =>
          dsimp only at hRun
          by_cases hRc : rc ≠ .success
          · rw [if_pos hRc] at hRun
            cases hRun
            refine ⟨es, hSame.trans hLog, hInside, ?_⟩
            intro hSuccess
            exact absurd (Option.some.inj hSuccess) hRc
          · rw [if_neg hRc] at hRun
            by_cases hSent : sent = length
            · rw [if_pos hSent] at hRun
              cases hRun
              refine
                ⟨.txPacket
                  (w₁.st.client.writeBuf.load 0 length) :: es,
                  ?_, ?_, ?_⟩
              · exact congrArg _ (hSame.trans hLog)
              · exact along_cons.mpr ⟨trivial, hInside⟩
              · intro _
                rw [← hWhole hSent]
                exact List.append_nil _
            · rw [if_neg hSent] at hRun
              cases hRun
              exact
                ⟨es, hSame.trans hLog, hInside,
                  fun hNo => by cases hNo⟩

/-
  A send over a network that may take parts is right exactly
  when the first write settles the matter.
-/
theorem sendsExactly_iff
    (port : Port E)
    (hTakes : TakesSome port)
    (length : Nat)
    (timer : TimerName)
    (w : Run E)
    (hFits : length < w.st.client.writeBufSize) :
    (∀ fuel, ∃ es,
      ((sendPacket port fuel length timer).run w).2.log =
          es ++ w.log ∧
        SendsExactly w.st.client.writeBuf length
          ((sendPacket port fuel length timer).run w).1
          es) ↔
      ∀ w₁,
        (lockMutex port .tlsWrite).run w =
            (some .success, w₁) →
          FirstWriteSettles port timer w.st.client.writeBuf
            length w₁.st.env := by
  constructor
  · intro hSends w₁ hLock
    by_contra hNot
    rcases run_onlyLocks (uses_lockMutex_only port _) hLock
      with ⟨hLog, held, hClient⟩
    have hBuf :
        w₁.st.client.writeBuf = w.st.client.writeBuf := by
      rw [hClient]
    rw [← hBuf] at hNot
    rcases sendRounds_past hTakes length timer w₁ hNot with
      ⟨hNone, es', hLog', hPast⟩
    rcases hSends 2 with ⟨es, hRun, hExact⟩
    rw [sendPacket_eq _ _ _ _ hFits,
      Prog.run_bind_of_run hLock, if_neg (by simp),
      Prog.run_bind] at hRun
    cases hRounds : (sendRounds port 2 length timer).run w₁
      with
    | mk result w₂ =>
        rw [hRounds] at hNone hLog' hRun
        cases hNone
        dsimp only at hRun hLog'
        rw [hLog', hLog] at hRun
        rw [List.append_cancel_right hRun] at hPast
        exact hPast hExact.inside
  · intro hSettles fuel
    rw [sendPacket_eq _ _ _ _ hFits, Prog.run_bind]
    cases hLock : (lockMutex port .tlsWrite).run w with
    | mk rc w₁ =>
        rcases run_onlyLocks (uses_lockMutex_only port _)
            hLock with ⟨hLog, held, hClient⟩
        have hBuf :
            w₁.st.client.writeBuf = w.st.client.writeBuf := by
          rw [hClient]
        cases rc with
        | none =>
            exact
              ⟨[], hLog, along_nil, fun hNo => by cases hNo⟩
        | some rc =>
            dsimp only
            by_cases hRc : rc ≠ .success
            · rw [if_pos hRc]
              refine ⟨[], hLog, along_nil, ?_⟩
              intro hSuccess
              exact absurd (Option.some.inj hSuccess) hRc
            · rw [if_neg hRc]
              have hSuccess := not_not.mp hRc
              subst hSuccess
              have hFirst := hSettles w₁ hLock
              rw [← hBuf] at hFirst ⊢
              rcases sendRounds_settled hTakes fuel length
                  timer w₁ hFirst with
                ⟨es, hRounds, hInside, hWhole⟩
              rw [Prog.run_bind]
              cases hRun :
                  (sendRounds port fuel length timer).run w₁
                with
              | mk sent w₂ =>
                  rw [hRun] at hRounds hWhole
                  rw [hLog] at hRounds
                  cases sent with
                  | none =>
                      exact
                        ⟨es, hRounds, hInside,
                          fun hNo => by cases hNo⟩
                  | some sent =>
                      refine
                        sendsExactly_of_rounds hInside ?_
                          hRounds rfl
                      rintro rfl
                      exact hWhole rfl

/- A platform whose writes take one byte each. -/
def dripPort : Port Script :=
  { scriptPort with
    netWrite := fun bs e =>
      (.success (min 1 bs.length) (Nat.min_le_right _ _), e) }

theorem takesSome_completePort : TakesSome completePort := by
  intro bs e hSome
  exact ⟨rfl, List.length_pos_iff.mpr hSome⟩

theorem takesSome_dripPort : TakesSome dripPort := by
  intro bs e hSome
  have hPos := List.length_pos_iff.mpr hSome
  exact ⟨rfl, by
    change 0 < min 1 bs.length
    omega⟩

/- A client whose timers answer that they are running. -/
def sendingWorld (timers : List Bool) : Run Script :=
  scriptStart (scriptClient .connectedIdle [freeSlot])
    { Script.idle with timers := timers }

theorem sendsExactly_iff_complete :
    (∀ fuel, ∃ es,
      ((sendPacket completePort fuel 4 .command).run
          (sendingWorld [false])).2.log = es ++ [] ∧
        SendsExactly (fun _ => 0) 4
          ((sendPacket completePort fuel 4 .command).run
            (sendingWorld [false])).1 es) ↔
      ∀ w₁,
        (lockMutex completePort .tlsWrite).run
            (sendingWorld [false]) = (some .success, w₁) →
          FirstWriteSettles completePort .command
            (fun _ => 0) 4 w₁.st.env :=
  sendsExactly_iff completePort takesSome_completePort 4
    .command (sendingWorld [false]) (by decide)

/-
  A packet of four bytes over a network that takes one byte
  at a time: the second write is offered a byte past the end
  of the packet.
-/
theorem dripping_offers_past_end :
    ∃ es,
      ((sendPacket dripPort 2 4 .command).run
          (sendingWorld [false, false])).2.log = es ++ [] ∧
        ¬ Along (OfferedInside 4) es := by
  refine ⟨_, (List.append_nil _).symm, ?_⟩
  have hRounds :=
    sendRounds_past takesSome_dripPort 4 .command
      (sendingWorld [false, false]) (by
        unfold FirstWriteSettles
        decide +kernel)
  rcases hRounds with ⟨_, es, hLog, hPast⟩
  have hSame :
      ((sendPacket dripPort 2 4 .command).run
          (sendingWorld [false, false])).2.log =
        ((sendRounds dripPort 2 4 .command).run
          (sendingWorld [false, false])).2.log := rfl
  rw [hSame, hLog, show (sendingWorld [false, false]).log = []
    from rfl, List.append_nil]
  exact hPast

end Mqtt

end TrustOnboard
