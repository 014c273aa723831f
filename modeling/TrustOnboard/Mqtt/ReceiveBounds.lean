import TrustOnboard.Mqtt.Footprint
import TrustOnboard.Mqtt.Reading
import TrustOnboard.Mqtt.Script

/-
  Where the receive path writes.

  The size check of the reader compares the remaining length
  with the size of the receive buffer, but the header byte
  and the length field are stored in front of the body.  The
  writes stay inside the buffer exactly when all three fit.

  Key definitions include:
    * `Writes`
    * `WithinBuffer`
    * `suppliedField`
    * `suppliedBody`
    * `Fits`

  Key results include:
    * `withinBuffer_iff_fits`
-/

------------------------------------------------------------
-- Writes And What The Network Supplied
------------------------------------------------------------

namespace TrustOnboard

namespace Mqtt

/- An index of the receive buffer that is written. -/
def Writes (es : List Event) (index : Nat) : Prop :=
  ∃ off len,
    .rxStore off len ∈ es ∧
      off ≤ index ∧ index < off + len

/- Whether an event writes an index. -/
def Event.writesAt (index : Nat) : Event → Bool
  | .rxStore off len => off ≤ index && index < off + len
  | _ => false

theorem any_writesAt_iff
    (es : List Event)
    (index : Nat) :
    es.any (Event.writesAt index) = true ↔
      Writes es index := by
  rw [List.any_eq_true]
  constructor
  · rintro ⟨e, hMem, hAt⟩
    cases e <;> simp [Event.writesAt] at hAt
    exact ⟨_, _, hMem, hAt⟩
  · rintro ⟨off, len, hMem, hLow, hHigh⟩
    exact ⟨_, hMem, by simp [Event.writesAt, hLow, hHigh]⟩

instance (es : List Event) (index : Nat) :
    Decidable (Writes es index) :=
  decidable_of_iff _ (any_writesAt_iff es index)

/- Every index that is written is below the size. -/
def WithinBuffer (size : Nat) (es : List Event) : Prop :=
  ∀ index, Writes es index → index < size

/- The bytes of a length field an event brings. -/
def Event.fieldBytes : Event → Bytes
  | .netRead (.length _) _ bs rc =>
      if rc = .success then bs else []
  | _ => []

/- The bytes of a body an event brings. -/
def Event.bodyBytes : Event → Bytes
  | .netRead .body _ bs _ => bs
  | _ => []

/- The length field the network supplied. -/
def suppliedField (es : List Event) : Bytes :=
  gather Event.fieldBytes es

/- The body the network supplied. -/
def suppliedBody (es : List Event) : Bytes :=
  gather Event.bodyBytes es

/-
  A packet whose remaining length passes the size check fits
  with its header byte and its length field.
-/
def Fits (size : Nat) (es : List Event) : Prop :=
  ∀ n, Base128 (suppliedField es) n →
    n % sizeMax < size →
      1 +
          (writeLenToBuffer
            (UInt32.ofNat (n % sizeMax))).length +
          (suppliedBody es).length ≤ size

theorem withinBuffer_append
    {size : Nat}
    {es l : List Event} :
    WithinBuffer size (es ++ l) ↔
      WithinBuffer size es ∧ WithinBuffer size l := by
  constructor
  · intro hAll
    constructor
    · rintro index ⟨off, len, hMem, hLow, hHigh⟩
      exact hAll index ⟨off, len, by simp [hMem], hLow, hHigh⟩
    · rintro index ⟨off, len, hMem, hLow, hHigh⟩
      exact hAll index ⟨off, len, by simp [hMem], hLow, hHigh⟩
  · rintro ⟨hLeft, hRight⟩ index ⟨off, len, hMem, hIn⟩
    rcases List.mem_append.mp hMem with hMem | hMem
    · exact hLeft index ⟨off, len, hMem, hIn⟩
    · exact hRight index ⟨off, len, hMem, hIn⟩

/- Events that are no stores write nothing. -/
theorem withinBuffer_of_none
    {size : Nat}
    {es : List Event}
    (hNone : ∀ off len, .rxStore off len ∉ es) :
    WithinBuffer size es := by
  rintro index ⟨off, len, hMem, _⟩
  exact absurd hMem (hNone off len)

/- A single store. -/
theorem withinBuffer_store
    {size off len : Nat} :
    WithinBuffer size [.rxStore off len] ↔
      len = 0 ∨ off + len ≤ size := by
  constructor
  · intro hAll
    by_contra hOutside
    have hLast :=
      hAll (off + len - 1)
        ⟨off, len, by simp, by omega, by omega⟩
    omega
  · rintro hFits index ⟨off', len', hMem, hLow, hHigh⟩
    have hEq := List.mem_singleton.mp hMem
    cases hEq
    omega

/- An event that receives nothing. -/
theorem bytes_of_silent
    {e : Event}
    (hSilent : e.isInput = false) :
    e.fieldBytes = [] ∧ e.bodyBytes = [] := by
  cases e <;>
    simp_all [Event.isInput, Event.fieldBytes,
      Event.bodyBytes]

end Mqtt

end TrustOnboard

------------------------------------------------------------
-- One Read
------------------------------------------------------------

namespace TrustOnboard

namespace Mqtt

variable {size : Nat}

theorem fieldRead_bounds
    (size : Nat)
    {field : Bytes}
    {es : List Event}
    (hField : FieldRead field es) :
    suppliedField es = field ∧
      suppliedBody es = [] ∧ WithinBuffer size es := by
  induction hField with
  | nil =>
      refine ⟨rfl, rfl, withinBuffer_of_none ?_⟩
      intro off len hMem
      cases hMem
  | snoc field es b hField ih =>
      rcases ih with ⟨hSame, hBody, hWithin⟩
      refine ⟨?_, ?_, ?_⟩
      · unfold suppliedField at hSame ⊢
        rw [gather, hSame]
        rfl
      · unfold suppliedBody at hBody ⊢
        rw [gather, hBody]
        rfl
      · rintro index ⟨off, len, hMem, hIn⟩
        rcases List.mem_cons.mp hMem with hNo | hMem
        · cases hNo
        · exact hWithin index ⟨off, len, hMem, hIn⟩

theorem drainRead_bounds
    {body : Bytes}
    {es : List Event}
    (hDrain : DrainRead size body es) :
    suppliedField es = [] ∧
      suppliedBody es = [] ∧ WithinBuffer size es := by
  induction hDrain with
  | nil =>
      refine ⟨rfl, rfl, withinBuffer_of_none ?_⟩
      intro off len hMem
      cases hMem
  | snoc body es bs hDrain hSize ih =>
      rcases ih with ⟨hField, hBody, hWithin⟩
      refine ⟨?_, ?_, ?_⟩
      · unfold suppliedField at hField ⊢
        rw [gather, gather, hField]
        rfl
      · unfold suppliedBody at hBody ⊢
        rw [gather, gather, hBody]
        rfl
      · rintro index ⟨off, len, hMem, hLow, hHigh⟩
        rcases List.mem_cons.mp hMem with hEq | hMem
        · cases hEq
          omega
        · rcases List.mem_cons.mp hMem with hNo | hMem
          · cases hNo
          · exact hWithin index ⟨off, len, hMem, hLow, hHigh⟩

theorem received_length_le
    {n : Nat}
    (r : ReadResult n) :
    r.received.length ≤ n := by
  cases r with
  | success bs h => exact Nat.le_of_eq h
  | nothingToRead h => exact Nat.zero_le n
  | readTimeout bs hPos h => exact Nat.le_of_lt h
  | readError bs h => exact Nat.le_of_lt h

/- A failing read of the length field. -/
theorem brokenLength_bounds
    (size : Nat)
    {index : Nat}
    {last : List Event}
    (hLast : Broken (.length index) none 1 last) :
    suppliedField last = [] ∧
      suppliedBody last = [] ∧ WithinBuffer size last := by
  rcases hLast with rfl | ⟨n, r, _, hFail, rfl⟩
  · refine ⟨rfl, rfl, withinBuffer_of_none ?_⟩
    intro off len hMem
    cases hMem
  · refine ⟨?_, rfl, withinBuffer_of_none ?_⟩
    · simp [suppliedField, readEvents, gather,
        Event.fieldBytes, hFail]
    · intro off len hMem
      cases List.mem_singleton.mp hMem

/- A failing read that drops bytes. -/
theorem brokenDrain_bounds
    {last : List Event}
    (hLast : Broken .drain (some 0) size last) :
    suppliedField last = [] ∧
      suppliedBody last = [] ∧ WithinBuffer size last := by
  rcases hLast with rfl | ⟨n, r, hBound, _, rfl⟩
  · refine ⟨rfl, rfl, withinBuffer_of_none ?_⟩
    intro off len hMem
    cases hMem
  · refine ⟨rfl, rfl, ?_⟩
    have hLength := received_length_le r
    rintro index ⟨off, len, hMem, hLow, hHigh⟩
    rcases List.mem_cons.mp hMem with hEq | hMem
    · cases hEq
      omega
    · cases List.mem_singleton.mp hMem

/- A store followed by an event that stores nothing. -/
theorem withinBuffer_read
    {site : ReadSite}
    {off len n : Nat}
    {bs : Bytes}
    {rc : IoTError} :
    WithinBuffer size
        [.rxStore off len, .netRead site n bs rc] ↔
      len = 0 ∨ off + len ≤ size := by
  have hRead : WithinBuffer size [.netRead site n bs rc] := by
    apply withinBuffer_of_none
    intro off' len' hMem
    cases List.mem_singleton.mp hMem
  have hBoth :
      WithinBuffer size
          ([.rxStore off len] ++ [.netRead site n bs rc]) ↔
        _ :=
    withinBuffer_append
  rw [withinBuffer_store] at hBoth
  constructor
  · intro hAll
    exact (hBoth.mp hAll).1
  · intro hFits
    exact hBoth.mpr ⟨hFits, hRead⟩

theorem bodyRead_bounds
    (size : Nat)
    {off length : Nat}
    {body : Bytes}
    {es : List Event}
    (hBody : BodyRead off length body es) :
    suppliedField es = [] ∧
      suppliedBody es = body ∧
        (WithinBuffer size es ↔
          body.length = 0 ∨ off + body.length ≤ size) := by
  cases hBody with
  | empty hNone =>
      refine ⟨rfl, rfl, ?_⟩
      constructor
      · intro _
        exact Or.inl rfl
      · intro _
        apply withinBuffer_of_none
        intro off' len' hMem
        cases hMem
  | whole body hLength =>
      exact ⟨rfl, by simp [suppliedBody, gather,
        Event.bodyBytes], withinBuffer_read⟩
  | broken r hFail =>
      refine ⟨rfl, ?_, withinBuffer_read⟩
      simp [suppliedBody, readEvents, gather,
        Event.bodyBytes]

theorem suppliedField_append
    (es l : List Event) :
    suppliedField (es ++ l) =
      suppliedField l ++ suppliedField es :=
  gather_append Event.fieldBytes es l

theorem suppliedBody_append
    (es l : List Event) :
    suppliedBody (es ++ l) =
      suppliedBody l ++ suppliedBody es :=
  gather_append Event.bodyBytes es l

/- A field without a last byte makes no packet to fit. -/
theorem fits_of_open
    {es : List Event}
    (hOpen : ∀ b ∈ suppliedField es, b &&& 128 ≠ 0) :
    Fits size es := by
  intro n hField
  rcases hField.exists_last with ⟨b, hMem, hLast⟩
  exact absurd hLast (hOpen b hMem)

/- The header byte alone fits into every buffer. -/
theorem headerEvents_bounds
    (hSize : 1 ≤ size)
    (header : UInt8) :
    WithinBuffer size (headerEvents header) :=
  withinBuffer_read.mpr (Or.inr (by omega))

/- The events of a packet that is kept. -/
theorem kept_bounds
    (hSize : 1 ≤ size)
    (header : UInt8)
    {field body : Bytes}
    {length k : Nat}
    (hPos : 0 < k)
    {es reads last : List Event}
    (hField : FieldRead field es)
    (hBody : BodyRead (1 + k) length body reads)
    (hLast :
      last = [] ∨ ∃ packet, last = [.rxPacket packet]) :
    suppliedField
        (last ++ reads ++
          .rxStore 1 k :: (es ++ headerEvents header)) =
        field ∧
      suppliedBody
          (last ++ reads ++
            .rxStore 1 k :: (es ++ headerEvents header)) =
        body ∧
      (WithinBuffer size
          (last ++ reads ++
            .rxStore 1 k :: (es ++ headerEvents header)) ↔
        1 + k + body.length ≤ size) := by
  rcases fieldRead_bounds size hField with
    ⟨hSame, hNoBody, hWithin⟩
  rcases bodyRead_bounds size hBody with
    ⟨hNoField, hSupplied, hFits⟩
  have hQuiet :
      suppliedField last = [] ∧ suppliedBody last = [] ∧
        WithinBuffer size last := by
    rcases hLast with rfl | ⟨packet, rfl⟩
    · refine ⟨rfl, rfl, withinBuffer_of_none ?_⟩
      intro off len hMem
      cases hMem
    · refine ⟨rfl, rfl, withinBuffer_of_none ?_⟩
      intro off len hMem
      cases List.mem_singleton.mp hMem
  rcases hQuiet with ⟨hNone, hNone', hRest⟩
  refine ⟨?_, ?_, ?_⟩
  · rw [suppliedField_append, suppliedField_append, hNone,
      hNoField]
    unfold suppliedField at hSame ⊢
    rw [gather, gather_append, hSame]
    simp [headerEvents, gather, Event.fieldBytes]
  · rw [suppliedBody_append, suppliedBody_append, hNone',
      hSupplied]
    unfold suppliedBody at hNoBody ⊢
    rw [gather, gather_append, hNoBody]
    simp [headerEvents, gather, Event.bodyBytes]
  · rw [List.append_cons, withinBuffer_append,
      withinBuffer_append, withinBuffer_append,
      withinBuffer_append, hFits, withinBuffer_store]
    have hHeader := headerEvents_bounds hSize header
    constructor
    · rintro ⟨⟨⟨_, hLeft⟩, hRight⟩, _⟩
      omega
    · intro hTotal
      exact
        ⟨⟨⟨hRest, Or.inr hTotal⟩, Or.inr (by omega)⟩, hWithin,
          hHeader⟩

/-
  The writes of one read stay inside the buffer exactly when
  the packet that was supplied fits.
-/
theorem reads_bounds
    {done : Bool}
    {es : List Event}
    (hSize : 1 ≤ size)
    (hReads : Reads size done es) :
    WithinBuffer size es ↔ Fits size es := by
  cases hReads with
  | untouched =>
      constructor
      · intro _
        apply fits_of_open
        intro b hb
        cases hb
      · intro _
        apply withinBuffer_of_none
        intro off len hMem
        cases hMem
  | noHeader r hFail =>
      have hLength := received_length_le r
      constructor
      · intro _
        apply fits_of_open
        intro b hb
        cases hb
      · intro _
        exact withinBuffer_read.mpr (Or.inr (by omega))
  | noLength _ header field es last hField hMore hLast =>
      rcases fieldRead_bounds size hField with
        ⟨hSame, _, hWithin⟩
      rcases brokenLength_bounds size hLast with
        ⟨hNone, _, hRest⟩
      constructor
      · intro _
        apply fits_of_open
        rw [suppliedField_append, suppliedField_append, hSame,
          hNone, List.append_nil]
        exact hMore
      · intro _
        rw [withinBuffer_append, withinBuffer_append]
        exact
          ⟨⟨hRest, hWithin⟩,
            headerEvents_bounds hSize header⟩
  | dropped _ header field body n es drains last hField hValue
      hLarge hDrain hLast =>
      rcases fieldRead_bounds size hField with
        ⟨hSame, _, hWithin⟩
      rcases drainRead_bounds hDrain with
        ⟨hNoField, _, hDrained⟩
      rcases brokenDrain_bounds hLast with
        ⟨hNone, _, hRest⟩
      constructor
      · intro _ m hField' hSmall
        rw [suppliedField_append, suppliedField_append,
          suppliedField_append, hSame, hNoField, hNone,
          List.append_nil, List.append_nil] at hField'
        have hEq : m = n := hField'.unique hValue
        rw [hEq] at hSmall
        omega
      · intro _
        rw [withinBuffer_append, withinBuffer_append,
          withinBuffer_append]
        exact
          ⟨⟨⟨hRest, hDrained⟩, hWithin⟩,
            headerEvents_bounds hSize header⟩
  | kept header field body n es reads last hField hValue
      hSmall hBody hLast =>
      have hPos :=
        (writeLenToBuffer_base128
          (UInt32.ofNat (n % sizeMax))).length_pos
      rcases
        kept_bounds hSize header hPos hField hBody hLast with
        ⟨hFieldIs, hBodyIs, hWithin⟩
      rw [hWithin]
      unfold Fits
      rw [hFieldIs, hBodyIs]
      constructor
      · intro hTotal m hField' _
        have hEq : m = n := hField'.unique hValue
        rw [hEq]
        exact hTotal
      · intro hAll
        exact hAll n hValue hSmall

end Mqtt

end TrustOnboard

------------------------------------------------------------
-- Programs That Receive Nothing
------------------------------------------------------------

namespace TrustOnboard

namespace Mqtt

variable {E : Type}
variable {port : Port E}
variable {callback : Callback E}

/- Every step of the program receives nothing. -/
def Silent {α : Type} (p : Code E α) : Prop :=
  p.Uses (fun _ _ es => ∀ e ∈ es, Event.isInput e = false)

/- A step with at most one event that is not received. -/
theorem silent_step
    {α : Type}
    {f : Sys E → α × Sys E × List Event}
    (hStep :
      ∀ s, ∀ e ∈ (f s).2.2, Event.isInput e = false) :
    Silent (Prog.step f) :=
  Prog.Uses.step hStep

theorem silent_quietStep
    {α : Type}
    {f : Sys E → α × Sys E × List Event}
    (hNone : ∀ s, (f s).2.2 = []) :
    Silent (Prog.step f) := by
  apply silent_step
  intro s e he
  rw [hNone s] at he
  cases he

theorem silent_lockMutex
    (m : Mutex) :
    Silent (lockMutex port m) := by
  apply (uses_lockMutex port m).mono
  rintro s s' es ⟨_, rfl⟩ e he
  cases he

theorem silent_unlockMutex
    (m : Mutex) :
    Silent (unlockMutex port m) := by
  unfold unlockMutex
  split
  · exact
      Prog.Uses.bind (silent_quietStep (fun _ => rfl))
        (fun _ => Prog.Uses.pure _)
  · exact Prog.Uses.pure _

theorem silent_setClientState
    (expected new : ClientState) :
    Silent (setClientState port expected new) := by
  refine Prog.Uses.bind (silent_lockMutex _) ?_
  intro rc
  split
  · refine Prog.Uses.bind ?_ (fun _ => Prog.Uses.pure _)
    apply silent_step
    intro s e he
    rw [List.mem_singleton.mp he]
    rfl
  · refine Prog.Uses.bind ?_ ?_
    · apply silent_step
      intro s e he
      dsimp only at he
      split at he
      · rw [List.mem_singleton.mp he]
        rfl
      · rw [List.mem_singleton.mp he]
        rfl
    · intro rc
      refine Prog.Uses.bind (silent_unlockMutex _) ?_
      intro threadRc
      split
      · exact Prog.Uses.pure _
      · exact Prog.Uses.pure _

theorem silent_each
    {α : Type}
    {body : α → Code E Unit}
    (hBody : ∀ a, Silent (body a))
    (as : List α) :
    Silent (Prog.each body as) := by
  induction as with
  | nil => exact Prog.Uses.pure _
  | cons a as ih =>
      exact Prog.Uses.bind (hBody a) (fun _ => ih)

theorem silent_deliverMessage
    (hCb : ∀ handler data msg,
      Silent (callback handler data msg))
    (msg : Message) :
    Silent (deliverMessage port callback msg) := by
  refine Prog.Uses.bind (silent_quietStep (fun _ => rfl)) ?_
  intro clientState
  refine Prog.Uses.bind (silent_setClientState _ _) ?_
  intro _
  refine Prog.Uses.bind (silent_quietStep (fun _ => rfl)) ?_
  intro c
  refine Prog.Uses.bind (silent_each ?_ _)
    (fun _ => silent_setClientState _ _)
  intro itr
  refine Prog.Uses.bind (silent_quietStep (fun _ => rfl)) ?_
  intro c
  dsimp only
  split
  · exact Prog.Uses.pure _
  · split
    · split
      · exact Prog.Uses.pure _
      · refine Prog.Uses.bind (silent_step ?_)
          (fun _ => hCb _ _ _)
        intro s e he
        rw [List.mem_singleton.mp he]
        rfl
    · exact Prog.Uses.pure _

theorem silent_sendPacket
    (fuel length : Nat)
    (timer : TimerName) :
    Silent (sendPacket port fuel length timer) := by
  have hRounds :
      Silent (sendRounds port fuel length timer) := by
    refine (uses_sendRounds port fuel length timer).mono ?_
    rintro s s' es ⟨_, _, _, hKind⟩ e he
    have hOutput := hKind e he
    cases e <;> simp_all [Event.isOutput, Event.isInput]
  refine Prog.Uses.bind (silent_quietStep (fun _ => rfl)) ?_
  intro c
  split
  · exact Prog.Uses.pure _
  · refine Prog.Uses.bind (silent_lockMutex _) ?_
    intro rc
    split
    · exact Prog.Uses.pure _
    · refine Prog.Uses.bind hRounds ?_
      intro sent
      refine Prog.Uses.bind (silent_unlockMutex _) ?_
      intro rc
      split
      · exact Prog.Uses.pure _
      · split
        · refine Prog.Uses.bind (silent_step ?_)
            (fun _ => Prog.Uses.pure _)
          intro s e he
          rw [List.mem_singleton.mp he]
          rfl
        · exact Prog.Uses.pure _

theorem silent_sendSerialized
    (fuel : Nat)
    (timer : TimerName)
    (r : Client → Serialized) :
    Silent (sendSerialized port fuel timer r) := by
  refine Prog.Uses.bind ?_ ?_
  · refine Prog.Uses.bind
      (silent_quietStep (fun _ => rfl)) ?_
    intro c
    split
    · trivial
    · exact Prog.Uses.pure _
    · exact
        Prog.Uses.bind (silent_quietStep (fun _ => rfl))
          (fun _ => Prog.Uses.pure _)
  · intro encoded
    split
    · exact Prog.Uses.pure _
    · exact silent_sendPacket _ _ _

/- What follows a read receives nothing by itself. -/
theorem silent_dispatchPacket
    (hCb : ∀ handler data msg,
      Silent (callback handler data msg))
    (fuel : Nat)
    (timer : TimerName)
    (packetType : UInt8) :
    Silent
      (dispatchPacket port fuel callback timer packetType) := by
  have hPublish :
      Silent (handlePublish port fuel callback timer) := by
    refine Prog.Uses.bind
      (silent_quietStep (fun _ => rfl)) ?_
    intro c
    split
    · exact Prog.Uses.pure _
    · refine Prog.Uses.bind
        (silent_quietStep (fun _ => rfl)) ?_
      intro _
      refine Prog.Uses.bind (silent_deliverMessage hCb _) ?_
      intro rc
      refine Prog.Uses.bind
        (silent_quietStep (fun _ => rfl)) ?_
      intro c'
      refine Prog.Uses.bind
        (silent_quietStep (fun _ => rfl)) ?_
      intro _
      split
      · exact Prog.Uses.pure _
      · split
        · exact Prog.Uses.pure _
        · exact silent_sendSerialized _ _ _
  have hPingresp : Silent (handlePingresp port) := by
    refine Prog.Uses.bind
      (silent_quietStep (fun _ => rfl)) ?_
    intro _
    refine Prog.Uses.bind
      (silent_quietStep (fun _ => rfl)) ?_
    intro c
    exact
      Prog.Uses.bind (silent_quietStep (fun _ => rfl))
        (fun _ => Prog.Uses.pure _)
  unfold dispatchPacket
  split
  case h_5 => exact hPublish
  case h_8 => exact hPingresp
  all_goals exact Prog.Uses.pure _

end Mqtt

end TrustOnboard

------------------------------------------------------------
-- One Cycle
------------------------------------------------------------

namespace TrustOnboard

namespace Mqtt

variable {E : Type}
variable {port : Port E}
variable {callback : Callback E}
variable {size : Nat}
variable {l₀ : List Event}

/- The writes since some point are inside if all fits. -/
def Accounted
    (size : Nat)
    (l₀ l : List Event) : Prop :=
  ∃ es,
    l = es ++ l₀ ∧
      (WithinBuffer size es ↔ Fits size es)

/- A cycle that never returns is accounted for as well. -/
def accounting
    (E : Type)
    (size : Nat)
    (l₀ : List Event) : Contract (Sys E) Event where
  excused := fun _ => False
  excused_append := fun _ hNo => hNo
  halted := fun w => Accounted size l₀ w.log

theorem accounted_start
    (hSize : 1 ≤ size) :
    Accounted size l₀ l₀ :=
  ⟨[], rfl, reads_bounds hSize Reads.untouched⟩

/- Events that receive nothing leave the account as it is. -/
theorem accounted_silent
    {es l : List Event}
    (hSilent : ∀ e ∈ es, Event.isInput e = false)
    (hAccounted : Accounted size l₀ l) :
    Accounted size l₀ (es ++ l) := by
  rcases hAccounted with ⟨es', rfl, hIff⟩
  refine ⟨es ++ es', by simp, ?_⟩
  have hField : suppliedField es = [] :=
    gather_of_none
      (fun e he => (bytes_of_silent (hSilent e he)).1)
  have hBody : suppliedBody es = [] :=
    gather_of_none
      (fun e he => (bytes_of_silent (hSilent e he)).2)
  have hWithin : WithinBuffer size es := by
    apply withinBuffer_of_none
    intro off len hMem
    cases hSilent _ hMem
  rw [withinBuffer_append, hIff]
  unfold Fits
  rw [suppliedField_append, suppliedBody_append, hField,
    hBody, List.append_nil, List.append_nil]
  constructor
  · intro hBoth
    exact hBoth.2
  · intro hFits
    exact ⟨hWithin, hFits⟩

theorem accounted_of_silent
    {α : Type}
    {p : Code E α}
    (hSilent : Silent p) :
    Triple (accounting E size l₀)
      (fun w => Accounted size l₀ w.log) p
      (fun _ w => Accounted size l₀ w.log) := by
  apply Prog.Uses.triple hSilent
  · intro w hAccounted
    exact hAccounted
  · intro s s' es l hStep hAccounted
    exact accounted_silent hStep hAccounted

theorem readPacket_accounted
    (hSize : 1 ≤ size)
    (fuel : Nat) :
    Triple (accounting E size l₀)
      (fun w =>
        w.st.client.readBufSize = size ∧ w.log = l₀)
      (readPacket port fuel)
      (fun _ w => Accounted size l₀ w.log) := by
  rintro w ⟨hEq, hLog⟩
  rcases readPacket_events port fuel w with
    ⟨es, hEvents, hReads⟩
  have hAccounted :
      Accounted size l₀
        ((readPacket port fuel).run w).2.log := by
    rw [hEq] at hReads
    rw [hEvents, hLog]
    exact ⟨es, rfl, reads_bounds hSize hReads⟩
  right
  cases ((readPacket port fuel).run w).1 with
  | none => exact hAccounted
  | some r => exact hAccounted

theorem cycleRead_accounted
    (port : Port E)
    (hCb : ∀ handler data msg,
      Silent (callback handler data msg))
    (hSize : 1 ≤ size)
    (fuel : Nat)
    (timer : TimerName) :
    Triple (accounting E size l₀)
      (fun w =>
        w.st.client.readBufSize = size ∧ w.log = l₀)
      (cycleRead port fuel callback timer)
      (fun _ w => Accounted size l₀ w.log) := by
  have hLock :
      Triple (accounting E size l₀)
        (fun w =>
          w.st.client.readBufSize = size ∧ w.log = l₀)
        (lockMutex port .tlsRead)
        (fun _ w =>
          w.st.client.readBufSize = size ∧ w.log = l₀) := by
    apply (uses_lockMutex port .tlsRead).triple
    · rintro w ⟨_, hLog⟩
      change Accounted size l₀ w.log
      rw [hLog]
      exact accounted_start hSize
    · rintro s s' es l ⟨hFrame, rfl⟩ ⟨hEq, hLog⟩
      have hSame := congrArg Frame.readBufSize hFrame
      exact ⟨hSame.trans hEq, hLog⟩
  refine hLock.bind ?_
  intro threadRc
  apply Triple.ite
  · intro _
    apply Triple.pure
    rintro w ⟨_, hLog⟩
    rw [hLog]
    exact accounted_start hSize
  intro _
  refine (readPacket_accounted hSize fuel).bind ?_
  rintro ⟨rc, type⟩
  refine
    (accounted_of_silent (silent_unlockMutex _)).bind ?_
  intro threadRc
  apply Triple.ite (fun _ => Triple.same)
  intro _
  apply Triple.ite (fun _ => Triple.same)
  intro _
  apply Triple.ite (fun _ => Triple.same)
  intro _
  cases type with
  | none => exact Triple.same
  | some type =>
      exact
        (accounted_of_silent
          (silent_dispatchPacket hCb fuel timer type)).bind
          (fun _ => Triple.same)

/-
  The writes of the reader stay inside the receive buffer
  exactly when the packet the network supplied, if its
  remaining length passes the size check, fits together with
  its header byte and its length field.  The same holds for a
  whole cycle whose callbacks read nothing.
-/
theorem withinBuffer_iff_fits
    (port : Port E)
    (fuel : Nat)
    (callback : Callback E)
    (timer : TimerName)
    (w : Run E)
    (hSize : 1 ≤ w.st.client.readBufSize) :
    (∀ r w',
      (readPacket port fuel).run w = (r, w') →
        ∃ es,
          w'.log = es ++ w.log ∧
            (WithinBuffer w.st.client.readBufSize es ↔
              Fits w.st.client.readBufSize es)) ∧
    ((∀ handler data msg,
        Silent (callback handler data msg)) →
      ∀ r w',
        (cycleRead port fuel callback timer).run w =
            (r, w') →
          ∃ es,
            w'.log = es ++ w.log ∧
              (WithinBuffer w.st.client.readBufSize es ↔
                Fits w.st.client.readBufSize es)) := by
  constructor
  · intro r w' hRun
    rcases readPacket_events port fuel w with
      ⟨es, hLog, hReads⟩
    rw [hRun] at hLog
    exact ⟨es, hLog, reads_bounds hSize hReads⟩
  · intro hCb r w' hRun
    have hMeets :=
      cycleRead_accounted port hCb hSize fuel timer w
        ⟨rfl, rfl⟩
    rw [hRun] at hMeets
    rcases hMeets with hNo | hMeets
    · exact hNo.elim
    · cases r with
      | none => exact hMeets
      | some r => exact hMeets

/- A callback that does nothing. -/
def idleCallback : Callback E :=
  fun _ _ _ => pure ()

theorem withinBuffer_iff_fits_suback :
    ∃ w' es,
      (cycleRead scriptPort 6 idleCallback .yield).run
          (onePacket (subackPacket 2)) =
        (some (.success, some 9), w') ∧
      w'.log = es ++ (onePacket (subackPacket 2)).log ∧
      (WithinBuffer 64 es ↔ Fits 64 es) := by
  have hRun :=
    Prog.run_of_returns (a := (IoTError.success, some 9))
      (p := cycleRead scriptPort 6 idleCallback .yield)
      (w := onePacket (subackPacket 2)) (by decide +kernel)
  rcases
    (withinBuffer_iff_fits scriptPort 6 idleCallback .yield
      (onePacket (subackPacket 2)) (by decide)).2
      (fun _ _ _ => Prog.Uses.pure ()) _ _ hRun with
    ⟨es, hLog, hIff⟩
  exact ⟨_, es, hRun, hLog, hIff⟩

/-
  A packet whose remaining length is one less than the size
  of the buffer passes the size check, and its last byte is
  written behind the end of the buffer.
-/
theorem longestBody_outside :
    ∃ w',
      (cycleRead scriptPort 6 idleCallback .yield).run
          (onePacket ([144, 63] ++ List.replicate 63 0)) =
        (some (.success, some 9), w') ∧
      w'.st.client.readBufSize = 64 ∧
      Writes w'.log 64 ∧
      ¬ WithinBuffer 64 w'.log := by
  have hWrites :
      Writes
        ((cycleRead scriptPort 6 idleCallback .yield).run
          (onePacket
            ([144, 63] ++ List.replicate 63 0))).2.log
        64 := by
    decide +kernel
  refine
    ⟨_, Prog.run_of_returns (by decide +kernel),
      by decide +kernel, hWrites, ?_⟩
  intro hAll
  have hLt := hAll 64 hWrites
  omega

end Mqtt

end TrustOnboard
