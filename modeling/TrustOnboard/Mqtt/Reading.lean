import TrustOnboard.Program.Triple
import TrustOnboard.Mqtt.Packets
import TrustOnboard.Mqtt.Client

/-
  What one read of a packet can do.

  `Reads` lists the sequences of events of a single call of
  `_aws_iot_mqtt_internal_read_packet`, whatever the network
  answers and also when the call never returns.  Properties
  of the receive path are read off this list.

  Key definitions include:
    * `gather`
    * `readEvents`
    * `FieldRead`
    * `DrainRead`
    * `Reads`

  Key results include:
    * `readPacket_reads`
    * `readPacket_events`
-/

------------------------------------------------------------
-- The Events Of A Read
------------------------------------------------------------

namespace TrustOnboard

namespace Mqtt

/- The bytes of the events of a log, oldest first. -/
def gather (f : Event → Bytes) : List Event → Bytes
  | [] => []
  | e :: l => gather f l ++ f e

theorem gather_append
    (f : Event → Bytes)
    (es l : List Event) :
    gather f (es ++ l) = gather f l ++ gather f es := by
  induction es with
  | nil => simp [gather]
  | cons e es ih =>
      rw [List.cons_append, gather, ih, gather,
        List.append_assoc]

/- Events without bytes gather none. -/
theorem gather_of_none
    {f : Event → Bytes}
    {es : List Event}
    (hNone : ∀ e ∈ es, f e = []) :
    gather f es = [] := by
  induction es with
  | nil => rfl
  | cons e es ih =>
      have hRest := ih (fun e' he' => hNone e' (by simp [he']))
      rw [gather, hRest, hNone e (by simp)]
      rfl

/- The events of one network read, newest first. -/
def readEvents
    (site : ReadSite)
    (target : Option Nat)
    {n : Nat}
    (r : ReadResult n) : List Event :=
  match target with
  | none => [.netRead site n r.received r.rc]
  | some off =>
      [.rxStore off r.received.length,
        .netRead site n r.received r.rc]

/- The events of the header byte. -/
def headerEvents (header : UInt8) : List Event :=
  [.rxStore 0 1, .netRead .header 1 [header] .success]

/- The events of the bytes of a length field. -/
inductive FieldRead : Bytes → List Event → Prop where
  | nil : FieldRead [] []
  | snoc
      (field : Bytes)
      (es : List Event)
      (b : UInt8)
      (hField : FieldRead field es) :
      FieldRead (field ++ [b])
        (.netRead (.length field.length) 1 [b] .success ::
          es)

/- The events of reads that drop the bytes of a body. -/
inductive DrainRead (size : Nat) :
    Bytes → List Event → Prop where
  | nil : DrainRead size [] []
  | snoc
      (body : Bytes)
      (es : List Event)
      (bs : Bytes)
      (hDrain : DrainRead size body es)
      (hSize : bs.length ≤ size) :
      DrainRead size (body ++ bs)
        (.rxStore 0 bs.length ::
          .netRead .drain bs.length bs .success :: es)

/- The last read failed, or there was none. -/
def Broken
    (site : ReadSite)
    (target : Option Nat)
    (bound : Nat)
    (es : List Event) : Prop :=
  es = [] ∨
    ∃ n, ∃ r : ReadResult n,
      n ≤ bound ∧ r.rc ≠ .success ∧
        es = readEvents site target r

/- The events of the body of a packet that is kept. -/
inductive BodyRead (off length : Nat) :
    Bytes → List Event → Prop where
  | empty (hNone : length = 0) : BodyRead off length [] []
  | whole
      (body : Bytes)
      (hLength : body.length = length) :
      BodyRead off length body
        [.rxStore off body.length,
          .netRead .body length body .success]
  | broken
      (r : ReadResult length)
      (hFail : r.rc ≠ .success) :
      BodyRead off length r.received
        (readEvents .body (some off) r)

/-
  The events of one read of a packet, newest first, for a
  receive buffer of the given size.  The flag says whether
  the read has returned.
-/
inductive Reads (size : Nat) : Bool → List Event → Prop where
  | untouched : Reads size false []
  | noHeader
      (r : ReadResult 1)
      (hFail : r.rc ≠ .success) :
      Reads size true (readEvents .header (some 0) r)
  | noLength
      (done : Bool)
      (header : UInt8)
      (field : Bytes)
      (es last : List Event)
      (hField : FieldRead field es)
      (hMore : ∀ b ∈ field, b &&& 128 ≠ 0)
      (hLast : Broken (.length field.length) none 1 last)
      (hDone : done = true → last ≠ []) :
      Reads size done (last ++ es ++ headerEvents header)
  | dropped
      (done : Bool)
      (header : UInt8)
      (field body : Bytes)
      (n : Nat)
      (es drains last : List Event)
      (hField : FieldRead field es)
      (hValue : Base128 field n)
      (hLarge : size ≤ n % sizeMax)
      (hDrain : DrainRead size body drains)
      (hLast : Broken .drain (some 0) size last)
      (hDone :
        done = true → last = [] →
          body.length = n % sizeMax) :
      Reads size done
        (last ++ drains ++ es ++ headerEvents header)
  | kept
      (header : UInt8)
      (field body : Bytes)
      (n : Nat)
      (es reads last : List Event)
      (hField : FieldRead field es)
      (hValue : Base128 field n)
      (hSmall : n % sizeMax < size)
      (hBody :
        BodyRead
          (1 + (writeLenToBuffer
            (UInt32.ofNat (n % sizeMax))).length)
          (n % sizeMax) body reads)
      (hLast :
        last = [] ∨ ∃ packet, last = [.rxPacket packet]) :
      Reads size true
        (last ++ reads ++
          .rxStore 1 (writeLenToBuffer
            (UInt32.ofNat (n % sizeMax))).length ::
          (es ++ headerEvents header))

end Mqtt

end TrustOnboard

------------------------------------------------------------
-- Following The Reader
------------------------------------------------------------

namespace TrustOnboard

namespace Mqtt

variable {E : Type}
variable {port : Port E}
variable {size : Nat}
variable {header : UInt8}

/- Also a reader that never returns has only read so far. -/
def readContract (E : Type) (size : Nat) :
    Contract (Sys E) Event where
  excused := fun _ => False
  excused_append := fun _ hNo => hNo
  halted := fun w => Reads size false w.log

/- The size of the receive buffer and a property of the log. -/
def Logged
    (size : Nat)
    (Q : List Event → Prop)
    (w : Run E) : Prop :=
  w.st.client.readBufSize = size ∧ Q w.log

/- Only a read of at least one byte can fail. -/
theorem pos_of_failed
    {n : Nat}
    {r : ReadResult n}
    (hFail : r.rc ≠ .success) :
    0 < n := by
  cases r with
  | success bs h => exact absurd rfl hFail
  | nothingToRead h => exact h
  | readTimeout bs hPos h => omega
  | readError bs h => omega

theorem netRead_logged
    {C : Contract (Sys E) Event}
    {Q : List Event → Prop}
    (site : ReadSite)
    (target : Option Nat)
    (n : Nat) :
    Triple C (Logged size Q) (netRead port site target n)
      (fun r =>
        Logged size (fun l =>
          ∃ l', l = readEvents site target r ++ l' ∧ Q l')) := by
  apply Triple.step
  intro w hLogged
  rcases hLogged with ⟨hSize, hQ⟩
  right
  cases target with
  | none => exact ⟨hSize, w.log, rfl, hQ⟩
  | some off => exact ⟨hSize, w.log, rfl, hQ⟩

/- The bytes of the length field read so far. -/
def FieldBegun
    (header : UInt8)
    (v : LenState)
    (l : List Event) : Prop :=
  ∃ field es m,
    l = es ++ headerEvents header ∧
      FieldRead field es ∧
      (∀ b ∈ field, b &&& 128 ≠ 0) ∧
      Base128.Begun field m ∧
      v.len ≤ 1 ∧
      v.index = field.length ∧
      v.multiplier = 128 ^ field.length % sizeMax ∧
      v.remLen = m % sizeMax

/- The length field is complete. -/
def FieldDone
    (header : UInt8)
    (remLen : Nat)
    (l : List Event) : Prop :=
  ∃ field es n,
    l = es ++ headerEvents header ∧
      FieldRead field es ∧
      Base128 field n ∧
      remLen = n % sizeMax

/- A length field that is not complete. -/
theorem reads_of_fieldBegun
    {v : LenState}
    {l last : List Event}
    {done : Bool}
    (hBegun : FieldBegun header v l)
    (hLast : Broken (.length v.index) none 1 last)
    (hDone : done = true → last ≠ []) :
    Reads size done (last ++ l) := by
  rcases hBegun with
    ⟨field, es, m, rfl, hField, hMore, _, _, hIndex, _⟩
  rw [hIndex] at hLast
  have hReads :
      Reads size done
        (last ++ es ++ headerEvents header) :=
    Reads.noLength done header field es last hField hMore
      hLast hDone
  simpa using hReads

/- The arithmetic of one round, with wrapping products. -/
theorem lenRound_mod
    (m k d : Nat) :
    (m % sizeMax + d * (128 ^ k % sizeMax)) % sizeMax =
      (m + d * 128 ^ k) % sizeMax := by
  rw [Nat.add_mod, Nat.mod_mod, Nat.mul_mod d, Nat.mod_mod,
    ← Nat.mul_mod, ← Nat.add_mod]

theorem lenRound_multiplier
    (k : Nat) :
    128 ^ k % sizeMax * 128 % sizeMax =
      128 ^ (k + 1) % sizeMax := by
  rw [Nat.mul_mod, Nat.mod_mod, ← Nat.mul_mod, Nat.pow_succ]

/- One byte of the field. -/
theorem decodeRound_begun
    {v : LenState}
    {b : UInt8}
    {l : List Event}
    (hBegun : FieldBegun header v l)
    (hMore : b &&& 128 ≠ 0) :
    FieldBegun header
      { len := 1
        index := v.index + 1
        multiplier := v.multiplier * 128 % sizeMax
        remLen :=
          (v.remLen + (b &&& 127).toNat * v.multiplier) %
            sizeMax }
      (.netRead (.length v.index) 1 [b] .success :: l) := by
  rcases hBegun with
    ⟨field, es, m, rfl, hField, hAll, hOpen, _, hIndex,
      hMult, hRem⟩
  refine
    ⟨field ++ [b], _, _, ?_, FieldRead.snoc field es b hField,
      ?_, hOpen.snoc b hMore, Nat.le_refl 1, ?_, ?_, ?_⟩
  · rw [hIndex]
    rfl
  · intro c hc
    rcases List.mem_append.mp hc with hc | hc
    · exact hAll c hc
    · rw [List.mem_singleton.mp hc]
      exact hMore
  · simp [hIndex]
  · rw [hMult, List.length_append, List.length_singleton]
    exact lenRound_multiplier field.length
  · rw [hMult, hRem]
    exact lenRound_mod m field.length _

/- The last byte of the field. -/
theorem decodeRound_done
    {v : LenState}
    {b : UInt8}
    {l : List Event}
    (hBegun : FieldBegun header v l)
    (hLast : b &&& 128 = 0) :
    FieldDone header
      ((v.remLen + (b &&& 127).toNat * v.multiplier) %
        sizeMax)
      (.netRead (.length v.index) 1 [b] .success :: l) := by
  rcases hBegun with
    ⟨field, es, m, rfl, hField, _, hOpen, _, hIndex, hMult,
      hRem⟩
  refine
    ⟨field ++ [b], _, _, ?_, FieldRead.snoc field es b hField,
      hOpen.close b hLast, ?_⟩
  · rw [hIndex]
    rfl
  · rw [hMult, hRem]
    exact lenRound_mod m field.length _

/-
  The length decoder.  The check on the number of bytes never
  stops it, because each read resets the counter.
-/
theorem decodePacketRemainingLen_logged
    (header : UInt8)
    (fuel : Nat) :
    Triple (readContract E size)
      (Logged size (fun l => l = headerEvents header))
      (decodePacketRemainingLen port fuel)
      (fun res =>
        Logged size (fun l =>
          match res with
          | .error _ => Reads size true l
          | .ok remLen => FieldDone header remLen l)) := by
  have hLoop :
      Triple (readContract E size)
        (Logged size
          (FieldBegun header
            { len := 0, index := 0, multiplier := 1,
              remLen := 0 }))
        (decodePacketRemainingLen port fuel)
        (fun res =>
          Logged size (fun l =>
            match res with
            | .error _ => Reads size true l
            | .ok remLen => FieldDone header remLen l)) := by
    apply Triple.loop
      (fun v => Logged size (FieldBegun header v))
    · intro v w hLogged
      exact
        reads_of_fieldBegun hLogged.2 (Or.inl rfl)
          (fun hNo => by cases hNo)
    · intro v
      apply Triple.ite
      · intro hMany
        apply Triple.false_pre
        rintro w ⟨_, _, _, _, _, _, _, _, hLen, _⟩
        unfold maxNoOfRemainingLengthBytes at hMany
        omega
      · intro _
        refine (netRead_logged _ _ _).bind ?_
        intro r
        have hFailed :
            ∀ (rc : IoTError), r.rc ≠ .success →
              Triple (readContract E size)
                (Logged size (fun l =>
                  ∃ l',
                    l = readEvents (.length v.index) none r ++
                        l' ∧
                      FieldBegun header v l'))
                (pure (.inr (.error rc)) :
                  Code E (LenState ⊕ Except IoTError Nat))
                (fun r w =>
                  match r with
                  | .inl v =>
                      Logged size (FieldBegun header v) w
                  | .inr res =>
                      Logged size (fun l =>
                        match res with
                        | .error _ => Reads size true l
                        | .ok remLen =>
                            FieldDone header remLen l) w) := by
          intro rc hFail
          apply Triple.pure
          rintro w ⟨hSize, l', hLog, hBegun⟩
          refine ⟨hSize, ?_⟩
          dsimp only
          rw [hLog]
          exact
            reads_of_fieldBegun hBegun
              (Or.inr ⟨1, r, Nat.le_refl 1, hFail, rfl⟩)
              (fun _ hNo => by cases hNo)
        cases r with
        | success bs h =>
            rcases List.length_eq_one_iff.mp h with ⟨b, rfl⟩
            apply Triple.ite
            · intro hMore
              apply Triple.pure
              rintro w ⟨hSize, l', hLog, hBegun⟩
              refine ⟨hSize, ?_⟩
              rw [hLog]
              exact decodeRound_begun hBegun hMore
            · intro hStop
              apply Triple.pure
              rintro w ⟨hSize, l', hLog, hBegun⟩
              refine ⟨hSize, ?_⟩
              dsimp only
              rw [hLog]
              exact
                decodeRound_done hBegun (not_not.mp hStop)
        | nothingToRead h =>
            exact hFailed _ (fun hNo => by cases hNo)
        | readTimeout bs hPos h =>
            exact hFailed _ (fun hNo => by cases hNo)
        | readError bs h =>
            exact hFailed _ (fun hNo => by cases hNo)
  apply hLoop.pre
  rintro w ⟨hSize, hLog⟩
  refine ⟨hSize, [], [], 0, hLog, FieldRead.nil, ?_,
    Base128.Begun.nil, Nat.zero_le 1, rfl, ?_, rfl⟩
  · intro b hb
    cases hb
  · rfl

/- Part of a body was read and dropped. -/
def Draining
    (size remLen : Nat)
    (base : List Event)
    (v : Nat × Nat)
    (l : List Event) : Prop :=
  ∃ body drains,
    l = drains ++ base ∧
      DrainRead size body drains ∧
      body.length = v.1 ∧
      v.2 ≤ size ∧
      v.1 + v.2 ≤ remLen

/- The events of a drained packet. -/
theorem reads_of_draining
    {remLen : Nat}
    {base : List Event}
    {v : Nat × Nat}
    {l : List Event}
    (hField : FieldDone header remLen base)
    (hLarge : size ≤ remLen)
    (hDrain : Draining size remLen base v l)
    {done : Bool}
    (last : List Event)
    (hLast : Broken .drain (some 0) size last)
    (hDone : done = true → last = [] → v.1 = remLen) :
    Reads size done (last ++ l) := by
  rcases hField with ⟨field, es, n, rfl, hRead, hValue, rfl⟩
  rcases hDrain with
    ⟨body, drains, rfl, hDrains, hBody, _, hTotal⟩
  have hReads :
      Reads size done
        (last ++ drains ++ es ++ headerEvents header) :=
    Reads.dropped done header field body n es drains last
      hRead hValue hLarge hDrains hLast
      (fun hYes hNone => hBody.trans (hDone hYes hNone))
  simpa using hReads

/- One more read of the draining loop. -/
theorem draining_snoc
    {remLen total : Nat}
    {base l : List Event}
    {bs : Bytes}
    (hDrain :
      Draining size remLen base (total, bs.length) l)
    (next : Nat)
    (hNext : next ≤ size)
    (hTotal : total + bs.length + next ≤ remLen) :
    Draining size remLen base (total + bs.length, next)
      (.rxStore 0 bs.length ::
        .netRead .drain bs.length bs .success :: l) := by
  rcases hDrain with
    ⟨body, drains, rfl, hDrains, hBody, hSize, _⟩
  refine
    ⟨body ++ bs, _, rfl,
      DrainRead.snoc body drains bs hDrains hSize, ?_,
      hNext, hTotal⟩
  rw [List.length_append, hBody]

theorem drainPacket_logged
    {remLen : Nat}
    (hLarge : size ≤ remLen)
    (fuel : Nat) :
    Triple (readContract E size)
      (Logged size (FieldDone header remLen))
      (drainPacket port fuel remLen size)
      (fun _ => Logged size (Reads size true)) := by
  intro w hPre
  rcases hPre with ⟨hSize, hField⟩
  have hLoop :
      Triple (readContract E size)
        (Logged size (Draining size remLen w.log (0, size)))
        (drainPacket port fuel remLen size)
        (fun _ => Logged size (Reads size true)) := by
    apply Triple.loop
      (fun v => Logged size (Draining size remLen w.log v))
    · intro v w' hLogged
      exact
        reads_of_draining hField hLarge hLogged.2 []
          (Or.inl rfl) (fun hNo => by cases hNo)
    · rintro ⟨total, n⟩
      refine (netRead_logged _ _ _).bind ?_
      intro r
      have hFailed :
          r.rc ≠ .success →
            Triple (readContract E size)
              (Logged size (fun l =>
                ∃ l',
                  l = readEvents .drain (some 0) r ++ l' ∧
                    Draining size remLen w.log (total, n)
                      l'))
              (pure (.inr ()) : Code E ((Nat × Nat) ⊕ Unit))
              (fun r w' =>
                match r with
                | .inl v =>
                    Logged size
                      (Draining size remLen w.log v) w'
                | .inr _ => Logged size (Reads size true) w') := by
        intro hFail
        apply Triple.pure
        rintro w' ⟨hSize', l', hLog, hDrain⟩
        have hPos := pos_of_failed hFail
        rcases hDrain with
          ⟨body, drains, hEq, hDrains, hBody, hNext, hTotal⟩
        refine ⟨hSize', ?_⟩
        rw [hLog]
        exact
          reads_of_draining hField hLarge
            ⟨body, drains, hEq, hDrains, hBody, hNext, hTotal⟩
            _ (Or.inr ⟨n, r, hNext, hFail, rfl⟩)
            (fun _ hNo => by cases hNo)
      cases r with
      | success bs h =>
          clear hFailed
          have hN : n = bs.length := h.symm
          subst hN
          apply Triple.ite
          · intro hMore
            apply Triple.pure
            rintro w' ⟨hSize', l', hLog, hDrain⟩
            refine ⟨hSize', ?_⟩
            rw [hLog]
            dsimp only at hMore ⊢
            split
            · exact
                draining_snoc hDrain size (Nat.le_refl size)
                  (by omega)
            · exact
                draining_snoc hDrain _ (by omega) (by omega)
          · intro hDone
            apply Triple.pure
            rintro w' ⟨hSize', l', hLog, hDrain⟩
            have hTotal : total + bs.length + 0 ≤ remLen := by
              rcases hDrain with ⟨_, _, _, _, _, _, hTotal⟩
              exact hTotal
            have hSnoc :=
              draining_snoc hDrain 0 (Nat.zero_le size) hTotal
            refine ⟨hSize', ?_⟩
            rw [hLog]
            exact
              reads_of_draining hField hLarge hSnoc []
                (Or.inl rfl) (fun _ _ => by omega)
      | nothingToRead h =>
          exact hFailed (fun hNo => by cases hNo)
      | readTimeout bs hPos h =>
          exact hFailed (fun hNo => by cases hNo)
      | readError bs h =>
          exact hFailed (fun hNo => by cases hNo)
  apply hLoop
  refine ⟨hSize, [], [], rfl, DrainRead.nil, rfl, ?_, ?_⟩
  · exact Nat.le_refl size
  · simpa using hLarge

/- What has been read of a packet that is kept. -/
def Keeping
    (header : UInt8)
    (remLen : Nat)
    (reads : List Event)
    (l : List Event) : Prop :=
  ∃ base,
    l =
        reads ++
          .rxStore 1
            (writeLenToBuffer (UInt32.ofNat remLen)).length ::
          base ∧
      FieldDone header remLen base

theorem reads_of_keeping
    {remLen : Nat}
    {body : Bytes}
    {reads l : List Event}
    (hSmall : remLen < size)
    (hKeep : Keeping header remLen reads l)
    (hBody :
      BodyRead
        (1 + (writeLenToBuffer
          (UInt32.ofNat remLen)).length)
        remLen body reads)
    (last : List Event)
    (hLast :
      last = [] ∨ ∃ packet, last = [.rxPacket packet]) :
    Reads size true (last ++ l) := by
  rcases hKeep with
    ⟨base, rfl, field, es, n, rfl, hField, hValue, rfl⟩
  have hReads :
      Reads size true
        (last ++ reads ++
          .rxStore 1 (writeLenToBuffer
            (UInt32.ofNat (n % sizeMax))).length ::
          (es ++ headerEvents header)) :=
    Reads.kept header field body n es reads last hField
      hValue hSmall hBody hLast
  simpa using hReads

/- The read of a body. -/
theorem readBody_logged
    {remLen : Nat} :
    Triple (readContract E size)
      (Logged size (Keeping header remLen []))
      (readBody port
        (1 + (writeLenToBuffer
          (UInt32.ofNat remLen)).length) remLen)
      (fun _ =>
        Logged size (fun l =>
          ∃ body reads,
            Keeping header remLen reads l ∧
              BodyRead
                (1 + (writeLenToBuffer
                  (UInt32.ofNat remLen)).length)
                remLen body reads)) := by
  apply Triple.ite
  · intro _
    refine (netRead_logged _ _ _).bind ?_
    intro r
    have hRead :
        ∀ (complete : Bool) body,
          BodyRead
              (1 + (writeLenToBuffer
                (UInt32.ofNat remLen)).length)
              remLen body
              (readEvents .body
                (some (1 + (writeLenToBuffer
                  (UInt32.ofNat remLen)).length)) r) →
            Triple (readContract E size)
              (Logged size (fun l =>
                ∃ l',
                  l =
                      readEvents .body
                        (some (1 + (writeLenToBuffer
                          (UInt32.ofNat remLen)).length)) r ++
                        l' ∧
                    Keeping header remLen [] l'))
              (pure complete : Code E Bool)
              (fun _ =>
                Logged size (fun l =>
                  ∃ body reads,
                    Keeping header remLen reads l ∧
                      BodyRead
                        (1 + (writeLenToBuffer
                          (UInt32.ofNat remLen)).length)
                        remLen body reads)) := by
      intro complete body hBody
      apply Triple.pure
      rintro w ⟨hSize, l', hLog, base, rfl, hField⟩
      exact ⟨hSize, body, _, ⟨base, hLog, hField⟩, hBody⟩
    cases r with
    | success bs h =>
        exact hRead true bs (BodyRead.whole bs h)
    | nothingToRead h =>
        exact
          hRead false _
            (BodyRead.broken _ (fun hNo => by cases hNo))
    | readTimeout bs hPos h =>
        exact
          hRead false _
            (BodyRead.broken _ (fun hNo => by cases hNo))
    | readError bs h =>
        exact
          hRead false _
            (BodyRead.broken _ (fun hNo => by cases hNo))
  · intro hNone
    apply Triple.pure
    intro w hLogged
    exact
      ⟨hLogged.1, [], [], hLogged.2,
        BodyRead.empty (by omega)⟩

theorem readContents_logged
    {remLen : Nat}
    (hSmall : remLen < size) :
    Triple (readContract E size)
      (Logged size (FieldDone header remLen))
      (readContents port remLen)
      (fun _ => Logged size (Reads size true)) := by
  refine Triple.bind
    (M := fun _ => Logged size (Keeping header remLen []))
    ?_ ?_
  · apply Triple.step
    intro w hLogged
    exact Or.inr ⟨hLogged.1, w.log, rfl, hLogged.2⟩
  intro _
  refine readBody_logged.bind ?_
  intro complete
  apply Triple.ite
  · intro _
    refine Triple.seq (Triple.read (fun _ h => h)) ?_
    intro c
    refine Triple.bind
      (M := fun _ => Logged size (Reads size true)) ?_
      (fun _ => Triple.same)
    apply Triple.emit
    rintro w ⟨hSize, body, reads, hKeep, hBody⟩
    exact
      Or.inr
        ⟨hSize,
          reads_of_keeping hSmall hKeep hBody [_]
            (Or.inr ⟨_, rfl⟩)⟩
  · intro _
    apply Triple.pure
    rintro w ⟨hSize, body, reads, hKeep, hBody⟩
    exact
      ⟨hSize,
        reads_of_keeping hSmall hKeep hBody []
          (Or.inl rfl)⟩

/- One read of a packet, on an empty log. -/
theorem readPacket_reads
    (port : Port E)
    (fuel : Nat) :
    Triple (readContract E size)
      (Logged size (fun l => l = []))
      (readPacket port fuel)
      (fun _ => Logged size (Reads size true)) := by
  refine Triple.seq (Triple.read (fun _ h => h)) ?_
  intro c
  refine Triple.seq (Triple.modify (fun _ h => h)) ?_
  intro _
  refine (netRead_logged _ _ _).bind ?_
  intro r
  have hFailed :
      ∀ res : IoTError × Option UInt8, r.rc ≠ .success →
        Triple (readContract E size)
          (Logged size (fun l =>
            ∃ l',
              l = readEvents .header (some 0) r ++ l' ∧
                l' = []))
          (pure res : Code E _)
          (fun _ => Logged size (Reads size true)) := by
    intro res hFail
    apply Triple.pure
    rintro w ⟨hSize, l', hLog, rfl⟩
    refine ⟨hSize, ?_⟩
    rw [hLog, List.append_nil]
    exact Reads.noHeader r hFail
  cases r with
  | success bs h =>
      rcases List.length_eq_one_iff.mp h with ⟨header, rfl⟩
      refine
        ((decodePacketRemainingLen_logged header
          fuel).pre ?_).bind ?_
      · rintro w ⟨hSize, l', hLog, rfl⟩
        exact ⟨hSize, hLog⟩
      intro decoded
      cases decoded with
      | error rc => exact Triple.pure (fun _ h => h)
      | ok remLen =>
          refine Triple.bind
            (M := fun c w =>
              c.readBufSize = size ∧
                Logged size (FieldDone header remLen) w)
            (Triple.read (fun _ h => ⟨h.1, h⟩)) ?_
          intro c
          apply Triple.of_fact
          intro hSize
          rw [hSize]
          apply Triple.ite
          · intro hLarge
            exact
              (drainPacket_logged hLarge fuel).bind
                (fun _ => Triple.same)
          · intro hSmall
            exact readContents_logged (Nat.lt_of_not_le hSmall)
  | nothingToRead h =>
      exact hFailed _ (fun hNo => by cases hNo)
  | readTimeout bs hPos h =>
      exact hFailed _ (fun hNo => by cases hNo)
  | readError bs h =>
      exact hFailed _ (fun hNo => by cases hNo)

/- The events any run of the reader adds to the log. -/
theorem readPacket_events
    (port : Port E)
    (fuel : Nat)
    (w : Run E) :
    ∃ es,
      ((readPacket port fuel).run w).2.log = es ++ w.log ∧
        Reads w.st.client.readBufSize
          ((readPacket port fuel).run w).1.isSome es := by
  have hMeets :=
    readPacket_reads port fuel ⟨w.st, []⟩ ⟨rfl, rfl⟩
  have hRun :=
    Prog.run_from_empty (readPacket port fuel) w.st [] w.log
  rw [List.nil_append] at hRun
  have hSame :
      (readPacket port fuel).run w =
        (readPacket port fuel).run ⟨w.st, w.log⟩ := rfl
  rw [hSame, hRun]
  refine ⟨_, rfl, ?_⟩
  dsimp only
  · rcases hMeets with hNo | hMeets
    · exact hNo.elim
    · cases hRes :
          ((readPacket port fuel).run ⟨w.st, []⟩).1 with
      | none =>
          rw [hRes] at hMeets
          exact hMeets
      | some r =>
          rw [hRes] at hMeets
          exact hMeets.2

end Mqtt

end TrustOnboard
