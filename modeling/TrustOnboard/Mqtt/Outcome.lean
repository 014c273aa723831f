import TrustOnboard.Mqtt.Reading
import TrustOnboard.Mqtt.Stored
import TrustOnboard.Mqtt.Steady

/-
  The outcome of one read of a packet: what it recorded, what
  it changed, and where the packet is.

  Key definitions include:
    * `OpensWithHeader`
    * `ReadOutcome`

  Key results include:
    * `reads_opensWithHeader`
    * `readPacket_outcome`
-/

------------------------------------------------------------
-- Events Of One Read
------------------------------------------------------------

namespace TrustOnboard

namespace Mqtt

/- The read of a header byte, which begins a packet. -/
def Event.isHeaderRead : Event → Bool
  | .netRead .header _ _ _ => true
  | _ => false

/- A packet that was read as a whole. -/
def Event.isPacketRead : Event → Bool
  | .rxPacket _ => true
  | _ => false

/-
  The oldest event is the read of a header byte, and no other
  one is.
-/
def OpensWithHeader (es : List Event) : Prop :=
  ∃ front e,
    es = front ++ [e] ∧
      e.isHeaderRead = true ∧
        ∀ e ∈ front, e.isHeaderRead = false

theorem fieldRead_noHeader
    {field : Bytes}
    {es : List Event}
    (hField : FieldRead field es) :
    ∀ e ∈ es, e.isHeaderRead = false := by
  induction hField with
  | nil =>
      intro e he
      cases he
  | snoc field es b _ ih =>
      intro e he
      rcases List.mem_cons.mp he with rfl | he
      · rfl
      · exact ih e he

theorem drainRead_noHeader
    {size : Nat}
    {body : Bytes}
    {es : List Event}
    (hDrain : DrainRead size body es) :
    ∀ e ∈ es, e.isHeaderRead = false := by
  induction hDrain with
  | nil =>
      intro e he
      cases he
  | snoc body es bs _ _ ih =>
      intro e he
      simp only [List.mem_cons] at he
      rcases he with rfl | rfl | he
      · rfl
      · rfl
      · exact ih e he

theorem readEvents_noHeader
    {site : ReadSite}
    (hSite : site ≠ .header)
    (target : Option Nat)
    {n : Nat}
    (r : ReadResult n) :
    ∀ e ∈ readEvents site target r,
      e.isHeaderRead = false := by
  have hRead :
      (Event.netRead site n r.received r.rc).isHeaderRead =
        false := by
    cases site with
    | header => exact absurd rfl hSite
    | length index => rfl
    | body => rfl
    | drain => rfl
  intro e he
  cases target with
  | none =>
      rw [List.mem_singleton.mp he]
      exact hRead
  | some off =>
      rcases List.mem_cons.mp he with rfl | he
      · rfl
      · rw [List.mem_singleton.mp he]
        exact hRead

theorem broken_noHeader
    {site : ReadSite}
    (hSite : site ≠ .header)
    {target : Option Nat}
    {bound : Nat}
    {es : List Event}
    (hBroken : Broken site target bound es) :
    ∀ e ∈ es, e.isHeaderRead = false := by
  rcases hBroken with rfl | ⟨n, r, _, _, rfl⟩
  · intro e he
    cases he
  · exact readEvents_noHeader hSite target r

theorem bodyRead_noHeader
    {off length : Nat}
    {body : Bytes}
    {es : List Event}
    (hBody : BodyRead off length body es) :
    ∀ e ∈ es, e.isHeaderRead = false := by
  cases hBody with
  | empty _ =>
      intro e he
      cases he
  | whole body _ =>
      intro e he
      simp only [List.mem_cons, List.not_mem_nil,
        or_false] at he
      rcases he with rfl | rfl
      · rfl
      · rfl
  | broken r _ =>
      exact readEvents_noHeader (fun h => by cases h) _ r

/- Events in front of the header byte. -/
theorem opensWithHeader_append
    {front : List Event}
    (hFront : ∀ e ∈ front, e.isHeaderRead = false)
    (header : UInt8) :
    OpensWithHeader (front ++ headerEvents header) := by
  refine
    ⟨front ++ [.rxStore 0 1],
      .netRead .header 1 [header] .success, ?_, rfl, ?_⟩
  · simp [headerEvents]
  · intro e he
    rcases List.mem_append.mp he with he | he
    · exact hFront e he
    · rw [List.mem_singleton.mp he]
      rfl

/- Every read that returned begins with its header byte. -/
theorem reads_opensWithHeader
    {size : Nat}
    {es : List Event}
    (hReads : Reads size true es) :
    OpensWithHeader es := by
  cases hReads with
  | noHeader r hFail =>
      refine
        ⟨[.rxStore 0 r.received.length],
          .netRead .header 1 r.received r.rc, rfl, rfl, ?_⟩
      intro e he
      rw [List.mem_singleton.mp he]
      rfl
  | noLength _ header field es last hField _ hLast _ =>
      apply opensWithHeader_append
      intro e he
      rcases List.mem_append.mp he with he | he
      · exact broken_noHeader (fun h => by cases h) hLast e he
      · exact fieldRead_noHeader hField e he
  | dropped _ header field body n es drains last hField _ _
      hDrain hLast _ =>
      apply opensWithHeader_append
      intro e he
      rcases List.mem_append.mp he with he | he
      · rcases List.mem_append.mp he with he | he
        · exact
            broken_noHeader (fun h => by cases h) hLast e he
        · exact drainRead_noHeader hDrain e he
      · exact fieldRead_noHeader hField e he
  | kept header field body n es reads last hField _ _ hBody
      hLast =>
      have hSplit :
          last ++ reads ++
              .rxStore 1 (writeLenToBuffer
                (UInt32.ofNat (n % sizeMax))).length ::
              (es ++ headerEvents header) =
            (last ++ reads ++
              .rxStore 1 (writeLenToBuffer
                (UInt32.ofNat (n % sizeMax))).length :: es) ++
              headerEvents header := by
        simp
      rw [hSplit]
      apply opensWithHeader_append
      intro e he
      rcases List.mem_append.mp he with he | he
      · rcases List.mem_append.mp he with he | he
        · rcases hLast with rfl | ⟨packet, rfl⟩
          · cases he
          · rw [List.mem_singleton.mp he]
            rfl
        · exact bodyRead_noHeader hBody e he
      · rcases List.mem_cons.mp he with rfl | he
        · rfl
        · exact fieldRead_noHeader hField e he

end Mqtt

end TrustOnboard

------------------------------------------------------------
-- The Outcome
------------------------------------------------------------

namespace TrustOnboard

namespace Mqtt

variable {E : Type}
variable {port : Port E}

/- A packet type is only reported with success. -/
theorem readPacket_code
    (fuel : Nat) :
    Triple (Contract.plain (Sys E) Event)
      (fun _ => True)
      (readPacket port fuel)
      (fun r _ => r.2.isSome = true → r.1 = .success) := by
  refine Triple.anything.bind ?_
  intro c
  refine Triple.anything.bind ?_
  intro _
  refine Triple.anything.bind ?_
  intro r
  cases r with
  | nothingToRead h =>
      exact Triple.pure (fun _ _ hNo => by cases hNo)
  | readTimeout bs hPos h =>
      exact Triple.pure (fun _ _ hNo => by cases hNo)
  | readError bs h =>
      exact Triple.pure (fun _ _ hNo => by cases hNo)
  | success bs h =>
      refine Triple.anything.bind ?_
      intro decoded
      cases decoded with
      | error rc =>
          exact Triple.pure (fun _ _ hNo => by cases hNo)
      | ok remLen =>
          refine Triple.anything.bind ?_
          intro c
          apply Triple.ite
          · intro _
            refine Triple.anything.bind ?_
            intro _
            exact Triple.pure (fun _ _ hNo => by cases hNo)
          · intro _
            refine Triple.anything.bind ?_
            intro _
            refine Triple.anything.bind ?_
            intro complete
            cases complete with
            | false =>
                exact
                  Triple.pure (fun _ _ hNo => by cases hNo)
            | true =>
                refine Triple.anything.bind ?_
                intro c
                refine Triple.anything.bind ?_
                intro _
                exact Triple.pure (fun _ _ _ => rfl)

/-
  What a read from world `w` has done when it returned: it
  read no packet and says so, or the packet is the newest
  event and stored in the receive buffer.
-/
structure ReadOutcome
    (w : Run E)
    (r : IoTError × Option UInt8)
    (w' : Run E) : Prop where
  client :
    ∃ readBuf,
      w'.st.client = { w.st.client with readBuf := readBuf }
  events :
    ∃ es,
      w'.log = es ++ w.log ∧
        (∀ e ∈ es, e.isReceive = true) ∧
          OpensWithHeader es ∧
            ((r.2 = none ∧ r.1 ≠ .success ∧
                ∀ e ∈ es, e.isPacketRead = false) ∨
              ∃ header body older,
                r = (.success, some (headerType header)) ∧
                  Stored w'.st.client.readBuf header body ∧
                    body.length < w.st.client.readBufSize ∧
                      es =
                        .rxPacket
                          (header ::
                            (lengthField body ++ body)) ::
                          older ∧
                        ∀ e ∈ older,
                          e.isPacketRead = false)

/- The events since a point are of the input kind. -/
def InputSince (l₀ : List Event) : Fact :=
  fun _ l => ∃ es, l = es ++ l₀ ∧ ∀ e ∈ es, e.isInput = true

theorem InputSince.cons
    {l₀ : List Event}
    (f : Frame)
    (l : List Event)
    (e : Event)
    (hInput : e.isInput = true)
    (hSince : InputSince l₀ f l) :
    InputSince l₀ f (e :: l) := by
  rcases hSince with ⟨es, rfl, hAll⟩
  refine ⟨e :: es, rfl, ?_⟩
  intro e' he'
  rcases List.mem_cons.mp he' with rfl | he'
  · exact hInput
  · exact hAll e' he'

theorem isPacketRead_of_isInput
    {e : Event}
    (hInput : e.isInput = true) :
    e.isPacketRead = false := by
  cases e <;> simp_all [Event.isInput, Event.isPacketRead]

theorem isReceive_of_isInput
    {e : Event}
    (hInput : e.isInput = true) :
    e.isReceive = true := by
  cases e <;> simp_all [Event.isInput, Event.isReceive]

/- A read only changes the receive buffer. -/
theorem readPacket_client
    (fuel : Nat)
    (c : Client) :
    Keeps (Contract.plain (Sys E) Event)
      (fun w : Run E =>
        ∃ readBuf,
          w.st.client = { c with readBuf := readBuf })
      (readPacket port fuel) := by
  refine
    (readPacket_receives fuel).triple (fun _ _ => trivial) ?_
  rintro s s' es l ⟨⟨readBuf, hClient⟩, _⟩ ⟨readBuf', hOld⟩
  refine ⟨readBuf, ?_⟩
  change s.client = _ at hOld
  change s'.client = _
  rw [hClient, hOld]

/- Every read that returns has such an outcome. -/
theorem readPacket_outcome
    {fuel : Nat}
    {w w' : Run E}
    {r : IoTError × Option UInt8}
    (hRun : (readPacket port fuel).run w = (some r, w')) :
    ReadOutcome w r w' := by
  have hPlain :
      ∀ {P : Run E → Prop}
        {Q : IoTError × Option UInt8 → Run E → Prop},
        Triple (Contract.plain (Sys E) Event) P
          (readPacket port fuel) Q →
            P w → Q r w' := by
    intro P Q hTriple hP
    rcases hTriple.of_run hP hRun with hNo | hQ
    · exact hNo.elim
    · exact hQ
  have hClient :=
    hPlain (readPacket_client fuel w.st.client)
      ⟨w.st.client.readBuf, rfl⟩
  have hStored :=
    hPlain
      (readPacket_stores port fuel w.st.client.readBufSize)
      rfl
  have hCode :=
    hPlain (readPacket_code fuel) trivial
  have hSince :=
    hPlain
      (in_readPacket_received (φ := fun _ => True)
        (I := InputSince w.log) (fun _ _ => trivial)
        InputSince.cons fuel)
      ⟨trivial, [], rfl, fun _ h => by cases h⟩
  rcases readPacket_events port fuel w with
    ⟨es, hLog, hReads⟩
  rw [hRun] at hLog hReads
  have hOpens := reads_opensWithHeader hReads
  refine ⟨hClient, es, hLog, ?_⟩
  cases hType : r.2 with
  | none =>
      have hLast := hSince.2
      rw [hType] at hLast
      rcases hLast with ⟨es', hLog', hAll⟩
      have hSame : es = es' :=
        List.append_cancel_right (hLog.symm.trans hLog')
      subst hSame
      refine
        ⟨fun e he => isReceive_of_isInput (hAll e he), hOpens,
          Or.inl ⟨rfl, ?_, ?_⟩⟩
      · intro hRc
        rcases hStored hRc with ⟨_, _, hSome, _⟩
        rw [hType] at hSome
        cases hSome
      · exact
          fun e he => isPacketRead_of_isInput (hAll e he)
  | some type =>
      have hRc : r.1 = .success := hCode (by rw [hType]; rfl)
      rcases hStored hRc with
        ⟨header, body, hHeader, hBuf, hSmall, _, l, hTop⟩
      have hLast := hSince.2
      rw [hType] at hLast
      rcases hLast with
        ⟨packet, l', hTop', _, es', hLog', hAll⟩
      rw [hTop] at hTop'
      cases hTop'
      have hSame :
          es =
            .rxPacket (header :: (lengthField body ++ body)) ::
              es' := by
        have hWhole :
            es ++ w.log =
              (.rxPacket
                  (header :: (lengthField body ++ body)) ::
                es') ++ w.log := by
          rw [← hLog, hTop, hLog', List.cons_append]
        exact List.append_cancel_right hWhole
      have hFound :
          r = (.success, some (headerType header)) := by
        rw [← hRc, ← hHeader]
      subst hSame
      refine ⟨?_, hOpens, Or.inr
        ⟨header, body, es', ?_, hBuf, hSmall, rfl, ?_⟩⟩
      · intro e he
        rcases List.mem_cons.mp he with rfl | he
        · rfl
        · exact isReceive_of_isInput (hAll e he)
      · exact hFound
      · exact
          fun e he => isPacketRead_of_isInput (hAll e he)

end Mqtt

end TrustOnboard
