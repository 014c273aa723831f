import TrustOnboard.Mqtt.Network
import TrustOnboard.Mqtt.Reading

/-
  Packet boundaries of the two byte streams.

  The bytes read from a connection and the bytes written to
  it are whole packets as long as no transfer stops inside a
  packet: a read behind the header byte that fails, a length
  field of more than four bytes, or a send that ends with
  part of its packet written.  Yield gives the connection up
  after some of these failures, so only the transfers of the
  connection in use count.

  Key definitions include:
    * `consumed`
    * `written`
    * `AtBoundary`
    * `inUse`
    * `torn`

  Key results include:
    * `reads_whole`
    * `sendPacket_whole`
    * `yieldRead_gives_up_iff`
    * `boundary_of_untorn`
-/

------------------------------------------------------------
-- The Streams Of A Connection
------------------------------------------------------------

namespace TrustOnboard

namespace Mqtt

/- The events since the connection in use was opened. -/
def sinceOpened : List Event → List Event
  | [] => []
  | e :: l =>
      if e.opensConnection then [] else e :: sinceOpened l

/- The bytes an event takes from the connection. -/
def Event.received : Event → Bytes
  | .netRead _ _ bs _ => bs
  | _ => []

/- The bytes an event puts on the connection. -/
def Event.sent : Event → Bytes
  | .netWrite _ bs _ => bs
  | _ => []

/- The bytes consumed since the connection was opened. -/
def consumed (l : List Event) : Bytes :=
  gather Event.received (sinceOpened l)

/- The bytes written since the connection was opened. -/
def written (l : List Event) : Bytes :=
  gather Event.sent (sinceOpened l)

/- The bytes are a sequence of whole packets. -/
def AtBoundary (bs : Bytes) : Prop :=
  ∃ ps : List Packet, bs = (ps.map Packet.bytes).flatten

/-
  A connection is given up when the network is destroyed.
  Two teardowns are no end: a disconnect whose destroy fails
  keeps the client connected, and so does a failed connect
  that finds the client connected again by a callback.
-/
def Event.givesUp : Event → Bool
  | .netDestroy .disconnect rc _ => decide (rc = .success)
  | .netDestroy .connect _ found => !isClientConnected found
  | .netDestroy .forceClientDisconnect _ _ => true
  | _ => false

/-
  The events on the connection in use: those since the last
  connection was opened or given up.
-/
def inUse : List Event → List Event
  | [] => []
  | e :: l =>
      if e.opensConnection || e.givesUp then []
      else e :: inUse l

/-
  How many bytes of the packet being sent are written.  A
  send goes on after a write that reports success and has not
  reached the end of the packet.
-/
def partWritten : List Event → Nat
  | [] => 0
  | .netWrite requested accepted rc :: l =>
      if rc = .success ∧
          partWritten l + accepted.length < requested then
        partWritten l + accepted.length
      else 0
  | .timerChecked _ true :: _ => 0
  | _ :: l => partWritten l

/-
  A read that stops inside a packet.  The header byte is the
  first byte of a packet, so a failing read of it leaves the
  stream where it was.
-/
def Event.misreads : Event → Bool
  | .netRead .header _ _ _ => false
  | .netRead (.length index) _ _ rc =>
      rc ≠ .success || maxNoOfRemainingLengthBytes ≤ index
  | .netRead .body _ _ rc => rc ≠ .success
  | .netRead .drain _ _ rc => rc ≠ .success
  | _ => false

/- Some read stops inside a packet. -/
def misread (es : List Event) : Bool :=
  es.any Event.misreads

/-
  A transfer after `l` that stops inside a packet.  A send
  stops when a write fails, when the writes have taken too
  many bytes or when its timer has expired.
-/
def tears (l : List Event) : Event → Bool
  | .netWrite requested accepted rc =>
      let total := partWritten l + accepted.length
      if total = requested then
        accepted ≠ [] && lengthLimit ≤ requested
      else
        total ≠ 0 && (rc ≠ .success || requested < total)
  | .timerChecked _ true => partWritten l ≠ 0
  | e => e.misreads

/- Some transfer stops inside a packet. -/
def torn : List Event → Bool
  | [] => false
  | e :: l => tears l e || torn l

theorem atBoundary_nil : AtBoundary [] :=
  ⟨[], rfl⟩

theorem atBoundary_packet
    (p : Packet) :
    AtBoundary p.bytes :=
  ⟨[p], by simp⟩

theorem AtBoundary.append
    {a b : Bytes}
    (hLeft : AtBoundary a)
    (hRight : AtBoundary b) :
    AtBoundary (a ++ b) := by
  rcases hLeft with ⟨ps, rfl⟩
  rcases hRight with ⟨qs, rfl⟩
  exact ⟨ps ++ qs, by simp⟩

/- Events that open no connection add to the streams. -/
theorem sinceOpened_append
    {es : List Event}
    (hSame : ∀ e ∈ es, Event.opensConnection e = false)
    (l : List Event) :
    sinceOpened (es ++ l) = es ++ sinceOpened l := by
  induction es with
  | nil => rfl
  | cons e es ih =>
      have hRest := ih (fun e' he' => hSame e' (by simp [he']))
      have hFirst := hSame e (by simp)
      rw [List.cons_append, sinceOpened, hFirst, hRest]
      rfl

theorem consumed_append
    {es : List Event}
    (hSame : ∀ e ∈ es, Event.opensConnection e = false)
    (l : List Event) :
    consumed (es ++ l) =
      consumed l ++ gather Event.received es := by
  unfold consumed
  rw [sinceOpened_append hSame, gather_append]

theorem written_append
    {es : List Event}
    (hSame : ∀ e ∈ es, Event.opensConnection e = false)
    (l : List Event) :
    written (es ++ l) =
      written l ++ gather Event.sent es := by
  unfold written
  rw [sinceOpened_append hSame, gather_append]

theorem inUse_append
    {es : List Event}
    (hSame :
      ∀ e ∈ es,
        Event.opensConnection e = false ∧
          Event.givesUp e = false)
    (l : List Event) :
    inUse (es ++ l) = es ++ inUse l := by
  induction es with
  | nil => rfl
  | cons e es ih =>
      have hRest := ih (fun e' he' => hSame e' (by simp [he']))
      have hFirst := hSame e (by simp)
      rw [List.cons_append, inUse, hFirst.1, hFirst.2, hRest]
      rfl

/- Behind a send that has ended, a log is read afresh. -/
theorem partWritten_append
    {l : List Event}
    (hEnded : partWritten l = 0)
    (es : List Event) :
    partWritten (es ++ l) = partWritten es := by
  induction es with
  | nil => exact hEnded
  | cons e es ih =>
      rw [List.cons_append]
      unfold partWritten
      split <;> simp_all

theorem torn_append
    {l : List Event}
    (hEnded : partWritten l = 0)
    (es : List Event) :
    torn (es ++ l) = (torn es || torn l) := by
  induction es with
  | nil => rfl
  | cons e es ih =>
      have hSame :
          tears (es ++ l) e = tears es e := by
        unfold tears
        rw [partWritten_append hEnded]
      rw [List.cons_append, torn, torn, ih, hSame,
        Bool.or_assoc]

theorem misread_append
    (es l : List Event) :
    misread (es ++ l) = (misread es || misread l) := by
  unfold misread
  rw [List.any_append]

/- Only a write begins a packet. -/
theorem partWritten_of_receive
    {es : List Event}
    (hKind : ∀ e ∈ es, Event.isReceive e = true) :
    partWritten es = 0 := by
  induction es with
  | nil => rfl
  | cons e es ih =>
      have hRest := ih (fun e' he' => hKind e' (by simp [he']))
      have hFirst := hKind e (by simp)
      unfold partWritten
      split <;> simp_all [Event.isReceive, Event.isInput]

/- Reading tears a packet by its reads only. -/
theorem torn_of_receive
    {es : List Event}
    (hKind : ∀ e ∈ es, Event.isReceive e = true) :
    torn es = misread es := by
  induction es with
  | nil => rfl
  | cons e es ih =>
      have hTail : ∀ e' ∈ es, Event.isReceive e' = true :=
        fun e' he' => hKind e' (by simp [he'])
      have hFirst := hKind e (by simp)
      have hEnded := partWritten_of_receive hTail
      have hSame : tears es e = e.misreads := by
        unfold tears
        split <;>
          simp_all [Event.isReceive, Event.isInput,
            Event.misreads]
      rw [torn, hSame, ih hTail]
      rfl

/- Reads and sends happen on one connection. -/
theorem givesUp_of_receive
    {e : Event}
    (hKind : e.isReceive = true) :
    e.givesUp = false := by
  cases e <;>
    simp_all [Event.isReceive, Event.isInput, Event.givesUp]

theorem givesUp_of_transmit
    {e : Event}
    (hKind : e.isTransmit = true) :
    e.givesUp = false := by
  cases e <;>
    simp_all [Event.isTransmit, Event.isOutput,
      Event.givesUp]

/- Other events move no bytes and start no packet. -/
theorem bytes_of_other
    {e : Event}
    (hOther : e.isOther = true) :
    e.received = [] ∧ e.sent = [] ∧ partWritten [e] = 0 ∧
      torn [e] = false := by
  cases e with
  | timerChecked timer expired =>
      cases expired <;> exact ⟨rfl, rfl, rfl, rfl⟩
  | _ =>
      simp_all [Event.isOther, Event.quiet, Event.isReceive,
        Event.isInput, Event.isTransmit, Event.isOutput,
        Event.received, Event.sent, partWritten, torn, tears,
        Event.misreads]

end Mqtt

end TrustOnboard

------------------------------------------------------------
-- Reading One Packet
------------------------------------------------------------

namespace TrustOnboard

namespace Mqtt

variable {size : Nat}

theorem received_of_fieldRead
    {field : Bytes}
    {es : List Event}
    (hField : FieldRead field es) :
    gather Event.received es = field := by
  induction hField with
  | nil => rfl
  | snoc field es b hField ih =>
      rw [gather, ih]
      rfl

/- A field read without failure has at most four bytes. -/
theorem length_of_fieldRead
    {field : Bytes}
    {es : List Event}
    (hField : FieldRead field es)
    (hWhole : misread es = false) :
    field.length ≤ maxNoOfRemainingLengthBytes := by
  cases hField with
  | nil => exact Nat.zero_le _
  | snoc field es b hField =>
      have hIndex :
          ¬ maxNoOfRemainingLengthBytes ≤ field.length := by
        intro hLong
        simp [misread, Event.misreads, hLong] at hWhole
      rw [List.length_append, List.length_singleton]
      omega

theorem received_of_drainRead
    {body : Bytes}
    {es : List Event}
    (hDrain : DrainRead size body es) :
    gather Event.received es = body := by
  induction hDrain with
  | nil => rfl
  | snoc body es bs hDrain hSize ih =>
      rw [gather, gather, ih]
      simp [Event.received]

/- A failing read behind the header byte stops inside the packet. -/
theorem misread_of_failed
    {n : Nat}
    {r : ReadResult n}
    (hFail : r.rc ≠ .success)
    {site : ReadSite}
    (hSite : site ≠ .header)
    (target : Option Nat) :
    misread (readEvents site target r) = true := by
  cases target with
  | none =>
      cases site with
      | header => exact absurd rfl hSite
      | length index => simp [misread, readEvents, Event.misreads, hFail]
      | body => simp [misread, readEvents, Event.misreads, hFail]
      | drain => simp [misread, readEvents, Event.misreads, hFail]
  | some off =>
      cases site with
      | header => exact absurd rfl hSite
      | length index => simp [misread, readEvents, Event.misreads, hFail]
      | body => simp [misread, readEvents, Event.misreads, hFail]
      | drain => simp [misread, readEvents, Event.misreads, hFail]

theorem nil_of_broken
    {site : ReadSite}
    {target : Option Nat}
    {bound : Nat}
    {es : List Event}
    (hSite : site ≠ .header)
    (hBroken : Broken site target bound es)
    (hWhole : misread es = false) :
    es = [] := by
  rcases hBroken with hNone | ⟨n, r, _, hFail, rfl⟩
  · exact hNone
  · rw [misread_of_failed hFail hSite target] at hWhole
    cases hWhole

theorem received_of_bodyRead
    {off length : Nat}
    {body : Bytes}
    {es : List Event}
    (hBody : BodyRead off length body es)
    (hWhole : misread es = false) :
    gather Event.received es = body ∧
      body.length = length := by
  cases hBody with
  | empty hNone => exact ⟨rfl, hNone.symm⟩
  | whole body hLength =>
      refine ⟨?_, hLength⟩
      simp [gather, Event.received]
  | broken r hFail =>
      rw [misread_of_failed hFail (by decide) _] at hWhole
      cases hWhole

/- The value of a short field is below the modulus. -/
theorem mod_of_short
    {field : Bytes}
    {n : Nat}
    (hValue : Base128 field n)
    (hShort : field.length ≤ maxNoOfRemainingLengthBytes) :
    n % sizeMax = n := by
  apply Nat.mod_eq_of_lt
  have hLt := hValue.lt_pow
  have hPow :
      128 ^ field.length ≤ 128 ^ maxNoOfRemainingLengthBytes :=
    Nat.pow_le_pow_right (by decide) hShort
  have hMax :
      128 ^ maxNoOfRemainingLengthBytes < sizeMax := by
    decide
  omega

/-
  A read that returns without such a failure has consumed nothing or
  one whole packet.
-/
theorem reads_whole
    {es : List Event}
    (hReads : Reads size true es)
    (hWhole : misread es = false) :
    gather Event.received es = [] ∨
      ∃ p : Packet, gather Event.received es = p.bytes := by
  cases hReads with
  | noHeader r hFail =>
      left
      have hNone : r.received = [] := by
        cases r with
        | success bs h => exact absurd rfl hFail
        | nothingToRead h => rfl
        | readTimeout bs hPos h => omega
        | readError bs h =>
            have hZero : bs.length = 0 := by omega
            exact List.length_eq_zero_iff.mp hZero
      simp [readEvents, gather, Event.received, hNone]
  | noLength _ header field es last hField hMore hLast
      hDone =>
      rw [misread_append, misread_append, Bool.or_eq_false_iff,
        Bool.or_eq_false_iff] at hWhole
      have hNone :=
        nil_of_broken (by simp) hLast hWhole.1.1
      exact absurd hNone (hDone rfl)
  | dropped _ header field body n es drains last hField
      hValue hLarge hDrain hLast hDone =>
      rw [misread_append, misread_append, misread_append,
        Bool.or_eq_false_iff, Bool.or_eq_false_iff,
        Bool.or_eq_false_iff] at hWhole
      rcases hWhole with ⟨⟨⟨hLastWhole, _⟩, hFieldWhole⟩, _⟩
      have hNone := nil_of_broken (by simp) hLast hLastWhole
      have hShort := length_of_fieldRead hField hFieldWhole
      have hLength := hDone rfl hNone
      rw [mod_of_short hValue hShort] at hLength
      rw [← hLength] at hValue
      right
      refine ⟨⟨header, field, body, hValue, hShort⟩, ?_⟩
      rw [hNone, gather_append, gather_append,
        received_of_fieldRead hField, List.nil_append,
        received_of_drainRead hDrain]
      simp [headerEvents, gather, Event.received,
        Packet.bytes]
  | kept header field body n es reads last hField hValue
      hSmall hBody hLast =>
      rw [List.append_cons, misread_append, misread_append,
        misread_append, misread_append, Bool.or_eq_false_iff,
        Bool.or_eq_false_iff, Bool.or_eq_false_iff,
        Bool.or_eq_false_iff] at hWhole
      rcases hWhole with
        ⟨⟨⟨_, hBodyWhole⟩, _⟩, hFieldWhole, _⟩
      have hShort := length_of_fieldRead hField hFieldWhole
      rcases received_of_bodyRead hBody hBodyWhole with
        ⟨hSame, hLength⟩
      rw [mod_of_short hValue hShort] at hLength
      rw [← hLength] at hValue
      have hNone : gather Event.received last = [] := by
        rcases hLast with rfl | ⟨packet, rfl⟩
        · rfl
        · rfl
      right
      refine ⟨⟨header, field, body, hValue, hShort⟩, ?_⟩
      rw [gather_append, gather_append, hNone, hSame, gather,
        gather_append, received_of_fieldRead hField]
      simp [headerEvents, gather, Event.received,
        Packet.bytes]

end Mqtt

end TrustOnboard

------------------------------------------------------------
-- Writing One Packet
------------------------------------------------------------

namespace TrustOnboard

namespace Mqtt

variable {E : Type}
variable {port : Port E}

/-
  The rounds of a send so far: `sent` bytes are written, and
  they are the first bytes of the packet unless a write has
  taken too many.
-/
structure Writing
    (packet : Bytes)
    (sent : Nat)
    (w : Run E) : Prop where
  load : w.st.client.writeBuf.load 0 packet.length = packet
  kind : ∀ e ∈ w.log, Event.isTransmit e = true
  part :
    partWritten w.log = if sent < packet.length then sent else 0
  whole :
    torn w.log = false →
      gather Event.sent w.log = packet.take sent ∧
        (packet.length ≤ sent → packet ≠ [] →
          sent = packet.length ∧ packet.length < lengthLimit)
  fits :
    sent ≤ packet.length → packet.length < lengthLimit →
      torn w.log = false

/- What a send leaves, however it ends. -/
structure Written
    (packet : Bytes)
    (l : List Event) : Prop where
  kind : ∀ e ∈ l, Event.isTransmit e = true
  ended : partWritten l = 0
  whole :
    torn l = false →
      gather Event.sent l = [] ∨
        (packet.length < lengthLimit ∧
          gather Event.sent l = packet)

/- The bytes of one write continue the packet. -/
theorem take_sent
    {packet : Bytes}
    {sent count : Nat}
    {w : Run E}
    (hLoad :
      w.st.client.writeBuf.load 0 packet.length = packet)
    (hFits : sent + count ≤ packet.length) :
    packet.take sent ++
        (w.st.client.writeBuf.load sent packet.length).take
          count =
      packet.take (sent + count) := by
  have hPrefix :
      ∀ k, k ≤ packet.length →
        packet.take k = w.st.client.writeBuf.load 0 k := by
    intro k hLe
    conv_lhs => rw [← hLoad]
    exact Buffer.take_load _ _ hLe
  rw [hPrefix sent (by omega), hPrefix _ hFits,
    Buffer.take_load _ _ (by omega), Buffer.load_add,
    Nat.zero_add]

/-
  A write behind `sent` bytes that does not tear has either
  left the packet unfinished and may go on, or written
  nothing at all, or reached the end of the packet.
-/
theorem sent_of_untorn
    {packet : Bytes}
    {rc : IoTError}
    {sent count : Nat}
    {l : List Event}
    {bs : Bytes}
    (hCount : bs.length = count)
    (hPart : partWritten l = sent)
    (hWhole :
      tears l (.netWrite packet.length bs rc) = false) :
    (rc = .success ∧ sent + count < packet.length) ∨
      sent + count = 0 ∨
      (sent + count = packet.length ∧
        (count ≠ 0 → packet.length < lengthLimit)) := by
  subst hCount hPart
  unfold tears at hWhole
  dsimp only at hWhole
  by_cases hEnd : partWritten l + bs.length = packet.length
  · right
    right
    refine ⟨hEnd, ?_⟩
    intro hSome
    rw [if_pos hEnd] at hWhole
    have hNonempty : bs ≠ [] := by
      rintro rfl
      exact hSome rfl
    simpa [hNonempty] using hWhole
  · rw [if_neg hEnd] at hWhole
    by_cases hZero : partWritten l + bs.length = 0
    · exact Or.inr (Or.inl hZero)
    · left
      simp only [hZero, ne_eq, not_false_eq_true, decide_true,
        Bool.true_and, Bool.or_eq_false_iff,
        decide_eq_false_iff_not, not_not, Nat.not_lt]
        at hWhole
      exact ⟨hWhole.1, by omega⟩

/- One write of the loop, when it succeeds. -/
theorem Writing.next
    {packet : Bytes}
    {sent count : Nat}
    (hLess : sent < packet.length)
    {w : Run E}
    (hWriting : Writing packet sent w)
    (hCount : count ≤ packet.length)
    (env : E) :
    Writing packet (sent + count)
      ⟨{ w.st with env := env },
        .netWrite packet.length
          ((w.st.client.writeBuf.load sent
            packet.length).take count) .success :: w.log⟩ := by
  rcases hWriting with ⟨hLoad, hKind, hPart, hRounds, hFits⟩
  rw [if_pos hLess] at hPart
  have hLength :
      ((w.st.client.writeBuf.load sent packet.length).take
        count).length = count := by
    rw [List.length_take, Buffer.length_load]
    omega
  refine ⟨hLoad, ?_, ?_, ?_, ?_⟩
  · intro e he
    rcases List.mem_cons.mp he with rfl | he
    · rfl
    · exact hKind e he
  · dsimp only
    rw [partWritten, hPart, hLength]
    simp
  · intro hWhole
    dsimp only at hWhole ⊢
    rw [torn, Bool.or_eq_false_iff] at hWhole
    rcases hWhole with ⟨hNow, hBefore⟩
    have hEarlier := hRounds hBefore
    have hCases := sent_of_untorn hLength hPart hNow
    refine ⟨?_, ?_⟩
    · rw [gather, hEarlier.1]
      exact take_sent hLoad (by omega)
    · intro hEnd _
      rcases hCases with ⟨_, hMore⟩ | hZero | ⟨hAll, hShort⟩
      · omega
      · omega
      · exact ⟨hAll, hShort (by omega)⟩
  · intro hLe hShort
    have hBefore := hFits (by omega) hShort
    dsimp only
    rw [torn, hBefore, Bool.or_false]
    unfold tears
    dsimp only
    rw [hPart, hLength]
    split
    · simp [Nat.not_le.mpr hShort]
    · simp [Nat.not_lt.mpr hLe]

/- A send whose write fails. -/
theorem Writing.failed
    {packet : Bytes}
    {sent count : Nat}
    (hLess : sent < packet.length)
    {w : Run E}
    (hWriting : Writing packet sent w)
    (hCount : count ≤ packet.length)
    {rc : IoTError}
    (hFail : rc ≠ .success) :
    Written packet
      (.netWrite packet.length
        ((w.st.client.writeBuf.load sent
          packet.length).take count) rc :: w.log) := by
  rcases hWriting with ⟨hLoad, hKind, hPart, hRounds, _⟩
  rw [if_pos hLess] at hPart
  have hLength :
      ((w.st.client.writeBuf.load sent packet.length).take
        count).length = count := by
    rw [List.length_take, Buffer.length_load]
    omega
  refine ⟨?_, ?_, ?_⟩
  · intro e he
    rcases List.mem_cons.mp he with rfl | he
    · rfl
    · exact hKind e he
  · rw [partWritten, if_neg (fun h => hFail h.1)]
  · intro hWhole
    rw [torn, Bool.or_eq_false_iff] at hWhole
    rcases hWhole with ⟨hNow, hBefore⟩
    have hEarlier := hRounds hBefore
    rw [gather, hEarlier.1]
    rcases sent_of_untorn hLength hPart hNow with
      ⟨hDone, _⟩ | hZero | ⟨hAll, hShort⟩
    · exact absurd hDone hFail
    · left
      rw [show sent = 0 by omega, show count = 0 by omega]
      simp [Event.sent]
    · right
      refine ⟨hShort (by omega), ?_⟩
      refine (take_sent hLoad (Nat.le_of_eq hAll)).trans ?_
      rw [hAll, List.take_length]

/- The answer of a timer that has not expired. -/
theorem Writing.timer
    {packet : Bytes}
    {sent : Nat}
    {w : Run E}
    (hWriting : Writing packet sent w)
    (timer : TimerName)
    (env : E) :
    Writing packet sent
      ⟨{ w.st with env := env },
        .timerChecked timer false :: w.log⟩ := by
  rcases hWriting with ⟨hLoad, hKind, hPart, hRounds, hFits⟩
  refine ⟨hLoad, ?_, hPart, ?_, hFits⟩
  · intro e he
    rcases List.mem_cons.mp he with rfl | he
    · rfl
    · exact hKind e he
  · intro hWhole
    have hBefore : torn w.log = false := by
      simpa [torn, tears, Event.misreads] using hWhole
    simpa [gather, Event.sent] using hRounds hBefore

/- A send whose timer has expired. -/
theorem Writing.expired
    {packet : Bytes}
    {sent : Nat}
    (hLess : sent < packet.length)
    {w : Run E}
    (hWriting : Writing packet sent w)
    (timer : TimerName) :
    Written packet (.timerChecked timer true :: w.log) := by
  rcases hWriting with ⟨_, hKind, hPart, hRounds, _⟩
  rw [if_pos hLess] at hPart
  refine ⟨?_, rfl, ?_⟩
  · intro e he
    rcases List.mem_cons.mp he with rfl | he
    · rfl
    · exact hKind e he
  · intro hWhole
    rw [torn, Bool.or_eq_false_iff] at hWhole
    rcases hWhole with ⟨hNow, hBefore⟩
    have hZero : sent = 0 := by
      simpa [tears, hPart] using hNow
    left
    rw [gather, (hRounds hBefore).1, hZero]
    simp [Event.sent]

/- A send that has reached the end of its packet. -/
theorem Writing.done
    {packet : Bytes}
    {sent : Nat}
    (hEnd : ¬ sent < packet.length)
    {w : Run E}
    (hWriting : Writing packet sent w) :
    Written packet w.log := by
  rcases hWriting with ⟨_, hKind, hPart, hRounds, _⟩
  rw [if_neg hEnd] at hPart
  refine ⟨hKind, hPart, ?_⟩
  intro hWhole
  rcases hRounds hWhole with ⟨hSent, hShort⟩
  rw [hSent]
  by_cases hEmpty : packet = []
  · left
    rw [hEmpty, List.take_nil]
  · right
    rcases hShort (by omega) hEmpty with ⟨hAll, hLimit⟩
    rw [hAll, List.take_length]
    exact ⟨hLimit, rfl⟩

/- What the rounds of a send leave, with their result. -/
def Rounds
    (packet : Bytes)
    (sent : Nat)
    (w : Run E) : Prop :=
  w.st.client.writeBuf.load 0 packet.length = packet ∧
    Written packet w.log ∧
    (sent = packet.length → packet.length < lengthLimit →
      torn w.log = false)

theorem rounds_of_short
    {packet : Bytes}
    {sent : Nat}
    {w : Run E}
    (hLess : sent < packet.length)
    (hLoad :
      w.st.client.writeBuf.load 0 packet.length = packet)
    (hWritten : Written packet w.log) :
    Rounds packet sent w :=
  ⟨hLoad, hWritten, fun hAll => absurd hAll (by omega)⟩

theorem sendRounds_writing
    (packet : Bytes)
    (fuel : Nat)
    (timer : TimerName) :
    Triple (Contract.plain (Sys E) Event)
      (Writing packet 0)
      (sendRounds port fuel packet.length timer)
      (Rounds packet) := by
  apply Triple.loop (Writing packet)
  · intro sent w _
    trivial
  intro sent
  apply Triple.ite
  · intro hLess
    refine Triple.bind
      (M := fun expired w =>
        if expired then Rounds packet sent w
        else Writing packet sent w) ?_ ?_
    · apply Triple.step
      intro w hWriting
      rcases hTimer : port.hasTimerExpired timer w.st.env with
        ⟨expired, env⟩
      simp only [List.singleton_append]
      right
      cases expired with
      | true =>
          exact rounds_of_short hLess hWriting.load
            (hWriting.expired hLess timer)
      | false => exact hWriting.timer timer env
    intro expired
    apply Triple.ite
    · intro hExpired
      subst hExpired
      exact Triple.pure (fun _ h => h)
    intro hMore
    have hFalse : expired = false := by simpa using hMore
    subst hFalse
    refine Triple.bind
      (M := fun r w =>
        if r.1 = .success then Writing packet (sent + r.2) w
        else Rounds packet sent w) ?_ ?_
    · apply Triple.step
      intro w hPre
      have hWriting : Writing packet sent w := hPre
      rcases hWrite :
        port.netWrite
          (w.st.client.writeBuf.load sent packet.length)
          w.st.env with ⟨r, env⟩
      have hCount : r.count ≤ packet.length :=
        Nat.le_trans r.count_le
          (Nat.le_of_eq (Buffer.length_load _ _ _))
      simp only [hWrite, List.singleton_append]
      right
      by_cases hDone : r.rc = .success
      · rw [if_pos hDone, hDone]
        exact hWriting.next hLess hCount env
      · rw [if_neg hDone]
        exact rounds_of_short hLess hWriting.load
          (hWriting.failed hLess hCount hDone)
    · intro r
      apply Triple.ite
      · intro hFail
        apply Triple.pure
        intro w hEither
        rwa [if_neg hFail] at hEither
      · intro hDone
        apply Triple.pure
        intro w hEither
        rwa [if_pos (not_not.mp hDone)] at hEither
  · intro hEnd
    apply Triple.pure
    intro w hWriting
    refine ⟨hWriting.load, hWriting.done hEnd, ?_⟩
    intro hAll hShort
    exact hWriting.fits (Nat.le_of_eq hAll) hShort

/-
  A whole send, from an empty log.  One that succeeds has torn
  nothing.
-/
theorem sendPacket_written
    (hSingle : port.threadSupport = false)
    (packet : Bytes)
    (fuel : Nat)
    (timer : TimerName) :
    Triple (Contract.plain (Sys E) Event)
      (fun w =>
        w.st.client.writeBuf.load 0 packet.length = packet ∧
          w.log = [])
      (sendPacket port fuel packet.length timer)
      (fun rc w =>
        Written packet w.log ∧
          (rc = .success → packet.length < lengthLimit →
            torn w.log = false)) := by
  have hNone : ∀ e ∈ ([] : List Event), e.isTransmit = true :=
    fun e he => by cases he
  rw [sendPacket_single hSingle]
  refine Triple.seq (Triple.read (fun _ h => h)) ?_
  intro c
  apply Triple.ite
  · intro _
    apply Triple.pure
    rintro w ⟨_, hLog⟩
    rw [hLog]
    exact
      ⟨⟨hNone, rfl, fun _ => Or.inl rfl⟩, fun _ _ => rfl⟩
  · intro _
    refine
      ((sendRounds_writing packet fuel timer).pre ?_).bind ?_
    · rintro w ⟨hLoad, hLog⟩
      refine ⟨hLoad, ?_, ?_, ?_, ?_⟩
      · rw [hLog]
        exact hNone
      · rw [hLog]
        simp [partWritten]
      · intro _
        rw [hLog]
        refine ⟨rfl, ?_⟩
        intro hLe hSome
        exact absurd (List.length_eq_zero_iff.mp (by omega)) hSome
      · intro _ _
        rw [hLog]
        rfl
    · intro sent
      apply Triple.ite
      · intro hAll
        refine Triple.bind
          (M := fun _ w =>
            Written packet w.log ∧
              (packet.length < lengthLimit →
                torn w.log = false)) ?_
          (fun _ => Triple.pure (fun _ h => ⟨h.1, fun _ => h.2⟩))
        apply Triple.emit
        rintro w ⟨_, ⟨hKind, hEnded, hRounds⟩, hUntorn⟩
        have hSame :
            ∀ packet',
              torn (.txPacket packet' :: w.log) =
                torn w.log := by
          intro packet'
          simp [torn, tears, Event.misreads]
        right
        refine ⟨⟨?_, hEnded, ?_⟩, ?_⟩
        · intro e he
          rcases List.mem_cons.mp he with rfl | he
          · rfl
          · exact hKind e he
        · intro hWhole
          rw [hSame] at hWhole
          simpa [gather, Event.sent] using hRounds hWhole
        · intro hShort
          exact (hSame _).trans (hUntorn hAll hShort)
      · intro _
        apply Triple.pure
        intro w hRounds
        exact ⟨hRounds.2.1, fun hNo => by cases hNo⟩

/- The events any send adds to the log. -/
theorem sendPacket_events
    (hSingle : port.threadSupport = false)
    {fuel length : Nat}
    {timer : TimerName}
    {w w' : Run E}
    {rc : IoTError}
    {es : List Event}
    (hRun :
      (sendPacket port fuel length timer).run w =
        (some rc, w'))
    (hLog : w'.log = es ++ w.log) :
    Written (w.st.client.writeBuf.load 0 length) es ∧
      (rc = .success → length < lengthLimit →
        torn es = false) := by
  have hSend :=
    sendPacket_written hSingle
      (w.st.client.writeBuf.load 0 length) fuel timer
  rw [Buffer.length_load] at hSend
  exact
    Triple.of_events
      (P := fun s =>
        s.client.writeBuf.load 0 length =
          w.st.client.writeBuf.load 0 length)
      (Q := fun rc _ es =>
        Written (w.st.client.writeBuf.load 0 length) es ∧
          (rc = .success → length < lengthLimit →
            torn es = false)) hSend rfl hRun hLog

end Mqtt

end TrustOnboard

------------------------------------------------------------
-- Whole Packets
------------------------------------------------------------

namespace TrustOnboard

namespace Mqtt

variable {E : Type}
variable {port : Port E}
variable {l₀ : List Event}

/-
  Both streams of the connection in use are whole packets,
  unless a transfer on it since the given log tore one.  No
  send is under way.
-/
def Whole (l₀ l : List Event) : Prop :=
  ∃ es, l = es ++ l₀ ∧ partWritten (inUse es) = 0 ∧
    (torn (inUse es) = false →
      AtBoundary (consumed l) ∧ AtBoundary (written l))

theorem Whole.extends
    {l : List Event}
    (hWhole : Whole l₀ l) :
    ∃ es, l = es ++ l₀ := by
  rcases hWhole with ⟨es, hLog, _⟩
  exact ⟨es, hLog⟩

/- Transfers that keep the boundaries unless they tear. -/
theorem Whole.append
    {es l : List Event}
    (hWhole : Whole l₀ l)
    (hSame :
      ∀ e ∈ es,
        Event.opensConnection e = false ∧
          Event.givesUp e = false)
    (hEnded : partWritten es = 0)
    (hBytes :
      torn es = false →
        AtBoundary (gather Event.received es) ∧
          AtBoundary (gather Event.sent es)) :
    Whole l₀ (es ++ l) := by
  rcases hWhole with ⟨es', rfl, hBase, hBefore⟩
  have hOpens : ∀ e ∈ es, Event.opensConnection e = false :=
    fun e he => (hSame e he).1
  refine ⟨es ++ es', (List.append_assoc _ _ _).symm, ?_, ?_⟩
  · rw [inUse_append hSame, partWritten_append hBase, hEnded]
  · intro hUntorn
    rw [inUse_append hSame, torn_append hBase,
      Bool.or_eq_false_iff] at hUntorn
    have hNow := hBytes hUntorn.1
    have hEarlier := hBefore hUntorn.2
    rw [consumed_append hOpens, written_append hOpens]
    exact
      ⟨hEarlier.1.append hNow.1, hEarlier.2.append hNow.2⟩

/- A new connection starts at a boundary. -/
theorem whole_of_opens
    {e : Event}
    {l : List Event}
    (hOpens : e.opensConnection = true)
    (hExt : ∃ es, l = es ++ l₀) :
    Whole l₀ (e :: l) := by
  rcases hExt with ⟨es, rfl⟩
  refine ⟨e :: es, rfl, ?_, ?_⟩
  · rw [inUse, hOpens]
    rfl
  · intro _
    have hFresh : sinceOpened (e :: (es ++ l₀)) = [] := by
      rw [sinceOpened, hOpens]
      rfl
    unfold consumed written
    rw [hFresh]
    exact ⟨atBoundary_nil, atBoundary_nil⟩

/- Every other event on the connection keeps the boundaries. -/
theorem whole_of_other
    {e : Event}
    (l : List Event)
    (hOther : e.isOther = true)
    (hKept : e.givesUp = false)
    (hWhole : Whole l₀ l) :
    Whole l₀ (e :: l) := by
  cases hOpens : e.opensConnection with
  | true => exact whole_of_opens hOpens hWhole.extends
  | false =>
      rcases bytes_of_other hOther with
        ⟨hNoRead, hNoSent, hEnded, _⟩
      have hAppend : Whole l₀ ([e] ++ l) := by
        apply hWhole.append
        · intro e' he'
          rw [List.mem_singleton.mp he']
          exact ⟨hOpens, hKept⟩
        · exact hEnded
        · intro _
          simp [gather, hNoRead, hNoSent, atBoundary_nil]
      exact hAppend

/- Reading writes nothing. -/
theorem sent_of_receive
    {e : Event}
    (hKind : e.isReceive = true) :
    e.sent = [] := by
  cases e <;>
    simp_all [Event.isReceive, Event.isInput, Event.sent]

/- Writing reads nothing. -/
theorem received_of_transmit
    {e : Event}
    (hKind : e.isTransmit = true) :
    e.received = [] := by
  cases e <;>
    simp_all [Event.isTransmit, Event.isOutput,
      Event.received]

/- The log grows by events of one kind. -/
def GrownBy
    (kind : Event → Bool)
    (l₀ l : List Event) : Prop :=
  ∃ es, l = es ++ l₀ ∧ ∀ e ∈ es, kind e = true

theorem grownBy_cons
    {kind : Event → Bool}
    {l : List Event}
    {e : Event}
    (hKind : kind e = true)
    (hGrown : GrownBy kind l₀ l) :
    GrownBy kind l₀ (e :: l) := by
  rcases hGrown with ⟨es, rfl, hEvents⟩
  refine ⟨e :: es, rfl, ?_⟩
  intro e' he'
  rcases List.mem_cons.mp he' with rfl | he'
  · exact hKind
  · exact hEvents e' he'

/- Reading a packet keeps the boundaries. -/
theorem readPacket_whole
    (φ : ClientState → Prop)
    (fuel : Nat) :
    Triple (Contract.plain (Sys E) Event)
      (Holds (In φ (fun _ l => Whole l₀ l)))
      (readPacket port fuel)
      (fun _ => Holds (In φ (fun _ l => Whole l₀ l))) := by
  rintro w ⟨hState, hWhole⟩
  have hGrown :
      Triple (Contract.plain (Sys E) Event)
        (Holds
          (In φ (fun _ l =>
            GrownBy Event.isReceive w.log l)))
        (readPacket port fuel)
        (fun _ =>
          Holds
            (In φ (fun _ l =>
              GrownBy Event.isReceive w.log l))) :=
    in_readPacket (fun _ _ => trivial)
      (fun _ _ _ hKind => grownBy_cons hKind) fuel
  have hMeets :=
    hGrown w ⟨hState, [], rfl, fun e he => by cases he⟩
  rcases readPacket_events port fuel w with
    ⟨es, hLog, hReads⟩
  rcases hMeets with hNo | hMeets
  · exact hNo.elim
  right
  cases hRes : ((readPacket port fuel).run w).1 with
  | none => trivial
  | some r =>
      rw [hRes] at hMeets hReads
      rcases hMeets with ⟨hState', es', hLog', hKind⟩
      rw [hLog] at hLog'
      have hSame := List.append_cancel_right hLog'
      rw [← hSame] at hKind
      refine ⟨hState', ?_⟩
      dsimp only
      rw [hLog]
      apply hWhole.append
      · intro e he
        exact
          ⟨opens_of_receive (hKind e he),
            givesUp_of_receive (hKind e he)⟩
      · exact partWritten_of_receive hKind
      · intro hUntorn
        rw [torn_of_receive hKind] at hUntorn
        rw [gather_of_none
          (fun e he => sent_of_receive (hKind e he))]
        refine ⟨?_, atBoundary_nil⟩
        rcases reads_whole hReads hUntorn with
          hNone | ⟨p, hOne⟩
        · rw [hNone]
          exact atBoundary_nil
        · rw [hOne]
          exact atBoundary_packet p

/- Sending a packet keeps the boundaries. -/
theorem sendPacket_whole
    (hSingle : port.threadSupport = false)
    (φ : ClientState → Prop)
    (fuel length : Nat)
    (timer : TimerName) :
    Triple (Contract.plain (Sys E) Event)
      (fun w =>
        Sendable (w.st.client.writeBuf.load 0 length) ∧
          Holds (In φ (fun _ l => Whole l₀ l)) w)
      (sendPacket port fuel length timer)
      (fun _ => Holds (In φ (fun _ l => Whole l₀ l))) := by
  rintro w ⟨hSendable, hState, hWhole⟩
  have hKept :
      Triple (Contract.plain (Sys E) Event)
        (Holds (In φ (fun _ _ => True)))
        (sendPacket port fuel length timer)
        (fun _ => Holds (In φ (fun _ _ => True))) :=
    in_sendPacket hSingle (fun _ _ => trivial)
      (fun _ _ _ _ _ => trivial) fuel length timer
  rcases hKept w ⟨hState, trivial⟩ with hNo | hMeets
  · exact hNo.elim
  right
  cases hRes :
      ((sendPacket port fuel length timer).run w).1 with
  | none => trivial
  | some rc =>
      rw [hRes] at hMeets
      rcases
        (sendPacket port fuel length timer).run_log_suffix w
        with ⟨es, hLog⟩
      rcases
        (sendPacket_events hSingle
          (Prog.run_of_returns hRes) hLog).1 with
        ⟨hKind, hEnded, hWritten⟩
      refine ⟨hMeets.1, ?_⟩
      dsimp only
      rw [hLog]
      apply hWhole.append
      · intro e he
        exact
          ⟨opens_of_transmit (hKind e he),
            givesUp_of_transmit (hKind e he)⟩
      · exact hEnded
      · intro hUntorn
        rw [gather_of_none
          (fun e he => received_of_transmit (hKind e he))]
        refine ⟨atBoundary_nil, ?_⟩
        rcases hWritten hUntorn with hNone | ⟨hShort, hAll⟩
        · rw [hNone]
          exact atBoundary_nil
        · rcases hSendable hShort with ⟨p, hPacket⟩
          rw [hAll, ← hPacket]
          exact atBoundary_packet p

end Mqtt

end TrustOnboard

------------------------------------------------------------
-- Yield
------------------------------------------------------------

namespace TrustOnboard

namespace Mqtt

variable {E : Type}
variable {port : Port E}

/-
  The regime of the packet boundaries.  They are followed
  while the client is connected; whatever calls and callbacks
  do, a client becomes connected on a new connection only.
-/
def boundaryRegime (l₀ : List Event) : Regime E where
  contract := Contract.plain (Sys E) Event
  live := fun _ l => Whole l₀ l
  down := fun _ l => ∃ es, l = es ++ l₀
  cut := True
  allowed := fun _ => True

variable {l₀ : List Event}

/- A fact that keeps the boundaries or asks for nothing. -/
theorem boundaryRegime_mode
    {I : Fact}
    (hMode : (boundaryRegime (E := E) l₀).Mode I) :
    (I = fun _ l => Whole l₀ l) ∨
      I = fun _ l => ∃ es, l = es ++ l₀ := by
  rcases hMode with hLive | ⟨_, hDown⟩
  · exact Or.inl hLive
  · exact Or.inr hDown

theorem givesUp_of_neutral
    {e : Event}
    (hNeutral : e.neutral = true) :
    e.givesUp = false := by
  cases e <;>
    simp_all [Event.neutral, Event.quiet, Event.givesUp]

theorem boundaryRegime_lawful
    (hSingle : port.threadSupport = false)
    (l₀ : List Event) :
    (boundaryRegime (E := E) l₀).Lawful port where
  single := hSingle
  halt_live := fun _ _ => trivial
  halt_down := fun _ _ => trivial
  neutral_live := fun _ l _ hE hWhole =>
    whole_of_other l (isOther_of_neutral hE)
      (givesUp_of_neutral hE) hWhole
  neutral_down := fun _ l e _ hExt => extends_cons l e hExt
  read := by
    intro φ I fuel hMode
    rcases boundaryRegime_mode hMode with rfl | rfl
    · exact readPacket_whole φ fuel
    · exact
        in_readPacket (fun _ _ => trivial)
          (fun _ l e _ hExt => extends_cons l e hExt) fuel
  send := by
    intro φ I fuel length timer hMode
    rcases boundaryRegime_mode hMode with rfl | rfl
    · exact sendPacket_whole hSingle φ fuel length timer
    · exact
        (in_sendPacket hSingle (fun _ _ => trivial)
          (fun _ l e _ hExt => extends_cons l e hExt) fuel
          length timer).pre (fun _ h => h.2)
  connected := fun _ _ hExt => Or.inr (whole_of_opens rfl hExt)
  refused := fun _ l _ _ hExt => extends_cons l _ hExt
  destroyed := by
    intro f l site rc found _ hEither
    refine extends_cons l _ ?_
    rcases hEither with hWhole | hExt
    · exact hWhole.extends
    · exact hExt
  destroyedCut := by
    intro s f l rc _ hRest
    refine Or.inr ⟨hRest.1, ?_, ?_⟩
    · intro hOn
      refine whole_of_other l rfl ?_ (hRest.2.1 hOn)
      rw [Event.givesUp, hOn]
      rfl
    · intro hOff
      exact extends_cons l _ (hRest.2.2 hOff)
  closed := by
    intro I f l found hMode hI
    refine extends_cons l _ ?_
    rcases boundaryRegime_mode hMode with rfl | rfl
    · exact hI.extends
    · exact hI
  notClosed := by
    intro I f l rc found hMode hRc hI
    rcases boundaryRegime_mode hMode with rfl | rfl
    · exact Or.inr
        (whole_of_other l rfl (decide_eq_false hRc) hI)
    · exact Or.inr (extends_cons l _ hI)
  handlerConnected := fun _ l _ _ hWhole =>
    Or.inr (extends_cons l _ hWhole.extends)
  handlerDisconnected := fun _ l _ hExt =>
    extends_cons l _ hExt
  ret_live := fun _ l _ _ _ hWhole =>
    whole_of_other l rfl rfl hWhole
  ret_down := fun _ l _ _ _ hExt => extends_cons l _ hExt
  uncut := fun _ _ hNo _ _ => absurd trivial hNo
  calls := fun _ _ _ _ _ _ => trivial
  reset := by
    intro f l hEither
    refine Or.inr (extends_cons l _ ?_)
    rcases hEither with hWhole | hExt
    · exact hWhole.extends
    · exact hExt

theorem boundaryRegime_tableBlind :
    (boundaryRegime (E := E) l₀).TableBlind where
  table := by
    intro I f l table hSide hI
    rcases hSide with rfl | rfl
    · exact hI
    · exact hI
  registered := by
    intro I f l slot previous hSide hI
    rcases hSide with rfl | rfl
    · exact whole_of_other l rfl rfl hI
    · exact extends_cons l _ hI
  ret := by
    intro I f l c rc hSide hI
    rcases hSide with rfl | rfl
    · exact whole_of_other l rfl rfl hI
    · exact extends_cons l _ hI

/- Yield on a client that is not at rest returns at once. -/
theorem yield_whole_busy
    {l₀ : List Event}
    {s : ClientState}
    (hBusy : s.isStable = false)
    (fuel : Nat)
    (waiting : Bool)
    (timeoutMs : UInt32) :
    Triple (Contract.plain (Sys E) Event)
      (Holds (At s (fun _ l => Whole l₀ l)))
      (api port fuel waiting (.yield timeoutMs))
      (fun _ => Holds (At s (fun _ l => Whole l₀ l))) := by
  have hIdle : s ≠ .connectedIdle := by
    rintro rfl
    cases hBusy
  have hPending : s ≠ .pendingReconnect := by
    rintro rfl
    cases hBusy
  cases fuel with
  | zero => exact Triple.stop (fun _ _ => trivial)
  | succ fuel =>
      refine Triple.bind
        (M := fun _ =>
          Holds (At s (fun _ l => Whole l₀ l))) ?_ ?_
      · apply Triple.emit
        rintro w ⟨hState, hWhole⟩
        exact Or.inr ⟨hState, whole_of_other _ rfl rfl hWhole⟩
      intro _
      refine
        Regime.holds_logReturn (φ := fun _ => True) ?_
          ((Regime.yield_busy hIdle hPending fuel
            timeoutMs).post (fun _ _ h => ⟨trivial, h⟩))
      rintro s' f l rc _ ⟨hState, hWhole⟩
      exact ⟨hState, whole_of_other _ rfl rfl hWhole⟩

/-
  A client that is connected when yield returns is at the
  boundaries, from every state.
-/
theorem yield_whole
    (hSingle : port.threadSupport = false)
    (l₀ : List Event)
    (fuel : Nat)
    (waiting : Bool)
    (timeoutMs : UInt32) :
    Triple (Contract.plain (Sys E) Event)
      (fun w => Whole l₀ w.log)
      (api port fuel waiting (.yield timeoutMs))
      (fun _ w =>
        isClientConnected w.st.client.clientState = true →
          Whole l₀ w.log) := by
  have hLawful := boundaryRegime_lawful (E := E) hSingle l₀
  have hSpec :=
    hLawful.callSpec
      (hLawful.tableLaws boundaryRegime_tableBlind) fuel
  intro w hWhole
  cases hStable : w.st.client.clientState.isStable with
  | true =>
      exact
        ((hSpec.2 waiting (.yield timeoutMs)
          (fun _ => trivial)).post
            (fun _ _ hRest => hRest.2.1)) w
          ⟨hStable, fun _ => hWhole, fun _ => hWhole.extends⟩
  | false =>
      exact
        ((yield_whole_busy hStable fuel waiting
          timeoutMs).post (fun _ _ h _ => h.2)) w
          ⟨rfl, hWhole⟩

end Mqtt

end TrustOnboard

------------------------------------------------------------
-- What Yield Notices
------------------------------------------------------------

namespace TrustOnboard

namespace Mqtt

variable {E : Type}
variable {port : Port E}
variable {callback : Callback E}
variable {onLost : HandlerId → Nat → Code E Unit}

/-
  The reads whose failure reaches yield with its own code.
  The body and the drain loop report other codes.
-/
def Event.fatal : Event → Bool
  | .netRead .header _ _ rc => isTerminal rc
  | .netRead (.length _) _ _ rc => isTerminal rc
  | _ => false

/- Some read fails with a code that yield takes for a loss. -/
def fatal (es : List Event) : Bool :=
  es.any Event.fatal

/- A program that meets no fatal read. -/
abbrev NotFatal (w : Run E) : Prop :=
  fatal w.log = false

theorem decodePacketRemainingLen_terminal
    (fuel : Nat) :
    Triple (Contract.plain (Sys E) Event) NotFatal
      (decodePacketRemainingLen port fuel)
      (fun res w =>
        match res with
        | .error rc => isTerminal rc = fatal w.log
        | .ok _ => NotFatal w) := by
  refine
    Triple.loop (fun _ => NotFatal) (fun _ _ _ => trivial) ?_
  intro v
  refine Triple.ite ?_ ?_
  · intro _
    exact Triple.pure (fun _ hNone => hNone.symm)
  · intro _
    refine Triple.bind
      (M := fun r w => fatal w.log = isTerminal r.rc) ?_ ?_
    · apply Triple.step
      intro w hNone
      right
      have hBefore : w.log.any Event.fatal = false := hNone
      simp [fatal, Event.fatal, hBefore]
    · intro r
      cases r with
      | success bs h =>
          refine Triple.ite ?_ ?_
          · intro _
            exact Triple.pure (fun _ h => h)
          · intro _
            exact Triple.pure (fun _ h => h)
      | nothingToRead h =>
          exact Triple.pure (fun _ h => h.symm)
      | readTimeout bs hPos h =>
          exact Triple.pure (fun _ h => h.symm)
      | readError bs h =>
          exact Triple.pure (fun _ h => h.symm)

/- A read behind the length field is not fatal. -/
theorem netRead_notFatal
    {site : ReadSite}
    (hSite : site = .body ∨ site = .drain)
    (off n : Nat) :
    Triple (Contract.plain (Sys E) Event) NotFatal
      (netRead port site (some off) n)
      (fun _ => NotFatal) := by
  apply Triple.step
  intro w hNone
  right
  have hBefore : w.log.any Event.fatal = false := hNone
  rcases hSite with rfl | rfl
  · simp [NotFatal, fatal, Event.fatal, hBefore]
  · simp [NotFatal, fatal, Event.fatal, hBefore]

theorem drainPacket_notFatal
    (fuel remLen size : Nat) :
    Triple (Contract.plain (Sys E) Event) NotFatal
      (drainPacket port fuel remLen size)
      (fun _ => NotFatal) := by
  refine
    Triple.loop (fun _ => NotFatal) (fun _ _ _ => trivial) ?_
  intro v
  refine (netRead_notFatal (Or.inr rfl) 0 v.2).bind ?_
  intro r
  cases r with
  | success bs h =>
      refine Triple.ite ?_ ?_
      · intro _
        exact Triple.pure (fun _ h => h)
      · intro _
        exact Triple.pure (fun _ h => h)
  | nothingToRead h => exact Triple.pure (fun _ h => h)
  | readTimeout bs hPos h => exact Triple.pure (fun _ h => h)
  | readError bs h => exact Triple.pure (fun _ h => h)

/- The code of the read is terminal after a fatal read only. -/
theorem readPacket_terminal
    (port : Port E)
    (fuel : Nat) :
    Triple (Contract.plain (Sys E) Event) NotFatal
      (readPacket port fuel)
      (fun r w => isTerminal r.1 = fatal w.log) := by
  refine Triple.seq (Triple.read (fun _ h => h)) ?_
  intro c
  refine Triple.seq (Triple.modify (fun _ h => h)) ?_
  intro _
  refine Triple.bind
    (M := fun r w => fatal w.log = isTerminal r.rc) ?_ ?_
  · apply Triple.step
    intro w hNone
    right
    have hBefore : w.log.any Event.fatal = false := hNone
    simp [fatal, Event.fatal, hBefore]
  intro r
  cases r with
  | nothingToRead h => exact Triple.pure (fun _ h => h.symm)
  | readTimeout bs hPos h =>
      exact Triple.pure (fun _ h => h.symm)
  | readError bs h => exact Triple.pure (fun _ h => h.symm)
  | success bs h =>
      refine
        ((decodePacketRemainingLen_terminal fuel).pre
          (fun _ h => h)).bind ?_
      intro decoded
      cases decoded with
      | error rc => exact Triple.pure (fun _ h => h)
      | ok remLen =>
          refine Triple.seq (Triple.read (fun _ h => h)) ?_
          intro c
          refine Triple.ite ?_ ?_
          · intro _
            refine (drainPacket_notFatal fuel remLen _).bind ?_
            intro _
            exact Triple.pure (fun _ h => h.symm)
          · intro _
            refine Triple.bind (M := fun _ => NotFatal)
              (Triple.step (fun _ h => Or.inr h)) ?_
            intro _
            refine Triple.bind (M := fun _ => NotFatal) ?_ ?_
            · refine Triple.ite ?_ ?_
              · intro _
                refine
                  (netRead_notFatal (Or.inl rfl) _ _).bind ?_
                intro r
                cases r <;>
                  exact Triple.pure (fun _ h => h)
              · intro _
                exact Triple.pure (fun _ h => h)
            · intro complete
              refine Triple.ite ?_ ?_
              · intro _
                refine Triple.seq (Triple.read (fun _ h => h)) ?_
                intro c
                refine Triple.bind (M := fun _ => NotFatal)
                  (Triple.emit (fun _ h => Or.inr h)) ?_
                intro _
                exact Triple.pure (fun _ h => h.symm)
              · intro _
                exact Triple.pure (fun _ h => h.symm)

/- The same for the events of a run. -/
theorem readPacket_terminal_run
    {fuel : Nat}
    {w w' : Run E}
    {r : IoTError × Option UInt8}
    {es : List Event}
    (hRead : (readPacket port fuel).run w = (some r, w'))
    (hLog : w'.log = es ++ w.log) :
    isTerminal r.1 = fatal es := by
  have hCode :=
    (readPacket_terminal port fuel).pre
      (P := fun w => True ∧ w.log = [])
      (fun w h => by rw [NotFatal, h.2]; rfl)
  exact
    Triple.of_events (P := fun _ => True)
      (Q := fun r _ es => isTerminal r.1 = fatal es)
      hCode trivial hRead hLog

/- Whatever its handler does, a lost client is disconnected. -/
theorem handleDisconnect_state
    (fuel : Nat) :
    Triple (Contract.plain (Sys E) Event) (fun _ => True)
      (handleDisconnect port fuel onLost)
      (fun _ w =>
        w.st.client.clientState = .disconnectedError) := by
  refine Triple.anything.bind ?_
  intro _
  refine Triple.anything.bind ?_
  intro _
  refine Triple.anything.bind ?_
  intro _
  refine Triple.bind
    (M := fun _ w =>
      w.st.client.clientState = .disconnectedError)
    (Triple.step (fun _ _ => Or.inr rfl)) ?_
  intro _
  exact Triple.pure (fun _ h => h)

/-
  A round whose own read failed.  The client stays connected
  unless the header byte or a length byte failed with one of
  the codes yield takes for a lost connection.
-/
theorem yieldRead_gives_up_iff
    (hSingle : port.threadSupport = false)
    {fuel : Nat}
    {w w₁ w' : Run E}
    {r : IoTError × Option UInt8}
    {es : List Event}
    {rc : IoTError}
    (hRead : (readPacket port fuel).run w = (some r, w₁))
    (hLog : w₁.log = es ++ w.log)
    (hFailed : r.1 ≠ .success ∧ r.1 ≠ .mqttNothingToRead)
    (hRound :
      (yieldRead port fuel callback onLost).run w =
        (some rc, w')) :
    isClientConnected w'.st.client.clientState =
      (isClientConnected w.st.client.clientState &&
        !fatal es) := by
  have hState :
      w₁.st.client.clientState = w.st.client.clientState := by
    have hKept :
        Triple (Contract.plain (Sys E) Event)
          (Holds (In (fun s => s = w.st.client.clientState)
            (fun _ _ => True)))
          (readPacket port fuel)
          (fun _ => Holds
            (In (fun s => s = w.st.client.clientState)
              (fun _ _ => True))) :=
      in_readPacket (fun _ _ => trivial)
        (fun _ _ _ _ _ => trivial) fuel
    rcases hKept.of_run ⟨rfl, trivial⟩ hRead with hNo | hIn
    · exact hNo.elim
    · exact hIn.1
  have hCycle :
      (cycleRead port fuel callback .yield).run w =
        (some r, w₁) := by
    rw [cycleRead_single hSingle,
      Prog.run_bind_of_run hRead, if_neg hFailed.2,
      if_pos hFailed.1]
    rfl
  unfold yieldRead at hRound
  rw [Prog.run_bind_of_run hCycle, if_neg hFailed.1] at hRound
  rw [← readPacket_terminal_run hRead hLog]
  by_cases hTerminal : isTerminal r.1 = true
  · rw [if_pos hTerminal] at hRound
    rcases (handleDisconnect_state fuel).of_run trivial hRound
      with hNo | hEnd
    · exact hNo.elim
    · rw [hEnd, hTerminal, Bool.not_true, Bool.and_false]
      rfl
  · rw [if_neg hTerminal] at hRound
    cases hRound
    have hNot : isTerminal r.1 = false := by
      simpa using hTerminal
    rw [hState, hNot]
    simp

/- A PINGREQ has two bytes. -/
theorem length_pingreq
    {size n : Nat}
    {packet : Bytes}
    {buf : Buffer}
    (hEncoded :
      serializeZero size .pingreq = some (.ok packet))
    (hLoad : buf.load 0 n = packet) :
    n < lengthLimit := by
  have hLength := congrArg List.length hLoad
  rw [Buffer.length_load] at hLength
  unfold serializeZero at hEncoded
  split at hEncoded
  · cases hEncoded
  · cases hEncoded
    rw [hLength]
    decide

/-
  The PINGREQ of a keep alive that succeeds is whole, and one
  that fails costs the connection.
-/
theorem keepAlive_gives_up
    (hSingle : port.threadSupport = false)
    (fuel : Nat) :
    Triple (Contract.plain (Sys E) Event)
      (fun w => True ∧ w.log = [])
      (keepAlive port fuel onLost)
      (fun _ w =>
        isClientConnected w.st.client.clientState = true →
          torn w.log = false) := by
  have hLost :
      ∀ P : Run E → Prop,
        Triple (Contract.plain (Sys E) Event) P
          (handleDisconnect port fuel onLost)
          (fun _ w =>
            isClientConnected w.st.client.clientState = true →
              torn w.log = false) := by
    intro P
    refine (handleDisconnect_state fuel).conseq
      (fun _ _ => trivial) ?_
    intro _ w hState hOn
    rw [hState] at hOn
    cases hOn
  have hDone :
      ∀ rc : IoTError,
        Triple (Contract.plain (Sys E) Event)
          (fun w : Run E =>
            partWritten w.log = 0 ∧ torn w.log = false)
          (Prog.ret rc)
          (fun _ w =>
            isClientConnected w.st.client.clientState = true →
              torn w.log = false) :=
    fun _ => Triple.ret (fun _ h _ => h.2)
  refine Triple.bind
    (M := fun _ w =>
      partWritten w.log = 0 ∧ torn w.log = false) ?_ ?_
  · apply Triple.read
    rintro w ⟨_, hLog⟩
    rw [hLog]
    exact ⟨rfl, rfl⟩
  intro c
  refine Triple.ite (fun _ => hDone _) ?_
  intro _
  refine Triple.seq (Triple.step ?_) ?_
  · rintro w ⟨hEnded, hUntorn⟩
    right
    simp only [List.singleton_append]
    cases (port.hasTimerExpired .ping w.st.env).1 with
    | true =>
        refine ⟨rfl, ?_⟩
        rw [torn, hUntorn]
        simp [tears, hEnded]
    | false =>
        refine ⟨hEnded, ?_⟩
        rw [torn, hUntorn]
        rfl
  intro expired
  refine Triple.ite (fun _ => hDone _) ?_
  intro _
  refine Triple.seq (Triple.read (fun _ h => h)) ?_
  intro c
  refine Triple.ite (fun _ => hLost _) ?_
  intro _
  refine Triple.seq ?_ ?_
  · refine Triple.seq (Triple.read (fun _ h => h)) ?_
    intro _
    exact Triple.modify (fun _ h => h)
  intro _
  refine Triple.bind
    (holds_serialize_packet
      (K := fun _ _ l =>
        partWritten l = 0 ∧ torn l = false)
      (fun _ _ => trivial)
      (fun c rc hError => by
        rw [serializeZero_error hError]
        decide)) ?_
  intro encoded
  cases encoded with
  | error rc => exact (hDone rc).pre (fun _ h => h.2)
  | ok n =>
      refine Triple.bind
        (M := fun rc w =>
          rc = .success → torn w.log = false) ?_ ?_
      · rintro w ⟨c, packet, hEncoded, hLoad, hEnded, hUntorn⟩
        right
        cases hRes :
            ((sendPacket port fuel n .command).run w).1 with
        | none => trivial
        | some rc =>
            rcases
              (sendPacket port fuel n .command).run_log_suffix w
              with ⟨es, hLog⟩
            have hSent :=
              (sendPacket_events hSingle
                (Prog.run_of_returns hRes) hLog).2
            intro hRc
            rw [hLog, torn_append hEnded, hUntorn,
              hSent hRc (length_pingreq hEncoded hLoad)]
            rfl
      · intro rc
        refine Triple.ite (fun _ => hLost _) ?_
        intro hRc
        refine Triple.bind
          (M := fun _ w => torn w.log = false) ?_ ?_
        · exact Triple.modify (fun _ h => h (not_not.mp hRc))
        intro _
        refine Triple.seq (Triple.read (fun _ h => h)) ?_
        intro c
        refine Triple.seq (Triple.modify (fun _ h => h)) ?_
        intro _
        exact Triple.ret (fun _ h _ => h)

/-
  A client that is connected when yield returns has consumed
  and written whole packets, if it had when yield was called
  and no transfer on the connection in use tore a packet
  meanwhile.

  Yield gives the connection up itself after some of these
  transfers: after a failing read of its own, exactly when
  the header byte or a length byte failed with a terminal
  code, and after every PINGREQ it tore.
-/
theorem boundary_of_untorn
    (hSingle : port.threadSupport = false) :
    (∀ {fuel : Nat} {waiting : Bool} {timeoutMs : UInt32}
        {w w' : Run E} {rc : IoTError} {es : List Event},
      AtBoundary (consumed w.log) →
      AtBoundary (written w.log) →
      (api port fuel waiting (.yield timeoutMs)).run w =
        (some rc, w') →
      w'.log = es ++ w.log →
      torn (inUse es) = false →
      isClientConnected w'.st.client.clientState = true →
        AtBoundary (consumed w'.log) ∧
          AtBoundary (written w'.log)) ∧
    (∀ {fuel : Nat} {callback : Callback E}
        {onLost : HandlerId → Nat → Code E Unit}
        {w w₁ w' : Run E} {r : IoTError × Option UInt8}
        {rc : IoTError} {es : List Event},
      (readPacket port fuel).run w = (some r, w₁) →
      w₁.log = es ++ w.log →
      r.1 ≠ .success ∧ r.1 ≠ .mqttNothingToRead →
      (yieldRead port fuel callback onLost).run w =
        (some rc, w') →
        isClientConnected w'.st.client.clientState =
          (isClientConnected w.st.client.clientState &&
            !fatal es)) ∧
    (∀ {fuel : Nat} {onLost : HandlerId → Nat → Code E Unit}
        {w w' : Run E} {rc : IoTError} {es : List Event},
      (keepAlive port fuel onLost).run w = (some rc, w') →
      w'.log = es ++ w.log →
      isClientConnected w'.st.client.clientState = true →
        torn es = false) := by
  refine ⟨?_, ?_, ?_⟩
  · intro fuel waiting timeoutMs w w' rc es hConsumed hWritten
      hRun hLog hUntorn hOn
    have hStart : Whole w.log w.log :=
      ⟨[], rfl, rfl, fun _ => ⟨hConsumed, hWritten⟩⟩
    have hYield :=
      yield_whole hSingle w.log fuel waiting timeoutMs
    rcases hYield.of_run hStart hRun with hNo | hWhole
    · exact hNo.elim
    · rcases hWhole hOn with ⟨es', hLog', _, hBoth⟩
      rw [hLog] at hLog'
      rw [← List.append_cancel_right hLog'] at hBoth
      exact hBoth hUntorn
  · intro fuel callback onLost w w₁ w' r rc es
    exact yieldRead_gives_up_iff hSingle
  · intro fuel onLost w w' rc es hRun hLog
    exact
      Triple.of_events (P := fun _ => True)
        (Q := fun _ s es =>
          isClientConnected s.client.clientState = true →
            torn es = false)
        (keepAlive_gives_up hSingle fuel) trivial hRun hLog

/- A connected client whose ping timer has expired. -/
def pingDue : Run Script :=
  scriptStart
    { scriptClient .connectedIdle [freeSlot] with
      keepAliveInterval := 10 }
    { Script.idle with timers := [true, false] }

/-
  A SUBACK is read, a length byte is missing, and a PINGREQ
  is sent.
-/
theorem boundary_of_untorn_suback :
    (∃ w',
      (api scriptPort 6 false (.yield 1000)).run
          (onePacket (subackPacket 2)) = (some .success, w') ∧
      isClientConnected w'.st.client.clientState = true ∧
      consumed w'.log = subackPacket 2 ∧
      AtBoundary (consumed w'.log) ∧
      AtBoundary (written w'.log)) ∧
    (∃ w',
      (yieldRead scriptPort 6 (fun _ _ _ => pure ())
          (fun _ _ => pure ())).run (onePacket [144]) =
        (some .networkDisconnectedError, w') ∧
      isClientConnected w'.st.client.clientState = false) ∧
    (∃ w',
      (keepAlive scriptPort 6 (fun _ _ => pure ())).run pingDue =
        (some .success, w') ∧
      isClientConnected w'.st.client.clientState = true ∧
      torn w'.log = false) := by
  have hParts :=
    @boundary_of_untorn Script scriptPort rfl
  have hYield :=
    Prog.run_of_returns (a := IoTError.success)
      (p := api scriptPort 6 false (.yield 1000))
      (w := onePacket (subackPacket 2)) (by decide +kernel)
  have hRead :=
    Prog.run_of_returns
      (a := (IoTError.networkSslReadError, none))
      (p := readPacket scriptPort 6)
      (w := onePacket [144]) (by decide +kernel)
  have hRound :=
    Prog.run_of_returns (a := IoTError.networkDisconnectedError)
      (p := yieldRead scriptPort 6 (fun _ _ _ => pure ())
        (fun _ _ => pure ()))
      (w := onePacket [144]) (by decide +kernel)
  have hPing :=
    Prog.run_of_returns (a := IoTError.success)
      (p := keepAlive scriptPort 6 (fun _ _ => pure ()))
      (w := pingDue) (by decide +kernel)
  refine ⟨⟨_, hYield, by decide +kernel, by decide +kernel, ?_⟩,
    ⟨_, hRound, ?_⟩, _, hPing, by decide +kernel, ?_⟩
  · exact
      hParts.1 (w := onePacket (subackPacket 2))
        atBoundary_nil atBoundary_nil hYield
        (List.append_nil _).symm (by decide +kernel)
        (by decide +kernel)
  · refine
      (hParts.2.1 hRead (List.append_nil _).symm (by decide)
        hRound).trans ?_
    decide +kernel
  · exact
      hParts.2.2 hPing (List.append_nil _).symm
        (by decide +kernel)

/- A packet that lacks part of its body is not whole. -/
theorem not_atBoundary_of_short
    {header : UInt8}
    {field body : Bytes}
    {n : Nat}
    (hValue : Base128 field n)
    (hShort : body.length < n) :
    ¬ AtBoundary (header :: (field ++ body)) := by
  rintro ⟨ps, hSame⟩
  cases ps with
  | nil => simp at hSame
  | cons p ps =>
      rw [List.map_cons, List.flatten_cons, Packet.bytes,
        List.cons_append, List.append_assoc,
        List.cons.injEq] at hSame
      rcases hValue.append_cancel p.field_decodes hSame.2 with
        ⟨hField, hBody⟩
      rw [hField] at hValue
      have hLength := hValue.unique p.field_decodes
      rw [hBody, List.length_append] at hShort
      omega

/-
  The connection breaks behind the length field.  Yield
  reports a failure, but the client stays connected in the
  middle of a packet.
-/
theorem missingBody_connected :
    ∃ w',
      (api scriptPort 6 false (.yield 1000)).run
          (onePacket [144, 3]) = (some .failure, w') ∧
      isClientConnected w'.st.client.clientState = true ∧
      AtBoundary (consumed (onePacket [144, 3]).log) ∧
      AtBoundary (written (onePacket [144, 3]).log) ∧
      ¬ AtBoundary (consumed w'.log) := by
  refine
    ⟨_, Prog.run_of_returns (by decide +kernel),
      by decide +kernel, atBoundary_nil, atBoundary_nil, ?_⟩
  have hBytes :
      consumed
        ((api scriptPort 6 false (.yield 1000)).run
          (onePacket [144, 3])).2.log =
        144 :: ([3] ++ []) := by
    decide +kernel
  rw [hBytes]
  exact
    not_atBoundary_of_short (Base128.last 3 rfl) (by decide)

end Mqtt

end TrustOnboard
