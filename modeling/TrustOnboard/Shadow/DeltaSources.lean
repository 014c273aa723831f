import TrustOnboard.Shadow.DeltaDispatch

/-
  Which delta reaches the registered data.

  The rounds over the registered structs read from the receive
  buffer, and a callback of one of them can let messages in
  that are copied there.  The rounds behind it then go on with
  the text of the last of these.

  Key definitions include:
    * `copiedLast`
    * `takenLast`
    * `OldDiscarded`
    * `StillThere`

  Key results include:
    * `session_sourced`
    * `oldDeltas_discarded_iff`
-/

------------------------------------------------------------
-- Sources
------------------------------------------------------------

namespace TrustOnboard

namespace Shadow

variable {E : Type}

/-
  The text that was copied into the receive buffer last: that
  of a message that fits into it.
-/
def copiedLast (port : Port E) : List Event → Option Bytes
  | [] => none
  | .arrived a :: log =>
      if port.rxBufferSize < a.message.payload.length then
        copiedLast port log
      else some a.message.json
  | _ :: log => copiedLast port log

/- The text of a message that has just arrived. -/
def arrivedText : List Event → Option Bytes
  | .arrived a :: _ => some a.message.json
  | _ => none

/- The text of the delta that was taken up last. -/
def takenLast : List Event → Option Bytes
  | [] => none
  | .deltaTaken _ :: log => arrivedText log
  | _ :: log => takenLast log

/-
  Registered data are updated from the delta that was taken
  up last, and nobody is called back but for such an update.
-/
def FromTaken : Event → List Event → Prop
  | .dataUpdated _ _ source, earlier =>
      takenLast earlier = some source
  | .deltaNotified k _, earlier =>
      ∃ data source rest,
        earlier = .dataUpdated k data source :: rest
  | _, _ => True

/-
  When a round finds its key, the text that was received last
  is still that of the delta that was taken up last.
-/
def StillThere (port : Port E) : Event → List Event → Prop
  | .dataUpdated _ _ _, earlier =>
      ∃ text,
        takenLast earlier = some text ∧
          copiedLast port earlier = some text
  | _, _ => True

/-
  Old deltas are discarded: those that are taken up have
  ascending versions, above all versions recorded before, and
  no other message reaches the registered data.
-/
structure OldDiscarded
    (docs : Message → Reading)
    (log : List Event) : Prop where
  ordered : Along (InOrder docs) log
  reached : Along FromTaken log

/- The text in the receive buffer behind a log. -/
structure Sourced
    (port : Port E)
    (text : Bytes)
    (log : List Event) : Prop where
  copied : ∀ t, copiedLast port log = some t → text = t
  taken :
    ∀ t, takenLast log = some t →
      ∃ t', copiedLast port log = some t'
  same : Along FromTaken log ↔ Along (StillThere port) log

/- The events that are about no message and no update. -/
def Event.isMute : Event → Bool
  | .arrived _ => false
  | .deltaTaken _ => false
  | .dataUpdated _ _ _ => false
  | .deltaNotified _ _ => false
  | _ => true

theorem Event.isMute_of_isAside
    {e : Event}
    (hAside : e.isAside = true) :
    e.isMute = true := by
  cases e <;> first | rfl | cases hAside

end Shadow

end TrustOnboard

------------------------------------------------------------
-- Events
------------------------------------------------------------

namespace TrustOnboard

namespace Shadow

variable {E : Type}
variable {port : Port E}
variable {text : Bytes}
variable {es log : List Event}

/- One event more, of which both sides say the same. -/
theorem Sourced.cons
    {text' : Bytes}
    {e : Event}
    (hSourced : Sourced port text log)
    (hCopied :
      ∀ t, copiedLast port (e :: log) = some t → text' = t)
    (hTaken :
      ∀ t, takenLast (e :: log) = some t →
        ∃ t', copiedLast port (e :: log) = some t')
    (hSame : FromTaken e log ↔ StillThere port e log) :
    Sourced port text' (e :: log) where
  copied := hCopied
  taken := hTaken
  same := by
    rw [along_cons, along_cons, hSame, hSourced.same]

theorem Sourced.mute
    (hSourced : Sourced port text log)
    (hMute : ∀ e ∈ es, e.isMute = true) :
    Sourced port text (es ++ log) := by
  induction es with
  | nil => exact hSourced
  | cons e es ih =>
      have hRest :=
        ih (fun e' hMem => hMute e' (List.mem_cons_of_mem e hMem))
      have hHere := hMute e List.mem_cons_self
      cases e with
      | arrived a => cases hHere
      | deltaTaken v => cases hHere
      | dataUpdated k data source => cases hHere
      | deltaNotified k value => cases hHere
      | _ => exact hRest.cons hRest.copied hRest.taken Iff.rfl

/- A message is copied when it fits. -/
theorem Sourced.arrived
    (hSourced : Sourced port text log)
    (a : Arrival) :
    Sourced port
      (if port.rxBufferSize < a.message.payload.length then
        text
      else a.message.json)
      (.arrived a :: log) := by
  refine hSourced.cons ?_ ?_ Iff.rfl
  · intro t hText
    unfold copiedLast at hText
    split at hText
    · rename_i hLong
      rw [if_pos hLong]
      exact hSourced.copied t hText
    · rename_i hFits
      rw [if_neg hFits]
      exact Option.some.inj hText
  · intro t hText
    unfold copiedLast
    split
    · exact hSourced.taken t hText
    · exact ⟨_, rfl⟩

theorem Sourced.takenUp
    {a : Arrival}
    (version : Option UInt32)
    (hSourced : Sourced port text (.arrived a :: log))
    (hFits :
      ¬ port.rxBufferSize < a.message.payload.length) :
    Sourced port text
      (.deltaTaken version :: .arrived a :: log) := by
  refine hSourced.cons hSourced.copied ?_ Iff.rfl
  intro t _
  exact ⟨_, if_neg hFits⟩

/- An update is one from the text in the buffer. -/
theorem Sourced.updated
    (k : Nat)
    (data : JsonData)
    (hSourced : Sourced port text log) :
    Sourced port text (.dataUpdated k data text :: log) := by
  refine hSourced.cons hSourced.copied hSourced.taken ?_
  constructor
  · intro hTaken
    rcases hSourced.taken text hTaken with ⟨t, hCopied⟩
    rw [← hSourced.copied t hCopied] at hCopied
    exact ⟨text, hTaken, hCopied⟩
  · rintro ⟨t, hTaken, hCopied⟩
    rw [← hSourced.copied t hCopied] at hTaken
    exact hTaken

theorem Sourced.told
    {k : Nat}
    {data : JsonData}
    {source : Bytes}
    (value : Bytes)
    (hSourced :
      Sourced port text (.dataUpdated k data source :: log)) :
    Sourced port text
      (.deltaNotified k value ::
        .dataUpdated k data source :: log) := by
  refine hSourced.cons hSourced.copied hSourced.taken ?_
  exact ⟨fun _ => trivial, fun _ => ⟨_, _, _, rfl⟩⟩

end Shadow

end TrustOnboard

------------------------------------------------------------
-- Runs
------------------------------------------------------------

namespace TrustOnboard

namespace Shadow

variable {E : Type}
variable {port : Port E}

theorem recordAckVersion_text
    (s : State)
    (version : Option UInt32) :
    (recordAckVersion s version).1.shadowRxBuf =
      s.shadowRxBuf := by
  cases version with
  | none => rfl
  | some v =>
      simp only [recordAckVersion]
      split
      · rfl
      · rfl

/- What an acknowledgement leaves in the buffer. -/
theorem takeAck_text
    (port : Port E)
    (s : State)
    (m : Message) :
    (takeAck port s m).1.shadowRxBuf =
      if port.rxBufferSize < m.payload.length then
        s.shadowRxBuf
      else m.json := by
  unfold takeAck
  split
  · rfl
  dsimp only
  split
  · rfl
  split
  · exact recordAckVersion_text _ _
  split
  · exact recordAckVersion_text _ _
  · exact recordAckVersion_text _ _

/- What a delta leaves there, and the events. -/
theorem takeDelta_text
    (port : Port E)
    (s : State)
    (m : Message) :
    (takeDelta port s m).1.shadowRxBuf =
        (if port.rxBufferSize < m.payload.length then
          s.shadowRxBuf
        else m.json) ∧
      ((takeDelta port s m).2.1 = [] ∨
        (∃ v, (takeDelta port s m).2.1 = [.deltaIgnored v]) ∨
          ((∃ v, (takeDelta port s m).2.1 = [.deltaTaken v]) ∧
            ¬ port.rxBufferSize < m.payload.length)) := by
  unfold takeDelta
  split
  · exact ⟨rfl, .inl rfl⟩
  rename_i hFits
  dsimp only
  split
  · exact ⟨rfl, .inl rfl⟩
  split
  · split
    · exact ⟨rfl, .inr (.inr ⟨⟨_, rfl⟩, hFits⟩)⟩
    · split
      · exact ⟨rfl, .inr (.inr ⟨⟨_, rfl⟩, hFits⟩)⟩
      · exact ⟨rfl, .inr (.inl ⟨_, rfl⟩)⟩
  · exact ⟨rfl, .inr (.inr ⟨⟨_, rfl⟩, hFits⟩)⟩

/- Every step of every run keeps account of the source. -/
theorem Sourced.step
    {s s' : Sys E}
    {es log : List Event}
    (hMove : Within port everyKind s s' es)
    (hSourced : Sourced port s.shadow.shadowRxBuf log) :
    Sourced port s'.shadow.shadowRxBuf (es ++ log) := by
  rcases hMove with ⟨k, _, hMove⟩
  cases hMove with
  | other hSame hText hAside hFits =>
      rw [hText]
      exact
        hSourced.mute
          (fun e hMem =>
            Event.isMute_of_isAside (hAside e hMem))
  | ack _ m =>
      have hArrived :=
        hSourced.arrived ⟨.ackStatusCallback, m⟩
      rcases (takeAck_effect port s.shadow m).events with
        ⟨aside, hAside, hEvents⟩
      dsimp only
      rw [takeAck_text, List.append_assoc]
      refine hArrived.mute (fun e hMem => ?_)
      rw [hEvents] at hMem
      rcases List.mem_append.mp hMem with hMem | hMem
      · exact Event.isMute_of_isAside (hAside e hMem)
      · rcases List.mem_map.mp hMem with ⟨v, _, rfl⟩
        rfl
  | delta _ m =>
      have hArrived :=
        hSourced.arrived ⟨.shadowDeltaCallback, m⟩
      rcases takeDelta_text port s.shadow m with
        ⟨hText, hEvents⟩
      dsimp only
      rw [hText, List.append_assoc]
      rcases hEvents with
        hNone | ⟨v, hIgnored⟩ | ⟨⟨v, hTaken⟩, hFits⟩
      · rw [hNone]
        exact hArrived
      · rw [hIgnored]
        exact
          Sourced.mute hArrived (by simp [Event.isMute])
      · rw [hTaken]
        exact hArrived.takenUp v hFits
  | round _ tokenCount index =>
      rcases updateToken_cases port tokenCount index
          s.shadow with
        ⟨hSame, hNone⟩ | ⟨table, data, value, told, hSame,
          hEvents, hTold⟩
      · rw [hSame, hNone]
        exact hSourced
      · rw [hSame, hEvents]
        rcases hTold with rfl | rfl
        · exact hSourced.updated index data
        · exact (hSourced.updated index data).told value
  | reset => exact hSourced.mute (by simp [Event.isMute])
  | discard _ enabled =>
      exact hSourced.mute (by simp [Event.isMute])

/-
  A run that begins with any text in the buffer: updates are
  from the delta taken up last exactly while it is there.
-/
theorem session_sourced
    (level : Nat)
    (calls : List ShadowCall)
    (s : Sys E) :
    Along FromTaken
        ((session port level calls).run ⟨s, []⟩).2.log ↔
      Along (StillThere port)
        ((session port level calls).run ⟨s, []⟩).2.log := by
  have hStart :
      Sourced port s.shadow.shadowRxBuf [] := by
    refine ⟨nofun, nofun, ?_⟩
    exact ⟨fun _ => along_nil, fun _ => along_nil⟩
  have hKept :=
    (session_moves level calls).final
      (G := fun _ => True)
      (I := fun w : Run E =>
        Sourced port w.st.shadow.shadowRxBuf w.log)
      (fun _ _ _ => trivial)
      (fun _ _ _ _ hMove _ hBefore =>
        Sourced.step hMove hBefore)
      (w := ⟨s, []⟩) hStart trivial
  exact hKept.same

/-
  With the flag set and no reset, old deltas are discarded
  exactly when the rounds for the registered data that find
  their keys still have the delta before them that was taken
  up last.  By itself an old delta changes no registered data
  and no version and calls nobody back.
-/
theorem oldDeltas_discarded_iff
    (port : Port E)
    (docs : Message → Reading) :
    (∀ (level : Nat) (calls : List ShadowCall) (s : Sys E),
      s.shadow.shadowDiscardOldDeltaFlag = true →
      Orderly port docs
        ((session port level calls).run ⟨s, []⟩).2.log →
      (OldDiscarded docs
          ((session port level calls).run ⟨s, []⟩).2.log ↔
        Along (StillThere port)
          ((session port level calls).run ⟨s, []⟩).2.log)) ∧
      ∀ (sv : Services E) (w : Run E) (m : Message)
        (v : UInt32),
        w.st.shadow.shadowDiscardOldDeltaFlag = true →
        Parsed port (docs m) m →
        VersionOnTop m.json (docs m).members →
        docVersion m.json (docs m).members = some v →
        v ≤ w.st.shadow.shadowJsonVersionNum →
        ∃ w',
          (shadowDeltaCallback port sv m).run w =
              (some (), w') ∧
            Ignored v w w' := by
  refine ⟨?_, ?_⟩
  · intro level calls s hFlag hOrderly
    have hOrdered :=
      session_ordered level calls hFlag hOrderly
    rw [← session_sourced level calls s]
    exact
      ⟨fun hDiscarded => hDiscarded.reached,
        fun hReached => ⟨hOrdered, hReached⟩⟩
  · intro sv w m v hFlag hParsed hTop hVersion hOld
    exact
      shadowDeltaCallback_old hFlag hParsed hTop hVersion hOld

end Shadow

end TrustOnboard

------------------------------------------------------------
-- Examples
------------------------------------------------------------

namespace TrustOnboard

namespace Shadow

open Json

/- A thing with a level that is registered twice. -/
def levelState : State where
  __ := lampState
  tokenTable :=
    [numberStruct ⟨ascii "level", by decide⟩,
      numberStruct ⟨ascii "level", by decide⟩]

/- A platform with the parser of the client. -/
def levelPort : Port Script :=
  Port.scripted jsmnParse

def levelReading (m : Message) : Reading :=
  stateReading (m.payload.getD 11 48) (m.payload.getD 30 48)
    (ascii "level")

/- Its deltas: the fifth version, and an older one. -/
def levelMessages : List Message :=
  [stateMessage 53 49 (ascii "level"),
    stateMessage 51 50 (ascii "level")]

/- They arrive one after the other. -/
def quietScript : Script where
  arrivals :=
    [levelMessages.map (fun m => ⟨.shadowDeltaCallback, m⟩)]
  answers := []
  expiries := []
  calls := []

/-
  The older one arrives while the first callback asks for the
  shadow.
-/
def nestedScript : Script where
  arrivals :=
    levelMessages.map (fun m => [⟨.shadowDeltaCallback, m⟩])
  answers := []
  expiries := []
  calls :=
    [[.get (some ⟨ascii "lamp", nul_free_lamp⟩) (some 0) 0 0
      false]]

/- What happens while the thing yields. -/
def levelLog (script : Script) : List Event :=
  ((session levelPort 6 [.yield 0]).run
    ⟨⟨levelState, script⟩, []⟩).2.log

theorem levelMessages_parsed
    {m : Message}
    (hMem : m ∈ levelMessages) :
    Parsed levelPort (levelReading m) m ∧
      VersionOnTop m.json (levelReading m).members := by
  have hDigits :
      ∃ version value,
        IsDigit version ∧ IsDigit value ∧
          m.json =
              stateDocument version value (ascii "level") ∧
            levelReading m =
                stateReading version value (ascii "level") ∧
              VersionOnTop m.json (levelReading m).members := by
    simp only [levelMessages, List.mem_cons, List.not_mem_nil,
      or_false] at hMem
    rcases hMem with rfl | rfl
    · exact
        ⟨53, 49, by decide, by decide, by decide +kernel, rfl,
          ⟨by decide +kernel, by decide +kernel⟩⟩
    · exact
        ⟨51, 50, by decide, by decide, by decide +kernel, rfl,
          ⟨by decide +kernel, by decide +kernel⟩⟩
  rcases hDigits with
    ⟨version, value, hVersion, hValue, hJson, hReading, hTop⟩
  have hDocument :
      IsDocument m.json (levelReading m).members
        (levelReading m).tokens := by
    rw [hReading, hJson]
    exact
      stateReading_document hVersion hValue
        (forall_mem_of_all (by decide))
  have hShort : m.json.length < 2 ^ 31 := by
    rw [hJson]
    show 33 < 2 ^ 31
    decide
  have hRoom :
      (levelReading m).tokens.length ≤ maxJsonTokenExpected := by
    rw [hReading]
    show 7 ≤ 120
    decide
  exact
    ⟨⟨hDocument, .inl (hDocument.jsmnParse_eq hShort hRoom)⟩,
      hTop⟩

/- A run in which nothing else happens is an orderly one. -/
theorem levelLog_orderly
    {script : Script}
    (hAll :
      (levelLog script).all (fun e =>
        match e with
        | .arrived a => decide (a.message ∈ levelMessages)
        | .versionReset => false
        | .discardOldDelta _ => false
        | _ => true) = true) :
    Orderly levelPort levelReading (levelLog script) := by
  have hEach := List.all_eq_true.mp hAll
  have hArrived :
      ∀ a, .arrived a ∈ levelLog script →
        a.message ∈ levelMessages :=
    fun a hMem => of_decide_eq_true (hEach _ hMem)
  refine ⟨?_, ?_, ?_, ?_⟩
  · intro hMem
    cases hEach _ hMem
  · intro hMem
    cases hEach _ hMem
  · intro a hMem
    exact (levelMessages_parsed (hArrived a hMem)).1
  · intro a hMem
    exact (levelMessages_parsed (hArrived a hMem)).2

theorem quietLog_orderly :
    Orderly levelPort levelReading (levelLog quietScript) :=
  levelLog_orderly (by decide +kernel)

theorem nestedLog_orderly :
    Orderly levelPort levelReading (levelLog nestedScript) :=
  levelLog_orderly (by decide +kernel)

/- The thing has seen the fifth version. -/
def levelAtFive : Run Script :=
  ⟨⟨{ levelState with shadowJsonVersionNum := 5 },
    quietScript⟩, []⟩

/- The older delta is ignored, and both levels are one. -/
theorem oldDeltas_discarded_iff_quiet :
    (OldDiscarded levelReading (levelLog quietScript) ↔
        Along (StillThere levelPort) (levelLog quietScript)) ∧
      (∀ e ∈
        [Event.deltaIgnored 3, .deltaTaken (some 5),
          .deltaNotified 1 (ascii "1")],
        e ∈ levelLog quietScript) ∧
      ∃ w',
        (shadowDeltaCallback levelPort (services levelPort 0)
          (stateMessage 51 50 (ascii "level"))).run
            levelAtFive = (some (), w') ∧
          Ignored 3 levelAtFive w' := by
  have hBoth := oldDeltas_discarded_iff levelPort levelReading
  have hOld :=
    levelMessages_parsed
      (m := stateMessage 51 50 (ascii "level"))
      (List.mem_cons_of_mem _ List.mem_cons_self)
  exact
    ⟨hBoth.1 6 [.yield 0] ⟨levelState, quietScript⟩ rfl
        quietLog_orderly,
      by decide +kernel,
      hBoth.2 _ levelAtFive _ 3 rfl hOld.1 hOld.2
        (by decide +kernel) (by decide)⟩

/-
  The older delta is ignored, but the second level is updated
  from it.
-/
theorem oldDeltas_reached :
    levelState.shadowDiscardOldDeltaFlag = true ∧
      Orderly levelPort levelReading (levelLog nestedScript) ∧
      .deltaIgnored 3 ∈ levelLog nestedScript ∧
      ¬ OldDiscarded levelReading (levelLog nestedScript) := by
  refine
    ⟨rfl, nestedLog_orderly, by decide +kernel, ?_⟩
  intro hDiscarded
  have hTaken :=
    hDiscarded.reached ((levelLog nestedScript).take 3)
      (.dataUpdated 1 (.int32 2)
        (stateDocument 51 50 (ascii "level")))
      ((levelLog nestedScript).drop 4) (by decide +kernel)
  exact absurd hTaken (by unfold FromTaken; decide +kernel)

end Shadow

end TrustOnboard
