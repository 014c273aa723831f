import TrustOnboard.Program.History
import TrustOnboard.Shadow.Documents
import TrustOnboard.Shadow.Footprint

/-
  The version of the shadow over whole runs.

  The recorded version is changed by acknowledgements of the
  thing and by deltas.  Both look for it in the same way, and
  neither lowers it, so that with the flag set the deltas are
  taken in the order of their versions.

  Key definitions include:
    * `Parsed`
    * `foundVersion`
    * `InOrder`

  Key results include:
    * `foundVersion_parsed`
    * `session_ordered`
    * `shadowDeltaCallback_old`
-/

------------------------------------------------------------
-- What A Message Is Found To Say
------------------------------------------------------------

namespace TrustOnboard

namespace Shadow

open Mqtt (IoTError CString HandlerId)

variable {E : Type}

/- The text of a message. -/
def Message.json (m : Message) : Bytes :=
  cString m.payload

/-
  A message with the given reading.  The parser lists the
  tokens in the standard way or refuses the text.
-/
structure Parsed
    (port : Port E)
    (d : Reading)
    (m : Message) : Prop where
  document : IsDocument m.json d.members d.tokens
  standard :
    port.jsmnParse m.json =
        ((d.tokens.length : Int), d.tokens) ∨
      (port.jsmnParse m.json).1 < 1

/-
  The version both callbacks find in a message, if they look
  for one.
-/
def foundVersion
    (port : Port E)
    (s : State)
    (m : Message) : Option (Option UInt32) :=
  if port.rxBufferSize < m.payload.length then none
  else
    let r :=
      isJsonValidAndParse port m.json s.jsonTokenStruct
    r.1.map (extractVersionNumber m.json r.2)

/- A refused text is not looked at. -/
theorem isJsonValidAndParse_refused
    {port : Port E}
    {json : Bytes}
    (old : List JsmnTok)
    (hRefused : (port.jsmnParse json).1 < 1) :
    (isJsonValidAndParse port json old).1 = none := by
  unfold isJsonValidAndParse parseInto objectCount
  exact if_pos (Or.inl hRefused)

/- A text whose tokens are listed in the standard way. -/
theorem isJsonValidAndParse_standard
    {port : Port E}
    {json : Bytes}
    {ts : List JsmnTok}
    (old : List JsmnTok)
    (hStandard :
      port.jsmnParse json = ((ts.length : Int), ts))
    (hSome : ts ≠ []) :
    isJsonValidAndParse port json old =
      (if (tokenAt ts 0).type = .object then
          some ts.length
        else none,
        ts ++ old.drop ts.length) := by
  have hFirst :
      tokenAt (ts ++ old.drop ts.length) 0 = tokenAt ts 0 := by
    cases ts with
    | nil => exact absurd rfl hSome
    | cons first rest => rfl
  have hCount : ¬ (ts.length : Int) < 1 := by
    have hPos := List.length_pos_iff.mpr hSome
    omega
  unfold isJsonValidAndParse parseInto objectCount
  simp only [hStandard, hFirst, hCount, false_or, ne_eq,
    ite_not, Int.toNat_natCast]

/- The version found is the version of the document. -/
theorem foundVersion_parsed
    {port : Port E}
    {d : Reading}
    {m : Message}
    (s : State)
    (hParsed : Parsed port d m)
    (hFree :
      (tokenAt d.tokens 0).type = .object →
        Unobstructed m.json d.members d.tokens)
    {found : Option UInt32}
    (hFound : foundVersion port s m = some found) :
    found = docVersion m.json d.members := by
  unfold foundVersion at hFound
  split at hFound
  · cases hFound
  · rcases hParsed.standard with hStandard | hRefused
    · have hSome : d.tokens ≠ [] := by
        rcases hParsed.document.tokens with
          ⟨first, rest, hTokens, _⟩
        rw [hTokens]
        exact List.cons_ne_nil first rest
      rw [isJsonValidAndParse_standard _ hStandard hSome]
        at hFound
      by_cases hObject :
          (tokenAt d.tokens 0).type = .object
      · simp only [hObject, if_true, Option.map_some,
          Option.some.injEq] at hFound
        rw [← hFound]
        exact
          extractVersionNumber_document _ hParsed.document
            hObject (hFree hObject)
      · simp [hObject] at hFound
    · simp [isJsonValidAndParse_refused _ hRefused] at hFound

/- The version an acknowledgement gives. -/
def ackedVersion
    (port : Port E)
    (s : State)
    (m : Message) : Option UInt32 :=
  if isAckForMyThingName m.topicName
      s.myThingName.bytes then
    (foundVersion port s m).join
  else none

/- What an acknowledgement does to the version. -/
structure AckEffect
    (s s' : State)
    (es : List Event)
    (version : Option UInt32) : Prop where
  flag :
    s'.shadowDiscardOldDeltaFlag =
      s.shadowDiscardOldDeltaFlag
  thing : s'.myThingName = s.myThingName
  recorded :
    s'.shadowJsonVersionNum.toNat =
      max s.shadowJsonVersionNum.toNat
        (version.getD 0).toNat
  events :
    ∃ aside,
      (∀ e ∈ aside, e.isAside = true) ∧
        es = aside ++ version.toList.map .ackVersion

theorem recordAckVersion_effect
    (s : State)
    (version : Option UInt32) :
    AckEffect s (recordAckVersion s version).1
      (recordAckVersion s version).2 version := by
  cases version with
  | none =>
      exact
        ⟨rfl, rfl, (Nat.max_zero _).symm, [], by simp, rfl⟩
  | some v =>
      simp only [recordAckVersion]
      split
      · rename_i hLess
        have hLe := Nat.le_of_lt (UInt32.lt_iff_toNat_lt.mp hLess)
        exact
          ⟨rfl, rfl, (Nat.max_eq_right hLe).symm, [],
            by simp, rfl⟩
      · rename_i hNot
        have hLe :=
          Nat.le_of_not_lt
            (fun hLess => hNot (UInt32.lt_iff_toNat_lt.mpr hLess))
        exact
          ⟨rfl, rfl, (Nat.max_eq_left hLe).symm, [],
            by simp, rfl⟩

/- What does not touch the version changes no effect. -/
theorem AckEffect.frame
    {s s₁ s₂ s' : State}
    {es : List Event}
    {version : Option UInt32}
    (hEffect : AckEffect s₁ s₂ es version)
    (hBefore : s.SameVersion s₁)
    (hAfter : s₂.SameVersion s') :
    AckEffect s s' es version where
  flag := by
    rw [hAfter.flag, hEffect.flag, hBefore.flag]
  thing := by
    rw [hAfter.thing, hEffect.thing, hBefore.thing]
  recorded := by
    rw [hAfter.version, hEffect.recorded, hBefore.version]
  events := hEffect.events

theorem AckEffect.cons
    {s s' : State}
    {es : List Event}
    {version : Option UInt32}
    (hEffect : AckEffect s s' es version)
    {e : Event}
    (hAside : e.isAside = true) :
    AckEffect s s' (e :: es) version where
  flag := hEffect.flag
  thing := hEffect.thing
  recorded := hEffect.recorded
  events := by
    rcases hEffect.events with ⟨aside, hEach, hEvents⟩
    refine ⟨e :: aside, ?_, by rw [hEvents]; rfl⟩
    intro e' hMem
    rcases List.mem_cons.mp hMem with rfl | hMem
    · exact hAside
    · exact hEach e' hMem

theorem ackedVersion_eq_none
    {port : Port E}
    {s : State}
    {m : Message}
    (hNone : foundVersion port s m = none) :
    ackedVersion port s m = none := by
  unfold ackedVersion
  rw [hNone]
  exact ite_self none

theorem takeAck_effect
    (port : Port E)
    (s : State)
    (m : Message) :
    AckEffect s (takeAck port s m).1 (takeAck port s m).2.1
      (ackedVersion port s m) := by
  have hNothing :
      foundVersion port s m = none →
        AckEffect s s [] (ackedVersion port s m) := by
    intro hNone
    rw [ackedVersion_eq_none hNone]
    exact recordAckVersion_effect s none
  unfold takeAck
  split
  · rename_i hLong
    exact hNothing (if_pos hLong)
  rename_i hFits
  have hJson : cString m.payload = m.json := rfl
  rw [hJson]
  obtain ⟨r, hr⟩ :
      ∃ r,
        isJsonValidAndParse port m.json s.jsonTokenStruct =
          r :=
    ⟨_, rfl⟩
  have hFound :
      foundVersion port s m =
        r.1.map (extractVersionNumber m.json r.2) := by
    unfold foundVersion
    rw [if_neg hFits, hr]
  dsimp only
  rw [hr]
  cases hCount : r.1 with
  | none =>
      have hNone : foundVersion port s m = none := by
        rw [hFound, hCount, Option.map_none]
      exact
        (hNothing hNone).frame (State.SameVersion.refl s)
          ⟨rfl, rfl, rfl⟩
  | some tokenCount =>
      have hVersion :
          ackedVersion port s m =
            if isAckForMyThingName m.topicName
                s.myThingName.bytes then
              extractVersionNumber m.json r.2 tokenCount
            else none := by
        unfold ackedVersion
        rw [hFound, hCount, Option.map_some, Option.join_some]
      dsimp only
      rw [← hVersion]
      obtain ⟨s₁, hs₁⟩ :
          ∃ s₁ : State,
            { s with
              shadowRxBuf := m.json
              jsonTokenStruct := r.2 } = s₁ :=
        ⟨_, rfl⟩
      have hBefore : s.SameVersion s₁ := by
        rw [← hs₁]
        exact ⟨rfl, rfl, rfl⟩
      rw [hs₁]
      have hEffect :=
        recordAckVersion_effect s₁ (ackedVersion port s m)
      split
      · exact hEffect.frame hBefore ⟨rfl, rfl, rfl⟩
      split
      · refine AckEffect.cons ?_ rfl
        exact hEffect.frame hBefore ⟨rfl, rfl, rfl⟩
      · exact hEffect.frame hBefore ⟨rfl, rfl, rfl⟩

/-
  What a delta does to the version while the flag is set: the
  events, the version found, and the number of tokens when
  the registered data are looked through.
-/
inductive DeltaEffect
    (s s' : State) :
    List Event → Option (Option UInt32) → Option Nat →
      Prop where
  | unread
      (hSame : s.SameVersion s')
      (hTable : s'.tokenTable = s.tokenTable) :
      DeltaEffect s s' [] none none
  | plain
      (tokenCount : Nat)
      (hSame : s.SameVersion s') :
      DeltaEffect s s' [.deltaTaken none] (some none)
        (some tokenCount)
  | newer
      {v : UInt32}
      (tokenCount : Nat)
      (hLess :
        s.shadowJsonVersionNum.toNat < v.toNat)
      (hVersion : s'.shadowJsonVersionNum = v)
      (hFlag :
        s'.shadowDiscardOldDeltaFlag =
          s.shadowDiscardOldDeltaFlag)
      (hThing : s'.myThingName = s.myThingName) :
      DeltaEffect s s' [.deltaTaken (some v)]
        (some (some v)) (some tokenCount)
  | older
      {v : UInt32}
      (hLe : v.toNat ≤ s.shadowJsonVersionNum.toNat)
      (hSame : s.SameVersion s')
      (hTable : s'.tokenTable = s.tokenTable) :
      DeltaEffect s s' [.deltaIgnored v] (some (some v)) none

theorem takeDelta_effect
    (port : Port E)
    {s : State}
    (m : Message)
    (hFlag : s.shadowDiscardOldDeltaFlag = true) :
    DeltaEffect s (takeDelta port s m).1
      (takeDelta port s m).2.1 (foundVersion port s m)
      (takeDelta port s m).2.2 := by
  unfold takeDelta
  split
  · rename_i hLong
    have hFound : foundVersion port s m = none := if_pos hLong
    rw [hFound]
    exact .unread (State.SameVersion.refl s) rfl
  rename_i hFits
  have hJson : cString m.payload = m.json := rfl
  rw [hJson]
  obtain ⟨r, hr⟩ :
      ∃ r,
        isJsonValidAndParse port m.json s.jsonTokenStruct =
          r :=
    ⟨_, rfl⟩
  have hFound :
      foundVersion port s m =
        r.1.map (extractVersionNumber m.json r.2) := by
    unfold foundVersion
    rw [if_neg hFits, hr]
  dsimp only
  rw [hr, hFound]
  cases hCount : r.1 with
  | none => exact .unread ⟨rfl, rfl, rfl⟩ rfl
  | some tokenCount =>
      dsimp only
      rw [hFlag, if_pos rfl, Option.map_some]
      cases hExtract :
          extractVersionNumber m.json r.2 tokenCount with
      | none => exact .plain _ ⟨rfl, hFlag.symm, rfl⟩
      | some v =>
          dsimp only
          split
          · rename_i hLess
            exact
              .newer _ (UInt32.lt_iff_toNat_lt.mp hLess) rfl
                hFlag.symm rfl
          · rename_i hNot
            refine .older ?_ ⟨rfl, hFlag.symm, rfl⟩ rfl
            refine Nat.le_of_not_lt (fun hLess => hNot ?_)
            exact UInt32.lt_iff_toNat_lt.mpr hLess

end Shadow

end TrustOnboard

------------------------------------------------------------
-- The Order Of Deltas
------------------------------------------------------------

namespace TrustOnboard

namespace Shadow

open Mqtt (IoTError CString HandlerId)

variable {E : Type}

/- A version that was taken from a message. -/
def TakenFrom (v : UInt32) (log : List Event) : Prop :=
  .ackVersion v ∈ log ∨ .deltaTaken (some v) ∈ log

/-
  Every version that is taken is the one of the message that
  has just arrived, and a delta is only taken when its version
  exceeds those taken before.
-/
def InOrder
    (docs : Message → Reading) :
    Event → List Event → Prop
  | .deltaTaken version, earlier =>
      (∃ m rest,
        earlier = .arrived ⟨.shadowDeltaCallback, m⟩ :: rest ∧
          docVersion m.json (docs m).members = version) ∧
        ∀ v, version = some v →
          ∀ u, TakenFrom u earlier → u < v
  | .ackVersion v, earlier =>
      ∃ m rest,
        earlier = .arrived ⟨.ackStatusCallback, m⟩ :: rest ∧
          docVersion m.json (docs m).members = some v
  | _, _ => True

/-
  The messages are documents with the word as the key of a
  version only, and the version is neither reset nor left out
  of account.
-/
structure Orderly
    (port : Port E)
    (docs : Message → Reading)
    (log : List Event) : Prop where
  noReset : .versionReset ∉ log
  enabled : .discardOldDelta false ∉ log
  parsed :
    ∀ a, .arrived a ∈ log →
      Parsed port (docs a.message) a.message
  onTop :
    ∀ a, .arrived a ∈ log →
      VersionOnTop a.message.json (docs a.message).members

theorem Orderly.of_append
    {port : Port E}
    {docs : Message → Reading}
    {es log : List Event}
    (hOrderly : Orderly port docs (es ++ log)) :
    Orderly port docs log where
  noReset hMem := hOrderly.noReset (List.mem_append_right _ hMem)
  enabled hMem := hOrderly.enabled (List.mem_append_right _ hMem)
  parsed a hMem := hOrderly.parsed a (List.mem_append_right _ hMem)
  onTop a hMem := hOrderly.onTop a (List.mem_append_right _ hMem)

/- What every state of such a run satisfies. -/
structure Ascending
    (docs : Message → Reading)
    (w : Run E) : Prop where
  flag : w.st.shadow.shadowDiscardOldDeltaFlag = true
  bounded :
    ∀ u, TakenFrom u w.log →
      u.toNat ≤ w.st.shadow.shadowJsonVersionNum.toNat
  ordered : Along (InOrder docs) w.log

variable {port : Port E}
variable {docs : Message → Reading}

/- An event that says nothing about a version taken. -/
def Event.isSilent (e : Event) : Bool :=
  e.isAside || match e with
    | .arrived _ => true
    | .deltaIgnored _ => true
    | .discardOldDelta _ => true
    | .dataUpdated _ _ _ => true
    | .deltaNotified _ _ => true
    | _ => false

theorem Event.isSilent_of_isAside
    {e : Event}
    (hAside : e.isAside = true) :
    e.isSilent = true := by
  unfold Event.isSilent
  rw [hAside, Bool.true_or]

theorem inOrder_of_isSilent
    {e : Event}
    (hSilent : e.isSilent = true)
    (earlier : List Event) :
    InOrder docs e earlier := by
  cases e with
  | deltaTaken version => cases hSilent
  | ackVersion v => cases hSilent
  | _ => trivial

/- Silent events add no version. -/
theorem takenFrom_append_silent
    {u : UInt32}
    {es log : List Event}
    (hSilent : ∀ e ∈ es, e.isSilent = true)
    (hTaken : TakenFrom u (es ++ log)) :
    TakenFrom u log := by
  rcases hTaken with hMem | hMem
  · rcases List.mem_append.mp hMem with hMem | hMem
    · cases hSilent _ hMem
    · exact Or.inl hMem
  · rcases List.mem_append.mp hMem with hMem | hMem
    · cases hSilent _ hMem
    · exact Or.inr hMem

/- Silent events that do not touch the version. -/
theorem Ascending.silent
    {s s' : Sys E}
    {log : List Event}
    (hInv : Ascending docs ⟨s, log⟩)
    (es : List Event)
    (hSilent : ∀ e ∈ es, e.isSilent = true)
    (hFlag : s'.shadow.shadowDiscardOldDeltaFlag = true)
    (hLe :
      s.shadow.shadowJsonVersionNum.toNat ≤
        s'.shadow.shadowJsonVersionNum.toNat) :
    Ascending docs ⟨s', es ++ log⟩ where
  flag := hFlag
  bounded u hTaken :=
    Nat.le_trans
      (hInv.bounded u (takenFrom_append_silent hSilent hTaken))
      hLe
  ordered :=
    hInv.ordered.append
      (fun e hMem => inOrder_of_isSilent (hSilent e hMem))

/- One more event that stands where it may. -/
theorem Ascending.taken
    {s s' : Sys E}
    {log : List Event}
    {e : Event}
    (hInv : Ascending docs ⟨s, log⟩)
    (hOrder : InOrder docs e log)
    (hFlag : s'.shadow.shadowDiscardOldDeltaFlag = true)
    (hLe :
      s.shadow.shadowJsonVersionNum.toNat ≤
        s'.shadow.shadowJsonVersionNum.toNat)
    (hNew :
      ∀ u, TakenFrom u [e] →
        u.toNat ≤ s'.shadow.shadowJsonVersionNum.toNat) :
    Ascending docs ⟨s', e :: log⟩ where
  flag := hFlag
  bounded u hTaken := by
    have hCases : TakenFrom u [e] ∨ TakenFrom u log := by
      rcases hTaken with hMem | hMem
      · rcases List.mem_cons.mp hMem with rfl | hMem
        · exact Or.inl (Or.inl (by simp))
        · exact Or.inr (Or.inl hMem)
      · rcases List.mem_cons.mp hMem with rfl | hMem
        · exact Or.inl (Or.inr (by simp))
        · exact Or.inr (Or.inr hMem)
    rcases hCases with hHere | hBefore
    · exact hNew u hHere
    · exact Nat.le_trans (hInv.bounded u hBefore) hLe
  ordered := along_cons.mpr ⟨hOrder, hInv.ordered⟩

/- A version taken is found in an orderly message. -/
theorem docVersion_of_found
    {m : Message}
    {s : State}
    {found : Option UInt32}
    (hParsed : Parsed port (docs m) m)
    (hTop : VersionOnTop m.json (docs m).members)
    (hFound : foundVersion port s m = some found) :
    docVersion m.json (docs m).members = found :=
  (foundVersion_parsed s hParsed
    (fun hObject =>
      hTop.unobstructed hParsed.document hObject)
    hFound).symm

theorem Ascending.ack
    {s : Sys E}
    {log : List Event}
    {m : Message}
    (hInv : Ascending docs ⟨s, log⟩)
    (hParsed : Parsed port (docs m) m)
    (hTop : VersionOnTop m.json (docs m).members) :
    Ascending docs
      ⟨{ s with shadow := (takeAck port s.shadow m).1 },
        ((takeAck port s.shadow m).2.1 ++
          [.arrived ⟨.ackStatusCallback, m⟩]) ++ log⟩ := by
  have hEffect := takeAck_effect port s.shadow m
  rcases hEffect.events with ⟨aside, hAside, hEvents⟩
  have hFlag :
      (takeAck port s.shadow m).1.shadowDiscardOldDeltaFlag =
        true := by
    rw [hEffect.flag]
    exact hInv.flag
  have hLe :
      s.shadow.shadowJsonVersionNum.toNat ≤
        (takeAck port s.shadow
          m).1.shadowJsonVersionNum.toNat := by
    rw [hEffect.recorded]
    exact Nat.le_max_left _ _
  have hArrived :
      Ascending docs
        ⟨{ s with shadow := (takeAck port s.shadow m).1 },
          .arrived ⟨.ackStatusCallback, m⟩ :: log⟩ :=
    hInv.silent [.arrived ⟨.ackStatusCallback, m⟩]
      (by simp [Event.isSilent]) hFlag hLe
  rw [hEvents, List.append_assoc, List.append_assoc]
  refine Ascending.silent ?_ aside
    (fun e hMem => Event.isSilent_of_isAside (hAside e hMem))
    hFlag (Nat.le_refl _)
  cases hVersion : ackedVersion port s.shadow m with
  | none => exact hArrived
  | some v =>
      have hFound :
          foundVersion port s.shadow m = some (some v) := by
        unfold ackedVersion at hVersion
        split at hVersion
        · exact Option.join_eq_some_iff.mp hVersion
        · cases hVersion
      refine
        hArrived.taken
          ⟨m, log, rfl, docVersion_of_found hParsed hTop hFound⟩
          hFlag (Nat.le_refl _) ?_
      intro u hTaken
      have hSame : u = v := by
        rcases hTaken with hMem | hMem
        · cases List.mem_singleton.mp hMem
          rfl
        · cases List.mem_singleton.mp hMem
      have hRecorded := hEffect.recorded
      rw [hVersion] at hRecorded
      rw [hSame, hRecorded]
      exact Nat.le_max_right _ _

theorem Ascending.delta
    {s : Sys E}
    {log : List Event}
    {m : Message}
    (hInv : Ascending docs ⟨s, log⟩)
    (hParsed : Parsed port (docs m) m)
    (hTop : VersionOnTop m.json (docs m).members) :
    Ascending docs
      ⟨{ s with shadow := (takeDelta port s.shadow m).1 },
        ((takeDelta port s.shadow m).2.1 ++
          [.arrived ⟨.shadowDeltaCallback, m⟩]) ++ log⟩ := by
  have hArrived :
      Ascending docs
        ⟨s, .arrived ⟨.shadowDeltaCallback, m⟩ :: log⟩ :=
    hInv.silent [.arrived ⟨.shadowDeltaCallback, m⟩]
      (by simp [Event.isSilent]) hInv.flag (Nat.le_refl _)
  have hEffect := takeDelta_effect port m hInv.flag
  obtain ⟨s', hs'⟩ :
      ∃ s', (takeDelta port s.shadow m).1 = s' := ⟨_, rfl⟩
  obtain ⟨es, hes⟩ :
      ∃ es, (takeDelta port s.shadow m).2.1 = es := ⟨_, rfl⟩
  obtain ⟨found, hFound⟩ :
      ∃ found, foundVersion port s.shadow m = found :=
    ⟨_, rfl⟩
  obtain ⟨taken, hTaken⟩ :
      ∃ taken, (takeDelta port s.shadow m).2.2 = taken :=
    ⟨_, rfl⟩
  rw [hs', hes, List.append_assoc]
  rw [hs', hes, hFound, hTaken] at hEffect
  cases hEffect with
  | unread hSame hTable =>
      exact
        hArrived.silent [] (by simp)
          (hSame.flag.trans hInv.flag)
          (Nat.le_of_eq (congrArg _ hSame.version).symm)
  | older hLe hSame hTable =>
      exact
        hArrived.silent [.deltaIgnored _]
          (by simp [Event.isSilent])
          (hSame.flag.trans hInv.flag)
          (Nat.le_of_eq (congrArg _ hSame.version).symm)
  | plain tokenCount hSame =>
      refine
        hArrived.taken
          ⟨⟨m, log, rfl,
            docVersion_of_found hParsed hTop hFound⟩,
            fun v hNo => nomatch hNo⟩
          (hSame.flag.trans hInv.flag)
          (Nat.le_of_eq (congrArg _ hSame.version).symm) ?_
      intro u hTaken
      rcases hTaken with hMem | hMem
      · cases List.mem_singleton.mp hMem
      · cases List.mem_singleton.mp hMem
  | newer tokenCount hLess hVersion hFlag hThing =>
      rename_i v
      subst hVersion
      refine
        hArrived.taken
          ⟨⟨m, log, rfl,
            docVersion_of_found hParsed hTop hFound⟩, ?_⟩
          (hFlag.trans hInv.flag) (Nat.le_of_lt hLess) ?_
      · intro v hv u hTaken
        cases hv
        have hBefore := hArrived.bounded u hTaken
        exact
          UInt32.lt_iff_toNat_lt.mpr
            (Nat.lt_of_le_of_lt hBefore hLess)
      · intro u hTaken
        rcases hTaken with hMem | hMem
        · cases List.mem_singleton.mp hMem
        · cases List.mem_singleton.mp hMem
          exact Nat.le_refl _

/- Every step of an orderly run keeps the order. -/
theorem Ascending.step
    {s s' : Sys E}
    {es log : List Event}
    (hMove : Within port everyKind s s' es)
    (hOrderly : Orderly port docs (es ++ log))
    (hInv : Ascending docs ⟨s, log⟩) :
    Ascending docs ⟨s', es ++ log⟩ := by
  rcases hMove with ⟨k, _, hMove⟩
  cases hMove with
  | other hSame hText hAside hFits =>
      exact
        hInv.silent es
          (fun e hMem =>
            Event.isSilent_of_isAside (hAside e hMem))
          (hSame.flag.trans hInv.flag)
          (Nat.le_of_eq (congrArg _ hSame.version).symm)
  | ack _ m =>
      have hMem :
          .arrived ⟨.ackStatusCallback, m⟩ ∈
            ((takeAck port s.shadow m).2.1 ++
              [.arrived ⟨.ackStatusCallback, m⟩]) ++ log := by
        simp
      exact
        hInv.ack (hOrderly.parsed _ hMem)
          (hOrderly.onTop _ hMem)
  | delta _ m =>
      have hMem :
          .arrived ⟨.shadowDeltaCallback, m⟩ ∈
            ((takeDelta port s.shadow m).2.1 ++
              [.arrived ⟨.shadowDeltaCallback, m⟩]) ++
                log := by
        simp
      exact
        hInv.delta (hOrderly.parsed _ hMem)
          (hOrderly.onTop _ hMem)
  | round _ tokenCount index =>
      rcases updateToken_cases port tokenCount index
          s.shadow with
        ⟨hSame, hNone⟩ | ⟨table, data, value, told, hSame,
          hEvents, hTold⟩
      · rw [hSame, hNone]
        exact hInv
      · rw [hSame, hEvents]
        refine hInv.silent _ ?_ hInv.flag (Nat.le_refl _)
        rcases hTold with rfl | rfl
        · simp [Event.isSilent]
        · simp [Event.isSilent]
  | reset => exact absurd (by simp) hOrderly.noReset
  | discard _ enabled =>
      cases enabled with
      | false => exact absurd (by simp) hOrderly.enabled
      | true =>
          exact
            hInv.silent [.discardOldDelta true]
              (by simp [Event.isSilent]) rfl (Nat.le_refl _)

/- Orderly runs keep the order. -/
theorem session_ascending
    (level : Nat)
    (calls : List ShadowCall)
    {w : Run E}
    (hInv : Ascending docs w)
    (hOrderly :
      Orderly port docs
        ((session port level calls).run w).2.log) :
    Ascending docs ((session port level calls).run w).2 :=
  (session_moves level calls).final
    (fun _ _ hAfter => hAfter.of_append)
    (fun _ _ _ _ hMove hAfter hBefore =>
      Ascending.step hMove hAfter hBefore)
    hInv hOrderly

/- The deltas of such a run are taken up in their order. -/
theorem session_ordered
    (level : Nat)
    (calls : List ShadowCall)
    {s : Sys E}
    (hFlag : s.shadow.shadowDiscardOldDeltaFlag = true)
    (hOrderly :
      Orderly port docs
        ((session port level calls).run ⟨s, []⟩).2.log) :
    Along (InOrder docs)
      ((session port level calls).run ⟨s, []⟩).2.log := by
  have hStart : Ascending docs (⟨s, []⟩ : Run E) := by
    refine ⟨hFlag, ?_, along_nil⟩
    intro u hTaken
    rcases hTaken with hMem | hMem
    · cases hMem
    · cases hMem
  exact (session_ascending level calls hStart hOrderly).ordered

/- What an old delta leaves behind. -/
structure Ignored
    (v : UInt32)
    (w w' : Run E) : Prop where
  version : w.st.shadow.SameVersion w'.st.shadow
  table : w'.st.shadow.tokenTable = w.st.shadow.tokenTable
  platform : w'.st.env = w.st.env
  events :
    ∃ es,
      w'.log = es ++ w.log ∧
        ∀ e ∈ es, e = .deltaIgnored v ∨ ∃ a, e = .arrived a

theorem shadowDeltaCallback_old
    {sv : Services E}
    {w : Run E}
    {m : Message}
    {v : UInt32}
    (hFlag :
      w.st.shadow.shadowDiscardOldDeltaFlag = true)
    (hParsed : Parsed port (docs m) m)
    (hTop : VersionOnTop m.json (docs m).members)
    (hVersion :
      docVersion m.json (docs m).members = some v)
    (hOld : v ≤ w.st.shadow.shadowJsonVersionNum) :
    ∃ w',
      (shadowDeltaCallback port sv m).run w =
          (some (), w') ∧
        Ignored v w w' := by
  have hEffect := takeDelta_effect port m hFlag
  have hFound :
      ∀ found, foundVersion port w.st.shadow m = some found →
        found = some v := by
    intro found hFound
    rw [← hVersion]
    exact (docVersion_of_found hParsed hTop hFound).symm
  have hNat : v.toNat ≤ w.st.shadow.shadowJsonVersionNum.toNat :=
    UInt32.le_iff_toNat_le.mp hOld
  obtain ⟨s', hs'⟩ :
      ∃ s', (takeDelta port w.st.shadow m).1 = s' := ⟨_, rfl⟩
  obtain ⟨es, hes⟩ :
      ∃ es, (takeDelta port w.st.shadow m).2.1 = es :=
    ⟨_, rfl⟩
  obtain ⟨taken, hTaken⟩ :
      ∃ taken, (takeDelta port w.st.shadow m).2.2 = taken :=
    ⟨_, rfl⟩
  obtain ⟨found, hRead⟩ :
      ∃ found, foundVersion port w.st.shadow m = found :=
    ⟨_, rfl⟩
  rw [hs', hes, hTaken, hRead] at hEffect
  unfold shadowDeltaCallback
  rw [Prog.run_bind, Prog.run_step]
  dsimp only
  rw [hs', hes, hTaken]
  cases hEffect with
  | unread hSame hTable =>
      refine ⟨_, rfl, hSame, hTable, rfl, _, rfl, ?_⟩
      intro e hMem
      exact Or.inr ⟨_, List.mem_singleton.mp hMem⟩
  | older hLe hSame hTable =>
      cases hFound _ hRead
      refine ⟨_, rfl, hSame, hTable, rfl, _, rfl, ?_⟩
      intro e hMem
      rcases List.mem_cons.mp hMem with hEq | hMem
      · exact Or.inl hEq
      · exact Or.inr ⟨_, List.mem_singleton.mp hMem⟩
  | plain tokenCount hSame => cases hFound _ hRead
  | newer tokenCount hLess hKept hFlag' hThing =>
      cases hFound _ hRead
      exact absurd hLess (Nat.not_lt.mpr hNat)

end Shadow

end TrustOnboard

------------------------------------------------------------
-- Examples
------------------------------------------------------------

namespace TrustOnboard

namespace Shadow

open Json

/- A document with a version of one digit. -/
def versionDocument (d : UInt8) : Bytes :=
  ascii "\x7b\"version\":" ++ [d] ++ ascii "\x7d"

/- Its members and tokens. -/
def versionReading (d : UInt8) : Reading where
  members :=
    [⟨ascii "version", ⟨.string, 2, 9⟩, .number [d],
      [⟨.primitive, 11, 12⟩]⟩]
  tokens :=
    [⟨.object, 0, 13⟩, ⟨.string, 2, 9⟩, ⟨.primitive, 11, 12⟩]

/- A platform whose parser knows such documents. -/
def versionPort : Port Script :=
  Port.scripted (fun _ =>
    (3, [⟨.object, 0, 13⟩, ⟨.string, 2, 9⟩,
      ⟨.primitive, 11, 12⟩]))

theorem isNumber_digit
    {d : UInt8}
    (hDigit : IsDigit d) :
    IsNumber [d] := by
  refine
    ⟨[], [d], [], [], rfl, Or.inl rfl, ?_, Or.inl rfl,
      Or.inl rfl⟩
  rcases Nat.eq_or_lt_of_le hDigit.1 with hZero | hMore
  · have hEq : d = 48 := (UInt8.toNat_inj.mp hZero).symm
    exact Or.inl (by rw [hEq])
  · refine Or.inr ⟨d, [], rfl, hMore, hDigit.2, ?_⟩
    intro b hMem
    cases hMem

theorem versionReading_document
    {d : UInt8}
    (hDigit : IsDigit d) :
    IsDocument (versionDocument d)
      (versionReading d).members
      (versionReading d).tokens := by
  have hChars :
      Chars (ascii "version")
        (ascii "version\":" ++ [d] ++ ascii "\x7d")
        (ascii ":" ++ [d] ++ ascii "\x7d") :=
    Chars.of_plain (forall_mem_of_all (by decide)) _
  have hSolid := isBlank_of_isDigit hDigit
  have hReads :
      Reads (.number [d]) (d :: ascii "\x7d")
        (ascii "\x7d") :=
    .number (isNumber_digit hDigit)
      (skip_cons_of_not_blank hSolid _)
  have hMember :
      MemberAt 13
        ⟨ascii "version", ⟨.string, 2, 9⟩, .number [d],
          [⟨.primitive, 11, 12⟩]⟩
        (ascii "\"version\":" ++ [d] ++ ascii "\x7d")
        (ascii "\x7d") := by
    have hValue := Tokens.primitive (n := 13) hReads rfl
    rw [skip_cons_of_not_blank hSolid] at hValue
    exact .mk rfl hChars rfl hValue
  exact .object (.full rfl (.last hMember rfl)) rfl

theorem versionReading_onTop
    {json : Bytes}
    {d : UInt8}
    (hDigit : IsDigit d) :
    VersionOnTop json (versionReading d).members where
  keys := by
    intro m hMem _
    cases List.mem_singleton.mp hMem
    have hSmall : digitsValue 10 [d] < 4294967296 := by
      have hByte := d.toNat_lt
      simp only [digitsValue, digitValue_of_isDigit hDigit,
        List.foldl_cons, List.foldl_nil]
      omega
    simp [wholeNumber, hDigit, hSmall]
  inside := by
    intro m hMem tok hTok hIs
    cases List.mem_singleton.mp hMem
    cases List.mem_singleton.mp hTok
    cases hIs.1

/- The messages of a thing with versions of one digit. -/
def deltaMessage (d : UInt8) : Message where
  topic := deltaTopic (ascii "lamp")
  behind := versionDocument d ++ [0]
  payload := versionDocument d

def getAnswer (d : UInt8) : Message where
  topic := ackTopic (ascii "lamp") .get .accepted
  behind := versionDocument d ++ [0]
  payload := versionDocument d

/-
  The second delta is the older one, and the third repeats
  the version of the acknowledgement before it.
-/
def deltaScript : Script where
  arrivals :=
    [[⟨.shadowDeltaCallback, deltaMessage 50⟩,
        ⟨.shadowDeltaCallback, deltaMessage 49⟩],
      [⟨.ackStatusCallback, getAnswer 53⟩,
        ⟨.shadowDeltaCallback, deltaMessage 53⟩,
        ⟨.shadowDeltaCallback, deltaMessage 54⟩]]
  answers := []
  expiries := []
  calls := []

/- The thing is connected. -/
def lampState : State where
  __ := State.blank
  myThingName := ⟨ascii "lamp", nul_free_lamp⟩

def oneDigit (m : Message) : Reading :=
  versionReading (m.payload.getD 11 48)

/- What happens while it yields twice. -/
def lampLog : List Event :=
  ((session versionPort 2 [.yield 0, .yield 0]).run
    ⟨⟨lampState, deltaScript⟩, []⟩).2.log

/- The messages that arrive. -/
def lampMessages : List Message :=
  [deltaMessage 50, deltaMessage 49, getAnswer 53,
    deltaMessage 53, deltaMessage 54]

theorem lampLog_all :
    lampLog.all (fun e =>
      match e with
      | .arrived a => decide (a.message ∈ lampMessages)
      | .versionReset => false
      | .discardOldDelta _ => false
      | _ => true) = true := by
  decide +kernel

theorem lampMessages_parsed
    {m : Message}
    (hMem : m ∈ lampMessages) :
    Parsed versionPort (oneDigit m) m ∧
      VersionOnTop m.json (oneDigit m).members := by
  have hDigit :
      ∃ d, IsDigit d ∧ m.json = versionDocument d ∧
        oneDigit m = versionReading d := by
    simp only [lampMessages, List.mem_cons, List.not_mem_nil,
      or_false] at hMem
    rcases hMem with rfl | rfl | rfl | rfl | rfl
    · exact ⟨50, by decide, rfl, rfl⟩
    · exact ⟨49, by decide, rfl, rfl⟩
    · exact ⟨53, by decide, rfl, rfl⟩
    · exact ⟨53, by decide, rfl, rfl⟩
    · exact ⟨54, by decide, rfl, rfl⟩
  rcases hDigit with ⟨d, hDigit, hJson, hDoc⟩
  rw [hDoc]
  refine ⟨⟨?_, Or.inl rfl⟩, versionReading_onTop hDigit⟩
  rw [hJson]
  exact versionReading_document hDigit

theorem lampLog_orderly :
    Orderly versionPort oneDigit lampLog := by
  have hAll := List.all_eq_true.mp lampLog_all
  have hArrived :
      ∀ a, .arrived a ∈ lampLog →
        a.message ∈ lampMessages :=
    fun a hMem => of_decide_eq_true (hAll _ hMem)
  refine ⟨?_, ?_, ?_, ?_⟩
  · intro hMem
    cases hAll _ hMem
  · intro hMem
    cases hAll _ hMem
  · intro a hMem
    exact (lampMessages_parsed (hArrived a hMem)).1
  · intro a hMem
    exact (lampMessages_parsed (hArrived a hMem)).2

end Shadow

end TrustOnboard
