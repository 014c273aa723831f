import TrustOnboard.Shadow.AckStatus
import TrustOnboard.Shadow.Footprint
import TrustOnboard.Shadow.Phases

/-
  Every tracked action completes once.

  The entry of an action stays taken until its callback has
  returned and, behind an acknowledgement, until the topics
  have been unsubscribed from.  Whatever arrives meanwhile
  can hit the entry again.  As long as nothing does, the log
  is one that the phases of every entry allow.

  Key definitions include:
    * `Awaited`
    * `Book`

  Key results include:
    * `services_book`
    * `tracked_completes`
-/

------------------------------------------------------------
-- The Book
------------------------------------------------------------

namespace TrustOnboard

namespace Shadow

open Mqtt (IoTError CString HandlerId)

variable {E : Type}

/- A token that fits into its array as a C string. -/
def IsShortToken (token : Bytes) : Prop :=
  (0 : UInt8) ∉ token ∧
    token.length < maxSizeClientIdWithSequence

instance (token : Bytes) : Decidable (IsShortToken token) :=
  inferInstanceAs (Decidable (_ ∧ _))

/- An entry that waits for its answer. -/
def Waits
    (i : Fin maxAcks)
    (log : List Event) : Prop :=
  ∃ token, phase i log = some (.waiting token)

instance (i : Fin maxAcks) (log : List Event) :
    Decidable (Waits i log) :=
  match h : phase i log with
  | some (.waiting token) => .isTrue ⟨token, h⟩
  | none => .isFalse (fun ⟨_, hWaits⟩ => by simp_all)
  | some .idle => .isFalse (fun ⟨_, hWaits⟩ => by simp_all)
  | some (.decided _ _) =>
      .isFalse (fun ⟨_, hWaits⟩ => by simp_all)
  | some (.called _) =>
      .isFalse (fun ⟨_, hWaits⟩ => by simp_all)

/-
  An answer or the end of its time reaches an entry that
  still waits, and an entry that is taken is still idle.
-/
def Awaited : Event → List Event → Prop
  | .tracked i token _ _, earlier =>
      phase i earlier = some .idle ∧ IsShortToken token
  | .acked _ _ (some i), earlier => Waits i earlier
  | .expired i, earlier => Waits i earlier
  | _, _ => True

instance (e : Event) (earlier : List Event) :
    Decidable (Awaited e earlier) := by
  unfold Awaited
  split <;> infer_instance

/- Runs in which every token is new and this is kept. -/
def Tidy (log : List Event) : Prop :=
  (trackedTokens log).Nodup ∧ Along Awaited log

theorem Tidy.earlier
    {es log : List Event}
    (hTidy : Tidy (es ++ log)) :
    Tidy log := by
  refine ⟨?_, hTidy.2.earlier⟩
  have hTokens := hTidy.1
  unfold trackedTokens at hTokens ⊢
  rw [List.filterMap_append] at hTokens
  exact hTokens.of_append_right

/- What an entry has done, apart from its token. -/
inductive Mark where
  | open
  | decided (status : AckStatus)
  | called

def Phase.mark : Phase → Mark
  | .idle => .open
  | .waiting _ => .open
  | .decided _ status => .decided status
  | .called _ => .called

/- What the record of an entry holds in a phase. -/
def Phase.Shows
    (port : Port E)
    (r : ToBeReceivedAckRecord)
    (p : Phase) : Prop :=
  match p.token with
  | none => r.isFree = true
  | some token =>
      r.isFree = false ∧ r.tokenString port = token ∧
        r.callback.isSome = true

/- The records are as the log tells, with some marks. -/
def Book
    (port : Port E)
    (marks : Fin maxAcks → Mark)
    (w : Run E) : Prop :=
  ∀ i, ∃ p,
    phase i w.log = some p ∧ p.mark = marks i ∧
      p.Shows port (w.st.shadow.ackWaitList i)

/- A run that is not tidy owes nothing. -/
def tidyContract
    (port : Port E) : Contract (Sys E) Event where
  excused := fun log => ¬ Tidy log
  excused_append := fun _ hBad hTidy => hBad hTidy.earlier
  halted := fun w => ∃ marks, Book port marks w

end Shadow

end TrustOnboard

------------------------------------------------------------
-- Single Steps
------------------------------------------------------------

namespace TrustOnboard

namespace Shadow

open Mqtt (IoTError CString HandlerId)

variable {E : Type}
variable {port : Port E}
variable {marks : Fin maxAcks → Mark}
variable {s s' : Sys E}
variable {es l : List Event}

theorem next_of_offEntry
    {e : Event}
    (hOff : e.onEntry = false)
    (i : Fin maxAcks)
    (p : Phase) :
    p.next i e = some p := by
  cases e with
  | acked _ _ _ => cases hOff
  | raised _ _ _ => cases hOff
  | tracked _ _ _ _ => cases hOff
  | expired _ => cases hOff
  | notified _ _ _ _ _ => cases hOff
  | freed _ => cases hOff
  | _ => rfl

theorem phase_of_offEntry
    (hOff : ∀ e ∈ es, e.onEntry = false)
    (i : Fin maxAcks) :
    phase i (es ++ l) = phase i l :=
  reached_unnoticed
    (fun e he p => next_of_offEntry (hOff e he) i p)

/- A step that leaves the awaited answers alone. -/
theorem Book.frame
    (hBook : Book port marks ⟨s, l⟩)
    (hAcks : s'.shadow.ackWaitList = s.shadow.ackWaitList)
    (hOff : ∀ e ∈ es, e.onEntry = false) :
    Book port marks ⟨s', es ++ l⟩ := by
  intro i
  rcases hBook i with ⟨p, hPhase, hMark, hShows⟩
  refine ⟨p, ?_, hMark, ?_⟩
  · show phase i (es ++ l) = some p
    rw [phase_of_offEntry hOff]
    exact hPhase
  · show p.Shows port (s'.shadow.ackWaitList i)
    rw [hAcks]
    exact hShows

theorem offEntry_of_isPlain
    {e : Event}
    (hPlain : e.isPlain = true) :
    e.onEntry = false := by
  cases e <;> first | rfl | cases hPlain

theorem takeDelta_frame
    (port : Port E)
    (s : State)
    (m : Message) :
    (takeDelta port s m).1.ackWaitList = s.ackWaitList ∧
      ∀ e ∈ (takeDelta port s m).2.1, e.onEntry = false := by
  unfold takeDelta
  split
  · exact ⟨rfl, fun e he => (by cases he)⟩
  simp only
  split
  · exact ⟨rfl, fun e he => (by cases he)⟩
  split
  · split
    · exact ⟨rfl, by simp [Event.onEntry]⟩
    · split
      · exact ⟨rfl, by simp [Event.onEntry]⟩
      · exact ⟨rfl, by simp [Event.onEntry]⟩
  · exact ⟨rfl, by simp [Event.onEntry]⟩

/- The kinds of steps away from the awaited answers. -/
abbrev awayKinds : List StepKind :=
  [.plain, .list, .delta, .setting]

theorem Book.away
    (hStep : Within port awayKinds s s' es)
    (hBook : Book port marks ⟨s, l⟩) :
    Book port marks ⟨s', es ++ l⟩ := by
  rcases hStep with ⟨k, hKind, hMove⟩
  cases hMove with
  | other hSame hText hAside hFits =>
      simp only [List.mem_cons, List.not_mem_nil, or_false]
        at hKind
      rcases hKind with rfl | rfl | rfl | rfl
      · exact
          hBook.frame hFits.1.acks
            (fun e he => offEntry_of_isPlain (hFits.2 e he))
      · exact hBook.frame hFits.1 hFits.2
      · exact hFits.elim
      · exact hFits.elim
  | ack s m =>
      exact absurd hKind (by decide)
  | delta s m =>
      have hFrame := takeDelta_frame port s.shadow m
      refine hBook.frame hFrame.1 (fun e he => ?_)
      rcases List.mem_append.mp he with hMem | hMem
      · exact hFrame.2 e hMem
      · cases List.mem_singleton.mp hMem
        rfl
  | round s tokenCount index =>
      rcases updateToken_cases port tokenCount index
          s.shadow with
        ⟨hSame, hNone⟩ | ⟨table, data, value, told, hSame,
          hEvents, hTold⟩
      · rw [hSame, hNone]
        exact hBook.frame rfl (fun e he => (by cases he))
      · rw [hSame, hEvents]
        refine hBook.frame rfl (fun e he => ?_)
        rcases hTold with rfl | rfl
        · cases List.mem_singleton.mp he
          rfl
        · rcases List.mem_cons.mp he with rfl | he
          · rfl
          · cases List.mem_singleton.mp he
            rfl
  | reset s => exact hBook.frame rfl (by simp [Event.onEntry])
  | discard s enabled =>
      exact hBook.frame rfl (by simp [Event.onEntry])

/- Programs of such steps and parts that keep the book. -/
theorem keeps_of_away
    {α β : Type}
    {Q : Code E β → Prop}
    {p : Code E α}
    (hBuilt : Prog.Built (Within port awayKinds) Q p)
    (hParts :
      ∀ p, Q p → Keeps (tidyContract port) (Book port marks) p) :
    Keeps (tidyContract port) (Book port marks) p :=
  hBuilt.keeps
    (fun _ _ _ _ hStep hBook => .inr (hBook.away hStep))
    hParts

theorem keeps_ask
    {α : Type}
    (f : E → α × E) :
    Keeps (tidyContract port) (Book port marks)
      (ask f : Code E α) :=
  Triple.step (fun _ hBook =>
    .inr (hBook.frame rfl (fun e he => (by cases he))))

theorem keeps_record
    {e : Event}
    (hOff : e.onEntry = false) :
    Keeps (tidyContract port) (Book port marks)
      (record e : Code E Unit) :=
  Triple.step (fun _ hBook =>
    .inr (hBook.frame rfl (by simp [hOff])))

end Shadow

end TrustOnboard

------------------------------------------------------------
-- Steps Of An Entry
------------------------------------------------------------

namespace TrustOnboard

namespace Shadow

open Mqtt (IoTError CString HandlerId)

variable {E : Type}
variable {port : Port E}
variable {marks : Fin maxAcks → Mark}
variable {s s' : Sys E}
variable {l : List Event}

theorem Phase.Shows.token_of_taken
    {r : ToBeReceivedAckRecord}
    {p : Phase}
    (hShows : p.Shows port r)
    (hTaken : r.isFree = false) :
    p.token = some (r.tokenString port) := by
  unfold Phase.Shows at hShows
  split at hShows
  · rw [hTaken] at hShows
    cases hShows
  · rename_i token hToken
    rw [hToken, hShows.2.1]

/- An event about one entry changes the book of this entry. -/
theorem Book.enter
    (s' : Sys E)
    {e : Event}
    {i : Fin maxAcks}
    {p' : Phase}
    (hBook : Book port marks ⟨s, l⟩)
    (hPhase : phase i (e :: l) = some p')
    (hOther : ∀ j ≠ i, ∀ p : Phase, p.next j e = some p)
    (hAcks :
      ∀ j ≠ i,
        s'.shadow.ackWaitList j = s.shadow.ackWaitList j)
    (hShows : p'.Shows port (s'.shadow.ackWaitList i)) :
    Book port (Function.update marks i p'.mark)
      ⟨s', e :: l⟩ := by
  intro j
  by_cases hEq : j = i
  · subst hEq
    exact ⟨p', hPhase, by simp, hShows⟩
  · rcases hBook j with ⟨p, hBefore, hMark, hHere⟩
    refine ⟨p, ?_, ?_, ?_⟩
    · exact (phase_cons hBefore).trans (hOther j hEq p)
    · rw [Function.update_of_ne hEq]
      exact hMark
    · show p.Shows port (s'.shadow.ackWaitList j)
      rw [hAcks j hEq]
      exact hHere

/- What can be seen of the beginning of the callback. -/
theorem takeAck_cases
    (port : Port E)
    (s : State)
    (m : Message) :
    (takeAck port s m).1.ackWaitList = s.ackWaitList ∧
      (((takeAck port s m).2.2 = none ∧
          ∀ e ∈ (takeAck port s m).2.1, e.onEntry = false) ∨
        ∃ token status es,
          status ≠ .timeout ∧
            (takeAck port s m).2.1 =
                .acked token status
                  (findAwaited port s token) :: es ∧
              (∀ e ∈ es, e.onEntry = false) ∧
                (takeAck port s m).2.2 =
                  (findAwaited port s token).map
                    (fun i => (i, status))) := by
  have hVersion :
      ∀ (s' : State) (v : Option UInt32),
        (recordAckVersion s' v).1.ackWaitList =
            s'.ackWaitList ∧
          ∀ e ∈ (recordAckVersion s' v).2,
            e.onEntry = false := by
    intro s' v
    unfold recordAckVersion
    cases v with
    | none => exact ⟨rfl, fun e he => (by cases he)⟩
    | some v =>
        dsimp only
        refine ⟨?_, by simp [Event.onEntry]⟩
        split <;> rfl
  unfold takeAck
  split
  · exact ⟨rfl, .inl ⟨rfl, fun e he => (by cases he)⟩⟩
  simp only
  split
  · exact ⟨rfl, .inl ⟨rfl, fun e he => (by cases he)⟩⟩
  rename_i tokenCount hCount
  generalize hTaken :
    recordAckVersion _ _ = taken
  have hSpec :
      taken.1.ackWaitList = s.ackWaitList ∧
        ∀ e ∈ taken.2, e.onEntry = false := by
    rw [← hTaken]
    exact hVersion _ _
  split
  · exact ⟨hSpec.1, .inl ⟨rfl, hSpec.2⟩⟩
  rename_i token hToken
  split
  · rename_i hStatus
    refine ⟨hSpec.1, .inr ?_⟩
    have hFound :
        findAwaited port
            { taken.1 with
              jsonTokenStruct :=
                (extractClientToken port (cString m.payload)
                  taken.1.jsonTokenStruct).2 }
            token =
          findAwaited port s token := by
      unfold findAwaited
      simp only [hSpec.1]
    rw [hFound]
    refine ⟨token, _, taken.2, ?_, rfl, hSpec.2, rfl⟩
    intro hTimeout
    rw [hTimeout] at hStatus
    rcases hStatus with hNo | hNo <;> cases hNo
  · exact ⟨hSpec.1, .inl ⟨rfl, hSpec.2⟩⟩

/- The entry found is taken and has the token. -/
theorem findAwaited_some
    {s : State}
    {token : Bytes}
    {i : Fin maxAcks}
    (hFound : findAwaited port s token = some i) :
    (s.ackWaitList i).isFree = false ∧
      (s.ackWaitList i).tokenString port = token := by
  have hHere := List.find?_some hFound
  simpa using hHere

theorem findAwaited_none
    {s : State}
    {token : Bytes}
    (hFound : findAwaited port s token = none)
    (i : Fin maxAcks)
    (hTaken : (s.ackWaitList i).isFree = false) :
    (s.ackWaitList i).tokenString port ≠ token := by
  have hAll := List.find?_eq_none.mp hFound i
    (List.mem_finRange i)
  simpa [hTaken] using hAll

/- The marks behind an acknowledgement. -/
def marked
    (marks : Fin maxAcks → Mark)
    (status : AckStatus) :
    Option (Fin maxAcks) → Fin maxAcks → Mark
  | none => marks
  | some i => Function.update marks i (.decided status)

/- An acknowledgement decides the entry with its token. -/
theorem Book.acked
    {token : Bytes}
    {status : AckStatus}
    (hBook : Book port marks ⟨s, l⟩)
    (hStatus : status ≠ .timeout)
    (hTidy :
      Tidy
        (.acked token status
          (findAwaited port s.shadow token) :: l)) :
    Book port
        (marked marks status
          (findAwaited port s.shadow token))
        ⟨s,
          .acked token status
            (findAwaited port s.shadow token) :: l⟩ ∧
      ∀ i, findAwaited port s.shadow token = some i →
        marks i = .open := by
  have hDistinct : (trackedTokens l).Nodup := hTidy.1
  have hAwaited := (along_cons.mp hTidy.2).1
  generalize hFound :
    findAwaited port s.shadow token = found at *
  -- An entry that is found still waits, and for this token.
  have hHit :
      ∀ i, found = some i →
        phase i l = some (.waiting token) := by
    rintro i rfl
    rcases hAwaited with ⟨t, hWaits⟩
    rcases hBook i with ⟨p, hPhase, _, hShows⟩
    rcases findAwaited_some hFound with ⟨hTaken, hToken⟩
    have hHas := hShows.token_of_taken hTaken
    rw [hToken] at hHas
    have hSame : p = .waiting t :=
      Option.some.inj (hPhase.symm.trans hWaits)
    subst hSame
    cases hHas
    exact hWaits
  -- An entry that waits for this token is found.
  have hMiss :
      ∀ i, phase i l = some (.waiting token) →
        found = some i := by
    intro i hWaits
    rcases hBook i with ⟨p, hPhase, _, hShows⟩
    have hSame : p = .waiting token :=
      Option.some.inj (hPhase.symm.trans hWaits)
    subst hSame
    cases hFind : found with
    | none =>
        rw [hFind] at hFound
        exact
          absurd hShows.2.1
            (findAwaited_none hFound i hShows.1)
    | some j =>
        have hOther := hHit j hFind
        rw [entry_of_phases hDistinct hWaits hOther rfl rfl]
  refine ⟨?_, ?_⟩
  · intro i
    rcases hBook i with ⟨p, hPhase, hMark, hShows⟩
    by_cases hWaits : p = .waiting token
    · subst hWaits
      have hHere := hMiss i hPhase
      refine ⟨.decided token status, ?_, ?_, hShows⟩
      · rw [phase_cons hPhase]
        unfold Phase.next Phase.acked
        dsimp only
        rw [if_neg hStatus, if_pos rfl, if_pos hHere]
      · rw [hHere]
        simp [marked, Phase.mark]
    · have hNot : found ≠ some i := fun hEq =>
        hWaits (Option.some.inj (hPhase.symm.trans (hHit i hEq)))
      refine ⟨p, ?_, ?_, hShows⟩
      · rw [phase_cons hPhase]
        unfold Phase.next Phase.acked
        dsimp only
        rw [if_neg hStatus, if_neg hWaits, if_neg hNot]
      · rw [hMark]
        cases found with
        | none => rfl
        | some j =>
            have hNe : i ≠ j := fun hEq => hNot (by rw [hEq])
            exact (Function.update_of_ne hNe _ _).symm
  · intro i hEq
    rcases hBook i with ⟨p, hPhase, hMark, _⟩
    have hSame : p = .waiting token :=
      Option.some.inj (hPhase.symm.trans (hHit i hEq))
    rw [← hMark, hSame]
    rfl

end Shadow

end TrustOnboard

------------------------------------------------------------
-- Programs
------------------------------------------------------------

namespace TrustOnboard

namespace Shadow

open Mqtt (IoTError CString HandlerId)

variable {E : Type}
variable {port : Port E}
variable {sv : Services E}
variable {marks : Fin maxAcks → Mark}

/- Services that keep the book whatever the marks are. -/
def Services.KeepBook
    (port : Port E)
    (sv : Services E) : Prop :=
  ∀ marks p, sv.Part p →
    Keeps (tidyContract port) (Book port marks) p

theorem Services.KeepBook.calls
    (hServices : sv.KeepBook port)
    (cs : List ShadowCall) :
    Keeps (tidyContract port) (Book port marks)
      (Prog.each (fun c => sv.call c >>= fun _ => pure ())
        cs) :=
  Triple.each
    (fun c _ =>
      (hServices marks _ (.call c)).bind (fun _ => .same))

theorem Services.KeepBook.unsubscribed
    (hServices : sv.KeepBook port)
    (i : Fin maxAcks) :
    Keeps (tidyContract port) (Book port marks)
      (unsubscribeFromAcceptedAndRejected port sv i) :=
  keeps_of_away
    ((made_unsubscribe i).mono (by decide))
    (fun p hPart => hServices marks p hPart)

/- Once it is decided, the callback is called. -/
theorem Services.KeepBook.notified
    (hServices : sv.KeepBook port)
    (i : Fin maxAcks)
    (status : AckStatus) :
    Triple (tidyContract port)
      (Book port (Function.update marks i (.decided status)))
      (notify port sv i status)
      (fun _ =>
        Book port (Function.update marks i .called)) := by
  let decidedBook : Run E → Prop :=
    Book port (Function.update marks i (.decided status))
  have hRead :
      Triple (tidyContract port) decidedBook
        (Prog.read (fun s : Sys E => s.shadow.ackWaitList i))
        (fun r w =>
          r.callback.isSome = true ∧ decidedBook w) := by
    refine Triple.read (fun w hBook => ⟨?_, hBook⟩)
    rcases hBook i with ⟨p, _, hMark, hShows⟩
    rw [Function.update_self] at hMark
    cases p with
    | decided token verdict => exact hShows.2.2
    | idle => cases hMark
    | waiting token => cases hMark
    | called token => cases hMark
  refine hRead.bind (fun r => Triple.of_fact (fun hSome => ?_))
  have hDocument :
      Triple (tidyContract port) decidedBook
        (Prog.read (fun s : Sys E => s.shadow.shadowRxBuf))
        (fun _ => decidedBook) :=
    Triple.read (fun _ hBook => hBook)
  refine hDocument.bind (fun document => ?_)
  cases hCallback : r.callback with
  | none =>
      rw [hCallback] at hSome
      cases hSome
  | some handler =>
      dsimp only
      have hRecord :
          Triple (tidyContract port) decidedBook
            (record
              (.notified i (r.nameString port) r.action status
                document))
            (fun _ =>
              Book port (Function.update marks i .called)) := by
        refine Triple.emit (fun w hBook => .inr ?_)
        rcases hBook i with ⟨p, hPhase, hMark, hShows⟩
        rw [Function.update_self] at hMark
        cases p with
        | idle => cases hMark
        | waiting token => cases hMark
        | called token => cases hMark
        | decided token verdict =>
            cases hMark
            have hNext :
                phase i
                    (.notified i (r.nameString port) r.action
                      status document :: w.log) =
                  some (.called token) := by
              rw [phase_cons hPhase]
              simp [Phase.next, Phase.notified]
            have hNew :=
              Book.enter w.st hBook hNext
                (fun j hNe p => if_neg (Ne.symm hNe))
                (fun _ _ => rfl) hShows
            rw [Function.update_idem] at hNew
            exact hNew
      refine hRecord.bind (fun _ => ?_)
      refine (keeps_ask _).bind (fun cs => ?_)
      exact hServices.calls cs

theorem isFree_setAck
    (s : State)
    (i : Fin maxAcks) :
    ((s.setAck i (fun r =>
      { r with isFree := true })).ackWaitList i).isFree =
        true := by
  unfold State.setAck
  dsimp only
  rw [Function.update_self]

/- Behind the callback the entry is released. -/
theorem freeAck_book
    (i : Fin maxAcks)
    (hOpen : marks i = .open) :
    Triple (tidyContract port)
      (Book port (Function.update marks i .called))
      (freeAck i)
      (fun _ => Book port marks) := by
  refine Triple.step (fun w hBook => .inr ?_)
  rcases hBook i with ⟨p, hPhase, hMark, hShows⟩
  rw [Function.update_self] at hMark
  cases p with
  | idle => cases hMark
  | waiting token => cases hMark
  | decided token verdict => cases hMark
  | called token =>
      have hNext :
          phase i (.freed i :: w.log) = some .idle := by
        rw [phase_cons hPhase]
        simp [Phase.next, Phase.freed]
      have hNew :=
        Book.enter
          { w.st with
            shadow :=
              w.st.shadow.setAck i (fun r =>
                { r with isFree := true }) }
          hBook hNext
          (fun j hNe p => if_neg (Ne.symm hNe))
          (fun j hNe => Function.update_of_ne hNe _ _)
          (isFree_setAck w.st.shadow i)
      have hMarks :
          Function.update (Function.update marks i .called) i
              Phase.idle.mark =
            marks := by
        rw [Function.update_idem]
        show Function.update marks i .open = marks
        rw [← hOpen, Function.update_eq_self]
      rw [hMarks] at hNew
      exact hNew

/- The book once an acknowledgement was looked up. -/
def Taken
    (port : Port E)
    (marks : Fin maxAcks → Mark)
    (w : Run E) :
    Option (Fin maxAcks × AckStatus) → Prop
  | none => Book port marks w
  | some (i, status) =>
      marks i = .open ∧
        Book port
          (Function.update marks i (.decided status)) w

theorem Services.KeepBook.acknowledged
    (hServices : sv.KeepBook port)
    (m : Message) :
    Keeps (tidyContract port) (Book port marks)
      (ackStatusCallback port sv m) := by
  have hTake :
      Triple (tidyContract port) (Book port marks)
        (Prog.step (fun s : Sys E =>
          let r := takeAck port s.shadow m
          (r.2.2, { s with shadow := r.1 },
            r.2.1 ++ [.arrived ⟨.ackStatusCallback, m⟩])))
        (fun hit w => Taken port marks w hit) := by
    refine Triple.step (fun w hBook => ?_)
    have hCases := takeAck_cases port w.st.shadow m
    dsimp only
    rcases hCases with ⟨hAcks, hNone | hSome⟩
    · refine .inr ?_
      rw [hNone.1]
      refine hBook.frame hAcks (fun e he => ?_)
      rcases List.mem_append.mp he with hMem | hMem
      · exact hNone.2 e hMem
      · cases List.mem_singleton.mp hMem
        rfl
    · rcases hSome with
        ⟨token, status, es, hStatus, hEvents, hOff, hHit⟩
      rw [hEvents, hHit, List.cons_append, List.cons_append]
      have hBefore :
          Book port marks
            ⟨{ w.st with
                shadow := (takeAck port w.st.shadow m).1 },
              es ++ [.arrived ⟨.ackStatusCallback, m⟩] ++
                w.log⟩ := by
        refine hBook.frame hAcks (fun e he => ?_)
        rcases List.mem_append.mp he with hMem | hMem
        · exact hOff e hMem
        · cases List.mem_singleton.mp hMem
          rfl
      have hFound :
          findAwaited port w.st.shadow token =
            findAwaited port (takeAck port w.st.shadow m).1
              token := by
        unfold findAwaited
        simp only [hAcks]
      rw [hFound]
      refine or_iff_not_imp_left.mpr (fun hNot => ?_)
      have hTidy := not_not.mp hNot
      rcases Book.acked hBefore hStatus hTidy with
        ⟨hNew, hOpen⟩
      generalize
        findAwaited port (takeAck port w.st.shadow m).1
          token = found at hNew hOpen ⊢
      cases found with
      | none => exact hNew
      | some i => exact ⟨hOpen i rfl, hNew⟩
  refine hTake.bind (fun hit => ?_)
  cases hit with
  | none => exact .same
  | some p =>
      rcases p with ⟨i, status⟩
      refine Triple.of_fact (fun hOpen => ?_)
      refine (hServices.notified i status).bind (fun _ => ?_)
      refine (hServices.unsubscribed i).bind (fun _ => ?_)
      exact freeAck_book i hOpen

/- The end of the time of an entry that is not free. -/
theorem Services.KeepBook.timedOut
    (hServices : sv.KeepBook port)
    (i : Fin maxAcks) :
    Keeps (tidyContract port) (Book port marks)
      (handleExpiredResponse port sv i) := by
  have hRead :
      Keeps (tidyContract port) (Book port marks)
        (Prog.read (fun s : Sys E =>
          s.shadow.ackWaitList i)) :=
    Triple.read (fun _ hBook => hBook)
  refine hRead.bind (fun r => Triple.ite (fun _ => .same) ?_)
  intro _
  refine (keeps_ask _).bind (fun expired => ?_)
  refine Triple.ite (fun _ => ?_) (fun _ => .same)
  have hExpired :
      Triple (tidyContract port) (Book port marks)
        (record (.expired i))
        (fun _ w =>
          marks i = .open ∧
            Book port
              (Function.update marks i (.decided .timeout))
              w) := by
    refine Triple.emit (fun w hBook => ?_)
    refine or_iff_not_imp_left.mpr (fun hNot => ?_)
    have hTidy : Tidy (.expired i :: w.log) := not_not.mp hNot
    rcases (along_cons.mp hTidy.2).1 with ⟨token, hWaits⟩
    rcases hBook i with ⟨p, hPhase, hMark, hShows⟩
    have hSame : p = .waiting token :=
      Option.some.inj (hPhase.symm.trans hWaits)
    subst hSame
    have hNext :
        phase i (.expired i :: w.log) =
          some (.decided token .timeout) := by
      rw [phase_cons hPhase]
      simp [Phase.next, Phase.expired]
    exact
      ⟨hMark.symm,
        Book.enter w.st hBook hNext
          (fun j hNe p => if_neg (Ne.symm hNe))
          (fun _ _ => rfl) hShows⟩
  refine hExpired.bind (fun _ => Triple.of_fact ?_)
  intro hOpen
  refine (hServices.notified i .timeout).bind (fun _ => ?_)
  refine (freeAck_book i hOpen).bind (fun _ => ?_)
  exact hServices.unsubscribed i

/- An entry that is taken for an action is idle. -/
theorem addToAckWaitList_book
    (i : Fin maxAcks)
    (thing : CString)
    (action : ShadowAction)
    (token : Bytes)
    (callback : HandlerId)
    (context : Nat)
    (timeoutSeconds : UInt32) :
    Keeps (tidyContract port) (Book port marks)
      (addToAckWaitList port i thing action token callback
        context timeoutSeconds) := by
  refine Triple.step (fun w hBook => ?_)
  refine or_iff_not_imp_left.mpr (fun hNot => ?_)
  have hTidy :
      Tidy (.tracked i token thing.bytes action :: w.log) :=
    not_not.mp hNot
  rcases (along_cons.mp hTidy.2).1 with ⟨hIdle, hShort⟩
  rcases hBook i with ⟨p, hPhase, hMark, _⟩
  have hSame : p = .idle :=
    Option.some.inj (hPhase.symm.trans hIdle)
  subst hSame
  have hNext :
      phase i (.tracked i token thing.bytes action :: w.log) =
        some (.waiting token) := by
    rw [phase_cons hPhase]
    simp [Phase.next]
  have hRecord :
      (Phase.waiting token).Shows port
        (ackRecord thing action token (some callback)
          context) := by
    refine ⟨rfl, ?_, rfl⟩
    unfold ToBeReceivedAckRecord.tokenString ackRecord
    dsimp only
    rw [List.append_assoc]
    exact cString_strncpy hShort.1 hShort.2 _
  have hNew :=
    Book.enter
      { w.st with
        shadow :=
          w.st.shadow.setAck i (fun _ =>
            ackRecord thing action token (some callback)
              context)
        env := port.countdown i timeoutSeconds w.st.env }
      hBook hNext
      (fun j hNe p => if_neg (Ne.symm hNe))
      (fun j hNe => Function.update_of_ne hNe _ _)
      (by
        show
          (Phase.waiting token).Shows port
            (Function.update w.st.shadow.ackWaitList i _ i)
        rw [Function.update_self]
        exact hRecord)
  have hMarks :
      Function.update marks i (Phase.waiting token).mark =
        marks := by
    show Function.update marks i .open = marks
    have hOpen : Mark.open = marks i := hMark
    rw [hOpen, Function.update_eq_self]
  rw [hMarks] at hNew
  exact hNew

theorem Services.KeepBook.tracked
    (hServices : sv.KeepBook port)
    (thing : CString)
    (action : ShadowAction)
    (json token : Bytes)
    (callback : HandlerId)
    (context : Nat)
    (timeoutSeconds : UInt32)
    (isSticky : Bool)
    (i : Fin maxAcks) :
    Keeps (tidyContract port) (Book port marks)
      (trackedAction port sv thing action json token callback
        context timeoutSeconds isSticky i) := by
  have hPrepare :
      Keeps (tidyContract port) (Book port marks)
        (prepareSubscriptions port sv thing.bytes action
          isSticky) :=
    keeps_of_away
      ((made_prepareSubscriptions thing.bytes action
        isSticky).mono (by decide))
      (fun p hPart => hServices marks p hPart)
  have hRaised :
      Keeps (tidyContract port) (Book port marks)
        (record (.raised thing.bytes action isSticky)) := by
    refine Triple.emit (fun w hBook => .inr (fun i => ?_))
    rcases hBook i with ⟨p, hPhase, hRest⟩
    exact ⟨p, phase_cons hPhase, hRest⟩
  refine hPrepare.bind (fun rc => ?_)
  refine Triple.ite (fun _ => ?_) (fun _ => .same)
  refine hRaised.bind (fun _ => ?_)
  refine (hServices marks _ (.mqtt _)).bind (fun rc => ?_)
  refine Triple.ite (fun _ => ?_) (fun _ => .same)
  exact
    (addToAckWaitList_book i thing action token callback
      context timeoutSeconds).bind (fun _ => .same)

end Shadow

end TrustOnboard

------------------------------------------------------------
-- Runs
------------------------------------------------------------

namespace TrustOnboard

namespace Shadow

open Mqtt (IoTError CString HandlerId)

variable {E : Type}
variable {port : Port E}
variable {sv : Services E}
variable {marks : Fin maxAcks → Mark}

theorem Services.KeepBook.outer
    (hServices : sv.KeepBook port)
    {α : Type}
    {p : Code E α}
    (hOuter : Outer port sv p) :
    Keeps (tidyContract port) (Book port marks) p := by
  refine keeps_of_away
    (Prog.Built.mono hOuter (fun _ _ _ hStep => ?_)
      (fun _ hInner => .part hInner)) ?_
  · rcases hStep with ⟨k, hKind, hMove⟩
    refine ⟨k, ?_, hMove⟩
    cases k <;> simp_all
  · intro p hInner
    cases hInner with
    | part hPart => exact hServices marks p hPart
    | action => exact hServices.tracked _ _ _ _ _ _ _ _ _

theorem Services.KeepBook.requested
    (hServices : sv.KeepBook port)
    (c : ShadowCall) :
    Keeps (tidyContract port) (Book port marks)
      (shadowCall port sv c) := by
  by_cases hYield : ∃ timeout, c = .yield timeout
  · rcases hYield with ⟨timeout, rfl⟩
    have hExpired :
        Keeps (tidyContract port) (Book port marks)
          (handleExpiredResponseCallbacks port sv) :=
      Triple.each
        (fun i _ => hServices.timedOut i)
    exact hExpired.bind (fun _ => hServices marks _ (.mqtt _))
  · exact
      hServices.outer
        (outer_shadowCall (fun t hEq => hYield ⟨t, hEq⟩))

theorem Services.KeepBook.delivered
    (hServices : sv.KeepBook port)
    (a : Arrival) :
    Keeps (tidyContract port) (Book port marks)
      (deliver port sv a) := by
  rcases a with ⟨receiver, m⟩
  cases receiver with
  | ackStatusCallback => exact hServices.acknowledged m
  | shadowDeltaCallback =>
      exact
        hServices.outer (made_shadowDeltaCallback m).outer

theorem Services.KeepBook.mqtt
    (hServices : sv.KeepBook port)
    (c : MqttCall) :
    Keeps (tidyContract port) (Book port marks)
      (mqttCall port (deliver port sv) c) := by
  have hAnswer :
      Keeps (tidyContract port) (Book port marks)
        (do
          let rc ← ask (port.answer c)
          record (.answered c rc)
          pure rc : Code E IoTError) := by
    refine (keeps_ask _).bind (fun rc => ?_)
    exact (keeps_record rfl).bind (fun _ => .same)
  refine (keeps_record rfl).bind (fun _ => ?_)
  refine Triple.ite (fun _ => ?_) (fun _ => hAnswer)
  refine (keeps_ask _).bind (fun arrivals => ?_)
  exact
    (Triple.each (fun a _ => hServices.delivered a)).bind
      (fun _ => hAnswer)

theorem Services.KeepBook.logged
    (hServices : sv.KeepBook port)
    (c : ShadowCall) :
    Keeps (tidyContract port) (Book port marks)
      (loggedCall port sv c) := by
  refine (keeps_record rfl).bind (fun _ => ?_)
  refine (hServices.requested c).bind (fun rc => ?_)
  exact (keeps_record rfl).bind (fun _ => .same)

/- The services of every level keep the book. -/
theorem services_book
    (port : Port E)
    (level : Nat) :
    (services port level).KeepBook port := by
  induction level with
  | zero =>
      intro marks p hPart
      have hHalt :
          Keeps (tidyContract port) (Book port marks)
            (Prog.stop : Code E IoTError) :=
        Triple.stop (fun w hBook => ⟨marks, hBook⟩)
      cases hPart with
      | mqtt c => exact hHalt
      | call c => exact hHalt
  | succ level ih =>
      intro marks p hPart
      cases hPart with
      | mqtt c => exact ih.mqtt c
      | call c => exact ih.logged c

/- Before anything is tracked every entry is idle. -/
theorem book_start
    (s : Sys E)
    (hFree : ∀ i, (s.shadow.ackWaitList i).isFree = true) :
    Book port (fun _ => .open) ⟨s, []⟩ :=
  fun i => ⟨.idle, rfl, rfl, hFree i⟩

/-
  In a run in which no answer and no timeout reaches an entry
  that is being completed, and no entry is taken twice at
  once, every wait is completed once.
-/
theorem tracked_completes
    (port : Port E)
    (level : Nat)
    (calls : List ShadowCall)
    (s : Sys E)
    (hFree : ∀ i, (s.shadow.ackWaitList i).isFree = true)
    {log : List Event}
    (hLog :
      log = ((session port level calls).run ⟨s, []⟩).2.log)
    (hDistinct : (trackedTokens log).Nodup)
    (hAwaited : Along Awaited log)
    {i : Fin maxAcks}
    {token thing : Bytes}
    {action : ShadowAction}
    {later wait earlier : List Event}
    (hSplit :
      log =
        later ++
          (wait ++ .tracked i token thing action :: earlier))
    (hSame : ∀ e ∈ wait, e.tracks i = false) :
    Completes i token wait := by
  have hRun :
      (tidyContract port).Meets
        (fun _ => Book port (fun _ => .open))
        ((session port level calls).run ⟨s, []⟩) :=
    (services_book port level).calls calls ⟨s, []⟩
      (book_start s hFree)
  have hBook :
      ∃ marks,
        Book port marks
          ((session port level calls).run ⟨s, []⟩).2 := by
    rcases hRun with hBad | hMeets
    · rw [← hLog] at hBad
      exact absurd ⟨hDistinct, hAwaited⟩ hBad
    · cases hResult :
          ((session port level calls).run ⟨s, []⟩).1 with
      | none =>
          rw [hResult] at hMeets
          exact hMeets
      | some _ =>
          rw [hResult] at hMeets
          exact ⟨_, hMeets⟩
  rcases hBook with ⟨marks, hAll⟩
  rcases hAll i with ⟨p, hPhase, _⟩
  rw [← hLog] at hPhase
  exact completes_of_phase hPhase hSplit hSame

end Shadow

end TrustOnboard

------------------------------------------------------------
-- Examples
------------------------------------------------------------

namespace TrustOnboard

namespace Shadow

open Mqtt (IoTError CString HandlerId)

/- A platform whose parser knows the requests of a client. -/
def requestPort : Port Script :=
  Port.scripted (fun _ =>
    (3, [⟨.object, 0, 21⟩, ⟨.string, 2, 13⟩,
      ⟨.string, 16, 19⟩]))

/- The acknowledgement of its first request. -/
def firstAck : Arrival where
  receiver := .ackStatusCallback
  message :=
    { topic := ackTopic someLamp.bytes .get .accepted
      behind := [0]
      payload := ascii "\x7b\"clientToken\":\"c-0\"\x7d" }

/- The client with what arrives during its calls. -/
def requesting
    (arrivals : List (List Arrival)) : Sys Script where
  shadow :=
    { State.blank with
      mqttClientID := ⟨ascii "c", nul_free_c⟩ }
  env := ⟨arrivals, [], [], []⟩

/- The log of a request and a yield. -/
def requestLog
    (arrivals : List (List Arrival)) : List Event :=
  ((session requestPort 4
    [.get (some someLamp) (some 7) 0 4 false,
      .yield 100]).run ⟨requesting arrivals, []⟩).2.log

/- What happens to the first entry behind its request. -/
def firstWait (log : List Event) : List Event :=
  log.takeWhile (fun e => !e.tracks 0)

def beforeWait (log : List Event) : List Event :=
  (log.dropWhile (fun e => !e.tracks 0)).tail

/- The request is answered once, in the yield. -/
theorem tracked_completes_request :
    Completes 0 (ascii "c-0")
      (firstWait (requestLog [[], [], [firstAck]])) :=
  tracked_completes requestPort 4
    [.get (some someLamp) (some 7) 0 4 false, .yield 100]
    (requesting [[], [], [firstAck]])
    (fun _ => rfl) rfl (by decide +kernel)
    (by decide +kernel)
    (show
      requestLog [[], [], [firstAck]] =
        [] ++
          (firstWait (requestLog [[], [], [firstAck]]) ++
            .tracked 0 (ascii "c-0") someLamp.bytes .get ::
              beforeWait (requestLog [[], [], [firstAck]]))
      by decide +kernel)
    (by decide +kernel)

/-
  The same answer comes once more while the client waits for
  the answer to its unsubscribe, and the callback is called
  once more.
-/
theorem request_completes_twice :
    let log :=
      requestLog [[], [], [firstAck], [firstAck]]
    (trackedTokens log).Nodup ∧
      log =
          firstWait log ++
            .tracked 0 (ascii "c-0") someLamp.bytes .get ::
              beforeWait log ∧
        (∀ e ∈ firstWait log, e.tracks 0 = false) ∧
          (firstWait log).countP (Event.notifies 0) = 2 ∧
            ¬ Completes 0 (ascii "c-0") (firstWait log) := by
  intro log
  have hTwice :
      (firstWait log).countP (Event.notifies 0) = 2 := by
    decide +kernel
  refine
    ⟨by decide +kernel, by decide +kernel, by decide +kernel,
      hTwice, ?_⟩
  intro hCompletes
  have hOnce := hCompletes.once
  omega

end Shadow

end TrustOnboard
