import TrustOnboard.Program.History
import TrustOnboard.Shadow.Types

/-
  The life of an entry of the list of awaited answers, as the
  log tells it.

  An entry is idle, waits for the acknowledgement with its
  token, has its answer decided by an acknowledgement or by
  the end of its time, has called back, and is idle again.
  A log in which an entry only ever goes from one of these to
  the next completes every wait once.

  Key definitions include:
    * `Phase`
    * `Phase.next`
    * `phase`
    * `Completes`

  Key results include:
    * `phase_append`
    * `completes_of_phase`
-/

------------------------------------------------------------
-- Phases
------------------------------------------------------------

namespace TrustOnboard

namespace Shadow

/- Where the wait of an entry stands. -/
inductive Phase where
  | idle
  | waiting (token : Bytes)
  | decided (token : Bytes) (status : AckStatus)
  | called (token : Bytes)
  deriving DecidableEq

/- The token an entry has. -/
def Phase.token : Phase → Option Bytes
  | .idle => none
  | .waiting token => some token
  | .decided token _ => some token
  | .called token => some token

/-
  An acknowledgement with the token an entry waits for
  decides, and no other does.  None has the status of a
  timeout.
-/
def Phase.acked
    (i : Fin maxAcks)
    (p : Phase)
    (token : Bytes)
    (status : AckStatus)
    (entry : Option (Fin maxAcks)) : Option Phase :=
  if status = .timeout then none
  else if p = .waiting token then
    if entry = some i then some (.decided token status)
    else none
  else if entry = some i then none
  else some p

/- The end of the time of an entry that waits. -/
def Phase.expired : Phase → Option Phase
  | .waiting token => some (.decided token .timeout)
  | _ => none

/- The callback with the status that was decided. -/
def Phase.notified
    (status : AckStatus) : Phase → Option Phase
  | .decided token verdict =>
      if verdict = status then some (.called token) else none
  | _ => none

/- The release behind the callback. -/
def Phase.freed : Phase → Option Phase
  | .called _ => some .idle
  | _ => none

/- What an event makes of the phase of an entry. -/
def Phase.next
    (i : Fin maxAcks)
    (p : Phase) : Event → Option Phase
  | .tracked j token _ _ =>
      if j = i then
        if p = .idle then some (.waiting token) else none
      else some p
  | .acked token status entry => p.acked i token status entry
  | .expired j => if j = i then p.expired else some p
  | .notified j _ _ status _ =>
      if j = i then p.notified status else some p
  | .freed j => if j = i then p.freed else some p
  | _ => some p

/- The phase of an entry behind a log. -/
def phase
    (i : Fin maxAcks)
    (log : List Event) : Option Phase :=
  reached (Phase.next i) .idle log

/- The tokens that were tracked. -/
def trackedTokens (log : List Event) : List Bytes :=
  log.filterMap (fun e =>
    match e with
    | .tracked _ token _ _ => some token
    | _ => none)

end Shadow

end TrustOnboard

------------------------------------------------------------
-- Tokens
------------------------------------------------------------

namespace TrustOnboard

namespace Shadow

variable {i j : Fin maxAcks}
variable {log : List Event}
variable {token : Bytes}
variable {p : Phase}

theorem phase_cons
    {e : Event}
    (hPhase : phase i log = some p) :
    phase i (e :: log) = p.next i e :=
  reached_cons hPhase

/- An allowed log was allowed before its last event. -/
theorem phase_of_cons
    {e : Event}
    {p' : Phase}
    (hPhase : phase i (e :: log) = some p') :
    ∃ p, phase i log = some p ∧ p.next i e = some p' :=
  Option.bind_eq_some_iff.mp hPhase

/- The token of a phase and the one behind the next event. -/
theorem token_of_next
    {e : Event}
    {p' : Phase}
    (hNext : p.next i e = some p')
    (hToken : p'.token = some token) :
    p.token = some token ∨
      ∃ thing action, e = .tracked i token thing action := by
  have hKept : p.token = p'.token → p.token = some token :=
    fun hSame => hSame.trans hToken
  cases e with
  | tracked j t thing action =>
      unfold Phase.next at hNext
      dsimp only at hNext
      split at hNext
      · rename_i hEq
        subst hEq
        split at hNext
        · cases hNext
          cases hToken
          exact .inr ⟨thing, action, rfl⟩
        · cases hNext
      · cases hNext
        exact .inl hToken
  | acked t status entry =>
      unfold Phase.next Phase.acked at hNext
      dsimp only at hNext
      split at hNext
      · cases hNext
      split at hNext
      · rename_i hWaits
        subst hWaits
        split at hNext
        · cases hNext
          exact .inl hToken
        · cases hNext
      · split at hNext
        · cases hNext
        · cases hNext
          exact .inl hToken
  | expired j =>
      unfold Phase.next Phase.expired at hNext
      dsimp only at hNext
      split at hNext
      · cases p with
        | waiting t =>
            cases hNext
            exact .inl hToken
        | idle => cases hNext
        | decided _ _ => cases hNext
        | called _ => cases hNext
      · cases hNext
        exact .inl hToken
  | notified j thing action status document =>
      unfold Phase.next Phase.notified at hNext
      dsimp only at hNext
      split at hNext
      · cases p with
        | decided t verdict =>
            dsimp only at hNext
            split at hNext
            · cases hNext
              exact .inl hToken
            · cases hNext
        | idle => cases hNext
        | waiting _ => cases hNext
        | called _ => cases hNext
      · cases hNext
        exact .inl hToken
  | freed j =>
      unfold Phase.next Phase.freed at hNext
      dsimp only at hNext
      split at hNext
      · cases p with
        | called t =>
            cases hNext
            cases hToken
        | idle => cases hNext
        | waiting _ => cases hNext
        | decided _ _ => cases hNext
      · cases hNext
        exact .inl hToken
  | _ =>
      cases hNext
      exact .inl hToken

/- The token of an entry is one it was tracked with. -/
theorem tracked_of_phase
    (hPhase : phase i log = some p)
    (hToken : p.token = some token) :
    ∃ thing action,
      Event.tracked i token thing action ∈ log := by
  induction log generalizing p with
  | nil =>
      cases hPhase
      cases hToken
  | cons e log ih =>
      rcases phase_of_cons hPhase with ⟨p₀, hBefore, hNext⟩
      rcases token_of_next hNext hToken with
        hOld | ⟨thing, action, rfl⟩
      · rcases ih hBefore hOld with ⟨thing, action, hMem⟩
        exact ⟨thing, action, List.mem_cons_of_mem e hMem⟩
      · exact ⟨thing, action, List.mem_cons_self⟩

theorem mem_trackedTokens
    {thing : Bytes}
    {action : ShadowAction}
    (hMem : Event.tracked i token thing action ∈ log) :
    token ∈ trackedTokens log :=
  List.mem_filterMap.mpr ⟨_, hMem, rfl⟩

/- Among distinct tokens each has one entry. -/
theorem entry_of_distinct
    {thing thing' : Bytes}
    {action action' : ShadowAction}
    (hDistinct : (trackedTokens log).Nodup)
    (hMem : Event.tracked i token thing action ∈ log)
    (hOther : Event.tracked j token thing' action' ∈ log) :
    i = j := by
  induction log with
  | nil => cases hMem
  | cons e log ih =>
      have hTail :
          (trackedTokens log).Nodup := by
        unfold trackedTokens at hDistinct ⊢
        rw [List.filterMap_cons] at hDistinct
        split at hDistinct
        · exact hDistinct
        · exact (List.nodup_cons.mp hDistinct).2
      rcases List.mem_cons.mp hMem with rfl | hIn
      · rcases List.mem_cons.mp hOther with hEq | hIn'
        · cases hEq
          rfl
        · exact
            absurd (mem_trackedTokens hIn')
              (List.nodup_cons.mp hDistinct).1
      · rcases List.mem_cons.mp hOther with rfl | hIn'
        · exact
            absurd (mem_trackedTokens hIn)
              (List.nodup_cons.mp hDistinct).1
        · exact ih hTail hIn hIn'

/- So two entries never have one token. -/
theorem entry_of_phases
    {p' : Phase}
    (hDistinct : (trackedTokens log).Nodup)
    (hPhase : phase i log = some p)
    (hOther : phase j log = some p')
    (hToken : p.token = some token)
    (hToken' : p'.token = some token) :
    i = j := by
  rcases tracked_of_phase hPhase hToken with ⟨_, _, hMem⟩
  rcases tracked_of_phase hOther hToken' with ⟨_, _, hMem'⟩
  exact entry_of_distinct hDistinct hMem hMem'

end Shadow

end TrustOnboard

------------------------------------------------------------
-- Completion
------------------------------------------------------------

namespace TrustOnboard

namespace Shadow

/- The start of a wait of an entry. -/
def Event.tracks (i : Fin maxAcks) : Event → Bool
  | .tracked j _ _ _ => decide (j = i)
  | _ => false

/- The callback of the action an entry belongs to. -/
def Event.notifies (i : Fin maxAcks) : Event → Bool
  | .notified j _ _ _ _ => decide (j = i)
  | _ => false

/- The outcome an event means for a wait. -/
def Event.decision
    (i : Fin maxAcks)
    (token : Bytes) : Event → Option AckStatus
  | .acked t status _ =>
      if t = token then some status else none
  | .expired j => if j = i then some .timeout else none
  | _ => none

/- The outcome of a wait is the first there is. -/
def verdict
    (i : Fin maxAcks)
    (token : Bytes) : List Event → Option AckStatus
  | [] => none
  | e :: wait => (verdict i token wait).or (e.decision i token)

/-
  What happens to an entry in a wait: its callback is called
  at most once, and once before it is free again, with the
  status of the first acknowledgement with its token, or of a
  timeout if its time ended first.
-/
structure Completes
    (i : Fin maxAcks)
    (token : Bytes)
    (wait : List Event) : Prop where
  once : wait.countP (Event.notifies i) ≤ 1
  beforeFree :
    ∀ later before,
      wait = later ++ .freed i :: before →
        before.countP (Event.notifies i) = 1
  status :
    ∀ later thing action status document before,
      wait =
          later ++
            .notified i thing action status document ::
              before →
        verdict i token before = some status
  acked :
    ∀ status entry,
      .acked token status entry ∈ wait →
        status = .accepted ∨ status = .rejected

/- How far a wait has come when its entry is in a phase. -/
def Phase.Reports
    (i : Fin maxAcks)
    (token : Bytes)
    (wait : List Event) : Phase → Prop
  | .idle => wait.countP (Event.notifies i) = 1
  | .waiting t =>
      t = token ∧ wait.countP (Event.notifies i) = 0 ∧
        verdict i token wait = none
  | .decided t status =>
      t = token ∧ wait.countP (Event.notifies i) = 0 ∧
        verdict i token wait = some status
  | .called _ => wait.countP (Event.notifies i) = 1

variable {i : Fin maxAcks}
variable {token : Bytes}
variable {wait : List Event}

theorem Phase.Reports.once
    {p : Phase}
    (hReports : p.Reports i token wait) :
    wait.countP (Event.notifies i) ≤ 1 := by
  cases p with
  | idle => exact Nat.le_of_eq hReports
  | waiting t =>
      rw [hReports.2.1]
      exact Nat.zero_le 1
  | decided t status =>
      rw [hReports.2.1]
      exact Nat.zero_le 1
  | called t => exact Nat.le_of_eq hReports

/- An event that neither calls back nor decides. -/
theorem Phase.Reports.cons
    {p : Phase}
    {e : Event}
    (hReports : p.Reports i token wait)
    (hQuiet : e.notifies i = false)
    (hOpen :
      p = .waiting token → e.decision i token = none) :
    p.Reports i token (e :: wait) := by
  have hCount :
      (e :: wait).countP (Event.notifies i) =
        wait.countP (Event.notifies i) :=
    List.countP_cons_of_neg (by simp [hQuiet])
  cases p with
  | idle => exact hCount.trans hReports
  | called t => exact hCount.trans hReports
  | waiting t =>
      rcases hReports with ⟨rfl, hNone, hVerdict⟩
      refine ⟨rfl, hCount.trans hNone, ?_⟩
      rw [verdict, hVerdict, hOpen rfl]
      rfl
  | decided t status =>
      rcases hReports with ⟨rfl, hNone, hVerdict⟩
      refine ⟨rfl, hCount.trans hNone, ?_⟩
      rw [verdict, hVerdict]
      rfl

/- An event that takes the entry from one phase to the next. -/
theorem Phase.Reports.next
    {p p' : Phase}
    {e : Event}
    (hReports : p.Reports i token wait)
    (hNext : p.next i e = some p')
    (hSame : e.tracks i = false) :
    p'.Reports i token (e :: wait) := by
  cases e with
  | tracked j t thing action =>
      have hNe : j ≠ i := by
        simpa [Event.tracks] using hSame
      unfold Phase.next at hNext
      dsimp only at hNext
      rw [if_neg hNe] at hNext
      cases hNext
      exact hReports.cons rfl (fun _ => rfl)
  | acked t status entry =>
      unfold Phase.next Phase.acked at hNext
      dsimp only at hNext
      split at hNext
      · cases hNext
      split at hNext
      · rename_i hWaits
        subst hWaits
        split at hNext
        · cases hNext
          rcases hReports with ⟨rfl, hNone, hVerdict⟩
          refine ⟨rfl, hNone, ?_⟩
          rw [verdict, hVerdict, Option.none_or]
          exact if_pos rfl
        · cases hNext
      · rename_i hOther
        split at hNext
        · cases hNext
        · cases hNext
          refine hReports.cons rfl (fun hWaits => ?_)
          refine if_neg (fun hEq => ?_)
          exact hOther (hWaits.trans (by rw [hEq]))
  | expired j =>
      unfold Phase.next at hNext
      dsimp only at hNext
      split at hNext
      · rename_i hEq
        unfold Phase.expired at hNext
        cases p with
        | waiting t =>
            cases hNext
            rcases hReports with ⟨rfl, hNone, hVerdict⟩
            refine ⟨rfl, hNone, ?_⟩
            rw [verdict, hVerdict, Option.none_or]
            exact if_pos hEq
        | idle => cases hNext
        | decided _ _ => cases hNext
        | called _ => cases hNext
      · rename_i hNe
        cases hNext
        exact hReports.cons rfl (fun _ => if_neg hNe)
  | notified j thing action status document =>
      unfold Phase.next at hNext
      dsimp only at hNext
      split at hNext
      · rename_i hEq
        unfold Phase.notified at hNext
        cases p with
        | decided t outcome =>
            dsimp only at hNext
            split at hNext
            · cases hNext
              have hHere :
                  Event.notifies i
                    (.notified j thing action status
                      document) = true :=
                decide_eq_true hEq
              show List.countP _ _ = 1
              rw [List.countP_cons_of_pos hHere, hReports.2.1]
            · cases hNext
        | idle => cases hNext
        | waiting _ => cases hNext
        | called _ => cases hNext
      · rename_i hNe
        cases hNext
        exact
          hReports.cons (decide_eq_false hNe) (fun _ => rfl)
  | freed j =>
      unfold Phase.next at hNext
      dsimp only at hNext
      split at hNext
      · unfold Phase.freed at hNext
        cases p with
        | called t =>
            cases hNext
            exact
              (List.countP_cons_of_neg (by
                simp [Event.notifies])).trans hReports
        | idle => cases hNext
        | waiting _ => cases hNext
        | decided _ _ => cases hNext
      · cases hNext
        exact hReports.cons rfl (fun _ => rfl)
  | _ =>
      cases hNext
      exact hReports.cons rfl (fun _ => rfl)

/- The release of an entry comes behind its callback. -/
theorem count_of_freed
    {p p' : Phase}
    (hReports : p.Reports i token wait)
    (hNext : p.next i (.freed i) = some p') :
    wait.countP (Event.notifies i) = 1 := by
  unfold Phase.next Phase.freed at hNext
  dsimp only at hNext
  rw [if_pos rfl] at hNext
  cases p with
  | called t => exact hReports
  | idle => cases hNext
  | waiting _ => cases hNext
  | decided _ _ => cases hNext

/- The callback has the status that was decided. -/
theorem verdict_of_notified
    {p p' : Phase}
    {thing document : Bytes}
    {action : ShadowAction}
    {status : AckStatus}
    (hReports : p.Reports i token wait)
    (hNext :
      p.next i (.notified i thing action status document) =
        some p') :
    verdict i token wait = some status := by
  unfold Phase.next Phase.notified at hNext
  dsimp only at hNext
  rw [if_pos rfl] at hNext
  cases p with
  | decided t outcome =>
      dsimp only at hNext
      split at hNext
      · rename_i hEq
        subst hEq
        exact hReports.2.2
      · cases hNext
  | idle => cases hNext
  | waiting _ => cases hNext
  | called _ => cases hNext

theorem status_of_acked
    {p p' : Phase}
    {t : Bytes}
    {status : AckStatus}
    {entry : Option (Fin maxAcks)}
    (hNext : p.next i (.acked t status entry) = some p') :
    status = .accepted ∨ status = .rejected := by
  unfold Phase.next Phase.acked at hNext
  dsimp only at hNext
  cases status with
  | accepted => exact .inl rfl
  | rejected => exact .inr rfl
  | timeout =>
      rw [if_pos rfl] at hNext
      cases hNext

theorem Completes.nil : Completes i token [] where
  once := Nat.zero_le 1
  beforeFree := by
    intro later before hSplit
    cases later <;> cases hSplit
  status := by
    intro later thing action status document before hSplit
    cases later <;> cases hSplit
  acked := by
    intro status entry hMem
    cases hMem

theorem Completes.cons
    {p p' : Phase}
    {e : Event}
    (hCompletes : Completes i token wait)
    (hReports : p.Reports i token wait)
    (hNext : p.next i e = some p')
    (hReports' : p'.Reports i token (e :: wait)) :
    Completes i token (e :: wait) where
  once := hReports'.once
  beforeFree := by
    intro later before hSplit
    cases later with
    | nil =>
        cases hSplit
        exact count_of_freed hReports hNext
    | cons first later =>
        cases hSplit
        exact hCompletes.beforeFree later before rfl
  status := by
    intro later thing action status document before hSplit
    cases later with
    | nil =>
        cases hSplit
        exact verdict_of_notified hReports hNext
    | cons first later =>
        cases hSplit
        exact
          hCompletes.status later thing action status document
            before rfl
  acked := by
    intro status entry hMem
    rcases List.mem_cons.mp hMem with rfl | hMem
    · exact status_of_acked hNext
    · exact hCompletes.acked status entry hMem

/- A wait an automaton has passed through is completed. -/
theorem completes_of_reached
    {p : Phase}
    (hReached :
      reached (Phase.next i) (.waiting token) wait = some p)
    (hSame : ∀ e ∈ wait, e.tracks i = false) :
    p.Reports i token wait ∧ Completes i token wait := by
  induction wait generalizing p with
  | nil =>
      cases hReached
      exact ⟨⟨rfl, rfl, rfl⟩, .nil⟩
  | cons e wait ih =>
      rcases Option.bind_eq_some_iff.mp hReached with
        ⟨p₀, hBefore, hNext⟩
      rcases ih hBefore
          (fun e' he' => hSame e' (List.mem_cons_of_mem e he'))
        with ⟨hReports, hCompletes⟩
      have hReports' :=
        hReports.next hNext (hSame e List.mem_cons_self)
      exact
        ⟨hReports', hCompletes.cons hReports hNext hReports'⟩

/-
  Every wait of a log that allows a phase is completed, up to
  where the entry is tracked again.
-/
theorem completes_of_phase
    {p : Phase}
    {log later earlier : List Event}
    {thing : Bytes}
    {action : ShadowAction}
    (hPhase : phase i log = some p)
    (hSplit :
      log =
        later ++
          (wait ++ .tracked i token thing action :: earlier))
    (hSame : ∀ e ∈ wait, e.tracks i = false) :
    Completes i token wait := by
  unfold phase at hPhase
  rw [hSplit, reached_append] at hPhase
  rcases Option.bind_eq_some_iff.mp hPhase with
    ⟨p₁, hHere, _⟩
  rw [reached_append] at hHere
  rcases Option.bind_eq_some_iff.mp hHere with
    ⟨p₂, hTracked, hWait⟩
  rcases Option.bind_eq_some_iff.mp hTracked with
    ⟨p₃, _, hNext⟩
  have hWaiting : p₂ = .waiting token := by
    unfold Phase.next at hNext
    dsimp only at hNext
    rw [if_pos rfl] at hNext
    split at hNext
    · cases hNext
      rfl
    · cases hNext
  rw [hWaiting] at hWait
  exact (completes_of_reached hWait hSame).2

end Shadow

end TrustOnboard
