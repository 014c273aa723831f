import TrustOnboard.Program.Triple
import TrustOnboard.At.Modem

/-
  What the reader makes of a text, whatever its timing.

  `Line.scan` is what `at_process_recv` does to the bytes
  alone.  A look that finds nothing in front of a line gives
  one more timeout and is otherwise not seen.  The loops that
  pass over timeouts therefore depend on the text only.

  Key definitions include:
    * `Line.scan`
    * `Passes`
    * `Facing`

  Key results include:
    * `atReadC_facing`
    * `atRead_facing`
    * `atProcessRecv_facing`
    * `loop_upTo`
    * `atLock_facing`
-/

------------------------------------------------------------
-- Texts
------------------------------------------------------------

namespace TrustOnboard

namespace At

/- The event the bytes of a line come to, and what is left. -/
def Line.scan (l : Line) : Bytes → Option (AtEvent × Bytes)
  | [] => none
  | c :: t =>
      if l.skips c then some (.timeout, t)
      else
        match l.finds c with
        | some e => some (e, t)
        | none =>
            match (l.take c).next with
            | .inl l' => l'.scan t
            | .inr e => some (e, t)

/- The event at the start of a text. -/
def firstEvent (t : Bytes) : Option (AtEvent × Bytes) :=
  Line.start.scan t

/- What follows a line does not change its event. -/
theorem Line.scan_append
    {l : Line}
    {t t' : Bytes}
    {e : AtEvent}
    (hScan : l.scan t = some (e, t'))
    (u : Bytes) :
    l.scan (t ++ u) = some (e, t' ++ u) := by
  induction t generalizing l with
  | nil => cases hScan
  | cons c t ih =>
      simp only [Line.scan, List.cons_append] at hScan ⊢
      split at hScan
      · rename_i hSkip
        cases hScan
        rw [if_pos hSkip]
      · rename_i hSkip
        rw [if_neg hSkip]
        split at hScan
        · rename_i hFind
          cases hScan
          rfl
        · split at hScan
          · exact ih hScan
          · cases hScan
            rfl

/-
  A text is passed over to a part at its end, giving events
  of one kind only.
-/
inductive Passes (kind : AtEvent → Bool) :
    Bytes → Bytes → Prop where
  | refl (t : Bytes) : Passes kind t t
  | step
      {t t₁ t₂ : Bytes}
      {e : AtEvent}
      (hFirst : firstEvent t = some (e, t₁))
      (hKind : kind e = true)
      (hRest : Passes kind t₁ t₂) :
      Passes kind t t₂

namespace Passes

variable {kind : AtEvent → Bool}

theorem append
    {t t' : Bytes}
    (hPass : Passes kind t t')
    (u : Bytes) :
    Passes kind (t ++ u) (t' ++ u) := by
  induction hPass with
  | refl t => exact .refl _
  | step hFirst hKind hRest ih =>
      exact .step (Line.scan_append hFirst u) hKind ih

theorem trans
    {t t₁ t₂ : Bytes}
    (hLeft : Passes kind t t₁)
    (hRight : Passes kind t₁ t₂) :
    Passes kind t t₂ := by
  induction hLeft with
  | refl t => exact hRight
  | step hFirst hKind hRest ih =>
      exact .step hFirst hKind (ih hRight)

end Passes

end At

end TrustOnboard

------------------------------------------------------------
-- Looks At The Line
------------------------------------------------------------

namespace TrustOnboard

namespace At

variable {K : Type}

@[simp] theorem Slots.text_nil :
    Slots.text [] = [] :=
  rfl

@[simp] theorem Slots.text_none
    (ss : Slots) :
    Slots.text (none :: ss) = ss.text :=
  rfl

@[simp] theorem Slots.text_some
    (c : UInt8)
    (ss : Slots) :
    Slots.text (some c :: ss) = c :: ss.text :=
  rfl

@[simp] theorem Slots.text_append
    (ss rs : Slots) :
    Slots.text (ss ++ rs) = ss.text ++ rs.text :=
  List.filterMap_append

/- Bytes that are there already. -/
theorem Slots.text_map_some
    (bs : Bytes) :
    Slots.text (bs.map some) = bs := by
  induction bs with
  | nil => rfl
  | cons c bs ih => rw [List.map_cons, Slots.text_some, ih]

/- What a read takes comes first in the text. -/
theorem Slots.available_spec
    (n : Nat)
    (ss : Slots) :
    ss.text = (ss.available n).1 ++ (ss.available n).2.text ∧
      (ss.available n).1.length ≤ n ∧
      (ss.available n).2.length ≤ ss.length ∧
      (0 < n → ss ≠ [] →
        (ss.available n).2.length < ss.length) := by
  induction n generalizing ss with
  | zero => simp [Slots.available]
  | succ n ih =>
      cases ss with
      | nil => simp [Slots.available]
      | cons s ss =>
          cases s with
          | none => simp [Slots.available]
          | some c =>
              rcases ih ss with ⟨hText, hMost, hLength, _⟩
              rw [Slots.text_some, hText]
              simp only [Slots.available, List.cons_append,
                List.length_cons]
              refine ⟨trivial, by omega, by omega, ?_⟩
              intro _ _
              omega

/- There are no fewer looks than bytes. -/
theorem Slots.length_text_le
    (ss : Slots) :
    ss.text.length ≤ ss.length :=
  List.length_filterMap_le id ss

/-
  The device stands before a text, `n` looks long at most.
-/
def Facing
    (d : Device K)
    (l : List Event)
    (n : Nat)
    (t : Bytes)
    (w : Run K) : Prop :=
  ∃ ss : Slots,
    ss.text = t ∧ ss.length ≤ n ∧
      w = ⟨{ d with slots := ss }, l⟩

theorem Facing.mono
    {d : Device K}
    {l : List Event}
    {n m : Nat}
    {t : Bytes}
    {w : Run K}
    (hFacing : Facing d l n t w)
    (hLe : n ≤ m) :
    Facing d l m t w := by
  rcases hFacing with ⟨ss, hText, hLength, hWorld⟩
  exact ⟨ss, hText, hLength.trans hLe, hWorld⟩

/- A device stands before what its line will bring. -/
theorem facing_self
    (d : Device K)
    (l : List Event) :
    Facing d l d.slots.length d.slots.text ⟨d, l⟩ :=
  ⟨d.slots, rfl, Nat.le_refl _, rfl⟩

/- Where there is a byte there is a look. -/
theorem Facing.looks_pos
    {d : Device K}
    {l : List Event}
    {n : Nat}
    {t : Bytes}
    {w : Run K}
    (hFacing : Facing d l n t w)
    (hSome : t ≠ []) :
    0 < n := by
  rcases hFacing with ⟨ss, rfl, hLength, _⟩
  have hPos := List.length_pos_of_ne_nil hSome
  have hLe := ss.length_text_le
  omega

/- A read uses up a look at least. -/
theorem usartRead_facing
    {d : Device K}
    {l : List Event}
    {n k : Nat}
    {t : Bytes}
    (hPos : 0 < k) :
    Triple (Contract.total _ _) (Facing d l n t)
      (usartRead k)
      (fun bs w =>
        ∃ t',
          (t = bs ++ t' ∧ bs.length ≤ k ∧
            (t ≠ [] → 0 < n)) ∧
            Facing d l (n - 1) t' w) := by
  apply Triple.step
  intro w hFacing
  have hLooks := hFacing.looks_pos
  rcases hFacing with ⟨ss, rfl, hLength, rfl⟩
  refine Or.inr ?_
  rcases ss.available_spec k with
    ⟨hText, hMost, hShort, hShorter⟩
  refine
    ⟨_, ⟨hText, hMost, hLooks⟩, (ss.available k).2, rfl, ?_,
      rfl⟩
  by_cases hNil : ss = []
  · subst hNil
    have hNone : (Slots.available k []).2.length ≤ 0 := hShort
    omega
  · have hLess := hShorter hPos hNil
    omega

/- A look for one byte. -/
theorem usartRead_one
    (d : Device K)
    (l : List Event)
    (n : Nat)
    (t : Bytes) :
    Triple (Contract.total _ _) (Facing d l n t)
      (usartRead 1)
      (fun bs w =>
        match bs with
        | [] => (t ≠ [] → 0 < n) ∧ Facing d l (n - 1) t w
        | c :: _ =>
            ∃ rest,
              (t = c :: rest ∧ 0 < n) ∧
                Facing d l (n - 1) rest w) := by
  refine (usartRead_facing Nat.one_pos).post ?_
  rintro bs w ⟨t', ⟨rfl, hMost, hLooks⟩, hFacing⟩
  cases bs with
  | nil => exact ⟨hLooks, hFacing⟩
  | cons c bs =>
      have hNil : bs = [] := by
        apply List.eq_nil_of_length_eq_zero
        simp only [List.length_cons] at hMost
        omega
      subst hNil
      exact
        ⟨t', ⟨rfl, hLooks (List.cons_ne_nil _ _)⟩, hFacing⟩

/- The rounds of `at_read` collect the bytes in order. -/
theorem readLoop_facing
    {d : Device K}
    {l : List Event}
    {n fuel len : Nat}
    (got : Bytes)
    {more t : Bytes}
    (hLength : (got ++ more).length = len)
    (hFuel : n < fuel) :
    Triple (Contract.total _ _) (Facing d l n (more ++ t))
      (Prog.loop fuel (readRound len) got)
      (fun bs w => bs = got ++ more ∧ Facing d l n t w) := by
  induction fuel generalizing n got more with
  | zero => exact absurd hFuel (Nat.not_lt_zero n)
  | succ fuel ih =>
      rw [Prog.loop_succ, readRound]
      have hBoth := hLength
      rw [List.length_append] at hBoth
      by_cases hShort : got.length < len
      · rw [if_pos hShort, Prog.bind_assoc]
        refine (usartRead_facing (by omega)).bind ?_
        intro bs
        apply Triple.exists_pre
        intro t'
        apply Triple.of_fact
        rintro ⟨hText, hMost, hLooks⟩
        have hSome : more ++ t ≠ [] := by
          intro hNil
          rcases List.append_eq_nil_iff.mp hNil with
            ⟨rfl, rfl⟩
          simp only [List.length_nil] at hBoth
          omega
        have hLooks := hLooks hSome
        -- What was taken is a part of what is missing.
        have hPrefix : bs <+: more := by
          have hFront : bs <+: more ++ t := by
            rw [hText]
            exact List.prefix_append _ _
          exact
            List.prefix_of_prefix_length_le hFront
              (List.prefix_append _ _) (by omega)
        rcases hPrefix with ⟨more', rfl⟩
        have hTail : t' = more' ++ t := by
          rw [List.append_assoc] at hText
          exact (List.append_cancel_left hText).symm
        subst hTail
        rw [← List.append_assoc] at hLength
        refine (ih _ hLength (by omega)).post ?_
        rintro bs' w ⟨hBs, hFacing⟩
        rw [List.append_assoc] at hBs
        exact ⟨hBs, hFacing.mono (Nat.sub_le _ _)⟩
      · rw [if_neg hShort]
        have hNil : more = [] := by
          apply List.eq_nil_of_length_eq_zero
          omega
        subst hNil
        apply Triple.pure
        intro w hFacing
        exact ⟨(List.append_nil got).symm, hFacing⟩

/- `at_read` gets the bytes that come next. -/
theorem atRead_facing
    {d : Device K}
    {l : List Event}
    {n fuel : Nat}
    (bs : Bytes)
    {t : Bytes}
    (hFuel : n < fuel) :
    Triple (Contract.total _ _) (Facing d l n (bs ++ t))
      (atRead fuel bs.length)
      (fun bs' w => bs' = bs ∧ Facing d l n t w) :=
  readLoop_facing [] rfl hFuel

theorem atReadC_facing
    {d : Device K}
    {l : List Event}
    {n fuel : Nat}
    {c : UInt8}
    {t : Bytes}
    (hFuel : n < fuel) :
    Triple (Contract.total _ _) (Facing d l n (c :: t))
      (atReadC fuel)
      (fun c' w => c' = c ∧ Facing d l n t w) := by
  refine (atRead_facing [c] hFuel).bind ?_
  intro bs
  apply Triple.of_fact
  rintro rfl
  exact Triple.pure (fun w hFacing => ⟨rfl, hFacing⟩)

end At

end TrustOnboard

------------------------------------------------------------
-- Events
------------------------------------------------------------

namespace TrustOnboard

namespace At

variable {K : Type}

/- The device behind an event. -/
def Device.heard (d : Device K) (e : AtEvent) : Device K :=
  if e.isResponse then { d with locked := false } else d

@[simp] theorem Device.heard_timeout
    (d : Device K) :
    d.heard .timeout = d :=
  rfl

theorem Device.heard_of_not
    {e : AtEvent}
    (hNot : e.isResponse = false)
    (d : Device K) :
    d.heard e = d := by
  simp [Device.heard, hNot]

theorem unlockAfter_facing
    (d : Device K)
    (l : List Event)
    (n : Nat)
    (t : Bytes)
    (e : AtEvent) :
    Triple (Contract.total _ _) (Facing d l n t)
      (unlockAfter e)
      (fun _ => Facing (d.heard e) l n t) := by
  unfold unlockAfter Device.heard
  cases e.isResponse with
  | false => exact Triple.pure (fun w hFacing => hFacing)
  | true =>
      refine Triple.modify ?_
      rintro w ⟨ss, hText, hLength, rfl⟩
      exact ⟨ss, hText, hLength, rfl⟩

/- A line goes on as it is or is over. -/
theorem Line.next_cases
    (l : Line) :
    (l.next = .inl l ∧ (l.next = .inl l → l.read ≠ 0)) ∨
      l.next = .inr .timeout := by
  unfold Line.next
  split
  · rename_i hGoing
    exact Or.inl ⟨rfl, fun _ => hGoing.1⟩
  · exact Or.inr rfl

/- A byte of a line: the line goes on or gives its event. -/
theorem recvByte_facing
    {d : Device K}
    {l : List Event}
    {n : Nat}
    {c : UInt8}
    {t t' : Bytes}
    {e : AtEvent}
    {line : Line}
    (hScan : line.scan (c :: t) = some (e, t')) :
    Triple (Contract.total _ _) (Facing d l n t)
      (recvByte line c)
      (fun r w =>
        match r with
        | .inl line' =>
            (line'.next = .inl line' ∧
              line'.scan t = some (e, t')) ∧
              Facing d l n t w
        | .inr e' =>
            e' = e ∧ Facing (d.heard e) l n t' w) := by
  simp only [Line.scan] at hScan
  unfold recvByte
  by_cases hSkip : line.skips c = true
  · rw [if_pos hSkip] at hScan
    cases hScan
    rw [if_pos hSkip]
    exact Triple.pure (fun w hFacing => ⟨rfl, hFacing⟩)
  · rw [if_neg hSkip] at hScan
    rw [if_neg hSkip]
    cases hFind : line.finds c with
    | some found =>
        rw [hFind] at hScan
        cases hScan
        refine (unlockAfter_facing d l n t e).bind ?_
        intro _
        exact Triple.pure (fun w hFacing => ⟨rfl, hFacing⟩)
    | none =>
        rw [hFind] at hScan
        apply Triple.pure
        intro w hFacing
        rcases (line.take c).next_cases with hNext | hNext
        · simp only [hNext] at hScan ⊢
          exact ⟨⟨trivial, hScan⟩, hFacing⟩
        · simp only [hNext] at hScan ⊢
          cases hScan
          exact ⟨rfl, hFacing⟩

/- The rounds in the middle of a line. -/
theorem recvLoop_facing
    {d : Device K}
    {l : List Event}
    {n fuel : Nat}
    {t t' : Bytes}
    {e : AtEvent}
    {line : Line}
    (hGoing : line.next = .inl line)
    (hScan : line.scan t = some (e, t'))
    (hFuel : n < fuel) :
    Triple (Contract.total _ _) (Facing d l n t)
      (Prog.loop fuel recvRound line)
      (fun e' w =>
        e' = e ∧ Facing (d.heard e) l (n - 1) t' w) := by
  induction fuel generalizing n t line with
  | zero => exact absurd hFuel (Nat.not_lt_zero n)
  | succ fuel ih =>
      rw [Prog.loop_succ, recvRound, Prog.bind_assoc]
      refine (usartRead_one d l n t).bind ?_
      intro bs
      cases bs with
      | nil =>
          apply Triple.of_fact
          intro hLess
          have hSome : t ≠ [] := by
            rintro rfl
            cases hScan
          have hLess := hLess hSome
          simp only [hGoing, Prog.pure_eq, Prog.ret_bind]
          refine (ih hGoing hScan (by omega)).post ?_
          rintro e' w ⟨hEvent, hFacing⟩
          exact ⟨hEvent, hFacing.mono (by omega)⟩
      | cons c bs =>
          apply Triple.exists_pre
          intro rest
          apply Triple.of_fact
          rintro ⟨rfl, hPos⟩
          refine (recvByte_facing hScan).bind ?_
          intro r
          cases r with
          | inl line' =>
              apply Triple.of_fact
              rintro ⟨hGoing', hScan'⟩
              refine (ih hGoing' hScan' (by omega)).post ?_
              rintro e' w ⟨hEvent, hFacing⟩
              exact ⟨hEvent, hFacing.mono (by omega)⟩
          | inr e' => exact Triple.same

/-
  One call of `at_process_recv`: a timeout before anything
  was there, or the first event of the text.
-/
theorem atProcessRecv_facing
    {d : Device K}
    {l : List Event}
    {n fuel : Nat}
    {t : Bytes}
    (hReads : t = [] ∨ (firstEvent t).isSome)
    (hFuel : n < fuel) :
    Triple (Contract.total _ _) (Facing d l n t)
      (atProcessRecv fuel)
      (fun e w =>
        (t ≠ [] → 0 < n) ∧
          ((e = .timeout ∧ Facing d l (n - 1) t w) ∨
            ∃ t', firstEvent t = some (e, t') ∧
              Facing (d.heard e) l (n - 1) t' w)) := by
  cases fuel with
  | zero => exact absurd hFuel (Nat.not_lt_zero n)
  | succ fuel =>
      rw [atProcessRecv, Prog.loop_succ, recvRound,
        Prog.bind_assoc]
      refine (usartRead_one d l n t).bind ?_
      intro bs
      cases bs with
      | nil =>
          apply Triple.of_fact
          intro hLess
          apply Triple.pure
          intro w hFacing
          exact ⟨hLess, Or.inl ⟨rfl, hFacing⟩⟩
      | cons c bs =>
          apply Triple.exists_pre
          intro rest
          apply Triple.of_fact
          rintro ⟨rfl, hPos⟩
          rcases hReads with hNil | hReads
          · cases hNil
          · rcases Option.isSome_iff_exists.mp hReads with
              ⟨⟨e, t'⟩, hScan⟩
            rw [hScan]
            have hDone :
                ∀ (e' : AtEvent) (w : Run K),
                  e' = e ∧ Facing (d.heard e) l (n - 1) t' w →
                    (c :: rest ≠ [] → 0 < n) ∧
                      ((e' = .timeout ∧
                          Facing d l (n - 1) (c :: rest) w) ∨
                        ∃ t₁,
                          some (e, t') = some (e', t₁) ∧
                            Facing (d.heard e') l (n - 1) t₁
                              w) := by
              rintro e' w ⟨rfl, hFacing⟩
              exact
                ⟨fun _ => hPos, Or.inr ⟨t', rfl, hFacing⟩⟩
            refine (recvByte_facing hScan).bind ?_
            intro r
            cases r with
            | inl line' =>
                apply Triple.of_fact
                rintro ⟨hGoing', hScan'⟩
                refine
                  (recvLoop_facing hGoing' hScan'
                    (by omega)).post ?_
                rintro e' w ⟨hEvent, hFacing⟩
                exact
                  hDone e' w
                    ⟨hEvent, hFacing.mono (Nat.sub_le _ _)⟩
            | inr e' => exact Triple.pure (hDone e')

end At

end TrustOnboard

------------------------------------------------------------
-- Loops Over Events
------------------------------------------------------------

namespace TrustOnboard

namespace At

variable {K : Type}

/- A text that passes over to an event has a first one. -/
theorem Passes.reads
    {kind : AtEvent → Bool}
    {t t₁ t₂ : Bytes}
    {e : AtEvent}
    (hPass : Passes kind t t₁)
    (hEvent : firstEvent t₁ = some (e, t₂)) :
    (firstEvent t).isSome := by
  cases hPass with
  | refl _ => rw [hEvent]; rfl
  | step hFirst _ _ => rw [hFirst]; rfl

/-
  A loop over the events of a line that does nothing at those
  of one kind, timeouts among them, gets to the first other
  event.
-/
theorem loop_upTo
    {σ α : Type}
    {kind : AtEvent → Bool}
    {inner : Nat}
    {body : σ → Code K (σ ⊕ α)}
    {handle : σ → AtEvent → Code K (σ ⊕ α)}
    {P : Nat → σ → Run K → Prop}
    {Q : α → Run K → Prop}
    {d : Device K}
    {l : List Event}
    {s : σ}
    {t t₁ t₂ : Bytes}
    {e : AtEvent}
    {n fuel : Nat}
    (hBody : ∀ s, body s = atProcessRecv inner >>= handle s)
    (hSkip :
      ∀ s e, kind e = true → handle s e = pure (.inl s))
    (hTimeout : kind .timeout = true)
    (hMild : ∀ e, kind e = true → e.isResponse = false)
    (hPass : Passes kind t t₁)
    (hEvent : firstEvent t₁ = some (e, t₂))
    (hInner : n < inner)
    (hFuel : n ≤ fuel)
    (hHandle :
      ∀ m, m < n →
        Triple (Contract.total _ _)
          (Facing (d.heard e) l m t₂) (handle s e)
          (fun r w =>
            match r with
            | .inl s' => P m s' w
            | .inr a => Q a w))
    (hRest :
      ∀ m fuel' s',
        m < n → m ≤ fuel' →
          Triple (Contract.total _ _) (P m s')
            (Prog.loop fuel' body s') Q) :
    Triple (Contract.total _ _) (Facing d l n t)
      (Prog.loop fuel body s) Q := by
  have hSome : t ≠ [] := by
    rintro rfl
    have hReads := hPass.reads hEvent
    cases hReads
  induction fuel generalizing n t with
  | zero =>
      apply Triple.false_pre
      intro w hFacing
      have hPos := hFacing.looks_pos hSome
      omega
  | succ fuel ih =>
      rw [Prog.loop_succ, hBody, Prog.bind_assoc]
      refine
        (atProcessRecv_facing (Or.inr (hPass.reads hEvent))
          hInner).bind ?_
      intro e'
      apply Triple.of_fact
      intro hLooks
      have hPos := hLooks hSome
      apply Triple.or_pre
      · -- Nothing was there, or what was there is of no use.
        apply Triple.of_fact
        rintro rfl
        simp only [hSkip s _ hTimeout, Prog.pure_eq,
          Prog.ret_bind]
        refine ih hPass (by omega) (by omega) ?_ ?_ hSome
        · intro m hLess
          exact hHandle m (by omega)
        · intro m fuel' s' hLess hLe
          exact hRest m fuel' s' (by omega) hLe
      · apply Triple.exists_pre
        intro t'
        apply Triple.of_fact
        intro hFirst
        cases hPass with
        | refl _ =>
            rw [hEvent] at hFirst
            cases hFirst
            refine (hHandle (n - 1) (by omega)).bind ?_
            intro r
            cases r with
            | inl s' =>
                exact
                  hRest (n - 1) fuel s' (by omega) (by omega)
            | inr a => exact Triple.same
        | step hFirst' hKind hPass' =>
            rw [hFirst'] at hFirst
            cases hFirst
            rw [Device.heard_of_not (hMild _ hKind)]
            simp only [hSkip s _ hKind, Prog.pure_eq,
              Prog.ret_bind]
            refine ih hPass' (by omega) (by omega) ?_ ?_ ?_
            · intro m hLess
              exact hHandle m (by omega)
            · intro m fuel' s' hLess hLe
              exact hRest m fuel' s' (by omega) hLe
            · rintro rfl
              have hReads := hPass'.reads hEvent
              cases hReads

/- Complete lines are passed over up to a timeout. -/
theorem drain_facing
    {kind : AtEvent → Bool}
    {d : Device K}
    {l : List Event}
    {n inner fuel : Nat}
    {t : Bytes}
    (hMild : ∀ e, kind e = true → e.isResponse = false)
    (hPass : Passes kind t [])
    (hInner : n < inner)
    (hFuel : n < fuel) :
    Triple (Contract.total _ _) (Facing d l n t)
      (Prog.loop fuel
        (fun (_ : Unit) =>
          atProcessRecv inner >>= stopAt (· == .timeout))
        ())
      (fun _ w =>
        ∃ t', Passes kind t' [] ∧ Facing d l n t' w) := by
  induction fuel generalizing n t with
  | zero => exact absurd hFuel (Nat.not_lt_zero n)
  | succ fuel ih =>
      rw [Prog.loop_succ, Prog.bind_assoc]
      have hReads : t = [] ∨ (firstEvent t).isSome := by
        cases hPass with
        | refl _ => exact Or.inl rfl
        | step hFirst _ _ =>
            rw [hFirst]
            exact Or.inr rfl
      refine (atProcessRecv_facing hReads hInner).bind ?_
      intro e
      apply Triple.of_fact
      intro hLooks
      apply Triple.or_pre
      · apply Triple.of_fact
        rintro rfl
        refine Triple.ret ?_
        intro w hFacing
        exact ⟨t, hPass, hFacing.mono (Nat.sub_le _ _)⟩
      · apply Triple.exists_pre
        intro t'
        apply Triple.of_fact
        intro hFirst
        cases hPass with
        | refl _ => cases hFirst
        | step hFirst' hKind hPass' =>
            rw [hFirst'] at hFirst
            cases hFirst
            have hPos : 0 < n := by
              apply hLooks
              rintro rfl
              cases hFirst'
            rw [Device.heard_of_not (hMild _ hKind)]
            unfold stopAt
            by_cases hStop : (e == .timeout) = true
            · rw [if_pos hStop]
              refine Triple.ret ?_
              intro w hFacing
              exact
                ⟨t', hPass', hFacing.mono (Nat.sub_le _ _)⟩
            · rw [if_neg hStop]
              simp only [Prog.pure_eq, Prog.ret_bind]
              refine (ih hPass' (by omega) (by omega)).post ?_
              rintro _ w ⟨t'', hPass'', hFacing⟩
              exact
                ⟨t'', hPass'', hFacing.mono (Nat.sub_le _ _)⟩

/- An unlocked device is not waited for. -/
theorem awaitUnlocked_facing
    {d : Device K}
    {l : List Event}
    {n fuel : Nat}
    {t : Bytes}
    (hFree : d.locked = false)
    (hFuel : 0 < fuel) :
    Triple (Contract.total _ _) (Facing d l n t)
      (awaitUnlocked fuel)
      (fun _ => Facing d l n t) := by
  cases fuel with
  | zero => exact absurd hFuel (Nat.lt_irrefl 0)
  | succ fuel =>
      unfold awaitUnlocked
      rw [Prog.loop_succ, Prog.bind_assoc]
      refine
        Triple.bind
          (M := fun locked w =>
            locked = false ∧ Facing d l n t w)
          (Triple.read ?_) ?_
      · rintro w ⟨ss, hText, hLength, rfl⟩
        exact ⟨hFree, ss, hText, hLength, rfl⟩
      · intro locked
        apply Triple.of_fact
        rintro rfl
        exact Triple.same

/-
  `at_lock` on an unlocked device behind which there are
  complete lines without the end of a command.
-/
theorem atLock_facing
    {kind : AtEvent → Bool}
    {d : Device K}
    {l : List Event}
    {n fuel : Nat}
    {t : Bytes}
    (hMild : ∀ e, kind e = true → e.isResponse = false)
    (hFree : d.locked = false)
    (hPass : Passes kind t [])
    (hFuel : n < fuel) :
    Triple (Contract.total _ _) (Facing d l n t)
      (atLock fuel)
      (fun _ w =>
        ∃ t',
          Passes kind t' [] ∧
            Facing { d with locked := true } l n t' w) := by
  unfold atLock
  refine (awaitUnlocked_facing hFree (by omega)).bind ?_
  intro _
  refine (drain_facing hMild hPass hFuel hFuel).bind ?_
  intro _
  apply Triple.modify
  rintro w ⟨t', hPass', ss, hText, hLength, rfl⟩
  exact ⟨t', hPass', ss, hText, hLength, rfl⟩

end At

end TrustOnboard
