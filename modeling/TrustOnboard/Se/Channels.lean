import TrustOnboard.Se.Selection

/-
  The logical channels of a call.

  Every call that needs the secure element selects an applet,
  works inside of it and leaves an applet again.  From a
  state in which no applet is selected the channels of a call
  are balanced unless it leaves another applet than it has
  selected, or the answers that open a channel overwrite the
  fields of the applet.

  Key definitions include:
    * `Balanced`
    * `Clean`
    * `Fair`
    * `Session`

  Key results include:
    * `visit_judged`
    * `Call.judged`
    * `channels_balanced_iff`
-/

------------------------------------------------------------
-- Channels That Are Held
------------------------------------------------------------

namespace TrustOnboard

namespace Se

/-
  What an answer does to the channels that are held.  A
  channel that was opened without its number is none that can
  be closed, and a channel that is not held cannot be closed
  either.
-/
def channelStep
    (held : List (Option UInt8))
    (e : Bytes × Reply) : Option (List (Option UInt8)) :=
  match opened e, closed e with
  | some data, _ => some (data.head? :: held)
  | none, some channel =>
      if some channel ∈ held then
        some (held.erase (some channel))
      else
        none
  | none, none => some held

/- Every channel that is opened is closed exactly once. -/
def Balanced (l : List (Bytes × Reply)) : Prop :=
  l.foldlM channelStep [] = some []

instance (l : List (Bytes × Reply)) :
    Decidable (Balanced l) :=
  inferInstanceAs (Decidable (_ = _))

/- Whenever a channel is to be closed it answers 9000. -/
def Closes (l : List (Bytes × Reply)) : Prop :=
  ∀ e ∈ l, ∀ channel,
    e.1 = closeChannel channel → e.2.succeeded = true

variable {held : List (Option UInt8)}
variable {r : Reply}
variable {data : Bytes}

theorem channelStep_opened
    (hOpened : opened (openChannel, r) = some data) :
    channelStep held (openChannel, r) =
      some (data.head? :: held) := by
  unfold channelStep
  rw [hOpened]

theorem channelStep_refused
    (hNone : opened (openChannel, r) = none) :
    channelStep held (openChannel, r) = some held := by
  unfold channelStep
  rw [hNone, closed_open]

theorem channelStep_select
    (cla : UInt8)
    (name : AppletName)
    (r : Reply) :
    channelStep held (selectCommand cla name, r) =
      some held := by
  unfold channelStep
  rw [opened_select, closed_select]

theorem channelStep_close
    (channel : UInt8)
    (hSucceeded : r.succeeded = true) :
    channelStep held (closeChannel channel, r) =
      if some channel ∈ held then
        some (held.erase (some channel))
      else
        none := by
  unfold channelStep
  rw [opened_close, closed_close hSucceeded]

/- Other commands do nothing to the channels. -/
theorem channelStep_other
    {e : Bytes × Reply}
    (hOther : concernsSelection e.1 = false) :
    channelStep held e = some held := by
  rcases e with ⟨command, r⟩
  have hOpened : opened (command, r) = none := by
    refine if_neg ?_
    rintro ⟨hCommand, -⟩
    rw [hCommand] at hOther
    cases hOther
  have hClosed : closed (command, r) = none := by
    rw [Option.eq_none_iff_forall_ne_some]
    intro c hSome
    rw [(closed_eq_some.mp hSome).1] at hOther
    cases hOther
  unfold channelStep
  rw [hOpened, hClosed]

/- Only the answers about selections matter. -/
theorem balanced_selections
    (l : List (Bytes × Reply)) :
    Balanced (selections l) ↔ Balanced l := by
  have hAll : ∀ held,
      (selections l).foldlM channelStep held =
        l.foldlM channelStep held := by
    unfold selections
    induction l with
    | nil => exact fun held => rfl
    | cons e l ih =>
        intro held
        cases hConcerns : concernsSelection e.1 with
        | true =>
            rw [List.filter_cons_of_pos
                (by simpa using hConcerns),
              List.foldlM_cons, List.foldlM_cons]
            exact congrArg _ (funext ih)
        | false =>
            rw [List.filter_cons_of_neg (by simp [hConcerns]),
              List.foldlM_cons, channelStep_other hConcerns]
            exact ih held
  unfold Balanced
  rw [hAll]

theorem closes_selections
    {l : List (Bytes × Reply)}
    (hCloses : Closes l) :
    Closes (selections l) :=
  fun e he => hCloses e (List.mem_filter.mp he).1

end Se

end TrustOnboard

------------------------------------------------------------
-- Fair Answers
------------------------------------------------------------

namespace TrustOnboard

namespace Se

/- A channel was opened, with some data. -/
def Granted
    (l : List (Bytes × Reply))
    (data : Bytes) : Prop :=
  ∃ e ∈ l, opened e = some data

/- An applet was selected by its AID. -/
def Accepted (l : List (Bytes × Reply)) : Prop :=
  ∃ e ∈ l, accepts e = true

/-
  When a channel is opened its number comes with it; a call
  whose applet is then selected leaves that applet; and if it
  is not selected, the data of the channel did not mark the
  applet selected, or marked it as one on the basic channel
  and the call leaves that applet.
-/
def Fair
    (a : Applet)
    (leaves : Bool)
    (l : List (Bytes × Reply)) : Prop :=
  ∀ data, Granted l data →
    data ≠ [] ∧
      (Accepted l → leaves = true) ∧
      (¬ Accepted l →
        (a.receiveChannel data).isSelected = false ∨
          ((a.receiveChannel data).isBasic = true ∧
            leaves = true))

variable {l : List (Bytes × Reply)}

theorem granted_selections
    (data : Bytes) :
    Granted (selections l) data ↔ Granted l data := by
  constructor
  · rintro ⟨e, he, hOpened⟩
    exact ⟨e, (List.mem_filter.mp he).1, hOpened⟩
  · rintro ⟨e, he, hOpened⟩
    refine ⟨e, List.mem_filter.mpr ⟨he, ?_⟩, hOpened⟩
    unfold opened at hOpened
    split at hOpened
    · rename_i hOpen
      rw [hOpen.1]
      rfl
    · cases hOpened

theorem accepted_selections :
    Accepted (selections l) ↔ Accepted l := by
  constructor
  · rintro ⟨e, he, hAccepts⟩
    exact ⟨e, (List.mem_filter.mp he).1, hAccepts⟩
  · rintro ⟨e, he, hAccepts⟩
    refine ⟨e, List.mem_filter.mpr ⟨he, ?_⟩, hAccepts⟩
    unfold accepts at hAccepts
    unfold concernsSelection
    rw [Bool.and_eq_true] at hAccepts
    rw [hAccepts.1, Bool.or_true]

theorem fair_selections
    (a : Applet)
    (leaves : Bool) :
    Fair a leaves (selections l) ↔ Fair a leaves l := by
  unfold Fair
  simp only [granted_selections, accepted_selections]

/- Where no channel is opened there is nothing to ask for. -/
theorem fair_of_refused
    {a : Applet}
    {leaves : Bool}
    (hNone : ∀ e ∈ l, opened e = none) :
    Fair a leaves l := by
  rintro data ⟨e, he, hOpened⟩
  rw [hNone e he] at hOpened
  cases hOpened

end Se

end TrustOnboard

------------------------------------------------------------
-- A Visit
------------------------------------------------------------

namespace TrustOnboard

namespace Se

variable {K : Type}
variable {port : Port K}
variable {fuel : Nat}

/- No applet is marked selected. -/
def Clean (s : Sys K) : Prop :=
  ∀ name, (s.applets name).isSelected = false

/-
  Between two worlds the channels are balanced, and no applet
  is left selected, exactly if the answers were fair.
-/
def Judged
    (a : Applet)
    (leaves : Bool)
    (w w' : Run K) : Prop :=
  ∃ l, Answered w w' l ∧
    (Closes l →
      (Balanced l ∧ Clean w'.st ↔ Fair a leaves l))

variable {w w₁ w₂ w' w'' : Run K}
variable {a : Applet}
variable {leaves : Bool}
variable {l : List (Bytes × Reply)}

/- What is judged are the answers about selections. -/
theorem judged_of_selections
    {m : List (Bytes × Reply)}
    (hAnswered : Answered w w' l)
    (hSelections : selections l = m)
    (hVerdict :
      Closes m →
        (Balanced m ∧ Clean w'.st ↔ Fair a leaves m)) :
    Judged a leaves w w' := by
  refine ⟨l, hAnswered, ?_⟩
  intro hCloses
  rw [← balanced_selections, ← fair_selections, hSelections]
  refine hVerdict ?_
  rw [← hSelections]
  exact closes_selections hCloses

/- Nothing inside of an applet changes the verdict. -/
theorem Judged.andThen
    (hJudged : Judged a leaves w w')
    (hInside : inside.rel w' w'') :
    Judged a leaves w w'' := by
  rcases hJudged with ⟨l, hAnswered, hVerdict⟩
  rcases hInside with ⟨hApplets, l', hAnswered', hNone⟩
  have hSelections : selections (l ++ l') = selections l := by
    unfold selections at hNone ⊢
    rw [List.filter_append, hNone, List.append_nil]
  refine ⟨l ++ l', hAnswered.trans hAnswered', ?_⟩
  intro hCloses
  have hEarlier := hVerdict
    (fun e he => hCloses e (List.mem_append_left l' he))
  have hClean : Clean w''.st ↔ Clean w'.st := by
    unfold Clean
    rw [hApplets]
  rw [← balanced_selections, ← fair_selections, hSelections,
    balanced_selections, fair_selections, hClean]
  exact hEarlier

/- A call that selects nothing. -/
theorem judged_of_inside
    (hClean : Clean w.st)
    (hInside : inside.rel w w') :
    Judged a leaves w w' := by
  rcases hInside with ⟨hApplets, l, hAnswered, hNone⟩
  refine judged_of_selections hAnswered hNone ?_
  intro _
  refine iff_of_true ⟨rfl, ?_⟩ ?_
  · intro name
    rw [hApplets]
    exact hClean name
  · exact fair_of_refused (fun e he => by cases he)

end Se

end TrustOnboard

------------------------------------------------------------
-- Verdicts
------------------------------------------------------------

namespace TrustOnboard

namespace Se

variable {name : AppletName}
variable {r r' r'' : Reply}
variable {data : Bytes}
variable {cla channel : UInt8}

/- A channel that is opened and not closed. -/
theorem not_balanced_entered
    (hOpened : opened (openChannel, r) = some data) :
    ¬ Balanced
      [(openChannel, r), (selectCommand cla name, r')] := by
  unfold Balanced
  rw [List.foldlM_cons, channelStep_opened hOpened]
  change ¬ (List.foldlM channelStep [data.head?]
    [(selectCommand cla name, r')] = some [])
  rw [List.foldlM_cons, channelStep_select]
  change ¬ (some [data.head?] = some [])
  simp

/- A channel that is opened and closed. -/
theorem balanced_visit
    (hOpened : opened (openChannel, r) = some data)
    (hSucceeded : r''.succeeded = true)
    (rest : List (Bytes × Reply)) :
    Balanced
        ((openChannel, r) :: (selectCommand cla name, r') ::
          (closeChannel channel, r'') :: rest) ↔
      data.head? = some channel ∧ Balanced rest := by
  unfold Balanced
  rw [List.foldlM_cons, channelStep_opened hOpened]
  change List.foldlM channelStep [data.head?]
    ((selectCommand cla name, r') ::
      (closeChannel channel, r'') :: rest) = some [] ↔ _
  rw [List.foldlM_cons, channelStep_select]
  change List.foldlM channelStep [data.head?]
    ((closeChannel channel, r'') :: rest) = some [] ↔ _
  rw [List.foldlM_cons, channelStep_close _ hSucceeded]
  by_cases hSame : data.head? = some channel
  · rw [if_pos (by simp [hSame]), hSame]
    change List.foldlM channelStep
      ([some channel].erase (some channel)) rest = _ ↔ _
    rw [List.erase_cons_head]
    simp
  · rw [if_neg (by simpa using fun h => hSame h.symm)]
    exact iff_of_false (fun h => by cases h)
      (fun h => hSame h.1)

/- A channel that is closed without being held. -/
theorem not_balanced_close
    (hSucceeded : r.succeeded = true) :
    ¬ Balanced [(closeChannel channel, r)] := by
  unfold Balanced
  rw [List.foldlM_cons, channelStep_close _ hSucceeded,
    if_neg (by simp)]
  exact fun h => by cases h

/- What was opened in the answers of a visit. -/
theorem granted_visit
    (hOpened : opened (openChannel, r) = some data)
    {rest : List (Bytes × Reply)}
    (hNone : ∀ e ∈ rest, opened e = none)
    (data' : Bytes) :
    Granted ((openChannel, r) :: rest) data' ↔
      data' = data := by
  constructor
  · rintro ⟨e, he, hSome⟩
    rcases List.mem_cons.mp he with rfl | hLater
    · rw [hOpened] at hSome
      exact (Option.some.inj hSome).symm
    · rw [hNone e hLater] at hSome
      cases hSome
  · rintro rfl
    exact ⟨_, List.mem_cons_self, hOpened⟩

end Se

end TrustOnboard

------------------------------------------------------------
-- The Verdict On A Visit
------------------------------------------------------------

namespace TrustOnboard

namespace Se

variable {K : Type}
variable {name name' : AppletName}
variable {a : Applet}
variable {leaves : Bool}
variable {r r' : Reply}
variable {data : Bytes}
variable {cla : UInt8}
variable {rest : List (Bytes × Reply)}
variable {w w₁ w₂ w' : Run K}

/- Channels that are closed, and nothing else. -/
def Closings (l : List (Bytes × Reply)) : Prop :=
  ∀ e ∈ l, ∃ channel, e.1 = closeChannel channel

theorem Closings.opened
    (hClosings : Closings rest) :
    ∀ e ∈ rest, opened e = none := by
  rintro ⟨command, r⟩ he
  rcases hClosings _ he with ⟨channel, hCommand⟩
  cases hCommand
  exact opened_close channel r

theorem Closings.accepts
    (hClosings : Closings rest) :
    ∀ e ∈ rest, accepts e = false := by
  rintro ⟨command, r⟩ he
  rcases hClosings _ he with ⟨channel, hCommand⟩
  cases hCommand
  exact accepts_close channel r

/- The answers of a visit are fair. -/
theorem fair_visit
    (hOpened : opened (openChannel, r) = some data)
    (hClosings : Closings rest) :
    Fair a leaves
        ((openChannel, r) :: (selectCommand cla name, r') ::
          rest) ↔
      data ≠ [] ∧
        (r'.accepted = true → leaves = true) ∧
        (r'.accepted = false →
          (a.receiveChannel data).isSelected = false ∨
            ((a.receiveChannel data).isBasic = true ∧
              leaves = true)) := by
  have hAccepted :
      Accepted ((openChannel, r) ::
          (selectCommand cla name, r') :: rest) ↔
        r'.accepted = true := by
    constructor
    · rintro ⟨e, he, hAccepts⟩
      rcases List.mem_cons.mp he with rfl | he
      · cases hAccepts
      rcases List.mem_cons.mp he with rfl | he
      · exact hAccepts
      · rw [hClosings.accepts e he] at hAccepts
        cases hAccepts
    · intro hYes
      exact ⟨_, List.mem_cons_of_mem _ List.mem_cons_self,
        hYes⟩
  have hNone : ∀ e ∈ (selectCommand cla name, r') :: rest,
      opened e = none := by
    intro e he
    rcases List.mem_cons.mp he with rfl | he
    · exact opened_select cla name r'
    · exact hClosings.opened e he
  unfold Fair
  simp only [granted_visit hOpened hNone, forall_eq,
    hAccepted, Bool.not_eq_true]

/- A channel that was not opened. -/
theorem visit_refused
    (hClean : Clean w.st)
    (hNone : opened (openChannel, r) = none)
    (hAnswered : Answered w w₁ [(openChannel, r)])
    (hApplets : w₁.st.applets = w.st.applets)
    (hInside : inside.rel w₁ w₂)
    (hDeparture : Departure name' w₂ w') :
    Judged a leaves w w' := by
  rcases hInside with ⟨hSame, l, hMiddle, hQuiet⟩
  have hBefore : w₂.st.applets = w.st.applets :=
    hSame.trans hApplets
  have hIdle : (w₂.st.applets name').isSelected = false := by
    rw [hBefore]
    exact hClean name'
  cases hDeparture.of_idle hIdle
  refine judged_of_selections (m := [(openChannel, r)])
    (hAnswered.trans hMiddle) ?_ ?_
  · unfold selections at hQuiet ⊢
    rw [List.filter_append, hQuiet]
    rfl
  · intro _
    refine iff_of_true ⟨?_, ?_⟩ ?_
    · unfold Balanced
      rw [List.foldlM_cons, channelStep_refused hNone]
      rfl
    · intro n
      rw [hBefore]
      exact hClean n
    · refine fair_of_refused ?_
      intro e he
      cases List.mem_singleton.mp he
      exact hNone

/- An applet that was selected. -/
theorem visit_entered
    (hClean : Clean w.st)
    (hOpened : opened (openChannel, r) = some data)
    (hApplet : a = (w.st.applets name).receiveChannel data)
    (hAccepted : r'.accepted = true)
    (hAnswered :
      Answered w w₁
        [(openChannel, r), (selectCommand cla name, r')])
    (hApplets :
      w₁.st.applets =
        (w.st.withApplet name
          { a with
            isSelected := true
            isBasic := false }).applets)
    (hInside : inside.rel w₁ w₂)
    (hDeparture : Departure name' w₂ w') :
    Judged (w.st.applets name) (name' == name) w w' := by
  rcases hInside with ⟨hSame, l, hMiddle, hQuiet⟩
  have hBefore := hSame.trans hApplets
  have hFields :
      w₂.st.applets name =
        { a with isSelected := true, isBasic := false } := by
    rw [hBefore, withApplet_self]
  by_cases hName : name' = name
  case pos =>
    subst hName
    cases hDeparture with
    | idle hIdle =>
        rw [hFields] at hIdle
        cases hIdle
    | basic _ hBasic =>
        rw [hFields] at hBasic
        cases hBasic
    | closing r'' _ _ hClosing hLeft =>
        rw [hFields] at hClosing hLeft
        refine judged_of_selections
          (m := [(openChannel, r),
            (selectCommand cla name', r'),
            (closeChannel a.channel, r'')])
          ((hAnswered.trans hMiddle).trans hClosing) ?_ ?_
        · unfold selections at hQuiet ⊢
          rw [List.filter_append, List.filter_append, hQuiet]
          rfl
        intro hCloses
        have hSucceeded :=
          hCloses (closeChannel a.channel, r'') (by simp)
            a.channel rfl
        have hAfter : Clean w'.st := by
          intro n
          rw [hLeft hSucceeded]
          by_cases hn : n = name'
          · rw [hn, withApplet_self]
          · rw [withApplet_other _ hn, hBefore,
              withApplet_other _ hn]
            exact hClean n
        rw [balanced_visit hOpened hSucceeded,
          fair_visit hOpened
            (by
              intro e he
              cases List.mem_singleton.mp he
              exact ⟨_, rfl⟩)]
        rw [hApplet, head?_eq_channel, ← hApplet]
        simp [hAfter, hAccepted, Balanced]
  case neg =>
    have hIdle :
        (w₂.st.applets name').isSelected = false := by
      rw [hBefore, withApplet_other _ hName]
      exact hClean name'
    cases hDeparture.of_idle hIdle
    refine judged_of_selections
      (m := [(openChannel, r), (selectCommand cla name, r')])
      (hAnswered.trans hMiddle) ?_ ?_
    · unfold selections at hQuiet ⊢
      rw [List.filter_append, hQuiet]
      rfl
    intro _
    refine iff_of_false ?_ ?_
    · exact fun h => not_balanced_entered hOpened h.1
    · rw [fair_visit hOpened (fun e he => by cases he)]
      rintro ⟨-, hLeaves, -⟩
      exact hName (eq_of_beq (hLeaves hAccepted))

end Se

end TrustOnboard

------------------------------------------------------------
-- Being Turned Away
------------------------------------------------------------

namespace TrustOnboard

namespace Se

variable {K : Type}
variable {name name' : AppletName}
variable {a : Applet}
variable {r r' r'' : Reply}
variable {data : Bytes}
variable {cla : UInt8}
variable {w w₁ w₂ w' : Run K}

/-
  An applet that was not selected on a channel of its own.
  What matters is whether the data of the channel marked it
  selected, and what the call then does about it.
-/
theorem visit_turnedAway
    (hClean : Clean w.st)
    (hOpened : opened (openChannel, r) = some data)
    (hApplet : a = (w.st.applets name).receiveChannel data)
    (hRefused : r'.accepted = false)
    (hAnswered :
      Answered w w₁
        [(openChannel, r), (selectCommand cla name, r'),
          (closeChannel a.channel, r'')])
    (hApplets :
      w₁.st.applets = (w.st.withApplet name a).applets)
    (hInside : inside.rel w₁ w₂)
    (hDeparture : Departure name' w₂ w') :
    Judged (w.st.applets name) (name' == name) w w' := by
  rcases hInside with ⟨hSame, l, hMiddle, hQuiet⟩
  have hBefore := hSame.trans hApplets
  have hOthers : ∀ n, n ≠ name →
      (w₂.st.applets n).isSelected = false := by
    intro n hn
    rw [hBefore, withApplet_other _ hn]
    exact hClean n
  have hFields : w₂.st.applets name = a := by
    rw [hBefore, withApplet_self]
  have hSoFar := hAnswered.trans hMiddle
  have hSelections : ∀ rest,
      selections
          ([(openChannel, r), (selectCommand cla name, r'),
              (closeChannel a.channel, r'')] ++ l ++ rest) =
        (openChannel, r) :: (selectCommand cla name, r') ::
          (closeChannel a.channel, r'') ::
            selections rest := by
    intro rest
    unfold selections at hQuiet ⊢
    rw [List.filter_append, List.filter_append, hQuiet]
    rfl
  -- The verdict if nothing more is sent.
  have hSilent : ∀ w', Answered w₂ w' [] →
      (Clean w'.st ↔ a.isSelected = false ∨
        (a.isBasic = true ∧ (name' == name) = true)) →
      Judged (w.st.applets name) (name' == name) w w' := by
    intro w' hNothing hAfter
    refine judged_of_selections (hSoFar.trans hNothing)
      (hSelections []) ?_
    intro hCloses
    have hSucceeded :=
      hCloses (closeChannel a.channel, r'') (by simp)
        a.channel rfl
    rw [balanced_visit hOpened hSucceeded,
      fair_visit hOpened
        (by
          intro e he
          cases List.mem_singleton.mp he
          exact ⟨_, rfl⟩), hApplet, head?_eq_channel,
      ← hApplet]
    simp [hRefused, hAfter, Balanced, selections]
  by_cases hLeaves : name' = name
  case neg =>
    cases hDeparture.of_idle (hOthers name' hLeaves)
    refine hSilent _ (.refl _) ?_
    simp only [beq_iff_eq, hLeaves, and_false, or_false]
    constructor
    · intro hAfter
      rw [← hFields]
      exact hAfter name
    · intro hIdle n
      by_cases hn : n = name
      · rw [hn, hFields]
        exact hIdle
      · exact hOthers n hn
  case pos =>
  subst hLeaves
  cases hDeparture with
  | idle hIdle hEnd =>
      cases hEnd
      rw [hFields] at hIdle
      refine hSilent _ (.refl _) ?_
      refine iff_of_true ?_ (Or.inl hIdle)
      intro n
      by_cases hn : n = name'
      · rw [hn, hFields]
        exact hIdle
      · exact hOthers n hn
  | basic hSelected hBasic hNothing hLeft =>
      rw [hFields] at hBasic
      refine hSilent _ hNothing ?_
      refine iff_of_true ?_ (Or.inr ⟨hBasic, by simp⟩)
      intro n
      rw [hLeft]
      by_cases hn : n = name'
      · rw [hn, withApplet_self]
      · rw [withApplet_other _ hn]
        exact hOthers n hn
  | closing r₃ hSelected hBasic hClosing hLeft =>
      rw [hFields] at hSelected hBasic hClosing
      refine judged_of_selections (hSoFar.trans hClosing)
        (hSelections [(closeChannel a.channel, r₃)]) ?_
      intro hCloses
      change Closes ((openChannel, r) ::
        (selectCommand cla name', r') ::
          (closeChannel a.channel, r'') ::
            [(closeChannel a.channel, r₃)]) at hCloses
      have hSucceeded :=
        hCloses (closeChannel a.channel, r'') (by simp)
          a.channel rfl
      have hTwice :=
        hCloses (closeChannel a.channel, r₃) (by simp)
          a.channel rfl
      change (Balanced ((openChannel, r) ::
        (selectCommand cla name', r') ::
          (closeChannel a.channel, r'') ::
            [(closeChannel a.channel, r₃)]) ∧ _) ↔
        Fair _ _ ((openChannel, r) ::
        (selectCommand cla name', r') ::
          (closeChannel a.channel, r'') ::
            [(closeChannel a.channel, r₃)])
      refine iff_of_false ?_ ?_
      · rintro ⟨hBalanced, -⟩
        exact not_balanced_close hTwice
          ((balanced_visit hOpened hSucceeded _).mp
            hBalanced).2
      · rw [fair_visit hOpened
          (by
            intro e he
            rcases List.mem_cons.mp he with rfl | he
            · exact ⟨_, rfl⟩
            · cases List.mem_singleton.mp he
              exact ⟨_, rfl⟩), ← hApplet]
        rintro ⟨-, -, hFlags⟩
        rcases hFlags hRefused with hIdle | ⟨hOther, -⟩
        · rw [hSelected] at hIdle
          cases hIdle
        · rw [hBasic] at hOther
          cases hOther

/- The verdict on every visit. -/
theorem visit_judged
    {b : Bool}
    (hClean : Clean w.st)
    (hSelection : Selection name w w₁ b)
    (hInside : inside.rel w₁ w₂)
    (hDeparture : Departure name' w₂ w') :
    Judged (w.st.applets name) (name' == name) w w' := by
  cases hSelection with
  | refused r hNone hAnswered hApplets =>
      exact visit_refused hClean hNone hAnswered hApplets
        hInside hDeparture
  | entered r r' data a hOpened hApplet hAccepted hAnswered
      hApplets =>
      exact visit_entered hClean hOpened hApplet hAccepted
        hAnswered hApplets hInside hDeparture
  | turnedAway r r' r'' data a hOpened hApplet hRefused
      hAnswered hApplets =>
      exact visit_turnedAway hClean hOpened hApplet hRefused
        hAnswered hApplets hInside hDeparture

end Se

end TrustOnboard
