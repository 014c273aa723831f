import TrustOnboard.Se.Inside
import TrustOnboard.Se.MbedtlsSe

/-
  What selecting an applet and leaving it come to.

  `Applet.select` opens a channel, selects the applet by its
  AID, and closes the channel again if the card refuses it.
  `Applet.deselect` closes the channel of an applet that is
  marked selected.

  Key definitions include:
    * `opened`, `closed` and `accepts`
    * `Selection`
    * `Departure`

  Key results include:
    * `select_run`
    * `deselect_run`
-/

------------------------------------------------------------
-- Answers About A Selection
------------------------------------------------------------

namespace TrustOnboard

namespace Se

/- A command that went through with 9000. -/
def Reply.succeeded (r : Reply) : Bool :=
  r.ok && statusWord r.bytes == 0x9000

/- A selection that went through with 9000 or 61xx. -/
def Reply.accepted (r : Reply) : Bool :=
  r.ok &&
    (statusWord r.bytes == 0x9000 ||
      statusWord r.bytes / 2 ^ 8 == 0x61)

/- The data that came with a channel that was opened. -/
def opened (e : Bytes × Reply) : Option Bytes :=
  if e.1 = openChannel ∧ e.2.succeeded then
    some (payload e.2.bytes)
  else
    none

/- The channel that was closed. -/
def closed (e : Bytes × Reply) : Option UInt8 :=
  e.1[3]?.filter (fun channel =>
    e.1 == closeChannel channel && e.2.succeeded)

/- An applet was selected by its AID. -/
def accepts (e : Bytes × Reply) : Bool :=
  e.1[1]? == some 0xA4 && e.1[2]? == some 0x04 &&
    e.2.accepted

/- The command that selects an applet. -/
def selectCommand (cla : UInt8) (name : AppletName) : Bytes :=
  [cla, 0xA4, 0x04, 0x00, .ofNat name.aid.length] ++ name.aid

variable {e : Bytes × Reply}
variable {r : Reply}
variable {channel : UInt8}

theorem closed_eq_some :
    closed e = some channel ↔
      e.1 = closeChannel channel ∧ e.2.succeeded = true := by
  unfold closed
  rw [Option.filter_eq_some_iff]
  constructor
  · rintro ⟨-, hClosed⟩
    rw [Bool.and_eq_true] at hClosed
    exact ⟨eq_of_beq hClosed.1, hClosed.2⟩
  · rintro ⟨hCommand, hSucceeded⟩
    rw [hCommand, hSucceeded]
    exact ⟨rfl, by simp⟩

theorem closed_close
    (hSucceeded : r.succeeded = true) :
    closed (closeChannel channel, r) = some channel :=
  closed_eq_some.mpr ⟨rfl, hSucceeded⟩

theorem closed_open
    (r : Reply) :
    closed (openChannel, r) = none := by
  rw [Option.eq_none_iff_forall_ne_some]
  intro c hClosed
  have hCommand := (closed_eq_some.mp hClosed).1
  cases hCommand

theorem closed_select
    (cla : UInt8)
    (name : AppletName)
    (r : Reply) :
    closed (selectCommand cla name, r) = none := by
  rw [Option.eq_none_iff_forall_ne_some]
  intro c hClosed
  have hCommand := (closed_eq_some.mp hClosed).1
  cases name with
  | mf => cases hCommand
  | mias => cases hCommand

theorem opened_close
    (channel : UInt8)
    (r : Reply) :
    opened (closeChannel channel, r) = none := by
  refine if_neg ?_
  rintro ⟨hCommand, -⟩
  cases hCommand

theorem opened_select
    (cla : UInt8)
    (name : AppletName)
    (r : Reply) :
    opened (selectCommand cla name, r) = none := by
  refine if_neg ?_
  rintro ⟨hCommand, -⟩
  cases name with
  | mf => cases hCommand
  | mias => cases hCommand

theorem opened_open :
    opened (openChannel, r) =
      if r.succeeded then some (payload r.bytes) else none := by
  unfold opened
  simp

theorem accepts_close
    (channel : UInt8)
    (r : Reply) :
    accepts (closeChannel channel, r) = false :=
  rfl

/- The channel is the first byte that came, if one did. -/
theorem head?_eq_channel
    (a : Applet)
    (data : Bytes) :
    data.head? = some (a.receiveChannel data).channel ↔
      data ≠ [] := by
  match data with
  | [] => simp
  | [_] => simp [Applet.receiveChannel]
  | [_, _] => simp [Applet.receiveChannel]
  | _ :: _ :: _ :: _ => simp [Applet.receiveChannel]

end Se

end TrustOnboard

------------------------------------------------------------
-- Selecting
------------------------------------------------------------

namespace TrustOnboard

namespace Se

variable {K : Type}
variable {port : Port K}
variable {fuel : Nat}
variable {name : AppletName}
variable {w w' : Run K}

/- A command that returns has an answer. -/
theorem send_replied
    {command : Bytes}
    {ok : Bool}
    (hShort : command.length < 2 ^ 16)
    (hRun :
      (send port fuel command).run w = (some ok, w')) :
    ∃ r, Replied port command w w' r ∧ ok = r.ok := by
  have hSent := send_run port fuel hShort w
  rw [hRun] at hSent
  exact hSent.replied

/- SELECT by the AID. -/
theorem selectAid_run
    {cla : UInt8}
    {b : Bool}
    (hRun :
      (selectAid port fuel name cla).run w = (some b, w')) :
    ∃ r, Replied port (selectCommand cla name) w w' r ∧
      b = r.accepted := by
  unfold selectAid at hRun
  rcases Prog.of_run_bind hRun with ⟨ok, w₁, hFirst, hRest⟩
  rw [transmitCase3_eq] at hFirst
  have hShort :
      (selectCommand cla name).length < 2 ^ 16 := by
    cases name with
    | mf =>
        exact Nat.lt_of_le_of_lt (Nat.le_refl 21) (by decide)
    | mias =>
        exact Nat.lt_of_le_of_lt (Nat.le_refl 18) (by decide)
  rcases send_replied hShort hFirst with ⟨r, hReplied, hOk⟩
  unfold Reply.accepted
  cases ok with
  | false =>
      cases hRest
      refine ⟨r, hReplied, ?_⟩
      rw [← hOk]
      rfl
  | true =>
      cases hRest
      refine ⟨r, hReplied, ?_⟩
      rw [← hOk, ← hReplied.holds.getStatusWord]
      rfl

/- The ways in which a selection on a new channel ends. -/
inductive Selection
    (name : AppletName)
    (w w' : Run K) : Bool → Prop where
  | refused
      (r : Reply)
      (hNone : opened (openChannel, r) = none)
      (hAnswered : Answered w w' [(openChannel, r)])
      (hApplets : w'.st.applets = w.st.applets) :
      Selection name w w' false
  | entered
      (r r' : Reply)
      (data : Bytes)
      (a : Applet)
      (hOpened : opened (openChannel, r) = some data)
      (hApplet :
        a = (w.st.applets name).receiveChannel data)
      (hAccepted : r'.accepted = true)
      (hAnswered :
        Answered w w'
          [(openChannel, r),
            (selectCommand (0x00 ||| a.channel) name, r')])
      (hApplets :
        w'.st.applets =
          (w.st.withApplet name
            { a with
              isSelected := true
              isBasic := false }).applets) :
      Selection name w w' true
  | turnedAway
      (r r' r'' : Reply)
      (data : Bytes)
      (a : Applet)
      (hOpened : opened (openChannel, r) = some data)
      (hApplet :
        a = (w.st.applets name).receiveChannel data)
      (hRefused : r'.accepted = false)
      (hAnswered :
        Answered w w'
          [(openChannel, r),
            (selectCommand (0x00 ||| a.channel) name, r'),
            (closeChannel a.channel, r'')])
      (hApplets :
        w'.st.applets = (w.st.withApplet name a).applets) :
      Selection name w w' false

/- An applet that is not selected is not left. -/
theorem deselect_unselected
    (hIdle : (w.st.applets name).isSelected = false) :
    (Applet.deselect port fuel name).run w =
      (some false, w) := by
  unfold Applet.deselect
  simp [Prog.read, Prog.run_bind, hIdle]

/- The state of an applet that was given other fields. -/
@[simp] theorem withApplet_self
    (s : Sys K)
    (name : AppletName)
    (a : Applet) :
    (s.withApplet name a).applets name = a :=
  if_pos rfl

theorem withApplet_other
    (s : Sys K)
    {name other : AppletName}
    (hOther : other ≠ name)
    (a : Applet) :
    (s.withApplet name a).applets other = s.applets other :=
  if_neg hOther

/- Given other fields twice. -/
theorem withApplet_twice
    {s s' : Sys K}
    {a b : Applet}
    (hApplets :
      s'.applets = (s.withApplet name a).applets) :
    (s'.withApplet name b).applets =
      (s.withApplet name b).applets := by
  funext n
  by_cases hName : n = name
  · subst hName
    rw [withApplet_self, withApplet_self]
  · rw [withApplet_other _ hName, withApplet_other _ hName,
      hApplets, withApplet_other _ hName]

/- The selection behind the channel. -/
theorem selectOpened_run
    {r : Reply}
    {data : Bytes}
    {w₁ : Run K}
    {b : Bool}
    (hOpened : opened (openChannel, r) = some data)
    (hReplied : Replied port openChannel w w₁ r)
    (hRun :
      (Applet.selectOpened port fuel name).run w₁ =
        (some b, w')) :
    Selection name w w' b := by
  have hData : payload r.bytes = data := by
    rw [opened_open] at hOpened
    split at hOpened
    · exact Option.some.inj hOpened
    · cases hOpened
  have hResponse : w₁.st.iface.getResponse = data :=
    hReplied.holds.getResponse.trans hData
  have hBefore := hReplied.frame.applets
  unfold Applet.selectOpened at hRun
  generalize hA :
    (w.st.applets name).receiveChannel data = a
  -- The response goes over the fields of the applet.
  let w₂ : Run K := ⟨w₁.st.withApplet name a, w₁.log⟩
  have hFields :
      w₂.st.applets = (w.st.withApplet name a).applets := by
    change (fun n => if n = name then a
      else w₁.st.applets n) = _
    rw [hBefore]
    rfl
  have hAnswered : Answered w w₂ [(openChannel, r)] :=
    hReplied.answered.trans (.of_log rfl)
  have hRest :
      (selectAid port fuel name (0x00 ||| a.channel) >>=
        fun ok => if ok then do
            setApplet name (fun a =>
              { a with isSelected := true, isBasic := false })
            pure true
          else do
            let channel ←
              Prog.read (fun s => (s.applets name).channel)
            let _ ←
              Se.transmitCase1 port fuel 0x00 0x70 0x80
                channel
            pure false).run w₂ = (some b, w') := by
    have hSame :
        (w₁.st.applets name).receiveChannel
          w₁.st.iface.getResponse = a := by
      rw [hBefore, hResponse, hA]
    rw [← hRun]
    simp [Prog.read, Prog.run_bind, setApplet, Prog.modify,
      hSame, w₂]
  rcases Prog.of_run_bind hRest with ⟨ok, w₃, hSelect, hEnd⟩
  rcases selectAid_run hSelect with ⟨r', hReplied', hOk⟩
  have hLater := hReplied'.frame.applets
  cases ok with
  | true =>
      cases hEnd
      refine .entered r r' data a hOpened hA.symm hOk.symm
        ((hAnswered.trans hReplied'.answered).trans
          (.of_log rfl)) ?_
      change (Sys.withApplet _ name _).applets = _
      rw [withApplet_twice (hLater.trans hFields), hLater,
        hFields, withApplet_self]
  | false =>
      rcases Prog.of_run_bind hEnd with ⟨c, w₄, hRead, hEnd⟩
      cases hRead
      rcases Prog.of_run_bind hEnd with
        ⟨ok', w₅, hClose, hPure⟩
      cases hPure
      rw [transmitCase1_eq] at hClose
      rcases send_replied (by simp) hClose with
        ⟨r'', hReplied'', -⟩
      have hChannel :
          (w₃.st.applets name).channel = a.channel := by
        rw [hLater, hFields, withApplet_self]
      have hClosing := hReplied''.answered
      dsimp only at hClosing
      rw [hChannel] at hClosing
      refine .turnedAway r r' r'' data a hOpened hA.symm
        hOk.symm
        ((hAnswered.trans hReplied'.answered).trans
          hClosing) ?_
      exact (hReplied''.frame.applets.trans hLater).trans
        hFields

/- Selecting an applet that is not selected. -/
theorem select_run
    {b : Bool}
    (hIdle : (w.st.applets name).isSelected = false)
    (hRun :
      (Applet.select port fuel name false).run w =
        (some b, w')) :
    Selection name w w' b := by
  unfold Applet.select at hRun
  rw [Prog.run_bind_of_run (deselect_unselected hIdle)]
    at hRun
  rcases Prog.of_run_bind hRun with ⟨ok, w₁, hFirst, hRest⟩
  rw [transmitCase2_eq] at hFirst
  rcases send_replied (by simp) hFirst with
    ⟨r, hReplied, hOk⟩
  have hOpen := opened_open (r := r)
  unfold Reply.succeeded at hOpen
  rw [← hOk] at hOpen
  cases ok with
  | false =>
      cases hRest
      exact .refused r hOpen hReplied.answered
        hReplied.frame.applets
  | true =>
      rcases Prog.of_run_bind hRest with
        ⟨sw, w₂, hRead, hRest⟩
      cases hRead
      rw [← hReplied.holds.getStatusWord] at hOpen
      by_cases hStatus :
          w₁.st.iface.getStatusWord = 0x9000
      · rw [if_pos hStatus] at hRest
        rw [if_pos (by simpa using hStatus)] at hOpen
        exact selectOpened_run hOpen hReplied hRest
      · rw [if_neg hStatus] at hRest
        rw [if_neg (by simpa using hStatus)] at hOpen
        cases hRest
        exact .refused r hOpen hReplied.answered
          hReplied.frame.applets

end Se

end TrustOnboard

------------------------------------------------------------
-- Leaving
------------------------------------------------------------

namespace TrustOnboard

namespace Se

variable {K : Type}
variable {port : Port K}
variable {fuel : Nat}
variable {name : AppletName}
variable {w w' : Run K}

/- The ways in which an applet is left. -/
inductive Departure
    (name : AppletName)
    (w w' : Run K) : Prop where
  | idle
      (hIdle : (w.st.applets name).isSelected = false)
      (hSame : w' = w)
  | basic
      (hSelected : (w.st.applets name).isSelected = true)
      (hBasic : (w.st.applets name).isBasic = true)
      (hAnswered : Answered w w' [])
      (hApplets :
        w'.st.applets =
          (w.st.withApplet name
            { w.st.applets name with
              isSelected := false }).applets)
  | closing
      (r : Reply)
      (hSelected : (w.st.applets name).isSelected = true)
      (hBasic : (w.st.applets name).isBasic = false)
      (hAnswered :
        Answered w w'
          [(closeChannel (w.st.applets name).channel, r)])
      (hApplets :
        r.succeeded = true →
          w'.st.applets =
            (w.st.withApplet name
              { w.st.applets name with
                isSelected := false }).applets)

/- An applet that is not selected is left as it is. -/
theorem Departure.of_idle
    (hDeparture : Departure name w w')
    (hIdle : (w.st.applets name).isSelected = false) :
    w' = w := by
  cases hDeparture with
  | idle _ hSame => exact hSame
  | basic hSelected =>
      rw [hIdle] at hSelected
      cases hSelected
  | closing _ hSelected =>
      rw [hIdle] at hSelected
      cases hSelected

/- Leaving an applet. -/
theorem deselect_run
    {b : Bool}
    (hRun :
      (Applet.deselect port fuel name).run w =
        (some b, w')) :
    Departure name w w' := by
  cases hSelected : (w.st.applets name).isSelected with
  | false =>
      rw [deselect_unselected hSelected] at hRun
      cases hRun
      exact .idle hSelected rfl
  | true =>
  unfold Applet.deselect at hRun
  rcases Prog.of_run_bind hRun with ⟨a, w₁, hRead, hRest⟩
  cases hRead
  simp only [hSelected, Bool.true_and] at hRest
  cases hBasic : (w.st.applets name).isBasic with
  | true =>
      simp only [hBasic, Bool.not_true, Bool.false_eq_true,
        if_false, if_true] at hRest
      cases hRest
      exact .basic hSelected hBasic (.of_log rfl) rfl
  | false =>
      simp only [hBasic, Bool.not_false, if_true] at hRest
      rcases Prog.of_run_bind hRest with
        ⟨ok, w₂, hClose, hEnd⟩
      rw [transmitCase1_eq] at hClose
      rcases send_replied (by simp) hClose with
        ⟨r, hReplied, hOk⟩
      have hBefore := hReplied.frame.applets
      have hAnswered :
          Answered w w₂
            [(closeChannel (w.st.applets name).channel, r)] :=
        hReplied.answered
      cases ok with
      | false =>
          cases hEnd
          refine .closing r hSelected hBasic hAnswered ?_
          intro hSucceeded
          unfold Reply.succeeded at hSucceeded
          rw [← hOk] at hSucceeded
          cases hSucceeded
      | true =>
          rcases Prog.of_run_bind hEnd with
            ⟨sw, w₃, hStatus, hEnd⟩
          cases hStatus
          by_cases hDone :
              w₂.st.iface.getStatusWord = 0x9000
          · rw [if_pos hDone] at hEnd
            cases hEnd
            refine .closing r hSelected hBasic
              (hAnswered.trans (.of_log rfl)) ?_
            intro _
            change (fun n => if n = name then
                { w₂.st.applets name with isSelected := false }
              else w₂.st.applets n) = _
            rw [hBefore]
            rfl
          · rw [if_neg hDone] at hEnd
            cases hEnd
            refine .closing r hSelected hBasic hAnswered ?_
            intro hSucceeded
            unfold Reply.succeeded at hSucceeded
            rw [Bool.and_eq_true] at hSucceeded
            rw [hReplied.holds.getStatusWord] at hDone
            exact absurd (eq_of_beq hSucceeded.2) hDone

end Se

end TrustOnboard
