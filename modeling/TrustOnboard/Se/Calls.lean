import TrustOnboard.Se.Channels

/-
  The channels of every call of mbedTLS, `mbedtls_se.c`.

  A session is a sequence of calls, each on what the one
  before has left.  Every call but the reading of a
  `SE://MIAS_P11/` object leaves the applet it selected.

  Key definitions include:
    * `Departs`
    * `JudgedFrom`
    * `Call.readsP11`
    * `Turn`
    * `Session`
    * `Turn.Fair`

  Key results include:
    * `Call.judged`
    * `channels_balanced_iff`
-/

------------------------------------------------------------
-- Programs With A Verdict
------------------------------------------------------------

namespace TrustOnboard

namespace Se

open Prog (Relates)

variable {K : Type}
variable {α β : Type}

/-
  A program works inside of an applet, leaves one, and
  finishes inside of what is left.
-/
def Departs
    (name : AppletName)
    (p : Code K α) : Prop :=
  ∀ w a w', p.run w = (some a, w') →
    ∃ w₁ w₂, inside.rel w w₁ ∧ Departure name w₁ w₂ ∧
      inside.rel w₂ w'

namespace Departs

variable {name : AppletName}

theorem deselect
    {port : Port K}
    {fuel : Nat}
    {after : Bool → Code K α}
    (hAfter : ∀ b, (after b).Relates inside) :
    Departs name
      (Applet.deselect port fuel name >>= after) := by
  intro w a w' hRun
  rcases Prog.of_run_bind hRun with ⟨b, w₁, hLeave, hEnd⟩
  exact ⟨w, w₁, inside.refl w, deselect_run hLeave,
    hAfter b w₁ a w' hEnd⟩

theorem bind
    {p : Code K α}
    {q : α → Code K β}
    (hInside : p.Relates inside)
    (hDeparts : ∀ a, Departs name (q a)) :
    Departs name (p >>= q) := by
  intro w b w' hRun
  rcases Prog.of_run_bind hRun with ⟨a, w₁, hFirst, hRest⟩
  rcases hDeparts a w₁ b w' hRest with
    ⟨w₂, w₃, hLater, hDeparture, hEnd⟩
  exact ⟨w₂, w₃,
    inside.trans (hInside w a w₁ hFirst) hLater, hDeparture,
    hEnd⟩

theorem ite
    {c : Prop}
    [Decidable c]
    {p q : Code K α}
    (hThen : Departs name p)
    (hElse : Departs name q) :
    Departs name (if c then p else q) := by
  split
  · exact hThen
  · exact hElse

end Departs

/- The runs of a program have a verdict. -/
def JudgedFrom
    (name : AppletName)
    (leaves : Bool)
    (p : Code K α) : Prop :=
  ∀ w a w', Clean w.st → p.run w = (some a, w') →
    Judged (w.st.applets name) leaves w w'

namespace JudgedFrom

variable {name : AppletName}
variable {leaves : Bool}

theorem of_inside
    {p : Code K α}
    (hInside : p.Relates inside) :
    JudgedFrom name leaves p :=
  fun w a w' hClean hRun =>
    judged_of_inside hClean (hInside w a w' hRun)

theorem andThen
    {p : Code K α}
    {q : α → Code K β}
    (hJudged : JudgedFrom name leaves p)
    (hInside : ∀ a, (q a).Relates inside) :
    JudgedFrom name leaves (p >>= q) := by
  intro w b w'' hClean hRun
  rcases Prog.of_run_bind hRun with ⟨a, w', hFirst, hRest⟩
  exact (hJudged w a w' hClean hFirst).andThen
    (hInside a w' b w'' hRest)

theorem ite
    {c : Prop}
    [Decidable c]
    {p q : Code K α}
    (hThen : c → JudgedFrom name leaves p)
    (hElse : ¬ c → JudgedFrom name leaves q) :
    JudgedFrom name leaves (if c then p else q) := by
  split
  case isTrue h => exact hThen h
  case isFalse h => exact hElse h

/- Select an applet, and go on to leave one. -/
theorem visit
    {port : Port K}
    {fuel : Nat}
    (name' : AppletName)
    {rest : Bool → Code K α}
    (hRest : ∀ b, Departs name' (rest b)) :
    JudgedFrom name (name' == name)
      (Applet.select port fuel name false >>= rest) := by
  intro w a w' hClean hRun
  rcases Prog.of_run_bind hRun with ⟨b, w₁, hSelect, hLater⟩
  rcases hRest b w₁ a w' hLater with
    ⟨w₂, w₃, hInside, hDeparture, hEnd⟩
  exact (visit_judged hClean
    (select_run (hClean name) hSelect) hInside
    hDeparture).andThen hEnd

end JudgedFrom

end Se

end TrustOnboard

------------------------------------------------------------
-- The Functions
------------------------------------------------------------

namespace TrustOnboard

namespace Se

open Prog (Relates)

variable {K : Type}
variable (lib : Mbedtls)
variable (port : Port K)
variable (fuel : Nat)
variable (v : Uninitialised)
variable (path pin : Bytes)

theorem readEfSelected_inside
    (efname : Bytes) :
    (readEfSelected port fuel efname pin v).Relates
      inside := by
  refine (MF.verifyPin_inside port fuel _).bind ?_
  intro verified
  refine Relates.ite ?_ (.pure _)
  refine (readEF_inside port fuel _ _).bind ?_
  intro r
  exact Relates.ite (.pure _) (.pure _)

theorem seReadObject_judged :
    JudgedFrom .mf true
      (seReadObject port fuel path pin v) := by
  refine .ite (fun _ => .of_inside (.pure _)) ?_
  intro _
  refine .visit .mf ?_
  intro selected
  refine Departs.ite (Departs.bind ?_ ?_) (Departs.bind ?_ ?_)
  · exact readEfSelected_inside port fuel v pin _
  · exact fun r => .deselect (fun _ => .pure r)
  · exact .pure _
  · exact fun r => .deselect (fun _ => .pure r)

theorem p11ReadSelected_inside
    (label : Bytes) :
    (p11ReadSelected port fuel label pin v).Relates
      inside := by
  refine (MIAS.verifyPin_inside port fuel _).bind ?_
  intro verified
  refine Relates.ite ?_ (.pure _)
  refine (p11GetObjectByLabel_inside port fuel _ _).bind ?_
  intro r
  exact Relates.ite (.pure _) (.pure _)

/- The applet that is left is not the one selected. -/
theorem seP11ReadObject_judged :
    JudgedFrom .mias false
      (seP11ReadObject port fuel path pin v) := by
  refine .visit .mf ?_
  intro selected
  refine Departs.ite (Departs.bind ?_ ?_) (Departs.bind ?_ ?_)
  · exact p11ReadSelected_inside port fuel v pin _
  · exact fun r => .deselect (fun _ => .pure r)
  · exact .pure _
  · exact fun r => .deselect (fun _ => .pure r)

theorem parseObject_inside
    (parse : Bytes → Int)
    (r : ReadResult) :
    (parseObject parse r : Code K Int).Relates inside := by
  refine Relates.ite ?_ (.pure _)
  exact (Relates.read _).bind (fun _ => .pure _)

theorem withMias_judged
    {code : Code K Bool}
    (hCode : code.Relates inside) :
    JudgedFrom .mias true (withMias port fuel pin code) := by
  refine .visit .mias ?_
  intro selected
  refine Departs.ite (Departs.bind ?_ ?_) (Departs.bind ?_ ?_)
  · refine (MIAS.verifyPin_inside port fuel _).bind ?_
    intro verified
    refine Relates.ite ?_ (.pure _)
    refine hCode.bind ?_
    intro ok
    exact Relates.ite (.pure _) (.pure _)
  · exact fun r => .deselect (fun _ => .pure r)
  · exact .pure _
  · exact fun r => .deselect (fun _ => .pure r)

theorem decryptWithKey_inside
    (kid : UInt8)
    (data : Bytes) :
    (decryptWithKey port fuel kid data).Relates inside := by
  refine (manageEnvironment_inside port fuel _ _).bind ?_
  intro ok
  refine Relates.ite ?_ (.pure _)
  exact (psoDecipher_inside port fuel data).bind
    (fun _ => .pure _)

theorem signWithKey_inside
    (algorithm kid : UInt8)
    (hash : Buffer) :
    (signWithKey port fuel algorithm kid hash).Relates
      inside := by
  refine (manageEnvironment_inside port fuel _ _).bind ?_
  intro ok
  refine Relates.ite ?_ (.pure _)
  exact (signFinal_inside port fuel _ hash).bind
    (fun _ => .pure _)

theorem rsaAltSign_judged
    (ctx : MiasKey)
    (mdAlg : MdType)
    (hash : Buffer) :
    JudgedFrom .mias true
      (rsaAltSign port fuel ctx mdAlg hash) := by
  unfold rsaAltSign
  cases mdAlg.miasAlg with
  | none => exact .of_inside (.pure _)
  | some algorithm =>
      exact withMias_judged port fuel _
        (signWithKey_inside port fuel _ _ hash)

theorem miasCertificate_judged
    (cid : UInt8) :
    JudgedFrom .mias true
      (miasCertificate lib port fuel cid v) := by
  have hLeave : ∀ ret : Int, Departs .mias
      (Applet.deselect port fuel .mias >>= fun _ =>
        (pure ret : Code K Int)) :=
    fun ret => .deselect (fun _ => .pure ret)
  refine .visit .mias ?_
  intro selected
  refine Departs.ite ?_ (.bind (.pure _) hLeave)
  refine Departs.bind
    (getCertificateByContainerId_inside port fuel _ _ _ _) ?_
  intro r
  refine Departs.ite ?_ (.bind (.pure _) hLeave)
  refine Departs.bind (Relates.read _) ?_
  exact fun block => .bind (.pure _) hLeave

/- The end of the key's lookup, which the applet is left at. -/
theorem miasKey_departs
    (kp : Option KeyPair) :
    Departs .mias
      (Applet.deselect port fuel .mias >>= fun _ =>
        match kp with
        | some kp => pure (lib.pkSetupRsaAlt kp)
        | none => (pure errBadKeyName : Code K Int)) := by
  cases kp with
  | none => exact .deselect (fun _ => .pure _)
  | some kp => exact .deselect (fun _ => .pure _)

theorem miasKey_judged
    (cid : UInt8) :
    JudgedFrom .mias true
      (miasKey lib port fuel cid v) := by
  have hLeave := miasKey_departs lib port fuel
  refine .visit .mias ?_
  intro selected
  refine Departs.ite (Departs.bind ?_ ?_) (Departs.bind ?_ ?_)
  · exact getKeyPairByContainerId_inside port fuel _ _
  · exact hLeave
  · exact .pure _
  · exact hLeave

end Se

end TrustOnboard

------------------------------------------------------------
-- The Verdict On A Call
------------------------------------------------------------

namespace TrustOnboard

namespace Se

variable {K : Type}

/- The name of a certificate or a key, for a call with one. -/
def Call.path : Call → Option Bytes
  | .x509CrtParse path _ => some path
  | .pkParse path _ => some path
  | .rsaAltDecrypt _ _ => none
  | .rsaAltSign _ _ _ => none

/- The call reads an object by its label. -/
def Call.readsP11 (call : Call) : Bool :=
  call.path.any p11Scheme.isPrefixOf

/- The applet that a call selects if it selects one. -/
def Call.applet (call : Call) : AppletName :=
  if call.path.any efScheme.isPrefixOf then .mf else .mias

/- A name that begins in one way does not in the other. -/
theorem p11Scheme_of_efScheme
    {path : Bytes}
    (hScheme : efScheme.isPrefixOf path = true) :
    p11Scheme.isPrefixOf path = false := by
  rw [Bool.eq_false_iff]
  intro hOther
  rw [List.isPrefixOf_iff_prefix] at hScheme hOther
  have hPrefix : efScheme <+: p11Scheme :=
    List.prefix_of_prefix_length_le hScheme hOther
      (by decide)
  exact absurd hPrefix (by decide)

/- From a clean state every call has a verdict. -/
theorem Call.judged
    (call : Call)
    (lib : Mbedtls)
    (port : Port K)
    (v : Uninitialised)
    (fuel : Nat) :
    JudgedFrom call.applet (! call.readsP11)
      (call.code lib port v fuel) := by
  have hParse : ∀ (path pin : Bytes) (parse : Bytes → Int)
      (mias : Code K Int),
      JudgedFrom .mias true mias →
      JudgedFrom
        (if efScheme.isPrefixOf path then .mf else .mias)
        (! p11Scheme.isPrefixOf path)
        (if efScheme.isPrefixOf path then do
          let r ←
            seReadObject port fuel
              (path.drop efScheme.length) pin v
          parseObject parse r
        else if p11Scheme.isPrefixOf path then do
          let r ←
            seP11ReadObject port fuel
              (path.drop p11Scheme.length) pin v
          parseObject parse r
        else if miasScheme.isPrefixOf path then
          mias
        else
          pure errBadKeyName) := by
    intro path pin parse mias hMias
    refine .ite ?_ ?_
    · intro hScheme
      rw [if_pos hScheme, p11Scheme_of_efScheme hScheme]
      exact (seReadObject_judged port fuel v _ pin).andThen
        (parseObject_inside parse)
    intro hScheme
    rw [if_neg hScheme]
    refine .ite ?_ ?_
    · intro hP11
      rw [hP11]
      exact (seP11ReadObject_judged port fuel v _ pin).andThen
        (parseObject_inside parse)
    intro hP11
    rw [Bool.not_eq_true] at hP11
    rw [hP11]
    exact .ite (fun _ => hMias)
      (fun _ => .of_inside (.pure _))
  cases call with
  | x509CrtParse path pin =>
      exact hParse path pin lib.x509CrtParse _
        (miasCertificate_judged lib port fuel v _)
  | pkParse path pin =>
      exact hParse path pin lib.pkParseKey _
        (miasKey_judged lib port fuel v _)
  | rsaAltDecrypt ctx input =>
      exact withMias_judged port fuel _
        (decryptWithKey_inside port fuel _ _)
  | rsaAltSign ctx mdAlg hash =>
      exact rsaAltSign_judged port fuel ctx mdAlg hash

end Se

end TrustOnboard

------------------------------------------------------------
-- Sessions
------------------------------------------------------------

namespace TrustOnboard

namespace Se

variable {K : Type}

/-
  A call with what it finds: the state before it and the
  variables that are not initialised; and with what it leads
  to: the state after it and what happened in between.
-/
structure Turn (K : Type) where
  call : Call
  uninitialised : Uninitialised
  before : Sys K
  events : List Event
  after : Sys K

/- The commands of a call and their answers. -/
def Turn.answers (t : Turn K) : List (Bytes × Reply) :=
  Se.answers none (exchanges t.events)

/- A call that returned. -/
def Turn.Ran
    (lib : Mbedtls)
    (port : Port K)
    (t : Turn K) : Prop :=
  ∃ code,
    Prog.Returns (t.call.code lib port t.uninitialised)
      ⟨t.before, []⟩ code ⟨t.after, t.events⟩

/- Calls one after the other. -/
inductive Session
    (lib : Mbedtls)
    (port : Port K) : Sys K → List (Turn K) → Prop where
  | done (s : Sys K) : Session lib port s []
  | call
      (t : Turn K)
      (turns : List (Turn K))
      (hRan : t.Ran lib port)
      (hRest : Session lib port t.after turns) :
      Session lib port t.before (t :: turns)

/-
  The channels that were opened during a call are closed, and
  no applet is left selected.
-/
def Turn.Settled (t : Turn K) : Prop :=
  Balanced t.answers ∧ Clean t.after

/-
  Whenever the card opened a channel in a call it sent the
  number of the channel.  If it then selected the applet, the
  call is none that reads an object by its label.  If it did
  not, the data that came with the channel did not mark the
  applet selected, or marked it as one on the basic channel
  too and the call is none that reads an object by its label.
-/
def Turn.Fair (t : Turn K) : Prop :=
  Se.Fair (t.before.applets t.call.applet)
    (! t.call.readsP11) t.answers

/- From a clean state a call settles if it is fair. -/
theorem Turn.settled_iff
    {lib : Mbedtls}
    {port : Port K}
    {t : Turn K}
    (hClean : Clean t.before)
    (hRan : t.Ran lib port)
    (hCloses : Closes t.answers) :
    t.Settled ↔ t.Fair := by
  rcases hRan with ⟨code, fuel, hRun⟩
  rcases t.call.judged lib port t.uninitialised fuel
    ⟨t.before, []⟩ code ⟨t.after, t.events⟩ hClean hRun with
    ⟨l, hAnswered, hVerdict⟩
  have hAll : t.answers = l := hAnswered.all
  unfold Settled Fair
  rw [hAll] at hCloses ⊢
  exact hVerdict hCloses

/-
  For every card that answers 9000 whenever a channel is
  closed, and every sequence of calls from a state in which
  no applet is selected: each call closes the channels it has
  opened, once each, and leaves no applet selected, exactly
  if each call is fair.
-/
theorem channels_balanced_iff
    (lib : Mbedtls)
    (port : Port K)
    (s : Sys K)
    (hFresh : Clean s)
    (turns : List (Turn K))
    (hSession : Session lib port s turns)
    (hCloses : ∀ t ∈ turns, Closes t.answers) :
    (∀ t ∈ turns, t.Settled) ↔ ∀ t ∈ turns, t.Fair := by
  induction hSession with
  | done s =>
      exact iff_of_true (fun t ht => by cases ht)
        (fun t ht => by cases ht)
  | call t turns hRan hRest ih =>
      have hTurn := Turn.settled_iff hFresh hRan
        (hCloses t List.mem_cons_self)
      have hOthers : ∀ t ∈ turns, Closes t.answers :=
        fun t ht => hCloses t (List.mem_cons_of_mem _ ht)
      rw [List.forall_mem_cons, List.forall_mem_cons]
      constructor
      · rintro ⟨hSettled, hLater⟩
        exact ⟨hTurn.mp hSettled,
          (ih hSettled.2 hOthers).mp hLater⟩
      · rintro ⟨hFair, hLater⟩
        have hSettled := hTurn.mpr hFair
        exact ⟨hSettled,
          (ih hSettled.2 hOthers).mpr hLater⟩

end Se

end TrustOnboard

------------------------------------------------------------
-- Two Calls
------------------------------------------------------------

namespace TrustOnboard

namespace Se

/- A card that grants whatever it is asked for. -/
def grantingCard : Port Unit where
  transmitApdu command _ :=
    if command = openChannel then
      (⟨true, [0x01, 0x90, 0x00], by decide⟩, ())
    else
      (⟨true, [0x90, 0x00], success_fits⟩, ())

/- Parsers that accept nothing. -/
def strictMbedtls : Mbedtls where
  x509CrtParse _ := -1
  pkParseKey _ := -1
  pkSetupRsaAlt _ := -1

/- The call on that card, with one round for a command. -/
def grantedRun
    (s : Sys Unit)
    (call : Call) : Option Int × Run Unit :=
  (call.code strictMbedtls grantingCard
    ⟨0, 0, 0, 0, 0, fun _ => 0, none⟩ 1).run ⟨s, []⟩

def grantedTurn
    (s : Sys Unit)
    (call : Call) : Turn Unit where
  call := call
  uninitialised := ⟨0, 0, 0, 0, 0, fun _ => 0, none⟩
  before := s
  events := (grantedRun s call).2.log
  after := (grantedRun s call).2.st

/- No applet is selected yet. -/
def Sys.idle : Sys Unit :=
  { Sys.start () with
    applets := fun _ =>
      { isSelected := false, isBasic := false, channel := 0 } }

/- A key from a file, and then a key by its label. -/
def efTurn : Turn Unit :=
  grantedTurn Sys.idle (.pkParse efScheme [])

def p11Turn : Turn Unit :=
  grantedTurn efTurn.after (.pkParse p11Scheme [])

theorem session_granted :
    Session strictMbedtls grantingCard Sys.idle
      [efTurn, p11Turn] := by
  have hEf : (grantedRun Sys.idle (.pkParse efScheme [])).1 =
      some errEfReadObject := by decide
  have hP11 :
      (grantedRun efTurn.after (.pkParse p11Scheme [])).1 =
        some errMiasReadObject := by decide
  exact .call efTurn [p11Turn]
    ⟨_, 1, Prog.run_of_returns hEf⟩
    (.call p11Turn [] ⟨_, 1, Prog.run_of_returns hP11⟩
      (.done _))

/- Every command of the two calls goes through. -/
theorem closes_granted :
    ∀ t ∈ [efTurn, p11Turn], Closes t.answers := by
  have hAll : ∀ t ∈ [efTurn, p11Turn], ∀ e ∈ t.answers,
      e.2.succeeded = true := by decide
  exact fun t ht e he _ _ => hAll t ht e he

/- The channel of the object is not closed. -/
theorem p11_channel_stays_open :
    ¬ ∀ (lib : Mbedtls) (port : Port Unit) (s : Sys Unit)
        (turns : List (Turn Unit)),
      Clean s →
      Session lib port s turns →
      (∀ t ∈ turns, Closes t.answers) →
      ∀ t ∈ turns, t.Settled := by
  intro hAll
  have hSettled := hAll strictMbedtls grantingCard Sys.idle
    [efTurn, p11Turn] (fun _ => rfl) session_granted
    closes_granted p11Turn (by simp)
  exact absurd hSettled.1 (by decide)

theorem channels_balanced_iff_granted :
    ((∀ t ∈ [efTurn, p11Turn], t.Settled) ↔
        ∀ t ∈ [efTurn, p11Turn], t.Fair) ∧
      Balanced efTurn.answers ∧
      ¬ Balanced p11Turn.answers := by
  refine ⟨?_, by decide, by decide⟩
  exact channels_balanced_iff strictMbedtls grantingCard
    Sys.idle (fun _ => rfl) [efTurn, p11Turn] session_granted
    closes_granted

end Se

end TrustOnboard
