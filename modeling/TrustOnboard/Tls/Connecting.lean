import TrustOnboard.Memory.Text
import TrustOnboard.Program.Triple
import TrustOnboard.Mqtt.Types
import TrustOnboard.Tls.Wrapper

/-
  Setting up a connection, `network_mbedtls_wrapper.c`.

  The calls of the library below are a parameter.  Whatever
  they return, a connection is only reported where the
  handshake came to its end behind the whole set-up, with the
  verification the caller asks for, and where the result of
  that verification is clean.

  Key definitions include:
    * `LibCall`
    * `setupSteps`
    * `iotTlsConnect`
    * `Transcript`

  Key results include:
    * `iotTlsConnect_transcript`
    * `iotTlsConnect_accepts_iff`
-/

------------------------------------------------------------
-- The Calls Of The Library
------------------------------------------------------------

namespace TrustOnboard

namespace Tls

open Mqtt (IoTError)

/- `TLSConnectParams`. -/
structure TLSConnectParams where
  pRootCALocation : Bytes
  pDeviceCertLocation : Bytes
  pDevicePrivateKeyLocation : Bytes
  pDestinationURL : Bytes
  destinationPort : UInt16
  timeoutMs : UInt32
  serverVerificationFlag : Bool

/- `MBEDTLS_SSL_VERIFY_REQUIRED` and the optional one. -/
inductive AuthMode where
  | required
  | optional
  deriving DecidableEq, Repr

/-
  A call of the library, with what it is told.  The device
  certificate and its key come from the secure element or
  from a text, whichever the program is built for.
-/
inductive LibCall where
  | netInit
  | sslInit
  | configInit
  | ctrDrbgInit
  | cacertInit
  | clicertInit
  | pkInit
  | entropyInit
  | ctrDrbgSeed
  | parseRootCA (location : Bytes)
  | parseDeviceCert (location : Bytes)
  | parsePrivateKey (location : Bytes)
  | netConnect (url : Bytes) (portBuffer : Bytes)
  | netSetBlock
  | configDefaults
  | confVerify
  | confAuthmode (mode : AuthMode)
  | confRng
  | confCaChain
  | confOwnCert
  | confReadTimeout (ms : UInt32)
  | setup
  | setHostname (url : Bytes)
  | setBio
  | handshake
  | getVerifyResult
  deriving DecidableEq, Repr

/- A call that was made, and its value if it has one. -/
structure Called where
  call : LibCall
  ret : Int
  deriving DecidableEq, Repr

/- The library, over a private state. -/
structure Library (E : Type) where
  call : LibCall → E → Int × E

variable {E : Type}

def libCall
    (lib : Library E)
    (c : LibCall) : Prog E Called Int :=
  Prog.step (fun e =>
    let r := lib.call c e
    (r.1, r.2, [⟨c, r.1⟩]))

end Tls

end TrustOnboard

------------------------------------------------------------
-- Connecting
------------------------------------------------------------

namespace TrustOnboard

namespace Tls

open Mqtt (IoTError)

variable {E : Type}

/- A call, and the code that a value of it ends the set-up with. -/
structure Step where
  call : LibCall
  refusal : Int → Option IoTError

/- A call whose value nobody looks at. -/
def proceed (c : LibCall) : Step where
  call := c
  refusal := fun _ => none

/- A call that has to return zero. -/
def unlessZero (c : LibCall) (rc : IoTError) : Step where
  call := c
  refusal := fun ret => if ret ≠ 0 then some rc else none

/- What the failures of `mbedtls_net_connect` are reported as. -/
def netConnectRefusal (ret : Int) : Option IoTError :=
  if ret ≠ 0 then
    if ret = -0x0042 then some .networkErrNetSocketFailed
    else if ret = -0x0052 then some .networkErrNetUnknownHost
    else some .networkErrNetConnectFailed
  else none

/- The calls of `iot_tls_connect` up to the handshake. -/
def setupSteps (params : TLSConnectParams) : List Step :=
  [ proceed .netInit,
    proceed .sslInit,
    proceed .configInit,
    proceed .ctrDrbgInit,
    proceed .cacertInit,
    proceed .clicertInit,
    proceed .pkInit,
    proceed .entropyInit,
    unlessZero .ctrDrbgSeed
      .networkMbedtlsErrCtrDrbgEntropySourceFailed,
    { call := .parseRootCA params.pRootCALocation
      refusal := fun ret =>
        -- a positive value counts certificates that were skipped
        if ret < 0 then some .networkX509RootCrtParseError
        else none },
    unlessZero (.parseDeviceCert params.pDeviceCertLocation)
      .networkX509DeviceCrtParseError,
    unlessZero
      (.parsePrivateKey params.pDevicePrivateKeyLocation)
      .networkPkPrivateKeyParseError,
    { call :=
        .netConnect params.pDestinationURL
          (decimal params.destinationPort.toNat)
      refusal := netConnectRefusal },
    unlessZero .netSetBlock .sslConnectionError,
    unlessZero .configDefaults .sslConnectionError,
    proceed .confVerify,
    proceed
      (.confAuthmode
        (if params.serverVerificationFlag then .required
          else .optional)),
    proceed .confRng,
    proceed .confCaChain,
    unlessZero .confOwnCert .sslConnectionError,
    proceed (.confReadTimeout params.timeoutMs),
    unlessZero .setup .sslConnectionError,
    unlessZero (.setHostname params.pDestinationURL)
      .sslConnectionError,
    proceed .setBio ]

/- Make the calls up to the first that refuses. -/
def performSteps
    (lib : Library E) :
    List Step → Prog E Called (Option IoTError)
  | [] => pure none
  | s :: steps => do
      let ret ← libCall lib s.call
      match s.refusal ret with
      | some rc => pure (some rc)
      | none => performSteps lib steps

/-
  The handshake is called again while it wants to read or to
  write: whether it came to its end.
-/
def shakeHands
    (lib : Library E)
    (fuel : Nat) : Prog E Called Bool :=
  Prog.loop fuel
    (fun (_ : Unit) => do
      let ret ← libCall lib .handshake
      if ret ≠ 0 then
        if ret ≠ wantRead ∧ ret ≠ wantWrite then
          pure (.inr false)
        else
          pure (.inl ())
      else
        pure (.inr true))
    ()

/- `IOT_SSL_READ_TIMEOUT`. -/
def iotSslReadTimeout : UInt32 := 10

/- The result of the verification, where it is asked for. -/
def checkPeer
    (lib : Library E)
    (params : TLSConnectParams) : Prog E Called IoTError :=
  if params.serverVerificationFlag then do
    let flags ← libCall lib .getVerifyResult
    if flags ≠ 0 then
      pure .sslConnectionError
    else
      pure .success
  else
    pure .success

/- What stands behind the handshake. -/
def verifyPeer
    (lib : Library E)
    (params : TLSConnectParams) : Prog E Called IoTError := do
  let rc ← checkPeer lib params
  let _ ← libCall lib (.confReadTimeout iotSslReadTimeout)
  pure rc

/- `iot_tls_connect`. -/
def iotTlsConnect
    (lib : Library E)
    (fuel : Nat)
    (params : TLSConnectParams) : Prog E Called IoTError := do
  let refused ← performSteps lib (setupSteps params)
  match refused with
  | some rc => pure rc
  | none => do
      let done ← shakeHands lib fuel
      if done then
        verifyPeer lib params
      else
        pure .sslConnectionError

end Tls

end TrustOnboard

------------------------------------------------------------
-- What A Connection Rests On
------------------------------------------------------------

namespace TrustOnboard

namespace Tls

open Mqtt (IoTError)

variable {E : Type}
variable {l : List Called}

/- The calls of some steps, each with a value that passes. -/
def Passed (steps : List Step) (es : List Called) : Prop :=
  List.Forall₂
    (fun s e => e.call = s.call ∧ s.refusal e.ret = none)
    steps es

/- A round of the handshake after which there is another. -/
def Waits (e : Called) : Prop :=
  e.call = .handshake ∧
    (e.ret = wantRead ∨ e.ret = wantWrite)

/-
  What a handshake that returned `ret` ends with, and what is
  called behind it.
-/
inductive Verdict
    (params : TLSConnectParams) :
    (ret : Int) → IoTError → List Called → Prop where
  | broken
      (ret : Int)
      (hRet : ret ≠ 0) :
      Verdict params ret .sslConnectionError []
  | judged
      (flags value : Int)
      (hAsked : params.serverVerificationFlag = true) :
      Verdict params 0
        (if flags = 0 then .success else .sslConnectionError)
        [⟨.getVerifyResult, flags⟩,
          ⟨.confReadTimeout iotSslReadTimeout, value⟩]
  | unasked
      (value : Int)
      (hAsked : params.serverVerificationFlag = false) :
      Verdict params 0 .success
        [⟨.confReadTimeout iotSslReadTimeout, value⟩]

/-
  What is called for each result, in order: up to a step that
  refuses, or all steps and the handshake with its rounds.
-/
inductive Transcript
    (params : TLSConnectParams) :
    IoTError → List Called → Prop where
  | refused
      (before after : List Step)
      (s : Step)
      (es : List Called)
      (ret : Int)
      (rc : IoTError)
      (hSteps : setupSteps params = before ++ s :: after)
      (hPassed : Passed before es)
      (hRefused : s.refusal ret = some rc) :
      Transcript params rc (es ++ [⟨s.call, ret⟩])
  | shook
      (es rounds tail : List Called)
      (ret : Int)
      (rc : IoTError)
      (hPassed : Passed (setupSteps params) es)
      (hRounds : ∀ e ∈ rounds, Waits e)
      (hVerdict : Verdict params ret rc tail) :
      Transcript params rc
        (es ++ (rounds ++ ⟨.handshake, ret⟩ :: tail))

/- The calls since a point, in order. -/
def Since
    (l : List Called)
    (P : List Called → Prop)
    (w : World E Called) : Prop :=
  ∃ es, w.log = es.reverse ++ l ∧ P es

/- One call more. -/
theorem libCall_since
    (lib : Library E)
    (c : LibCall)
    {P : List Called → Prop} :
    Triple (Contract.plain E Called) (Since l P)
      (libCall lib c)
      (fun ret =>
        Since l (fun es =>
          ∃ es', es = es' ++ [⟨c, ret⟩] ∧ P es')) := by
  apply Triple.step
  rintro w ⟨es, hLog, hP⟩
  right
  refine ⟨es ++ [⟨c, (lib.call c w.st).1⟩], ?_, es, rfl, hP⟩
  dsimp only
  rw [hLog, List.reverse_append]
  rfl

/- The steps of the set-up. -/
theorem performSteps_since
    (lib : Library E)
    (steps : List Step) :
    ∀ before,
      Triple (Contract.plain E Called)
        (Since l (Passed before))
        (performSteps lib steps)
        (fun refused =>
          Since l (fun es =>
            match refused with
            | none => Passed (before ++ steps) es
            | some rc =>
                ∃ done s after es' ret,
                  before ++ steps = done ++ s :: after ∧
                    es = es' ++ [⟨s.call, ret⟩] ∧
                      Passed done es' ∧
                        s.refusal ret = some rc)) := by
  induction steps with
  | nil =>
      intro before
      apply Triple.pure
      rintro w ⟨es, hLog, hP⟩
      rw [List.append_nil]
      exact ⟨es, hLog, hP⟩
  | cons s steps ih =>
      intro before
      refine (libCall_since lib s.call).bind ?_
      intro ret
      cases hRefusal : s.refusal ret with
      | some rc =>
          apply Triple.pure
          rintro w ⟨es, hLog, es', hEq, hP⟩
          exact
            ⟨es, hLog, before, s, steps, es', ret, rfl, hEq,
              hP, hRefusal⟩
      | none =>
          rw [List.append_cons before s steps]
          apply (ih (before ++ [s])).pre
          rintro w ⟨es, hLog, es', rfl, hP⟩
          refine ⟨_, hLog, ?_⟩
          exact
            List.rel_append hP
              (.cons ⟨rfl, hRefusal⟩ .nil)

/- The rounds of the handshake. -/
theorem shakeHands_since
    (lib : Library E)
    (fuel : Nat)
    (P : List Called → Prop) :
    Triple (Contract.plain E Called) (Since l P)
      (shakeHands lib fuel)
      (fun done =>
        Since l (fun es =>
          ∃ es' rounds ret,
            es = es' ++ (rounds ++ [⟨.handshake, ret⟩]) ∧
              P es' ∧ (∀ e ∈ rounds, Waits e) ∧
                (done = true ↔ ret = 0))) := by
  refine
    Triple.pre
      (Triple.loop
        (fun _ =>
          Since l (fun es =>
            ∃ es' rounds,
              es = es' ++ rounds ∧ P es' ∧
                ∀ e ∈ rounds, Waits e))
        (fun _ _ _ => trivial) ?_) ?_
  · intro _
    refine (libCall_since lib .handshake).bind ?_
    intro ret
    apply Triple.ite
    · intro hSome
      apply Triple.ite
      · intro _
        apply Triple.pure
        rintro w ⟨es, hLog, _, rfl, es', rounds, rfl, hP,
          hRounds⟩
        refine
          ⟨_, hLog, es', rounds, ret,
            List.append_assoc _ _ _, hP, hRounds, ?_⟩
        exact iff_of_false nofun hSome
      · intro hWant
        apply Triple.pure
        rintro w ⟨es, hLog, _, rfl, es', rounds, rfl, hP,
          hRounds⟩
        refine
          ⟨_, hLog, es', rounds ++ [⟨.handshake, ret⟩],
            List.append_assoc _ _ _, hP, ?_⟩
        intro e he
        rcases List.mem_append.mp he with he | he
        · exact hRounds e he
        · rw [List.mem_singleton.mp he]
          refine ⟨rfl, ?_⟩
          by_contra hNo
          exact hWant (not_or.mp hNo)
    · intro hNone
      apply Triple.pure
      rintro w ⟨es, hLog, _, rfl, es', rounds, rfl, hP,
        hRounds⟩
      exact
        ⟨_, hLog, es', rounds, ret, List.append_assoc _ _ _,
          hP, hRounds,
          iff_of_true rfl (not_not.mp hNone)⟩
  · rintro w ⟨es, hLog, hP⟩
    exact
      ⟨es, hLog, es, [], (List.append_nil _).symm, hP, nofun⟩

/- What stands behind a handshake that came to its end. -/
theorem verifyPeer_since
    (lib : Library E)
    (params : TLSConnectParams)
    (P : List Called → Prop) :
    Triple (Contract.plain E Called) (Since l P)
      (verifyPeer lib params)
      (fun rc =>
        Since l (fun es =>
          ∃ es' tail,
            es = es' ++ tail ∧ P es' ∧
              Verdict params 0 rc tail)) := by
  refine
    Triple.bind
      (M := fun rc =>
        Since l (fun es =>
          ∃ es' tail,
            es = es' ++ tail ∧ P es' ∧
              ∀ value,
                Verdict params 0 rc
                  (tail ++
                    [⟨.confReadTimeout iotSslReadTimeout,
                      value⟩]))) ?_ ?_
  · apply Triple.ite
    · intro hAsked
      refine (libCall_since lib .getVerifyResult).bind ?_
      intro flags
      have hJudged :
          ∀ value,
            Verdict params 0
              (if flags = 0 then .success
                else .sslConnectionError)
              ([⟨.getVerifyResult, flags⟩] ++
                [⟨.confReadTimeout iotSslReadTimeout,
                  value⟩]) :=
        fun value => .judged flags value hAsked
      apply Triple.ite
      · intro hSome
        apply Triple.pure
        rintro w ⟨es, hLog, es', rfl, hP⟩
        rw [if_neg hSome] at hJudged
        exact ⟨_, hLog, es', _, rfl, hP, hJudged⟩
      · intro hNone
        apply Triple.pure
        rintro w ⟨es, hLog, es', rfl, hP⟩
        rw [if_pos (not_not.mp hNone)] at hJudged
        exact ⟨_, hLog, es', _, rfl, hP, hJudged⟩
    · intro hAsked
      apply Triple.pure
      rintro w ⟨es, hLog, hP⟩
      refine
        ⟨es, hLog, es, [], (List.append_nil es).symm, hP, ?_⟩
      intro value
      exact .unasked value (Bool.not_eq_true _ ▸ hAsked)
  · intro rc
    refine (libCall_since lib _).bind ?_
    intro value
    apply Triple.pure
    rintro w ⟨es, hLog, _, rfl, es', tail, rfl, hP, hVerdict⟩
    exact
      ⟨_, hLog, es', _, List.append_assoc _ _ _, hP,
        hVerdict value⟩

/- Every set-up that returns has a transcript. -/
theorem iotTlsConnect_transcript
    (lib : Library E)
    (fuel : Nat)
    (params : TLSConnectParams) :
    Triple (Contract.plain E Called) (fun w => w.log = l)
      (iotTlsConnect lib fuel params)
      (fun rc => Since l (Transcript params rc)) := by
  refine
    Triple.bind
      ((performSteps_since (l := l) lib (setupSteps params)
        []).pre
        ?_) ?_
  · intro w hLog
    exact ⟨[], hLog, .nil⟩
  intro refused
  cases refused with
  | some rc =>
      apply Triple.pure
      rintro w ⟨es, hLog, before, s, after, es', ret, hSteps,
        rfl, hPassed, hRefused⟩
      exact
        ⟨_, hLog,
          .refused before after s es' ret rc hSteps hPassed
            hRefused⟩
  | none =>
      refine (shakeHands_since lib fuel _).bind ?_
      intro done
      cases done with
      | false =>
          apply Triple.pure
          rintro w ⟨_, hLog, es', rounds, ret, rfl, hPassed,
            hRounds, hDone⟩
          refine
            ⟨_, hLog,
              .shook es' rounds [] ret _ hPassed hRounds
                (.broken ret ?_)⟩
          intro hZero
          cases hDone.mpr hZero
      | true =>
          apply (verifyPeer_since lib params _).post
          rintro rc w ⟨_, hLog, _, tail, rfl,
            ⟨es', rounds, ret, rfl, hPassed, hRounds, hDone⟩,
            hVerdict⟩
          obtain rfl := hDone.mp rfl
          refine ⟨_, hLog, ?_⟩
          rw [List.append_assoc, List.append_assoc,
            List.singleton_append]
          exact
            .shook es' rounds tail 0 rc hPassed hRounds
              hVerdict

/- No step of the set-up shakes hands or asks for a result. -/
theorem setupSteps_call
    {params : TLSConnectParams}
    {s : Step}
    (hStep : s ∈ setupSteps params) :
    s.call ≠ .handshake ∧ s.call ≠ .getVerifyResult := by
  revert s
  simp [setupSteps, proceed, unlessZero]

/- A step never refuses with success. -/
def Step.Honest (s : Step) : Prop :=
  ∀ ret, s.refusal ret ≠ some .success

theorem proceed_honest (c : LibCall) :
    (proceed c).Honest :=
  fun _ => nofun

theorem unlessZero_honest
    (c : LibCall)
    {rc : IoTError}
    (hOther : rc ≠ .success) :
    (unlessZero c rc).Honest := by
  intro ret
  unfold unlessZero
  dsimp only
  split
  · intro hEq
    exact hOther (Option.some.inj hEq)
  · exact nofun

theorem netConnectRefusal_ne
    (ret : Int) :
    netConnectRefusal ret ≠ some .success := by
  unfold netConnectRefusal
  split
  · split
    · exact nofun
    split
    · exact nofun
    · exact nofun
  · exact nofun

theorem setupSteps_honest
    (params : TLSConnectParams) :
    ∀ s ∈ setupSteps params, s.Honest := by
  have hRoot :
      ∀ ret : Int,
        (if ret < 0 then
            some IoTError.networkX509RootCrtParseError
          else none) ≠ some .success := by
    intro ret
    split
    · exact nofun
    · exact nofun
  have hCode := unlessZero_honest
  simp only [setupSteps, List.forall_mem_cons]
  exact
    ⟨proceed_honest _, proceed_honest _, proceed_honest _,
      proceed_honest _, proceed_honest _, proceed_honest _,
      proceed_honest _, proceed_honest _, hCode _ nofun,
      hRoot, hCode _ nofun, hCode _ nofun,
      netConnectRefusal_ne, hCode _ nofun, hCode _ nofun,
      proceed_honest _, proceed_honest _, proceed_honest _,
      proceed_honest _, hCode _ nofun, proceed_honest _,
      hCode _ nofun, hCode _ nofun, proceed_honest _, nofun⟩

/- The calls that passed are those of the steps. -/
theorem Passed.exists_step
    {steps : List Step}
    {es : List Called}
    (hPassed : Passed steps es)
    {e : Called}
    (hMem : e ∈ es) :
    ∃ s ∈ steps, e.call = s.call := by
  induction hPassed with
  | nil => cases hMem
  | @cons s e' steps es hHere _ ih =>
      rcases List.mem_cons.mp hMem with rfl | hMem
      · exact ⟨s, List.mem_cons_self, hHere.1⟩
      · rcases ih hMem with ⟨s', hStep, hCall⟩
        exact ⟨s', List.mem_cons_of_mem _ hStep, hCall⟩

/- Steps of the set-up that passed have no handshake. -/
theorem Passed.call
    {params : TLSConnectParams}
    {steps : List Step}
    {es : List Called}
    (hPassed : Passed steps es)
    (hSub : ∀ s ∈ steps, s ∈ setupSteps params)
    {e : Called}
    (hMem : e ∈ es) :
    e.call ≠ .handshake ∧ e.call ≠ .getVerifyResult := by
  rcases hPassed.exists_step hMem with ⟨s, hStep, hCall⟩
  rw [hCall]
  exact setupSteps_call (hSub s hStep)

/- Success is for a handshake that ended, and a clean result. -/
theorem Transcript.success_iff
    {params : TLSConnectParams}
    {rc : IoTError}
    {es : List Called}
    (hTranscript : Transcript params rc es) :
    rc = .success ↔
      ⟨.handshake, 0⟩ ∈ es ∧
        (params.serverVerificationFlag = true →
          ⟨.getVerifyResult, 0⟩ ∈ es) := by
  cases hTranscript with
  | refused before after s es ret rc hSteps hPassed
      hRefused =>
      have hStep : s ∈ setupSteps params := by
        rw [hSteps]
        exact List.mem_append_right _ List.mem_cons_self
      have hSub : ∀ s' ∈ before, s' ∈ setupSteps params := by
        intro s' hMem
        rw [hSteps]
        exact List.mem_append_left _ hMem
      apply iff_of_false
      · rintro rfl
        exact setupSteps_honest params s hStep ret hRefused
      · rintro ⟨hMem, _⟩
        rcases List.mem_append.mp hMem with hMem | hMem
        · exact (hPassed.call hSub hMem).1 rfl
        · have hEq := List.mem_singleton.mp hMem
          exact
            (setupSteps_call hStep).1
              (congrArg Called.call hEq).symm
  | shook es rounds tail ret rc hPassed hRounds hVerdict =>
      have hBefore :
          ∀ c : Called,
            c = ⟨.handshake, 0⟩ ∨ c = ⟨.getVerifyResult, 0⟩ →
              c ∉ es ∧ c ∉ rounds := by
        intro c hEither
        constructor
        · intro hMem
          have hCall := hPassed.call (fun _ h => h) hMem
          rcases hEither with rfl | rfl
          · exact hCall.1 rfl
          · exact hCall.2 rfl
        · intro hMem
          rcases hRounds c hMem with ⟨hCall, hRet⟩
          rcases hEither with rfl | rfl
          · revert hRet
            decide
          · cases hCall
      have hShook := hBefore ⟨.handshake, 0⟩ (Or.inl rfl)
      have hAsked :=
        hBefore ⟨.getVerifyResult, 0⟩ (Or.inr rfl)
      simp only [List.mem_append, List.mem_cons, hShook,
        hAsked, false_or]
      cases hVerdict with
      | broken _ hRet =>
          have hNo : ¬ 0 = ret := fun hEq => hRet hEq.symm
          simp [hNo]
      | judged flags value hFlag =>
          by_cases hClean : flags = 0
          · simp [hClean]
          · simp [hClean, hFlag, Ne.symm hClean]
      | unasked value hFlag =>
          simp [hFlag]

/-
  Whenever the handshake is called, the whole set-up has
  passed in its order, and nothing but calls of the handshake
  came since.
-/
def SetUp
    (params : TLSConnectParams)
    (earlier : List Called) : Prop :=
  ∃ es rounds,
    earlier = rounds ++ es.reverse ∧
      Passed (setupSteps params) es ∧
        ∀ e ∈ rounds, Waits e

/- An event of two logs in a row is in one of them. -/
theorem split_append
    {xs ys later earlier : List Called}
    {e : Called}
    (hEq : xs ++ ys = later ++ e :: earlier) :
    (∃ a, xs = later ++ e :: a ∧ earlier = a ++ ys) ∨
      ∃ b, later = xs ++ b ∧ ys = b ++ e :: earlier := by
  rcases List.append_eq_append_iff.mp hEq with
    ⟨b, hLater, hYs⟩ | ⟨a, hXs, hRest⟩
  · exact Or.inr ⟨b, hLater, hYs⟩
  · cases a with
    | nil =>
        refine Or.inr ⟨[], ?_, hRest.symm⟩
        rw [hXs]
        simp
    | cons e' a =>
        cases hRest
        exact Or.inl ⟨a, hXs, rfl⟩

/- The handshake is only called behind the set-up. -/
theorem Transcript.setUp
    {params : TLSConnectParams}
    {rc : IoTError}
    {es : List Called}
    (hTranscript : Transcript params rc es)
    {later earlier : List Called}
    {ret : Int}
    (hSplit :
      es.reverse = later ++ ⟨.handshake, ret⟩ :: earlier) :
    SetUp params earlier := by
  cases hTranscript with
  | refused before after s es value rc hSteps hPassed
      hRefused =>
      exfalso
      have hMem :
          (⟨.handshake, ret⟩ : Called) ∈
            es ++ [⟨s.call, value⟩] := by
        rw [← List.mem_reverse, hSplit]
        exact List.mem_append_right _ List.mem_cons_self
      have hSub : ∀ s' ∈ before ++ s :: after,
          s' ∈ setupSteps params := by
        intro s' hStep
        rw [hSteps]
        exact hStep
      rcases List.mem_append.mp hMem with hMem | hMem
      · have hFront : ∀ s' ∈ before, s' ∈ setupSteps params :=
          fun s' hStep =>
            hSub s' (List.mem_append_left _ hStep)
        exact (hPassed.call hFront hMem).1 rfl
      · have hHere : s ∈ setupSteps params :=
          hSub s (List.mem_append_right _ List.mem_cons_self)
        exact
          (setupSteps_call hHere).1
            (congrArg Called.call
              (List.mem_singleton.mp hMem)).symm
  | shook es rounds tail last rc hPassed hRounds hVerdict =>
      have hTail : ∀ e ∈ tail, e.call ≠ .handshake := by
        cases hVerdict with
        | broken _ _ => exact nofun
        | judged flags value _ => simp
        | unasked value _ => simp
      rw [List.reverse_append, List.reverse_append,
        List.reverse_cons, List.append_assoc,
        List.append_assoc] at hSplit
      rcases split_append hSplit with
        ⟨a, hIn, _⟩ | ⟨b, _, hRest⟩
      · -- nothing behind the last handshake is one
        have hMem :
            (⟨.handshake, ret⟩ : Called) ∈ tail.reverse := by
          rw [hIn]
          exact List.mem_append_right _ List.mem_cons_self
        exact
          absurd rfl (hTail _ (List.mem_reverse.mp hMem))
      rcases split_append hRest with
        ⟨a, hIn, hEarlier⟩ | ⟨b', _, hRest⟩
      · -- the last handshake
        have hNil : a = [] := by
          have hLength := congrArg List.length hIn
          simp only [List.length_append, List.length_cons,
            List.length_nil] at hLength
          apply List.eq_nil_of_length_eq_zero
          omega
        rw [hNil, List.nil_append] at hEarlier
        exact
          ⟨es, rounds.reverse, hEarlier, hPassed,
            fun e he => hRounds e (List.mem_reverse.mp he)⟩
      rcases split_append hRest with
        ⟨a, hIn, hEarlier⟩ | ⟨b'', _, hRest⟩
      · -- a round before it
        refine ⟨es, a, hEarlier, hPassed, ?_⟩
        intro e he
        apply hRounds e
        rw [← List.mem_reverse, hIn]
        exact
          List.mem_append_right _ (List.mem_cons_of_mem _ he)
      · -- the set-up itself has none
        have hMem :
            (⟨.handshake, ret⟩ : Called) ∈ es.reverse := by
          rw [hRest]
          exact List.mem_append_right _ List.mem_cons_self
        exact
          absurd rfl
            (hPassed.call (fun _ h => h)
              (List.mem_reverse.mp hMem)).1

/-
  A connection is reported if and only if a handshake came to
  its end and, where verification is asked for, its result was
  asked for and is clean.  No handshake is tried before the
  whole set-up has passed, which asks the library to require
  a certificate wherever the caller does.
-/
theorem iotTlsConnect_accepts_iff
    (lib : Library E)
    (fuel : Nat)
    (params : TLSConnectParams)
    (e : E)
    {rc : IoTError}
    {w : World E Called}
    (hRun :
      (iotTlsConnect lib fuel params).run ⟨e, []⟩ =
        (some rc, w)) :
    (rc = .success ↔
      ⟨.handshake, 0⟩ ∈ w.log ∧
        (params.serverVerificationFlag = true →
          ⟨.getVerifyResult, 0⟩ ∈ w.log)) ∧
      ∀ later ret earlier,
        w.log = later ++ ⟨.handshake, ret⟩ :: earlier →
          SetUp params earlier := by
  rcases (iotTlsConnect_transcript (l := []) lib fuel
      params).of_run rfl hRun with hNo | ⟨es, hLog, hScript⟩
  · exact hNo.elim
  rw [List.append_nil] at hLog
  rw [hLog]
  simp only [List.mem_reverse]
  exact ⟨hScript.success_iff, fun _ _ _ => hScript.setUp⟩

/- A library with which everything goes well. -/
def gladLibrary : Library Unit where
  call := fun _ e => (0, e)

/- A caller that asks for the verification of the server. -/
def carefulParams : TLSConnectParams where
  pRootCALocation := [67, 65]
  pDeviceCertLocation := [67]
  pDevicePrivateKeyLocation := [75]
  pDestinationURL := [97]
  destinationPort := 8883
  timeoutMs := 5000
  serverVerificationFlag := true

theorem iotTlsConnect_accepts_iff_careful :
    ∃ w,
      (iotTlsConnect gladLibrary 1 carefulParams).run
          ⟨(), []⟩ = (some .success, w) ∧
        ⟨.getVerifyResult, 0⟩ ∈ w.log ∧
          SetUp carefulParams (w.log.drop 3) := by
  have hRun :
      (iotTlsConnect gladLibrary 1 carefulParams).run
          ⟨(), []⟩ =
        (some .success,
          ((iotTlsConnect gladLibrary 1 carefulParams).run
            ⟨(), []⟩).2) := rfl
  have hAll :=
    iotTlsConnect_accepts_iff gladLibrary 1 carefulParams ()
      hRun
  refine ⟨_, hRun, (hAll.1.mp rfl).2 rfl, ?_⟩
  exact hAll.2 (_ :: [_]) 0 _ rfl

end Tls

end TrustOnboard
