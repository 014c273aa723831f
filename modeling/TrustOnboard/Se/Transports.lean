import TrustOnboard.Program.Relational
import TrustOnboard.At.Csim
import TrustOnboard.Se.Interface

/-
  The ways a command takes to the secure element.

  Over the connect shield a command travels as a line of text
  to a modem that has the card, `ConnectShield_SE.cpp`.  A
  card in a reader is reached through `PCSCAccess.cpp`, which
  repeats commands on its own.

  Key definitions include:
    * `connectShieldSe`
    * `Carries`
    * `Reply.hushed`
    * `Reader`
    * `pcscTransmitApdu`
    * `pcscTransmit`

  Key results include:
    * `connectShield_transmit`
    * `pcscTransmit_direct`
-/

------------------------------------------------------------
-- The Connect Shield
------------------------------------------------------------

namespace TrustOnboard

namespace Se

open At (Modem Device csimLine modemSendApdu AtEvent)

variable {M C : Type}

/- What fits in the response array. -/
def Reply.of (ok : Bool) (bytes : Bytes) : Reply where
  ok := ok
  bytes := bytes.take 258
  hFits := by simp

/-
  `ConnectShieldSE::transmitApdu`, with enough looks at the
  line for all that is going to come.
-/
def connectShieldSe (modem : Modem M) : Port (Device M) where
  transmitApdu apdu d :=
    let looks :=
      d.slots.length +
        (modem.hears (csimLine apdu) d.env).1.length + 1
    match (modemSendApdu modem looks apdu).run ⟨d, []⟩ with
    | (some ok, w) =>
        (.of ok (w.st.memory.load 0 w.st.length), w.st)
    | (none, w) => (.of false [], w.st)

/- A failure that looks like an empty response. -/
def Reply.hushed (r : Reply) : Reply :=
  if r.ok then r else .of true []

/- A card whose failures look like empty responses. -/
def Port.hushed (card : Port C) : Port C where
  transmitApdu apdu c :=
    ((card.transmitApdu apdu c).1.hushed,
      (card.transmitApdu apdu c).2)

/-
  A modem with a card inside: it answers a command that is
  not too long with the response of the card, or with an
  error where the card fails, and says nothing else that
  matters.
-/
structure Carries
    (modem : Modem M)
    (card : Port C)
    (inside : M → C) : Prop where
  answers :
    ∀ apdu m, apdu.length ≤ 256 →
      ∃ (a : At.CsimAnswer) (rest : Bytes),
        (modem.hears (csimLine apdu) m).1.text =
            a.text ++ rest ∧
          At.Passes AtEvent.isOther rest [] ∧
            a.response =
              (card.hushed.transmitApdu apdu (inside m)).1.bytes
  moves :
    ∀ apdu m, apdu.length ≤ 256 →
      inside (modem.hears (csimLine apdu) m).2 =
        (card.transmitApdu apdu (inside m)).2

/-
  A run over the modem and a run on the card inside it are at
  the same place.
-/
def Behind
    (inside : M → C)
    (w : Run (Device M))
    (v : Run C) : Prop :=
  v =
      ⟨{ iface := w.st.iface
         applets := w.st.applets
         keypairs := w.st.keypairs
         block := w.st.block
         record := w.st.record
         env := inside w.st.env.env },
        w.log⟩ ∧
    w.st.env.locked = false ∧
      At.Passes AtEvent.isOther w.st.env.slots.text []

/- The two runs with a command of this length at most. -/
def Ready
    (inside : M → C)
    (w : Run (Device M))
    (v : Run C) : Prop :=
  w.st.iface.apduLen ≤ 256 ∧ Behind inside w v

theorem Reply.hushed_ok
    (r : Reply) :
    r.hushed.ok = true := by
  unfold Reply.hushed
  split
  · assumption
  · rfl

variable {modem : Modem M}
variable {card : Port C}
variable {inside : M → C}

/- The connect shield hands over what the card replies. -/
theorem connectShieldSe_reply
    (hCarries : Carries modem card inside)
    {d : Device M}
    {apdu : Bytes}
    (hShort : apdu.length ≤ 256)
    (hFree : d.locked = false)
    (hIdle : At.Passes AtEvent.isOther d.slots.text []) :
    ((connectShieldSe modem).transmitApdu apdu d).1 =
        (card.hushed.transmitApdu apdu (inside d.env)).1 ∧
      ((connectShieldSe modem).transmitApdu apdu d).2.locked =
          false ∧
        At.Passes AtEvent.isOther
            ((connectShieldSe modem).transmitApdu apdu
              d).2.slots.text [] ∧
          inside
              ((connectShieldSe modem).transmitApdu apdu
                d).2.env =
            (card.hushed.transmitApdu apdu (inside d.env)).2 := by
  rcases hCarries.answers apdu d.env hShort with
    ⟨a, rest, hAnswer, hRest, hResponse⟩
  rcases
      At.modemSendApdu_run [] hShort hFree hIdle hAnswer
        (Nat.lt_succ_self _) with
    ⟨ss, l', hRun, hText, _⟩
  unfold connectShieldSe
  dsimp only
  rw [hRun]
  dsimp only
  have hFits : a.response.length ≤ 258 := by
    rw [hResponse]
    exact Reply.hFits _
  have hSmall :
      a.response.length % 2 ^ 16 = a.response.length :=
    Nat.mod_eq_of_lt (by omega)
  refine ⟨?_, rfl, ?_, hCarries.moves apdu d.env hShort⟩
  · have hOk :
        (card.hushed.transmitApdu apdu (inside d.env)).1.ok =
          true :=
      Reply.hushed_ok _
    rw [hSmall, Buffer.load_store_self]
    generalize
      (card.hushed.transmitApdu apdu (inside d.env)).1 = r
        at hResponse hOk
    rcases r with ⟨ok, bytes, hMost⟩
    dsimp only at hResponse hOk
    subst hOk
    subst hResponse
    simp only [Reply.of, Reply.mk.injEq, true_and]
    exact List.take_of_length_le hFits
  · rw [hText]
    exact hRest

/- A step on the interface alone is the same in both runs. -/
theorem setIface_behind
    {P : Run (Device M) → Run C → Prop}
    (f : SEInterface → SEInterface)
    (hBehind : ∀ w v, P w v → Behind inside w v)
    (hLength :
      ∀ w v, P w v → (f w.st.iface).apduLen ≤ 256) :
    Coupled P
      (setIface f : Code (Device M) Unit)
      (setIface f : Code C Unit)
      (fun _ _ => Ready inside) := by
  apply Coupled.step
  intro w v hP
  rcases hBehind w v hP with ⟨rfl, hFree, hIdle⟩
  exact ⟨hLength w _ hP, rfl, hFree, hIdle⟩

/- One command over the modem and on the card. -/
theorem transmitApdu_behind
    (hCarries : Carries modem card inside) :
    Coupled (Ready inside)
      (transmitApdu (connectShieldSe modem))
      (transmitApdu card.hushed)
      (fun ok ok' w v => ok = ok' ∧ Ready inside w v) := by
  apply Coupled.step
  rintro w v ⟨hLength, rfl, hFree, hIdle⟩
  have hShort : w.st.iface.command.length ≤ 256 := by
    unfold SEInterface.command
    rw [Buffer.length_load]
    exact hLength
  rcases
      connectShieldSe_reply hCarries hShort hFree hIdle with
    ⟨hReply, hFree', hIdle', hInside⟩
  dsimp only
  rw [hReply]
  refine ⟨rfl, hLength, ?_, hFree', hIdle'⟩
  rw [hInside]

/- The retry loop over the modem and on the card. -/
theorem transmit_behind
    (hCarries : Carries modem card inside)
    (fuel : Nat) :
    Coupled (Ready inside)
      (transmit (connectShieldSe modem) fuel)
      (transmit card.hushed fuel)
      (fun ok ok' w v => ok = ok' ∧ Behind inside w v) := by
  apply Coupled.loop (fun _ _ => Ready inside)
  intro _ _
  refine (transmitApdu_behind hCarries).bind ?_
  intro ok ok'
  apply Coupled.of_fact
  rintro rfl
  cases ok with
  | false => exact Coupled.ret (fun w v hReady => ⟨rfl, hReady.2⟩)
  | true =>
      simp only [not_true_eq_false, if_false]
      refine
        Coupled.bind
          (Q := fun i i' w v => i = i' ∧ Ready inside w v)
          (Coupled.step ?_) ?_
      · rintro w v ⟨hLength, rfl, hLine⟩
        exact ⟨rfl, hLength, rfl, hLine⟩
      intro i i'
      apply Coupled.of_fact
      rintro rfl
      by_cases hLe : i.answered 0x6C = true
      · rw [if_pos hLe, if_pos hLe]
        refine
          (setIface_behind (·.patch)
            (fun _ _ hReady => hReady.2)
            (fun _ _ hReady => hReady.1)).bind ?_
        intro _ _
        exact Coupled.ret (fun _ _ hReady => hReady)
      · rw [if_neg hLe, if_neg hLe]
        by_cases hMore : i.answered 0x61 = true
        · rw [if_pos hMore, if_pos hMore]
          have hFive :
              ∀ i : SEInterface,
                i.setGetResponse.apduLen ≤ 256 := by
            intro i
            exact Nat.le_of_ble_eq_true rfl
          refine
            (setIface_behind (·.setGetResponse)
              (fun _ _ hReady => hReady.2)
              (fun _ _ _ => hFive _)).bind ?_
          intro _ _
          exact Coupled.ret (fun _ _ hReady => hReady)
        · rw [if_neg hMore, if_neg hMore]
          exact Coupled.ret (fun w v hReady => ⟨rfl, hReady.2⟩)

/-
  Every form of `transmit` for a command of at most 256 bytes
  comes to the same over a modem with the card inside as on a
  card whose failures look like empty responses: the result,
  the response, the commands that reach the card and the
  state it is left in.
-/
theorem connectShield_transmit
    (modem : Modem M)
    (card : Port C)
    (inside : M → C)
    (hCarries : Carries modem card inside)
    (fuel : Nat)
    (bs : Bytes)
    (n : Nat)
    (hShort : n ≤ 256)
    (w : Run (Device M))
    (v : Run C)
    (hBehind : Behind inside w v) :
    let onModem :=
      (setCommand bs n >>= fun _ =>
        transmit (connectShieldSe modem) fuel).run w
    let onCard :=
      (setCommand bs n >>= fun _ =>
        transmit card.hushed fuel).run v
    onModem.1 = onCard.1 ∧
      (onModem.1.isSome = true →
        Behind inside onModem.2 onCard.2) := by
  have hBoth :
      Coupled (Behind inside)
        (setCommand bs n >>= fun _ =>
          transmit (connectShieldSe modem) fuel)
        (setCommand bs n >>= fun _ =>
          transmit card.hushed fuel)
        (fun ok ok' w v => ok = ok' ∧ Behind inside w v) := by
    unfold setCommand
    refine
      (setIface_behind _ (fun _ _ hBehind => hBehind)
        (fun _ _ _ => ?_)).bind
        (fun _ _ => transmit_behind hCarries fuel)
    exact (Nat.mod_le n _).trans hShort
  exact hBoth.same_result hBehind

/- Where a card is in a conversation. -/
inductive Stage where
  | wrongLength
  | more
  | refusing

def Stage.next : Stage → Stage
  | .wrongLength => .more
  | _ => .refusing

/- The answer of a modem that quotes a response. -/
def quotedAnswer
    (response : Bytes)
    (hSome : response ≠ []) : At.CsimAnswer :=
  .reply
    { before := []
      quoted := true
      digits := hexText response
      response := response
      after := []
      hBefore := At.passes_nil
      hDigits := spelledInHex_hexText _
      hSome := hSome
      hAfter := At.passes_nil }

def Stage.answer : Stage → At.CsimAnswer
  | .wrongLength => quotedAnswer [0x6C, 0x02] (by decide)
  | .more => quotedAnswer [0x61, 0x02] (by decide)
  | .refusing =>
      .error
        ⟨[], ascii "ERROR\r\n", At.passes_nil,
          by decide +kernel⟩

/-
  A card that asks for another length, has a response to get
  and then refuses to give it.
-/
def stagedCard : Port Stage where
  transmitApdu _ stage :=
    (match stage with
      | .wrongLength => .of true [0x6C, 0x02]
      | .more => .of true [0x61, 0x02]
      | .refusing => .of false [],
      stage.next)

/- A modem with this card, which answers lines. -/
def stagedModem : Modem Stage where
  hear c stage :=
    if c = 10 then (stage.answer.text.map some, stage.next)
    else ([], stage)

/- It says nothing before the end of a line. -/
theorem stagedModem_hears
    {body : Bytes}
    (hBody : ∀ c ∈ body, c ≠ 10)
    (stage : Stage) :
    stagedModem.hears (body ++ [10]) stage =
      (stage.answer.text.map some, stage.next) := by
  induction body with
  | nil =>
      show (List.append _ [], _) = _
      rw [List.append_eq, List.append_nil]
      rfl
  | cons c body ih =>
      have hHere : c ≠ 10 := hBody c List.mem_cons_self
      have hRest :=
        ih (fun c' hc' => hBody c' (List.mem_cons_of_mem c hc'))
      simp only [List.cons_append, At.Modem.hears,
        stagedModem, if_neg hHere, List.nil_append]
      exact hRest

/- The line of a command ends with its only newline. -/
theorem csimLine_line
    (apdu : Bytes) :
    ∃ body : Bytes,
      csimLine apdu = body ++ [10] ∧ ∀ c ∈ body, c ≠ 10 := by
  refine
    ⟨ascii "AT+CSIM=" ++ decimal (2 * apdu.length) ++
        ascii ",\"" ++ hexText apdu ++ ascii "\"\r", ?_, ?_⟩
  · have hTail : ascii "\"\r\n" = ascii "\"\r" ++ [10] := rfl
    rw [csimLine, hTail, List.append_assoc _ _ [10]]
  · have hLiterals :
        ∀ c ∈ ascii "AT+CSIM=" ++ ascii ",\"" ++ ascii "\"\r",
          c ≠ 10 :=
      At.ne_newline_of_all rfl
    intro c hc
    simp only [List.mem_append] at hc hLiterals
    rcases hc with (((hc | hc) | hc) | hc) | hc
    · exact hLiterals c (Or.inl (Or.inl hc))
    · exact At.ne_newline_of_digit (decimal_digits _ c hc)
    · exact hLiterals c (Or.inl (Or.inr hc))
    · exact
        At.ne_newline_of_hexDigit
          ((spelledInHex_hexText apdu).digits c hc)
    · exact hLiterals c (Or.inr hc)

theorem staged_carries :
    Carries stagedModem stagedCard id where
  answers := by
    intro apdu stage _
    rcases csimLine_line apdu with ⟨body, hLine, hBody⟩
    refine ⟨stage.answer, [], ?_, .refl [], ?_⟩
    · rw [hLine, stagedModem_hears hBody, List.append_nil]
      exact At.Slots.text_map_some _
    · cases stage <;> rfl
  moves := by
    intro apdu stage _
    rcases csimLine_line apdu with ⟨body, hLine, hBody⟩
    rw [hLine, stagedModem_hears hBody]
    rfl

/-
  SELECT of the master file over that modem: it is sent again
  with another length, the response is asked for and the card
  fails, which looks like an empty response.
-/
theorem connectShield_transmit_select :
    let onModem :=
      (setCommand [0x00, 0xA4, 0x00, 0x04] 4 >>= fun _ =>
        transmit (connectShieldSe stagedModem) 3).run
          ⟨Sys.start ⟨false, [], fun _ => 0, 0, .wrongLength⟩,
            []⟩
    let onCard :=
      (setCommand [0x00, 0xA4, 0x00, 0x04] 4 >>= fun _ =>
        transmit stagedCard.hushed 3).run
          ⟨Sys.start .wrongLength, []⟩
    (onModem.1 = onCard.1 ∧
      (onModem.1.isSome = true →
        Behind id onModem.2 onCard.2)) ∧
      onCard.1 = some true := by
  refine ⟨?_, by decide +kernel⟩
  exact
    connectShield_transmit stagedModem stagedCard id
      staged_carries 3 [0x00, 0xA4, 0x00, 0x04] 4 (by decide)
      ⟨Sys.start ⟨false, [], fun _ => 0, 0, .wrongLength⟩, []⟩
      ⟨Sys.start .wrongLength, []⟩ ⟨rfl, rfl, .refl []⟩

end Se

end TrustOnboard

------------------------------------------------------------
-- The Reader
------------------------------------------------------------

namespace TrustOnboard

namespace Se

variable {C : Type}

/- `SCardTransmit` and the card in the reader. -/
structure Reader (C : Type) where
  scardTransmit : Bytes → C → Reply × C

/- The reader without anything above it. -/
def Reader.direct (reader : Reader C) : Port C where
  transmitApdu := reader.scardTransmit

/- `SCardTransmit` of the first bytes of the command array. -/
def scardTransmit
    (reader : Reader C)
    (apduLen : Nat) : Code C Bool :=
  Prog.step (fun s =>
    let command := s.iface.apdu.load 0 apduLen
    let r := reader.scardTransmit command s.env
    (r.1.ok,
      { s with iface := s.iface.receive r.1.bytes, env := r.2 },
      [.exchanged command r.1]))

/-
  GET RESPONSE in the command array.  The length of the
  command is a local variable here.
-/
def SEInterface.writeGetResponse
    (i : SEInterface) : SEInterface :=
  { i with apdu := i.setGetResponse.apdu }

/-
  `PCSCAccess::transmitApdu` on the arrays of the interface.
  It calls itself at its end, so that a call is a round of a
  loop.
-/
def pcscTransmitApdu
    (reader : Reader C)
    (fuel : Nat) : Code C Bool := do
  let apduLen ← Prog.read (·.iface.apduLen)
  Prog.loop fuel
    (fun apduLen => do
      let ok ← scardTransmit reader apduLen
      if ¬ ok then
        pure (.inr false)
      else do
        let i ← Prog.read (·.iface)
        if i.answered 0x6C then do
          setIface (·.patch)
          pure (.inl apduLen)
        else if i.answered 0x61 then do
          setIface (·.writeGetResponse)
          pure (.inl 5)
        else
          pure (.inr true))
    apduLen

/- `SEInterface::transmit(void)` of a `PCSCAccess`. -/
def pcscTransmit
    (reader : Reader C)
    (fuel : Nat) : Code C Bool :=
  Prog.loop fuel
    (fun (_ : Unit) => do
      let ok ← pcscTransmitApdu reader fuel
      if ¬ ok then
        pure (.inr false)
      else do
        let i ← Prog.read (·.iface)
        if i.answered 0x6C then do
          setIface (·.patch)
          pure (.inl ())
        else if i.answered 0x61 then do
          setIface (·.setGetResponse)
          pure (.inl ())
        else
          pure (.inr true))
    ()

/-
  Two runs that differ in the length of the command that is
  set up at most.
-/
def SameButLength (w v : Run C) : Prop :=
  w.log = v.log ∧
    w.st =
      { v.st with
        iface :=
          { v.st.iface with apduLen := w.st.iface.apduLen } }

/- No answer of the card is left to be dealt with. -/
def Settled (w : Run C) : Prop :=
  w.st.iface.answered 0x6C = false ∧
    w.st.iface.answered 0x61 = false

variable {P : Run C → Run C → Prop}

/- One exchange with the reader, in both runs. -/
theorem scardTransmit_same
    (reader : Reader C)
    (apduLen : Nat) :
    Coupled
      (fun w v =>
        apduLen = v.st.iface.apduLen ∧ SameButLength w v)
      (scardTransmit reader apduLen)
      (transmitApdu reader.direct)
      (fun ok ok' w v =>
        ok = ok' ∧ apduLen = v.st.iface.apduLen ∧
          SameButLength w v) := by
  apply Coupled.step
  rintro ⟨s, l⟩ ⟨s', l'⟩ ⟨rfl, hLog, hState⟩
  dsimp only at hLog hState
  subst hLog
  rw [hState]
  exact ⟨rfl, rfl, rfl, rfl⟩

/- The interface is looked at, in both runs. -/
theorem readIface_same
    (n : Nat) :
    Coupled
      (fun w v => n = v.st.iface.apduLen ∧ SameButLength w v)
      (Prog.read (·.iface) : Code C SEInterface)
      (Prog.read (·.iface) : Code C SEInterface)
      (fun i i' w v =>
        i.answered = i'.answered ∧ i = w.st.iface ∧
          n = v.st.iface.apduLen ∧ SameButLength w v) := by
  apply Coupled.step
  rintro ⟨s, l⟩ ⟨s', l'⟩ ⟨hLength, hLog, hState⟩
  dsimp only at hLog hState
  subst hLog
  refine ⟨?_, rfl, hLength, rfl, hState⟩
  dsimp only
  rw [hState]
  rfl

/- A step on the interface that leaves the length alone. -/
theorem setIface_same
    {f g : SEInterface → SEInterface}
    {m : Nat}
    (hKeeps :
      ∀ (i : SEInterface) (k : Nat),
        f { i with apduLen := k } =
          { g i with apduLen := k })
    (hLength : ∀ w v, P w v → m = (g v.st.iface).apduLen)
    (hSame : ∀ w v, P w v → SameButLength w v) :
    Coupled P
      (setIface f : Code C Unit)
      (setIface g : Code C Unit)
      (fun _ _ w v =>
        m = v.st.iface.apduLen ∧ SameButLength w v) := by
  apply Coupled.step
  rintro ⟨s, l⟩ ⟨s', l'⟩ hP
  have hNext := hLength _ _ hP
  rcases hSame _ _ hP with ⟨hLog, hState⟩
  dsimp only at hLog hState hNext
  subst hLog
  refine ⟨hNext, rfl, ?_⟩
  dsimp only
  rw [hState]
  dsimp only
  rw [hKeeps s'.iface s.iface.apduLen]

/- The rounds of the reader are those of the interface. -/
theorem pcscTransmitApdu_same
    (reader : Reader C)
    (fuel : Nat) :
    Coupled (fun w v => w = v)
      (pcscTransmitApdu reader fuel)
      (transmit reader.direct fuel)
      (fun ok ok' w v =>
        ok = ok' ∧ SameButLength w v ∧
          (ok = true → Settled w)) := by
  unfold pcscTransmitApdu transmit
  apply Coupled.read_left
  intro apduLen
  refine
    (Coupled.loop
      (fun n _ w v =>
        n = v.st.iface.apduLen ∧ SameButLength w v) ?_).pre ?_
  · intro n _
    refine (scardTransmit_same reader n).bind ?_
    intro ok ok'
    apply Coupled.of_fact
    rintro rfl
    cases ok with
    | false =>
        refine Coupled.ret ?_
        rintro w v ⟨_, hSame⟩
        exact ⟨rfl, hSame, fun hNo => by cases hNo⟩
    | true =>
        simp only [not_true_eq_false, if_false]
        refine (readIface_same n).bind ?_
        intro i i'
        apply Coupled.of_fact
        intro hAnswered
        rw [hAnswered]
        by_cases hLe : i'.answered 0x6C = true
        · rw [if_pos hLe, if_pos hLe]
          refine
            (setIface_same (m := n) (fun _ _ => rfl)
              (fun _ _ hP => hP.2.1)
              (fun _ _ hP => hP.2.2)).bind ?_
          intro _ _
          exact Coupled.ret (fun _ _ hJ => hJ)
        · rw [if_neg hLe, if_neg hLe]
          by_cases hMore : i'.answered 0x61 = true
          · rw [if_pos hMore, if_pos hMore]
            refine
              (setIface_same (m := 5) (fun _ _ => rfl)
                (fun _ _ _ => rfl)
                (fun _ _ hP => hP.2.2)).bind ?_
            intro _ _
            exact Coupled.ret (fun _ _ hJ => hJ)
          · rw [if_neg hMore, if_neg hMore]
            refine Coupled.ret ?_
            rintro w v ⟨rfl, _, hSame⟩
            refine ⟨rfl, hSame, fun _ => ?_⟩
            unfold Settled
            rw [hAnswered]
            exact
              ⟨Bool.eq_false_of_not_eq_true hLe,
                Bool.eq_false_of_not_eq_true hMore⟩
  · rintro w v ⟨hLength, rfl⟩
    exact ⟨hLength.symm, rfl, rfl⟩

/- The layer above the reader has nothing to repeat. -/
theorem pcscTransmit_same
    (reader : Reader C)
    (fuel : Nat) :
    Coupled (fun w v => w = v)
      (pcscTransmit reader fuel)
      (transmit reader.direct fuel)
      (fun ok ok' w v => ok = ok' ∧ SameButLength w v) := by
  cases fuel with
  | zero => exact fun _ _ _ => trivial
  | succ fuel =>
      rw [← Prog.bind_ret (transmit reader.direct (fuel + 1))]
      unfold pcscTransmit
      rw [Prog.loop_succ, Prog.bind_assoc]
      refine (pcscTransmitApdu_same reader (fuel + 1)).bind ?_
      intro ok ok'
      apply Coupled.of_fact
      rintro rfl
      cases ok with
      | false =>
          refine Coupled.ret ?_
          rintro w v ⟨hSame, _⟩
          exact ⟨rfl, hSame⟩
      | true =>
          simp only [not_true_eq_false, if_false]
          rw [Prog.bind_assoc]
          apply Coupled.read_left
          intro i w v hPre
          rcases hPre with ⟨rfl, hSame, hSettled⟩
          rcases hSettled trivial with ⟨hLe, hMore⟩
          rw [if_neg (by simp [hLe]), if_neg (by simp [hMore])]
          exact ⟨rfl, hSame⟩

/-
  Two layers that repeat commands come to the same as one:
  over a reader that repeats them on its own, `transmit` has
  the same result, the same exchanges with the card and the
  same response as over a reader that does not.
-/
theorem pcscTransmit_direct
    (reader : Reader C)
    (fuel : Nat)
    (w : Run C) :
    let twice := (pcscTransmit reader fuel).run w
    let once := (transmit reader.direct fuel).run w
    twice.1 = once.1 ∧
      (twice.1.isSome = true → SameButLength twice.2 once.2) := by
  exact (pcscTransmit_same reader fuel).same_result rfl

end Se

end TrustOnboard
