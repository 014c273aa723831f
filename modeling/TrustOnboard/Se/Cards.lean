import TrustOnboard.Se.Chunks
import TrustOnboard.Se.Retry

/-
  Cards that answer at once.

  A card that never asks for the command again and never for
  a GET RESPONSE gives its reply to the command itself, so
  that sending a command is one exchange.

  Key definitions include:
    * `AnswersAtOnce`
    * `steadyCard`

  Key results include:
    * `AnswersAtOnce.succeeds`
    * `AnswersAtOnce.readBinary`
-/

------------------------------------------------------------
-- One Exchange
------------------------------------------------------------

namespace TrustOnboard

namespace Se

variable {K : Type}
variable {port : Port K}

/- Every reply is the end of a transmission. -/
def AnswersAtOnce (port : Port K) : Prop :=
  ∀ bs k, (port.transmitApdu bs k).1.request = .final

/- The interface with a command set up. -/
def SEInterface.withCommand
    (i : SEInterface)
    (bs : Bytes) : SEInterface :=
  { i with
    apdu := i.apdu.store 0 bs
    apduLen := bs.length % 2 ^ 16 }

/- The state after one exchange. -/
def Sys.exchanged
    (port : Port K)
    (s : Sys K)
    (bs : Bytes) : Sys K :=
  { s with
    iface :=
      (s.iface.withCommand bs).receive
        (port.transmitApdu bs s.env).1.bytes
    env := (port.transmitApdu bs s.env).2 }

/- A command goes through when its reply does. -/
theorem AnswersAtOnce.succeeds
    (hAtOnce : AnswersAtOnce port)
    {name : AppletName}
    {s : Sys K}
    (hApplet : (s.applets name).isSelected = true)
    (f : UInt8 → Bytes)
    (hShort : ∀ channel, (f channel).length < 2 ^ 16)
    (n : Nat)
    (l : List Event) :
    let bs := f (s.applets name).channel
    (Se.succeeds name
      (onChannel name (fun channel => do
        setCommand (f channel) (f channel).length
        transmit port (n + 1)))).run ⟨s, l⟩ =
      (some ((port.transmitApdu bs s.env).1.ok &&
          (s.exchanged port bs).iface.getStatusWord ==
            0x9000),
        ⟨s.exchanged port bs,
          .exchanged bs (port.transmitApdu bs s.env).1 ::
            l⟩) := by
  intro bs
  have hCommand : (s.iface.withCommand bs).command = bs := by
    unfold SEInterface.command SEInterface.withCommand
    dsimp only
    rw [Nat.mod_eq_of_lt (hShort _)]
    exact Buffer.load_store_self _ 0 bs
  have hSent :
      (transmit port (n + 1)).run
          ⟨s.withIface (s.iface.withCommand bs), l⟩ =
        (some (port.transmitApdu bs s.env).1.ok,
          ⟨s.exchanged port bs,
            .exchanged bs (port.transmitApdu bs s.env).1 ::
              l⟩) := by
    rw [transmit_succ]
    unfold Sys.exchange Sys.reply Sys.withIface
    simp only [hCommand, hAtOnce bs s.env]
    rfl
  have hChannel :
      (onChannel name (fun channel => do
        setCommand (f channel) (f channel).length
        transmit port (n + 1))).run ⟨s, l⟩ =
        (transmit port (n + 1)).run
          ⟨s.withIface (s.iface.withCommand bs), l⟩ := by
    unfold onChannel setCommand setIface Prog.modify
    simp only [Prog.run_bind, Prog.read, Prog.run_step,
      hApplet, if_true, List.nil_append]
    rfl
  unfold Se.succeeds
  rw [Prog.run_bind, hChannel, hSent]
  dsimp only
  cases (port.transmitApdu bs s.env).1.ok with
  | false => rfl
  | true =>
      have hApplet' :
          ((s.exchanged port bs).applets name).isSelected =
            true :=
        hApplet
      simp only [if_true, Applet.getStatusWord, Prog.read,
        Prog.run_bind, Prog.run_step, hApplet',
        List.nil_append, Bool.true_and]
      rfl

/- READ BINARY in one exchange. -/
theorem AnswersAtOnce.readBinary
    (hAtOnce : AnswersAtOnce port)
    {name : AppletName}
    {w w' : Run K}
    {offset : Nat}
    {le : UInt8}
    {b : Bool}
    (hApplet : (w.st.applets name).isSelected = true) :
    Prog.Returns
        (fun n => Se.readBinary port n name offset le) w b
        w' ↔
      let bs :=
        [0x00 ||| (w.st.applets name).channel, 0xB0,
          .ofNat (offset / 2 ^ 8), .ofNat offset, le]
      b = ((port.transmitApdu bs w.st.env).1.ok &&
          (w.st.exchanged port bs).iface.getStatusWord ==
            0x9000) ∧
        w' =
          ⟨w.st.exchanged port bs,
            .exchanged bs (port.transmitApdu bs w.st.env).1 ::
              w.log⟩ := by
  have hRun : ∀ n,
      (Se.readBinary port (n + 1) name offset le).run w = _ :=
    fun n =>
      hAtOnce.succeeds hApplet
        (fun channel =>
          [0x00 ||| channel, 0xB0, .ofNat (offset / 2 ^ 8),
            .ofNat offset, le])
        (fun _ => by simp) n w.log
  constructor
  case mp =>
    intro hReturns
    have hStable :=
      (readBinary_transmission port name offset le).stable
    have hSame := Prog.Returns.unique hStable hReturns
      ⟨1, hRun 0⟩
    exact hSame
  case mpr =>
    rintro ⟨rfl, rfl⟩
    exact ⟨1, hRun 0⟩

/- The parts of a response with data. -/
theorem receive_data
    (i : SEInterface)
    (data : Bytes)
    (sw1 sw2 : UInt8) :
    (i.receive (data ++ [sw1, sw2])).getStatusWord =
        sw1.toNat * 256 + sw2.toNat ∧
      (i.receive (data ++ [sw1, sw2])).getResponse = data := by
  have hLen :
      (i.receive (data ++ [sw1, sw2])).apduResponseLen =
        data.length + 2 := by
    simp [SEInterface.receive]
  constructor
  · unfold SEInterface.getStatusWord
    rw [hLen, if_pos (by omega),
      receive_getElem _ _ (by simp),
      receive_getElem _ _ (by simp)]
    simp
  · unfold SEInterface.getResponse
      SEInterface.getResponseLength
    rw [hLen]
    have hCount :
        (if 2 < data.length + 2 then data.length + 2 - 2
          else 0) = data.length := by
      split <;> omega
    rw [hCount]
    have hLoad :=
      Buffer.load_store_self i.apduResponse 0
        (data ++ [sw1, sw2])
    rw [List.length_append] at hLoad
    exact (Buffer.load_append (by
      rw [List.length_append]
      exact hLoad)).1

end Se

end TrustOnboard

------------------------------------------------------------
-- Steady Cards
------------------------------------------------------------

namespace TrustOnboard

namespace Se

/- A card that answers a command the same every time. -/
def steadyCard (answer : Bytes → Reply) : Port Unit where
  transmitApdu bs k := (answer bs, k)

/- What READ BINARY comes to with such a card. -/
theorem steadyCard_readBinary
    {answer : Bytes → Reply}
    (hFinal : ∀ bs, (answer bs).request = .final)
    {name : AppletName}
    {offset : Nat}
    {le : UInt8}
    {w w' : Run Unit}
    (hReturns :
      Prog.Returns
        (fun n =>
          readBinary (steadyCard answer) n name offset le)
        w true w') :
    ∃ (i : SEInterface) (cla : UInt8),
      w'.st.iface =
          i.receive (answer
            [cla, 0xB0, .ofNat (offset / 2 ^ 8),
              .ofNat offset, le]).bytes ∧
        w'.st.iface.getStatusWord = 0x9000 := by
  have hAtOnce : AnswersAtOnce (steadyCard answer) :=
    fun bs _ => hFinal bs
  rcases (hAtOnce.readBinary
    (readBinary_selected hReturns)).mp hReturns with
    ⟨hOk, rfl⟩
  refine ⟨_, _, rfl, ?_⟩
  rw [eq_comm, Bool.and_eq_true, beq_iff_eq] at hOk
  exact hOk.2

end Se

end TrustOnboard
