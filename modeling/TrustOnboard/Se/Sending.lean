import TrustOnboard.Se.MF
import TrustOnboard.Se.Retry

/-
  What a transmission sends and what it leaves behind.

  A command, the ones that repeat it after 6Cxx, and the GET
  RESPONSEs that follow it make a chain, which ends with the
  reply the program looks at.

  Key definitions include:
    * `Chain`
    * `Resends`
    * `Sent`
    * `sendOn`
    * `SEInterface.Holds`
    * `answers`

  Key results include:
    * `transmit_chain`
    * `sendOn_run`
    * `Chain.answers`
-/

------------------------------------------------------------
-- Chains
------------------------------------------------------------

namespace TrustOnboard

namespace Se

/-
  The exchanges of one command, and the reply that ended
  them, if any did.
-/
inductive Chain :
    Bytes → List (Bytes × Reply) → Option Reply → Prop where
  | cut (command : Bytes) : Chain command [] none
  | last
      (command : Bytes)
      (r : Reply)
      (hFinal : r.request = .final) :
      Chain command [(command, r)] (some r)
  | again
      (command : Bytes)
      (r : Reply)
      (xx : UInt8)
      (l : List (Bytes × Reply))
      (answer : Option Reply)
      (hAgain : r.request = .again xx)
      (hRest : Chain (command.set 4 xx) l answer) :
      Chain command ((command, r) :: l) answer
  | more
      (command : Bytes)
      (r : Reply)
      (cla xx : UInt8)
      (l : List (Bytes × Reply))
      (answer : Option Reply)
      (hMore : r.request = .more xx)
      (hRest :
        Chain [cla, 0xC0, 0x00, 0x00, xx] l answer) :
      Chain command ((command, r) :: l) answer

/- What is sent in place of a command. -/
inductive Resends (command : Bytes) : Bytes → Prop where
  | command : Resends command command
  | patched (bs : Bytes) (xx : UInt8)
      (hEarlier : Resends command bs) :
      Resends command (bs.set 4 xx)
  | getResponse (cla xx : UInt8) :
      Resends command [cla, 0xC0, 0x00, 0x00, xx]

namespace Resends

theorem trans
    {a b c : Bytes}
    (hLater : Resends b c)
    (hEarlier : Resends a b) :
    Resends a c := by
  induction hLater with
  | command => exact hEarlier
  | patched bs xx hBefore ih => exact .patched bs xx ih
  | getResponse cla xx => exact .getResponse cla xx

/- Byte 4 apart it is the command, or GET RESPONSE. -/
theorem cases
    {command bs : Bytes}
    (hResends : Resends command bs) :
    (bs.take 4 = command.take 4 ∧
        bs.drop 5 = command.drop 5) ∨
      bs[1]? = some 0xC0 := by
  induction hResends with
  | command => exact Or.inl ⟨rfl, rfl⟩
  | getResponse cla xx => exact Or.inr rfl
  | patched bs xx hBefore ih =>
      rcases ih with ⟨hHead, hData⟩ | hOther
      · refine Or.inl ⟨?_, ?_⟩
        · rw [List.take_set_of_le (Nat.le_refl 4)]
          exact hHead
        · rw [List.drop_set_of_lt (by decide)]
          exact hData
      · refine Or.inr ?_
        rw [List.getElem?_set_ne (by decide)]
        exact hOther

end Resends

namespace Chain

variable {command : Bytes}
variable {l : List (Bytes × Reply)}
variable {answer : Option Reply}

/- A chain sends what stands in for its command. -/
theorem resends
    (hChain : Chain command l answer) :
    ∀ e ∈ l, Resends command e.1 := by
  induction hChain with
  | cut command =>
      intro e he
      cases he
  | last command r hFinal =>
      intro e he
      cases List.mem_singleton.mp he
      exact .command
  | again command r xx l answer hAgain hRest ih =>
      intro e he
      rcases List.mem_cons.mp he with rfl | hLater
      · exact .command
      · exact (ih e hLater).trans
          (.patched command xx .command)
  | more command r cla xx l answer hMore hRest ih =>
      intro e he
      rcases List.mem_cons.mp he with rfl | hLater
      · exact .command
      · exact (ih e hLater).trans (.getResponse cla xx)

/- A chain begins with its command. -/
theorem head
    (hChain : Chain command l answer)
    (hSome : l ≠ []) :
    ∃ r rest, l = (command, r) :: rest := by
  cases hChain with
  | cut _ => exact absurd rfl hSome
  | last _ r hFinal => exact ⟨r, [], rfl⟩
  | again _ r xx rest _ hAgain hRest => exact ⟨r, rest, rfl⟩
  | more _ r cla xx rest _ hMore hRest =>
      exact ⟨r, rest, rfl⟩

/- The first reply is the answer if it asks for nothing. -/
theorem first
    {r : Reply}
    (hChain : Chain command l (some r)) :
    ∃ r', (command, r') ∈ l ∧
      (r'.request = .final → r = r') := by
  cases hChain with
  | last _ _ hFinal =>
      exact ⟨r, List.mem_cons_self, fun _ => rfl⟩
  | again _ r' xx l _ hAgain hRest =>
      refine ⟨r', List.mem_cons_self, ?_⟩
      intro hFinal
      rw [hFinal] at hAgain
      cases hAgain
  | more _ r' cla xx l _ hMore hRest =>
      refine ⟨r', List.mem_cons_self, ?_⟩
      intro hFinal
      rw [hFinal] at hMore
      cases hMore

end Chain

end Se

end TrustOnboard

------------------------------------------------------------
-- Answers
------------------------------------------------------------

namespace TrustOnboard

namespace Se

/-
  The commands of the program with the replies that ended
  their chains.  The first argument is the command whose
  chain is not at its end.
-/
def answers :
    Option Bytes → List (Bytes × Reply) →
      List (Bytes × Reply)
  | _, [] => []
  | current, (command, r) :: rest =>
      match r.request with
      | .final =>
          (current.getD command, r) :: answers none rest
      | _ => answers (some (current.getD command)) rest

/- A chain comes to one answer. -/
theorem Chain.answers
    {command : Bytes}
    {l : List (Bytes × Reply)}
    {r : Reply}
    (hChain : Chain command l (some r))
    (rest : List (Bytes × Reply)) :
    Se.answers none (l ++ rest) =
      (command, r) :: Se.answers none rest := by
  have hAny : ∀ {command l answer},
      Chain command l answer → ∀ current r,
        answer = some r →
        Se.answers current (l ++ rest) =
          (current.getD command, r) ::
            Se.answers none rest := by
    intro command l answer hChain
    induction hChain with
    | cut command =>
        intro current r hSome
        cases hSome
    | last command r' hFinal =>
        intro current r hSome
        cases hSome
        rw [List.singleton_append, Se.answers, hFinal]
    | again command r' xx l answer hAgain hRest ih =>
        intro current r hSome
        rw [List.cons_append, Se.answers, hAgain]
        exact ih _ r hSome
    | more command r' cla xx l answer hMore hRest ih =>
        intro current r hSome
        rw [List.cons_append, Se.answers, hMore]
        exact ih _ r hSome
  exact hAny hChain none r rfl

end Se

end TrustOnboard

------------------------------------------------------------
-- Replies In The Interface
------------------------------------------------------------

namespace TrustOnboard

namespace Se

/- The status word at the end of a response. -/
def statusWord (bs : Bytes) : Nat :=
  if 2 ≤ bs.length then
    (bs.getD (bs.length - 2) 0).toNat * 256 +
      (bs.getD (bs.length - 1) 0).toNat
  else 0

/- The data in front of the status word. -/
def payload (bs : Bytes) : Bytes :=
  bs.take (bs.length - 2)

/- The response array holds a response. -/
structure SEInterface.Holds
    (i : SEInterface)
    (bs : Bytes) : Prop where
  length : i.apduResponseLen = bs.length
  bytes : i.apduResponse.load 0 bs.length = bs

namespace SEInterface

variable {i : SEInterface}
variable {bs : Bytes}

theorem holds_receive
    (i : SEInterface)
    (bs : Bytes) :
    (i.receive bs).Holds bs :=
  ⟨rfl, Buffer.load_store_self _ 0 _⟩

theorem Holds.getElem
    (hHolds : i.Holds bs)
    {j : Nat}
    (hj : j < bs.length) :
    i.apduResponse j = bs.getD j 0 := by
  have hByte := congrArg (fun l => l.getD j 0) hHolds.bytes
  simpa [Buffer.load, hj] using hByte

theorem Holds.getStatusWord
    (hHolds : i.Holds bs) :
    i.getStatusWord = statusWord bs := by
  unfold SEInterface.getStatusWord statusWord
  rw [hHolds.length]
  by_cases hTwo : 2 ≤ bs.length
  · rw [if_pos hTwo, if_pos hTwo,
      hHolds.getElem (by omega), hHolds.getElem (by omega)]
  · rw [if_neg hTwo, if_neg hTwo]

theorem Holds.getResponse
    (hHolds : i.Holds bs) :
    i.getResponse = payload bs := by
  have hCount : i.getResponseLength = bs.length - 2 := by
    unfold getResponseLength
    rw [hHolds.length]
    split <;> omega
  unfold SEInterface.getResponse payload
  rw [hCount, ← Buffer.take_load _ _
    (show bs.length - 2 ≤ bs.length by omega), hHolds.bytes]

end SEInterface

end Se

end TrustOnboard

------------------------------------------------------------
-- Transmissions
------------------------------------------------------------

namespace TrustOnboard

namespace Se

variable {K : Type}
variable {port : Port K}

/- Only the interface and the card have changed. -/
def Sys.Framed (s s' : Sys K) : Prop :=
  s' = { s with iface := s'.iface, env := s'.env }

theorem Sys.Framed.trans
    {s s' s'' : Sys K}
    (hLater : s'.Framed s'')
    (hEarlier : s.Framed s') :
    s.Framed s'' := by
  unfold Sys.Framed at hLater hEarlier ⊢
  rw [hLater, hEarlier]

theorem Sys.Framed.applets
    {s s' : Sys K}
    (hFramed : s.Framed s') :
    s'.applets = s.applets := by
  unfold Sys.Framed at hFramed
  rw [hFramed]

/-
  A run that sent a chain of exchanges: the events, and the
  reply at the end.
-/
structure SentBy
    (port : Port K)
    (command : Bytes)
    (fuel : Nat)
    (w : Run K)
    (result : Option Bool × Run K)
    (es : List Event)
    (answer : Option Reply) : Prop where
  log : result.2.log = es ++ w.log
  chain : Chain command (exchanges es) answer
  returns : result.1 = answer.map (·.ok)
  holds :
    ∀ r, answer = some r →
      result.2.st.iface.Holds r.bytes
  frame : w.st.Framed result.2.st
  sends : 0 < fuel → exchanges es ≠ []
  replies :
    ∀ e ∈ exchanges es,
      ∃ k, e.2 = (port.transmitApdu e.1 k).1

/- A run that sent a chain of exchanges. -/
def Sent
    (port : Port K)
    (command : Bytes)
    (fuel : Nat)
    (w : Run K)
    (result : Option Bool × Run K) : Prop :=
  ∃ es answer, SentBy port command fuel w result es answer

/- Exchanges behind one that is not the last. -/
theorem Sent.behind
    {command next : Bytes}
    {fuel : Nat}
    {s s' : Sys K}
    {l : List Event}
    {r : Reply}
    {result : Option Bool × Run K}
    (hSent :
      Sent port next fuel ⟨s', .exchanged command r :: l⟩
        result)
    (hFramed : s.Framed s')
    (hReply : ∃ k, r = (port.transmitApdu command k).1)
    (hLink :
      ∀ l answer, Chain next l answer →
        Chain command ((command, r) :: l) answer) :
    Sent port command (fuel + 1) ⟨s, l⟩ result := by
  rcases hSent with ⟨es, answer, hSent⟩
  have hExchanges :
      exchanges (es ++ [.exchanged command r]) =
        (command, r) :: exchanges es :=
    exchanges_append es [.exchanged command r]
  refine ⟨es ++ [.exchanged command r], answer, ?_⟩
  constructor
  case log =>
    rw [hSent.log]
    simp
  case chain =>
    rw [hExchanges]
    exact hLink _ _ hSent.chain
  case returns => exact hSent.returns
  case holds => exact hSent.holds
  case frame => exact hSent.frame.trans hFramed
  case sends =>
    rw [hExchanges]
    exact fun _ => List.cons_ne_nil _ _
  case replies =>
    rw [hExchanges]
    intro e he
    rcases List.mem_cons.mp he with rfl | hLater
    · exact hReply
    · exact hSent.replies e hLater

/- A run of `transmit` sends a chain. -/
theorem transmit_chain
    (port : Port K)
    (fuel : Nat)
    (w : Run K) :
    Sent port w.st.iface.command fuel w
      ((transmit port fuel).run w) := by
  induction fuel generalizing w with
  | zero =>
      refine ⟨[], none, rfl, .cut _, rfl, ?_, rfl, ?_, ?_⟩
      · exact fun r hr => by cases hr
      · exact fun hPos => absurd hPos (by decide)
      · exact fun e he => by cases he
  | succ fuel ih =>
      rcases w with ⟨s, l⟩
      rw [transmit_succ]
      cases hRequest : (s.reply port).request with
      | final =>
          dsimp only
          refine ⟨[.exchanged s.iface.command
            (s.reply port)], some (s.reply port), ?_⟩
          constructor
          case log => rfl
          case chain => exact .last _ _ hRequest
          case returns => rfl
          case holds =>
            intro r hr
            cases hr
            exact SEInterface.holds_receive _ _
          case frame => rfl
          case sends => exact fun _ => List.cons_ne_nil _ _
          case replies =>
            intro e he
            cases List.mem_singleton.mp he
            exact ⟨s.env, rfl⟩
      | again xx =>
          have hCommand := again_command hRequest
          refine (ih _).behind (s := s) rfl ⟨s.env, rfl⟩ ?_
          intro l answer hChain
          refine .again _ _ xx l answer hRequest ?_
          rw [← hCommand]
          exact hChain
      | more xx =>
          have hBytes := (Reply.request_iff.2.mp hRequest).2
          have hCommand :
              (s.more port).iface.command =
                [channelOf (s.iface.apdu 0), 0xC0, 0x00, 0x00,
                  xx] := by
            change (SEInterface.setGetResponse
              (s.iface.receive
                (s.reply port).bytes)).command = _
            rw [hBytes, setGetResponse_command]
          refine (ih _).behind (s := s) rfl ⟨s.env, rfl⟩ ?_
          intro l answer hChain
          refine .more _ _ (channelOf (s.iface.apdu 0)) xx l
            answer hRequest ?_
          rw [← hCommand]
          exact hChain

/- Send a command through the interface. -/
def send
    (port : Port K)
    (fuel : Nat)
    (command : Bytes) : Code K Bool := do
  setCommand command command.length
  transmit port fuel

/- Send a command on the channel of an applet. -/
def sendOn
    (port : Port K)
    (fuel : Nat)
    (name : AppletName)
    (command : UInt8 → Bytes) : Code K Bool :=
  onChannel name (fun channel =>
    send port fuel (command channel))

/- The length of a command is cut to sixteen bits. -/
theorem send_take
    (port : Port K)
    (fuel : Nat)
    (command : Bytes)
    (w : Run K) :
    Sent port (command.take (command.length % 2 ^ 16)) fuel w
      ((send port fuel command).run w) := by
  have hCommand :
      ({ w.st.iface with
          apdu := w.st.iface.apdu.store 0 command
          apduLen := command.length % 2 ^ 16 } :
        SEInterface).command =
          command.take (command.length % 2 ^ 16) := by
    unfold SEInterface.command
    dsimp only
    rw [← Buffer.take_load _ _
      (Nat.mod_le command.length (2 ^ 16)),
      Buffer.load_store_self _ 0 command]
  have hSent := transmit_chain port fuel
    ⟨w.st.withIface
      { w.st.iface with
        apdu := w.st.iface.apdu.store 0 command
        apduLen := command.length % 2 ^ 16 }, w.log⟩
  change Sent _ (SEInterface.command _) _ _ _ at hSent
  dsimp only [Sys.withIface] at hSent
  rw [hCommand] at hSent
  rcases hSent with ⟨es, answer, hSent⟩
  exact ⟨es, answer, hSent.log, hSent.chain, hSent.returns,
    hSent.holds, hSent.frame.trans rfl, hSent.sends,
    hSent.replies⟩

theorem send_run
    (port : Port K)
    (fuel : Nat)
    {command : Bytes}
    (hShort : command.length < 2 ^ 16)
    (w : Run K) :
    Sent port command fuel w
      ((send port fuel command).run w) := by
  have hSent := send_take port fuel command w
  rw [Nat.mod_eq_of_lt hShort, List.take_length] at hSent
  exact hSent

/- An applet that is not selected sends nothing. -/
theorem sendOn_unselected
    (fuel : Nat)
    {name : AppletName}
    (command : UInt8 → Bytes)
    {w : Run K}
    (hApplet : (w.st.applets name).isSelected = false) :
    (sendOn port fuel name command).run w =
      (some false, w) := by
  unfold sendOn onChannel
  simp [Prog.run_bind, Prog.read, hApplet]

/- An applet that is selected sends on its channel. -/
theorem sendOn_run
    (port : Port K)
    (fuel : Nat)
    {name : AppletName}
    (command : UInt8 → Bytes)
    (hShort : ∀ channel, (command channel).length < 2 ^ 16)
    {w : Run K}
    (hApplet : (w.st.applets name).isSelected = true) :
    Sent port (command (w.st.applets name).channel) fuel w
      ((sendOn port fuel name command).run w) := by
  have hRun :
      (sendOn port fuel name command).run w =
        (send port fuel
          (command (w.st.applets name).channel)).run w := by
    unfold sendOn onChannel
    simp [Prog.run_bind, Prog.read, hApplet]
  rw [hRun]
  exact send_run port fuel (hShort _) w

end Se

end TrustOnboard

------------------------------------------------------------
-- Commands And Their Answers
------------------------------------------------------------

namespace TrustOnboard

namespace Se

variable {K : Type}
variable {port : Port K}

/-
  Between two worlds some commands were answered, and every
  one that was sent.
-/
def Answered
    (w w' : Run K)
    (l : List (Bytes × Reply)) : Prop :=
  ∃ es, w'.log = es ++ w.log ∧
    ∀ rest,
      answers none (exchanges es ++ rest) =
        l ++ answers none rest

namespace Answered

variable {w w' w'' : Run K}
variable {l l' : List (Bytes × Reply)}

/- Events that are no exchanges. -/
theorem of_none
    {es : List Event}
    (hLog : w'.log = es ++ w.log)
    (hNone : exchanges es = []) :
    Answered w w' [] := by
  refine ⟨es, hLog, ?_⟩
  intro rest
  rw [hNone]
  rfl

/- No events at all. -/
theorem of_log
    (hLog : w'.log = w.log) :
    Answered w w' [] :=
  of_none (show w'.log = [] ++ w.log from hLog) rfl

theorem refl
    (w : Run K) :
    Answered w w [] :=
  of_log rfl

theorem trans
    (hFirst : Answered w w' l)
    (hThen : Answered w' w'' l') :
    Answered w w'' (l ++ l') := by
  rcases hFirst with ⟨es, hLog, hFirst⟩
  rcases hThen with ⟨es', hLog', hThen⟩
  refine ⟨es' ++ es, ?_, ?_⟩
  · rw [hLog', hLog, List.append_assoc]
  · intro rest
    rw [exchanges_append, List.append_assoc, hFirst, hThen,
      List.append_assoc]

/- The answers of a run from an empty log. -/
theorem all
    {s : Sys K}
    (hAnswered : Answered ⟨s, []⟩ w' l) :
    answers none (exchanges w'.log) = l := by
  rcases hAnswered with ⟨es, hLog, hAll⟩
  have hEnd := hAll []
  rw [List.append_nil] at hEnd hLog
  rw [hLog, hEnd]
  exact List.append_nil l

end Answered

/-
  A command that returns was answered, at once if the first
  reply asks for nothing.
-/
structure Replied
    (port : Port K)
    (command : Bytes)
    (w w' : Run K)
    (r : Reply) : Prop where
  answered : Answered w w' [(command, r)]
  holds : w'.st.iface.Holds r.bytes
  frame : w.st.Framed w'.st
  first :
    ∃ k,
      (port.transmitApdu command k).1.request = .final →
        r = (port.transmitApdu command k).1

/- A transmission that returns has an answer. -/
theorem Sent.replied
    {command : Bytes}
    {fuel : Nat}
    {w w' : Run K}
    {b : Bool}
    (hSent : Sent port command fuel w (some b, w')) :
    ∃ r, Replied port command w w' r ∧ b = r.ok := by
  rcases hSent with ⟨es, answer, hSent⟩
  have hReturns := hSent.returns
  cases answer with
  | none => cases hReturns
  | some r =>
      refine ⟨r, ?_, Option.some.inj hReturns⟩
      constructor
      case answered =>
        exact ⟨es, hSent.log, hSent.chain.answers⟩
      case holds => exact hSent.holds r rfl
      case frame => exact hSent.frame
      case first =>
        rcases hSent.chain.first with ⟨r', hMem, hAtOnce⟩
        rcases hSent.replies _ hMem with ⟨k, hReply⟩
        change r' = (port.transmitApdu command k).1 at hReply
        rw [hReply] at hAtOnce
        exact ⟨k, hAtOnce⟩

end Se

end TrustOnboard

------------------------------------------------------------
-- Status Words
------------------------------------------------------------

namespace TrustOnboard

namespace Se

variable {K : Type}
variable {name : AppletName}

/- Looking at the status word changes nothing. -/
theorem succeeds_world
    (name : AppletName)
    (send : Code K Bool)
    (w : Run K) :
    ((succeeds name send).run w).2 = (send.run w).2 := by
  unfold succeeds
  rw [Prog.run_bind]
  rcases send.run w with ⟨result, w'⟩
  cases result with
  | none => rfl
  | some ok =>
      cases ok with
      | false => rfl
      | true => rfl

/- Without a transmission there is no success. -/
theorem succeeds_of_false
    {send : Code K Bool}
    {w w' : Run K}
    (hRun : send.run w = (some false, w')) :
    (succeeds name send).run w = (some false, w') := by
  unfold succeeds
  rw [Prog.run_bind_of_run hRun]
  rfl

end Se

end TrustOnboard

------------------------------------------------------------
-- The Forms Of A Command
------------------------------------------------------------

namespace TrustOnboard

namespace Se

variable {K : Type}

theorem transmitCase1_eq
    (port : Port K)
    (fuel : Nat)
    (cla ins p1 p2 : UInt8) :
    transmitCase1 port fuel cla ins p1 p2 =
      send port fuel [cla, ins, p1, p2] :=
  rfl

theorem transmitCase2_eq
    (port : Port K)
    (fuel : Nat)
    (cla ins p1 p2 le : UInt8) :
    transmitCase2 port fuel cla ins p1 p2 le =
      send port fuel [cla, ins, p1, p2, le] :=
  rfl

theorem transmitCase3_eq
    (port : Port K)
    (fuel : Nat)
    (cla ins p1 p2 : UInt8)
    (data : Bytes) :
    transmitCase3 port fuel cla ins p1 p2 data =
      send port fuel
        ([cla, ins, p1, p2, .ofNat data.length] ++ data) := by
  unfold transmitCase3 send
  rw [List.length_append]
  rfl

theorem transmitCase4_eq
    (port : Port K)
    (fuel : Nat)
    (cla ins p1 p2 : UInt8)
    (data : Bytes)
    (le : UInt8) :
    transmitCase4 port fuel cla ins p1 p2 data le =
      send port fuel
        ([cla, ins, p1, p2, .ofNat data.length] ++ data ++
          [le]) := by
  unfold transmitCase4 send
  rw [List.length_append, List.length_append]
  rfl

end Se

end TrustOnboard
