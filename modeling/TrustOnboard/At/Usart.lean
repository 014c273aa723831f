import TrustOnboard.Memory.Buffer
import TrustOnboard.Memory.Ring
import TrustOnboard.Program.Interrupts

/-
  The serial lines of the connect shield, `usart.c`.

  The program and the interrupt handlers share a ring for
  each direction of each line.  Between any two accesses of
  the program bytes may arrive and leave, and handlers may
  run.  Nothing that was taken from a line is lost or comes
  twice or in another order, and nothing that waits to be
  sent is forgotten.  What is sent is accounted for on every
  line but the third: it is the line for debugging, and gets
  copies of what moves on the others.

  Key definitions include:
    * `Usart`
    * `usartIrqHandler`
    * `usartRead`
    * `usartWrite`
    * `Account`
    * `Books`

  Key results include:
    * `lasting_books`
    * `usartPut_books`
    * `usartRead_books`
    * `usart_run`
    * `usart_drains`
-/

------------------------------------------------------------
-- The Lines And Their Handlers
------------------------------------------------------------

namespace TrustOnboard

namespace Stm32

/-
  The state of a `usart_t` with the registers of its
  hardware: the bits `UE` and `TXEIE`, and the byte in `RDR`
  and in `TDR`, if there is one.
-/
structure Usart where
  enabled : Bool
  txeie : Bool
  rdr : Option UInt8
  tdr : Option UInt8
  rx : Ring UInt8
  tx : Ring UInt8

/- `m_usart`. -/
abbrev Usarts := Nat → Usart

/- What happens to a byte. -/
inductive Kind where
  | arrived
  | lost
  | taken
  | put
  | left
  deriving DecidableEq, Repr

/- A byte of a line and what happens to it. -/
structure Event where
  handle : Nat
  kind : Kind
  byte : UInt8

abbrev Code := Prog Usarts Event

/- `USART_IRQHandler`, a byte received. -/
def Usart.receive (u : Usart) : Usart :=
  match u.rdr with
  | none => u
  | some c =>
      if u.rx.isFull then u
      else { u with rx := u.rx.push c, rdr := none }

/- `USART_IRQHandler`, a byte to send. -/
def Usart.transmit (u : Usart) : Usart :=
  if u.tdr.isNone && u.txeie then
    if u.tx.isEmpty then
      { u with txeie := false }
    else
      { u with
        tdr := some (u.tx.data u.tx.tail)
        tx := u.tx.drop }
  else u

/- `USART_IRQHandler`. -/
def usartIrqHandler (u : Usart) : Usart :=
  u.receive.transmit

/- What may happen to a line at any time. -/
inductive Signal where
  | arrives (c : UInt8)
  | leaves
  | interrupt

/- A byte comes to a line, and is lost if one is there. -/
def Usart.arrive
    (u : Usart)
    (c : UInt8) : Usart × List (Kind × UInt8) :=
  if u.enabled && u.rdr.isNone then
    ({ u with rdr := some c }, [(.arrived, c)])
  else (u, [(.lost, c)])

/- The byte to send goes. -/
def Usart.leave (u : Usart) : Usart × List (Kind × UInt8) :=
  match u.tdr with
  | none => (u, [])
  | some c => ({ u with tdr := none }, [(.left, c)])

/- What it changes, and what becomes of which byte. -/
def Signal.act
    (sig : Signal)
    (u : Usart) : Usart × List (Kind × UInt8) :=
  match sig with
  | .arrives c => u.arrive c
  | .leaves => u.leave
  | .interrupt => (usartIrqHandler u, [])

/- The events of a line. -/
def tagged
    (h : Nat)
    (es : List (Kind × UInt8)) : List Event :=
  es.map (fun e => ⟨h, e.1, e.2⟩)

/- The signals of all lines. -/
def usartSignal : Handler (Nat × Signal) Usarts Event :=
  fun i s =>
    (Function.update s i.1 (i.2.act (s i.1)).1,
      tagged i.1 (i.2.act (s i.1)).2)

end Stm32

end TrustOnboard

------------------------------------------------------------
-- Reading And Writing
------------------------------------------------------------

namespace TrustOnboard

namespace Stm32

/- `USART_DBG`. -/
def usartDbg : Nat := 3

/- The number of entries of `m_usart`, the first without a line. -/
def usartCount : Nat := 4

/-
  `usart_get_by_handle`, whether a line is found.  Its test
  lets the handle behind the last entry pass, and what the
  source does with the memory there is not defined.
-/
def usartGetByHandle (h : Nat) : Code Bool :=
  if h ≠ 0 ∧ h ≤ usartCount then
    if h = usartCount then .stop else pure true
  else
    pure false

/- Change a line. -/
def change
    (h : Nat)
    (f : Usart → Usart) : Code Unit :=
  Prog.modify (fun s => Function.update s h (f (s h)))

/- Change a line, and something becomes of a byte. -/
def record
    (h : Nat)
    (kind : Kind)
    (c : UInt8)
    (f : Usart → Usart) : Code Unit :=
  Prog.step (fun s =>
    ((), Function.update s h (f (s h)), tagged h [(kind, c)]))

/- A round of the loop of `usart_read`. -/
def readRound
    (h len : Nat)
    (got : Bytes) : Code (Bytes ⊕ Bytes) :=
  if got.length < len then do
    let isEmpty ← Prog.read (fun s => (s h).rx.isEmpty)
    if isEmpty then
      pure (.inr got)
    else do
      let c ← Prog.read (fun s => (s h).rx.data (s h).rx.tail)
      record h .taken c (fun u => { u with rx := u.rx.drop })
      pure (.inl (got ++ [c]))
  else
    pure (.inr got)

/- A round of the loop of `usart_write`. -/
def writeRound
    (h : Nat)
    (s : Nat × Bytes) : Code ((Nat × Bytes) ⊕ Nat) :=
  match s.2 with
  | [] => pure (.inr s.1)
  | c :: rest => do
      let head ← Prog.read (fun t => (t h).tx.next (t h).tx.head)
      let tail ← Prog.read (fun t => (t h).tx.tail)
      if head == tail then
        pure (.inr s.1)
      else do
        change h (fun u => { u with tx := u.tx.fill c })
        record h .put c
          (fun u => { u with tx := { u.tx with head := head } })
        pure (.inl (s.1 + 1, rest))

/- `CR1 |= TXEIE`, a read and a write. -/
def enableTxe (h : Nat) : Code Unit := do
  let on ← Prog.read (fun s => (s h).enabled)
  change h (fun u => { u with enabled := on, txeie := true })

/- `usart_write` without the copy for debugging. -/
def usartPut
    (h : Nat)
    (data : Bytes) : Code (Option Nat) := do
  let found ← usartGetByHandle h
  if found then do
    let on ← Prog.read (fun s => (s h).enabled)
    if on then do
      let i ←
        Prog.loop (data.length + 1) (writeRound h) (0, data)
      if i ≠ 0 then do
        enableTxe h
        pure (some i)
      else
        pure (some i)
    else
      pure none
  else
    pure none

/- The copy for debugging. -/
def copyForDebugging
    (h : Nat)
    (data : Bytes) : Code Unit :=
  if data ≠ [] ∧ h ≠ usartDbg then do
    let _ ← usartPut usartDbg data
    pure ()
  else
    pure ()

/- `usart_write`: none is -1. -/
def usartWrite
    (h : Nat)
    (data : Bytes) : Code (Option Nat) := do
  let written ← usartPut h data
  match written with
  | none => pure none
  | some i => do
      copyForDebugging h (data.take i)
      pure (some i)

/- `usart_read`: none is -1. -/
def usartRead
    (h len : Nat) : Code (Option Bytes) := do
  let found ← usartGetByHandle h
  if found then do
    let on ← Prog.read (fun s => (s h).enabled)
    if on then do
      let got ← Prog.loop (len + 1) (readRound h len) []
      copyForDebugging h got
      pure (some got)
    else
      pure none
  else
    pure none

/- `usart_open` on a line whose sizes are set. -/
def Usart.open (u : Usart) : Usart :=
  { u with
    enabled := true
    rx := { u.rx with head := 0, tail := 0 }
    tx := { u.tx with head := 0, tail := 0 } }

end Stm32

end TrustOnboard

------------------------------------------------------------
-- Accounts
------------------------------------------------------------

namespace TrustOnboard

namespace Stm32

/- The bytes of a kind, oldest first. -/
def pick (kind : Kind) : List (Kind × UInt8) → Bytes
  | [] => []
  | e :: es =>
      if e.1 = kind then pick kind es ++ [e.2] else pick kind es

/- The bytes of a kind on a line, oldest first. -/
def recorded (kind : Kind) (h : Nat) : List Event → Bytes
  | [] => []
  | e :: l =>
      if e.handle = h ∧ e.kind = kind then
        recorded kind h l ++ [e.byte]
      else recorded kind h l

theorem recorded_tagged
    (kind : Kind)
    (h : Nat)
    (es : List (Kind × UInt8))
    (l : List Event) :
    recorded kind h (tagged h es ++ l) =
      recorded kind h l ++ pick kind es := by
  induction es with
  | nil => exact (List.append_nil _).symm
  | cons e es ih =>
      have hCons :
          tagged h (e :: es) ++ l =
            ⟨h, e.1, e.2⟩ :: (tagged h es ++ l) :=
        rfl
      rw [hCons, recorded, pick, ih]
      by_cases hKind : e.1 = kind
      · simp [hKind]
      · simp [hKind]

theorem recorded_other
    (kind : Kind)
    {h h' : Nat}
    (hOther : h ≠ h')
    (es : List (Kind × UInt8))
    (l : List Event) :
    recorded kind h (tagged h' es ++ l) = recorded kind h l := by
  induction es with
  | nil => rfl
  | cons e es ih =>
      have hCons :
          tagged h' (e :: es) ++ l =
            ⟨h', e.1, e.2⟩ :: (tagged h' es ++ l) :=
        rfl
      have hNot : ¬ (h' = h ∧ e.1 = kind) :=
        fun hSame => hOther hSame.1.symm
      rw [hCons, recorded, if_neg hNot, ih]

/-
  A line against the bytes that arrived and were taken, and
  that were put there and left.
-/
structure Account
    (u : Usart)
    (arrived taken put left : Bytes) : Prop where
  rx : u.rx.Within
  tx : u.tx.Within
  received : arrived = taken ++ (u.rx.waiting ++ u.rdr.toList)
  sent : put = left ++ (u.tdr.toList ++ u.tx.waiting)

/- A change of a line that its account allows. -/
def Allowed
    (u : Usart)
    (es : List (Kind × UInt8))
    (u' : Usart) : Prop :=
  ∀ {arrived taken put left : Bytes},
    Account u arrived taken put left →
      Account u' (arrived ++ pick .arrived es)
        (taken ++ pick .taken es) (put ++ pick .put es)
        (left ++ pick .left es)

/- What waits to be sent keeps the interrupt on. -/
def Usart.Wakes (u : Usart) : Prop :=
  u.tx.waiting ≠ [] → u.txeie = true

/-
  The accounts of all lines, with the bytes taken and put so
  far, where one line may have its interrupt still to be
  switched on.
-/
structure Books
    (taken put : Nat → Bytes)
    (busy : Option Nat)
    (w : World Usarts Event) : Prop where
  account :
    ∀ h,
      Account (w.st h) (recorded .arrived h w.log) (taken h)
        (put h) (recorded .left h w.log)
  taken : ∀ h, recorded .taken h w.log = taken h
  put : ∀ h, recorded .put h w.log = put h
  wakes : ∀ h, busy ≠ some h → (w.st h).Wakes

/- A world with a line changed. -/
def turned
    (w : World Usarts Event)
    (h : Nat)
    (u : Usart)
    (es : List (Kind × UInt8)) : World Usarts Event :=
  ⟨Function.update w.st h u, tagged h es ++ w.log⟩

/- More bytes of a line. -/
def more
    (f : Nat → Bytes)
    (h : Nat)
    (bs : Bytes) : Nat → Bytes :=
  Function.update f h (f h ++ bs)

@[simp] theorem more_self
    (f : Nat → Bytes)
    (h : Nat)
    (bs : Bytes) :
    more f h bs h = f h ++ bs :=
  Function.update_self _ _ _

theorem more_other
    (f : Nat → Bytes)
    {h h' : Nat}
    (bs : Bytes)
    (hOther : h' ≠ h) :
    more f h bs h' = f h' :=
  Function.update_of_ne hOther _ _

@[simp] theorem more_nil
    (f : Nat → Bytes)
    (h : Nat) :
    more f h [] = f := by
  rw [more, List.append_nil, Function.update_eq_self]

theorem more_more
    (f : Nat → Bytes)
    (h : Nat)
    (xs ys : Bytes) :
    more (more f h xs) h ys = more f h (xs ++ ys) := by
  funext h'
  by_cases hSame : h' = h
  · subst hSame
    simp
  · rw [more_other _ _ hSame, more_other _ _ hSame,
      more_other _ _ hSame]

/- An allowed change of a line keeps the books. -/
theorem Books.turned
    {taken put : Nat → Bytes}
    {busy busy' : Option Nat}
    {w : World Usarts Event}
    {h : Nat}
    {u : Usart}
    {es : List (Kind × UInt8)}
    (hBooks : Books taken put busy w)
    (hAllowed : Allowed (w.st h) es u)
    (hWakes : busy' ≠ some h → u.Wakes)
    (hBusy : ∀ h' ≠ h, busy' ≠ some h' → busy ≠ some h') :
    Books (more taken h (pick .taken es))
      (more put h (pick .put es)) busy' (turned w h u es) := by
  have hHere : (Stm32.turned w h u es).st h = u :=
    Function.update_self _ _ _
  have hThere :
      ∀ h' ≠ h, (Stm32.turned w h u es).st h' = w.st h' :=
    fun h' hOther => Function.update_of_ne hOther _ _
  refine ⟨?_, ?_, ?_, ?_⟩
  · intro h'
    by_cases hSame : h' = h
    · subst hSame
      have hAfter := hAllowed (hBooks.account h')
      rw [hHere, more_self, more_self]
      simpa [Stm32.turned, recorded_tagged] using hAfter
    · rw [hThere h' hSame, more_other _ _ hSame,
        more_other _ _ hSame]
      simpa [Stm32.turned, recorded_other _ hSame] using
        hBooks.account h'
  · intro h'
    by_cases hSame : h' = h
    · subst hSame
      rw [more_self, ← hBooks.taken h']
      exact recorded_tagged _ _ _ _
    · rw [more_other _ _ hSame, ← hBooks.taken h']
      exact recorded_other _ hSame _ _
  · intro h'
    by_cases hSame : h' = h
    · subst hSame
      rw [more_self, ← hBooks.put h']
      exact recorded_tagged _ _ _ _
    · rw [more_other _ _ hSame, ← hBooks.put h']
      exact recorded_other _ hSame _ _
  · intro h' hNot
    by_cases hSame : h' = h
    · subst hSame
      rw [hHere]
      exact hWakes hNot
    · rw [hThere h' hSame]
      exact hBooks.wakes h' (hBusy h' hSame hNot)

end Stm32

end TrustOnboard

------------------------------------------------------------
-- Signals
------------------------------------------------------------

namespace TrustOnboard

namespace Stm32

/- What a handler does to a line that has a byte or not. -/
theorem receive_cases
    (u : Usart) :
    u.receive = u ∨
      ∃ c,
        u.rdr = some c ∧ u.rx.isFull = false ∧
          u.receive = { u with rx := u.rx.push c, rdr := none } := by
  unfold Usart.receive
  cases hByte : u.rdr with
  | none => exact Or.inl rfl
  | some c =>
      by_cases hFull : u.rx.isFull = true
      · simp [hFull]
      · right
        exact
          ⟨c, rfl, Bool.eq_false_of_not_eq_true hFull, by
            simp [hFull]⟩

/- And to one that may send. -/
theorem transmit_cases
    (u : Usart) :
    u.transmit = u ∨
      (u.tx.isEmpty = true ∧
        u.transmit = { u with txeie := false }) ∨
      (u.tx.isEmpty = false ∧ u.tdr = none ∧
        u.transmit =
          { u with
            tdr := some (u.tx.data u.tx.tail)
            tx := u.tx.drop }) := by
  unfold Usart.transmit
  by_cases hMay : (u.tdr.isNone && u.txeie) = true
  · rw [if_pos hMay]
    have hNone : u.tdr = none :=
      Option.isNone_iff_eq_none.mp
        (Bool.and_eq_true_iff.mp hMay).1
    by_cases hEmpty : u.tx.isEmpty = true
    · rw [if_pos hEmpty]
      exact Or.inr (Or.inl ⟨hEmpty, rfl⟩)
    · rw [if_neg hEmpty]
      exact
        Or.inr
          (Or.inr
            ⟨Bool.eq_false_of_not_eq_true hEmpty, hNone, rfl⟩)
  · rw [if_neg hMay]
    exact Or.inl rfl

theorem arrive_cases
    (u : Usart)
    (c : UInt8) :
    u.arrive c = (u, [(.lost, c)]) ∨
      (u.rdr = none ∧
        u.arrive c =
          ({ u with rdr := some c }, [(.arrived, c)])) := by
  unfold Usart.arrive
  by_cases hGets : (u.enabled && u.rdr.isNone) = true
  · rw [if_pos hGets]
    exact
      Or.inr
        ⟨Option.isNone_iff_eq_none.mp
          (Bool.and_eq_true_iff.mp hGets).2, rfl⟩
  · rw [if_neg hGets]
    exact Or.inl rfl

theorem leave_cases
    (u : Usart) :
    u.leave = (u, []) ∨
      ∃ c,
        u.tdr = some c ∧
          u.leave = ({ u with tdr := none }, [(.left, c)]) := by
  unfold Usart.leave
  cases u.tdr with
  | none => exact Or.inl rfl
  | some c => exact Or.inr ⟨c, rfl, rfl⟩

theorem allowed_receive
    (u : Usart) :
    Allowed u [] u.receive := by
  intro arrived taken put left hAccount
  simp only [pick, List.append_nil]
  rcases receive_cases u with
    hSame | ⟨c, hByte, hRoom, hAfter⟩
  · rw [hSame]
    exact hAccount
  · rw [hAfter]
    refine ⟨hAccount.rx.push c, hAccount.tx, ?_, hAccount.sent⟩
    have hReceived := hAccount.received
    rw [hByte] at hReceived
    simpa [Ring.waiting_push hAccount.rx hRoom] using hReceived

theorem allowed_transmit
    (u : Usart) :
    Allowed u [] u.transmit := by
  intro arrived taken put left hAccount
  simp only [pick, List.append_nil]
  rcases transmit_cases u with
    hSame | ⟨_, hAfter⟩ | ⟨hSome, hNone, hAfter⟩
  · rw [hSame]
    exact hAccount
  · rw [hAfter]
    exact
      ⟨hAccount.rx, hAccount.tx, hAccount.received,
        hAccount.sent⟩
  · rw [hAfter]
    refine
      ⟨hAccount.rx, hAccount.tx.drop, hAccount.received, ?_⟩
    have hSent := hAccount.sent
    rw [hNone, Ring.waiting_pop hAccount.tx hSome] at hSent
    exact hSent

/- A line pays for what happens to it. -/
theorem allowed_act
    (sig : Signal)
    (u : Usart) :
    Allowed u (sig.act u).2 (sig.act u).1 := by
  intro arrived taken put left hAccount
  cases sig with
  | arrives c =>
      change
        Account (u.arrive c).1 (_ ++ pick _ (u.arrive c).2) _ _ _
      rcases arrive_cases u c with hAfter | ⟨hNone, hAfter⟩
      · rw [Signal.act, hAfter]
        simpa [pick] using hAccount
      · have hReceived := hAccount.received
        rw [hNone] at hReceived
        rw [Signal.act, hAfter]
        refine ⟨hAccount.rx, hAccount.tx, ?_, ?_⟩
        · simp [pick, hReceived]
        · simpa [pick] using hAccount.sent
  | leaves =>
      change
        Account u.leave.1 (_ ++ pick _ u.leave.2) _ _ _
      rcases leave_cases u with hAfter | ⟨c, hByte, hAfter⟩
      · rw [Signal.act, hAfter]
        simpa [pick] using hAccount
      · have hSent := hAccount.sent
        rw [hByte] at hSent
        rw [Signal.act, hAfter]
        refine ⟨hAccount.rx, hAccount.tx, ?_, ?_⟩
        · simpa [pick] using hAccount.received
        · simpa [pick] using hSent
  | interrupt =>
      have hFirst := allowed_receive u hAccount
      have hSecond := allowed_transmit u.receive hFirst
      simpa [pick, Signal.act, usartIrqHandler] using hSecond

/- The ring of a line in a signal, as it is or with a byte. -/
theorem act_rx
    (sig : Signal)
    (u : Usart) :
    (sig.act u).1.rx = u.rx ∨
      ∃ c,
        u.rx.isFull = false ∧ (sig.act u).1.rx = u.rx.push c := by
  cases sig with
  | arrives c =>
      left
      change (u.arrive c).1.rx = u.rx
      rcases arrive_cases u c with hAfter | ⟨_, hAfter⟩ <;>
        rw [hAfter]
  | leaves =>
      left
      change u.leave.1.rx = u.rx
      rcases leave_cases u with hAfter | ⟨_, _, hAfter⟩ <;>
        rw [hAfter]
  | interrupt =>
      have hSend : (Signal.interrupt.act u).1.rx = u.receive.rx := by
        change u.receive.transmit.rx = _
        rcases transmit_cases u.receive with
          hAfter | ⟨_, hAfter⟩ | ⟨_, _, hAfter⟩ <;> rw [hAfter]
      rw [hSend]
      rcases receive_cases u with
        hAfter | ⟨c, _, hRoom, hAfter⟩
      · exact Or.inl (by rw [hAfter])
      · exact Or.inr ⟨c, hRoom, by rw [hAfter]⟩

/- And the other one, as it is or without its oldest byte. -/
theorem act_tx
    (sig : Signal)
    (u : Usart) :
    (sig.act u).1.tx = u.tx ∨
      u.tx.isEmpty = false ∧ (sig.act u).1.tx = u.tx.drop := by
  cases sig with
  | arrives c =>
      left
      change (u.arrive c).1.tx = u.tx
      rcases arrive_cases u c with hAfter | ⟨_, hAfter⟩ <;>
        rw [hAfter]
  | leaves =>
      left
      change u.leave.1.tx = u.tx
      rcases leave_cases u with hAfter | ⟨_, _, hAfter⟩ <;>
        rw [hAfter]
  | interrupt =>
      have hTake : u.receive.tx = u.tx := by
        rcases receive_cases u with
          hAfter | ⟨_, _, _, hAfter⟩ <;> rw [hAfter]
      have hAct :
          (Signal.interrupt.act u).1 = u.receive.transmit :=
        rfl
      rw [hAct]
      rcases transmit_cases u.receive with
        hAfter | ⟨_, hAfter⟩ | ⟨hSome, _, hAfter⟩
      · exact Or.inl (by rw [hAfter, hTake])
      · exact Or.inl (by rw [hAfter, hTake])
      · rw [hTake] at hSome
        exact Or.inr ⟨hSome, by rw [hAfter, hTake]⟩

/- The interrupt is only switched off where nothing waits. -/
theorem act_wakes
    (sig : Signal)
    {u : Usart}
    (hTx : u.tx.Within)
    (hWakes : u.Wakes) :
    (sig.act u).1.Wakes := by
  cases sig with
  | arrives c =>
      change (u.arrive c).1.Wakes
      rcases arrive_cases u c with hAfter | ⟨_, hAfter⟩ <;>
        rw [hAfter]
      · exact hWakes
      · exact hWakes
  | leaves =>
      change u.leave.1.Wakes
      rcases leave_cases u with hAfter | ⟨_, _, hAfter⟩ <;>
        rw [hAfter]
      · exact hWakes
      · exact hWakes
  | interrupt =>
      have hTake : u.receive.Wakes ∧ u.receive.tx = u.tx := by
        rcases receive_cases u with
          hAfter | ⟨_, _, _, hAfter⟩ <;> rw [hAfter]
        · exact ⟨hWakes, rfl⟩
        · exact ⟨hWakes, rfl⟩
      change u.receive.transmit.Wakes
      rcases transmit_cases u.receive with
        hAfter | ⟨hEmpty, hAfter⟩ | ⟨hSome, _, hAfter⟩
      · rw [hAfter]
        exact hTake.1
      · rw [hTake.2, Ring.isEmpty_iff hTx] at hEmpty
        rw [hAfter]
        intro hSome
        exact absurd (hTake.2 ▸ hEmpty) hSome
      · rw [hAfter]
        intro _
        apply hTake.1
        rw [hTake.2] at hSome ⊢
        rw [Ring.waiting_pop hTx hSome]
        exact List.cons_ne_nil _ _

/- No signal takes a byte or puts one. -/
theorem pick_act
    (sig : Signal)
    (u : Usart) :
    pick .taken (sig.act u).2 = [] ∧
      pick .put (sig.act u).2 = [] := by
  cases sig with
  | arrives c =>
      change
        pick _ (u.arrive c).2 = [] ∧ pick _ (u.arrive c).2 = []
      rcases arrive_cases u c with hAfter | ⟨_, hAfter⟩ <;>
        rw [hAfter]
      · exact ⟨rfl, rfl⟩
      · exact ⟨rfl, rfl⟩
  | leaves =>
      change pick _ u.leave.2 = [] ∧ pick _ u.leave.2 = []
      rcases leave_cases u with hAfter | ⟨_, _, hAfter⟩ <;>
        rw [hAfter]
      · exact ⟨rfl, rfl⟩
      · exact ⟨rfl, rfl⟩
  | interrupt => exact ⟨rfl, rfl⟩

/- A fact about a line that lasts through signals. -/
def Lasts (F : Usart → Prop) : Prop :=
  ∀ (sig : Signal) (u : Usart),
    u.rx.Within → u.tx.Within → F u → F (sig.act u).1

/- The books last, and so does such a fact beside them. -/
theorem lasting_books
    {F : Usart → Prop}
    (hLasts : Lasts F)
    (taken put : Nat → Bytes)
    (busy : Option Nat)
    (h : Nat) :
    Lasting usartSignal
      (fun w => Books taken put busy w ∧ F (w.st h)) := by
  rintro w ⟨h', sig⟩ ⟨hBooks, hFact⟩
  have hAccount := hBooks.account h'
  constructor
  · have hTurned :=
      hBooks.turned (allowed_act sig (w.st h'))
        (fun hNot =>
          act_wakes sig hAccount.tx (hBooks.wakes h' hNot))
        (fun _ _ hNot => hNot)
    rw [(pick_act sig _).1, (pick_act sig _).2, more_nil,
      more_nil] at hTurned
    exact hTurned
  · by_cases hSame : h = h'
    · subst hSame
      have hHere :
          (w.signal usartSignal (h, sig)).st h =
            (sig.act (w.st h)).1 :=
        Function.update_self _ _ _
      rw [hHere]
      exact hLasts sig _ hAccount.rx hAccount.tx hFact
    · have hThere :
          (w.signal usartSignal (h', sig)).st h = w.st h :=
        Function.update_of_ne hSame _ _
      rw [hThere]
      exact hFact

theorem lasting_books_only
    (taken put : Nat → Bytes)
    (busy : Option Nat) :
    Lasting usartSignal (Books taken put busy) := by
  intro w i hBooks
  exact
    (lasting_books (F := fun _ => True) (fun _ _ _ _ _ => trivial)
      taken put busy 0 w i ⟨hBooks, trivial⟩).1

end Stm32

end TrustOnboard

------------------------------------------------------------
-- Accesses Of The Program
------------------------------------------------------------

namespace TrustOnboard

namespace Stm32

variable {taken put : Nat → Bytes}
variable {busy : Option Nat}
variable {F G : Usart → Prop}
variable {h : Nat}

/- A read of a line finds out a fact that lasts. -/
theorem read_books
    {α : Type}
    {f : Usart → α}
    {Q : α → World Usarts Event → Prop}
    (hLasts : Lasts F)
    (hRead :
      ∀ w,
        Books taken put busy w → F (w.st h) →
          Q (f (w.st h)) w) :
    Sound usartSignal
      (fun w => Books taken put busy w ∧ F (w.st h))
      (Prog.read (fun s => f (s h))) Q :=
  Sound.read (lasting_books hLasts _ _ _ _)
    (fun w hPre => hRead w hPre.1 hPre.2)

/- A change of a line with no byte. -/
theorem change_books
    {f : Usart → Usart}
    (busy' : Option Nat)
    (hLasts : Lasts F)
    (hAllowed :
      ∀ u, u.tx.Within → F u → Allowed u [] (f u))
    (hWakes :
      ∀ u, u.tx.Within → F u → (busy ≠ some h → u.Wakes) →
        busy' ≠ some h → (f u).Wakes)
    (hFact : ∀ u, u.tx.Within → F u → G (f u))
    (hBusy : ∀ h' ≠ h, busy' ≠ some h' → busy ≠ some h') :
    Sound usartSignal
      (fun w => Books taken put busy w ∧ F (w.st h))
      (change h f)
      (fun _ w => Books taken put busy' w ∧ G (w.st h)) := by
  refine Sound.modify (lasting_books hLasts _ _ _ _) ?_
  rintro w ⟨hBooks, hHere⟩
  have hTx := (hBooks.account h).tx
  have hTurned :=
    hBooks.turned (hAllowed _ hTx hHere)
      (hWakes _ hTx hHere (hBooks.wakes h)) hBusy
  simp only [pick, more_nil] at hTurned
  refine ⟨hTurned, ?_⟩
  have hState :
      Function.update w.st h (f (w.st h)) h = f (w.st h) :=
    Function.update_self _ _ _
  change G (Function.update w.st h (f (w.st h)) h)
  rw [hState]
  exact hFact _ hTx hHere

/- A change of a line with a byte. -/
theorem record_books
    {kind : Kind}
    {c : UInt8}
    {f : Usart → Usart}
    (busy' : Option Nat)
    (hLasts : Lasts F)
    (hAllowed :
      ∀ u, u.rx.Within → u.tx.Within → F u →
        Allowed u [(kind, c)] (f u))
    (hWakes :
      ∀ u, F u → (busy ≠ some h → u.Wakes) →
        busy' ≠ some h → (f u).Wakes)
    (hBusy : ∀ h' ≠ h, busy' ≠ some h' → busy ≠ some h') :
    Sound usartSignal
      (fun w => Books taken put busy w ∧ F (w.st h))
      (record h kind c f)
      (fun _ w =>
        Books (more taken h (pick .taken [(kind, c)]))
          (more put h (pick .put [(kind, c)])) busy' w) := by
  refine Sound.step (lasting_books hLasts _ _ _ _) ?_
  rintro w ⟨hBooks, hHere⟩
  have hAccount := hBooks.account h
  exact
    hBooks.turned (hAllowed _ hAccount.rx hAccount.tx hHere)
      (hWakes _ hHere (hBooks.wakes h)) hBusy

/- Bytes wait to be taken until the program takes them. -/
theorem lasts_front
    (c : UInt8) :
    Lasts (fun u => ∃ rest, u.rx.waiting = c :: rest) := by
  rintro sig u hRx _ ⟨rest, hFront⟩
  rcases act_rx sig u with hSame | ⟨c', hRoom, hPush⟩
  · rw [hSame]
    exact ⟨rest, hFront⟩
  · rw [hPush, Ring.waiting_push hRx hRoom, hFront]
    exact ⟨rest ++ [c'], rfl⟩

theorem lasts_some :
    Lasts (fun u => u.rx.waiting ≠ []) := by
  intro sig u hRx hTx hSome
  rcases List.exists_cons_of_ne_nil hSome with
    ⟨c, rest, hFront⟩
  rcases lasts_front c sig u hRx hTx ⟨rest, hFront⟩ with
    ⟨rest', hFront'⟩
  rw [hFront']
  exact List.cons_ne_nil _ _

/- What the program knows of the ring it sends from. -/
structure Room
    (head : Nat)
    (u : Usart) : Prop where
  next : u.tx.next u.tx.head = head
  room : u.tx.isFull = false

theorem lasts_next
    (head : Nat) :
    Lasts (fun u => u.tx.next u.tx.head = head) := by
  intro sig u _ _ hNext
  rcases act_tx sig u with hSame | ⟨_, hDrop⟩
  · rw [hSame]
    exact hNext
  · rw [hDrop]
    exact hNext

theorem lasts_room
    (head : Nat) :
    Lasts (Room head) := by
  intro sig u hRx hTx hRoom
  refine ⟨lasts_next head sig u hRx hTx hRoom.next, ?_⟩
  rcases act_tx sig u with hSame | ⟨hSome, hDrop⟩
  · rw [hSame]
    exact hRoom.room
  · -- A place more is free.
    have hPop :=
      congrArg List.length (Ring.waiting_pop hTx hSome)
    rw [List.length_cons, Ring.length_waiting,
      Ring.length_waiting] at hPop
    have hLess := Ring.count_lt hTx
    have hSize : u.tx.drop.size = u.tx.size := rfl
    rw [hDrop]
    apply Bool.eq_false_of_not_eq_true
    rw [Ring.isFull_iff hTx.drop]
    omega

theorem lasts_filled
    (head : Nat)
    (c : UInt8) :
    Lasts (fun u =>
      Room head u ∧ u.tx.data u.tx.head = c) := by
  rintro sig u hRx hTx ⟨hRoom, hByte⟩
  refine ⟨lasts_room head sig u hRx hTx hRoom, ?_⟩
  rcases act_tx sig u with hSame | ⟨_, hDrop⟩
  · rw [hSame]
    exact hByte
  · rw [hDrop]
    exact hByte

theorem lasts_true :
    Lasts (fun _ => True) :=
  fun _ _ _ _ _ => trivial

/- A round of the loop of `usart_read` takes a byte. -/
theorem readRound_books
    {len : Nat}
    (got : Bytes) :
    Sound usartSignal
      (fun w =>
        got.length ≤ len ∧ Books (more taken h got) put none w)
      (readRound h len got)
      (fun r w =>
        match r with
        | .inl got' =>
            len - got'.length < len - got.length ∧
              got'.length ≤ len ∧
                Books (more taken h got') put none w
        | .inr got' =>
            got'.length ≤ len ∧
              Books (more taken h got') put none w) := by
  apply Sound.of_fact
  intro hLe
  unfold readRound
  by_cases hMore : got.length < len
  · rw [if_pos hMore]
    refine
      Sound.bind
        (M := fun isEmpty w =>
          Books (more taken h got) put none w ∧
            (isEmpty = false → (w.st h).rx.waiting ≠ []))
        ((read_books (F := fun _ => True)
          (f := fun u => u.rx.isEmpty) lasts_true ?_).pre
            (fun w hBooks => ⟨hBooks, trivial⟩)) ?_
    · intro w hBooks _
      refine ⟨hBooks, ?_⟩
      intro hSome hNil
      rw [(Ring.isEmpty_iff (hBooks.account h).rx).mpr hNil]
        at hSome
      cases hSome
    intro isEmpty
    cases isEmpty with
    | true => exact Sound.ret (fun w hPre => ⟨hLe, hPre.1⟩)
    | false =>
        rw [if_neg Bool.false_ne_true]
        refine
          Sound.bind
            (M := fun c w =>
              Books (more taken h got) put none w ∧
                ∃ rest, (w.st h).rx.waiting = c :: rest)
            ((read_books
              (F := fun u => u.rx.waiting ≠ [])
              (f := fun u => u.rx.data u.rx.tail)
              lasts_some ?_).pre
                (fun w hPre => ⟨hPre.1, hPre.2 rfl⟩)) ?_
        · intro w hBooks hSome
          have hRx := (hBooks.account h).rx
          have hFront :
              (w.st h).rx.isEmpty = false := by
            apply Bool.eq_false_of_not_eq_true
            rw [Ring.isEmpty_iff hRx]
            exact hSome
          exact ⟨hBooks, _, Ring.waiting_pop hRx hFront⟩
        intro c
        refine
          (record_books none (lasts_front c) ?_ ?_
            (fun _ _ hNot => hNot)).bind ?_
        · rintro u hRx _ ⟨rest, hFront⟩ _ _ _ _ hAccount
          have hSome : u.rx.isEmpty = false := by
            apply Bool.eq_false_of_not_eq_true
            rw [Ring.isEmpty_iff hRx, hFront]
            exact List.cons_ne_nil _ _
          have hPop := Ring.waiting_pop hRx hSome
          have hByte : u.rx.data u.rx.tail = c := by
            rw [hFront] at hPop
            exact (List.cons.inj hPop).1.symm
          have hReceived := hAccount.received
          rw [hPop, hByte] at hReceived
          refine
            ⟨hAccount.rx.drop, hAccount.tx, ?_, ?_⟩
          · simp [pick, hReceived]
          · simpa [pick] using hAccount.sent
        · intro u _ hWakes hNot
          exact hWakes hNot
        intro _
        apply Sound.ret
        intro w hBooks
        simp only [pick, more_nil, more_more, reduceIte,
          List.nil_append, reduceCtorEq] at hBooks
        have hLonger : (got ++ [c]).length = got.length + 1 := by
          simp
        refine ⟨?_, ?_, hBooks⟩
        · omega
        · omega
  · rw [if_neg hMore]
    exact Sound.ret (fun w hBooks => ⟨hLe, hBooks⟩)

/- Whether a line has its interrupt still to be switched on. -/
def owing (h i : Nat) : Option Nat :=
  if i = 0 then none else some h

theorem owing_other
    {h h' : Nat}
    (i : Nat)
    (hOther : h' ≠ h) :
    owing h i ≠ some h' := by
  unfold owing
  split
  · intro hSame
    cases hSame
  · intro hSame
    exact hOther (Option.some.inj hSame).symm

/- A round of the loop of `usart_write` puts a byte. -/
theorem writeRound_books
    {data : Bytes}
    (s : Nat × Bytes) :
    Sound usartSignal
      (fun w =>
        (s.2 = data.drop s.1 ∧ s.1 ≤ data.length) ∧
          Books taken (more put h (data.take s.1))
            (owing h s.1) w)
      (writeRound h s)
      (fun r w =>
        match r with
        | .inl s' =>
            s'.2.length < s.2.length ∧
              (s'.2 = data.drop s'.1 ∧ s'.1 ≤ data.length) ∧
                Books taken (more put h (data.take s'.1))
                  (owing h s'.1) w
        | .inr i =>
            i ≤ data.length ∧
              Books taken (more put h (data.take i))
                (owing h i) w) := by
  rcases s with ⟨i, rest⟩
  apply Sound.of_fact
  rintro ⟨hRest, hLe⟩
  unfold writeRound
  cases rest with
  | nil => exact Sound.ret (fun w hBooks => ⟨hLe, hBooks⟩)
  | cons c rest =>
      have hIn : i < data.length := by
        have hLength := congrArg List.length hRest
        rw [List.length_cons, List.length_drop] at hLength
        omega
      have hSplit := List.drop_eq_getElem_cons hIn
      have hNow : data[i] = c ∧ data.drop (i + 1) = rest := by
        rw [← hRest] at hSplit
        injection hSplit with hByte hTail
        exact ⟨hByte.symm, hTail.symm⟩
      refine
        Sound.bind
          (M := fun head w =>
            Books taken (more put h (data.take i)) (owing h i) w ∧
              (w.st h).tx.next (w.st h).tx.head = head)
          ((read_books (f := fun u => u.tx.next u.tx.head)
            lasts_true (fun w hBooks _ => ⟨hBooks, rfl⟩)).pre
              (fun w hBooks => ⟨hBooks, trivial⟩)) ?_
      intro head
      refine
        Sound.bind
          (M := fun tail w =>
            Books taken (more put h (data.take i)) (owing h i) w ∧
              ((head == tail) = false → Room head (w.st h)))
          (read_books (f := fun u => u.tx.tail)
            (lasts_next head) ?_) ?_
      · intro w hBooks hNext
        refine ⟨hBooks, ?_⟩
        intro hNot
        refine ⟨hNext, ?_⟩
        rw [Ring.isFull, hNext]
        exact hNot
      intro tail
      cases hFull : head == tail with
      | true =>
          exact Sound.ret (fun w hPre => ⟨hLe, hPre.1⟩)
      | false =>
          rw [if_neg Bool.false_ne_true]
          refine
            Sound.bind
              (M := fun _ w =>
                Books taken (more put h (data.take i))
                    (owing h i) w ∧
                  Room head (w.st h) ∧
                    (w.st h).tx.data (w.st h).tx.head = c)
              ((change_books (owing h i) (F := Room head)
                (G := fun u =>
                  Room head u ∧ u.tx.data u.tx.head = c)
                (lasts_room head) ?_ ?_ ?_
                (fun _ _ hNot => hNot)).pre
                  (fun w hPre => ⟨hPre.1, hPre.2 rfl⟩)) ?_
          · intro u hTx _ _ _ _ _ hAccount
            have hSent := hAccount.sent
            rw [← Ring.waiting_fill hTx c] at hSent
            simp only [pick, List.append_nil]
            exact
              ⟨hAccount.rx, hAccount.tx.fill c,
                hAccount.received, hSent⟩
          · intro u hTx _ hWakes hNot hSome
            apply hWakes hNot
            rw [← Ring.waiting_fill hTx c]
            exact hSome
          · intro u _ hRoom
            exact
              ⟨⟨hRoom.next, hRoom.room⟩,
                Function.update_self _ _ _⟩
          intro _
          refine
            (record_books (some h)
              (lasts_filled head c) ?_ ?_ ?_).bind ?_
          · rintro u _ hTx ⟨hRoom, hByte⟩ _ _ _ _ hAccount
            have hAdvance :
                { u.tx with head := head } = u.tx.advance := by
              rw [Ring.advance, hRoom.next]
            have hSent := hAccount.sent
            rw [hAdvance]
            refine
              ⟨hAccount.rx, hAccount.tx.advance, ?_, ?_⟩
            · simpa [pick] using hAccount.received
            · simp [pick, Ring.waiting_advance hTx hRoom.room,
                hByte, hSent]
          · intro _ _ _ hNot
            exact absurd rfl hNot
          · intro h' hOther _
            exact owing_other i hOther
          intro _
          apply Sound.ret
          intro w hBooks
          have hTake :
              data.take i ++ [c] = data.take (i + 1) := by
            rw [List.take_succ_eq_append_getElem hIn, hNow.1]
          simp only [pick, more_nil, more_more, reduceIte,
            List.nil_append, reduceCtorEq, hTake] at hBooks
          refine
            ⟨Nat.lt_succ_self _, ⟨hNow.2.symm, hIn⟩, ?_⟩
          exact hBooks

/- The interrupt is switched on. -/
theorem enableTxe_books :
    Sound usartSignal (Books taken put (some h)) (enableTxe h)
      (fun _ => Books taken put none) := by
  refine
    Sound.bind
      (M := fun _ w => Books taken put (some h) w ∧ True)
      ((read_books (f := fun u => u.enabled) lasts_true
        (fun w hBooks _ => ⟨hBooks, trivial⟩)).pre
          (fun w hBooks => ⟨hBooks, trivial⟩)) ?_
  intro on
  refine
    (change_books none (G := fun _ => True) lasts_true ?_ ?_
      (fun _ _ _ => trivial) ?_).post ?_
  · intro u _ _ _ _ _ _ hAccount
    simp only [pick, List.append_nil]
    exact
      ⟨hAccount.rx, hAccount.tx, hAccount.received,
        hAccount.sent⟩
  · intro _ _ _ _ _ _
    rfl
  · intro h' hOther _ hSame
    exact hOther (Option.some.inj hSame).symm
  · intro _ w hPre
    exact hPre.1

end Stm32

end TrustOnboard

------------------------------------------------------------
-- Calls
------------------------------------------------------------

namespace TrustOnboard

namespace Stm32

variable {taken put : Nat → Bytes}
variable {h : Nat}

/- A line is looked for. -/
theorem usartGetByHandle_books
    (hEntry : h ≠ usartCount) :
    Sound usartSignal (Books taken put none)
      (usartGetByHandle h)
      (fun _ => Books taken put none) := by
  unfold usartGetByHandle
  rw [if_neg hEntry]
  split <;> exact Sound.ret (fun _ hBooks => hBooks)

/- `usart_write` puts the bytes it says at the end. -/
theorem usartPut_books
    (hEntry : h ≠ usartCount)
    (data : Bytes) :
    Sound usartSignal (Books taken put none) (usartPut h data)
      (fun r w =>
        r.getD 0 ≤ data.length ∧
          Books taken (more put h (data.take (r.getD 0))) none
            w) := by
  have hNothing :
      ∀ w, Books taken put none w →
        0 ≤ data.length ∧
          Books taken (more put h (data.take 0)) none w := by
    intro w hBooks
    rw [List.take_zero, more_nil]
    exact ⟨Nat.zero_le _, hBooks⟩
  unfold usartPut
  refine (usartGetByHandle_books hEntry).bind ?_
  intro found
  split
  · refine
      Sound.bind (M := fun _ => Books taken put none)
        (Sound.read (lasting_books_only _ _ _)
          (fun _ hBooks => hBooks)) ?_
    intro on
    split
    · refine
        Sound.bind
          ((Sound.loop
            (R := fun (s : Nat × Bytes) w =>
              (s.2 = data.drop s.1 ∧ s.1 ≤ data.length) ∧
                Books taken (more put h (data.take s.1))
                  (owing h s.1) w)
            (Q := fun i w =>
              i ≤ data.length ∧
                Books taken (more put h (data.take i))
                  (owing h i) w)
            (fun s => s.2.length)
            (fun s =>
              (writeRound_books s).post (fun r w hPost => by
                cases r <;> exact hPost))
            (Nat.lt_succ_self _)).pre
              (fun w hBooks =>
                ⟨⟨rfl, Nat.zero_le _⟩, (hNothing w hBooks).2⟩))
          ?_
      intro i
      apply Sound.of_fact
      intro hLe
      by_cases hZero : i = 0
      · subst hZero
        exact Sound.ret (fun w hBooks => ⟨hLe, hBooks⟩)
      · rw [if_pos hZero, owing, if_neg hZero]
        refine enableTxe_books.bind ?_
        intro _
        exact Sound.ret (fun w hBooks => ⟨hLe, hBooks⟩)
    · exact Sound.ret hNothing
  · exact Sound.ret hNothing

/- Nothing but the debug line is written to here. -/
theorem copyForDebugging_books
    (h : Nat)
    (data : Bytes) :
    Sound usartSignal (Books taken put none)
      (copyForDebugging h data)
      (fun _ w =>
        ∃ put', (∀ h' ≠ usartDbg, put' h' = put h') ∧
          Books taken put' none w) := by
  unfold copyForDebugging
  split
  · have hEntry : usartDbg ≠ usartCount := by decide
    refine (usartPut_books hEntry data).bind ?_
    intro r
    apply Sound.ret
    rintro w ⟨_, hBooks⟩
    exact ⟨_, fun h' hOther => more_other _ _ hOther, hBooks⟩
  · exact Sound.ret (fun w hBooks => ⟨put, fun _ _ => rfl, hBooks⟩)

theorem usartWrite_books
    (hEntry : h ≠ usartCount)
    (data : Bytes) :
    Sound usartSignal (Books taken put none) (usartWrite h data)
      (fun r w =>
        ∃ put',
          (∀ h' ≠ usartDbg,
            put' h' =
              more put h (data.take (r.getD 0)) h') ∧
            Books taken put' none w) := by
  unfold usartWrite
  refine (usartPut_books hEntry data).bind ?_
  intro r
  apply Sound.of_fact
  intro _
  cases r with
  | none =>
      exact
        Sound.ret (fun w hBooks => ⟨_, fun _ _ => rfl, hBooks⟩)
  | some i =>
      refine (copyForDebugging_books h _).bind ?_
      intro _
      exact Sound.ret (fun w hBooks => hBooks)

/- `usart_read` takes the bytes it gives from the start. -/
theorem usartRead_books
    (hEntry : h ≠ usartCount)
    (len : Nat) :
    Sound usartSignal (Books taken put none) (usartRead h len)
      (fun r w =>
        (r.getD []).length ≤ len ∧
          ∃ put', (∀ h' ≠ usartDbg, put' h' = put h') ∧
            Books (more taken h (r.getD [])) put' none w) := by
  have hNothing :
      ∀ w, Books taken put none w →
        0 ≤ len ∧
          ∃ put', (∀ h' ≠ usartDbg, put' h' = put h') ∧
            Books (more taken h []) put' none w := by
    intro w hBooks
    rw [more_nil]
    exact ⟨Nat.zero_le _, put, fun _ _ => rfl, hBooks⟩
  unfold usartRead
  refine (usartGetByHandle_books hEntry).bind ?_
  intro found
  split
  · refine
      Sound.bind (M := fun _ => Books taken put none)
        (Sound.read (lasting_books_only _ _ _)
          (fun _ hBooks => hBooks)) ?_
    intro on
    split
    · refine
        Sound.bind
          ((Sound.loop
            (R := fun (got : Bytes) w =>
              got.length ≤ len ∧
                Books (more taken h got) put none w)
            (Q := fun (got : Bytes) w =>
              got.length ≤ len ∧
                Books (more taken h got) put none w)
            (fun got => len - got.length)
            (fun got =>
              (readRound_books got).post (fun r w hPost => by
                cases r <;> exact hPost))
            (Nat.lt_succ_of_le (Nat.sub_le _ _))).pre
              (fun w hBooks => ⟨Nat.zero_le _, by
                rw [more_nil]
                exact hBooks⟩)) ?_
      intro got
      apply Sound.of_fact
      intro hLe
      refine (copyForDebugging_books h got).bind ?_
      intro _
      exact Sound.ret (fun w hBooks => ⟨hLe, hBooks⟩)
    · exact Sound.ret hNothing
  · exact Sound.ret hNothing

end Stm32

end TrustOnboard

------------------------------------------------------------
-- Runs
------------------------------------------------------------

namespace TrustOnboard

namespace Stm32

/- A call of the program. -/
inductive Op where
  | read (h len : Nat)
  | write (h : Nat) (data : Bytes)

/- The handle it is made for. -/
def Op.handle : Op → Nat
  | .read h _ => h
  | .write h _ => h

/- The bytes a call got from a line or has put on it. -/
structure Moved where
  handle : Nat
  got : Bytes
  gave : Bytes

/- A call and the bytes it moves. -/
def Op.run : Op → Code Moved
  | .read h len => do
      let got ← usartRead h len
      pure ⟨h, got.getD [], []⟩
  | .write h data => do
      let n ← usartWrite h data
      pure ⟨h, [], data.take (n.getD 0)⟩

/- Calls in a row. -/
def perform : List Op → Code (List Moved)
  | [] => pure []
  | op :: ops => do
      let m ← op.run
      let ms ← perform ops
      pure (m :: ms)

/- What a line gave to the calls. -/
def gotFrom (h : Nat) (ms : List Moved) : Bytes :=
  ms.flatMap (fun m => if m.handle = h then m.got else [])

/- What it has from them. -/
def givenTo (h : Nat) (ms : List Moved) : Bytes :=
  ms.flatMap (fun m => if m.handle = h then m.gave else [])

theorem more_eq_append
    (f : Nat → Bytes)
    (h h' : Nat)
    (bs : Bytes) :
    more f h bs h' = f h' ++ if h = h' then bs else [] := by
  by_cases hSame : h' = h
  · subst hSame
    simp
  · rw [more_other _ _ hSame, if_neg (Ne.symm hSame),
      List.append_nil]

/- A call keeps the books. -/
theorem opRun_books
    {taken put : Nat → Bytes}
    {op : Op}
    (hEntry : op.handle ≠ usartCount) :
    Sound usartSignal (Books taken put none) op.run
      (fun m w =>
        ∃ put',
          (∀ h ≠ usartDbg,
            put' h = put h ++ givenTo h [m]) ∧
            Books (fun h => taken h ++ gotFrom h [m]) put' none
              w) := by
  cases op with
  | read h len =>
      refine (usartRead_books (h := h) hEntry len).bind ?_
      intro r
      apply Sound.of_fact
      intro _
      apply Sound.ret
      rintro w ⟨put', hPut, hBooks⟩
      refine ⟨put', ?_, ?_⟩
      · intro h' hOther
        rw [hPut h' hOther]
        simp [givenTo]
      · have hTaken :
            more taken h (r.getD []) =
              fun h' =>
                taken h' ++ gotFrom h' [⟨h, r.getD [], []⟩] := by
          funext h'
          rw [more_eq_append]
          simp [gotFrom]
        rw [hTaken] at hBooks
        exact hBooks
  | write h data =>
      refine (usartWrite_books (h := h) hEntry data).bind ?_
      intro r
      apply Sound.ret
      rintro w ⟨put', hPut, hBooks⟩
      refine ⟨put', ?_, ?_⟩
      · intro h' hOther
        rw [hPut h' hOther, more_eq_append]
        simp [givenTo]
      · have hTaken :
            taken =
              fun h' =>
                taken h' ++
                  gotFrom h' [⟨h, [], data.take (r.getD 0)⟩] := by
          funext h'
          simp [gotFrom]
        rw [hTaken] at hBooks
        exact hBooks

theorem gotFrom_cons
    (h : Nat)
    (m : Moved)
    (ms : List Moved) :
    gotFrom h (m :: ms) = gotFrom h [m] ++ gotFrom h ms := by
  simp [gotFrom]

theorem givenTo_cons
    (h : Nat)
    (m : Moved)
    (ms : List Moved) :
    givenTo h (m :: ms) = givenTo h [m] ++ givenTo h ms := by
  simp [givenTo]

/- And so do calls in a row. -/
theorem perform_books
    {taken put : Nat → Bytes}
    {ops : List Op}
    (hEntry : ∀ op ∈ ops, op.handle ≠ usartCount) :
    Sound usartSignal (Books taken put none) (perform ops)
      (fun ms w =>
        ∃ put',
          (∀ h ≠ usartDbg, put' h = put h ++ givenTo h ms) ∧
            Books (fun h => taken h ++ gotFrom h ms) put' none
              w) := by
  induction ops generalizing taken put with
  | nil =>
      apply Sound.ret
      intro w hBooks
      refine ⟨put, ?_, ?_⟩
      · intro h _
        exact (List.append_nil _).symm
      · have hTaken : taken = fun h => taken h ++ gotFrom h [] := by
          funext h
          exact (List.append_nil _).symm
        rw [hTaken] at hBooks
        exact hBooks
  | cons op ops ih =>
      refine
        (opRun_books (hEntry op List.mem_cons_self)).bind ?_
      intro m
      apply Sound.exists_pre
      intro put'
      apply Sound.of_fact
      intro hPut
      have hEntries :
          ∀ op ∈ ops, op.handle ≠ usartCount :=
        fun op hOp => hEntry op (List.mem_cons_of_mem _ hOp)
      refine (ih hEntries).bind ?_
      intro ms
      apply Sound.ret
      rintro w ⟨put'', hPut', hBooks⟩
      refine ⟨put'', ?_, ?_⟩
      · intro h hOther
        rw [hPut' h hOther, hPut h hOther, givenTo_cons h m ms,
          List.append_assoc]
      · simp only [List.append_assoc, ← gotFrom_cons] at hBooks
        exact hBooks

/- A line that was just opened. -/
structure Opened (u : Usart) : Prop where
  rx : 0 < u.rx.size ∧ u.rx.head = 0 ∧ u.rx.tail = 0
  tx : 0 < u.tx.size ∧ u.tx.head = 0 ∧ u.tx.tail = 0
  idle : u.rdr = none ∧ u.tdr = none

/- A line is opened with nothing on it. -/
theorem opened_open
    {u : Usart}
    (hRx : 0 < u.rx.size)
    (hTx : 0 < u.tx.size)
    (hIdle : u.rdr = none ∧ u.tdr = none) :
    Opened u.open :=
  ⟨⟨hRx, rfl, rfl⟩, ⟨hTx, rfl, rfl⟩, hIdle⟩

/- A ring whose places meet at the start. -/
theorem ring_opened
    {r : Ring UInt8}
    (hOpened : 0 < r.size ∧ r.head = 0 ∧ r.tail = 0) :
    r.Within ∧ r.waiting = [] := by
  rcases r with ⟨head, tail, size, data⟩
  rcases hOpened with ⟨hSome, rfl, rfl⟩
  exact ⟨Ring.within_empty data hSome, Ring.waiting_empty data⟩

/- The books are opened with the lines. -/
theorem books_opened
    {s : Usarts}
    (hOpened : ∀ h, Opened (s h)) :
    Books (fun _ => []) (fun _ => []) none ⟨s, []⟩ := by
  refine ⟨?_, fun _ => rfl, fun _ => rfl, ?_⟩
  · intro h
    have hRx := ring_opened (hOpened h).rx
    have hTx := ring_opened (hOpened h).tx
    refine ⟨hRx.1, hTx.1, ?_, ?_⟩
    · change [] = [] ++ ((s h).rx.waiting ++ (s h).rdr.toList)
      rw [hRx.2, (hOpened h).idle.1]
      rfl
    · change [] = [] ++ ((s h).tdr.toList ++ (s h).tx.waiting)
      rw [hTx.2, (hOpened h).idle.2]
      rfl
  · intro h _ hSome
    exact absurd (ring_opened (hOpened h).tx).2 hSome

/- Any calls, with anything in between, end with the books. -/
theorem perform_opened
    {ops : List Op}
    (hEntry : ∀ op ∈ ops, op.handle ≠ usartCount)
    (sch : Schedule (Nat × Signal))
    {s : Usarts}
    (hOpened : ∀ h, Opened (s h)) :
    ∃ ms w' put,
      ((perform ops).interrupted usartSignal).run
          ⟨(s, sch), []⟩ = (some ms, w') ∧
        (∀ h ≠ usartDbg, put h = givenTo h ms) ∧
          Books (fun h => gotFrom h ms) put none w'.base := by
  rcases
      perform_books hEntry ⟨(s, sch), []⟩ (books_opened hOpened)
    with ⟨ms, w', hRun, put, hPut, hBooks⟩
  refine ⟨ms, w', put, hRun, ?_, ?_⟩
  · intro h hOther
    rw [hPut h hOther, List.nil_append]
  · simp only [List.nil_append] at hBooks
    exact hBooks

/-
  Calls of `usart_read` and `usart_write` on lines that were
  just opened, with bytes arriving and leaving and handlers
  running between any two of their accesses, always return,
  but for the handle behind the last entry of `m_usart`.
  What the reads of a line gave and what still waits there is
  what arrived, in its order; what left and what still waits
  to leave is what the writes say they have put, on every
  line but the one for debugging, which gets copies too; and
  where something waits the interrupt is on.
-/
theorem usart_run
    (ops : List Op)
    (sch : Schedule (Nat × Signal))
    (s : Usarts)
    (hEntry : ∀ op ∈ ops, op.handle ≠ usartCount)
    (hOpened : ∀ h, Opened (s h)) :
    ∃ ms w',
      ((perform ops).interrupted usartSignal).run
          ⟨(s, sch), []⟩ = (some ms, w') ∧
        ∀ h,
          recorded .arrived h w'.log =
              gotFrom h ms ++ ((w'.st.1 h).rx.waiting ++
                (w'.st.1 h).rdr.toList) ∧
            (h ≠ usartDbg →
              givenTo h ms =
                recorded .left h w'.log ++
                  ((w'.st.1 h).tdr.toList ++
                    (w'.st.1 h).tx.waiting)) ∧
              (w'.st.1 h).Wakes := by
  rcases perform_opened hEntry sch hOpened with
    ⟨ms, w', put, hRun, hPut, hBooks⟩
  refine ⟨ms, w', hRun, ?_⟩
  intro h
  have hAccount := hBooks.account h
  refine
    ⟨hAccount.received, ?_,
      hBooks.wakes h (fun hNo => nomatch hNo)⟩
  intro hOther
  rw [← hPut h hOther]
  exact hAccount.sent

/- Lines with four places and two, opened. -/
def fourPlaces : Usarts := fun _ =>
  Usart.open
    { enabled := false
      txeie := false
      rdr := none
      tdr := none
      rx := Ring.empty 4 (fun _ => 0)
      tx := Ring.empty 2 (fun _ => 0) }

theorem opened_fourPlaces (h : Nat) : Opened (fourPlaces h) :=
  opened_open (Nat.succ_pos 3) (Nat.succ_pos 1) ⟨rfl, rfl⟩

/- Two bytes arrive while one is read. -/
theorem usart_run_fourPlaces :
    ∃ ms w',
      ((perform [.read 1 1, .write 1 [7, 8]]).interrupted
          usartSignal).run
          ⟨(fourPlaces,
            [[(1, .arrives 5), (1, .interrupt)], [],
              [(1, .arrives 6), (1, .interrupt)]]), []⟩ =
          (some ms, w') ∧
        ∀ h,
          recorded .arrived h w'.log =
              gotFrom h ms ++ ((w'.st.1 h).rx.waiting ++
                (w'.st.1 h).rdr.toList) ∧
            (h ≠ usartDbg →
              givenTo h ms =
                recorded .left h w'.log ++
                  ((w'.st.1 h).tdr.toList ++
                    (w'.st.1 h).tx.waiting)) ∧
              (w'.st.1 h).Wakes :=
  usart_run [.read 1 1, .write 1 [7, 8]]
    [[(1, .arrives 5), (1, .interrupt)], [],
      [(1, .arrives 6), (1, .interrupt)]]
    fourPlaces (by decide) opened_fourPlaces

/- The hardware of a line left to itself. -/
def draining (h n : Nat) : List (Nat × Signal) :=
  (List.replicate n [(h, .interrupt), (h, .leaves)]).flatten

/- What is still to leave a line. -/
def Usart.pending (u : Usart) : Bytes :=
  u.tdr.toList ++ u.tx.waiting

/- A handler and a byte sent: one byte less is to leave. -/
theorem pending_round
    {u : Usart}
    (hTx : u.tx.Within)
    (hWakes : u.Wakes) :
    (usartIrqHandler u).leave.1.pending = u.pending.drop 1 := by
  have hTake :
      u.receive.tx = u.tx ∧ u.receive.tdr = u.tdr ∧
        u.receive.txeie = u.txeie := by
    rcases receive_cases u with
      hAfter | ⟨_, _, _, hAfter⟩ <;> rw [hAfter]
    · exact ⟨rfl, rfl, rfl⟩
    · exact ⟨rfl, rfl, rfl⟩
  unfold usartIrqHandler Usart.transmit Usart.pending
  rw [hTake.1, hTake.2.1, hTake.2.2]
  cases hByte : u.tdr with
  | some c =>
      -- The handler has to wait for the register.
      simp [Usart.leave, hTake.1, hTake.2.1, hByte]
  | none =>
      by_cases hEmpty : u.tx.isEmpty = true
      · have hNil := (Ring.isEmpty_iff hTx).mp hEmpty
        cases u.txeie <;>
          simp [Usart.leave, hTake.1, hTake.2.1, hByte, hEmpty,
            hNil]
      · have hSome := Bool.eq_false_of_not_eq_true hEmpty
        have hPop := Ring.waiting_pop hTx hSome
        have hOn : u.txeie = true := by
          apply hWakes
          rw [hPop]
          exact List.cons_ne_nil _ _
        simp [Usart.leave, hOn, hSome, hPop]

/- Rounds of it leave nothing. -/
theorem draining_books
    {taken put : Nat → Bytes}
    {w : World Usarts Event}
    {h n : Nat}
    (hBooks : Books taken put none w)
    (hEnough : (w.st h).pending.length ≤ n) :
    recorded .left h (w.signals usartSignal (draining h n)).log =
      put h := by
  induction n generalizing w with
  | zero =>
      have hNil : (w.st h).pending = [] :=
        List.eq_nil_of_length_eq_zero
          (Nat.eq_zero_of_le_zero hEnough)
      have hSent := (hBooks.account h).sent
      unfold Usart.pending at hNil
      rw [hNil, List.append_nil] at hSent
      exact hSent.symm
  | succ n ih =>
      have hLasts := lasting_books_only taken put none
      have hAfter :=
        hLasts.signals hBooks [(h, .interrupt), (h, .leaves)]
      have hState :
          (w.signals usartSignal
              [(h, .interrupt), (h, .leaves)]).st h =
            (usartIrqHandler (w.st h)).leave.1 := by
        simp [World.signals, World.signal, usartSignal,
          Signal.act]
      have hRound :=
        pending_round (hBooks.account h).tx
          (hBooks.wakes h (fun hNo => nomatch hNo))
      have hRest :=
        ih hAfter (by
          rw [hState, hRound, List.length_drop]
          omega)
      exact hRest

/-
  Nothing is forgotten.  Once the hardware is left to itself,
  and has room for a byte more often than bytes wait, all
  that the writes have put on a line has left it.  The line
  for debugging is left out: copies leave it too.
-/
theorem usart_drains
    (ops : List Op)
    (sch : Schedule (Nat × Signal))
    (s : Usarts)
    (hEntry : ∀ op ∈ ops, op.handle ≠ usartCount)
    (hOpened : ∀ h, Opened (s h)) :
    ∃ ms w',
      ((perform ops).interrupted usartSignal).run
          ⟨(s, sch), []⟩ = (some ms, w') ∧
        ∀ h n,
          h ≠ usartDbg →
            (w'.st.1 h).tx.waiting.length < n →
              recorded .left h
                  (w'.base.signals usartSignal
                    (draining h n)).log =
                givenTo h ms := by
  rcases perform_opened hEntry sch hOpened with
    ⟨ms, w', put, hRun, hPut, hBooks⟩
  refine ⟨ms, w', hRun, ?_⟩
  intro h n hOther hEnough
  rw [← hPut h hOther]
  apply draining_books hBooks
  have hByte : (w'.st.1 h).tdr.toList.length ≤ 1 := by
    cases (w'.st.1 h).tdr with
    | none => exact Nat.zero_le 1
    | some c => exact Nat.le_refl 1
  change
    ((w'.st.1 h).tdr.toList ++ (w'.st.1 h).tx.waiting).length ≤ n
  rw [List.length_append]
  omega

/- Two bytes are put where one leaves in between. -/
theorem usart_drains_fourPlaces :
    ∃ ms w',
      ((perform [.write 1 [7, 8]]).interrupted usartSignal).run
          ⟨(fourPlaces, [[(1, .interrupt)]]), []⟩ =
          (some ms, w') ∧
        ∀ h n,
          h ≠ usartDbg →
            (w'.st.1 h).tx.waiting.length < n →
              recorded .left h
                  (w'.base.signals usartSignal
                    (draining h n)).log =
                givenTo h ms :=
  usart_drains [.write 1 [7, 8]] [[(1, .interrupt)]] fourPlaces
    (by decide) opened_fourPlaces

end Stm32

end TrustOnboard
