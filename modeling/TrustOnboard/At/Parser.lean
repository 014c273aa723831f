import TrustOnboard.Program.Basic
import TrustOnboard.Memory.Text

/-
  The reader of a modem's answers, `at_parser.c`.

  The modem is a parameter.  It hears the bytes that are sent
  to it one by one and may answer each of them.  An answer
  comes with its timing: a slot is what one look at the
  receive buffer finds, a byte or nothing yet.

  Key definitions include:
    * `Slots`
    * `Modem`
    * `Device`
    * `atHashMapContains`
    * `atProcessRecv`
    * `atLock`
    * `atWaitForResponse`
    * `atRead`
-/

------------------------------------------------------------
-- The Modem And The Line To It
------------------------------------------------------------

namespace TrustOnboard

namespace At

/- What successive looks at the receive buffer find. -/
abbrev Slots := List (Option UInt8)

/- The bytes that are going to be found. -/
def Slots.text (ss : Slots) : Bytes :=
  ss.reduceOption

/-
  What a read of at most `n` bytes takes: the bytes up to the
  first look that finds nothing.
-/
def Slots.available : Nat → Slots → Bytes × Slots
  | 0, ss => ([], ss)
  | _ + 1, [] => ([], [])
  | _ + 1, none :: ss => ([], ss)
  | n + 1, some c :: ss =>
      (c :: (available n ss).1, (available n ss).2)

/- A modem, over a state. -/
structure Modem (K : Type) where
  hear : UInt8 → K → Slots × K

variable {K : Type}

/- What the modem answers to some bytes. -/
def Modem.hears
    (modem : Modem K) : Bytes → K → Slots × K
  | [], k => ([], k)
  | c :: cs, k =>
      ((modem.hear c k).1 ++ (modem.hears cs (modem.hear c k).2).1,
        (modem.hears cs (modem.hear c k).2).2)

/-
  The lock of `at_t`, the line, the modem at its end, and the
  memory the caller has an answer put into with the length it
  is told.
-/
structure Device (K : Type) where
  locked : Bool
  slots : Slots
  memory : Buffer
  length : Nat
  env : K

/- What a run makes visible. -/
inductive Event where
  | sent (bs : Bytes)
  | stored (off : Nat) (bs : Bytes)
  deriving DecidableEq, Repr

abbrev Code (K : Type) := Prog (Device K) Event

abbrev Run (K : Type) := World (Device K) Event

/- `usart_read`: the bytes that are there. -/
def usartRead (n : Nat) : Code K Bytes :=
  Prog.step (fun d =>
    ((d.slots.available n).1,
      { d with slots := (d.slots.available n).2 }, []))

/- The device with some bytes sent to the modem. -/
def Device.send
    (modem : Modem K)
    (bs : Bytes)
    (d : Device K) : Device K :=
  { d with
    slots := d.slots ++ (modem.hears bs d.env).1
    env := (modem.hears bs d.env).2 }

/- `at_print` of what the conversions give. -/
def atPrint
    (modem : Modem K)
    (bs : Bytes) : Code K Unit :=
  Prog.step (fun d => ((), d.send modem bs, [.sent bs]))

/- `at_write`. -/
def atWrite
    (modem : Modem K)
    (bs : Bytes) : Code K Unit :=
  Prog.step (fun d => ((), d.send modem bs, [.sent bs]))

/- Tell the caller a length, a `uint16_t`. -/
def setLength (f : Nat → Nat) : Code K Unit :=
  Prog.modify (fun d => { d with length := f d.length % 2 ^ 16 })

/- Put bytes into the memory of the caller. -/
def store
    (off : Nat)
    (bs : Bytes) : Code K Unit :=
  Prog.step (fun d =>
    ((), { d with memory := d.memory.store off bs },
      [.stored off bs]))

end At

end TrustOnboard

------------------------------------------------------------
-- Events Of The Modem
------------------------------------------------------------

namespace TrustOnboard

namespace At

/- The events of `at_parser.h` and `modem.c` in use. -/
inductive AtEvent where
  | timeout
  | commandSuccess
  | commandFailure
  | sysloading
  | sysstart
  | cmeError
  | cpinReady
  | cpinSimPin
  | creg
  | sisi1
  | sisr1
  | sisw1
  | csim
  deriving DecidableEq, Repr

/- The events that end a command. -/
def AtEvent.isResponse (e : AtEvent) : Bool :=
  e == .commandSuccess || e == .commandFailure

/- `m_modem_generic_table`. -/
def modemGenericTable : List (UInt32 × AtEvent) :=
  [(0x7c89a236, .commandSuccess),
    (0x88718ac6, .commandFailure),
    (0xca2f91d7, .sysloading),
    (0x09565007, .sysstart),
    (0x5e224a29, .commandFailure),
    (0x8f0ad8e0, .cpinReady),
    (0xe9e8a4fb, .cpinSimPin),
    (0x7117678b, .creg),
    (0x0b66e692, .sisi1),
    (0x0c09c31b, .sisr1),
    (0x0c643da0, .sisw1),
    (0x711805b6, .csim)]

/- `at_hash_map_contains`, the specific table being empty. -/
def atHashMapContains (hash : UInt32) : Option AtEvent :=
  modemGenericTable.lookup hash

/- One step of the hash. -/
def djb2 (hash : UInt32) (c : UInt8) : UInt32 :=
  ((hash <<< 5) + hash) + c.toUInt32

/- The bytes that are skipped in front of a line. -/
def isBlank (c : UInt8) : Bool :=
  c == 32 || c == 13 || c == 10

/- The bytes behind which the table is looked at. -/
def isDelimiter (c : UInt8) : Bool :=
  c == 10 || c == 62 || c == 44 || c == 58

end At

end TrustOnboard

------------------------------------------------------------
-- Reading
------------------------------------------------------------

namespace TrustOnboard

namespace At

variable {K : Type}

/- `at_unlock`. -/
def atUnlock : Code K Unit :=
  Prog.modify (fun d => { d with locked := false })

/- The local variables of `at_process_recv`. -/
structure Line where
  read : Nat
  hash : UInt32
  c : UInt8
  deriving DecidableEq, Repr

/- The variables at the start. -/
def Line.start : Line where
  read := 0
  hash := 5381
  c := 0

/- The condition the loop goes on under. -/
def Line.next (l : Line) : Line ⊕ AtEvent :=
  if l.read ≠ 0 ∧ l.c ≠ 10 then .inl l
  else .inr .timeout

/- The variables with a byte counted. -/
def Line.count (l : Line) (c : UInt8) : Line :=
  { l with read := (l.read + 1) % 2 ^ 16, c := c }

/- The byte is a blank in front of the line. -/
def Line.skips (l : Line) (c : UInt8) : Bool :=
  (l.count c).read == 1 && isBlank c

/- The variables with a byte hashed. -/
def Line.take (l : Line) (c : UInt8) : Line :=
  { l.count c with hash := djb2 l.hash c }

/- The event a byte completes. -/
def Line.finds (l : Line) (c : UInt8) : Option AtEvent :=
  if isDelimiter c then
    atHashMapContains (l.take c).hash
  else none

/- Unlock behind the end of a command. -/
def unlockAfter (e : AtEvent) : Code K Unit :=
  if e.isResponse then atUnlock else pure ()

/- What `at_process_recv` does with a byte. -/
def recvByte
    (l : Line)
    (c : UInt8) : Code K (Line ⊕ AtEvent) :=
  if l.skips c then
    pure ({ l with read := 0, c := c } : Line).next
  else
    match l.finds c with
    | none => pure (l.take c).next
    | some e => do
        unlockAfter e
        pure (.inr e)

/- One round of `at_process_recv`. -/
def recvRound (l : Line) : Code K (Line ⊕ AtEvent) := do
  let bs ← usartRead 1
  match bs with
  | [] => pure l.next
  | c :: _ => recvByte l c

/- `at_process_recv`. -/
def atProcessRecv (fuel : Nat) : Code K AtEvent :=
  Prog.loop fuel recvRound .start

/- Stop at an event that is asked for. -/
def stopAt
    (wanted : AtEvent → Bool)
    (e : AtEvent) : Code K (Unit ⊕ AtEvent) :=
  if wanted e then pure (.inr e) else pure (.inl ())

/- Process lines up to an event that is asked for. -/
def atWaitFor
    (fuel : Nat)
    (wanted : AtEvent → Bool) : Code K AtEvent :=
  Prog.loop fuel
    (fun (_ : Unit) => atProcessRecv fuel >>= stopAt wanted)
    ()

/- `at_wait_for_response`. -/
def atWaitForResponse (fuel : Nat) : Code K AtEvent :=
  atWaitFor fuel (·.isResponse)

/- The first loop of `at_lock`. -/
def awaitUnlocked (fuel : Nat) : Code K Unit :=
  Prog.loop fuel
    (fun (_ : Unit) => do
      let locked ← Prog.read (·.locked)
      if locked then do
        let _ ← atProcessRecv fuel
        pure (.inl ())
      else
        pure (.inr ()))
    ()

/- `at_lock`. -/
def atLock (fuel : Nat) : Code K Unit := do
  awaitUnlocked fuel
  let _ ← atWaitFor fuel (· == .timeout)
  Prog.modify (fun d => { d with locked := true })

/- One round of `at_read`. -/
def readRound
    (len : Nat)
    (got : Bytes) : Code K (Bytes ⊕ Bytes) :=
  if got.length < len then do
    let bs ← usartRead (len - got.length)
    pure (.inl (got ++ bs))
  else
    pure (.inr got)

/- `at_read`: the bytes it puts into its array. -/
def atRead
    (fuel len : Nat) : Code K Bytes :=
  Prog.loop fuel (readRound len) []

/- `at_read` of one byte. -/
def atReadC (fuel : Nat) : Code K UInt8 := do
  let bs ← atRead fuel 1
  pure (bs.headD 0)

end At

end TrustOnboard
