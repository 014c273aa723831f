import TrustOnboard.At.Parser
import TrustOnboard.Memory.Hex

/-
  The AT interface of the concept board, `ATInterface.cpp`
  over `LSerial.cpp`.

  A command is printed into an allocated array of 537 bytes
  and sent from there, and the lines of the answer are read
  into the same array, one after the other.

  Key definitions include:
    * `Uart`
    * `Board`
    * `hexString2BytesArray`
    * `readLine`
    * `sendATCSIM`

  Key results include:
    * `hexString2BytesArray_spelled`
-/

------------------------------------------------------------
-- The Interface
------------------------------------------------------------

namespace TrustOnboard

namespace At

/-
  The port of the board: whether it is open, which of the
  next calls of `read` fail, and behind how many bytes a call
  of `write` fails.
-/
structure Uart where
  isOpen : Bool
  readFails : List Bool
  writeLimit : Option Nat

/- A port without failures. -/
def Uart.sound : Uart where
  isOpen := true
  readFails := []
  writeLimit := none

/- The bytes of so many that `send` gets rid of. -/
def Uart.sendable (u : Uart) (n : Nat) : Nat :=
  if u.isOpen then u.writeLimit.elim n (min n) else 0

/- The port behind a call of `read`. -/
def Uart.nextRead (u : Uart) : Uart :=
  { u with readFails := u.readFails.tail }

/-
  The allocated array, the line, the memory the caller has
  the response put into with its length, the modem and the
  port.
-/
structure Board (K : Type) where
  buf : Buffer
  slots : Slots
  memory : Buffer
  length : Nat
  env : K
  uart : Uart

/- What a run makes visible. -/
inductive BoardEvent where
  | sent (bs : Bytes)
  | filled (off len : Nat)
  | stored (bs : Bytes)
  deriving DecidableEq, Repr

variable {K : Type}

abbrev BoardCode (K : Type) := Prog (Board K) BoardEvent

abbrev BoardRun (K : Type) := World (Board K) BoardEvent

/- The size the array is allocated with. -/
def atBufferSize : Nat := 537

/- Write to the array. -/
def fill
    (off : Nat)
    (bs : Bytes) : BoardCode K Unit :=
  Prog.step (fun b =>
    ((), { b with buf := b.buf.store off bs },
      [.filled off bs.length]))

/- `sprintf`: where the next one writes. -/
def sprintf
    (off : Nat)
    (bs : Bytes) : BoardCode K Nat := do
  fill off (bs ++ [0])
  pure (off + bs.length)

/- `LSerial::send` of the first bytes of the array. -/
def serialSend
    (modem : Modem K)
    (n : Nat) : BoardCode K Bool :=
  Prog.step (fun b =>
    let bs := b.buf.load 0 (b.uart.sendable n)
    (b.uart.isOpen && b.uart.sendable n == n,
      { b with
        slots := b.slots ++ (modem.hears bs b.env).1
        env := (modem.hears bs b.env).2 },
      [.sent bs]))

/- What a call of `read` comes to. -/
inductive Look where
  | failed
  | nothing
  | byte (c : UInt8)

/- A call of `read` for one byte. -/
def serialLook : BoardCode K Look :=
  Prog.step (fun b =>
    if b.uart.readFails.headD false then
      (.failed, { b with uart := b.uart.nextRead }, [])
    else
      ((b.slots.available 1).1.head?.elim .nothing .byte,
        { b with
          slots := (b.slots.available 1).2
          uart := b.uart.nextRead },
        []))

/- `LSerial::recv` of one byte, unless it returns false. -/
def serialRecv (fuel : Nat) : BoardCode K (Option UInt8) := do
  let isOpen ← Prog.read (fun b => b.uart.isOpen)
  if isOpen then
    Prog.loop fuel
      (fun (_ : Unit) => do
        let look ← serialLook
        match look with
        | .failed => pure (.inr none)
        | .nothing => pure (.inl ())
        | .byte c => pure (.inr (some c)))
      ()
  else
    pure none

/- A round of `readLine`: a byte more of the line. -/
def lineRound
    (fuel off : Nat) : BoardCode K (Nat ⊕ Bool) := do
  let c? ← serialRecv fuel
  match c? with
  | none => pure (.inr false)
  | some c => do
      fill off [c]
      if c == 10 then pure (.inr true)
      else pure (.inl (off + 1))

/-
  `readLine` into the array.  When the port fails, the array
  keeps what has been read and what was there before.
-/
def readLine (fuel : Nat) : BoardCode K Bool :=
  Prog.loop fuel (lineRound fuel) 0

end At

end TrustOnboard

------------------------------------------------------------
-- Hexadecimal Strings
------------------------------------------------------------

namespace TrustOnboard

namespace At

/-
  `hexString2BytesArray` of `n` characters from an offset on.
  The inner loop takes two characters also where only one is
  left.
-/
def hexString2BytesArray
    (hexstr : Buffer)
    (off : Nat) : Nat → Bytes
  | 0 => []
  | 1 => [joinDigits (hexstr off) (hexstr (off + 1))]
  | n + 2 =>
      joinDigits (hexstr off) (hexstr (off + 1)) ::
        hexString2BytesArray hexstr (off + 2) n

/- A spelling in an array is read as what it spells. -/
theorem hexString2BytesArray_spelled
    {digits bs : Bytes}
    (hDigits : SpelledInHex digits bs)
    (hexstr : Buffer)
    (off : Nat)
    (hHere : hexstr.load off digits.length = digits) :
    hexString2BytesArray hexstr off digits.length = bs := by
  induction hDigits generalizing off with
  | nil => rfl
  | @cons h l digits bs hHigh hLow hRest ih =>
      simp only [List.length_cons, Buffer.load_succ,
        List.cons.injEq] at hHere
      rcases hHere with ⟨rfl, rfl, hTail⟩
      simp only [List.length_cons, hexString2BytesArray]
      rw [ih (off + 2) hTail]

end At

end TrustOnboard

------------------------------------------------------------
-- A Command
------------------------------------------------------------

namespace TrustOnboard

namespace At

variable {K : Type}

/- `memcmp` of the start of the array with a literal. -/
def startsWith (s : Bytes) : BoardCode K Bool :=
  Prog.read (fun b => b.buf.load 0 s.length == s)

/- The value of a `char`. -/
def charValue (c : UInt8) : Int :=
  if c < 128 then c.toNat else c.toNat - 256

/- A digit of the length in an answer, in a `uint16_t`. -/
def addChar (n : Nat) (c : UInt8) : Nat :=
  (((n * 10 % 2 ^ 16 : Nat) : Int) + (charValue c - 48))
    % 2 ^ 16 |>.toNat

/- A round over the numeral, with its place and value. -/
def lengthRound
    (s : Nat × Nat) :
    BoardCode K ((Nat × Nat) ⊕ (Nat × Nat)) := do
  let c ← Prog.read (fun b => b.buf s.1)
  if c == 44 then
    pure (.inr s)
  else
    pure (.inl (s.1 + 1, addChar s.2 c))

/- The numeral up to a comma: its end and its value. -/
def readLength
    (fuel off : Nat) : BoardCode K (Nat × Nat) :=
  Prog.loop fuel lengthRound (off, 0)

/- A round over what is no hexadecimal digit. -/
def findRound (off : Nat) : BoardCode K (Nat ⊕ Nat) := do
  let c ← Prog.read (fun b => b.buf off)
  if IsHexDigit c then
    pure (.inr off)
  else
    pure (.inl (off + 1))

/- The first hexadecimal digit from an offset on. -/
def findDigit (fuel off : Nat) : BoardCode K Nat :=
  Prog.loop fuel findRound off

/- Put a response into the memory of the caller. -/
def storeResponse
    (off n : Nat) : BoardCode K Unit :=
  Prog.step (fun b =>
    ((),
      { b with
        memory :=
          b.memory.store 0 (hexString2BytesArray b.buf off n)
        length := (hexString2BytesArray b.buf off n).length },
      [.stored (hexString2BytesArray b.buf off n)]))

/- A line up to the response: whether it comes at all. -/
def responseRound
    (fuel : Nat) : BoardCode K (Unit ⊕ Bool) := do
  let _ ← readLine fuel
  let failed ← startsWith (ascii "ERROR\r\n")
  if failed then
    pure (.inr false)
  else do
    let found ← startsWith (ascii "+CSIM: ")
    if found then pure (.inr true) else pure (.inl ())

/- A line up to the end of the command. -/
def okRound
    (fuel : Nat) : BoardCode K (Unit ⊕ Unit) := do
  let _ ← readLine fuel
  let done ← startsWith (ascii "OK\r\n")
  if done then pure (.inr ()) else pure (.inl ())

/- The line of a command in the array: its length. -/
def printCommand (apdu : Bytes) : BoardCode K Nat := do
  let off ← sprintf 0
    (ascii "AT+CSIM=" ++ decimal (apdu.length * 2) ++
      ascii ",\"")
  Prog.each
    (fun ib => do
      let _ ← sprintf (off + 2 * ib.2) (hexPair ib.1)
      pure ())
    apdu.zipIdx
  sprintf (off + 2 * apdu.length) (ascii "\"\r\n")

/-
  `sendATCSIM`.  Whether the port fails is not looked at.
  The number of bytes that are cleared behind the command is
  the size of a pointer.
-/
def sendATCSIM
    (modem : Modem K)
    (fuel pointer : Nat)
    (apdu : Bytes) : BoardCode K Bool := do
  let off ← printCommand apdu
  let _ ← serialSend modem off
  fill 0 (List.replicate pointer 0)
  let found ← Prog.loop fuel (fun _ => responseRound fuel) ()
  if ¬ found then
    pure false
  else do
    let (off, n) ← readLength fuel 7
    let off ← findDigit fuel off
    storeResponse off n
    Prog.loop fuel (fun _ => okRound fuel) ()
    pure true

end At

end TrustOnboard
