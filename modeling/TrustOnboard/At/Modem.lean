import TrustOnboard.At.Parser
import TrustOnboard.Memory.Hex
import TrustOnboard.Memory.Numeral

/-
  The modem of the connect shield, `modem.c`.

  A command of the secure element travels in an `AT+CSIM`
  line as hexadecimal digits, and the data of the socket
  behind the headers `^SISR` and `^SISW`.

  Key definitions include:
    * `skipUntil`
    * `seek`
    * `modemSendQueryAtSisi`
    * `modemReadSocket`
    * `modemWriteSocket`
    * `modemSendApdu`
-/

------------------------------------------------------------
-- Reading A Line
------------------------------------------------------------

namespace TrustOnboard

namespace At

variable {K : Type}

/- A round of a loop up to a byte that meets a condition. -/
def skipRound
    (fuel : Nat)
    (stops : UInt8 → Bool)
    (c : UInt8) : Code K (UInt8 ⊕ UInt8) :=
  if stops c then
    pure (.inr c)
  else do
    let c ← atReadC fuel
    pure (.inl c)

/- Read until a byte meets a condition. -/
def skipUntil
    (fuel : Nat)
    (stops : UInt8 → Bool)
    (c : UInt8) : Code K UInt8 :=
  Prog.loop fuel (skipRound fuel stops) c

/- The same in a function that gives up where a line ends. -/
def seekRound
    (fuel : Nat)
    (stops : UInt8 → Bool)
    (c : UInt8) : Code K (UInt8 ⊕ Option UInt8) :=
  if stops c then
    pure (.inr (some c))
  else do
    let c ← atReadC fuel
    if c == 10 then pure (.inr none) else pure (.inl c)

/-
  Read until a byte meets a condition, unless the line ends
  before.
-/
def seek
    (fuel : Nat)
    (stops : UInt8 → Bool)
    (c : UInt8) : Code K (Option UInt8) :=
  Prog.loop fuel (seekRound fuel stops) c

/- A digit of a numeral. -/
def digitRound
    (fuel : Nat)
    (modulus : Nat)
    (s : Nat × UInt8) :
    Code K ((Nat × UInt8) ⊕ (Nat × UInt8)) :=
  if IsDigit s.2 then do
    let c ← atReadC fuel
    pure (.inl (addDecimal modulus s.1 s.2, c))
  else
    pure (.inr s)

/-
  Read the digits that follow, which are put behind those of
  a number, and the byte behind them.
-/
def readNumber
    (fuel : Nat)
    (modulus acc : Nat) : Code K (Nat × UInt8) := do
  let c ← atReadC fuel
  Prog.loop fuel (digitRound fuel modulus) (acc, c)

/- Read such digits and the rest of their line. -/
def readNumberLine
    (fuel : Nat)
    (modulus acc : Nat) : Code K Nat := do
  let r ← readNumber fuel modulus acc
  let _ ← skipUntil fuel (· == 10) r.2
  pure r.1

end At

end TrustOnboard

------------------------------------------------------------
-- The Socket
------------------------------------------------------------

namespace TrustOnboard

namespace At

variable {K : Type}

/- `modem_send_at_command_no_wait_response`. -/
def modemSendAtCommandNoWaitResponse
    (modem : Modem K)
    (fuel : Nat)
    (cmd : Bytes) : Code K Unit := do
  atLock fuel
  atPrint modem cmd

/-
  What `modem_send_query_at_sisi` does at an event, with the
  state of the service it knows.  `*srv_state` is set to 0
  before the first line only: the digits of a further line
  are put behind those of the lines before it.
-/
def sisiEvent
    (fuel : Nat)
    (state : Nat)
    (e : AtEvent) : Code K (Nat ⊕ Nat) :=
  if e == .sisi1 then do
    let state ← readNumberLine fuel (2 ^ 8) state
    pure (.inl state)
  else if e.isResponse then
    pure (.inr state)
  else
    pure (.inl state)

/- `modem_send_query_at_sisi`: `*srv_state`. -/
def modemSendQueryAtSisi
    (modem : Modem K)
    (fuel : Nat) : Code K Nat := do
  modemSendAtCommandNoWaitResponse modem fuel
    (ascii "AT^SISI?\r\n")
  Prog.loop fuel
    (fun state => atProcessRecv fuel >>= sisiEvent fuel state)
    0

/- `MODEM_MAX_PACKET_SIZE`. -/
def modemMaxPacketSize : Nat := 1500

/- The events that end a transfer without data. -/
def AtEvent.isError (e : AtEvent) : Bool :=
  e == .cmeError || e == .commandFailure

/-
  Ask for a transfer of up to `n` bytes: the number of bytes
  the modem grants, behind the header of its answer.
-/
def askTransfer
    (modem : Modem K)
    (fuel : Nat)
    (name : Bytes)
    (header : AtEvent)
    (handle : Int)
    (n : Nat) : Code K (Option Nat) := do
  modemSendAtCommandNoWaitResponse modem fuel
    (ascii "AT^" ++ name ++ ascii "=" ++
      signedDecimal handle ++ ascii "," ++ decimal n ++
        ascii "\r\n")
  let e ← atWaitFor fuel (fun e =>
    e.isError || ! (handle == 1 && e != header))
  if e.isError then
    pure none
  else do
    let granted ← readNumberLine fuel (2 ^ 16) 0
    pure (some granted)

/- Nothing is done where nothing is granted. -/
def moveGranted
    (move : Nat → Nat → Code K Unit)
    (i n : Nat) : Code K Unit :=
  if n ≠ 0 then move i n else pure ()

/-
  A round of `modem_read_socket` and `modem_write_socket`:
  what is different is the command and what is done with the
  bytes from `i` on that are granted.
-/
def transferRound
    (modem : Modem K)
    (fuel : Nat)
    (name : Bytes)
    (header : AtEvent)
    (move : Nat → Nat → Code K Unit)
    (handle : Int)
    (len : Nat)
    (s : Nat × Nat) : Code K ((Nat × Nat) ⊕ Int) :=
  if s.1 < len then do
    let state ← modemSendQueryAtSisi modem fuel
    if state == 5 || state == 6 then
      pure (.inr (-1))
    else do
      let granted ←
        askTransfer modem fuel name header handle
          (min (len - s.1) modemMaxPacketSize)
      match granted with
      | none => pure (.inr (-1))
      | some n => do
          moveGranted move s.1 n
          let e ← atWaitForResponse fuel
          if e == .commandFailure then
            pure (.inr (-1))
          else
            pure (.inl ((s.1 + n) % 2 ^ 16, s.2 + n))
  else
    pure (.inr s.2)

/- The loop of both. -/
def transferLoop
    (modem : Modem K)
    (fuel : Nat)
    (name : Bytes)
    (header : AtEvent)
    (move : Nat → Nat → Code K Unit)
    (handle : Int)
    (len : Nat) : Code K Int :=
  Prog.loop fuel
    (transferRound modem fuel name header move handle len)
    (0, 0)

/- `modem_read_socket`. -/
def modemReadSocket
    (modem : Modem K)
    (fuel : Nat)
    (handle : Int)
    (len : Nat) : Code K Int :=
  if handle ≠ 1 then
    pure (-1)
  else
    transferLoop modem fuel (ascii "SISR") .sisr1
      (fun i n => do
        let bs ← atRead fuel n
        store i bs)
      handle len

/- `modem_write_socket`, for the bytes of an array. -/
def modemWriteSocket
    (modem : Modem K)
    (fuel : Nat)
    (handle : Int)
    (data : Buffer)
    (len : Nat) : Code K Int :=
  transferLoop modem fuel (ascii "SISW") .sisw1
    (fun i n => atWrite modem (data.load i n))
    handle len

end At

end TrustOnboard

------------------------------------------------------------
-- Commands Of The Secure Element
------------------------------------------------------------

namespace TrustOnboard

namespace At

variable {K : Type}

/- The line that carries a command. -/
def csimLine (apdu : Bytes) : Bytes :=
  ascii "AT+CSIM=" ++ decimal (2 * apdu.length) ++
    ascii ",\"" ++ hexText apdu ++ ascii "\"\r\n"

/- One byte of a response from its two digits. -/
def extractRound
    (fuel : Nat)
    (s : Nat × UInt8) :
    Code K ((Nat × UInt8) ⊕ Option (Nat × UInt8)) :=
  if IsHexDigit s.2 then do
    store s.1 [digitValue s.2]
    let c ← atReadC fuel
    if c == 10 then
      pure (.inr none)
    else do
      store s.1 [joinDigits s.2 c]
      setLength (· + 1)
      let c' ← atReadC fuel
      if c' == 10 then
        pure (.inr none)
      else
        pure (.inl (s.1 + 1, c'))
  else
    pure (.inr (some s))

/-
  The digits of an answer: two make a byte of the response.
  There is no result when the line ends in between.
-/
def extractResponse
    (fuel off : Nat)
    (c : UInt8) : Code K (Option (Nat × UInt8)) :=
  Prog.loop fuel (extractRound fuel) (off, c)

/-
  An answer behind its `+CSIM:`: where the response ends in
  the memory of the caller, unless the line ends too early.
-/
def readCsim
    (fuel off : Nat) : Code K (Option Nat) := do
  let some c ← seek fuel (fun c => IsDigit c) 0
    | pure none
  let some c ← seek fuel (fun c => ¬ IsDigit c) c
    | pure none
  let some c ← seek fuel (fun c => IsHexDigit c) c
    | pure none
  let some (off, c) ← extractResponse fuel off c
    | pure none
  let _ ← skipUntil fuel (· == 10) c
  pure (some off)

/-
  What `modem_send_apdu` does at an event, with the place the
  response goes on at.
-/
def csimEvent
    (fuel : Nat)
    (off : Nat)
    (e : AtEvent) : Code K (Nat ⊕ Bool) :=
  if e == .csim then do
    let reached ← readCsim fuel off
    match reached with
    | none => pure (.inr false)
    | some off => pure (.inl off)
  else if e.isResponse then
    pure (.inr true)
  else
    pure (.inl off)

/- `modem_send_apdu`. -/
def modemSendApdu
    (modem : Modem K)
    (fuel : Nat)
    (apdu : Bytes) : Code K Bool := do
  setLength (fun _ => 0)
  if 256 < apdu.length then
    pure false
  else do
    atLock fuel
    atPrint modem
      (ascii "AT+CSIM=" ++ decimal (apdu.length * 2) ++
        ascii ",\"")
    Prog.each (fun b => atPrint modem (hexPair b)) apdu
    atPrint modem (ascii "\"\r\n")
    Prog.loop fuel
      (fun off => atProcessRecv fuel >>= csimEvent fuel off)
      0

end At

end TrustOnboard
