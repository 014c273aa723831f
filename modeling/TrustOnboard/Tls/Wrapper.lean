import TrustOnboard.Program.Triple
import TrustOnboard.Mqtt.Types

/-
  The transfer functions of the TLS layer,
  `network_mbedtls_wrapper.c`.

  The library below and the timer are a parameter.  A call of
  `mbedtls_ssl_write` or `mbedtls_ssl_read` either moves some
  of the bytes it was asked for or returns a code that is not
  positive.

  Key definitions include:
    * `SslReturn`
    * `Port`
    * `iotTlsWrite`
    * `iotTlsRead`
-/

------------------------------------------------------------
-- The Library Below
------------------------------------------------------------

namespace TrustOnboard

namespace Tls

/- `MBEDTLS_ERR_SSL_WANT_READ`. -/
def wantRead : Int := -0x6900

/- `MBEDTLS_ERR_SSL_WANT_WRITE`. -/
def wantWrite : Int := -0x6880

/- `MBEDTLS_ERR_SSL_TIMEOUT`. -/
def sslTimeout : Int := -0x6800

/- A code the transfer loops go on after. -/
def isWant (ret : Int) : Bool :=
  ret == wantRead || ret == wantWrite

/-
  What a call for `n` bytes returns: the bytes it moved, or a
  code.  Both are values of type `int`.
-/
inductive SslReturn (n : Nat) where
  | moved
      (bs : Bytes)
      (hPos : 0 < bs.length)
      (hLe : bs.length ≤ n)
      (hInt : bs.length < 2 ^ 31)
  | code
      (c : Int)
      (hNot : c ≤ 0)
      (hInt : -2 ^ 31 ≤ c)

/- The bytes a call moved. -/
def SslReturn.bytes {n : Nat} : SslReturn n → Bytes
  | .moved bs _ _ _ => bs
  | .code _ _ _ => []

/- The value a call returns. -/
def SslReturn.ret {n : Nat} : SslReturn n → Int
  | .moved bs _ _ _ => bs.length
  | .code c _ _ => c

/-
  The timer and the library, over a private state.  A write
  says how many of the bytes it was offered it took.
-/
structure Port (E : Type) where
  hasTimerExpired : E → Bool × E
  sslWrite : (bs : Bytes) → E → SslReturn bs.length × E
  sslRead : (n : Nat) → E → SslReturn n × E

/- The place in the source a timer is looked at. -/
inductive Site where
  | round
  | attempt
  | last
  deriving DecidableEq, Repr

/- What a run makes visible. -/
inductive Event where
  | timerChecked (site : Site) (expired : Bool)
  | sslWrite (taken : Bytes) (ret : Int)
  | sslRead (off : Nat) (received : Bytes) (ret : Int)
  deriving DecidableEq

/- The caller's memory from `pMsg` on, and the library. -/
structure Sys (E : Type) where
  msg : Buffer
  env : E

abbrev Code (E : Type) := Prog (Sys E) Event

abbrev Run (E : Type) := World (Sys E) Event

variable {E : Type}

/- `has_timer_expired`. -/
def hasTimerExpired
    (port : Port E)
    (site : Site) : Code E Bool :=
  Prog.step (fun s =>
    let r := port.hasTimerExpired s.env
    (r.1, { s with env := r.2 }, [.timerChecked site r.1]))

/-
  `mbedtls_ssl_write` of part of the message.  The library
  takes the bytes from the front of what it is offered.
-/
def sslWrite
    (port : Port E)
    (off n : Nat) : Code E Int :=
  Prog.step (fun s =>
    let bs := s.msg.load off n
    let r := port.sslWrite bs s.env
    (r.1.ret, { s with env := r.2 },
      [.sslWrite (bs.take r.1.bytes.length) r.1.ret]))

/- `mbedtls_ssl_read` into the message. -/
def sslRead
    (port : Port E)
    (off n : Nat) : Code E Int :=
  Prog.step (fun s =>
    let r := port.sslRead n s.env
    (r.1.ret,
      { msg := s.msg.store off r.1.bytes
        env := r.2 },
      [.sslRead off r.1.bytes r.1.ret]))

end Tls

end TrustOnboard

------------------------------------------------------------
-- Writing
------------------------------------------------------------

namespace TrustOnboard

namespace Tls

open Mqtt (IoTError)

variable {E : Type}

/- Adding a value of type `int` to one of type `size_t`. -/
def addInt (n : Nat) (ret : Int) : Nat :=
  ((n + ret) % 2 ^ 64).toNat

/-
  The inner loop of `iot_tls_write`: whether it met an error,
  and what it leaves in `ret`.
-/
def writeAttempts
    (port : Port E)
    (fuel writtenSoFar len : Nat)
    (ret : Int) : Code E (Bool × Int) :=
  Prog.loop fuel
    (fun (ret : Int) => do
      let expired ← hasTimerExpired port .attempt
      if expired then
        pure (.inr (false, ret))
      else do
        let ret ←
          sslWrite port writtenSoFar (len - writtenSoFar)
        if ret ≤ 0 then
          if ¬ isWant ret then
            pure (.inr (true, ret))
          else
            pure (.inl ret)
        else
          pure (.inr (false, ret)))
    ret

/- The local variables of `iot_tls_write`. -/
structure WriteLocals where
  writtenSoFar : Nat
  ret : Int

/-
  The outer loop: whether there was an error, and
  `written_so_far`.
-/
def writeRounds
    (port : Port E)
    (fuel len : Nat)
    (ret : Int) : Code E (Bool × Nat) :=
  Prog.loop fuel
    (fun (v : WriteLocals) => do
      if v.writtenSoFar < len then do
        let expired ← hasTimerExpired port .round
        if expired then
          pure (.inr (false, v.writtenSoFar))
        else do
          let r ←
            writeAttempts port fuel v.writtenSoFar len v.ret
          if r.1 then
            pure (.inr (true, v.writtenSoFar))
          else
            pure (.inl
              { writtenSoFar := addInt v.writtenSoFar r.2
                ret := r.2 })
      else
        pure (.inr (false, v.writtenSoFar)))
    { writtenSoFar := 0, ret := ret }

/-
  `iot_tls_write`: the code and `*written_len`.  The last
  argument is what the variable `ret` holds before anything
  is assigned to it.
-/
def iotTlsWrite
    (port : Port E)
    (fuel len : Nat)
    (ret : Int) : Code E (IoTError × Nat) := do
  let r ← writeRounds port fuel len ret
  if r.1 then
    pure (.networkSslWriteError, r.2)
  else do
    let expired ← hasTimerExpired port .last
    if expired ∧ r.2 ≠ len then
      pure (.networkSslWriteTimeoutError, r.2)
    else
      pure (.success, r.2)

end Tls

end TrustOnboard

------------------------------------------------------------
-- Reading
------------------------------------------------------------

namespace TrustOnboard

namespace Tls

open Mqtt (IoTError)

variable {E : Type}

/-
  The local variables of `iot_tls_read`: how far `pMsg` has
  moved, what is left of `len`, and the count.
-/
structure ReadLocals where
  pMsg : Nat
  len : Nat
  rxLen : Nat

/- The counters after a call that returned `ret`. -/
def ReadLocals.after
    (v : ReadLocals)
    (ret : Int) : ReadLocals :=
  if 0 < ret then
    { pMsg := v.pMsg + ret.toNat
      len := v.len - ret.toNat
      rxLen := v.rxLen + ret.toNat }
  else v

/- What stands behind the loop of `iot_tls_read`. -/
def readResult (v : ReadLocals) : IoTError × Option Nat :=
  if v.len = 0 then
    (.success, some v.rxLen)
  else if v.rxLen = 0 then
    (.networkSslNothingToRead, none)
  else
    (.networkSslReadTimeoutError, none)

/-
  `iot_tls_read`: the code, and `*read_len` where it is
  assigned.
-/
def iotTlsRead
    (port : Port E)
    (fuel len : Nat) : Code E (IoTError × Option Nat) :=
  Prog.loop fuel
    (fun (v : ReadLocals) => do
      if 0 < v.len then do
        let ret ← sslRead port v.pMsg v.len
        if ret ≤ 0 ∧
            (ret = 0 ∨
              (¬ isWant ret ∧ ret ≠ sslTimeout)) then
          pure (.inr (.networkSslReadError, none))
        else do
          let expired ← hasTimerExpired port .round
          if expired then
            pure (.inr (readResult (v.after ret)))
          else
            pure (.inl (v.after ret))
      else
        pure (.inr (readResult v)))
    { pMsg := 0, len := len, rxLen := 0 }

end Tls

end TrustOnboard
