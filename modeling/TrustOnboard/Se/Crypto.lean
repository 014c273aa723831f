import TrustOnboard.Se.Cards
import TrustOnboard.Se.Sending

/-
  Hashing, signing and decrypting with the MIAS applet,
  `MIAS.cpp`.

  Data is handed over in pieces: to the hash in blocks, to
  the decryption in one command or in a chain of two.

  Key definitions include:
    * `psoHashInternally`
    * `psoHashExternally`
    * `psoComputeDigitalSignature`
    * `signFinal`
    * `psoDecipher`
-/

------------------------------------------------------------
-- Security Environments
------------------------------------------------------------

namespace TrustOnboard

namespace Se

variable {K : Type}

/- MANAGE SECURITY ENVIRONMENT for one of its templates. -/
def manageEnvironment
    (port : Port K)
    (fuel : Nat)
    (template : UInt8)
    (data : Bytes) : Code K Bool :=
  succeeds .mias
    (Applet.transmitCase3 port fuel .mias 0x00 0x22 0x41
      template data)

/- `mseSetBeforeSignature`. -/
def mseSetBeforeSignature
    (port : Port K)
    (fuel : Nat)
    (algorithm key : UInt8) : Code K Bool :=
  manageEnvironment port fuel 0xB6
    [0x80, 0x01, algorithm, 0x84, 0x01, key]

/- `mseSetBeforeDecrypt`. -/
def mseSetBeforeDecrypt
    (port : Port K)
    (fuel : Nat)
    (algorithm key : UInt8) : Code K Bool :=
  manageEnvironment port fuel 0xB8
    [0x80, 0x01, algorithm, 0x84, 0x01, key]

/- `verifyPin` of either applet, once the data is set up. -/
def verifyData
    (port : Port K)
    (fuel : Nat)
    (name : AppletName)
    (p2 : UInt8)
    (data : Bytes) : Code K Bool :=
  succeeds name
    (Applet.transmitCase3 port fuel name 0x00 0x20 0x00 p2
      data)

/- `MIAS::verifyPin`. -/
def MIAS.verifyPin
    (port : Port K)
    (fuel : Nat)
    (pin : Bytes) : Code K Bool :=
  verifyData port fuel .mias 0x81 pin

/- `MF::verifyPin`. -/
def MF.verifyPin
    (port : Port K)
    (fuel : Nat)
    (pin : Bytes) : Code K Bool :=
  if 8 < pin.length then
    pure false
  else
    verifyData port fuel .mf 0x01
      ((Buffer.store (fun _ => 0xFF) 0 pin).load 0 8)

end Se

end TrustOnboard

------------------------------------------------------------
-- Hashes
------------------------------------------------------------

namespace TrustOnboard

namespace Se

variable {K : Type}

/- The hash algorithms, `ALGO_SHA1` to `ALGO_SHA512`. -/
def algoSha1 : UInt8 := 0x10
def algoSha224 : UInt8 := 0x30
def algoSha256 : UInt8 := 0x40
def algoSha384 : UInt8 := 0x50
def algoSha512 : UInt8 := 0x60

/- The block size of a hash algorithm that is supported. -/
def blockSize (algorithm : UInt8) : Option Nat :=
  if algorithm = algoSha1 ∨ algorithm = algoSha224 ∨
      algorithm = algoSha256 then
    some 64
  else if algorithm = algoSha384 ∨
      algorithm = algoSha512 then
    some 128
  else
    none

/- The number of bytes of the next piece. -/
def pieceLen (block dataLen i : Nat) : Nat :=
  if block < dataLen - i then block else dataLen - i

/- A round of the loop of `psoHashInternally`. -/
def hashRound
    (port : Port K)
    (fuel block : Nat)
    (data : Bytes)
    (i : Nat) : Code K (Nat ⊕ Bool) := do
  if i < data.length then do
    let l := pieceLen block data.length i
    let ok ←
      succeeds .mias
        (Applet.transmitCase3 port fuel .mias 0x00 0x2A 0x90
          0x80 ((data.drop i).take l))
    if ok then
      pure (.inl ((i + l) % 2 ^ 16))
    else
      pure (.inr false)
  else
    pure (.inr true)

/- `psoHashInternally`. -/
def psoHashInternally
    (port : Port K)
    (fuel : Nat)
    (algorithm : UInt8)
    (data : Bytes) : Code K Bool :=
  match blockSize algorithm with
  | some block =>
      Prog.loop fuel (hashRound port fuel block data) 0
  | none => pure false

/- The number of bytes of a hash. -/
def hashSize (algorithm : UInt8) : Option Nat :=
  if algorithm = algoSha1 then some 20
  else if algorithm = algoSha224 then some 28
  else if algorithm = algoSha256 then some 32
  else if algorithm = algoSha384 then some 48
  else if algorithm = algoSha512 then some 64
  else none

/-
  `psoHashExternally`, with the memory at the hash.  It
  copies as many bytes as the algorithm has, whatever length
  it is given.
-/
def psoHashExternally
    (port : Port K)
    (fuel : Nat)
    (algorithm : UInt8)
    (hash : Buffer) : Code K Bool :=
  match hashSize algorithm with
  | some n =>
      succeeds .mias
        (Applet.transmitCase4 port fuel .mias 0x00 0x2A 0x90
          0xA0 ([0x90, .ofNat n] ++ hash.load 0 n) 0x00)
  | none => pure false

end Se

end TrustOnboard

------------------------------------------------------------
-- Signatures
------------------------------------------------------------

namespace TrustOnboard

namespace Se

variable {K : Type}

/-
  A round of the loop of `psoComputeDigitalSignature`, with
  the bytes copied so far.
-/
def signatureRound
    (port : Port K)
    (fuel : Nat)
    (signature : Bytes) :
    Code K (Bytes ⊕ (Bool × Bytes)) := do
  let n ← Applet.getResponseLength .mias
  if n ≠ 0 then do
    let bs ← Applet.getResponse .mias
    let sw ← Applet.getStatusWord .mias
    if sw / 2 ^ 8 = 0x61 then do
      let ok ←
        Applet.transmitCase2 port fuel .mias 0x00 0xC0 0x00
          0x00 (.ofNat sw)
      if ok then
        pure (.inl (signature ++ bs))
      else
        pure (.inr (false, signature ++ bs))
    else
      pure (.inr (sw == 0x9000, signature ++ bs))
  else
    pure (.inr (false, signature))

/- `psoComputeDigitalSignature`: the result and the bytes. -/
def psoComputeDigitalSignature
    (port : Port K)
    (fuel : Nat) : Code K (Bool × Bytes) := do
  let ok ←
    Applet.transmitCase2 port fuel .mias 0x00 0x2A 0x9E 0x9A
      0x00
  if ok then
    Prog.loop fuel (signatureRound port fuel) []
  else
    pure (false, [])

/- `signFinal`, for what `_signAlgo` holds. -/
def signFinal
    (port : Port K)
    (fuel : Nat)
    (signAlgo : UInt8)
    (hash : Buffer) : Code K (Bool × Bytes) := do
  let ok ←
    psoHashExternally port fuel (signAlgo &&& 0xF0) hash
  if ok then
    psoComputeDigitalSignature port fuel
  else
    pure (false, [])

end Se

end TrustOnboard

------------------------------------------------------------
-- Decryption
------------------------------------------------------------

namespace TrustOnboard

namespace Se

variable {K : Type}

/- PSO DECIPHER with some data. -/
def decipher
    (port : Port K)
    (fuel : Nat)
    (cla : UInt8)
    (data : Bytes) : Code K Bool :=
  succeeds .mias
    (Applet.transmitCase3 port fuel .mias cla 0x2A 0x80 0x86
      data)

/- The commands of `psoDecipher`, and whether they succeed. -/
def decipherAll
    (port : Port K)
    (fuel : Nat)
    (data : Bytes) : Code K Bool := do
  if data.length < 255 then
    decipher port fuel 0x00 (0x81 :: data)
  else do
    let ok ← decipher port fuel 0x10 (0x81 :: data.take 0xFE)
    if ok then
      decipher port fuel 0x00 (data.drop 0xFE)
    else
      pure false

/- `psoDecipher`: what it copies to `plain` if it is true. -/
def psoDecipher
    (port : Port K)
    (fuel : Nat)
    (data : Bytes) : Code K (Option Bytes) := do
  let ok ← decipherAll port fuel data
  if ok then do
    let plain ← Applet.getResponse .mias
    pure (some plain)
  else
    pure none

end Se

end TrustOnboard
