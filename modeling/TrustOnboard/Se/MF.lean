import TrustOnboard.Se.Interface

/-
  The reader of elementary files, `MF.cpp`.

  Key definitions include:
    * `getEFSize`
    * `ChunkReader`
    * `readEFData`
    * `readEF`
-/

------------------------------------------------------------
-- The Size Of A File
------------------------------------------------------------

namespace TrustOnboard

namespace Se

variable {K : Type}

/- The value of `l` bytes, in sixteen bits. -/
def efSizeValue
    (l i size : Nat) : Code K Nat :=
  match l with
  | 0 => pure size
  | l + 1 => do
      let b ← examine i
      efSizeValue l ((i + 1) % 2 ^ 16)
        ((size * 2 ^ 8 + b.toNat) % 2 ^ 16)

/- The loop of `getEFSize`. -/
def efSizeLoop
    (fuel dataLen i : Nat) : Code K (Option Nat) :=
  Prog.loop fuel
    (fun (i : Nat) => do
      if i < dataLen then do
        let t ← examine i
        let l ← examine ((i + 1) % 2 ^ 16)
        if t = 0x80 then do
          let size ←
            efSizeValue l.toNat ((i + 2) % 2 ^ 16) 0
          pure (.inr (some size))
        else
          pure (.inl ((i + 2 + l.toNat) % 2 ^ 16))
      else
        pure (.inr none))
    i

/-
  `getEFSize` on the response array: the size, if the result
  is true.
-/
def getEFSize
    (fuel dataLen : Nat) : Code K (Option Nat) := do
  let tag ← examine 0
  if tag = 0x62 then
    efSizeLoop fuel dataLen 2
  else
    pure none

end Se

end TrustOnboard

------------------------------------------------------------
-- The Content Of A File
------------------------------------------------------------

namespace TrustOnboard

namespace Se

variable {K : Type}

/- Wherever a transmission has to go through with 9000. -/
def succeeds
    (name : AppletName)
    (send : Code K Bool) : Code K Bool := do
  let ok ← send
  if ok then do
    let sw ← Applet.getStatusWord name
    pure (sw == 0x9000)
  else
    pure false

/- READ BINARY of an applet. -/
def readBinary
    (port : Port K)
    (fuel : Nat)
    (name : AppletName)
    (offset : Nat)
    (le : UInt8) : Code K Bool :=
  succeeds name
    (Applet.transmitCase2 port fuel name 0x00 0xB0
      (.ofNat (offset / 2 ^ 8)) (.ofNat offset) le)

/-
  A loop that reads a file in chunks.  `readEF`, the reader
  of certificates and the reader of objects have one each;
  they differ in what they ask for, in the bits they keep of
  the length of a chunk, and in whether they go on after a
  chunk that was refused.
-/
structure ChunkReader where
  name : AppletName
  ask : Nat → Nat → Nat
  bits : Nat
  skips : Bool

/- A round of the loop, for the byte with index `i` on. -/
def ChunkReader.round
    (reader : ChunkReader)
    (port : Port K)
    (fuel base size i : Nat) :
    Code K (Nat ⊕ Option Nat) := do
  if i < size then do
    let len := reader.ask size i
    let ok ←
      readBinary port fuel reader.name ((base + i) % 2 ^ 16)
        (.ofNat len)
    if ok then do
      let bs ← Applet.getResponse reader.name
      writeBlock i bs
      pure (.inl
        ((i + bs.length % 2 ^ reader.bits) % 2 ^ 16))
    else if reader.skips then
      pure (.inl ((i + len) % 2 ^ 16))
    else
      pure (.inr none)
  else
    pure (.inr (some i))

/-
  The loop for `size` bytes from offset `base` on: the index
  it leaves off at, unless a chunk was refused.
-/
def ChunkReader.loop
    (reader : ChunkReader)
    (port : Port K)
    (fuel base size : Nat) : Code K (Option Nat) :=
  Prog.loop fuel (reader.round port fuel base size) 0

/- The number of bytes `readEF` asks for. -/
def toread (dataLen i : Nat) : Nat :=
  if 255 ≤ dataLen - i then 255 else dataLen - i

/- The loop of `readEF`. -/
def efChunks : ChunkReader where
  name := .mf
  ask := toread
  bits := 16
  skips := false

/-
  `readEF` once the size of the file is known: the result,
  and `*dataLen`.
-/
def readEFData
    (port : Port K)
    (fuel : Nat)
    (dataLen : Nat) : Code K (Bool × Nat) := do
  malloc (dataLen + 1)
  let r ← efChunks.loop port fuel 0 dataLen
  match r with
  | some i => do
      writeBlock i [0]
      pure (true, (dataLen + 1) % 2 ^ 16)
  | none => pure (false, dataLen)

/- What `readEF` takes from the description of the file. -/
def efSize (fuel : Nat) : Code K (Option Nat) := do
  let n ← Prog.read (fun s => s.iface.getResponseLength)
  getEFSize fuel n

/- `readEF` once the file is selected. -/
def readSelectedEF
    (port : Port K)
    (fuel : Nat)
    (dataLen : Nat) : Code K (Bool × Nat) := do
  let size ← efSize fuel
  match size with
  | none => pure (false, dataLen)
  | some size => readEFData port fuel size

/-
  `MF::readEF`.  The last argument is what `*dataLen` holds
  when it is called.
-/
def readEF
    (port : Port K)
    (fuel : Nat)
    (path : Bytes)
    (dataLen : Nat) : Code K (Bool × Nat) := do
  let ok ←
    succeeds .mf
      (Applet.transmitCase4 port fuel .mf 0x00 0xA4 0x08 0x04
        path 0x00)
  if ok then
    readSelectedEF port fuel dataLen
  else
    pure (false, dataLen)

end Se

end TrustOnboard
