import TrustOnboard.Se.MF

/-
  The key containers of the MIAS applet and the files that
  belong to them, `MIAS.cpp`.

  Key definitions include:
    * `fileSizeLoop`
    * `listKeyPairs`
    * `getKeyPairByContainerId`
    * `getCertificateByContainerId`
-/

------------------------------------------------------------
-- File Control Parameters
------------------------------------------------------------

namespace TrustOnboard

namespace Se

variable {K : Type}

/- `TAG_FILE_SIZE`. -/
def tagFileSize : UInt8 := 0x81

/-
  The local variables of the loop over the parameters: the
  position, and what was last assigned to the size, if
  anything was.
-/
structure FcpLocals where
  i : Nat
  size : Option Nat
  deriving DecidableEq, Repr

/-
  The loop over the parameters of a file in `listKeyPairs`
  and `getCertificateByContainerId`.
-/
def fileSizeLoop
    (fuel len : Nat)
    (v : FcpLocals) : Code K (Option Nat) :=
  Prog.loop fuel
    (fun (v : FcpLocals) => do
      if v.i < len then do
        let t ← examine v.i
        let l ← examine (v.i + 1)
        if t = tagFileSize then do
          let hi ← examine (v.i + 2)
          let lo ← examine (v.i + 3)
          pure (.inl
            { i := (v.i + 2 + l.toNat) % 2 ^ 8
              size := some (hi.toNat * 2 ^ 8 + lo.toNat) })
        else
          pure (.inl
            { v with i := (v.i + 2 + l.toNat) % 2 ^ 8 })
      else
        pure (.inr v.size))
    v

/- The loop with its bound taken from the response. -/
def fileSize (fuel : Nat) : Code K (Option Nat) := do
  let len ← examine 1
  fileSizeLoop fuel ((len.toNat + 2) % 2 ^ 8)
    { i := 2, size := none }

end Se

end TrustOnboard

------------------------------------------------------------
-- Key Pairs
------------------------------------------------------------

namespace TrustOnboard

namespace Se

variable {K : Type}

/- `RSA_KEY_PAIR_FLAG`. -/
def rsaKeyPairFlag : UInt16 := 1

/- `SIGNATURE_KEY_PAIR_FLAG`. -/
def signatureKeyPairFlag : UInt16 := 4

/- `DECRYPTION_KEY_PAIR_FLAG`. -/
def decryptionKeyPairFlag : UInt16 := 8

/- Two bytes, the first the higher. -/
def word (hi lo : UInt8) : Nat :=
  hi.toNat * 2 ^ 8 + lo.toNat

/-
  The key pair made from a record in use, the `i`-th.  The
  last argument is what the allocated memory holds where the
  key id will be.
-/
def keyPairOfRecord
    (record : Buffer)
    (i : Nat)
    (kid : UInt8) : KeyPair :=
  let signature := word (record 4) (record 5)
  let exchange := signature == 0
  let size :=
    if exchange then word (record 6) (record 7)
    else signature
  let flags :=
    if exchange then
      signatureKeyPairFlag ||| decryptionKeyPairFlag
    else signatureKeyPairFlag
  let class? : Option UInt8 :=
    if size = 0x400 then
      some (if exchange then 0x10 else 0x20)
    else if size = 0x800 then
      some (if exchange then 0x30 else 0x40)
    else none
  match class? with
  | some c =>
      { kid := c ||| .ofNat (i + 1)
        flags := flags ||| rsaKeyPairFlag
        sizeInBits := .ofNat size
        pubFileId := (0, 0)
        hasCert := false }
  | none =>
      { kid := kid
        flags := flags
        sizeInBits := .ofNat size
        pubFileId := (0, 0)
        hasCert := false }

/- The container a key pair belongs to. -/
def KeyPair.container (kp : KeyPair) : Int :=
  (kp.kid &&& 0x0F).toNat - 1

/- The container that two digits of a record name. -/
def recordContainer (record : Buffer) : Int :=
  ((record 7).toNat - 48) * 10 + ((record 8).toNat - 48)

/- Give the first key pair of a container its file. -/
def assignFile
    (container : Int)
    (file : UInt8 × UInt8) :
    List KeyPair → List KeyPair
  | [] => []
  | kp :: rest =>
      if kp.container = container then
        { kp with pubFileId := file, hasCert := true } :: rest
      else
        kp :: assignFile container file rest

/- A record names the certificate of a key container. -/
def namesCertificate (record : Buffer) : Bool :=
  record.load 12 4 == [0x6D, 0x73, 0x63, 0x70] &&
    (record.load 4 3 == [0x6B, 0x78, 0x63] ||
      record.load 4 3 == [0x6B, 0x73, 0x63])

/- Change the list of key pairs. -/
def setKeypairs
    (f : List KeyPair → List KeyPair) : Code K Unit :=
  Prog.modify (fun s => { s with keypairs := f s.keypairs })

/- The response array. -/
def response : Code K Buffer :=
  Prog.read (fun s => s.iface.apduResponse)

/- The local variables of the loops over records. -/
structure RecordLocals where
  i : Nat
  offset : Nat

/-
  A round of the loop over the records of the containers
  file.  The last but one argument tells what the memory that
  is allocated for each record holds.
-/
def containersRound
    (port : Port K)
    (fuel size : Nat)
    (fresh : Nat → UInt8)
    (v : RecordLocals) : Code K (RecordLocals ⊕ Unit) := do
  let next : RecordLocals :=
    { i := (v.i + 1) % 2 ^ 8
      offset := (v.offset + 0x0B) % 2 ^ 16 }
  if v.offset < size then do
    let ok ←
      Applet.transmitCase2 port fuel .mias 0x00 0xB0
        (.ofNat (v.offset / 2 ^ 8)) (.ofNat v.offset) 0x0B
    if ok then do
      let sw ← Applet.getStatusWord .mias
      if sw = 0x9000 then do
        let record ← response
        if record 0 ≠ 0 then
          setKeypairs (fun l =>
            keyPairOfRecord record v.i
              (fresh (v.offset / 0x0B)) :: l)
        else
          pure ()
        pure (.inl next)
      else
        pure (.inr ())
    else
      pure (.inl next)
  else
    pure (.inr ())

/- The loop over the records of the containers file. -/
def listContainers
    (port : Port K)
    (fuel size : Nat)
    (fresh : Nat → UInt8) : Code K Unit :=
  Prog.loop fuel (containersRound port fuel size fresh)
    { i := 0, offset := 0 }

/- A round of the loop over the file directory. -/
def certificatesRound
    (port : Port K)
    (fuel size : Nat)
    (v : RecordLocals) : Code K (RecordLocals ⊕ Unit) := do
  if v.i < size then do
    let ok ←
      readBinary port fuel .mias v.offset 0x15
    if ok then do
      let record ← response
      if namesCertificate record then
        setKeypairs
          (assignFile (recordContainer record)
            (record 0, record 1))
      else
        pure ()
    else
      pure ()
    pure (.inl
      { i := (v.i + 1) % 2 ^ 8
        offset := (v.offset + 0x15) % 2 ^ 16 })
  else
    pure (.inr ())

/- The loop over the records of the file directory. -/
def listCertificates
    (port : Port K)
    (fuel size : Nat) : Code K Unit :=
  Prog.loop fuel (certificatesRound port fuel size)
    { i := 0, offset := 1 }

/- `listKeyPairs` once the size of the file is known. -/
def listKeyPairsOfSize
    (port : Port K)
    (fuel size : Nat)
    (fresh : Nat → UInt8) : Code K Bool := do
  listContainers port fuel size fresh
  let ok ←
    succeeds .mias
      (Applet.transmitCase4 port fuel .mias 0x00 0xA4 0x08
        0x04 [0x01, 0x01] 0x15)
  if ok then do
    let ok ← readBinary port fuel .mias 0 0x01
    if ok then do
      let record ← response
      listCertificates port fuel (record 0).toNat
    else
      pure ()
  else
    pure ()
  pure true

/-
  What `listKeyPairs` takes from the description of the
  containers file: whether it is one, and the size in it.
-/
def containersSize
    (fuel : Nat) : Code K (Bool × Option Nat) := do
  let n ← Applet.getResponseLength .mias
  if 2 < n then do
    let tag ← examine 0
    if tag = 0x62 then do
      let size ← fileSize fuel
      pure (true, size)
    else
      pure (false, none)
  else
    pure (false, none)

/- `listKeyPairs` once the containers file is selected. -/
def listSelectedKeyPairs
    (port : Port K)
    (fuel : Nat)
    (fresh : Nat → UInt8) : Code K Bool := do
  let r ← containersSize fuel
  if r.1 then
    listKeyPairsOfSize port fuel (r.2.getD 0) fresh
  else
    pure false

/- `MIAS::listKeyPairs`. -/
def listKeyPairs
    (port : Port K)
    (fuel : Nat)
    (fresh : Nat → UInt8) : Code K Bool := do
  let known ← Prog.read (fun s => ! s.keypairs.isEmpty)
  if known then
    pure true
  else do
    let ok ←
      succeeds .mias
        (Applet.transmitCase4 port fuel .mias 0x00 0xA4 0x08
          0x04 [0x00, 0x02] 0x15)
    if ok then
      listSelectedKeyPairs port fuel fresh
    else
      pure false

/- `MIAS::getKeyPairByContainerId`. -/
def getKeyPairByContainerId
    (port : Port K)
    (fuel : Nat)
    (fresh : Nat → UInt8)
    (containerId : UInt8) : Code K (Option KeyPair) := do
  let _ ← listKeyPairs port fuel fresh
  let keypairs ← Prog.read (fun s => s.keypairs)
  pure (keypairs.find?
    (fun kp => kp.container == containerId.toNat))

end Se

end TrustOnboard

------------------------------------------------------------
-- Certificates
------------------------------------------------------------

namespace TrustOnboard

namespace Se

variable {K : Type}

/- The number of bytes a chunk is asked to have. -/
def chunkLen (size offset : Nat) : Nat :=
  if size < offset + 0xEE then size - offset else 0xEE

/- The loop of `getCertificateByContainerId`. -/
def certificateChunks : ChunkReader where
  name := .mias
  ask := chunkLen
  bits := 8
  skips := true

/- A certificate that would have to be uncompressed. -/
def isCompressed (block : Buffer) : Bool :=
  block 0 == 0x01 && block 1 == 0x00

/-
  `getCertificateByContainerId` once the size of the file is
  known: the result, and `*certLen`.
-/
def readCertificateData
    (port : Port K)
    (fuel efSize : Nat) : Code K (Bool × Nat) := do
  malloc ((efSize + 1) % 2 ^ 16)
  let r ← certificateChunks.loop port fuel 0 efSize
  match r with
  | some offset => do
      writeBlock offset [0]
      let block ← Prog.read (fun s => s.block)
      pure (! isCompressed block, (efSize + 1) % 2 ^ 16)
  | none => pure (false, (efSize + 1) % 2 ^ 16)

/-
  What `getCertificateByContainerId` takes from the
  description of the file.
-/
def certificateSize (fuel : Nat) : Code K (Option Nat) := do
  let tag ← examine 0
  if tag = 0x62 then
    fileSize fuel
  else
    pure none

/-
  `getCertificateByContainerId` once the file is selected.
  The arguments are what `ef_size` holds before anything is
  assigned to it, and what `*certLen` holds.
-/
def readSelectedCertificate
    (port : Port K)
    (fuel efSize certLen : Nat) : Code K (Bool × Nat) := do
  let size ← certificateSize fuel
  let efSize := size.getD efSize
  if efSize ≠ 0 then
    readCertificateData port fuel efSize
  else
    pure (false, certLen)

/- `MIAS::getCertificateByContainerId`. -/
def getCertificateByContainerId
    (port : Port K)
    (fuel : Nat)
    (fresh : Nat → UInt8)
    (containerId : UInt8)
    (efSize certLen : Nat) : Code K (Bool × Nat) := do
  let kp ← getKeyPairByContainerId port fuel fresh containerId
  match kp with
  | some kp =>
      if kp.hasCert then do
        let ok ←
          succeeds .mias
            (Applet.transmitCase4 port fuel .mias 0x00 0xA4
              0x08 0x04 [kp.pubFileId.1, kp.pubFileId.2] 0x1C)
        if ok then
          readSelectedCertificate port fuel efSize certLen
        else
          pure (false, certLen)
      else
        pure (false, certLen)
  | none => pure (false, certLen)

end Se

end TrustOnboard
