import TrustOnboard.Se.MIAS

/-
  The search for a data object by its label, `MIAS.cpp`.

  Key definitions include:
    * `P11File`
    * `listFiles`
    * `readObject`
    * `p11GetObjectByLabel`
-/

------------------------------------------------------------
-- The File Directory
------------------------------------------------------------

namespace TrustOnboard

namespace Se

variable {K : Type}

/- `mias_file_t`. -/
structure P11File where
  efid : Nat
  dir : Bytes
  name : Bytes
  deriving DecidableEq, Repr

/-
  READ BINARY into the array `record`: the number of bytes
  that came, if it went through.
-/
def readRecord
    (port : Port K)
    (fuel offset : Nat)
    (le : UInt8) : Code K (Option Nat) := do
  let ok ← readBinary port fuel .mias offset le
  if ok then do
    let bs ← Applet.getResponse .mias
    writeRecord 0 bs
    pure (some bs.length)
  else
    pure none

/- The array `record`. -/
def record : Code K Buffer :=
  Prog.read (fun s => s.record)

/- The file a record of the directory describes. -/
def fileOfRecord (record : Buffer) : P11File where
  efid := word (record 0) (record 1)
  dir := record.load 12 8
  name := record.load 4 8

/- The loop over the directory: the files, the last first. -/
def listFiles
    (port : Port K)
    (fuel nbOfFiles : Nat) : Code K (List P11File) :=
  Prog.loop fuel
    (fun (v : Nat × List P11File) => do
      if v.1 < nbOfFiles then do
        let n ← readRecord port fuel (1 + v.1 * 0x15) 0x15
        if n = some 0x15 then do
          let record ← record
          pure (.inl (v.1 + 1, fileOfRecord record :: v.2))
        else
          pure (.inl (v.1 + 1, v.2))
      else
        pure (.inr v.2))
    (0, [])

/- The file is a data object of the PKCS#11 directory. -/
def P11File.isObject (file : P11File) : Bool :=
  file.dir.take 4 == [0x70, 0x31, 0x31, 0x00] &&
    (file.name.take 6 ==
        [0x70, 0x75, 0x62, 0x64, 0x61, 0x74] ||
      file.name.take 6 ==
        [0x70, 0x72, 0x69, 0x64, 0x61, 0x74])

end Se

end TrustOnboard

------------------------------------------------------------
-- Objects
------------------------------------------------------------

namespace TrustOnboard

namespace Se

variable {K : Type}

/-
  Read the label of an object and compare it: the offset
  behind it if it is the one that is looked for.
-/
def matchLabel
    (port : Port K)
    (fuel : Nat)
    (label : Bytes) : Code K (Option Nat) := do
  let n ← readRecord port fuel 16 0x01
  if n = some 1 then do
    let len ← record
    let ok ← readBinary port fuel .mias 17 (len 0)
    if ok then do
      let n ← Applet.getResponseLength .mias
      if n = (len 0).toNat then do
        let bs ← Applet.getResponse .mias
        writeRecord 0 bs
        writeRecord n [0]
        let record ← record
        if label.length = n ∧
            record.load 0 label.length = label then
          pure (some ((17 + label.length) % 2 ^ 16))
        else
          pure none
      else
        pure none
    else
      pure none
  else
    pure none

/- Skip a field with a length byte: the offset behind it. -/
def skipField
    (port : Port K)
    (fuel offset : Nat) : Code K (Option Nat) := do
  let n ← readRecord port fuel offset 0x01
  if n = some 1 then do
    let record ← record
    pure (some
      ((offset + 1 + (record 0).toNat) % 2 ^ 16))
  else
    pure none

/-
  The size of a value and the offset it starts at.  The
  second argument is what `size` holds before.
-/
def valueHeader
    (record : Buffer)
    (size offset : Nat) : Nat × Nat :=
  if record 0 < 0x80 then
    ((record 0).toNat, (offset + 1) % 2 ^ 16)
  else
    let n := (record 0 &&& 0x0F).toNat
    let size :=
      (List.range n).foldl
        (fun size i =>
          (size * 2 ^ 8 + (record (1 + i)).toNat) % 2 ^ 16)
        size
    (size, (offset + n + 1) % 2 ^ 16)

/- The loop over the value of an object. -/
def valueChunks : ChunkReader where
  name := .mias
  ask := chunkLen
  bits := 16
  skips := true

/- Read a value: the result, and `*objectLen`. -/
def readValue
    (port : Port K)
    (fuel offset size : Nat) : Code K (Bool × Nat) := do
  malloc ((size + 1) % 2 ^ 16)
  let r ← valueChunks.loop port fuel offset size
  match r with
  | some i => do
      writeBlock i [0]
      pure (true, (size + 1) % 2 ^ 16)
  | none => pure (false, 0)

/-
  What happens with one file: `*objectLen` if the object is
  in it.
-/
def readObject
    (port : Port K)
    (fuel : Nat)
    (label : Bytes)
    (size : Nat)
    (file : P11File) : Code K (Option Nat) := do
  if file.isObject then do
    let ok ←
      succeeds .mias
        (Applet.transmitCase3 port fuel .mias 0x00 0xA4 0x08
          0x04 [.ofNat (file.efid / 2 ^ 8), .ofNat file.efid])
    if ok then do
      let offset ← matchLabel port fuel label
      match offset with
      | none => pure none
      | some offset => do
          let offset ← skipField port fuel offset
          match offset with
          | none => pure none
          | some offset => do
              let offset ← skipField port fuel offset
              match offset with
              | none => pure none
              | some offset => do
                  let n ← readRecord port fuel offset 0x05
                  if n = some 5 then do
                    let record ← record
                    let h := valueHeader record size offset
                    let r ← readValue port fuel h.2 h.1
                    pure (some r.2)
                  else
                    pure none
    else
      pure none
  else
    pure none

/- The loop over the files. -/
def searchFiles
    (port : Port K)
    (fuel : Nat)
    (label : Bytes)
    (size : Nat) :
    List P11File → Code K (Option Nat)
  | [] => pure none
  | file :: files => do
      let r ← readObject port fuel label size file
      match r with
      | some objectLen => pure (some objectLen)
      | none => searchFiles port fuel label size files

/-
  `MIAS::p11GetObjectByLabel`: the result, and `*objectLen`.
  The last argument is what the variable `size` holds before
  anything is assigned to it.
-/
def p11GetObjectByLabel
    (port : Port K)
    (fuel : Nat)
    (label : Bytes)
    (size : Nat) : Code K (Bool × Nat) := do
  let ok ←
    succeeds .mias
      (Applet.transmitCase3 port fuel .mias 0x00 0xA4 0x08 0x04
        [0x01, 0x01])
  if ok then do
    let ok ← readBinary port fuel .mias 0 0x01
    if ok then do
      let bs ← Applet.getResponse .mias
      match bs with
      | [nbOfFiles] => do
          let files ← listFiles port fuel nbOfFiles.toNat
          let r ← searchFiles port fuel label size files
          match r with
          | some objectLen => pure (true, objectLen)
          | none => pure (false, 0)
      | _ => pure (false, 0)
    else
      pure (false, 0)
  else
    pure (false, 0)

end Se

end TrustOnboard
