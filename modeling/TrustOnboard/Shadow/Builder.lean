import TrustOnboard.Memory.Text
import TrustOnboard.Mqtt.Types

/-
  The builder of shadow documents, `aws_iot_shadow_json.c`.

  A document is the text in front of its terminator, together
  with how far the calls have written.  Every step prints at
  the end of the text, or over its last character, with a
  bound on what it may print.  Text printed behind the end of
  the buffer is kept: whether it should have been is what
  `reach` tells.

  Key definitions include:
    * `Document`
    * `Document.snprintf`
    * `JsonStruct`
    * `convertDataToString`
    * `addSection`
    * `finalizeJsonDocument`
-/

------------------------------------------------------------
-- Documents
------------------------------------------------------------

namespace TrustOnboard

namespace Shadow

open Mqtt (IoTError CString)

/- Literals without a NUL. -/
theorem nul_free_a : (0 : UInt8) ∉ ascii "a" := by decide

theorem nul_free_c : (0 : UInt8) ∉ ascii "c" := by decide

theorem nul_free_lamp :
    (0 : UInt8) ∉ ascii "lamp" := by
  decide

/-
  A document: its characters in front of the terminator, and
  one past the highest index that was written.
-/
structure Document where
  text : Bytes
  reach : Nat
  deriving DecidableEq

/- The return value of `snprintf` for a text. -/
def snPrintfReturn (text : Bytes) : Int :=
  if text.length < 2 ^ 31 then text.length else -1

namespace Document

/-
  `snprintf(pJsonDocument + strlen(pJsonDocument), n, ..)`
  for a text.
-/
def snprintf
    (d : Document)
    (n : Nat)
    (text : Bytes) : Document :=
  if n = 0 then d
  else
    { text := d.text ++ text.take (n - 1)
      reach :=
        max d.reach
          (d.text.length + min text.length (n - 1) + 1) }

/-
  The same one character earlier.  In an empty document the
  first character falls in front of the buffer.
-/
def snprintfOverLast
    (d : Document)
    (n : Nat)
    (text : Bytes) : Document :=
  if n = 0 then d
  else if d.text = [] then
    { text := (text.take (n - 1)).drop 1
      reach := max d.reach (min text.length (n - 1)) }
  else
    { text := d.text.dropLast ++ text.take (n - 1)
      reach :=
        max d.reach
          (d.text.length + min text.length (n - 1)) }

/- `maxSizeOfJsonDocument - strlen(pJsonDocument)`. -/
@[irreducible]
def sizeLeft
    (d : Document)
    (maxSizeOfJsonDocument : Nat) : Nat :=
  (maxSizeOfJsonDocument + 2 ^ 64 - d.text.length) % 2 ^ 64

end Document

/- `checkReturnValueOfSnPrintf`. -/
def checkReturnValueOfSnPrintf
    (ret : Int)
    (maxSizeOfJsonDocument : Nat) : IoTError :=
  if ret < 0 then .shadowJsonError
  else if maxSizeOfJsonDocument ≤ ret.toNat then
    .shadowJsonBufferTruncated
  else .success

end Shadow

end TrustOnboard

------------------------------------------------------------
-- Elements
------------------------------------------------------------

namespace TrustOnboard

namespace Shadow

open Mqtt (IoTError CString)

/-
  What `pData` points to, for each `JsonPrimitiveType`.  A
  floating-point number is given by what `%f` prints for it.
-/
inductive JsonData where
  | int32 (v : Int32)
  | int16 (v : Int16)
  | int8 (v : Int8)
  | uint32 (v : UInt32)
  | uint16 (v : UInt16)
  | uint8 (v : UInt8)
  | float (printed : Bytes)
  | double (printed : Bytes)
  | bool (v : Bool)
  | string (v : CString)
  | object
  deriving DecidableEq

/- `jsonStruct_t`, less its callback. -/
structure JsonStruct where
  pKey : Option CString
  pData : Option JsonData
  deriving DecidableEq

/- The text of a value, for the types that have one. -/
def JsonData.valueText : JsonData → Option Bytes
  | .int32 v => some (signedDecimal v.toInt)
  | .int16 v => some (signedDecimal v.toInt)
  | .int8 v => some (signedDecimal v.toInt)
  | .uint32 v => some (decimal v.toNat)
  | .uint16 v => some (decimal v.toNat)
  | .uint8 v => some (decimal v.toNat)
  | .float printed => some printed
  | .double printed => some printed
  | .bool v =>
      some (if v then ascii "true" else ascii "false")
  | .string v =>
      some (ascii "\"" ++ v.bytes ++ ascii "\"")
  | .object => none

/- What `convertDataToString` prints, or nothing at all. -/
def JsonData.printedText (data : JsonData) : Option Bytes :=
  data.valueText.map (· ++ ascii ",")

/- `convertDataToString` at the end of a document. -/
def convertDataToString
    (d : Document)
    (maxSizeOfStringBuffer : Nat)
    (data : JsonData) : IoTError × Document :=
  if maxSizeOfStringBuffer = 0 then (.shadowJsonError, d)
  else
    match data.printedText with
    | none =>
        (checkReturnValueOfSnPrintf 0 maxSizeOfStringBuffer, d)
    | some text =>
        (checkReturnValueOfSnPrintf (snPrintfReturn text)
            maxSizeOfStringBuffer,
          d.snprintf maxSizeOfStringBuffer text)

/- What `"\"%s\":"` prints for a key. -/
def JsonStruct.keyText (s : JsonStruct) : Bytes :=
  ascii "\"" ++
    (match s.pKey with
    | some key => key.bytes
    | none => ascii "(null)") ++
    ascii "\":"

/-
  One round of the loop over the arguments, with the size it
  leaves in `remSizeOfJsonBuffer`.
-/
def addElement
    (maxSizeOfJsonDocument : Nat)
    (pTemporary : Option JsonStruct)
    (remSizeOfJsonBuffer : Nat)
    (d : Document) : IoTError × Nat × Document :=
  let tempSize := d.sizeLeft maxSizeOfJsonDocument
  if tempSize ≤ 1 then
    (.shadowJsonError, remSizeOfJsonBuffer, d)
  else
    match pTemporary with
    | none => (.nullValueError, tempSize, d)
    | some s =>
        let d' := d.snprintf tempSize s.keyText
        let rc :=
          checkReturnValueOfSnPrintf
            (snPrintfReturn s.keyText) tempSize
        if rc ≠ .success then (rc, tempSize, d')
        else
          match s.pKey, s.pData with
          | some _, some data =>
              let r := convertDataToString d' tempSize data
              (r.1, tempSize, r.2)
          | _, _ => (.nullValueError, tempSize, d')

/- The loop over the arguments that were passed. -/
def addElements
    (maxSizeOfJsonDocument : Nat) :
    List (Option JsonStruct) → Nat → Document →
      IoTError × Nat × Document
  | [], rem, d => (.success, rem, d)
  | arg :: args, rem, d =>
      let r := addElement maxSizeOfJsonDocument arg rem d
      if r.1 ≠ .success then r
      else
        addElements maxSizeOfJsonDocument args r.2.1 r.2.2

end Shadow

end TrustOnboard

------------------------------------------------------------
-- The Calls
------------------------------------------------------------

namespace TrustOnboard

namespace Shadow

open Mqtt (IoTError CString)

/- `aws_iot_shadow_init_json_document`. -/
def initJsonDocument
    (maxSizeOfJsonDocument : Nat)
    (d : Document) : IoTError × Document :=
  let text := ascii "\x7b\"state\":\x7b"
  (checkReturnValueOfSnPrintf (snPrintfReturn text)
      maxSizeOfJsonDocument,
    if maxSizeOfJsonDocument = 0 then d
    else
      Document.snprintf { d with text := [] }
        maxSizeOfJsonDocument text)

/-
  The common text of `aws_iot_shadow_add_desired` and
  `aws_iot_shadow_add_reported`.  The counter of the loop is
  an `int8_t`, which is below every count from 128 on: the
  loop then goes on to arguments that were not passed, and
  the call has no result.
-/
def addSection
    (header : Bytes)
    (maxSizeOfJsonDocument : Nat)
    (args : List (Option JsonStruct))
    (d : Document) : Option (IoTError × Document) :=
  let tempSize := d.sizeLeft maxSizeOfJsonDocument
  if tempSize ≤ 1 then some (.shadowJsonError, d)
  else
    let d := d.snprintf tempSize header
    let rc :=
      checkReturnValueOfSnPrintf (snPrintfReturn header)
        tempSize
    if rc ≠ .success then some (rc, d)
    else
      let r :=
        addElements maxSizeOfJsonDocument args tempSize d
      if r.1 ≠ .success then some (r.1, r.2.2)
      else if 128 ≤ args.length then none
      else
        some
          (checkReturnValueOfSnPrintf
              (snPrintfReturn (ascii "\x7d,")) r.2.1,
            r.2.2.snprintfOverLast r.2.1 (ascii "\x7d,"))

/- The sections of the state. -/
inductive Section where
  | desired
  | reported
  deriving DecidableEq

/- `aws_iot_shadow_add_desired`. -/
def addDesired :=
  addSection (ascii "\"desired\":\x7b")

/- `aws_iot_shadow_add_reported`. -/
def addReported :=
  addSection (ascii "\"reported\":\x7b")

/- What a section begins with. -/
def Section.header : Section → Bytes
  | .desired => ascii "\"desired\":\x7b"
  | .reported => ascii "\"reported\":\x7b"

/- The call that adds a section. -/
def Section.add : Section →
    Nat → List (Option JsonStruct) → Document →
      Option (IoTError × Document)
  | .desired => addDesired
  | .reported => addReported

/- The conversion of a `uint32_t` for `%d`. -/
def asInt32 (n : UInt32) : Int :=
  if n.toNat < 2 ^ 31 then n.toNat else n.toNat - 2 ^ 32

/- What `FillWithClientTokenSize` prints. -/
def clientTokenText
    (mqttClientID : CString)
    (clientTokenNum : UInt32) : Bytes :=
  mqttClientID.bytes ++ ascii "-" ++
    signedDecimal (asInt32 clientTokenNum)

/-
  `aws_iot_finalize_json_document`: the code, the sequence
  number behind the call, and the document.
-/
def finalizeJsonDocument
    (mqttClientID : CString)
    (clientTokenNum : UInt32)
    (maxSizeOfJsonDocument : Nat)
    (d : Document) : IoTError × UInt32 × Document :=
  let tempSize := d.sizeLeft maxSizeOfJsonDocument
  if tempSize ≤ 1 then (.shadowJsonError, clientTokenNum, d)
  else
    let opening := ascii "\x7d, \"clientToken\":\""
    let d := d.snprintfOverLast tempSize opening
    let rc :=
      checkReturnValueOfSnPrintf (snPrintfReturn opening)
        tempSize
    if rc ≠ .success then (rc, clientTokenNum, d)
    else
      let tempSize := d.sizeLeft maxSizeOfJsonDocument
      if tempSize ≤ 1 then
        (.shadowJsonError, clientTokenNum, d)
      else
        let token :=
          clientTokenText mqttClientID clientTokenNum
        let d := d.snprintf tempSize token
        let rc :=
          checkReturnValueOfSnPrintf (snPrintfReturn token)
            tempSize
        if rc ≠ .success then (rc, clientTokenNum + 1, d)
        else
          let tempSize := d.sizeLeft maxSizeOfJsonDocument
          if tempSize ≤ 1 then
            (.shadowJsonError, clientTokenNum + 1, d)
          else
            let closing := ascii "\"\x7d"
            (checkReturnValueOfSnPrintf
                (snPrintfReturn closing) tempSize,
              clientTokenNum + 1,
              d.snprintf tempSize closing)

end Shadow

end TrustOnboard
