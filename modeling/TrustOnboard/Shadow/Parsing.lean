import TrustOnboard.Memory.Hex
import TrustOnboard.Shadow.Types

/-
  What the shadow client takes from a JSON text,
  `aws_iot_json_utils.c` and the second half of
  `aws_iot_shadow_json.c`.

  The parser writes its tokens over the beginning of one
  array, which keeps what earlier texts left behind them.  A
  search runs over all tokens and looks at the one behind a
  match.

  Key definitions include:
    * `sscanfUnsigned`
    * `parseInto`
    * `isJsonValidAndParse`
    * `extractVersionNumber`
    * `extractClientToken`
    * `isJsonKeyMatchingAndUpdateValue`
-/

------------------------------------------------------------
-- Scanning Numbers
------------------------------------------------------------

namespace TrustOnboard

namespace Shadow

/- `isspace`. -/
def isSpace (b : UInt8) : Bool :=
  b == 32 || (9 ≤ b && b ≤ 13)

/- The number some digits spell. -/
def digitsValue (base : Nat) (ds : Bytes) : Nat :=
  ds.foldl (fun n b => base * n + (digitValue b).toNat) 0

/- The value of a decimal digit. -/
theorem digitValue_of_isDigit
    {b : UInt8}
    (hDigit : IsDigit b) :
    (digitValue b).toNat = b.toNat - 48 := by
  have hLow : 48 ≤ b := hDigit.1
  have hHigh : b ≤ 57 := hDigit.2
  unfold digitValue
  rw [if_pos ⟨hLow, hHigh⟩]
  exact UInt8.toNat_sub_of_le b 48 hLow

/- The sign in front of a number, and what follows it. -/
def splitSign : Bytes → Bool × Bytes
  | 45 :: rest => (true, rest)
  | 43 :: rest => (false, rest)
  | rest => (false, rest)

/- The conversions `%u` for an integer of some bits. -/
def sscanfUnsigned
    (bits : Nat)
    (text : Bytes) : Option Nat :=
  let r := splitSign (text.dropWhile isSpace)
  let ds := r.2.takeWhile (fun b => decide (IsDigit b))
  if ds = [] then none
  else
    let v := digitsValue 10 ds
    some
      ((if 2 ^ 64 ≤ v then 2 ^ 64 - 1
        else if r.1 then 2 ^ 64 - v
        else v) % 2 ^ bits)

/- A digit of the given base. -/
def isBaseDigit (base : Nat) (b : UInt8) : Bool :=
  (decide (IsDigit b) || (97 ≤ b && b ≤ 102) ||
      (65 ≤ b && b ≤ 70)) &&
    decide ((digitValue b).toNat < base)

/-
  The base `%i` chooses, and the digits it reads.  The zero
  in front of an x is one of them.
-/
def chooseBase : Bytes → Nat × Bytes
  | 48 :: 120 :: rest => (16, 48 :: rest)
  | 48 :: 88 :: rest => (16, 48 :: rest)
  | 48 :: rest => (8, 48 :: rest)
  | rest => (10, rest)

/- The conversions `%i`. -/
def sscanfInteger (text : Bytes) : Option Int :=
  let r := splitSign (text.dropWhile isSpace)
  let b := chooseBase r.2
  let ds := b.2.takeWhile (isBaseDigit b.1)
  if ds = [] then none
  else
    let v := digitsValue b.1 ds
    some
      (if r.1 then -(min v (2 ^ 63) : Nat)
      else (min v (2 ^ 63 - 1) : Nat))

end Shadow

end TrustOnboard

------------------------------------------------------------
-- Tokens
------------------------------------------------------------

namespace TrustOnboard

namespace Shadow

open Mqtt (IoTError CString)

/- An entry of the array of tokens. -/
def tokenAt (tokens : List JsmnTok) (i : Nat) : JsmnTok :=
  tokens.getD i ⟨.undefined, 0, 0⟩

/- The text from the start of a token on. -/
def JsmnTok.textFrom (tok : JsmnTok) (json : Bytes) : Bytes :=
  json.drop tok.start.toNat

/- `jsoneq` finds a match. -/
def jsoneq
    (json : Bytes)
    (tok : JsmnTok)
    (s : Bytes) : Bool :=
  decide (tok.type = .string) &&
    (decide ((s.length : Int) = tok.stop - tok.start) &&
      decide ((tok.textFrom json).take s.length = s))

/- The family of `parseUnsignedInteger32Value`. -/
def parseUnsigned
    (bits : Nat)
    (json : Bytes)
    (tok : JsmnTok) : Option Nat :=
  if tok.type ≠ .primitive then none
  else if (tok.textFrom json).head? = some 45 then none
  else sscanfUnsigned bits (tok.textFrom json)

/- `parseUnsignedInteger32Value`. -/
def parseUnsignedInteger32Value
    (json : Bytes)
    (tok : JsmnTok) : Option UInt32 :=
  (parseUnsigned 32 json tok).map UInt32.ofNat

/- `parseUnsignedInteger16Value`. -/
def parseUnsignedInteger16Value
    (json : Bytes)
    (tok : JsmnTok) : Option UInt16 :=
  (parseUnsigned 16 json tok).map UInt16.ofNat

/- `parseUnsignedInteger8Value`. -/
def parseUnsignedInteger8Value
    (json : Bytes)
    (tok : JsmnTok) : Option UInt8 :=
  (parseUnsigned 8 json tok).map UInt8.ofNat

/- The family of `parseInteger32Value`. -/
def parseInteger
    (json : Bytes)
    (tok : JsmnTok) : Option Int :=
  if tok.type ≠ .primitive then none
  else sscanfInteger (tok.textFrom json)

/- `parseInteger32Value`. -/
def parseInteger32Value
    (json : Bytes)
    (tok : JsmnTok) : Option Int32 :=
  (parseInteger json tok).map Int32.ofInt

/- `parseInteger16Value`. -/
def parseInteger16Value
    (json : Bytes)
    (tok : JsmnTok) : Option Int16 :=
  (parseInteger json tok).map Int16.ofInt

/- `parseInteger8Value`. -/
def parseInteger8Value
    (json : Bytes)
    (tok : JsmnTok) : Option Int8 :=
  (parseInteger json tok).map Int8.ofInt

/- `parseBooleanValue`. -/
def parseBooleanValue
    (json : Bytes)
    (tok : JsmnTok) : Option Bool :=
  if tok.type ≠ .primitive then none
  else if (tok.textFrom json).take 4 = ascii "true" then
    some true
  else if (tok.textFrom json).take 5 = ascii "false" then
    some false
  else none

variable {E : Type}

/-
  `UpdateValueIfNoObject`: the data behind it.  A value that
  cannot be read leaves the data alone.
-/
def updateValueIfNoObject
    (port : Port E)
    (json : Bytes)
    (tok : JsmnTok) : JsonData → JsonData
  | .bool b => .bool ((parseBooleanValue json tok).getD b)
  | .int32 v =>
      .int32 ((parseInteger32Value json tok).getD v)
  | .int16 v =>
      .int16 ((parseInteger16Value json tok).getD v)
  | .int8 v => .int8 ((parseInteger8Value json tok).getD v)
  | .uint32 v =>
      .uint32 ((parseUnsignedInteger32Value json tok).getD v)
  | .uint16 v =>
      .uint16 ((parseUnsignedInteger16Value json tok).getD v)
  | .uint8 v =>
      .uint8 ((parseUnsignedInteger8Value json tok).getD v)
  | .float printed =>
      .float
        (if tok.type ≠ .primitive then printed
        else (port.scanFloat (tok.textFrom json)).getD printed)
  | .double printed =>
      .double
        (if tok.type ≠ .primitive then printed
        else (port.scanFloat (tok.textFrom json)).getD printed)
  | .string v => .string v
  | .object => .object

end Shadow

end TrustOnboard

------------------------------------------------------------
-- Documents
------------------------------------------------------------

namespace TrustOnboard

namespace Shadow

open Mqtt (IoTError CString)

variable {E : Type}

/- The array behind a call of `jsmn_parse`, and its result. -/
def parseInto
    (port : Port E)
    (json : Bytes)
    (tokens : List JsmnTok) : Int × List JsmnTok :=
  let r := port.jsmnParse json
  (r.1, r.2 ++ tokens.drop r.2.length)

/- A count of tokens whose first one is an object. -/
def objectCount
    (r : Int × List JsmnTok) : Option Nat :=
  if r.1 < 1 ∨ (tokenAt r.2 0).type ≠ .object then none
  else some r.1.toNat

/-
  `isJsonValidAndParse`: the number of tokens of a text that
  is an object, and the array.
-/
def isJsonValidAndParse
    (port : Port E)
    (json : Bytes)
    (tokens : List JsmnTok) : Option Nat × List JsmnTok :=
  let r := parseInto port json tokens
  (objectCount r, r.2)

/- The tokens a search looks at. -/
def searched (tokenCount : Nat) : List Nat :=
  List.range' 1 (tokenCount - 1)

/- `extractVersionNumber`. -/
def extractVersionNumber
    (json : Bytes)
    (tokens : List JsmnTok)
    (tokenCount : Nat) : Option UInt32 :=
  (searched tokenCount).findSome? (fun i =>
    if jsoneq json (tokenAt tokens i) (ascii "version") then
      parseUnsignedInteger32Value json
        (tokenAt tokens (i + 1))
    else none)

/-
  `extractClientToken`: the text of the token behind the key,
  with the low byte of its length, and the array.
-/
def extractClientToken
    (port : Port E)
    (json : Bytes)
    (tokens : List JsmnTok) : Option Bytes × List JsmnTok :=
  let r := isJsonValidAndParse port json tokens
  (match r.1 with
    | none => none
    | some tokenCount =>
        (searched tokenCount).findSome? (fun i =>
          if jsoneq json (tokenAt r.2 i)
              (ascii "clientToken") then
            let tok := tokenAt r.2 (i + 1)
            some
              ((tok.textFrom json).take
                ((tok.stop - tok.start) % 256).toNat)
          else none),
    r.2)

/-
  `isJsonKeyMatchingAndUpdateValue`: the data behind it and
  the text of the value.
-/
def isJsonKeyMatchingAndUpdateValue
    (port : Port E)
    (json : Bytes)
    (tokens : List JsmnTok)
    (tokenCount : Nat)
    (d : DeltaStruct) : Option (JsonData × Bytes) :=
  (searched tokenCount).findSome? (fun i =>
    if jsoneq json (tokenAt tokens i) d.pKey.bytes then
      let tok := tokenAt tokens (i + 1)
      some
        (updateValueIfNoObject port json tok d.data,
          (tok.textFrom json).take (tok.stop - tok.start).toNat)
    else none)

end Shadow

end TrustOnboard
