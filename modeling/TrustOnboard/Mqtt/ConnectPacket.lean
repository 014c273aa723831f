import TrustOnboard.Mqtt.Packets
import TrustOnboard.Mqtt.Wire

/-
  The grammar of the CONNECT packet of MQTT 3.1.1, as a
  decoder, and what the packets of the client decode to.

  The decoder is written from the packet's layout and knows
  nothing of the encoder.  Strings are taken as the bytes
  they consist of.

  Key definitions include:
    * `ConnectContents`
    * `ConnectFlags`
    * `decodeConnect`
    * `connectContents`

  Key results include:
    * `takeString_writeUtf8String`
    * `decodeFlags_connectFlags`
    * `decodeConnect_serialized`
-/

------------------------------------------------------------
-- The Decoder
------------------------------------------------------------

namespace TrustOnboard

namespace Mqtt

/- The will a CONNECT packet carries. -/
structure WillContents where
  topic : Bytes
  message : Bytes
  qos : QoS
  isRetained : Bool
  deriving DecidableEq

/- What a CONNECT packet says. -/
structure ConnectContents where
  clientID : Bytes
  will : Option WillContents
  username : Option Bytes
  password : Option Bytes
  keepAliveInterval : UInt16
  isCleanSession : Bool
  deriving DecidableEq

/- The flags of a CONNECT packet. -/
structure ConnectFlags where
  cleansession : Bool
  will : Bool
  willQoS : QoS
  willRetain : Bool
  password : Bool
  username : Bool
  deriving DecidableEq

/-
  The rules for the flags: there is no quality of service
  number three, a will that is absent has no attributes, and
  a password needs a user name.
-/
def ConnectFlags.isValid (f : ConnectFlags) : Bool :=
  decide (f.willQoS ≠ .qos3) &&
    (f.will || (decide (f.willQoS = .qos0) && !f.willRetain)) &&
    (f.username || !f.password)

/- Take a byte apart into flags. -/
def ConnectFlags.ofByte (byte : UInt8) : ConnectFlags where
  cleansession := byte / 2 % 2 = 1
  will := byte / 4 % 2 = 1
  willQoS := QoS.ofBits (byte / 8)
  willRetain := byte / 32 % 2 = 1
  password := byte / 64 % 2 = 1
  username := byte / 128 = 1

/- The flags of a byte whose reserved bit is zero. -/
def decodeFlags (byte : UInt8) : Option ConnectFlags :=
  if byte % 2 = 0 ∧ (ConnectFlags.ofByte byte).isValid then
    some (ConnectFlags.ofByte byte)
  else
    none

/- A string that is there when its flag is set. -/
def takeOptional
    (flag : Bool)
    (bs : Bytes) : Option (Option Bytes × Bytes) :=
  if flag then
    (takeString bs).map (fun r => (some r.1, r.2))
  else
    some (none, bs)

/- Topic and message of a will, with its attributes. -/
def takeWill
    (flags : ConnectFlags)
    (bs : Bytes) : Option (Option WillContents × Bytes) :=
  if flags.will then do
    let (topic, bs) ← takeString bs
    let (message, bs) ← takeString bs
    some
      (some
        { topic := topic
          message := message
          qos := flags.willQoS
          isRetained := flags.willRetain },
        bs)
  else
    some (none, bs)

/- The payload of a CONNECT packet. -/
def decodeConnectPayload
    (flags : ConnectFlags)
    (keepAlive : UInt16)
    (bs : Bytes) : Option ConnectContents := do
  let (clientID, bs) ← takeString bs
  let (will, bs) ← takeWill flags bs
  let (username, bs) ← takeOptional flags.username bs
  let (password, bs) ← takeOptional flags.password bs
  if bs = [] then
    some
      { clientID := clientID
        will := will
        username := username
        password := password
        keepAliveInterval := keepAlive
        isCleanSession := flags.cleansession }
  else
    none

/- The variable header and the payload. -/
def decodeConnectBody
    (bs : Bytes) : Option ConnectContents := do
  let (name, bs) ← takeString bs
  match bs with
  | level :: flags :: bs =>
      if name = protocolName ∧ level = 4 then do
        let flags ← decodeFlags flags
        let (keepAlive, bs) ← takeUint16 bs
        decodeConnectPayload flags keepAlive bs
      else
        none
  | _ => none

/- A whole CONNECT packet. -/
def decodeConnect : Bytes → Option ConnectContents
  | [] => none
  | header :: bs =>
      if header = 16 then do
        let (remLen, bs) ←
          takeLength maxNoOfRemainingLengthBytes bs
        if remLen = bs.length then
          decodeConnectBody bs
        else
          none
      else
        none

/- The bytes at a pointer. -/
def copied (source : Option Bytes) (len : UInt16) : Bytes :=
  (memcpyFrom source len.toNat).getD []

/- The contents a caller of connect asks for. -/
def connectContents (p : ConnectParams) : ConnectContents where
  clientID := copied p.pClientID p.clientIDLen
  will :=
    if p.isWillMsgPresent then
      some
        { topic := copied p.will.pTopicName p.will.topicNameLen
          message := copied p.will.pMessage p.will.msgLen
          qos := p.will.qos
          isRetained := p.will.isRetained }
    else
      none
  username :=
    if p.pUsername.isSome then
      some (copied p.pUsername p.usernameLen)
    else
      none
  password :=
    if p.pPassword.isSome then
      some (copied p.pPassword p.passwordLen)
    else
      none
  keepAliveInterval := p.keepAliveIntervalInSec
  isCleanSession := p.isCleanSession

end Mqtt

end TrustOnboard

------------------------------------------------------------
-- Fields
------------------------------------------------------------

namespace TrustOnboard

namespace Mqtt

/- A string the client writes is taken whole. -/
theorem takeString_writeUtf8String
    {source : Option Bytes}
    {len : UInt16}
    {bs : Bytes}
    (hWrite : writeUtf8String source len = some bs)
    (rest : Bytes) :
    takeString (bs ++ rest) =
      some (copied source len, rest) := by
  simp only [writeUtf8String, Option.map_eq_some_iff]
    at hWrite
  rcases hWrite with ⟨string, hCopy, rfl⟩
  rw [List.append_assoc,
    takeString_written (length_memcpyFrom hCopy)]
  simp [copied, hCopy]

/- The flags the client writes. -/
def ConnectFlags.ofParams (p : ConnectParams) :
    ConnectFlags where
  cleansession := p.isCleanSession
  will := p.isWillMsgPresent
  willQoS := if p.isWillMsgPresent then p.will.qos else .qos0
  willRetain := p.isWillMsgPresent && p.will.isRetained
  password := p.pPassword.isSome
  username := p.pUsername.isSome

theorem connectFlags_ofByte
    (p : ConnectParams) :
    connectFlags p % 2 = 0 ∧
      ConnectFlags.ofByte (connectFlags p) =
        ConnectFlags.ofParams p := by
  unfold connectFlags ConnectFlags.ofParams
  cases p.isCleanSession <;> cases p.isWillMsgPresent <;>
    cases p.pPassword.isSome <;>
    cases p.pUsername.isSome <;>
    cases p.will.isRetained <;> cases p.will.qos <;>
    decide

theorem decodeFlags_connectFlags
    (p : ConnectParams) :
    decodeFlags (connectFlags p) =
      if (ConnectFlags.ofParams p).isValid then
        some (ConnectFlags.ofParams p)
      else
        none := by
  rcases connectFlags_ofByte p with ⟨hReserved, hFlags⟩
  unfold decodeFlags
  rw [hFlags]
  simp [hReserved]

end Mqtt

end TrustOnboard

------------------------------------------------------------
-- The Packets Of The Client
------------------------------------------------------------

namespace TrustOnboard

namespace Mqtt

/- The parts of a body in a row. -/
theorem concatParts_cons
    {part : Option Bytes}
    {parts : List (Option Bytes)}
    {bs : Bytes}
    (hConcat : concatParts (part :: parts) = some bs) :
    ∃ first rest,
      part = some first ∧
        concatParts parts = some rest ∧
          bs = first ++ rest := by
  simp only [concatParts, List.foldr_cons,
    Option.bind_eq_some_iff, Option.map_eq_some_iff]
    at hConcat
  rcases hConcat with ⟨first, hFirst, rest, hRest, rfl⟩
  exact ⟨first, rest, hFirst, hRest, rfl⟩

theorem concatParts_nil
    {bs : Bytes}
    (hConcat : concatParts [] = some bs) :
    bs = [] := by
  simp only [concatParts, List.foldr_nil,
    Option.some.injEq] at hConcat
  exact hConcat.symm

/- An optional string in front of the other parts. -/
theorem takeOptional_parts
    {source : Option Bytes}
    {len : UInt16}
    {parts : List (Option Bytes)}
    {bs : Bytes}
    (hConcat :
      concatParts (optionalParts source len ++ parts) =
        some bs) :
    ∃ rest,
      concatParts parts = some rest ∧
        takeOptional source.isSome bs =
          some
            (if source.isSome then some (copied source len)
              else none,
              rest) := by
  unfold optionalParts at hConcat
  cases hSome : source.isSome with
  | false =>
      rw [hSome] at hConcat
      exact ⟨bs, hConcat, rfl⟩
  | true =>
      rw [hSome] at hConcat
      rcases concatParts_cons hConcat with
        ⟨first, rest, hFirst, hRest, rfl⟩
      refine ⟨rest, hRest, ?_⟩
      simp [takeOptional,
        takeString_writeUtf8String hFirst]

/- The will in front of the other parts. -/
theorem takeWill_parts
    {p : ConnectParams}
    {parts : List (Option Bytes)}
    {bs : Bytes}
    (hConcat :
      concatParts (willParts p ++ parts) = some bs) :
    ∃ rest,
      concatParts parts = some rest ∧
        takeWill (ConnectFlags.ofParams p) bs =
          some ((connectContents p).will, rest) := by
  unfold willParts at hConcat
  unfold takeWill connectContents ConnectFlags.ofParams
  cases hWill : p.isWillMsgPresent with
  | false =>
      rw [hWill] at hConcat
      exact ⟨bs, hConcat, rfl⟩
  | true =>
      rw [hWill] at hConcat
      rcases concatParts_cons hConcat with
        ⟨topic, more, hTopic, hMore, rfl⟩
      rcases concatParts_cons hMore with
        ⟨message, rest, hMessage, hRest, rfl⟩
      refine ⟨rest, hRest, ?_⟩
      simp [takeString_writeUtf8String hTopic,
        takeString_writeUtf8String hMessage]

/- The client identifier, which may be absent. -/
theorem takeString_clientID
    {p : ConnectParams}
    {bs : Bytes}
    (hId : p.pClientID.isNone = true → p.clientIDLen = 0)
    (hPart : clientIDPart p = some bs)
    (rest : Bytes) :
    takeString (bs ++ rest) =
      some (copied p.pClientID p.clientIDLen, rest) := by
  unfold clientIDPart at hPart
  by_cases hNone : p.pClientID.isNone = true
  · rw [if_pos hNone] at hPart
    cases hPart
    have hEmpty :
        takeString (writeUint16 0 ++ ([] ++ rest)) =
          some ([], rest) :=
      takeString_written rfl rest
    simpa [copied, hId hNone, memcpyFrom] using hEmpty
  · rw [if_neg hNone] at hPart
    exact takeString_writeUtf8String hPart rest

/- The payload decodes to what the caller asked for. -/
theorem decodeConnectPayload_parts
    {p : ConnectParams}
    {bs : Bytes}
    (hId : p.pClientID.isNone = true → p.clientIDLen = 0)
    (hConcat :
      concatParts
          (clientIDPart p ::
            (willParts p ++
              (optionalParts p.pUsername p.usernameLen ++
                optionalParts p.pPassword p.passwordLen))) =
        some bs) :
    decodeConnectPayload (ConnectFlags.ofParams p)
        p.keepAliveIntervalInSec bs =
      some (connectContents p) := by
  rcases concatParts_cons hConcat with
    ⟨first, rest, hFirst, hConcat₀, rfl⟩
  rcases takeWill_parts hConcat₀ with
    ⟨bs₁, hConcat₁, hWill⟩
  rcases takeOptional_parts hConcat₁ with
    ⟨bs₂, hConcat₂, hUser⟩
  rw [← List.append_nil (optionalParts _ _)] at hConcat₂
  rcases takeOptional_parts hConcat₂ with
    ⟨bs₃, hConcat₃, hPassword⟩
  have hEnd := concatParts_nil hConcat₃
  have hClient := takeString_clientID hId hFirst rest
  unfold decodeConnectPayload
  simp only [ConnectFlags.ofParams] at hWill ⊢
  simp [hClient, hWill, hUser, hPassword, hEnd,
    connectContents]

/-
  The body decodes to what the caller asked for, unless the
  flags break a rule.
-/
theorem decodeConnectBody_parts
    {p : ConnectParams}
    {bs : Bytes}
    (hId : p.pClientID.isNone = true → p.clientIDLen = 0)
    (hVersion : p.mqttVersion = 4)
    (hConcat : concatParts (connectParts p) = some bs) :
    decodeConnectBody bs =
      if (ConnectFlags.ofParams p).isValid then
        some (connectContents p)
      else
        none := by
  unfold connectParts at hConcat
  simp only [List.append_assoc, List.cons_append,
    List.nil_append] at hConcat
  rcases concatParts_cons hConcat with
    ⟨name, bs₁, hName, hConcat₁, rfl⟩
  rcases concatParts_cons hConcat₁ with
    ⟨fixed, bs₂, hFixed, hConcat₂, rfl⟩
  rcases concatParts_cons hConcat₂ with
    ⟨interval, bs₃, hInterval, hConcat₃, rfl⟩
  cases hFixed
  cases hInterval
  have hProtocol :
      copied (some protocolName) 4 = protocolName := rfl
  unfold decodeConnectBody
  rw [takeString_writeUtf8String hName, hProtocol]
  simp only [Option.bind_eq_bind, Option.bind_some,
    List.cons_append, List.nil_append, hVersion, and_self,
    if_true, decodeFlags_connectFlags, takeUint16_written]
  split
  · exact decodeConnectPayload_parts hId hConcat₃
  · rfl

/-
  A packet of the client decodes to what its options say,
  unless their flags break a rule.
-/
theorem decodeConnect_serialized
    {txBufLen : Nat}
    {p : ConnectParams}
    {packet : Bytes}
    (hEnc :
      serializeConnect txBufLen p = some (.ok packet)) :
    decodeConnect packet =
      if (ConnectFlags.ofParams p).isValid then
        some (connectContents p)
      else
        none := by
  rcases serializeConnect_ok hEnc with
    ⟨hId, hVersion, body, hBody, rfl⟩
  rcases length_connectParts hId body hBody with
    ⟨hLength, hShort⟩
  have hField :=
    takeLength_field
      (writeLenToBuffer_base128 (getConnectPacketLength p))
      body (length_writeLenToBuffer_le _ hShort)
  have hHeader : initHeader .connect .qos0 0 0 = 16 := rfl
  rw [List.cons_append, decodeConnect, hHeader, hField]
  simp only [if_true, Option.bind_eq_bind,
    Option.bind_some, hLength]
  exact decodeConnectBody_parts hId hVersion hBody

end Mqtt

end TrustOnboard
