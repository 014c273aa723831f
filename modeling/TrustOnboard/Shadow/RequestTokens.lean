import TrustOnboard.Shadow.Actions
import TrustOnboard.Shadow.ClientTokens
import TrustOnboard.Shadow.Jsmn

/-
  The client tokens of the requests the client builds itself.

  A request is an object with the identifier of the client
  and a number as its token, printed without regard to what
  the identifier is made of.  The parser finds the token when
  it does not take a character of the identifier for the end
  of the string.  The counter goes through all its values
  before a token comes again.

  Key definitions include:
    * `emptyJsonWithClientToken`
    * `RequestRight`
    * `TokenFits`

  Key results include:
    * `requestRight_iff`
    * `nodup_requestTokens`
    * `emptyJsonWithClientToken_right_iff`
-/

------------------------------------------------------------
-- Identifiers
------------------------------------------------------------

namespace TrustOnboard

namespace Shadow

variable {mode mode' : StringMode}
variable {text : Bytes}

/- It does not get past another one. -/
theorem scanString_stops
    (hStops : mode.behind text = none)
    (rest : Bytes)
    (k : Nat) :
    (∃ e, scanString mode (text ++ rest) k = .error e) ∨
      ∃ q < text.length,
        scanString mode (text ++ rest) k = .ok (k + q) := by
  induction text generalizing mode k with
  | nil => cases hStops
  | cons c text ih =>
      unfold StringMode.behind at hStops
      rw [List.cons_append, scanString]
      cases hRead : mode.read c with
      | closes =>
          exact .inr ⟨0, Nat.succ_pos _, rfl⟩
      | invalid => exact .inl ⟨.inval, rfl⟩
      | goesOn next =>
          rw [hRead] at hStops
          dsimp only
          rcases ih hStops (k + 1) with hError | hOk
          · exact .inl hError
          · rcases hOk with ⟨q, hLess, hScan⟩
            refine .inr ⟨q + 1, Nat.succ_lt_succ hLess, ?_⟩
            rw [hScan, Nat.add_assoc, Nat.add_comm 1]

/- No escape goes on with a dash. -/
theorem scanString_dash
    (hEscape : mode ≠ .text)
    (rest : Bytes)
    (k : Nat) :
    scanString mode (45 :: rest) k = .error .inval := by
  match mode, hEscape with
  | .text, hEscape => exact absurd rfl hEscape
  | .escape, _ => rfl
  | .digits 0, _ => rfl
  | .digits (_ + 1), _ => rfl

end Shadow

end TrustOnboard

------------------------------------------------------------
-- Requests
------------------------------------------------------------

namespace TrustOnboard

namespace Shadow

open Json
open Mqtt (IoTError CString HandlerId)

variable {E : Type}

/- `emptyJsonWithClientToken`. -/
def emptyJsonWithClientToken
    (mqttClientID : CString)
    (clientTokenNum : UInt32) : Bytes :=
  ascii "\x7b\"clientToken\":\"" ++
      clientTokenText mqttClientID clientTokenNum ++
    ascii "\"\x7d"

theorem emptyJsonWithClientToken_eq
    (mqttClientID : CString)
    (clientTokenNum : UInt32) :
    emptyJsonWithClientToken mqttClientID clientTokenNum =
      requestDocument
        (clientTokenText mqttClientID clientTokenNum) := by
  unfold emptyJsonWithClientToken requestDocument
  rw [List.append_assoc]
  rfl

/- The tokens of a request up to the string of its token. -/
def openTokens : List JsmnTok :=
  [⟨.object, 0, -1⟩, ⟨.string, 2, 13⟩]

/- The parser comes to the token. -/
theorem bareParse_request
    (text : Bytes) :
    bareParse (requestDocument text) =
      match scanString .text (text ++ [34, 125]) 0 with
      | .error e => (e.code, openTokens)
      | .ok k =>
          bareLoop maxJsonTokenExpected (text ++ [34, 125]) 16
            (k + 1)
            (openTokens ++ [⟨.string, 16, 16 + k⟩]) := by
  have hFront :
      bareParse (requestDocument text) =
        bareLoop maxJsonTokenExpected
          (34 :: (text ++ [34, 125])) 15 0 openTokens :=
    rfl
  have hStep :
      bareStep maxJsonTokenExpected 15 34 (text ++ [34, 125])
          openTokens =
        match scanString .text (text ++ [34, 125]) 0 with
        | .error e => (openTokens, .error e)
        | .ok k =>
            bareFill maxJsonTokenExpected
              ⟨.string, 15 + 1, 15 + 1 + k⟩ (k + 1)
              openTokens :=
    rfl
  rw [hFront, bareLoop, hStep]
  cases scanString .text (text ++ [34, 125]) 0 with
  | error e => rfl
  | ok k => rfl

/- The string of a token has ended. -/
theorem isOpen_token
    (k : Nat) :
    (⟨.string, 16, 16 + k⟩ : JsmnTok).isOpen = false := by
  have hStop : ((16 : Int) + k == -1) = false := by
    rw [beq_eq_false_iff_ne]
    omega
  unfold JsmnTok.isOpen
  rw [hStop, Bool.and_false]

/- The brace behind it closes the object. -/
theorem bareLoop_request
    (k : Nat) :
    bareLoop maxJsonTokenExpected [125] (17 + k) 0
        (openTokens ++ [⟨.string, 16, 16 + k⟩]) =
      (3,
        [⟨.object, 0, 18 + k⟩, ⟨.string, 2, 13⟩,
          ⟨.string, 16, 16 + k⟩]) := by
  have hLast :
      lastIndex JsmnTok.isOpen
          (openTokens ++ [⟨.string, 16, 16 + k⟩]) =
        some 0 := by
    show lastIndex JsmnTok.isOpen [_, _, _] = some 0
    simp only [lastIndex, isOpen_token]
    rfl
  have hStep :
      bareStep maxJsonTokenExpected (17 + k) 125 []
          (openTokens ++ [⟨.string, 16, 16 + k⟩]) =
        ([⟨.object, 0, 18 + k⟩, ⟨.string, 2, 13⟩,
          ⟨.string, 16, 16 + k⟩], .ok 0) := by
    rw [bareStep, if_neg (by decide), if_neg (by decide),
      if_pos rfl, bareClose, hLast]
    show
      (([⟨.object, 0, ((17 + k : Nat) : Int) + 1⟩,
          ⟨.string, 2, 13⟩, ⟨.string, 16, 16 + k⟩] :
            List JsmnTok),
        Except.ok 0) = _
    have hEnd : ((17 + k : Nat) : Int) + 1 = 18 + k := by
      omega
    rw [hEnd]
  have hClosed :
      ([⟨.object, 0, 18 + k⟩, ⟨.string, 2, 13⟩,
        ⟨.string, 16, 16 + k⟩] : List JsmnTok).any
          JsmnTok.isOpen = false := by
    have hEnd : ((18 : Int) + k == -1) = false := by
      rw [beq_eq_false_iff_ne]
      omega
    have hObject :
        (⟨.object, 0, 18 + k⟩ : JsmnTok).isOpen = false := by
      unfold JsmnTok.isOpen
      rw [hEnd, Bool.and_false]
    simp only [List.any_cons, List.any_nil, isOpen_token,
      hObject]
    rfl
  rw [bareLoop_ok hStep, bareLoop, hClosed]
  rfl

/- Offsets into a request are small. -/
theorem jsmnParse_request
    {text : Bytes}
    (hShort : text.length ≤ 91) :
    jsmnParse (requestDocument text) =
      bareParse (requestDocument text) := by
  apply jsmnParse_bare
  have hFront :
      (ascii "\x7b\"clientToken\":\"").length = 16 := by
    decide
  unfold requestDocument
  rw [List.length_append, List.length_append, hFront]
  show 16 + (_ + 2) < 2 ^ 31
  omega

/- A token that is passed over is listed as it is. -/
theorem jsmnParse_scannable
    {text : Bytes}
    (hText : isScannable text = true)
    (hShort : text.length ≤ 91) :
    jsmnParse (requestDocument text) =
      (3, (requestReading text).tokens) := by
  have hBehind := of_decide_eq_true hText
  have hScan :
      scanString .text (text ++ [34, 125]) 0 =
        .ok text.length := by
    rw [scanString_behind hBehind, Nat.zero_add]
    rfl
  rw [jsmnParse_request hShort, bareParse_request, hScan]
  dsimp only
  have hSkip :=
    bareLoop_skip maxJsonTokenExpected (text ++ [34]) [125] 16
      (openTokens ++ [⟨.string, 16, 16 + text.length⟩])
  rw [List.append_assoc, List.length_append] at hSkip
  have hPlace :
      16 + (text.length + [(34 : UInt8)].length) =
        17 + text.length := by
    rw [List.length_singleton]
    omega
  rw [hPlace, bareLoop_request] at hSkip
  exact hSkip

/-
  From a token that is not passed over the parser takes less,
  if it does not give up.
-/
theorem jsmnParse_unscannable
    {mqttClientID : CString}
    (clientTokenNum : UInt32)
    (hText : isScannable mqttClientID.bytes = false)
    (hShort : mqttClientID.bytes.length ≤ 79) :
    (jsmnParse
        (emptyJsonWithClientToken mqttClientID
          clientTokenNum)).1 < 0 ∨
      ∃ ts q,
        jsmnParse
            (emptyJsonWithClientToken mqttClientID
              clientTokenNum) = ((ts.length : Int), ts) ∧
          ts[1]? = some ⟨.string, 2, 13⟩ ∧
          ts[2]? = some ⟨.string, 16, 16 + (q : Nat)⟩ ∧
          q < mqttClientID.bytes.length := by
  have hNegative : ∀ e : JsmnError, e.code < 0 := by
    intro e
    cases e <;> decide
  obtain ⟨rest, hRest⟩ :
      ∃ rest,
        clientTokenText mqttClientID clientTokenNum ++
            [34, 125] =
          mqttClientID.bytes ++ 45 :: rest := by
    unfold clientTokenText
    rw [List.append_assoc, List.append_assoc]
    exact ⟨_, rfl⟩
  rw [emptyJsonWithClientToken_eq,
    jsmnParse_request
      (length_clientTokenText clientTokenNum hShort),
    bareParse_request, hRest]
  have hScan :
      (∃ e,
          scanString .text (mqttClientID.bytes ++ 45 :: rest)
            0 = .error e) ∨
        ∃ q < mqttClientID.bytes.length,
          scanString .text (mqttClientID.bytes ++ 45 :: rest)
            0 = .ok q := by
    cases hBehind :
        StringMode.text.behind mqttClientID.bytes with
    | none =>
        have hStops :=
          scanString_stops hBehind (45 :: rest) 0
        simp only [Nat.zero_add] at hStops
        exact hStops
    | some mode =>
        refine .inl ⟨.inval, ?_⟩
        rw [scanString_behind hBehind]
        apply scanString_dash
        rintro rfl
        unfold isScannable at hText
        rw [hBehind] at hText
        cases hText
  rcases hScan with ⟨e, hError⟩ | ⟨q, hLess, hOk⟩
  · rw [hError]
    exact .inl (hNegative e)
  · rw [hOk]
    dsimp only
    rcases bareLoop_keeps maxJsonTokenExpected
        (mqttClientID.bytes ++ 45 :: rest) 16 (q + 1)
        (openTokens ++ [⟨.string, 16, 16 + q⟩]) with
      ⟨hNeg | hCount, hKeeps⟩
    · exact .inl hNeg
    · refine .inr ⟨_, q, Prod.ext hCount rfl, ?_, ?_, hLess⟩
      · exact hKeeps 1 _ rfl rfl
      · exact hKeeps 2 _ rfl (isOpen_token q)

end Shadow

end TrustOnboard

------------------------------------------------------------
-- Right And Wrong
------------------------------------------------------------

namespace TrustOnboard

namespace Shadow

open Json
open Mqtt (IoTError CString HandlerId)

variable {E : Type}
variable {port : Port E}

/- The identifier `aws_iot_shadow_connect` stores. -/
def storedClientID (pMqttClientId : CString) : CString where
  bytes := snprintfText 80 pMqttClientId.bytes
  nul_free := fun hMem =>
    pMqttClientId.nul_free (List.mem_of_mem_take hMem)

/-
  A request is what its sender counts on: it fits into the
  array it is printed to, the token taken from it is the one
  that was printed, and this fits with its NUL into the array
  of the action and into an entry of the list of answers.
-/
structure RequestRight
    (port : Port E)
    (mqttClientID : CString)
    (clientTokenNum : UInt32) : Prop where
  fits :
    (emptyJsonWithClientToken mqttClientID
        clientTokenNum).length + 1 ≤
      maxSizeClientTokenClientSequence
  extracted :
    ∀ old,
      (extractClientToken port
          (emptyJsonWithClientToken mqttClientID
            clientTokenNum) old).1 =
        some (clientTokenText mqttClientID clientTokenNum)
  written :
    ∀ old c,
      extractClientTokenCopy port
          (emptyJsonWithClientToken mqttClientID
            clientTokenNum) old = some c →
        c.written ≤ TokenCaller.internalAction.bufferSize
  stored :
    clientTokenText mqttClientID clientTokenNum ++ [0] <+:
      strncpy (clientTokenText mqttClientID clientTokenNum)
        maxSizeClientIdWithSequence

/-
  No character of the identifier is taken for the end of the
  string, and the identifier, the dash, the number and a NUL
  are no more than 90 bytes.
-/
def TokenFits
    (mqttClientID : CString)
    (clientTokenNum : UInt32) : Prop :=
  isScannable mqttClientID.bytes = true ∧
    mqttClientID.bytes.length +
        (signedDecimal (asInt32 clientTokenNum)).length + 2 ≤
      maxSizeClientIdWithSequence

theorem length_clientTokenText_eq
    (mqttClientID : CString)
    (clientTokenNum : UInt32) :
    (clientTokenText mqttClientID clientTokenNum).length =
      mqttClientID.bytes.length +
        (signedDecimal (asInt32 clientTokenNum)).length +
          1 := by
  have hDash : (ascii "-").length = 1 := by
    decide
  unfold clientTokenText
  rw [List.length_append, List.length_append, hDash]
  omega

/- A request fits for an identifier that is stored. -/
theorem length_request
    {mqttClientID : CString}
    (clientTokenNum : UInt32)
    (hShort : mqttClientID.bytes.length ≤ 79) :
    (emptyJsonWithClientToken mqttClientID
        clientTokenNum).length + 1 ≤
      maxSizeClientTokenClientSequence := by
  have hToken :=
    length_clientTokenText clientTokenNum hShort
  have hFront :
      (ascii "\x7b\"clientToken\":\"").length = 16 := by
    decide
  rw [emptyJsonWithClientToken_eq]
  unfold requestDocument
  rw [List.length_append, List.length_append, hFront]
  show 16 + (_ + 2) + 1 ≤ 110
  omega

theorem length_storedClientID
    (pMqttClientId : CString) :
    (storedClientID pMqttClientId).bytes.length ≤ 79 := by
  show (List.take 79 _).length ≤ 79
  rw [List.length_take]
  omega

/- The token is scannable when the identifier is. -/
theorem isScannable_clientTokenText
    {mqttClientID : CString}
    (clientTokenNum : UInt32)
    (hText : isScannable mqttClientID.bytes = true) :
    isScannable
      (clientTokenText mqttClientID clientTokenNum) =
        true := by
  have hId := of_decide_eq_true hText
  have hPlain :
      ∀ b ∈ ascii "-" ++
          signedDecimal (asInt32 clientTokenNum),
        b ≠ 34 ∧ b ≠ 92 := by
    intro b hMem
    rcases List.mem_append.mp hMem with hDash | hDigit
    · rw [List.mem_singleton.mp hDash]
      decide
    · exact (plain_signedDecimal _ b hDigit).2
  have hNumber := behind_plain hPlain
  unfold isScannable clientTokenText
  rw [List.append_assoc, behind_append hId, hNumber]
  rfl

/- The key is found where it was printed. -/
theorem jsoneq_request
    (text : Bytes) :
    jsoneq (requestDocument text) ⟨.string, 2, 13⟩
      (ascii "clientToken") = true :=
  rfl

/-
  What is copied from a request whose tokens are listed up to
  the string of its token.
-/
theorem request_copy
    {text : Bytes}
    {ts : List JsmnTok}
    {tok : JsmnTok}
    (old : List JsmnTok)
    (hParse :
      port.jsmnParse (requestDocument text) =
        ((ts.length : Int), ts))
    (hKey : ts[1]? = some ⟨.string, 2, 13⟩)
    (hToken : ts[2]? = some tok) :
    extractClientTokenCopy port (requestDocument text) old =
      if (tokenAt ts 0).type = .object then some tok.copied
      else none := by
  have hLess := (List.getElem?_eq_some_iff.mp hToken).1
  have hSome : ts ≠ [] := List.length_pos_iff.mp (by omega)
  have hMatch :
      firstMatch (requestDocument text)
          (ts ++ old.drop ts.length) ts.length
          (ascii "clientToken") = some 1 := by
    obtain ⟨n, hCount⟩ : ∃ n, ts.length - 1 = n + 1 :=
      ⟨ts.length - 2, by omega⟩
    unfold firstMatch searched
    rw [hCount, List.range'_succ, List.find?_cons,
      tokenAt_append hKey, jsoneq_request]
  unfold extractClientTokenCopy
  rw [isJsonValidAndParse_standard old hParse hSome]
  dsimp only
  by_cases hObject : (tokenAt ts 0).type = .object
  · rw [if_pos hObject, if_pos hObject]
    dsimp only
    rw [hMatch, Option.map_some, tokenAt_append hToken]
  · rw [if_neg hObject, if_neg hObject]

variable {mqttClientID : CString}
variable {clientTokenNum : UInt32}

/- What is copied out of a request. -/
theorem text_request
    {text : Bytes}
    {n : Nat} :
    (⟨16, n⟩ : Copied).text (requestDocument text) =
      (text ++ [34, 125]).take n :=
  rfl

/- From a token that is not scannable less is taken. -/
theorem request_unscannable
    (hText : isScannable mqttClientID.bytes = false)
    (hShort : mqttClientID.bytes.length ≤ 79)
    (old : List JsmnTok) :
    (extractClientToken port.withJsmn
        (emptyJsonWithClientToken mqttClientID clientTokenNum)
        old).1 ≠
      some (clientTokenText mqttClientID clientTokenNum) := by
  intro hExtracted
  rw [extractClientToken_copy] at hExtracted
  rcases Option.map_eq_some_iff.mp hExtracted with
    ⟨c, hCopy, hSame⟩
  have hParsed :=
    jsmnParse_unscannable clientTokenNum hText hShort
  rcases hParsed with
    hNegative | ⟨ts, q, hParse, hKey, hToken, hLess⟩
  · have hRefused :
        (isJsonValidAndParse port.withJsmn
          (emptyJsonWithClientToken mqttClientID
            clientTokenNum) old).1 = none :=
      isJsonValidAndParse_refused old
        (Int.lt_trans hNegative (by decide))
    unfold extractClientTokenCopy at hCopy
    dsimp only at hCopy
    rw [hRefused] at hCopy
    cases hCopy
  · rw [emptyJsonWithClientToken_eq] at hParse hCopy hSame
    have hParse' :
        port.withJsmn.jsmnParse
            (requestDocument
              (clientTokenText mqttClientID clientTokenNum)) =
          ((ts.length : Int), ts) :=
      hParse
    rw [request_copy old hParse' hKey hToken] at hCopy
    split at hCopy
    · cases hCopy
      have hLength := congrArg List.length hSame
      have hWhole :=
        length_clientTokenText_eq mqttClientID clientTokenNum
      have hCut :
          (((16 : Int) + q - 16) % 256).toNat ≤ q := by
        omega
      unfold Copied.text JsmnTok.copied at hLength
      rw [List.length_take] at hLength
      dsimp only at hLength
      omega
    · cases hCopy

/- A scannable token is taken as it is. -/
theorem request_scannable
    (hText : isScannable mqttClientID.bytes = true)
    (hShort : mqttClientID.bytes.length ≤ 79)
    (old : List JsmnTok) :
    extractClientTokenCopy port.withJsmn
          (emptyJsonWithClientToken mqttClientID
            clientTokenNum) old =
        some
          ⟨16,
            (clientTokenText mqttClientID
              clientTokenNum).length⟩ ∧
      (extractClientToken port.withJsmn
          (emptyJsonWithClientToken mqttClientID
            clientTokenNum) old).1 =
        some (clientTokenText mqttClientID clientTokenNum) := by
  have hLong := length_clientTokenText clientTokenNum hShort
  obtain ⟨text, hToken⟩ :
      ∃ text,
        clientTokenText mqttClientID clientTokenNum = text :=
    ⟨_, rfl⟩
  have hScannable :=
    isScannable_clientTokenText clientTokenNum hText
  rw [hToken] at hLong hScannable
  rw [emptyJsonWithClientToken_eq, hToken]
  have hCut : (((16 : Int) + text.length - 16) % 256).toNat =
      text.length := by
    omega
  have hCopied :
      (⟨.string, 16, 16 + text.length⟩ : JsmnTok).copied =
        ⟨16, text.length⟩ := by
    unfold JsmnTok.copied
    rw [hCut]
  have hCopy :
      extractClientTokenCopy port.withJsmn
          (requestDocument text) old =
        some ⟨16, text.length⟩ := by
    have hParse :
        port.withJsmn.jsmnParse (requestDocument text) =
          (((requestReading text).tokens.length : Int),
            (requestReading text).tokens) :=
      jsmnParse_scannable hScannable hLong
    rw [request_copy old hParse rfl rfl, hCopied]
    rfl
  refine ⟨hCopy, ?_⟩
  rw [extractClientToken_copy, hCopy, Option.map_some,
    text_request, List.take_left]

theorem length_strncpy
    (src : Bytes)
    (n : Nat) :
    (strncpy src n).length = n := by
  unfold strncpy
  rw [List.length_append, List.length_take,
    List.length_replicate]
  omega

/- When a request is right. -/
theorem requestRight_iff
    (hShort : mqttClientID.bytes.length ≤ 79) :
    RequestRight port.withJsmn mqttClientID clientTokenNum ↔
      TokenFits mqttClientID clientTokenNum := by
  have hLength :=
    length_clientTokenText_eq mqttClientID clientTokenNum
  constructor
  · intro hRight
    refine ⟨?_, ?_⟩
    · cases hText : isScannable mqttClientID.bytes with
      | true => rfl
      | false =>
          exact
            absurd (hRight.extracted [])
              (request_unscannable hText hShort [])
    · have hStored := hRight.stored.length_le
      rw [length_strncpy, List.length_append,
        List.length_singleton] at hStored
      omega
  · rintro ⟨hText, hFits⟩
    refine
      { fits := length_request clientTokenNum hShort
        extracted := fun old =>
          (request_scannable hText hShort old).2
        written := ?_
        stored := ?_ }
    · intro old c hCopy
      rw [(request_scannable hText hShort old).1] at hCopy
      cases hCopy
      show
        (clientTokenText mqttClientID
            clientTokenNum).length + 1 ≤
          maxSizeClientIdWithSequence
      omega
    · obtain ⟨k, hRoom⟩ :
          ∃ k,
            maxSizeClientIdWithSequence -
                (clientTokenText mqttClientID
                  clientTokenNum).length = k + 1 :=
        ⟨maxSizeClientIdWithSequence -
          (clientTokenText mqttClientID
            clientTokenNum).length - 1, by omega⟩
      unfold strncpy
      rw [List.take_of_length_le (by omega), hRoom,
        List.replicate_succ]
      exact ⟨List.replicate k 0, by simp⟩

end Shadow

end TrustOnboard

------------------------------------------------------------
-- Distinct Tokens
------------------------------------------------------------

namespace TrustOnboard

namespace Shadow

open Json
open Mqtt (IoTError CString HandlerId)

variable {E : Type}

theorem decimal_injective
    {m n : Nat}
    (hSame : decimal m = decimal n) :
    m = n := by
  rw [← digitsValue_decimal m, hSame, digitsValue_decimal]

/- No numeral without a sign begins with one. -/
theorem decimal_ne_minus
    (n : Nat)
    (rest : Bytes) :
    decimal n ≠ 45 :: rest := by
  intro hText
  have hDigit :=
    decimal_digits n 45 (by rw [hText]; exact List.mem_cons_self)
  exact absurd hDigit (by decide)

theorem signedDecimal_injective
    {i j : Int}
    (hSame : signedDecimal i = signedDecimal j) :
    i = j := by
  cases i with
  | ofNat m =>
      cases j with
      | ofNat n => rw [decimal_injective hSame]
      | negSucc n => exact absurd hSame (decimal_ne_minus m _)
  | negSucc m =>
      cases j with
      | ofNat n => exact absurd hSame.symm (decimal_ne_minus n _)
      | negSucc n =>
          have hDigits := List.tail_eq_of_cons_eq hSame
          have hNext := decimal_injective hDigits
          have hSucc := Nat.succ.inj hNext
          rw [hSucc]

theorem asInt32_injective
    {m n : UInt32}
    (hSame : asInt32 m = asInt32 n) :
    m = n := by
  have hM := m.toNat_lt
  have hN := n.toNat_lt
  unfold asInt32 at hSame
  apply UInt32.toNat_inj.mp
  split at hSame <;> split at hSame <;> omega

/- Different numbers make different tokens. -/
theorem clientTokenText_injective
    {mqttClientID : CString}
    {m n : UInt32}
    (hSame :
      clientTokenText mqttClientID m =
        clientTokenText mqttClientID n) :
    m = n := by
  unfold clientTokenText at hSame
  exact
    asInt32_injective
      (signedDecimal_injective
        (List.append_cancel_left hSame))

/- Requests one after another. -/
def requestJsons : Nat → Code E (List Bytes)
  | 0 => pure []
  | count + 1 => do
      let json ← requestJson
      let rest ← requestJsons count
      pure (json :: rest)

/- The tokens printed from some value of the counter on. -/
def requestTokens
    (mqttClientID : CString)
    (first : UInt32)
    (count : Nat) : List Bytes :=
  (List.range count).map (fun i =>
    clientTokenText mqttClientID (first + UInt32.ofNat i))

theorem requestTokens_succ
    (mqttClientID : CString)
    (first : UInt32)
    (count : Nat) :
    requestTokens mqttClientID first (count + 1) =
      clientTokenText mqttClientID first ::
        requestTokens mqttClientID (first + 1) count := by
  have hNext :
      ∀ i : Nat,
        first + UInt32.ofNat (i + 1) =
          first + 1 + UInt32.ofNat i := by
    intro i
    rw [UInt32.ofNat_add, UInt32.add_comm (UInt32.ofNat i),
      ← UInt32.add_assoc]
    rfl
  have hZero : first + UInt32.ofNat 0 = first :=
    UInt32.add_zero first
  unfold requestTokens
  rw [List.range_succ_eq_map, List.map_cons, List.map_map,
    hZero]
  congr 2
  funext i
  exact congrArg (clientTokenText mqttClientID) (hNext i)

/- They are the tokens of the requests. -/
theorem requestJsons_run
    (count : Nat)
    (w : Run E) :
    ∃ w',
      (requestJsons count).run w =
        (some
            ((requestTokens w.st.shadow.mqttClientID
              w.st.shadow.clientTokenNum count).map
                requestDocument), w') := by
  induction count generalizing w with
  | zero => exact ⟨w, rfl⟩
  | succ count ih =>
      have hFirst :
          requestJson.run w =
            (some
                (emptyJsonWithClientToken
                  w.st.shadow.mqttClientID
                  w.st.shadow.clientTokenNum),
              (requestJson.run w).2) :=
        rfl
      rcases ih (requestJson.run w).2 with ⟨w', hNext⟩
      have hRest :
          (requestJsons count).run (requestJson.run w).2 =
            (some
                ((requestTokens w.st.shadow.mqttClientID
                  (w.st.shadow.clientTokenNum + 1)
                    count).map requestDocument), w') :=
        hNext
      refine ⟨w', ?_⟩
      rw [requestJsons, Prog.run_bind_of_run hFirst,
        Prog.run_bind_of_run hRest, requestTokens_succ,
        List.map_cons, ← emptyJsonWithClientToken_eq]
      rfl

/- Before the counter comes round none comes again. -/
theorem nodup_requestTokens
    (mqttClientID : CString)
    (first : UInt32)
    {count : Nat}
    (hFew : count ≤ 2 ^ 32) :
    (requestTokens mqttClientID first count).Nodup := by
  apply List.Nodup.map_on ?_ List.nodup_range
  intro i hi j hj hSame
  have hFirst := List.mem_range.mp hi
  have hSecond := List.mem_range.mp hj
  have hNumbers := clientTokenText_injective hSame
  have hOffsets := (UInt32.add_right_inj first).mp hNumbers
  have hNat := congrArg UInt32.toNat hOffsets
  rw [UInt32.toNat_ofNat', UInt32.toNat_ofNat'] at hNat
  omega

/-
  For every identifier, every value of the counter makes a
  request that is right exactly when its token fits, and up
  to the number of values no two requests in a row have the
  same token.
-/
theorem emptyJsonWithClientToken_right_iff
    (port : Port E)
    (pMqttClientId : CString) :
    (∀ clientTokenNum,
      RequestRight port.withJsmn (storedClientID pMqttClientId)
          clientTokenNum ↔
        TokenFits (storedClientID pMqttClientId)
          clientTokenNum) ∧
      ∀ (w : Run E) (count : Nat),
        w.st.shadow.mqttClientID =
            storedClientID pMqttClientId →
          count ≤ 2 ^ 32 →
            ∃ tokens w',
              (requestJsons count).run w =
                  (some (tokens.map requestDocument), w') ∧
                tokens =
                  requestTokens (storedClientID pMqttClientId)
                    w.st.shadow.clientTokenNum count ∧
                tokens.Nodup := by
  constructor
  · intro clientTokenNum
    exact
      requestRight_iff (length_storedClientID pMqttClientId)
  · intro w count hId hFew
    rcases requestJsons_run count w with ⟨w', hRun⟩
    rw [hId] at hRun
    exact
      ⟨_, w', hRun, rfl, nodup_requestTokens _ _ hFew⟩

/- A client with a plain identifier. -/
def plainClient : CString :=
  ⟨ascii "lamp", nul_free_lamp⟩

theorem emptyJsonWithClientToken_right_iff_plain :
    (RequestRight Port.calm.withJsmn
        (storedClientID plainClient) 7 ↔
      TokenFits (storedClientID plainClient) 7) ∧
      ∃ tokens w',
        (requestJsons 3).run
            (⟨⟨{ State.blank with
                mqttClientID := storedClientID plainClient },
              ()⟩, []⟩ : Run Unit) =
          (some (tokens.map requestDocument), w') ∧
          tokens =
            requestTokens (storedClientID plainClient) 0 3 ∧
          tokens.Nodup :=
  ⟨(emptyJsonWithClientToken_right_iff Port.calm
      plainClient).1 7,
    (emptyJsonWithClientToken_right_iff Port.calm
      plainClient).2 _ 3 rfl (by decide)⟩

/- A client with a quote in its identifier. -/
def quotedClient : CString :=
  ⟨ascii "a\"b", by decide⟩

/- Its token ends at the quote. -/
theorem emptyJsonWithClientToken_quoted :
    (extractClientToken Port.calm.withJsmn
          (emptyJsonWithClientToken
            (storedClientID quotedClient) 0) []).1 =
        some (ascii "a") ∧
      ¬ RequestRight Port.calm.withJsmn
        (storedClientID quotedClient) 0 := by
  have hShort :
      (extractClientToken Port.calm.withJsmn
          (emptyJsonWithClientToken
            (storedClientID quotedClient) 0) []).1 =
        some (ascii "a") := by
    decide +kernel
  refine ⟨hShort, ?_⟩
  intro hRight
  have hWhole := hRight.extracted []
  rw [hShort] at hWhole
  exact absurd hWhole (by decide)

end Shadow

end TrustOnboard
