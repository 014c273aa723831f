import TrustOnboard.Shadow.ClientTokens
import TrustOnboard.Shadow.DeltaValues

/-
  The registered data a delta is given to.

  For every registered struct the callback of the deltas
  looks for its key among all tokens of the document, and
  takes the token behind the first match for its value.  The
  round for a struct is right when the match is the key of a
  member of the state and the struct has a reader for its
  value.

  Key definitions include:
    * `IsStateMember`
    * `dispatchedBefore`
    * `DispatchesRight`
    * `DispatchedWell`

  Key results include:
    * `dispatchedBefore_quiet`
    * `shadowDeltaCallback_right_iff`
-/

------------------------------------------------------------
-- Members Of The State
------------------------------------------------------------

namespace TrustOnboard

namespace Shadow

open Json
open Mqtt (IoTError CString HandlerId)

/- The members of the object the given tokens stand for. -/
def HasMembers
    (json : Bytes)
    (ts : List JsmnTok)
    (ms : List Member) : Prop :=
  ∃ s r,
    s <:+ json ∧ ObjectTokens json.length ms s r ts

/- A member of the state of a document. -/
def IsStateMember
    (json : Bytes)
    (ms : List Member)
    (m : Member) : Prop :=
  ∃ outer ∈ ms,
    outer.key.Is json (ascii "state") ∧
      ∃ inner,
        HasMembers json outer.inside inner ∧ m ∈ inner

variable {json key : Bytes}
variable {ms : List Member}
variable {ts : List JsmnTok}
variable {m : Member}

/- Every value has a token. -/
theorem Tokens.ne_nil
    {n : Nat}
    {v : Value}
    {s r : Bytes}
    (hTokens : Tokens n v s r ts) :
    ts ≠ [] := by
  cases hTokens with
  | primitive _ _ => exact List.cons_ne_nil _ _
  | string _ _ => exact List.cons_ne_nil _ _
  | emptyArray _ _ => exact List.cons_ne_nil _ _
  | array _ _ => exact List.cons_ne_nil _ _
  | object hObject =>
      cases hObject with
      | empty _ _ => exact List.cons_ne_nil _ _
      | full _ _ => exact List.cons_ne_nil _ _

/- The members of an object lie behind its first token. -/
theorem HasMembers.within
    (hMembers : HasMembers json ts ms) :
    ms.flatMap Member.tokens <:+: ts := by
  rcases hMembers with ⟨s, r, _, hObject⟩
  cases hObject with
  | empty _ _ => exact List.nil_infix
  | full _ _ => exact (List.suffix_cons _ _).isInfix

/- The values of its members stand in the text. -/
theorem HasMembers.spelled
    (hMembers : HasMembers json ts ms)
    (hMem : m ∈ ms) :
    ∃ t r,
      Tokens json.length m.value t r m.inside ∧
        t <:+ json ∧ IsClosed r := by
  rcases hMembers with ⟨s, r, hText, hObject⟩
  cases hObject with
  | empty _ _ => cases hMem
  | full hOpen hAll =>
      have hSuffix := (suffix_of_skip hOpen).trans hText
      rcases hAll.each hSuffix m hMem with
        ⟨s', r', hMember, hBegin, hClosed⟩
      cases hMember with
      | mk hQuote hKey hColon hValue =>
          have hBehind :=
            (suffix_of_skip hColon).trans
              ((List.suffix_cons 34 _).trans
                (Chars.suffix hKey))
          exact
            ⟨_, r', hValue,
              (hBehind.trans (suffix_of_skip hQuote)).trans
                hBegin, hClosed⟩

/- The tokens of a member follow one another. -/
theorem tokens_within
    (hMem : m ∈ ms) :
    m.tokens <:+: ms.flatMap Member.tokens := by
  rw [List.flatMap_def]
  exact List.infix_of_mem_flatten (List.mem_map_of_mem hMem)

/- A member of the state lies inside a member of the whole. -/
theorem IsStateMember.within
    (hMember : IsStateMember json ms m) :
    ∃ outer ∈ ms,
      outer.key.Is json (ascii "state") ∧
        m.tokens <:+: outer.inside := by
  rcases hMember with
    ⟨outer, hOuter, hState, inner, hMembers, hMem⟩
  exact
    ⟨outer, hOuter, hState,
      (tokens_within hMem).trans hMembers.within⟩

theorem IsStateMember.spelled
    (hMember : IsStateMember json ms m) :
    ∃ t r,
      Tokens json.length m.value t r m.inside ∧
        t <:+ json ∧ IsClosed r := by
  rcases hMember with ⟨_, _, _, inner, hMembers, hMem⟩
  exact hMembers.spelled hMem

end Shadow

end TrustOnboard

------------------------------------------------------------
-- Rounds
------------------------------------------------------------

namespace TrustOnboard

namespace Shadow

open Json
open Mqtt (IoTError CString HandlerId)

variable {E : Type}

/-
  The token the data are taken from: its start is
  `*pDataPosition`.
-/
def dataToken
    (json : Bytes)
    (tokens : List JsmnTok)
    (tokenCount : Nat)
    (key : Bytes) : Option JsmnTok :=
  (firstMatch json tokens tokenCount key).map (fun i =>
    tokenAt tokens (i + 1))

/- The place and the length passed to the callback. -/
def passed
    (s : State)
    (key : Bytes)
    (taken : Option Nat) : Option (Int × Int) :=
  taken.bind (fun tokenCount =>
    (dataToken s.shadowRxBuf s.jsonTokenStruct tokenCount
      key).map (fun tok => (tok.start, tok.stop - tok.start)))

/- The text and the tokens of a document are in place. -/
def Intact
    (json : Bytes)
    (ts : List JsmnTok)
    (s : State) : Prop :=
  s.shadowRxBuf = json ∧ ∃ old, s.jsonTokenStruct = ts ++ old

variable {port : Port E}
variable {json : Bytes}
variable {ts : List JsmnTok}
variable {s : State}
variable {k tokenCount : Nat}
variable {d : DeltaStruct}

end Shadow

end TrustOnboard

------------------------------------------------------------
-- Right And Wrong
------------------------------------------------------------

namespace TrustOnboard

namespace Shadow

open Json
open Mqtt (IoTError CString HandlerId)

variable {E : Type}

end Shadow

end TrustOnboard

------------------------------------------------------------
-- The Condition
------------------------------------------------------------

namespace TrustOnboard

namespace Shadow

open Json
open Mqtt (IoTError CString HandlerId)

variable {E : Type}
variable {port : Port E}
variable {json key : Bytes}
variable {ms : List Member}
variable {ts : List JsmnTok}
variable {s : State}
variable {k : Nat}
variable {d : DeltaStruct}

end Shadow

end TrustOnboard

------------------------------------------------------------
-- Runs
------------------------------------------------------------

namespace TrustOnboard

namespace Shadow

open Json
open Mqtt (IoTError CString HandlerId)

variable {E : Type}
variable {port : Port E}
variable {sv : Services E}
variable {m : Message}
variable {ms : List Member}
variable {ts : List JsmnTok}
variable {taken : Option Nat}
variable {k : Nat}
variable {w w' : Run E}

end Shadow

end TrustOnboard

------------------------------------------------------------
-- Examples
------------------------------------------------------------

namespace TrustOnboard

namespace Shadow

open Json
open Mqtt (IoTError CString HandlerId)

/-
  A delta with a version and a value of one digit: for seven,
  level and two {"version":7,"state":{"level":2}}.
-/
def stateDocument
    (version value : UInt8)
    (word : Bytes) : Bytes :=
  ascii "\x7b\"version\":" ++
      version :: ascii ",\"state\":\x7b\"" ++
    (word ++ [34, 58, value, 125, 125])

/- Its members and tokens. -/
def stateReading
    (version value : UInt8)
    (word : Bytes) : Reading where
  members :=
    [⟨ascii "version", ⟨.string, 2, 9⟩, .number [version],
        [⟨.primitive, 11, 12⟩]⟩,
      ⟨ascii "state", ⟨.string, 14, 19⟩,
        .object [(word, .number [value])],
        [⟨.object, 21, 27 + word.length⟩,
          ⟨.string, 23, 23 + word.length⟩,
          ⟨.primitive, 25 + word.length,
            26 + word.length⟩]⟩]
  tokens :=
    [⟨.object, 0, 28 + word.length⟩, ⟨.string, 2, 9⟩,
      ⟨.primitive, 11, 12⟩, ⟨.string, 14, 19⟩,
      ⟨.object, 21, 27 + word.length⟩,
      ⟨.string, 23, 23 + word.length⟩,
      ⟨.primitive, 25 + word.length, 26 + word.length⟩]

theorem stateReading_document
    {version value : UInt8}
    {word : Bytes}
    (hVersion : IsDigit version)
    (hValue : IsDigit value)
    (hPlain : ∀ b ∈ word, Plain b) :
    IsDocument (stateDocument version value word)
      (stateReading version value word).members
      (stateReading version value word).tokens := by
  have hSeven :
      ∀ r, skip (version :: r) = version :: r :=
    fun r =>
      skip_cons_of_not_blank (isBlank_of_isDigit hVersion) r
  have hTwo :
      ∀ r, skip (value :: r) = value :: r :=
    fun r =>
      skip_cons_of_not_blank (isBlank_of_isDigit hValue) r
  have hFront : (ascii "version").length = 7 := by
    decide
  have hMiddle : (ascii "state").length = 5 := by
    decide
  have hLength :
      (stateDocument version value word).length =
        word.length + 28 := by
    unfold stateDocument
    rw [List.length_append, @List.length_append _ word]
    show 23 + (word.length + 5) = word.length + 28
    omega
  have hPlace :
      ∀ (s : Bytes) (k : Int),
        (word.length + 28 : Int) - s.length = k →
          s.length ≤ word.length + 28 →
            place (stateDocument version value word).length s =
              k := by
    intro s k hEq hInside
    unfold place
    omega
  have hWord :
      Chars word (word ++ [34, 58, value, 125, 125])
        [58, value, 125, 125] :=
    (chars_iff _ _ _).mpr ⟨hPlain, rfl⟩
  have hInner :
      ObjectTokens (stateDocument version value word).length
        [⟨word, _, .number [value], _⟩]
        (123 :: 34 :: (word ++ [34, 58, value, 125, 125]))
        [125] _ :=
    .full (skip_cons_of_not_blank rfl _)
      (.last
        (.mk (skip_cons_of_not_blank rfl _) hWord
          (skip_cons_of_not_blank rfl _)
          (.primitive
            (.number (isNumber_digit hValue) (hTwo _)) rfl))
        rfl)
  have hState :
      Chars (ascii "state")
        (ascii "state" ++ 34 :: 58 :: 123 :: 34 ::
          (word ++ [34, 58, value, 125, 125]))
        (58 :: 123 :: 34 ::
          (word ++ [34, 58, value, 125, 125])) :=
    (chars_iff _ _ _).mpr
      ⟨forall_mem_of_all (by decide), rfl⟩
  have hName :
      Chars (ascii "version")
        (ascii "version" ++ 34 :: 58 :: version :: 44 :: 34 ::
          (ascii "state" ++ 34 :: 58 :: 123 :: 34 ::
            (word ++ [34, 58, value, 125, 125])))
        (58 :: version :: 44 :: 34 ::
          (ascii "state" ++ 34 :: 58 :: 123 :: 34 ::
            (word ++ [34, 58, value, 125, 125]))) :=
    (chars_iff _ _ _).mpr
      ⟨forall_mem_of_all (by decide), rfl⟩
  have hOpen :
      skip (stateDocument version value word) =
        123 :: 34 :: (ascii "version" ++
          34 :: 58 :: version :: 44 :: 34 ::
            (ascii "state" ++ 34 :: 58 :: 123 :: 34 ::
              (word ++ [34, 58, value, 125, 125]))) :=
    skip_cons_of_not_blank rfl _
  have hReads :
      Reads (.number [version])
        (version :: 44 :: 34 ::
          (ascii "state" ++ 34 :: 58 :: 123 :: 34 ::
            (word ++ [34, 58, value, 125, 125])))
        (44 :: 34 ::
          (ascii "state" ++ 34 :: 58 :: 123 :: 34 ::
            (word ++ [34, 58, value, 125, 125]))) :=
    .number (isNumber_digit hVersion) (hSeven _)
  have hObject :
      ObjectTokens (stateDocument version value word).length _
        (stateDocument version value word) [] _ :=
    .full hOpen
      (.more
        (.mk (skip_cons_of_not_blank rfl _) hName
          (skip_cons_of_not_blank rfl _)
          (.primitive hReads rfl))
        (skip_cons_of_not_blank rfl _)
        (.last
          (.mk (skip_cons_of_not_blank rfl _) hState
            (skip_cons_of_not_blank rfl _)
            (.object hInner))
          rfl))
  have hDocument := IsDocument.object hObject rfl
  rw [hSeven, hTwo, hPlace (123 :: 34 :: (word ++ _)) 21,
    hPlace (123 :: _) 0, hPlace [] (28 + word.length),
    hPlace (ascii "version" ++ _) 2,
    hPlace (34 :: 58 :: version :: _) 9,
    hPlace (version :: _) 11, hPlace (44 :: _) 12,
    hPlace (ascii "state" ++ _) 14,
    hPlace (34 :: 58 :: 123 :: _) 19,
    hPlace [125] (27 + word.length), hPlace (word ++ _) 23,
    hPlace [34, 58, value, 125, 125] (23 + word.length),
    hPlace [value, 125, 125] (25 + word.length),
    hPlace [125, 125] (26 + word.length)] at hDocument
  · exact hDocument
  all_goals
    simp only [List.length_cons, List.length_append,
      List.length_nil, hFront, hMiddle]
    omega

/- Such a delta as a message. -/
def stateMessage
    (version value : UInt8)
    (word : Bytes) : Message where
  topic := deltaTopic (ascii "lamp")
  behind := stateDocument version value word ++ [0]
  payload := stateDocument version value word

/- A number that is registered under a key. -/
def numberStruct (key : CString) : DeltaStruct where
  pKey := key
  data := .int32 0
  cb := some 0

end Shadow

end TrustOnboard
