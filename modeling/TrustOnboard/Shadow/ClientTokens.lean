import TrustOnboard.Shadow.Placement
import TrustOnboard.Shadow.RoundTrip

/-
  Taking the client token out of a document.

  The search for the client token runs over all tokens and
  copies the text of the one behind the first match, cut to
  the low byte of its length, into an array of the caller.
  It is right about the documents in which nothing but the
  key of the outermost object is spelled like the key, or
  comes after it, and whose token is short enough.

  Key definitions include:
    * `extractClientTokenReads`
    * `extractClientTokenCopy`
    * `ExtractsRight`
    * `TokenInPlace`

  Key results include:
    * `extractClientToken_right_iff`
-/

------------------------------------------------------------
-- What The Search Touches
------------------------------------------------------------

namespace TrustOnboard

namespace Shadow

open Json
open Mqtt (CString)

variable {E : Type}

/- The callers, each with an array of its own. -/
inductive TokenCaller where
  | internalAction
  | ackStatusCallback
  deriving DecidableEq, Repr

/- The size of the array. -/
def TokenCaller.bufferSize : TokenCaller → Nat
  | .internalAction => maxSizeClientIdWithSequence
  | .ackStatusCallback => maxSizeClientTokenClientSequence

/- The tokens the loop looks at, and the one it copies. -/
def lookedAt
    (json : Bytes)
    (tokens : List JsmnTok)
    (word : Bytes) : List Nat → List Nat
  | [] => []
  | i :: rest =>
      if jsoneq json (tokenAt tokens i) word then [i, i + 1]
      else i :: lookedAt json tokens word rest

/- The tokens `extractClientToken` reads. -/
def extractClientTokenReads
    (port : Port E)
    (json : Bytes)
    (tokens : List JsmnTok) : List Nat :=
  let r := parseInto port json tokens
  if r.1 < 1 then []
  else
    0 :: (match objectCount r with
      | none => []
      | some tokenCount =>
          lookedAt json r.2 (ascii "clientToken")
            (searched tokenCount))

/- What is copied: from where, and `length`. -/
structure Copied where
  start : Int
  length : Nat
  deriving DecidableEq, Repr

/- The part of a text `strncpy` is given. -/
def JsmnTok.copied (tok : JsmnTok) : Copied where
  start := tok.start
  length := ((tok.stop - tok.start) % 256).toNat

/- The bytes that arrive in the array. -/
def Copied.text (c : Copied) (json : Bytes) : Bytes :=
  (json.drop c.start.toNat).take c.length

/-
  The number of bytes written: those of the copy, and the
  NUL behind it.
-/
def Copied.written (c : Copied) : Nat :=
  c.length + 1

/- The copy `extractClientToken` makes. -/
def extractClientTokenCopy
    (port : Port E)
    (json : Bytes)
    (tokens : List JsmnTok) : Option Copied :=
  let r := isJsonValidAndParse port json tokens
  match r.1 with
  | none => none
  | some tokenCount =>
      (firstMatch json r.2 tokenCount
        (ascii "clientToken")).map (fun i =>
          (tokenAt r.2 (i + 1)).copied)

/- It is what the caller finds in its array. -/
theorem extractClientToken_copy
    (port : Port E)
    (json : Bytes)
    (tokens : List JsmnTok) :
    (extractClientToken port json tokens).1 =
      (extractClientTokenCopy port json tokens).map
        (fun c => c.text json) := by
  unfold extractClientToken extractClientTokenCopy
  dsimp only
  cases (isJsonValidAndParse port json tokens).1 with
  | none => rfl
  | some tokenCount =>
      dsimp only
      rw [findSome?_ite, Option.map_map]
      rfl

variable {json word : Bytes}
variable {tokens : List JsmnTok}
variable {xs : List Nat}

/- Beside the indices themselves only the copy is read. -/
theorem mem_lookedAt
    {j : Nat}
    (hMem : j ∈ lookedAt json tokens word xs) :
    j ∈ xs ∨
      ∃ i,
        xs.find? (fun i =>
            jsoneq json (tokenAt tokens i) word) = some i ∧
          j = i + 1 := by
  induction xs with
  | nil => cases hMem
  | cons i rest ih =>
      unfold lookedAt at hMem
      rw [List.find?_cons]
      cases hHere : jsoneq json (tokenAt tokens i) word with
      | true =>
          rw [hHere, if_pos rfl] at hMem
          rcases List.mem_cons.mp hMem with rfl | hMem
          · exact .inl List.mem_cons_self
          · cases List.mem_singleton.mp hMem
            exact .inr ⟨i, rfl, rfl⟩
      | false =>
          rw [hHere, if_neg (by decide)] at hMem
          rcases List.mem_cons.mp hMem with rfl | hMem
          · exact .inl List.mem_cons_self
          · rcases ih hMem with hRest | hFound
            · exact .inl (List.mem_cons_of_mem i hRest)
            · exact .inr hFound

/- The token behind the first match is read. -/
theorem next_mem_lookedAt
    {i : Nat}
    (hFound :
      xs.find? (fun i =>
        jsoneq json (tokenAt tokens i) word) = some i) :
    i + 1 ∈ lookedAt json tokens word xs := by
  induction xs with
  | nil => cases hFound
  | cons k rest ih =>
      rw [List.find?_cons] at hFound
      unfold lookedAt
      cases hHere : jsoneq json (tokenAt tokens k) word with
      | true =>
          rw [hHere] at hFound
          cases hFound
          rw [if_pos rfl]
          exact List.mem_cons_of_mem i List.mem_cons_self
      | false =>
          rw [hHere] at hFound
          rw [if_neg (by decide)]
          exact List.mem_cons_of_mem k (ih hFound)

end Shadow

end TrustOnboard

------------------------------------------------------------
-- Right And Wrong
------------------------------------------------------------

namespace TrustOnboard

namespace Shadow

open Json
open Mqtt (CString)

variable {E : Type}

/- The text of a value that is a string. -/
def Member.stringText
    (json : Bytes)
    (m : Member) : Option Bytes :=
  match m.value with
  | .string _ => m.inside.head?.map (fun tok => tok.text json)
  | _ => none

/- The client token a member of the outermost object gives. -/
def Member.clientToken
    (json : Bytes)
    (m : Member) : Option Bytes :=
  if m.key.Is json (ascii "clientToken") then
    m.stringText json
  else none

/-
  What the caller with an array of the given size counts on,
  whatever earlier documents left behind.
-/
structure ExtractsRight
    (port : Port E)
    (json : Bytes)
    (ms : List Member)
    (tokenCount size : Nat)
    (old : List JsmnTok) : Prop where
  finds :
    (extractClientToken port json old).1.isSome = true ↔
      ∃ m ∈ ms, (m.clientToken json).isSome = true
  writes :
    ∀ text,
      (extractClientToken port json old).1 = some text →
        ∃ m ∈ ms, m.clientToken json = some text
  reads :
    ∀ i ∈ extractClientTokenReads port json old,
      i < tokenCount
  fits :
    ∀ c,
      extractClientTokenCopy port json old = some c →
        c.written ≤ size

/-
  Behind the first token that spells the key, whether it is a
  key or a value and however deep it lies, there is one whose
  text, cut to the low byte of its length, is that of a
  client token of the outermost object, and it fits.
-/
def TokenInPlace
    (json : Bytes)
    (ms : List Member)
    (ts : List JsmnTok)
    (size : Nat) : Prop :=
  (tokenAt ts 0).type = .object →
    ∀ i,
      occurrence json ts (ascii "clientToken") = some i →
        ∃ next,
          ts[i + 1]? = some next ∧
            next.copied.written ≤ size ∧
              ∃ m ∈ ms,
                m.clientToken json =
                  some (next.copied.text json)

variable {port : Port E}
variable {json : Bytes}
variable {ms : List Member}
variable {ts : List JsmnTok}
variable {size : Nat}

/- A text that is no object has no members. -/
theorem IsDocument.no_members
    (hDocument : IsDocument json ms ts)
    (hOther : (tokenAt ts 0).type ≠ .object) :
    ms = [] := by
  cases hDocument with
  | other _ _ _ => rfl
  | object hObject _ =>
      cases hObject with
      | empty _ _ => rfl
      | full _ _ => exact absurd rfl hOther

/- The tokens behind the first are those of the members. -/
theorem IsDocument.tail
    (hDocument : IsDocument json ms ts)
    (hObject : (tokenAt ts 0).type = .object) :
    ts.tail = ms.flatMap Member.tokens := by
  rcases hDocument.tokens with ⟨first, rest, rfl, hRest⟩
  exact hRest hObject

theorem IsDocument.ne_nil
    (hDocument : IsDocument json ms ts) :
    ts ≠ [] := by
  rcases hDocument.tokens with ⟨first, rest, rfl, _⟩
  exact List.cons_ne_nil first rest

/- The search is over the tokens of the document. -/
theorem parseInto_standard
    (old : List JsmnTok)
    (hStandard :
      port.jsmnParse json = ((ts.length : Int), ts)) :
    parseInto port json old =
      ((ts.length : Int), ts ++ old.drop ts.length) := by
  unfold parseInto
  rw [hStandard]

theorem extractClientTokenCopy_standard
    (old : List JsmnTok)
    (hDocument : IsDocument json ms ts)
    (hStandard :
      port.jsmnParse json = ((ts.length : Int), ts)) :
    extractClientTokenCopy port json old =
      if (tokenAt ts 0).type = .object then
        (occurrence json ts (ascii "clientToken")).map
          (fun i =>
            (tokenAt (ts ++ old.drop ts.length)
              (i + 1)).copied)
      else none := by
  unfold extractClientTokenCopy
  rw [isJsonValidAndParse_standard old hStandard
    hDocument.ne_nil]
  dsimp only
  by_cases hObject : (tokenAt ts 0).type = .object
  · rw [if_pos hObject, if_pos hObject]
    dsimp only
    rw [firstMatch_eq _ _ hDocument.lies]
  · rw [if_neg hObject, if_neg hObject]

end Shadow

end TrustOnboard

------------------------------------------------------------
-- The Condition
------------------------------------------------------------

namespace TrustOnboard

namespace Shadow

open Json
open Mqtt (CString)

variable {E : Type}
variable {port : Port E}
variable {json : Bytes}
variable {ms : List Member}
variable {ts : List JsmnTok}
variable {size : Nat}

/- A client token of the document is one of its tokens. -/
theorem Member.key_mem
    (hTail : ts.tail = ms.flatMap Member.tokens)
    {m : Member}
    (hMem : m ∈ ms)
    (hSome : (m.clientToken json).isSome = true) :
    m.key ∈ ts.tail ∧ m.key.Is json (ascii "clientToken") := by
  constructor
  · rw [hTail]
    exact List.mem_flatMap.mpr ⟨m, hMem, List.mem_cons_self⟩
  · unfold Member.clientToken at hSome
    split at hSome
    · rename_i hIs
      exact hIs
    · cases hSome

/- Where the reads of an array in the standard way end. -/
theorem reads_standard
    (old : List JsmnTok)
    (hDocument : IsDocument json ms ts)
    (hStandard :
      port.jsmnParse json = ((ts.length : Int), ts)) :
    (∀ i ∈ extractClientTokenReads port json old,
        i < ts.length) ↔
      ((tokenAt ts 0).type = .object →
        ∀ i,
          occurrence json ts (ascii "clientToken") = some i →
            i + 1 < ts.length) := by
  have hPos := List.length_pos_iff.mpr hDocument.ne_nil
  have hCount : ¬ (ts.length : Int) < 1 := by
    omega
  have hParsed :=
    isJsonValidAndParse_standard old hStandard
      hDocument.ne_nil
  unfold isJsonValidAndParse at hParsed
  dsimp only at hParsed
  have hObjects := congrArg Prod.fst hParsed
  dsimp only at hObjects
  have hFirst :=
    firstMatch_eq (ascii "clientToken")
      (old.drop ts.length) hDocument.lies
  unfold firstMatch at hFirst
  unfold extractClientTokenReads
  dsimp only
  rw [hObjects, parseInto_standard old hStandard]
  dsimp only
  rw [if_neg hCount]
  by_cases hObject : (tokenAt ts 0).type = .object
  · rw [if_pos hObject]
    dsimp only
    constructor
    · intro hReads _ i hOccurs
      rw [hOccurs] at hFirst
      exact
        hReads (i + 1)
          (List.mem_cons_of_mem 0 (next_mem_lookedAt hFirst))
    · intro hNext j hMem
      rcases List.mem_cons.mp hMem with rfl | hMem
      · exact hPos
      · rcases mem_lookedAt hMem with hIndex | hFound
        · have hLess := (List.mem_range'_1.mp hIndex).2
          omega
        · rcases hFound with ⟨i, hFound, rfl⟩
          rw [hFirst] at hFound
          exact hNext hObject i hFound
  · rw [if_neg hObject]
    dsimp only
    constructor
    · intro _ hIs
      exact absurd hIs hObject
    · intro _ j hMem
      cases List.mem_singleton.mp hMem
      exact hPos

/- Nothing is found in a text that is no object. -/
theorem extractsRight_other
    (old : List JsmnTok)
    (hDocument : IsDocument json ms ts)
    (hStandard :
      port.jsmnParse json = ((ts.length : Int), ts))
    (hOther : (tokenAt ts 0).type ≠ .object) :
    ExtractsRight port json ms ts.length size old := by
  have hCopy :=
    extractClientTokenCopy_standard old hDocument hStandard
  rw [if_neg hOther] at hCopy
  have hNone := extractClientToken_copy port json old
  rw [hCopy, Option.map_none] at hNone
  have hEmpty := hDocument.no_members hOther
  refine
    { finds := ?_
      writes := ?_
      reads := ?_
      fits := ?_ }
  · rw [hNone, hEmpty]
    simp
  · intro text hText
    rw [hNone] at hText
    cases hText
  · exact
      (reads_standard old hDocument hStandard).mpr
        (fun hIs => absurd hIs hOther)
  · intro c hHere
    rw [hCopy] at hHere
    cases hHere

/- Nor where nothing spells the key. -/
theorem extractsRight_absent
    (old : List JsmnTok)
    (hDocument : IsDocument json ms ts)
    (hStandard :
      port.jsmnParse json = ((ts.length : Int), ts))
    (hObject : (tokenAt ts 0).type = .object)
    (hAbsent :
      occurrence json ts (ascii "clientToken") = none) :
    ExtractsRight port json ms ts.length size old := by
  have hCopy :=
    extractClientTokenCopy_standard old hDocument hStandard
  rw [if_pos hObject, hAbsent, Option.map_none] at hCopy
  have hNone := extractClientToken_copy port json old
  rw [hCopy, Option.map_none] at hNone
  refine
    { finds := ?_
      writes := ?_
      reads := ?_
      fits := ?_ }
  · rw [hNone]
    constructor
    · intro hSome
      cases hSome
    · rintro ⟨m, hMem, hSome⟩
      rcases Member.key_mem (hDocument.tail hObject) hMem
          hSome with ⟨hKey, hIs⟩
      exact absurd hIs (occurrence_eq_none hAbsent _ hKey)
  · intro text hText
    rw [hNone] at hText
    cases hText
  · refine (reads_standard old hDocument hStandard).mpr ?_
    intro _ i hOccurs
    rw [hAbsent] at hOccurs
    cases hOccurs
  · intro c hHere
    rw [hCopy] at hHere
    cases hHere

/- The copy from a token of the document. -/
theorem copy_of_next
    (old : List JsmnTok)
    (hDocument : IsDocument json ms ts)
    (hStandard :
      port.jsmnParse json = ((ts.length : Int), ts))
    (hObject : (tokenAt ts 0).type = .object)
    {i : Nat}
    (hOccurs :
      occurrence json ts (ascii "clientToken") = some i)
    {next : JsmnTok}
    (hNext : ts[i + 1]? = some next) :
    extractClientTokenCopy port json old =
        some next.copied ∧
      (extractClientToken port json old).1 =
        some (next.copied.text json) := by
  have hCopy :=
    extractClientTokenCopy_standard old hDocument hStandard
  rw [if_pos hObject, hOccurs, Option.map_some,
    tokenAt_append hNext] at hCopy
  refine ⟨hCopy, ?_⟩
  rw [extractClientToken_copy, hCopy, Option.map_some]

/-
  The extraction from a document with its tokens in the
  standard way.
-/
theorem extractsRight_iff
    (old : List JsmnTok)
    (hDocument : IsDocument json ms ts)
    (hStandard :
      port.jsmnParse json = ((ts.length : Int), ts)) :
    ExtractsRight port json ms ts.length size old ↔
      TokenInPlace json ms ts size := by
  constructor
  · intro hRight hObject i hOccurs
    have hLess :=
      (reads_standard old hDocument hStandard).mp
        hRight.reads hObject i hOccurs
    have hNext := List.getElem?_eq_getElem hLess
    rcases copy_of_next old hDocument hStandard hObject
        hOccurs hNext with ⟨hCopy, hText⟩
    exact
      ⟨_, hNext, hRight.fits _ hCopy, hRight.writes _ hText⟩
  · intro hPlace
    by_cases hObject : (tokenAt ts 0).type = .object
    · cases hOccurs :
          occurrence json ts (ascii "clientToken") with
      | none =>
          exact
            extractsRight_absent old hDocument hStandard
              hObject hOccurs
      | some i =>
          rcases hPlace hObject i hOccurs with
            ⟨next, hNext, hFits, m, hMem, hToken⟩
          rcases copy_of_next old hDocument hStandard hObject
              hOccurs hNext with ⟨hCopy, hText⟩
          refine
            { finds := ?_
              writes := ?_
              reads := ?_
              fits := ?_ }
          · rw [hText]
            refine ⟨fun _ => ⟨m, hMem, ?_⟩, fun _ => rfl⟩
            rw [hToken]
            rfl
          · intro text hHere
            rw [hText] at hHere
            cases hHere
            exact ⟨m, hMem, hToken⟩
          · refine
              (reads_standard old hDocument hStandard).mpr ?_
            intro _ k hAlso
            rw [hOccurs] at hAlso
            cases hAlso
            exact (List.getElem?_eq_some_iff.mp hNext).1
          · intro c hHere
            rw [hCopy] at hHere
            cases hHere
            exact hFits
    · exact
        extractsRight_other old hDocument hStandard hObject

/-
  From a document whose tokens the parser lists in the
  standard way the client token is extracted as both callers
  count on exactly when it is in place.
-/
theorem extractClientToken_right_iff
    (hDocument : IsDocument json ms ts)
    (hStandard :
      port.jsmnParse json = ((ts.length : Int), ts))
    (caller : TokenCaller)
    (old : List JsmnTok) :
    ExtractsRight port json ms ts.length caller.bufferSize
        old ↔
      TokenInPlace json ms ts caller.bufferSize :=
  extractsRight_iff old hDocument hStandard

end Shadow

end TrustOnboard

------------------------------------------------------------
-- Examples
------------------------------------------------------------

namespace TrustOnboard

namespace Shadow

open Json
open Mqtt (CString)

/- The parser that comes with the client on such a document. -/
theorem jsmnParse_request_oneCharacter :
    Port.standard.jsmnParse (requestDocument [120]) =
      (((requestReading [120]).tokens.length : Int),
        (requestReading [120]).tokens) :=
  standardParser_jsmn Port.calm _ _ _ (by decide)
    (requestReading_document (forall_mem_of_all (by decide)))
    (by decide)

theorem extractClientToken_right_iff_oneCharacter :
    ExtractsRight Port.standard (requestDocument [120])
        (requestReading [120]).members 3 90 [] ↔
      TokenInPlace (requestDocument [120])
        (requestReading [120]).members
        (requestReading [120]).tokens 90 :=
  extractClientToken_right_iff
    (requestReading_document (forall_mem_of_all (by decide)))
    jsmnParse_request_oneCharacter .internalAction []

/- A token of 110 characters. -/
def longToken : Bytes :=
  List.replicate 110 97

/-
  It overruns the array of either caller with its last byte
  and the NUL.
-/
theorem extractClientToken_longToken :
    StandardParser Port.standard ∧
      IsDocument (requestDocument longToken)
        (requestReading longToken).members
        (requestReading longToken).tokens ∧
      (requestReading longToken).tokens.length ≤
        maxJsonTokenExpected ∧
      ∀ (caller : TokenCaller) (old : List JsmnTok),
        ¬ ExtractsRight Port.standard
          (requestDocument longToken)
          (requestReading longToken).members 3
          caller.bufferSize old := by
  have hDocument :
      IsDocument (requestDocument longToken)
        (requestReading longToken).members
        (requestReading longToken).tokens :=
    requestReading_document (forall_mem_of_all (by decide))
  have hRoom :
      (requestReading longToken).tokens.length ≤
        maxJsonTokenExpected := by
    decide
  refine
    ⟨standardParser_jsmn Port.calm, hDocument, hRoom, ?_⟩
  intro caller old hRight
  have hStandard :=
    standardParser_jsmn Port.calm _ _ _ (by decide +kernel)
      hDocument hRoom
  have hCopy :=
    (copy_of_next old hDocument hStandard rfl
      (i := 1) (by decide +kernel) rfl).1
  have hFits := hRight.fits _ hCopy
  cases caller with
  | internalAction => exact absurd hFits (by decide)
  | ackStatusCallback => exact absurd hFits (by decide)

end Shadow

end TrustOnboard
