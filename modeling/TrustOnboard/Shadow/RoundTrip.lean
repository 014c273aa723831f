import TrustOnboard.Shadow.BuilderSuccess
import TrustOnboard.Shadow.BuilderTokens
import TrustOnboard.Shadow.Tokenising
import TrustOnboard.Shadow.Versions

/-
  What the builder wrote is what the reader reads.

  Elements of integers and booleans under distinct keys, put
  into one or two sections, are built into a document from
  which the reader takes every value and the client token.
  The one exception is a key too long for the `int` that
  `snprintf` returns.

  Key definitions include:
    * `Describable`

  Key results include:
    * `isDocument_built`
    * `clientToken_found`
    * `builder_reader_agree`
-/

------------------------------------------------------------
-- Descriptions
------------------------------------------------------------

namespace TrustOnboard

namespace Shadow

open Json
open Mqtt (IoTError CString)

/- The letters and digits of ASCII. -/
def IsAlphanumeric (b : UInt8) : Prop :=
  (48 ≤ b ∧ b ≤ 57) ∨ (65 ≤ b ∧ b ≤ 90) ∨
    (97 ≤ b ∧ b ≤ 122)

instance (b : UInt8) : Decidable (IsAlphanumeric b) :=
  inferInstanceAs (Decidable (_ ∨ _ ∨ _))

/- The elements of some sections. -/
def elementsOf (parts : List Part) : List Element :=
  parts.flatMap Prod.snd

/- The keys a document has of its own. -/
def reservedKeys : List Bytes :=
  [ascii "state", ascii "desired", ascii "reported",
    ascii "clientToken"]

/-
  One or two sections, none of them empty, of fifty scalars
  at most under distinct keys of letters and digits, for a
  client with an identifier of letters and digits.
-/
structure Describable
    (mqttClientID : CString)
    (parts : List Part) : Prop where
  parts_some : parts ≠ []
  sections : (parts.map Prod.fst).Nodup
  members : ∀ p ∈ parts, p.2 ≠ []
  count : (elementsOf parts).length ≤ 50
  scalar : ∀ e ∈ elementsOf parts, e.data.IsScalar
  key_some : ∀ e ∈ elementsOf parts, e.key.bytes ≠ []
  key_plain :
    ∀ e ∈ elementsOf parts, ∀ b ∈ e.key.bytes,
      IsAlphanumeric b
  key_free :
    ∀ e ∈ elementsOf parts, e.key.bytes ∉ reservedKeys
  distinct : ((elementsOf parts).map Element.key).Nodup
  clientId : ∀ b ∈ mqttClientID.bytes, IsAlphanumeric b
  clientId_short : mqttClientID.bytes.length ≤ 79

theorem plain_of_alphanumeric
    {b : UInt8}
    (hWord : IsAlphanumeric b) :
    Plain b ∧ b ≠ 45 := by
  have hAll :
      ∀ i : Fin 256, IsAlphanumeric (UInt8.ofNat i) →
        Plain (UInt8.ofNat i) ∧ UInt8.ofNat i ≠ 45 := by
    decide +kernel
  have hByte := hAll ⟨b.toNat, b.toNat_lt⟩
  rw [UInt8.ofNat_toNat] at hByte
  exact hByte hWord

theorem plain_signedDecimal
    (i : Int) :
    ∀ b ∈ signedDecimal i, Plain b := by
  have hDigit : ∀ b, IsDigit b → Plain b := fun b hDigit =>
    (plain_of_alphanumeric (.inl hDigit)).1
  cases i with
  | ofNat n => exact fun b hb => hDigit b (decimal_digits n b hb)
  | negSucc n =>
      intro b hb
      rcases List.mem_cons.mp hb with rfl | hMem
      · decide
      · exact hDigit b (decimal_digits (n + 1) b hMem)

/- The token is plain, and it has a dash in it. -/
theorem plain_clientTokenText
    {mqttClientID : CString}
    (clientTokenNum : UInt32)
    (hWord : ∀ b ∈ mqttClientID.bytes, IsAlphanumeric b) :
    (∀ b ∈ clientTokenText mqttClientID clientTokenNum,
        Plain b) ∧
      45 ∈ clientTokenText mqttClientID clientTokenNum := by
  unfold clientTokenText
  constructor
  · intro b hb
    rcases List.mem_append.mp hb with hFront | hNumber
    · rcases List.mem_append.mp hFront with hId | hDash
      · exact (plain_of_alphanumeric (hWord b hId)).1
      · rw [List.mem_singleton.mp hDash]
        decide
    · exact plain_signedDecimal _ b hNumber
  · exact
      List.mem_append_left _
        (List.mem_append_right _ (List.mem_singleton.mpr rfl))

theorem mem_elementsOf
    {parts : List Part}
    {p : Part}
    {e : Element}
    (hPart : p ∈ parts)
    (hElement : e ∈ p.2) :
    e ∈ elementsOf parts :=
  List.mem_flatMap.mpr ⟨p, hPart, hElement⟩

/- The document that is built, with its tokens. -/
theorem isDocument_built
    {mqttClientID : CString}
    (clientTokenNum : UInt32)
    {parts : List Part}
    (hDescribable : Describable mqttClientID parts)
    {json : Bytes}
    (hJson :
      json = documentText mqttClientID clientTokenNum parts) :
    ∃ ms ts,
      IsDocument json ms ts ∧
        TokensOf json parts
          (clientTokenText mqttClientID clientTokenNum) ts := by
  have hToken :=
    (plain_clientTokenText clientTokenNum
      hDescribable.clientId).1
  have hWhole :
      json =
        123 :: 34 :: ((stateItem parts).key ++ 34 :: 58 ::
          ((stateItem parts).text ++
            44 :: 32 :: 34 :: (ascii "clientToken" ++
              34 :: 58 :: 34 ::
                (clientTokenText mqttClientID
                    clientTokenNum ++ [34, 125])))) :=
    hJson.trans (documentText_eq _ _ _)
  have hMembersText :
      34 :: ((stateItem parts).key ++ 34 :: 58 ::
        ((stateItem parts).text ++
          44 :: 32 :: 34 :: (ascii "clientToken" ++
            34 :: 58 :: 34 ::
              (clientTokenText mqttClientID
                  clientTokenNum ++ [34, 125])))) <:+
        json := by
    rw [hWhole]
    exact List.suffix_cons 123 _
  have hStateText := suffix_of_member hMembersText
  have hTokenText :=
    ((List.suffix_cons 34 _).trans
      ((List.suffix_cons 32 _).trans
        ((List.suffix_cons 44 _).trans
          (List.suffix_append (stateItem parts).text _)))).trans
      hStateText
  have hNames :
      ∀ p ∈ parts, ∀ b ∈ p.toItem.key, Plain b := by
    rintro ⟨sec, es⟩ _
    show ∀ b ∈ sec.name, Plain b
    apply forall_mem_of_all
    cases sec <;> decide
  have hValues :
      ∀ p ∈ parts, ∀ tail, Delimited tail →
        p.toItem.text ++ tail <:+ json →
          ∃ ts,
            Tokens json.length p.toItem.value
                (p.toItem.text ++ tail) tail ts ∧
              SectionTokens json p ts := by
    intro p hp tail _ hText
    refine sectionTokens_written (hDescribable.members p hp)
      ?_ ?_ hText
    · intro e he
      exact hDescribable.scalar e (mem_elementsOf hp he)
    · intro e he b hb
      exact
        (plain_of_alphanumeric
          (hDescribable.key_plain e (mem_elementsOf hp he) b
            hb)).1
  rcases objectTokens_written hDescribable.parts_some hNames
      hValues hStateText with
    ⟨state, sections, hObject, hState, hSections⟩
  have hStateValue :
      (stateItem parts).value =
        .object (sections.map Member.pair) := by
    rw [pairs_of_written hSections]
    rfl
  have hStateTokens :=
    Tokens.object hObject
  rw [← hStateValue] at hStateTokens
  have hStateName : ∀ b ∈ ascii "state", Plain b :=
    forall_mem_of_all (by decide)
  rcases memberAt_written (stateItem parts) hStateName
      hMembersText hStateTokens with
    ⟨stateKey, hStateMember, hStateIs⟩
  rcases memberAt_token hToken hTokenText with
    ⟨tokenKey, tok, hTokenMember, hKeyIs, hTokIs⟩
  have hMembers :
      MemberTokens json.length _ _ [] :=
    .more hStateMember (skip_cons_of_not_blank rfl _)
      (.last hTokenMember (skip_cons_of_not_blank rfl _))
  refine ⟨_, _, .object (.full ?_ hMembers) rfl, ?_⟩
  · rw [hWhole]
    exact skip_cons_of_not_blank rfl _
  · exact
      .mk rfl hStateIs hState hSections hKeyIs hTokIs

end Shadow

end TrustOnboard

------------------------------------------------------------
-- The Search
------------------------------------------------------------

namespace TrustOnboard

namespace Shadow

open Json
open Mqtt (IoTError CString)

variable {json word : Bytes}

/- The search finds the token behind the first match. -/
theorem findSome?_searched
    {γ : Type}
    {first key tok : JsmnTok}
    {before after : List JsmnTok}
    (old : List JsmnTok)
    (g : JsmnTok → γ)
    (hBefore : ∀ t ∈ before, ¬ t.Is json word)
    (hKey : jsoneq json key word = true) :
    (searched
        (first :: (before ++ key :: tok :: after)).length
        ).findSome? (fun i =>
          if jsoneq json
              (tokenAt
                (first :: (before ++ key :: tok :: after) ++
                  old) i) word then
            some
              (g
                (tokenAt
                  (first :: (before ++ key :: tok :: after) ++
                    old) (i + 1)))
          else none) =
      some (g tok) := by
  have hCount :
      (first :: (before ++ key :: tok :: after)).length - 1 =
        before.length + (after.length + 1 + 1) := by
    simp only [List.length_cons, List.length_append]
    omega
  have hNext :
      (first :: (before ++ key :: tok :: after))[
        1 + before.length + 1]? = some tok := by
    rw [List.getElem?_cons_succ,
      List.getElem?_append_right (by omega),
      Nat.add_sub_cancel]
    rfl
  unfold searched
  rw [hCount, ← List.range'_append_1, List.findSome?_append]
  have hFront :
      (List.range' 1 before.length).findSome? (fun i =>
        if jsoneq json
            (tokenAt
              (first :: (before ++ key :: tok :: after) ++
                old) i) word then
          some
            (g
              (tokenAt
                (first :: (before ++ key :: tok :: after) ++
                  old) (i + 1)))
        else none) = none := by
    rw [List.findSome?_eq_none_iff]
    intro i hMem
    rcases List.mem_range'_1.mp hMem with ⟨hPos, hLess⟩
    obtain ⟨j, rfl⟩ : ∃ j, i = j + 1 := ⟨i - 1, by omega⟩
    have hInside : j < before.length := by omega
    have hHere :
        (first :: (before ++ key :: tok :: after))[j + 1]? =
          some before[j] := by
      rw [List.getElem?_cons_succ,
        List.getElem?_append_left hInside,
        List.getElem?_eq_getElem hInside]
    rw [tokenAt_append hHere, if_neg]
    intro hEq
    exact
      hBefore _ (List.getElem_mem hInside) (is_of_jsoneq hEq)
  rw [hFront, Option.none_or, List.range'_succ,
    List.findSome?_cons, tokenAt_append (getElem?_members _),
    hKey, if_pos rfl, tokenAt_append hNext]

/- A token that is no string is no match. -/
theorem not_is_of_type
    {tok : JsmnTok}
    (hType : tok.type ≠ .string) :
    ¬ tok.Is json word :=
  fun hIs => hType hIs.1

/- Nor is one that is spelled in another way. -/
theorem not_is_of_ne
    {tok : JsmnTok}
    {name : Bytes}
    (hName : jsoneq json tok name = true)
    (hNe : name ≠ word) :
    ¬ tok.Is json word :=
  fun hIs => hNe ((is_of_jsoneq hName).2.symm.trans hIs.2)

/- The elements with other keys are in nobody's way. -/
theorem elements_free
    {es : List Element}
    {ms : List Member}
    (hAll :
      List.Forall₂
        (fun e m =>
          WrittenAs json e.toItem m ∧
            ElementTokens json e m.inside)
        es ms)
    (hKeys : ∀ e ∈ es, e.key.bytes ≠ word) :
    ∀ t ∈ ms.flatMap Member.tokens, ¬ t.Is json word := by
  induction hAll with
  | nil =>
      intro t ht
      cases ht
  | @cons e m es ms hHere _ ih =>
      rcases hHere with
        ⟨hWritten, tok, r, hInside, hType, _⟩
      intro t ht
      rw [List.flatMap_cons] at ht
      rcases List.mem_append.mp ht with hHead | hTail
      · unfold Member.tokens at hHead
        rw [hInside] at hHead
        rcases List.mem_cons.mp hHead with rfl | hValue
        · exact
            not_is_of_ne hWritten.spelled (hKeys e (by simp))
        · cases List.mem_singleton.mp hValue
          apply not_is_of_type
          rw [hType]
          decide
      · exact
          ih (fun e' he' => hKeys e' (List.mem_cons_of_mem e he'))
            t hTail

/- Nor are the sections of which this is true. -/
theorem sections_free
    {ps : List Part}
    {ms : List Member}
    (hAll :
      List.Forall₂
        (fun p m =>
          WrittenAs json p.toItem m ∧
            SectionTokens json p m.inside)
        ps ms)
    (hNames : ∀ p ∈ ps, p.1.name ≠ word)
    (hKeys : ∀ e ∈ elementsOf ps, e.key.bytes ≠ word) :
    ∀ t ∈ ms.flatMap Member.tokens, ¬ t.Is json word := by
  induction hAll with
  | nil =>
      intro t ht
      cases ht
  | @cons p m ps ms hHere _ ih =>
      rcases hHere with
        ⟨hWritten, first, inner, hInside, hFirst, hElements⟩
      have hFree :=
        elements_free hElements (fun e he =>
          hKeys e (mem_elementsOf List.mem_cons_self he))
      intro t ht
      rw [List.flatMap_cons] at ht
      rcases List.mem_append.mp ht with hHead | hTail
      · unfold Member.tokens at hHead
        rw [hInside] at hHead
        rcases List.mem_cons.mp hHead with rfl | hValue
        · exact
            not_is_of_ne hWritten.spelled (hNames p (by simp))
        · rcases List.mem_cons.mp hValue with rfl | hInner
          · apply not_is_of_type
            rw [hFirst]
            decide
          · exact hFree t hInner
      · refine ih (fun p' hp' => hNames p' (by simp [hp'])) ?_
          t hTail
        intro e he
        refine hKeys e ?_
        unfold elementsOf at he ⊢
        rw [List.flatMap_cons]
        exact List.mem_append_right _ he

/- A list in two parts goes with a list in two parts. -/
theorem forall₂_split
    {α β : Type}
    {R : α → β → Prop}
    {xs zs : List α}
    {x : α}
    {ys : List β}
    (hAll : List.Forall₂ R (xs ++ x :: zs) ys) :
    ∃ before y after,
      ys = before ++ y :: after ∧
        List.Forall₂ R xs before ∧ R x y := by
  induction xs generalizing ys with
  | nil =>
      cases hAll with
      | cons hHere _ => exact ⟨[], _, _, rfl, .nil, hHere⟩
  | cons x' xs ih =>
      cases hAll with
      | cons hHere hRest =>
          rcases ih hRest with
            ⟨before, y, after, rfl, hBefore, hR⟩
          exact
            ⟨_ :: before, y, after, rfl, .cons hHere hBefore,
              hR⟩

end Shadow

end TrustOnboard

------------------------------------------------------------
-- Reading
------------------------------------------------------------

namespace TrustOnboard

namespace Shadow

open Json
open Mqtt (IoTError CString HandlerId)

variable {E : Type}
variable {port : Port E}
variable {json token : Bytes}
variable {parts : List Part}
variable {ts : List JsmnTok}

/- What is stored for an element is its value. -/
theorem value_read
    (port : Port E)
    {e : Element}
    {inside : List JsmnTok}
    (hTokens : ElementTokens json e inside)
    {old : JsonData}
    (hSame : SameScalar e.data old) :
    ∃ tok,
      inside = [tok] ∧
        updateValueIfNoObject port json tok old = e.data ∧
          (tok.textFrom json).take
              (tok.stop - tok.start).toNat =
            e.valueText := by
  rcases hTokens with
    ⟨tok, r, hInside, hType, hDelimited, hFrom, hText⟩
  refine ⟨tok, hInside, ?_, hText⟩
  have hValue : e.data.valueText = some e.valueText := by
    unfold Element.valueText
    clear hText hFrom
    generalize e.data = data at hSame ⊢
    cases hSame <;> rfl
  exact
    updateValueIfNoObject_written hSame hValue hType hFrom
      hDelimited

/- The key of an element is none of another's. -/
theorem key_ne_of_distinct
    {xs zs : List Element}
    {e e' : Element}
    (hDistinct :
      ((xs ++ e :: zs).map Element.key).Nodup)
    (hMem : e' ∈ xs) :
    e'.key.bytes ≠ e.key.bytes := by
  intro hSame
  have hKey : e'.key = e.key := by
    rcases hLeft : e'.key with ⟨bs, hFree⟩
    rcases hRight : e.key with ⟨bs', hFree'⟩
    rw [hLeft, hRight] at hSame
    cases hSame
    rfl
  rw [List.map_append, List.nodup_append] at hDistinct
  exact
    hDistinct.2.2 e'.key (List.mem_map_of_mem hMem) e.key
      (by simp) hKey

/- No name of the document itself is the key of an element. -/
theorem names_free
    {word : Bytes}
    (hFree : word ∉ reservedKeys) :
    ascii "state" ≠ word ∧
      ∀ sec : Section, sec.name ≠ word := by
  unfold reservedKeys at hFree
  simp only [List.mem_cons, not_or] at hFree
  refine ⟨fun h => hFree.1 h.symm, fun sec h => ?_⟩
  cases sec with
  | desired => exact hFree.2.1 h.symm
  | reported => exact hFree.2.2.1 h.symm

/- The search for the key of an element finds its value. -/
theorem isJsonKeyMatchingAndUpdateValue_built
    (hTokens : TokensOf json parts token ts)
    (hFree :
      ∀ e ∈ elementsOf parts, e.key.bytes ∉ reservedKeys)
    (hDistinct : ((elementsOf parts).map Element.key).Nodup)
    {e : Element}
    (hMem : e ∈ elementsOf parts)
    {old : JsonData}
    (hSame : SameScalar e.data old)
    (cb : Option HandlerId)
    (tokens : List JsmnTok) :
    isJsonKeyMatchingAndUpdateValue port json (ts ++ tokens)
        ts.length ⟨e.key, old, cb⟩ =
      some (e.data, e.valueText) := by
  have hReserved := hFree e hMem
  rcases List.mem_flatMap.mp hMem with ⟨p, hPart, hElement⟩
  rcases List.append_of_mem hPart with ⟨ps, ps', rfl⟩
  rcases List.append_of_mem hElement with ⟨es, es', hSplit⟩
  have hElements :
      elementsOf (ps ++ p :: ps') =
        (elementsOf ps ++ es) ++
          e :: (es' ++ elementsOf ps') := by
    unfold elementsOf
    rw [List.flatMap_append, List.flatMap_cons, hSplit]
    simp
  rw [hElements] at hDistinct
  have hOther :
      ∀ e' ∈ elementsOf ps ++ es,
        e'.key.bytes ≠ e.key.bytes :=
    fun e' he' => key_ne_of_distinct hDistinct he'
  cases hTokens with
  | @mk first stateKey state tokenKey tok sections hFirst
      hStateKey hState hSections hTokenKey hToken =>
  rcases forall₂_split hSections with
    ⟨ms, m, ms', rfl, hBefore, hWritten, first', inner,
      hInside, hFirst', hInner⟩
  rw [hSplit] at hInner
  rcases forall₂_split hInner with
    ⟨is, i, is', rfl, hInnerBefore, hWritten', hValue⟩
  rcases value_read port hValue hSame with
    ⟨tok', hTok', hStored, hText⟩
  have hList :
      first :: stateKey :: state ::
          ((ms ++ m :: ms').flatMap Member.tokens ++
            [tokenKey, tok]) =
        first ::
          ((stateKey :: state ::
              (ms.flatMap Member.tokens ++ m.key :: first' ::
                is.flatMap Member.tokens)) ++
            i.key :: tok' ::
              (is'.flatMap Member.tokens ++
                (ms'.flatMap Member.tokens ++
                  [tokenKey, tok]))) := by
    simp [Member.tokens, hInside, hTok']
  have hNever :
      ∀ t ∈ stateKey :: state ::
          (ms.flatMap Member.tokens ++ m.key :: first' ::
            is.flatMap Member.tokens),
        ¬ t.Is json e.key.bytes := by
    have hEarlier :=
      sections_free hBefore
        (fun q _ => (names_free hReserved).2 q.1)
        (fun e' he' =>
          hOther e' (List.mem_append_left es he'))
    have hInnerEarlier :=
      elements_free hInnerBefore (fun e' he' =>
        hOther e' (List.mem_append_right _ he'))
    intro t ht
    rcases List.mem_cons.mp ht with rfl | ht
    · exact not_is_of_ne hStateKey (names_free hReserved).1
    rcases List.mem_cons.mp ht with rfl | ht
    · apply not_is_of_type
      rw [hState]
      decide
    rcases List.mem_append.mp ht with hMs | ht
    · exact hEarlier t hMs
    rcases List.mem_cons.mp ht with rfl | ht
    · exact
        not_is_of_ne hWritten.spelled
          ((names_free hReserved).2 p.1)
    rcases List.mem_cons.mp ht with rfl | ht
    · apply not_is_of_type
      rw [hFirst']
      decide
    · exact hInnerEarlier t ht
  rw [hList]
  unfold isJsonKeyMatchingAndUpdateValue
  rw [← hStored, ← hText]
  exact
    findSome?_searched tokens
      (fun t =>
        (updateValueIfNoObject port json t old,
          (t.textFrom json).take (t.stop - t.start).toNat))
      hNever hWritten'.spelled

/- The client token is found behind its key. -/
theorem clientToken_found
    (hTokens : TokensOf json parts token ts)
    (hFree :
      ∀ e ∈ elementsOf parts, e.key.bytes ∉ reservedKeys)
    (hShort : token.length < 256)
    (tokens : List JsmnTok) :
    (searched ts.length).findSome? (fun i =>
        if jsoneq json (tokenAt (ts ++ tokens) i)
            (ascii "clientToken") then
          let tok := tokenAt (ts ++ tokens) (i + 1)
          some
            ((tok.textFrom json).take
              ((tok.stop - tok.start) % 256).toNat)
        else none) =
      some token := by
  cases hTokens with
  | @mk first stateKey state tokenKey tok sections hFirst
      hStateKey hState hSections hTokenKey hToken =>
  have hNever :
      ∀ t ∈ stateKey :: state ::
          sections.flatMap Member.tokens,
        ¬ t.Is json (ascii "clientToken") := by
    have hEarlier :
        ∀ t ∈ sections.flatMap Member.tokens,
          ¬ t.Is json (ascii "clientToken") := by
      refine sections_free hSections ?_ ?_
      · intro p _
        cases p.1 <;> decide
      · intro e he hSame
        apply hFree e he
        rw [hSame]
        decide
    intro t ht
    rcases List.mem_cons.mp ht with rfl | ht
    · exact not_is_of_ne hStateKey (by decide)
    rcases List.mem_cons.mp ht with rfl | ht
    · apply not_is_of_type
      rw [hState]
      decide
    · exact hEarlier t ht
  have hText :
      (tok.textFrom json).take
          ((tok.stop - tok.start) % 256).toNat =
        token := by
    unfold jsoneq at hToken
    simp only [Bool.and_eq_true, decide_eq_true_eq] at hToken
    rcases hToken with ⟨_, hSpan, hTake⟩
    have hMod :
        ((tok.stop - tok.start) % 256).toNat =
          token.length := by
      omega
    rw [hMod, hTake]
  rw [← hText]
  exact
    findSome?_searched tokens
      (fun t =>
        (t.textFrom json).take
          ((t.stop - t.start) % 256).toNat)
      hNever hTokenKey

end Shadow

end TrustOnboard

------------------------------------------------------------
-- Sizes
------------------------------------------------------------

namespace TrustOnboard

namespace Shadow

open Json
open Mqtt (IoTError CString)

/- The numerals of 32 bits have ten digits at most. -/
theorem length_decimal_uint32
    {n : Nat}
    (hSmall : n < 2 ^ 32) :
    (decimal n).length ≤ 10 := by
  by_cases hZero : n = 0
  · subst hZero
    decide
  · have hLarge : (decimal 4294967295).length = 10 := by
      decide +kernel
    rw [← hLarge]
    exact length_decimal_le hZero (by omega)

theorem length_signedDecimal_int32
    {i : Int}
    (hLow : -(2 ^ 31 : Int) ≤ i)
    (hHigh : i < 2 ^ 32) :
    (signedDecimal i).length ≤ 11 := by
  cases i with
  | ofNat n =>
      have hDigits := length_decimal_uint32 (n := n) (by
        have h : (n : Int) < 2 ^ 32 := hHigh
        omega)
      unfold signedDecimal
      dsimp only
      omega
  | negSucc n =>
      have hDigits := length_decimal_uint32 (n := n + 1) (by
        omega)
      unfold signedDecimal
      rw [List.length_cons]
      omega

/- The token of a client with a short identifier. -/
theorem length_clientTokenText
    {mqttClientID : CString}
    (clientTokenNum : UInt32)
    (hShort : mqttClientID.bytes.length ≤ 79) :
    (clientTokenText mqttClientID clientTokenNum).length ≤
      91 := by
  have hNumber :
      (signedDecimal (asInt32 clientTokenNum)).length ≤ 11 := by
    have hWord := clientTokenNum.toNat_lt
    apply length_signedDecimal_int32
    · unfold asInt32
      split <;> omega
    · unfold asInt32
      split <;> omega
  have hDash : (ascii "-").length = 1 := by
    decide
  unfold clientTokenText
  rw [List.length_append, List.length_append]
  omega

/- The text of a scalar is short. -/
theorem length_added
    {data : JsonData}
    (hScalar : data.IsScalar) :
    data.added.length ≤ 12 := by
  have hPrinted :
      ∀ {text : Bytes}, data.valueText = some text →
        text.length ≤ 11 → data.added.length ≤ 12 := by
    intro text hText hLength
    have hComma : (ascii ",").length = 1 := by
      decide
    unfold JsonData.added JsonData.printedText
    rw [hText, Option.map_some, Option.getD_some,
      List.length_append]
    omega
  unfold JsonData.IsScalar at hScalar
  cases hScalar with
  | int32 v =>
      have hLow := v.le_toInt
      have hHigh := v.toInt_lt
      exact
        hPrinted rfl
          (length_signedDecimal_int32 (by omega) (by omega))
  | int16 v =>
      have hLow := v.le_toInt
      have hHigh := v.toInt_lt
      exact
        hPrinted rfl
          (length_signedDecimal_int32 (by omega) (by omega))
  | int8 v =>
      have hLow := v.le_toInt
      have hHigh := v.toInt_lt
      exact
        hPrinted rfl
          (length_signedDecimal_int32 (by omega) (by omega))
  | uint32 v =>
      have hDigits := length_decimal_uint32 v.toNat_lt
      exact hPrinted rfl (by omega)
  | uint16 v =>
      have hWord := v.toNat_lt
      have hDigits :=
        length_decimal_uint32 (n := v.toNat) (by omega)
      exact hPrinted rfl (by omega)
  | uint8 v =>
      have hWord := v.toNat_lt
      have hDigits :=
        length_decimal_uint32 (n := v.toNat) (by omega)
      exact hPrinted rfl (by omega)
  | bool v =>
      refine hPrinted rfl ?_
      cases v <;> decide

/- A key is printed in quotes, with a colon behind it. -/
theorem length_keyText
    (e : Element) :
    e.toStruct.keyText.length = e.key.bytes.length + 3 := by
  show (ascii "\"" ++ e.key.bytes ++ ascii "\":").length = _
  rw [List.length_append, List.length_append]
  show 1 + e.key.bytes.length + 2 = e.key.bytes.length + 3
  omega

theorem length_objectText
    (items : List Item) :
    (objectText items).length =
      (items.flatMap Item.written).length + 1 := by
  unfold objectText
  rw [List.length_append, List.length_dropLast]
  rfl

theorem length_written
    (i : Item) :
    i.written.length = i.key.length + i.text.length + 4 := by
  unfold Item.written
  simp only [List.length_cons, List.length_append,
    List.length_nil]
  omega

/- An object is longer than each of its members. -/
theorem length_member_lt
    {items : List Item}
    {i : Item}
    (hMem : i ∈ items) :
    i.key.length + i.text.length + 4 <
      (objectText items).length := by
  have hPart :
      i.written.length ≤ (items.flatMap Item.written).length :=
    (List.sublist_flatten_of_mem
      (List.mem_map_of_mem hMem)).length_le
  rw [length_written] at hPart
  rw [length_objectText]
  omega

/- A document is longer than each of its keys. -/
theorem length_key_lt
    {mqttClientID : CString}
    (clientTokenNum : UInt32)
    {parts : List Part}
    {p : Part}
    {e : Element}
    (hPart : p ∈ parts)
    (hElement : e ∈ p.2) :
    e.key.bytes.length + 3 <
      (documentText mqttClientID clientTokenNum
        parts).length := by
  have hInner :
      e.toItem.key.length + e.toItem.text.length + 4 <
        p.toItem.text.length :=
    length_member_lt
      (List.mem_map_of_mem (f := Element.toItem) hElement)
  have hOuter :
      p.toItem.key.length + p.toItem.text.length + 4 <
        (objectText (parts.map Part.toItem)).length :=
    length_member_lt
      (List.mem_map_of_mem (f := Part.toItem) hPart)
  have hKey : e.toItem.key = e.key.bytes := rfl
  rw [hKey] at hInner
  unfold documentText
  simp only [List.length_append]
  omega

/- The arguments of a section can be printed. -/
theorem isComplete_args
    {p : Part}
    (hScalar : ∀ e ∈ p.2, e.data.IsScalar)
    (hKeys : ∀ e ∈ p.2, e.toStruct.keyText.length < 2 ^ 31) :
    ∀ a ∈ p.args, IsComplete a := by
  intro a ha
  unfold Part.args at ha
  rcases List.mem_map.mp ha with ⟨e, he, rfl⟩
  have hValue := length_added (hScalar e he)
  exact
    ⟨e.toStruct, e.data, rfl, rfl, rfl, hKeys e he, by omega⟩

/- Two tokens for every member. -/
theorem length_elements
    {json : Bytes}
    {es : List Element}
    {ms : List Member}
    (hAll :
      List.Forall₂
        (fun e m =>
          WrittenAs json e.toItem m ∧
            ElementTokens json e m.inside)
        es ms) :
    (ms.flatMap Member.tokens).length = 2 * es.length := by
  induction hAll with
  | nil => rfl
  | @cons e m es ms hHere _ ih =>
      rcases hHere with ⟨_, tok, r, hInside, _⟩
      have hTwo : m.tokens.length = 2 := by
        unfold Member.tokens
        rw [hInside]
        rfl
      rw [List.flatMap_cons, List.length_append, ih, hTwo,
        List.length_cons]
      omega

theorem length_sections
    {json : Bytes}
    {parts : List Part}
    {ms : List Member}
    (hAll :
      List.Forall₂
        (fun p m =>
          WrittenAs json p.toItem m ∧
            SectionTokens json p m.inside)
        parts ms) :
    (ms.flatMap Member.tokens).length =
      2 * parts.length + 2 * (elementsOf parts).length := by
  induction hAll with
  | nil => rfl
  | @cons p m ps ms hHere _ ih =>
      rcases hHere with ⟨_, first, inner, hInside, _, hElements⟩
      have hInner := length_elements hElements
      have hTokens : m.tokens.length = 2 + 2 * p.2.length := by
        unfold Member.tokens
        rw [hInside, List.length_cons, List.length_cons, hInner]
        omega
      have hCount :
          (elementsOf (p :: ps)).length =
            p.2.length + (elementsOf ps).length := by
        unfold elementsOf
        rw [List.flatMap_cons, List.length_append]
      rw [List.flatMap_cons, List.length_append, ih, hTokens,
        List.length_cons, hCount]
      omega

/- There are two sections. -/
theorem length_of_nodup_sections
    {sections : List Section}
    (hNodup : sections.Nodup) :
    sections.length ≤ 2 := by
  have hSubset : sections ⊆ [.desired, .reported] := by
    intro sec _
    cases sec <;> decide
  exact (hNodup.subperm hSubset).length_le

/- So the array of the reader is long enough. -/
theorem length_tokens
    {json token : Bytes}
    {mqttClientID : CString}
    {parts : List Part}
    {ts : List JsmnTok}
    (hTokens : TokensOf json parts token ts)
    (hDescribable : Describable mqttClientID parts) :
    ts.length ≤ maxJsonTokenExpected := by
  have hParts := length_of_nodup_sections hDescribable.sections
  rw [List.length_map] at hParts
  have hCount := hDescribable.count
  cases hTokens with
  | mk _ _ _ hSections _ _ =>
      have hAll := length_sections hSections
      simp only [List.length_cons, List.length_append,
        List.length_nil]
      unfold maxJsonTokenExpected
      omega

end Shadow

end TrustOnboard

------------------------------------------------------------
-- Agreement
------------------------------------------------------------

namespace TrustOnboard

namespace Shadow

open Json
open Mqtt (IoTError CString HandlerId)

variable {E : Type}

/-
  The builder succeeds, and the reader finds every value and
  the client token in its document.
-/
theorem builder_reader_agree
    {port : Port E}
    (hParser : StandardParser port)
    {size : Nat}
    (hSize : size < 2 ^ 64)
    {mqttClientID : CString}
    (clientTokenNum : UInt32)
    {parts : List Part}
    (hDescribable : Describable mqttClientID parts)
    (hShort :
      (documentText mqttClientID clientTokenNum
        parts).length < 2 ^ 31)
    (hFits :
      (documentText mqttClientID clientTokenNum
        parts).length < size)
    (d : Document) :
    ∃ d',
      build size mqttClientID clientTokenNum parts d =
          some d' ∧
        ∀ old, ∃ count tokens,
          isJsonValidAndParse port d'.text old =
              (some count, tokens) ∧
            (∀ e ∈ elementsOf parts, ∀ stored cb,
              SameScalar e.data stored →
                isJsonKeyMatchingAndUpdateValue port d'.text
                    tokens count ⟨e.key, stored, cb⟩ =
                  some (e.data, e.valueText)) ∧
              (extractClientToken port d'.text old).1 =
                some
                  (clientTokenText mqttClientID
                    clientTokenNum) := by
  have hToken :=
    length_clientTokenText clientTokenNum
      hDescribable.clientId_short
  have hComplete :
      ∀ p ∈ parts, ∀ a ∈ p.args, IsComplete a := by
    intro p hp
    apply isComplete_args
    · exact fun e he =>
        hDescribable.scalar e (mem_elementsOf hp he)
    · intro e he
      rw [length_keyText]
      exact
        Nat.lt_trans (length_key_lt clientTokenNum hp he) hShort
  have hCount : ∀ p ∈ parts, p.2.length < 128 := by
    intro p hp
    have hPart : p.2.length ≤ (elementsOf parts).length :=
      (List.sublist_flatten_of_mem
        (List.mem_map_of_mem hp)).length_le
    have hAll := hDescribable.count
    omega
  rcases build_succeeds hSize hComplete hCount (by omega) hFits
    d with ⟨d', hBuild⟩
  rcases isDocument_built clientTokenNum hDescribable
    (build_text hBuild) with ⟨ms, ts, hDocument, hTokens⟩
  have hLength : d'.text.length < 2 ^ 31 := by
    rw [build_text hBuild]
    exact hShort
  have hStandard :=
    hParser d'.text ms ts hLength hDocument
      (length_tokens hTokens hDescribable)
  have hSome : ts ≠ [] := by
    cases hTokens
    exact List.cons_ne_nil _ _
  have hFirst : (tokenAt ts 0).type = .object := by
    cases hTokens with
    | mk hFirst _ _ _ _ _ => exact hFirst
  refine ⟨d', hBuild, fun old => ?_⟩
  have hParsed :
      isJsonValidAndParse port d'.text old =
        (some ts.length, ts ++ old.drop ts.length) := by
    rw [isJsonValidAndParse_standard old hStandard hSome,
      if_pos hFirst]
  refine ⟨ts.length, _, hParsed, ?_, ?_⟩
  · intro e he stored cb hSame
    exact
      isJsonKeyMatchingAndUpdateValue_built hTokens
        hDescribable.key_free hDescribable.distinct he hSame cb
        _
  · unfold extractClientToken
    simp only [hParsed]
    exact
      clientToken_found hTokens hDescribable.key_free (by omega)
        _

/- The platform with the parser that comes with the client. -/
def Port.standard : Port Unit :=
  Port.calm.withJsmn

theorem builder_reader_agree_onePart :
    ∃ d',
      build 64 someClient 0 [onePart] ⟨[], 0⟩ = some d' ∧
        ∀ old, ∃ count tokens,
          isJsonValidAndParse Port.standard d'.text old =
              (some count, tokens) ∧
            (∀ e ∈ elementsOf [onePart], ∀ stored cb,
              SameScalar e.data stored →
                isJsonKeyMatchingAndUpdateValue
                    Port.standard d'.text tokens count
                    ⟨e.key, stored, cb⟩ =
                  some (e.data, e.valueText)) ∧
              (extractClientToken Port.standard d'.text old).1 =
                some (clientTokenText someClient 0) := by
  refine
    builder_reader_agree (standardParser_jsmn Port.calm)
      (by decide) 0 ?_ (by decide +kernel) (by decide +kernel)
      ⟨[], 0⟩
  · have hOnly :
        ∀ e ∈ elementsOf [onePart],
          e.key = ⟨ascii "a", by decide⟩ ∧
            e.data = .int32 12345 := by
      intro e he
      cases List.mem_singleton.mp he
      exact ⟨rfl, rfl⟩
    refine
      { parts_some := List.cons_ne_nil _ _
        sections := by decide
        members := ?_
        count := by decide
        scalar := ?_
        key_some := ?_
        key_plain := ?_
        key_free := ?_
        distinct := by decide
        clientId := forall_mem_of_all (by decide)
        clientId_short := by decide }
    · intro p hp
      cases List.mem_singleton.mp hp
      exact List.cons_ne_nil _ _
    · intro e he
      rw [(hOnly e he).2]
      exact .int32 _ _
    · intro e he
      rw [(hOnly e he).1]
      decide
    · intro e he
      rw [(hOnly e he).1]
      exact forall_mem_of_all (by decide)
    · intro e he
      rw [(hOnly e he).1]
      decide

/- A key of a letter over and over again. -/
def longKey (n : Nat) : CString where
  bytes := List.replicate n 97
  nul_free := by
    intro hMem
    have hLetter := List.eq_of_mem_replicate hMem
    cases hLetter

/- A small number under such a key. -/
def longPart (n : Nat) : Part :=
  (.desired,
    [{ key := longKey n
       data := .int8 1
       value := .number (signedDecimal 1)
       stands := rfl }])

theorem length_longKey
    (n : Nat) :
    (longKey n).bytes.length = n :=
  List.length_replicate

theorem describable_longPart
    {n : Nat}
    (hLong : 12 ≤ n) :
    Describable someClient [longPart n] := by
  have hOnly :
      ∀ e ∈ elementsOf [longPart n],
        e.key = longKey n ∧ e.data = .int8 1 := by
    intro e he
    cases List.mem_singleton.mp he
    exact ⟨rfl, rfl⟩
  refine
    { parts_some := List.cons_ne_nil _ _
      sections := List.nodup_singleton _
      members := ?_
      count := (by decide : 1 ≤ 50)
      scalar := ?_
      key_some := ?_
      key_plain := ?_
      key_free := ?_
      distinct := List.nodup_singleton _
      clientId := forall_mem_of_all (by decide)
      clientId_short := by decide }
  · intro p hp
    cases List.mem_singleton.mp hp
    exact List.cons_ne_nil _ _
  · intro e he
    rw [(hOnly e he).2]
    exact .int8 _ _
  · intro e he
    rw [(hOnly e he).1, ← List.length_pos_iff, length_longKey]
    omega
  · intro e he b hb
    rw [(hOnly e he).1] at hb
    rw [List.eq_of_mem_replicate hb]
    decide
  · intro e he hReserved
    have hShort : ∀ word ∈ reservedKeys, word.length < 12 := by
      decide
    have hLength := hShort _ hReserved
    rw [(hOnly e he).1, length_longKey] at hLength
    omega

theorem length_documentText_longPart
    (n : Nat) :
    (documentText someClient 0 [longPart n]).length =
      n + 49 := by
  have hElement :
      (objectText
        ((longPart n).2.map Element.toItem)).length =
        n + 6 := by
    rw [length_objectText]
    unfold longPart
    rw [List.map_singleton, List.flatMap_singleton,
      length_written]
    show (longKey n).bytes.length + 1 + 4 + 1 = n + 6
    rw [length_longKey]
  have hSection :
      (objectText [(longPart n).toItem]).length = n + 18 := by
    rw [length_objectText, List.flatMap_singleton,
      length_written]
    show 7 + (objectText _).length + 4 + 1 = n + 18
    rw [hElement]
    omega
  unfold documentText
  rw [List.map_singleton]
  simp only [List.length_append, hSection]
  show 9 + (n + 18) + 17 + 3 + 2 = n + 49
  omega

theorem build_longPart
    {n : Nat}
    (size : Nat)
    (hLong : 2 ^ 31 ≤ n) :
    build size someClient 0 [longPart n] ⟨[], 0⟩ = none := by
  apply build_fails_of_long_key
  rw [length_keyText]
  show 2 ^ 31 ≤ (longKey n).bytes.length + 3
  rw [length_longKey]
  omega

theorem longPart_not_built
    {n : Nat}
    (hLong : 2 ^ 31 ≤ n) :
    Describable someClient [longPart n] ∧
      (documentText someClient 0 [longPart n]).length <
          n + 50 ∧
        build (n + 50) someClient 0 [longPart n] ⟨[], 0⟩ =
          none := by
  refine
    ⟨describable_longPart (by omega), ?_,
      build_longPart (n + 50) hLong⟩
  rw [length_documentText_longPart]
  omega

/-
  A key of 2^31 letters is more than `snprintf` can report,
  in a buffer of any size.
-/
theorem longKey_not_built :
    Describable someClient [longPart (2 ^ 31)] ∧
      (documentText someClient 0
          [longPart (2 ^ 31)]).length < 2 ^ 31 + 50 ∧
        build (2 ^ 31 + 50) someClient 0
            [longPart (2 ^ 31)] ⟨[], 0⟩ =
          none :=
  longPart_not_built (Nat.le_refl _)

end Shadow

end TrustOnboard
