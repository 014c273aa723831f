import TrustOnboard.Shadow.BuilderDocument
import TrustOnboard.Shadow.Scanning

/-
  The tokens of a document that was built.

  They are the tokens of its members in a row: a key, and
  behind it the value of an element, or the object of a
  section with the tokens of its elements.  A search for a
  key finds the value behind the first string that is spelled
  like it.

  Key definitions include:
    * `ElementTokens`
    * `SectionTokens`
    * `TokensOf`

  Key results include:
    * `memberTokens_written`
    * `isDocument_built`
    * `findSome?_searched`
-/

------------------------------------------------------------
-- Members
------------------------------------------------------------

namespace TrustOnboard

namespace Shadow

open Json

variable {json : Bytes}

/- A token between two places has the text between them. -/
theorem span_of_places
    {word r : Bytes}
    (hSuffix : word ++ r <:+ json) :
    place json.length r - place json.length (word ++ r) =
      (word.length : Nat) := by
  have hWhole := hSuffix.length_le
  rw [List.length_append] at hWhole
  unfold place
  rw [List.length_append]
  omega

theorem text_of_places
    {type : JsmnType}
    {word r : Bytes}
    (hSuffix : word ++ r <:+ json) :
    (⟨type, place json.length (word ++ r),
      place json.length r⟩ : JsmnTok).text json = word := by
  unfold JsmnTok.text JsmnTok.textFrom
  dsimp only
  rw [span_of_places hSuffix, drop_place hSuffix,
    Int.toNat_natCast, List.take_left' rfl]

theorem jsoneq_of_places
    {word r : Bytes}
    (hSuffix : word ++ r <:+ json) :
    jsoneq json
        ⟨.string, place json.length (word ++ r),
          place json.length r⟩ word =
      true :=
  jsoneq_of_is hSuffix (List.suffix_append word r)
    ⟨rfl, text_of_places hSuffix⟩

/- A member that was written, with its tokens. -/
theorem memberAt_written
    (i : Item)
    {tail : Bytes}
    {ts : List JsmnTok}
    (hPlain : ∀ b ∈ i.key, Plain b)
    (hSuffix :
      34 :: (i.key ++ 34 :: 58 :: (i.text ++ tail)) <:+ json)
    (hValue :
      Tokens json.length i.value (i.text ++ tail) tail ts) :
    ∃ tok,
      MemberAt json.length ⟨i.key, tok, i.value, ts⟩
          (34 :: (i.key ++ 34 :: 58 :: (i.text ++ tail)))
          tail ∧
        jsoneq json tok i.key = true := by
  have hKey :
      i.key ++ 34 :: 58 :: (i.text ++ tail) <:+ json :=
    (List.suffix_cons 34 _).trans hSuffix
  refine ⟨_, .mk (skip_cons_of_not_blank rfl _)
    ((chars_iff _ _ _).mpr ⟨hPlain, rfl⟩)
    (skip_cons_of_not_blank rfl _) hValue, ?_⟩
  exact jsoneq_of_places hKey

/- The value of a member lies in the text. -/
theorem suffix_of_member
    {i : Item}
    {tail : Bytes}
    (hSuffix :
      34 :: (i.key ++ 34 :: 58 :: (i.text ++ tail)) <:+
        json) :
    i.text ++ tail <:+ json :=
  ((List.suffix_cons 58 _).trans
    ((List.suffix_cons 34 _).trans
      (List.suffix_append i.key _))).trans
    ((List.suffix_cons 34 _).trans hSuffix)

/- A member with the name and the value it was written for. -/
structure WrittenAs
    (json : Bytes)
    (i : Item)
    (m : Member) : Prop where
  pair : m.pair = i.member
  spelled : jsoneq json m.key i.key = true

variable {α : Type}
variable {f : α → Item}
variable {Q : α → List JsmnTok → Prop}

/-
  The members of an object as it was written, with what is
  known of the tokens of each value.
-/
theorem memberTokens_written
    (x : α)
    (xs : List α)
    {s : Bytes}
    (hPlain : ∀ y ∈ x :: xs, ∀ b ∈ (f y).key, Plain b)
    (hValue :
      ∀ y ∈ x :: xs, ∀ tail, Delimited tail →
        (f y).text ++ tail <:+ json →
          ∃ ts,
            Tokens json.length (f y).value
                ((f y).text ++ tail) tail ts ∧
              Q y ts)
    (hSuffix :
      (((x :: xs).map f).flatMap Item.written).dropLast ++
        125 :: s <:+ json) :
    ∃ ms,
      MemberTokens json.length ms
          ((((x :: xs).map f).flatMap Item.written).dropLast ++
            125 :: s) s ∧
        List.Forall₂
          (fun y m => WrittenAs json (f y) m ∧ Q y m.inside)
          (x :: xs) ms := by
  induction xs generalizing x with
  | nil =>
      rw [List.map_cons, dropLast_written] at hSuffix ⊢
      rw [List.map_nil, if_pos rfl] at hSuffix ⊢
      rcases hValue x (by simp) (125 :: s)
          ⟨125, s, rfl, .inr rfl⟩ (suffix_of_member hSuffix)
        with ⟨ts, hTokens, hQ⟩
      rcases memberAt_written (f x) (hPlain x (by simp))
          hSuffix hTokens with
        ⟨tok, hMember, hSame⟩
      exact
        ⟨_, .last hMember (skip_cons_of_not_blank rfl _),
          .cons ⟨⟨rfl, hSame⟩, hQ⟩ .nil⟩
  | cons y ys ih =>
      rw [List.map_cons, dropLast_written] at hSuffix ⊢
      rw [if_neg (by simp)] at hSuffix ⊢
      have hTail := suffix_of_member hSuffix
      rcases hValue x (by simp) _ ⟨44, _, rfl, .inl rfl⟩ hTail
        with ⟨ts, hTokens, hQ⟩
      rcases memberAt_written (f x) (hPlain x (by simp))
          hSuffix hTokens with
        ⟨tok, hMember, hSame⟩
      have hRest :
          (((y :: ys).map f).flatMap Item.written).dropLast ++
            125 :: s <:+ json :=
        (List.suffix_cons 44 _).trans
          ((List.suffix_append (f x).text _).trans hTail)
      rcases ih y
          (fun z hz => hPlain z (List.mem_cons_of_mem x hz))
          (fun z hz => hValue z (List.mem_cons_of_mem x hz))
          hRest with
        ⟨ms, hMembers, hAll⟩
      exact
        ⟨_, .more hMember (skip_cons_of_not_blank rfl _)
            hMembers,
          .cons ⟨⟨rfl, hSame⟩, hQ⟩ hAll⟩

theorem pairs_of_written
    {xs : List α}
    {ms : List Member}
    (hAll :
      List.Forall₂
        (fun y m => WrittenAs json (f y) m ∧ Q y m.inside)
        xs ms) :
    ms.map Member.pair = (xs.map f).map Item.member := by
  induction hAll with
  | nil => rfl
  | cons hHere _ ih =>
      rw [List.map_cons, List.map_cons, List.map_cons, ih,
        hHere.1.pair]

/- An object as it was written. -/
theorem objectTokens_written
    {xs : List α}
    {s : Bytes}
    (hSome : xs ≠ [])
    (hPlain : ∀ y ∈ xs, ∀ b ∈ (f y).key, Plain b)
    (hValue :
      ∀ y ∈ xs, ∀ tail, Delimited tail →
        (f y).text ++ tail <:+ json →
          ∃ ts,
            Tokens json.length (f y).value
                ((f y).text ++ tail) tail ts ∧
              Q y ts)
    (hSuffix : objectText (xs.map f) ++ s <:+ json) :
    ∃ first ms,
      ObjectTokens json.length ms
          (objectText (xs.map f) ++ s) s
          (first :: ms.flatMap Member.tokens) ∧
        first.type = .object ∧
          List.Forall₂
            (fun y m => WrittenAs json (f y) m ∧ Q y m.inside)
            xs ms := by
  cases xs with
  | nil => exact absurd rfl hSome
  | cons x xs =>
      have hNe :
          ((x :: xs).map f).flatMap Item.written ≠ [] := by
        simp [Item.written]
      have hText :
          objectText ((x :: xs).map f) ++ s =
            123 ::
              ((((x :: xs).map f).flatMap
                  Item.written).dropLast ++
                125 :: s) := by
        unfold objectText
        rw [List.dropLast_cons_of_ne_nil hNe]
        simp
      rw [hText] at hSuffix ⊢
      rcases memberTokens_written x xs hPlain hValue
          ((List.suffix_cons 123 _).trans hSuffix) with
        ⟨ms, hMembers, hAll⟩
      exact
        ⟨_, ms, .full (skip_cons_of_not_blank rfl _) hMembers,
          rfl, hAll⟩

end Shadow

end TrustOnboard

------------------------------------------------------------
-- Elements And Sections
------------------------------------------------------------

namespace TrustOnboard

namespace Shadow

open Json
open Mqtt (CString)

variable {json : Bytes}

/- An integer or a boolean. -/
def JsonData.IsScalar (data : JsonData) : Prop :=
  SameScalar data data

/- What is known of the tokens of the value of an element. -/
def ElementTokens
    (json : Bytes)
    (e : Element)
    (ts : List JsmnTok) : Prop :=
  ∃ tok r,
    ts = [tok] ∧ tok.type = .primitive ∧ Delimited r ∧
      tok.textFrom json = e.valueText ++ r ∧
        tok.text json = e.valueText

/- And of the value of a section. -/
def SectionTokens
    (json : Bytes)
    (p : Part)
    (ts : List JsmnTok) : Prop :=
  ∃ first ms,
    ts = first :: ms.flatMap Member.tokens ∧
      first.type = .object ∧
        List.Forall₂
          (fun e m =>
            WrittenAs json e.toItem m ∧
              ElementTokens json e m.inside)
          p.2 ms

/- A scalar is read, and no blank stands in front of it. -/
theorem scalar_reads
    {e : Element}
    (hScalar : e.data.IsScalar)
    (r : Bytes) :
    Reads e.value (e.valueText ++ r) r ∧
      isPrimitive e.value = true ∧
        skip (e.valueText ++ r) = e.valueText ++ r := by
  have hReads : Reads e.value (e.valueText ++ r) r := by
    refine (e.spells r r).mpr ⟨?_, rfl⟩
    intro v hString
    rw [JsonData.IsScalar, hString] at hScalar
    cases hScalar
  refine ⟨hReads, ?_⟩
  rcases e with ⟨key, data, value, hStands⟩
  unfold JsonData.IsScalar at hScalar
  unfold Element.valueText
  cases hScalar with
  | int32 v | int16 v | int8 v =>
      cases hStands
      exact ⟨rfl, skip_signedDecimal _ r⟩
  | uint32 v | uint16 v | uint8 v =>
      cases hStands
      exact ⟨rfl, skip_decimal _ r⟩
  | bool v =>
      cases hStands
      refine ⟨rfl, ?_⟩
      cases v with
      | false => exact skip_append (b := 102) rfl rfl r
      | true => exact skip_append (b := 116) rfl rfl r

theorem elementTokens_written
    {e : Element}
    (hScalar : e.data.IsScalar)
    {tail : Bytes}
    (hDelimited : Delimited tail)
    (hSuffix : e.valueText ++ tail <:+ json) :
    ∃ ts,
      Tokens json.length e.value (e.valueText ++ tail) tail
          ts ∧
        ElementTokens json e ts := by
  rcases scalar_reads hScalar tail with
    ⟨hReads, hKind, hSkip⟩
  refine ⟨_, .primitive hReads hKind, _, tail, rfl, rfl,
    hDelimited, ?_, ?_⟩
  · unfold JsmnTok.textFrom
    rw [hSkip, drop_place hSuffix]
  · rw [hSkip]
    exact text_of_places hSuffix

theorem sectionTokens_written
    {p : Part}
    (hSome : p.2 ≠ [])
    (hScalar : ∀ e ∈ p.2, e.data.IsScalar)
    (hPlain : ∀ e ∈ p.2, ∀ b ∈ e.key.bytes, Plain b)
    {tail : Bytes}
    (hSuffix : p.toItem.text ++ tail <:+ json) :
    ∃ ts,
      Tokens json.length p.toItem.value
          (p.toItem.text ++ tail) tail ts ∧
        SectionTokens json p ts := by
  have hWritten :=
    objectTokens_written (f := Element.toItem)
      (Q := ElementTokens json) hSome hPlain
      (fun e he _ hDelimited hText =>
        elementTokens_written (hScalar e he) hDelimited hText)
      hSuffix
  rcases hWritten with ⟨first, ms, hObject, hFirst, hAll⟩
  have hValue :
      p.toItem.value = .object (ms.map Member.pair) := by
    have hPairs := pairs_of_written hAll
    rw [hPairs]
    rfl
  rw [hValue]
  exact ⟨_, .object hObject, first, ms, rfl, hFirst, hAll⟩

end Shadow

end TrustOnboard

------------------------------------------------------------
-- Documents
------------------------------------------------------------

namespace TrustOnboard

namespace Shadow

open Json
open Mqtt (CString)

variable {json : Bytes}

/- The tokens of a document, in the order of its text. -/
inductive TokensOf
    (json : Bytes)
    (parts : List Part)
    (token : Bytes) : List JsmnTok → Prop where
  | mk
      {first stateKey state tokenKey tok : JsmnTok}
      {sections : List Member}
      (hFirst : first.type = .object)
      (hStateKey :
        jsoneq json stateKey (ascii "state") = true)
      (hState : state.type = .object)
      (hSections :
        List.Forall₂
          (fun p m =>
            WrittenAs json p.toItem m ∧
              SectionTokens json p m.inside)
          parts sections)
      (hTokenKey :
        jsoneq json tokenKey (ascii "clientToken") = true)
      (hToken : jsoneq json tok token = true) :
      TokensOf json parts token
        (first :: stateKey :: state ::
          (sections.flatMap Member.tokens ++ [tokenKey, tok]))

/- The sections as a member that is written. -/
def stateItem (parts : List Part) : Item where
  key := ascii "state"
  value := .object ((parts.map Part.toItem).map Item.member)
  text := objectText (parts.map Part.toItem)
  condition :=
    parts.map Part.toItem ≠ [] ∧
      ∀ i ∈ parts.map Part.toItem, i.Legible
  spells := spells_object _

/- The client token as a member behind a blank. -/
theorem memberAt_token
    {token tail : Bytes}
    (hPlain : ∀ b ∈ token, Plain b)
    (hSuffix :
      ascii "clientToken" ++ 34 :: 58 :: 34 ::
        (token ++ 34 :: tail) <:+ json) :
    ∃ key tok,
      MemberAt json.length
          ⟨ascii "clientToken", key, .string token, [tok]⟩
          (32 :: 34 :: (ascii "clientToken" ++
            34 :: 58 :: 34 :: (token ++ 34 :: tail)))
          tail ∧
        jsoneq json key (ascii "clientToken") = true ∧
          jsoneq json tok token = true := by
  have hName : ∀ b ∈ ascii "clientToken", Plain b :=
    forall_mem_of_all (by decide)
  have hText : token ++ 34 :: tail <:+ json :=
    ((List.suffix_cons 34 _).trans
      ((List.suffix_cons 58 _).trans
        ((List.suffix_cons 34 _).trans
          (List.suffix_append _ _)))).trans hSuffix
  have hKey :
      Chars (ascii "clientToken")
        (ascii "clientToken" ++ 34 :: 58 :: 34 ::
          (token ++ 34 :: tail))
        (58 :: 34 :: (token ++ 34 :: tail)) :=
    (chars_iff _ _ _).mpr ⟨hName, rfl⟩
  refine ⟨_, _, .mk rfl hKey
    (skip_cons_of_not_blank rfl _)
    (.string (skip_cons_of_not_blank rfl _)
      ((chars_iff _ _ _).mpr ⟨hPlain, rfl⟩)), ?_, ?_⟩
  · exact jsoneq_of_places hSuffix
  · exact jsoneq_of_places hText

end Shadow

end TrustOnboard
