import Mathlib.Data.List.TakeWhile
import TrustOnboard.Json.Writer
import TrustOnboard.Shadow.Parsing

/-
  The tokens of JSON texts and the version a search finds.

  A parser in the standard way lists the tokens of a text in
  the order in which they begin.  The search for a version
  runs over this list: it does not know which tokens are keys
  and how deep they lie.  It finds the version of the text
  when no other occurrence of the word stands in its way.

  Key definitions include:
    * `Tokens`
    * `IsDocument`
    * `docVersion`
    * `Unobstructed`
    * `VersionOnTop`

  Key results include:
    * `extractVersionNumber_document`
    * `VersionOnTop.unobstructed`
-/

------------------------------------------------------------
-- Token Arrays
------------------------------------------------------------

namespace TrustOnboard

namespace Shadow

open Json

/- The place of a rest of a text of the given length. -/
def place (n : Nat) (s : Bytes) : Int :=
  ((n - s.length : Nat) : Int)

/- The values without a structure of their own. -/
def isPrimitive : Value → Bool
  | .null => true
  | .bool _ => true
  | .number _ => true
  | _ => false

def isObject : Value → Bool
  | .object _ => true
  | _ => false

/- A member of an object with the tokens it consists of. -/
structure Member where
  name : Bytes
  key : JsmnTok
  value : Value
  inside : List JsmnTok

def Member.pair (m : Member) : Bytes × Value :=
  (m.name, m.value)

def Member.tokens (m : Member) : List JsmnTok :=
  m.key :: m.inside

mutual

/-
  A value at the start of a text, the rest behind it, and the
  tokens between the two.
-/
inductive Tokens (n : Nat) :
    Value → Bytes → Bytes → List JsmnTok → Prop where
  | primitive
      {v : Value}
      {s r : Bytes}
      (hReads : Reads v s r)
      (hKind : isPrimitive v = true) :
      Tokens n v s r
        [⟨.primitive, place n (skip s), place n r⟩]
  | string
      {cs s t r : Bytes}
      (hOpen : skip s = 34 :: t)
      (hChars : Chars cs t r) :
      Tokens n (.string cs) s r
        [⟨.string, place n t, place n (34 :: r)⟩]
  | emptyArray
      {s t r : Bytes}
      (hOpen : skip s = 91 :: t)
      (hClose : skip t = 93 :: r) :
      Tokens n (.array []) s r
        [⟨.array, place n (91 :: t), place n r⟩]
  | array
      {vs : List Value}
      {s t r : Bytes}
      {ts : List JsmnTok}
      (hOpen : skip s = 91 :: t)
      (hItems : ItemTokens n vs t r ts) :
      Tokens n (.array vs) s r
        (⟨.array, place n (91 :: t), place n r⟩ :: ts)
  | object
      {ms : List Member}
      {s r : Bytes}
      {ts : List JsmnTok}
      (hObject : ObjectTokens n ms s r ts) :
      Tokens n (.object (ms.map Member.pair)) s r ts

/- The items of an array up to its closing bracket. -/
inductive ItemTokens (n : Nat) :
    List Value → Bytes → Bytes → List JsmnTok → Prop where
  | last
      {v : Value}
      {s t r : Bytes}
      {ts : List JsmnTok}
      (hItem : Tokens n v s t ts)
      (hClose : skip t = 93 :: r) :
      ItemTokens n [v] s r ts
  | more
      {v : Value}
      {vs : List Value}
      {s t t' r : Bytes}
      {ts ts' : List JsmnTok}
      (hItem : Tokens n v s t ts)
      (hComma : skip t = 44 :: t')
      (hRest : ItemTokens n vs t' r ts') :
      ItemTokens n (v :: vs) s r (ts ++ ts')

/- An object with its members. -/
inductive ObjectTokens (n : Nat) :
    List Member → Bytes → Bytes → List JsmnTok → Prop where
  | empty
      {s t r : Bytes}
      (hOpen : skip s = 123 :: t)
      (hClose : skip t = 125 :: r) :
      ObjectTokens n [] s r
        [⟨.object, place n (123 :: t), place n r⟩]
  | full
      {ms : List Member}
      {s t r : Bytes}
      (hOpen : skip s = 123 :: t)
      (hMembers : MemberTokens n ms t r) :
      ObjectTokens n ms s r
        (⟨.object, place n (123 :: t), place n r⟩ ::
          ms.flatMap Member.tokens)

/- The members of an object up to its closing brace. -/
inductive MemberTokens (n : Nat) :
    List Member → Bytes → Bytes → Prop where
  | last
      {m : Member}
      {s t r : Bytes}
      (hMember : MemberAt n m s t)
      (hClose : skip t = 125 :: r) :
      MemberTokens n [m] s r
  | more
      {m : Member}
      {ms : List Member}
      {s t t' r : Bytes}
      (hMember : MemberAt n m s t)
      (hComma : skip t = 44 :: t')
      (hRest : MemberTokens n ms t' r) :
      MemberTokens n (m :: ms) s r

/- One member. -/
inductive MemberAt (n : Nat) :
    Member → Bytes → Bytes → Prop where
  | mk
      {name : Bytes}
      {v : Value}
      {s t₁ t₂ t₃ r : Bytes}
      {ts : List JsmnTok}
      (hOpen : skip s = 34 :: t₁)
      (hKey : Chars name t₁ t₂)
      (hColon : skip t₂ = 58 :: t₃)
      (hValue : Tokens n v t₃ r ts) :
      MemberAt n
        ⟨name, ⟨.string, place n t₁, place n (34 :: t₂)⟩,
          v, ts⟩ s r

end

/-
  The tokens of a whole text, and the members of its outermost
  object.  A text that is no object has none.
-/
inductive IsDocument
    (json : Bytes) :
    List Member → List JsmnTok → Prop where
  | object
      {ms : List Member}
      {r : Bytes}
      {ts : List JsmnTok}
      (hObject : ObjectTokens json.length ms json r ts)
      (hEnd : skip r = []) :
      IsDocument json ms ts
  | other
      {v : Value}
      {r : Bytes}
      {ts : List JsmnTok}
      (hTokens : Tokens json.length v json r ts)
      (hOther : isObject v = false)
      (hEnd : skip r = []) :
      IsDocument json [] ts

/- The members and the tokens of a text. -/
structure Reading where
  members : List Member
  tokens : List JsmnTok

end Shadow

end TrustOnboard

------------------------------------------------------------
-- Suffixes
------------------------------------------------------------

namespace TrustOnboard

namespace Shadow

open Json

theorem skip_suffix
    (s : Bytes) :
    skip s <:+ s :=
  List.dropWhile_suffix _

theorem suffix_of_skip
    {s t : Bytes}
    {b : UInt8}
    (hSkip : skip s = b :: t) :
    t <:+ s := by
  have hCons : t <:+ skip s := by
    rw [hSkip]
    exact List.suffix_cons b t
  exact hCons.trans (skip_suffix s)

theorem Chars.suffix
    {cs s r : Bytes}
    (hChars : Chars cs s r) :
    34 :: r <:+ s := by
  rcases hChars.source with ⟨raw, hText, _⟩
  exact ⟨raw, hText.symm⟩

theorem suffix_of_reads
    {v : Value}
    {s r : Bytes}
    (hReads : Reads v s r)
    (hKind : isPrimitive v = true) :
    r <:+ s := by
  have hText :
      ∀ {word : Bytes}, skip s = word ++ r → r <:+ s := by
    intro word hSkip
    have hWord : r <:+ skip s := ⟨word, hSkip.symm⟩
    exact hWord.trans (skip_suffix s)
  cases hReads with
  | null hSkip => exact hText hSkip
  | bool hSkip => exact hText hSkip
  | number _ hSkip => exact hText hSkip
  | string _ _ => cases hKind
  | emptyArray _ _ => cases hKind
  | array _ _ => cases hKind
  | emptyObject _ _ => cases hKind
  | object _ _ => cases hKind

mutual

theorem Tokens.suffix
    {n : Nat}
    {v : Value}
    {s r : Bytes}
    {ts : List JsmnTok} :
    Tokens n v s r ts → r <:+ s
  | .primitive hReads hKind => suffix_of_reads hReads hKind
  | .string hOpen hChars =>
      ((List.suffix_cons 34 _).trans
        (Chars.suffix hChars)).trans (suffix_of_skip hOpen)
  | .emptyArray hOpen hClose =>
      (suffix_of_skip hClose).trans (suffix_of_skip hOpen)
  | .array hOpen hItems =>
      (ItemTokens.suffix hItems).trans (suffix_of_skip hOpen)
  | .object hObject => ObjectTokens.suffix hObject

theorem ItemTokens.suffix
    {n : Nat}
    {vs : List Value}
    {s r : Bytes}
    {ts : List JsmnTok} :
    ItemTokens n vs s r ts → r <:+ s
  | .last hItem hClose =>
      (suffix_of_skip hClose).trans (Tokens.suffix hItem)
  | .more hItem hComma hRest =>
      ((ItemTokens.suffix hRest).trans
        (suffix_of_skip hComma)).trans (Tokens.suffix hItem)

theorem ObjectTokens.suffix
    {n : Nat}
    {ms : List Member}
    {s r : Bytes}
    {ts : List JsmnTok} :
    ObjectTokens n ms s r ts → r <:+ s
  | .empty hOpen hClose =>
      (suffix_of_skip hClose).trans (suffix_of_skip hOpen)
  | .full hOpen hMembers =>
      (MemberTokens.suffix hMembers).trans
        (suffix_of_skip hOpen)

theorem MemberTokens.suffix
    {n : Nat}
    {ms : List Member}
    {s r : Bytes} :
    MemberTokens n ms s r → r <:+ s
  | .last hMember hClose =>
      (suffix_of_skip hClose).trans (MemberAt.suffix hMember)
  | .more hMember hComma hRest =>
      ((MemberTokens.suffix hRest).trans
        (suffix_of_skip hComma)).trans
          (MemberAt.suffix hMember)

theorem MemberAt.suffix
    {n : Nat}
    {m : Member}
    {s r : Bytes} :
    MemberAt n m s r → r <:+ s
  | .mk hOpen hKey hColon hValue =>
      (((Tokens.suffix hValue).trans
        (suffix_of_skip hColon)).trans
          ((List.suffix_cons 34 _).trans
            (Chars.suffix hKey))).trans
              (suffix_of_skip hOpen)

end

end Shadow

end TrustOnboard

------------------------------------------------------------
-- Versions
------------------------------------------------------------

namespace TrustOnboard

namespace Shadow

open Json

/- The text of a token. -/
def JsmnTok.text (tok : JsmnTok) (json : Bytes) : Bytes :=
  (tok.textFrom json).take (tok.stop - tok.start).toNat

/- A string that is spelled in the given way. -/
def JsmnTok.Is
    (tok : JsmnTok)
    (json word : Bytes) : Prop :=
  tok.type = .string ∧ tok.text json = word

instance (tok : JsmnTok) (json word : Bytes) :
    Decidable (tok.Is json word) :=
  inferInstanceAs (Decidable (_ ∧ _))

instance (literal : Bytes) :
    Decidable (∀ b ∈ literal, IsDigit b) :=
  List.decidableBAll IsDigit literal

/-
  The value of a plain decimal integer literal in the range
  of an unsigned integer of 32 bits.
-/
def wholeNumber : Value → Option UInt32
  | .number literal =>
      if (∀ b ∈ literal, IsDigit b) ∧
          digitsValue 10 literal < 2 ^ 32 then
        some (UInt32.ofNat (digitsValue 10 literal))
      else none
  | _ => none

/- The version a member of the outermost object gives. -/
def Member.version
    (json : Bytes)
    (m : Member) : Option UInt32 :=
  if m.key.Is json (ascii "version") then
    wholeNumber m.value
  else none

/- The version of a document. -/
def docVersion
    (json : Bytes)
    (ms : List Member) : Option UInt32 :=
  ms.findSome? (Member.version json)

/- The members in front of the one with the version. -/
def beforeVersion
    (json : Bytes)
    (ms : List Member) : List Member :=
  ms.takeWhile (fun m => (m.version json).isNone)

/-
  No string that is spelled like the key, other than the key
  itself, stands in front of it and has a token behind it
  that reads as an unsigned number.
-/
def Unobstructed
    (json : Bytes)
    (ms : List Member)
    (ts : List JsmnTok) : Prop :=
  ∀ i < 1 + ((beforeVersion json ms).flatMap
      Member.tokens).length,
    ∀ tok, ts[i]? = some tok →
      tok.Is json (ascii "version") →
        ∃ next, ts[i + 1]? = some next ∧
          parseUnsignedInteger32Value json next = none

/-
  The word occurs as the key of a member of the outermost
  object whose value is a plain decimal integer literal in
  range, and nowhere else.
-/
structure VersionOnTop
    (json : Bytes)
    (ms : List Member) : Prop where
  keys :
    ∀ m ∈ ms,
      m.key.Is json (ascii "version") →
        (wholeNumber m.value).isSome = true
  inside :
    ∀ m ∈ ms, ∀ tok ∈ m.inside,
      ¬ tok.Is json (ascii "version")

/- What `jsoneq` compares. -/
theorem is_of_jsoneq
    {json word : Bytes}
    {tok : JsmnTok}
    (hEq : jsoneq json tok word = true) :
    tok.Is json word := by
  unfold jsoneq at hEq
  simp only [Bool.and_eq_true, decide_eq_true_eq] at hEq
  rcases hEq with ⟨hType, hLength, hText⟩
  refine ⟨hType, ?_⟩
  unfold JsmnTok.text
  rw [← hLength, Int.toNat_natCast]
  exact hText

theorem drop_place
    {json s : Bytes}
    (hSuffix : s <:+ json) :
    json.drop (place json.length s).toNat = s := by
  unfold place
  rw [Int.toNat_natCast]
  exact (List.suffix_iff_eq_drop.mp hSuffix).symm

/- A string between two places is compared as it is. -/
theorem jsoneq_of_is
    {json t r word : Bytes}
    (hSuffix : t <:+ json)
    (hInside : r <:+ t)
    (hIs :
      (⟨.string, place json.length t,
        place json.length r⟩ : JsmnTok).Is json word) :
    jsoneq json
      ⟨.string, place json.length t, place json.length r⟩
      word = true := by
  have hText := hIs.2
  have hWhole := hSuffix.length_le
  have hPart := hInside.length_le
  have hSpan :
      place json.length r - place json.length t =
        ((t.length - r.length : Nat) : Int) := by
    unfold place
    omega
  simp only [JsmnTok.text, JsmnTok.textFrom, hSpan,
    drop_place hSuffix, Int.toNat_natCast] at hText
  have hLength : word.length = t.length - r.length := by
    rw [← hText, List.length_take]
    omega
  unfold jsoneq
  simp only [Bool.and_eq_true, decide_eq_true_eq,
    JsmnTok.textFrom, hSpan, drop_place hSuffix, hLength,
    hText, and_self]

/- A number is read up to what is no digit. -/
theorem sscanfUnsigned_digits
    {bits : Nat}
    (hBits : 2 ^ bits ≤ 2 ^ 64)
    {literal r : Bytes}
    (hSome : literal ≠ [])
    (hDigits : ∀ b ∈ literal, IsDigit b)
    (hRange : digitsValue 10 literal < 2 ^ bits)
    (hEnd : ∀ b rest, r = b :: rest → ¬ IsDigit b) :
    sscanfUnsigned bits (literal ++ r) =
      some (digitsValue 10 literal) := by
  cases literal with
  | nil => exact absurd rfl hSome
  | cons d ds =>
  have hDigit : IsDigit d := hDigits d (by simp)
  have hSpace : isSpace d = false := by
    unfold isSpace
    rcases hDigit with ⟨hLow, hHigh⟩
    have hNat : 48 ≤ d.toNat := hLow
    simp only [Bool.or_eq_false_iff, beq_eq_false_iff_ne,
      Bool.and_eq_false_iff, decide_eq_false_iff_not]
    refine ⟨?_, Or.inr ?_⟩
    · rintro rfl
      exact absurd hNat (by decide)
    · intro hLe
      have hSmall : d.toNat ≤ 13 := hLe
      omega
  have hSign :
      splitSign (d :: (ds ++ r)) = (false, d :: (ds ++ r)) := by
    unfold splitSign
    split
    · rename_i hEq
      cases hEq
      exact absurd hDigit (by decide)
    · rename_i hEq
      cases hEq
      exact absurd hDigit (by decide)
    · rfl
  have hTake :
      (d :: ds ++ r).takeWhile
        (fun b => decide (IsDigit b)) = d :: ds := by
    rw [List.takeWhile_append_of_pos
      (fun b hb => decide_eq_true (hDigits b hb))]
    cases r with
    | nil => simp
    | cons b rest =>
        rw [List.takeWhile_cons_of_neg
          (by simpa using hEnd b rest rfl), List.append_nil]
  have hFit : ¬ 2 ^ 64 ≤ digitsValue 10 (d :: ds) := by
    omega
  unfold sscanfUnsigned
  rw [List.cons_append,
    List.dropWhile_cons_of_neg (by simp [hSpace]), hSign]
  rw [List.cons_append] at hTake
  simp only [hTake, reduceCtorEq, if_false, hFit,
    Bool.false_eq_true]
  rw [Nat.mod_eq_of_lt hRange]

end Shadow

end TrustOnboard

------------------------------------------------------------
-- The Search
------------------------------------------------------------

namespace TrustOnboard

namespace Shadow

open Json

/- What closes a member. -/
def IsClosed (r : Bytes) : Prop :=
  ∃ b rest, skip r = b :: rest ∧ (b = 125 ∨ b = 44)

theorem IsClosed.head
    {r rest : Bytes}
    {b : UInt8}
    (hClosed : IsClosed r)
    (hText : r = b :: rest) :
    ¬ IsDigit b := by
  subst hText
  rcases hClosed with ⟨c, rest', hSkip, hEnd⟩
  intro hDigit
  have hSolid := isBlank_of_isDigit hDigit
  rw [skip_cons_of_not_blank hSolid] at hSkip
  cases hSkip
  rcases hEnd with rfl | rfl
  · exact absurd hDigit (by decide)
  · exact absurd hDigit (by decide)

/- Every member of an object lies somewhere in the text. -/
theorem MemberTokens.each
    {json s r : Bytes}
    {ms : List Member}
    (hMembers : MemberTokens json.length ms s r)
    (hSuffix : s <:+ json) :
    ∀ m ∈ ms, ∃ s' r',
      MemberAt json.length m s' r' ∧ s' <:+ json ∧
        IsClosed r' := by
  induction ms generalizing s with
  | nil =>
      intro m hMem
      cases hMem
  | cons first rest ih =>
      intro m hMem
      cases hMembers with
      | last hMember hClose =>
          cases List.mem_singleton.mp hMem
          exact
            ⟨s, _, hMember, hSuffix, _, _, hClose,
              Or.inl rfl⟩
      | more hMember hComma hRest =>
          rcases List.mem_cons.mp hMem with rfl | hMem
          · exact
              ⟨s, _, hMember, hSuffix, _, _, hComma,
                Or.inr rfl⟩
          · have hNext :=
              (suffix_of_skip hComma).trans
                (MemberAt.suffix hMember)
            exact ih hRest (hNext.trans hSuffix) m hMem

theorem IsDocument.each
    {json : Bytes}
    {ms : List Member}
    {ts : List JsmnTok}
    (hDocument : IsDocument json ms ts) :
    ∀ m ∈ ms, ∃ s r,
      MemberAt json.length m s r ∧ s <:+ json ∧
        IsClosed r := by
  cases hDocument with
  | other hTokens hOther hEnd =>
      intro m hMem
      cases hMem
  | object hObject hEnd =>
      cases hObject with
      | empty hOpen hClose =>
          intro m hMem
          cases hMem
      | full hOpen hMembers =>
          exact hMembers.each (suffix_of_skip hOpen)

/- The first token of an object and those of its members. -/
theorem IsDocument.tokens
    {json : Bytes}
    {ms : List Member}
    {ts : List JsmnTok}
    (hDocument : IsDocument json ms ts) :
    ∃ first rest,
      ts = first :: rest ∧
        (first.type = .object →
          rest = ms.flatMap Member.tokens) := by
  cases hDocument with
  | object hObject hEnd =>
      cases hObject with
      | empty hOpen hClose => exact ⟨_, _, rfl, fun _ => rfl⟩
      | full hOpen hMembers => exact ⟨_, _, rfl, fun _ => rfl⟩
  | other hTokens hOther hEnd =>
      cases hTokens with
      | primitive hReads hKind =>
          exact ⟨_, _, rfl, fun hNo => nomatch hNo⟩
      | string hOpen hChars =>
          exact ⟨_, _, rfl, fun hNo => nomatch hNo⟩
      | emptyArray hOpen hClose =>
          exact ⟨_, _, rfl, fun hNo => nomatch hNo⟩
      | array hOpen hItems =>
          exact ⟨_, _, rfl, fun hNo => nomatch hNo⟩
      | object hObject => cases hOther

theorem isNumber_ne_nil
    {literal : Bytes}
    (hNumber : IsNumber literal) :
    literal ≠ [] := by
  rcases hNumber with
    ⟨sign, whole, fraction, exponent, rfl, _, hWhole, _⟩
  intro hNil
  simp only [List.append_eq_nil_iff] at hNil
  rcases hWhole with hZero | ⟨d, rest, hSome, _⟩
  · rw [hZero] at hNil
    exact nomatch hNil.1.1.2
  · rw [hSome] at hNil
    exact nomatch hNil.1.1.2

/- A whole number behind a key is read as it is. -/
theorem parse_wholeNumber
    {json literal t r : Bytes}
    (hSuffix : t <:+ json)
    (hText : t = literal ++ r)
    (hSome : literal ≠ [])
    (hDigits : ∀ b ∈ literal, IsDigit b)
    (hRange : digitsValue 10 literal < 2 ^ 32)
    (hClosed : IsClosed r) :
    parseUnsignedInteger32Value json
        ⟨.primitive, place json.length t,
          place json.length r⟩ =
      some (UInt32.ofNat (digitsValue 10 literal)) := by
  subst hText
  have hScan :=
    sscanfUnsigned_digits (by decide) hSome hDigits hRange
      (fun _ _ hEq => hClosed.head hEq)
  have hPlus : (literal ++ r).head? ≠ some 45 := by
    cases literal with
    | nil => exact absurd rfl hSome
    | cons d ds =>
        intro hHead
        have hDigit := hDigits d (by simp)
        simp only [List.cons_append, List.head?_cons,
          Option.some.injEq] at hHead
        subst hHead
        exact absurd hDigit (by decide)
  unfold parseUnsignedInteger32Value parseUnsigned
  simp only [JsmnTok.textFrom, drop_place hSuffix,
    ne_eq, not_true_eq_false, if_false, hPlus, hScan,
    Option.map_some]

/- The member with the version is found and read. -/
theorem MemberAt.found
    {json s r : Bytes}
    {m : Member}
    {v : UInt32}
    (hMember : MemberAt json.length m s r)
    (hSuffix : s <:+ json)
    (hClosed : IsClosed r)
    (hVersion : m.version json = some v) :
    jsoneq json m.key (ascii "version") = true ∧
      ∃ tok, m.inside = [tok] ∧
        parseUnsignedInteger32Value json tok = some v := by
  cases hMember with
  | mk hOpen hKey hColon hValue =>
  rename_i name value t₁ t₂ t₃ ts
  have hText : t₁ <:+ json :=
    (suffix_of_skip hOpen).trans hSuffix
  have hBehind : t₃ <:+ json :=
    (suffix_of_skip hColon).trans
      (((List.suffix_cons 34 t₂).trans
        (Chars.suffix hKey)).trans hText)
  unfold Member.version at hVersion
  split at hVersion
  · rename_i hIs
    refine ⟨jsoneq_of_is hText (Chars.suffix hKey) hIs, ?_⟩
    cases value with
    | number literal =>
        simp only [wholeNumber] at hVersion
        split at hVersion
        · rename_i hWhole
          cases hVersion
          cases hValue with
          | primitive hReads hKind =>
              cases hReads with
              | number hNumber hSkip =>
              refine ⟨_, rfl, ?_⟩
              exact
                parse_wholeNumber
                  ((skip_suffix t₃).trans hBehind) hSkip
                  (isNumber_ne_nil hNumber) hWhole.1
                  hWhole.2 hClosed
        · cases hVersion
    | null => cases hVersion
    | bool b => cases hVersion
    | string cs => cases hVersion
    | array vs => cases hVersion
    | object ms => cases hVersion
  · cases hVersion

/- An entry of the array that the text has written. -/
theorem tokenAt_append
    {ts old : List JsmnTok}
    {i : Nat}
    {tok : JsmnTok}
    (hToken : ts[i]? = some tok) :
    tokenAt (ts ++ old) i = tok := by
  have hLess : i < ts.length :=
    (List.getElem?_eq_some_iff.mp hToken).1
  unfold tokenAt
  rw [List.getD_eq_getElem?_getD,
    List.getElem?_append_left hLess, hToken, Option.getD_some]

theorem getElem?_members
    {first tok : JsmnTok}
    {before : List JsmnTok}
    (after : List JsmnTok) :
    (first :: (before ++ tok :: after))[
        1 + before.length]? = some tok := by
  rw [Nat.add_comm, List.getElem?_cons_succ,
    List.getElem?_append_right (Nat.le_refl _), Nat.sub_self,
    List.getElem?_cons_zero]

/- One round of the search. -/
def search
    (json : Bytes)
    (tokens : List JsmnTok)
    (i : Nat) : Option UInt32 :=
  if jsoneq json (tokenAt tokens i) (ascii "version") then
    parseUnsignedInteger32Value json (tokenAt tokens (i + 1))
  else none

theorem extractVersionNumber_eq
    (json : Bytes)
    (tokens : List JsmnTok)
    (tokenCount : Nat) :
    extractVersionNumber json tokens tokenCount =
      (List.range' 1 (tokenCount - 1)).findSome?
        (search json tokens) :=
  rfl

/- Nothing is found in front of the version. -/
theorem search_before
    {json : Bytes}
    {ms : List Member}
    {ts : List JsmnTok}
    (old : List JsmnTok)
    (hFree : Unobstructed json ms ts)
    {i : Nat}
    (hLess :
      i < 1 + ((beforeVersion json ms).flatMap
        Member.tokens).length)
    (hInside : i < ts.length) :
    search json (ts ++ old) i = none := by
  have hHere := List.getElem?_eq_getElem hInside
  unfold search
  rw [tokenAt_append hHere]
  split
  · rename_i hEq
    rcases hFree i hLess _ hHere (is_of_jsoneq hEq) with
      ⟨next, hNext, hParse⟩
    rw [tokenAt_append hNext, hParse]
  · rfl

/- The version is found at its member. -/
theorem search_version
    {json : Bytes}
    {tok : JsmnTok}
    {m : Member}
    {v : UInt32}
    (first : JsmnTok)
    (before after old : List JsmnTok)
    (hKey : jsoneq json m.key (ascii "version") = true)
    (hInside : m.inside = [tok])
    (hParse :
      parseUnsignedInteger32Value json tok = some v) :
    search json
        (first :: (before ++ (m.tokens ++ after)) ++ old)
        (1 + before.length) = some v := by
  have hTokens :
      m.tokens ++ after = m.key :: tok :: after := by
    unfold Member.tokens
    rw [hInside]
    rfl
  unfold search
  rw [hTokens]
  have hNext :
      (first :: (before ++ m.key :: tok :: after))[
        1 + before.length + 1]? = some tok := by
    rw [List.getElem?_cons_succ,
      List.getElem?_append_right (by omega),
      Nat.add_sub_cancel]
    rfl
  rw [tokenAt_append (getElem?_members _), hKey, if_pos rfl,
    tokenAt_append hNext, hParse]

/- The members from the one with the version on. -/
theorem beforeVersion_append
    (json : Bytes)
    (ms : List Member) :
    ∃ after,
      ms = beforeVersion json ms ++ after ∧
        docVersion json ms = docVersion json after ∧
        (after = [] ∨
          ∃ m rest v,
            after = m :: rest ∧ m ∈ ms ∧
              m.version json = some v) := by
  induction ms with
  | nil => exact ⟨[], rfl, rfl, Or.inl rfl⟩
  | cons m ms ih =>
      cases hVersion : m.version json with
      | some v =>
          refine
            ⟨m :: ms, ?_, rfl,
              Or.inr ⟨m, ms, v, rfl, by simp, hVersion⟩⟩
          unfold beforeVersion
          rw [List.takeWhile_cons_of_neg (by simp [hVersion]),
            List.nil_append]
      | none =>
          rcases ih with ⟨after, hSplit, hSame, hCases⟩
          refine ⟨after, ?_, ?_, ?_⟩
          · unfold beforeVersion at hSplit ⊢
            rw [List.takeWhile_cons_of_pos
              (by simp [hVersion]), List.cons_append,
              ← hSplit]
          · rw [← hSame]
            unfold docVersion
            rw [List.findSome?_cons, hVersion]
          · rcases hCases with hNil | ⟨m', rest, v, hCases⟩
            · exact Or.inl hNil
            · rcases hCases with ⟨hAfter, hMem, hSome⟩
              exact
                Or.inr
                  ⟨m', rest, v, hAfter,
                    List.mem_cons_of_mem m hMem, hSome⟩

/- The search finds the version of the document. -/
theorem extractVersionNumber_document
    {json : Bytes}
    {ms : List Member}
    {ts : List JsmnTok}
    (old : List JsmnTok)
    (hDocument : IsDocument json ms ts)
    (hObject : (tokenAt ts 0).type = .object)
    (hFree : Unobstructed json ms ts) :
    extractVersionNumber json (ts ++ old) ts.length =
      docVersion json ms := by
  have hEach := hDocument.each
  rcases hDocument.tokens with ⟨first, rest, rfl, hRest⟩
  obtain rfl := hRest hObject
  rcases beforeVersion_append json ms with
    ⟨after, hSplit, hSame, hCases⟩
  obtain ⟨before, hBefore⟩ :
      ∃ before,
        before =
          (beforeVersion json ms).flatMap Member.tokens :=
    ⟨_, rfl⟩
  have hTokens :
      ms.flatMap Member.tokens =
        before ++ after.flatMap Member.tokens := by
    rw [hBefore, ← List.flatMap_append, ← hSplit]
  have hCount :
      (first :: ms.flatMap Member.tokens).length - 1 =
        before.length +
          (after.flatMap Member.tokens).length := by
    rw [hTokens, List.length_cons, List.length_append,
      Nat.add_sub_cancel]
  have hFront :
      ((List.range' 1 before.length).findSome?
        (search json
          (first :: ms.flatMap Member.tokens ++ old))) =
        none := by
    rw [List.findSome?_eq_none_iff]
    intro i hMem
    have hLess := (List.mem_range'_1.mp hMem).2
    apply search_before old hFree
    · rw [← hBefore]
      exact hLess
    · rw [hTokens, List.length_cons, List.length_append]
      omega
  rw [extractVersionNumber_eq, hCount,
    ← List.range'_append_1, List.findSome?_append, hFront,
    Option.none_or, hSame]
  rcases hCases with rfl | ⟨m, rest, v, rfl, hMem, hVersion⟩
  · rfl
  · rcases hEach m hMem with ⟨s, r, hMember, hSuffix, hClosed⟩
    rcases hMember.found hSuffix hClosed hVersion with
      ⟨hKey, tok, hInside, hParse⟩
    have hHere :=
      search_version first before
        (rest.flatMap Member.tokens) old hKey hInside hParse
    have hLong :
        ((m :: rest).flatMap Member.tokens).length =
          (rest.flatMap Member.tokens).length +
            m.inside.length + 1 := by
      rw [List.flatMap_cons, List.length_append,
        Member.tokens, List.length_cons]
      omega
    rw [hLong, List.range'_succ, List.findSome?_cons,
      hTokens, List.flatMap_cons, hHere]
    unfold docVersion
    rw [List.findSome?_cons, hVersion]

/- A word that occurs as a key only stands in no way. -/
theorem VersionOnTop.unobstructed
    {json : Bytes}
    {ms : List Member}
    {ts : List JsmnTok}
    (hDocument : IsDocument json ms ts)
    (hObject : (tokenAt ts 0).type = .object)
    (hTop : VersionOnTop json ms) :
    Unobstructed json ms ts := by
  rcases hDocument.tokens with ⟨first, rest, rfl, hRest⟩
  have hFirst : first.type = .object := hObject
  obtain rfl := hRest hFirst
  intro i hLess tok hToken hIs
  exfalso
  cases i with
  | zero =>
      cases hToken
      rw [hIs.1] at hFirst
      cases hFirst
  | succ i =>
      rcases beforeVersion_append json ms with
        ⟨after, hSplit, _⟩
      have hShort :
          i < ((beforeVersion json ms).flatMap
            Member.tokens).length := by
        omega
      rw [List.getElem?_cons_succ] at hToken
      rw [hSplit, List.flatMap_append,
        List.getElem?_append_left hShort] at hToken
      have hTok := List.mem_of_getElem? hToken
      rcases List.mem_flatMap.mp hTok with ⟨m, hMem, hTok⟩
      have hNone : (m.version json).isNone = true := by
        unfold beforeVersion at hMem
        have hImp := List.mem_takeWhile_imp hMem
        exact hImp
      have hMem : m ∈ ms := (List.takeWhile_sublist _).mem hMem
      rcases List.mem_cons.mp hTok with rfl | hTok
      · have hSome := hTop.keys m hMem hIs
        unfold Member.version at hNone
        rw [if_pos hIs] at hNone
        cases hValue : wholeNumber m.value with
        | none => simp [hValue] at hSome
        | some v => simp [hValue] at hNone
      · exact hTop.inside m hMem tok hTok hIs

end Shadow

end TrustOnboard
