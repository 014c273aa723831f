import TrustOnboard.Shadow.Documents

/-
  Where the tokens of a text lie, and what a search for the
  first occurrence of a word finds among them.

  The tokens of a value lie inside its text, and they are
  listed in the order in which they begin.  So no two tokens
  begin at the same place, and a token is known by its place.

  Key definitions include:
    * `Lies`
    * `firstMatch`
    * `occurrence`

  Key results include:
    * `Tokens.lies`
    * `IsDocument.lies`
    * `jsoneq_iff`
    * `firstMatch_eq`
-/

------------------------------------------------------------
-- Tokens Inside A Text
------------------------------------------------------------

namespace TrustOnboard

namespace Shadow

open Json

/-
  Tokens between two places, in the order in which they
  begin.
-/
structure Lies
    (lo hi : Int)
    (ts : List JsmnTok) : Prop where
  from_low : ∀ tok ∈ ts, lo ≤ tok.start
  below_high : ∀ tok ∈ ts, tok.start < hi
  forward : ∀ tok ∈ ts, tok.start ≤ tok.stop
  to_high : ∀ tok ∈ ts, tok.stop ≤ hi
  sorted : ts.Pairwise (fun a b => a.start < b.start)

namespace Lies

variable {lo mid hi : Int}
variable {tok : JsmnTok}
variable {ts ts' : List JsmnTok}

/- A token in front of those behind its beginning. -/
theorem cons
    (hLow : lo ≤ tok.start)
    (hBegins : tok.start < mid)
    (hForward : tok.start ≤ tok.stop)
    (hHigh : tok.stop ≤ hi)
    (hRest : Lies mid hi ts)
    (hMid : mid ≤ hi) :
    Lies lo hi (tok :: ts) where
  from_low := by
    intro other hMem
    rcases List.mem_cons.mp hMem with rfl | hMem
    · exact hLow
    · have hThere := hRest.from_low other hMem
      omega
  below_high := by
    intro other hMem
    rcases List.mem_cons.mp hMem with rfl | hMem
    · omega
    · exact hRest.below_high other hMem
  forward := by
    intro other hMem
    rcases List.mem_cons.mp hMem with rfl | hMem
    · exact hForward
    · exact hRest.forward other hMem
  to_high := by
    intro other hMem
    rcases List.mem_cons.mp hMem with rfl | hMem
    · exact hHigh
    · exact hRest.to_high other hMem
  sorted := by
    refine List.pairwise_cons.mpr ⟨?_, hRest.sorted⟩
    intro other hMem
    have hThere := hRest.from_low other hMem
    omega

theorem nil :
    Lies lo hi [] where
  from_low := by simp
  below_high := by simp
  forward := by simp
  to_high := by simp
  sorted := List.Pairwise.nil

theorem append
    (hFirst : Lies lo mid ts)
    (hSecond : Lies mid hi ts')
    (hLow : lo ≤ mid)
    (hHigh : mid ≤ hi) :
    Lies lo hi (ts ++ ts') where
  from_low := by
    intro tok hMem
    rcases List.mem_append.mp hMem with hMem | hMem
    · exact hFirst.from_low tok hMem
    · have hThere := hSecond.from_low tok hMem
      omega
  below_high := by
    intro tok hMem
    rcases List.mem_append.mp hMem with hMem | hMem
    · have hHere := hFirst.below_high tok hMem
      omega
    · exact hSecond.below_high tok hMem
  forward := by
    intro tok hMem
    rcases List.mem_append.mp hMem with hMem | hMem
    · exact hFirst.forward tok hMem
    · exact hSecond.forward tok hMem
  to_high := by
    intro tok hMem
    rcases List.mem_append.mp hMem with hMem | hMem
    · have hHere := hFirst.to_high tok hMem
      omega
    · exact hSecond.to_high tok hMem
  sorted := by
    refine
      List.pairwise_append.mpr
        ⟨hFirst.sorted, hSecond.sorted, ?_⟩
    intro a hA b hB
    have hHere := hFirst.below_high a hA
    have hThere := hSecond.from_low b hB
    omega

/- Wider bounds. -/
theorem mono
    {lo' hi' : Int}
    (hLies : Lies lo hi ts)
    (hLow : lo' ≤ lo)
    (hHigh : hi ≤ hi') :
    Lies lo' hi' ts where
  from_low := fun tok hMem =>
    Int.le_trans hLow (hLies.from_low tok hMem)
  below_high := fun tok hMem =>
    Int.lt_of_lt_of_le (hLies.below_high tok hMem) hHigh
  forward := hLies.forward
  to_high := fun tok hMem =>
    Int.le_trans (hLies.to_high tok hMem) hHigh
  sorted := hLies.sorted

end Lies

/- Places are in the order of the rests behind them. -/
theorem place_le_place
    {n : Nat}
    {s t : Bytes}
    (hSuffix : t <:+ s) :
    place n s ≤ place n t := by
  have hLength := hSuffix.length_le
  unfold place
  omega

theorem place_lt_place
    {n : Nat}
    {s t : Bytes}
    {b : UInt8}
    (hSuffix : b :: t <:+ s)
    (hInside : s.length ≤ n) :
    place n s < place n t := by
  have hLength := hSuffix.length_le
  rw [List.length_cons] at hLength
  unfold place
  omega

theorem suffix_of_skip_cons
    {s t : Bytes}
    {b : UInt8}
    (hSkip : skip s = b :: t) :
    b :: t <:+ s := by
  rw [← hSkip]
  exact skip_suffix s

/- A value without a structure is spelled with something. -/
theorem place_lt_of_reads
    {n : Nat}
    {v : Value}
    {s r : Bytes}
    (hReads : Reads v s r)
    (hKind : isPrimitive v = true)
    (hInside : s.length ≤ n) :
    place n (skip s) < place n r := by
  have hShort := (skip_suffix s).length_le
  have hText :
      ∀ {word : Bytes}, word ≠ [] → skip s = word ++ r →
        place n (skip s) < place n r := by
    intro word hWord hSkip
    have hLength := congrArg List.length hSkip
    have hPos := List.length_pos_iff.mpr hWord
    rw [List.length_append] at hLength
    unfold place
    omega
  cases hReads with
  | null hSkip => exact hText (by decide) hSkip
  | @bool b s r hSkip =>
      refine hText ?_ hSkip
      cases b <;> decide
  | number hNumber hSkip =>
      exact hText (isNumber_ne_nil hNumber) hSkip
  | string _ _ => cases hKind
  | emptyArray _ _ => cases hKind
  | array _ _ => cases hKind
  | emptyObject _ _ => cases hKind
  | object _ _ => cases hKind

end Shadow

end TrustOnboard

------------------------------------------------------------
-- Documents
------------------------------------------------------------

namespace TrustOnboard

namespace Shadow

open Json

/- Inside a text that begins with some bracket. -/
theorem Lies.bracketed
    {n : Nat}
    {s t r : Bytes}
    {b : UInt8}
    {type : JsmnType}
    {ts : List JsmnTok}
    (hOpen : skip s = b :: t)
    (hInside : s.length ≤ n)
    (hRest : r <:+ t)
    (hLies : Lies (place n t) (place n r) ts) :
    Lies (place n s) (place n r)
      (⟨type, place n (b :: t), place n r⟩ :: ts) := by
  have hText := suffix_of_skip_cons hOpen
  have hWhole := hText.length_le
  have hBegins : place n (b :: t) < place n t :=
    place_lt_place (List.suffix_refl _) (by omega)
  have hEnds : place n t ≤ place n r := place_le_place hRest
  refine
    Lies.cons (place_le_place hText) hBegins ?_
      (Int.le_refl _) hLies hEnds
  show place n (b :: t) ≤ place n r
  omega

mutual

/- The tokens of a value lie inside its text. -/
theorem Tokens.lies
    {n : Nat}
    {v : Value}
    {s r : Bytes}
    {ts : List JsmnTok} :
    Tokens n v s r ts →
      s.length ≤ n → Lies (place n s) (place n r) ts
  | .primitive hReads hKind => fun hInside =>
      Lies.cons (place_le_place (skip_suffix s))
        (place_lt_of_reads hReads hKind hInside)
        (Int.le_of_lt (place_lt_of_reads hReads hKind hInside))
        (Int.le_refl _) Lies.nil (Int.le_refl _)
  | .string hOpen hChars => fun hInside => by
      have hBegin := suffix_of_skip hOpen
      have hEnd := Chars.suffix hChars
      have hShort := (hEnd.trans hBegin).length_le
      have hStop := place_le_place (n := n) hEnd
      have hHigh :=
        place_lt_place (n := n) (List.suffix_refl (34 :: r))
          (by omega)
      exact
        Lies.cons (place_le_place hBegin)
          (Int.lt_of_le_of_lt hStop hHigh) hStop
          (Int.le_of_lt hHigh) Lies.nil (Int.le_refl _)
  | .emptyArray hOpen hClose => fun hInside =>
      Lies.bracketed hOpen hInside (suffix_of_skip hClose)
        Lies.nil
  | .array hOpen hItems => fun hInside => by
      have hShort := (suffix_of_skip hOpen).length_le
      exact
        Lies.bracketed hOpen hInside (ItemTokens.suffix hItems)
          (ItemTokens.lies hItems (by omega))
  | .object hObject => fun hInside =>
      ObjectTokens.lies hObject hInside

theorem ItemTokens.lies
    {n : Nat}
    {vs : List Value}
    {s r : Bytes}
    {ts : List JsmnTok} :
    ItemTokens n vs s r ts →
      s.length ≤ n → Lies (place n s) (place n r) ts
  | .last hItem hClose => fun hInside =>
      (Tokens.lies hItem hInside).mono (Int.le_refl _)
        (place_le_place (suffix_of_skip hClose))
  | .more hItem hComma hRest => fun hInside => by
      have hFirst := Tokens.suffix hItem
      have hNext := suffix_of_skip hComma
      have hShort := (hNext.trans hFirst).length_le
      exact
        ((Tokens.lies hItem hInside).mono (Int.le_refl _)
          (place_le_place hNext)).append
            (ItemTokens.lies hRest (by omega))
            (place_le_place (hNext.trans hFirst))
            (place_le_place (ItemTokens.suffix hRest))

theorem ObjectTokens.lies
    {n : Nat}
    {ms : List Member}
    {s r : Bytes}
    {ts : List JsmnTok} :
    ObjectTokens n ms s r ts →
      s.length ≤ n → Lies (place n s) (place n r) ts
  | .empty hOpen hClose => fun hInside =>
      Lies.bracketed hOpen hInside (suffix_of_skip hClose)
        Lies.nil
  | .full hOpen hMembers => fun hInside => by
      have hShort := (suffix_of_skip hOpen).length_le
      exact
        Lies.bracketed hOpen hInside
          (MemberTokens.suffix hMembers)
          (MemberTokens.lies hMembers (by omega))

theorem MemberTokens.lies
    {n : Nat}
    {ms : List Member}
    {s r : Bytes} :
    MemberTokens n ms s r →
      s.length ≤ n →
        Lies (place n s) (place n r)
          (ms.flatMap Member.tokens)
  | .last hMember hClose => fun hInside => by
      rw [List.flatMap_singleton]
      exact
        (MemberAt.lies hMember hInside).mono (Int.le_refl _)
          (place_le_place (suffix_of_skip hClose))
  | .more hMember hComma hRest => fun hInside => by
      have hFirst := MemberAt.suffix hMember
      have hNext := suffix_of_skip hComma
      have hShort := (hNext.trans hFirst).length_le
      rw [List.flatMap_cons]
      exact
        ((MemberAt.lies hMember hInside).mono (Int.le_refl _)
          (place_le_place hNext)).append
            (MemberTokens.lies hRest (by omega))
            (place_le_place (hNext.trans hFirst))
            (place_le_place (MemberTokens.suffix hRest))

theorem MemberAt.lies
    {n : Nat}
    {m : Member}
    {s r : Bytes} :
    MemberAt n m s r →
      s.length ≤ n → Lies (place n s) (place n r) m.tokens
  | .mk hOpen hKey hColon hValue => fun hInside => by
      have hBegin := suffix_of_skip hOpen
      have hEnd := Chars.suffix hKey
      have hTail := suffix_of_skip hColon
      have hKeyShort := (hEnd.trans hBegin).length_le
      have hTailShort := hTail.length_le
      have hStop := place_le_place (n := n) hEnd
      have hClose :=
        place_lt_place (n := n) (List.suffix_refl (34 :: _))
          (Nat.le_trans hKeyShort hInside)
      rw [List.length_cons] at hKeyShort
      have hColonPlace := place_le_place (n := n) hTail
      have hHigh :=
        place_le_place (n := n) (Tokens.suffix hValue)
      exact
        Lies.cons (place_le_place hBegin)
          (Int.lt_of_le_of_lt hStop
            (Int.lt_of_lt_of_le hClose hColonPlace))
          hStop
          (Int.le_trans (Int.le_of_lt hClose)
            (Int.le_trans hColonPlace hHigh))
          (Tokens.lies hValue (by omega)) hHigh

end

/- The tokens of a whole text. -/
theorem IsDocument.lies
    {json : Bytes}
    {ms : List Member}
    {ts : List JsmnTok}
    (hDocument : IsDocument json ms ts) :
    Lies 0 json.length ts := by
  have hLow : (0 : Int) ≤ place json.length json := by
    unfold place
    omega
  have hHigh :
      ∀ r : Bytes, place json.length r ≤ json.length := by
    intro r
    unfold place
    omega
  cases hDocument with
  | object hObject _ =>
      exact
        (ObjectTokens.lies hObject (Nat.le_refl _)).mono hLow
          (hHigh _)
  | other hTokens _ _ =>
      exact
        (Tokens.lies hTokens (Nat.le_refl _)).mono hLow
          (hHigh _)

end Shadow

end TrustOnboard

------------------------------------------------------------
-- The First Occurrence
------------------------------------------------------------

namespace TrustOnboard

namespace Shadow

open Json

variable {json word : Bytes}

/- The index of the first match a search comes to. -/
def firstMatch
    (json : Bytes)
    (tokens : List JsmnTok)
    (tokenCount : Nat)
    (word : Bytes) : Option Nat :=
  (searched tokenCount).find? (fun i =>
    jsoneq json (tokenAt tokens i) word)

/- A search for what stands behind the first match. -/
theorem findSome?_ite
    {α β : Type}
    (p : α → Bool)
    (f : α → β)
    (xs : List α) :
    xs.findSome? (fun x => if p x then some (f x) else none) =
      (xs.find? p).map f := by
  induction xs with
  | nil => rfl
  | cons x xs ih =>
      rw [List.findSome?_cons, List.find?_cons]
      cases hHere : p x with
      | true => rfl
      | false =>
          rw [if_neg (by decide)]
          exact ih

/- A token inside a text is compared with what it spells. -/
theorem jsoneq_iff
    (word : Bytes)
    {lo : Int}
    {tok : JsmnTok}
    {ts : List JsmnTok}
    (hLies : Lies lo json.length ts)
    (hLow : 0 ≤ lo)
    (hMem : tok ∈ ts) :
    jsoneq json tok word = true ↔ tok.Is json word := by
  refine ⟨is_of_jsoneq, ?_⟩
  intro hIs
  have hStart := hLies.from_low tok hMem
  have hForward := hLies.forward tok hMem
  have hHigh := hLies.to_high tok hMem
  have hText := hIs.2
  unfold JsmnTok.text at hText
  have hLength : (word.length : Int) = tok.stop - tok.start := by
    rw [← hText, List.length_take]
    unfold JsmnTok.textFrom
    rw [List.length_drop]
    omega
  unfold jsoneq
  simp only [Bool.and_eq_true, decide_eq_true_eq]
  refine ⟨hIs.1, hLength, ?_⟩
  rw [← hLength, Int.toNat_natCast] at hText
  exact hText

/- A search by indices is a search through the list. -/
theorem find?_range'
    {α : Type}
    {p : Nat → Bool}
    {q : α → Bool}
    {xs : List α}
    {k : Nat}
    (hSame : ∀ i x, xs[i]? = some x → p (k + i) = q x) :
    (List.range' k xs.length).find? p =
      (xs.findIdx? q).map (fun i => k + i) := by
  induction xs generalizing k with
  | nil => rfl
  | cons x xs ih =>
      have hHere : p k = q x := hSame 0 x rfl
      have hRest :
          ∀ i y, xs[i]? = some y → p (k + 1 + i) = q y := by
        intro i y hGet
        rw [Nat.add_assoc, Nat.add_comm 1 i]
        exact hSame (i + 1) y hGet
      rw [List.length_cons, List.range'_succ,
        List.find?_cons, List.findIdx?_cons, hHere, ih hRest]
      cases q x with
      | true => rfl
      | false =>
          rw [if_neg (by decide), Option.map_map]
          dsimp only
          congr 1
          funext i
          show k + 1 + i = k + (i + 1)
          omega

/-
  The first token behind the outermost one that spells the
  word, be it a key or a value.
-/
def occurrence
    (json : Bytes)
    (ts : List JsmnTok)
    (word : Bytes) : Option Nat :=
  (ts.tail.findIdx? (fun tok =>
    decide (tok.Is json word))).map (fun i => 1 + i)

/- The search finds the first occurrence of the word. -/
theorem firstMatch_eq
    (word : Bytes)
    {ts : List JsmnTok}
    (old : List JsmnTok)
    (hLies : Lies 0 json.length ts) :
    firstMatch json (ts ++ old) ts.length word =
      occurrence json ts word := by
  unfold firstMatch searched occurrence
  rw [← List.length_tail]
  apply find?_range'
  intro i tok hGet
  have hHere : ts[1 + i]? = some tok := by
    rw [Nat.add_comm, ← List.getElem?_tail]
    exact hGet
  rw [tokenAt_append hHere]
  have hIff :=
    jsoneq_iff word hLies (Int.le_refl 0)
      (List.mem_of_getElem? hHere)
  rw [Bool.eq_iff_iff, decide_eq_true_iff]
  exact hIff

/- The word occurs nowhere behind the first token. -/
theorem occurrence_eq_none
    {ts : List JsmnTok}
    (hNone : occurrence json ts word = none) :
    ∀ tok ∈ ts.tail, ¬ tok.Is json word := by
  unfold occurrence at hNone
  rw [Option.map_eq_none_iff] at hNone
  intro tok hMem
  have hNot := List.findIdx?_eq_none_iff.mp hNone tok hMem
  exact of_decide_eq_false hNot

end Shadow

end TrustOnboard
