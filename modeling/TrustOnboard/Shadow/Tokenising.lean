import TrustOnboard.Shadow.Jsmn
import TrustOnboard.Shadow.Placement

/-
  The parser that comes with the client on whole documents.

  A text that spells a JSON value is tokenised in the standard
  way: its tokens are listed in the order in which they begin,
  or the parser runs out of room.  The parser knows nothing of
  the grammar, so the proof follows a derivation of the text
  and keeps account of the list of tokens alone.

  Key definitions include:
    * `bareFrom`
    * `Advances`

  Key results include:
    * `Tokens.advances`
    * `jsmnParse_document`
    * `standardParser_jsmn`
-/

------------------------------------------------------------
-- Behind A Value
------------------------------------------------------------

namespace TrustOnboard

namespace Shadow

open Json

/- What can stand behind a value. -/
def Ends (r : Bytes) : Prop :=
  ∀ b rest, skip r = b :: rest → b = 44 ∨ b = 93 ∨ b = 125

/- The bytes numbers are spelled with. -/
def isNumberByte (b : UInt8) : Bool :=
  decide (IsDigit b) || b == 43 || b == 45 || b == 46 ||
    b == 69 || b == 101

/- A number is spelled with such bytes. -/
theorem isNumberByte_of_isNumber
    {literal : Bytes}
    (hNumber : IsNumber literal) :
    ∀ b ∈ literal, isNumberByte b = true := by
  have hDigit : ∀ b, IsDigit b → isNumberByte b = true := by
    intro b hb
    simp [isNumberByte, hb]
  rcases hNumber with
    ⟨sign, whole, fraction, exponent, rfl, hSign, hWhole,
      hFraction, hExponent⟩
  intro b hb
  simp only [List.mem_append] at hb
  rcases hb with ((hMem | hMem) | hMem) | hMem
  · rcases hSign with rfl | rfl
    · cases hMem
    · rw [List.mem_singleton.mp hMem]
      decide
  · rcases hWhole with rfl | ⟨d, ds, rfl, hLow, hHigh, hAll⟩
    · rw [List.mem_singleton.mp hMem]
      decide
    · rcases List.mem_cons.mp hMem with rfl | hMem
      · exact hDigit b ⟨UInt8.le_trans (by decide) hLow, hHigh⟩
      · exact hDigit b (hAll b hMem)
  · rcases hFraction with rfl | ⟨ds, rfl, hDigits⟩
    · cases hMem
    · rcases List.mem_cons.mp hMem with rfl | hMem
      · decide
      · exact hDigit b (hDigits.2 b hMem)
  · rcases hExponent with
      rfl | ⟨e, sign', ds, rfl, he, hs, hDigits⟩
    · cases hMem
    · rcases List.mem_cons.mp hMem with rfl | hMem
      · rcases he with rfl | rfl <;> decide
      rcases List.mem_append.mp hMem with hMem | hMem
      · rcases hs with rfl | rfl | rfl
        · cases hMem
        · rw [List.mem_singleton.mp hMem]
          decide
        · rw [List.mem_singleton.mp hMem]
          decide
      · exact hDigit b (hDigits.2 b hMem)

theorem ends_of_skip
    {s t : Bytes}
    {b : UInt8}
    (hText : skip s = b :: t)
    (hByte : b = 44 ∨ b = 93 ∨ b = 125) :
    Ends s := by
  intro b' rest hText'
  rw [hText] at hText'
  cases hText'
  exact hByte

theorem ends_of_blank
    {s : Bytes}
    (hEnd : skip s = []) :
    Ends s := by
  intro b rest hText
  rw [hEnd] at hText
  cases hText

end Shadow

end TrustOnboard

------------------------------------------------------------
-- Strings And Primitives
------------------------------------------------------------

namespace TrustOnboard

namespace Shadow

open Json

variable {cs s r : Bytes}

/- A hexadecimal digit of the grammar is one of the parser. -/
theorem isHexChar_of_hexDigit
    {b : UInt8}
    {n : Nat}
    (hHex : Json.hexDigit b = some n) :
    isHexChar b = true := by
  unfold Json.hexDigit at hHex
  unfold isHexChar
  split at hHex
  · rename_i hDigit
    simp [hDigit]
  split at hHex
  · rename_i hLower
    simp [hLower]
  split at hHex
  · rename_i hUpper
    simp [hUpper]
  · cases hHex

/- One character that is passed over. -/
theorem behind_goesOn
    {mode mode' : StringMode}
    {c : UInt8}
    (hRead : mode.read c = .goesOn mode')
    (rest : Bytes) :
    mode.behind (c :: rest) = mode'.behind rest := by
  rw [StringMode.behind, hRead]

/- A digit of a `\u` escape. -/
theorem read_digits
    {c : UInt8}
    {n : Nat}
    (hHex : Json.hexDigit c = some n) :
    (∀ left,
        (StringMode.digits (left + 1)).read c =
          .goesOn (.digits left)) ∧
      (StringMode.digits 0).read c = .goesOn .text := by
  have hChar := isHexChar_of_hexDigit hHex
  exact ⟨fun _ => if_pos hChar, if_pos hChar⟩

/- The scanner takes the four digits of such an escape. -/
theorem behind_hexQuad
    {a b c d : UInt8}
    {n : Nat}
    (hHex : hexQuad a b c d = some n) :
    StringMode.text.behind [92, 117, a, b, c, d] =
      some .text := by
  unfold hexQuad at hHex
  simp only [Option.bind_eq_bind, Option.bind_eq_some_iff]
    at hHex
  rcases hHex with ⟨_, hA, _, hB, _, hC, _, hD, _⟩
  have hSlash : StringMode.text.read 92 = .goesOn .escape :=
    rfl
  have hU : StringMode.escape.read 117 = .goesOn (.digits 3) :=
    rfl
  rw [behind_goesOn hSlash, behind_goesOn hU,
    behind_goesOn ((read_digits hA).1 2),
    behind_goesOn ((read_digits hB).1 1),
    behind_goesOn ((read_digits hC).1 0),
    behind_goesOn (read_digits hD).2, StringMode.behind]

/- An escape of two characters is one of the parser. -/
theorem isEscapeChar_of_escaped
    {e d : UInt8}
    (hEscaped : escaped e = some d) :
    isEscapeChar e = true := by
  unfold escaped at hEscaped
  unfold isEscapeChar
  split at hEscaped
  · rename_i hSelf
    rcases hSelf with rfl | rfl | rfl <;> rfl
  split at hEscaped
  · rename_i hHere
    rw [hHere]
    rfl
  split at hEscaped
  · rename_i hHere
    rw [hHere]
    rfl
  split at hEscaped
  · rename_i hHere
    rw [hHere]
    rfl
  split at hEscaped
  · rename_i hHere
    rw [hHere]
    rfl
  split at hEscaped
  · rename_i hHere
    rw [hHere]
    rfl
  · cases hEscaped

theorem behind_escaped
    {e d : UInt8}
    (hEscaped : escaped e = some d) :
    StringMode.text.behind [92, e] = some .text := by
  have hSlash : StringMode.text.read 92 = .goesOn .escape :=
    rfl
  have hEscape : StringMode.escape.read e = .goesOn .text :=
    if_pos (isEscapeChar_of_escaped hEscaped)
  rw [behind_goesOn hSlash, behind_goesOn hEscape,
    StringMode.behind]

/- The source of the characters of a string is passed over. -/
theorem scannable_of_chars
    (hChars : Chars cs s r) :
    ∃ raw,
      s = raw ++ 34 :: r ∧
        StringMode.text.behind raw = some .text := by
  -- Along the reading: what a rule takes leaves the scanner
  -- between two characters.
  have hMore :
      ∀ {front raw : Bytes},
        StringMode.text.behind front = some .text →
          StringMode.text.behind raw = some .text →
            StringMode.text.behind (front ++ raw) =
              some .text := by
    intro front raw hFront hRaw
    rw [behind_append hFront, hRaw]
  induction hChars with
  | close r => exact ⟨[], rfl, rfl⟩
  | @plain b cs s r hPlain _ ih =>
      rcases ih with ⟨raw, rfl, hRaw⟩
      have hOne : StringMode.text.behind [b] = some .text :=
        behind_plain (by
          intro c hc
          rw [List.mem_singleton.mp hc]
          exact hPlain.2)
      exact ⟨[b] ++ raw, rfl, hMore hOne hRaw⟩
  | @escape e d cs s r hEscaped _ ih =>
      rcases ih with ⟨raw, rfl, hRaw⟩
      exact
        ⟨[92, e] ++ raw, rfl,
          hMore (behind_escaped hEscaped) hRaw⟩
  | @unicode a b c d n cs s r hHex _ _ ih =>
      rcases ih with ⟨raw, rfl, hRaw⟩
      exact
        ⟨[92, 117, a, b, c, d] ++ raw, rfl,
          hMore (behind_hexQuad hHex) hRaw⟩
  | @surrogates a b c d a' b' c' d' m n cs s r hHigh hLow _ _ _
      ih =>
      rcases ih with ⟨raw, rfl, hRaw⟩
      exact
        ⟨[92, 117, a, b, c, d] ++
            ([92, 117, a', b', c', d'] ++ raw), rfl,
          hMore (behind_hexQuad hHigh)
            (hMore (behind_hexQuad hLow) hRaw)⟩

/- So the scanner finds the end of a string. -/
theorem scanString_chars
    (hChars : Chars cs s r) :
    ∃ raw,
      s = raw ++ 34 :: r ∧
        scanString .text (raw ++ 34 :: r) 0 =
          .ok raw.length := by
  rcases scannable_of_chars hChars with ⟨raw, rfl, hRaw⟩
  refine ⟨raw, rfl, ?_⟩
  rw [scanString_behind hRaw, Nat.zero_add]
  rfl

/- The bytes of a value without a structure. -/
def isWordByte (b : UInt8) : Bool :=
  isNumberByte b ||
    [97, 101, 102, 108, 110, 114, 115, 116, 117].contains b

/- None of them ends a primitive or is out of range. -/
theorem word_byte
    {b : UInt8}
    (hWord : isWordByte b = true) :
    isPrimitiveEnd b = false ∧
      (b < 32 || 127 ≤ b) = false ∧
        b ∉ ([123, 91, 125, 93, 34, 9, 13, 10, 32, 58, 44] :
          Bytes) := by
  have hAll :
      ∀ n : Fin 256,
        isWordByte (UInt8.ofNat n) = true →
          isPrimitiveEnd (UInt8.ofNat n) = false ∧
            ((UInt8.ofNat n : UInt8) < 32 ||
              127 ≤ (UInt8.ofNat n : UInt8)) = false ∧
              UInt8.ofNat n ∉
                ([123, 91, 125, 93, 34, 9, 13, 10, 32, 58,
                  44] : Bytes) := by
    decide +kernel
  have hHere := hAll ⟨b.toNat, b.toNat_lt⟩
  rw [UInt8.ofNat_toNat] at hHere
  exact hHere hWord

/- The text of such a value. -/
theorem word_of_reads
    {v : Value}
    (hReads : Reads v s r)
    (hKind : isPrimitive v = true) :
    ∃ word,
      skip s = word ++ r ∧ word ≠ [] ∧
        ∀ b ∈ word, isWordByte b = true := by
  have hLiteral :
      ∀ {word : Bytes},
        (word.all isWordByte = true) →
          ∀ b ∈ word, isWordByte b = true := by
    intro word hAll
    exact List.all_eq_true.mp hAll
  cases hReads with
  | null hText =>
      exact ⟨_, hText, by decide, hLiteral (by decide)⟩
  | @bool b s r hText =>
      refine ⟨_, hText, ?_, ?_⟩
      · cases b <;> decide
      · cases b <;> exact hLiteral (by decide)
  | number hNumber hText =>
      refine ⟨_, hText, isNumber_ne_nil hNumber, ?_⟩
      intro b hb
      unfold isWordByte
      rw [isNumberByte_of_isNumber hNumber b hb, Bool.true_or]
  | string _ _ => cases hKind
  | emptyArray _ _ => cases hKind
  | array _ _ => cases hKind
  | emptyObject _ _ => cases hKind
  | object _ _ => cases hKind

/- A primitive ends where its value ends. -/
theorem scanPrimitive_word
    {word : Bytes}
    (hWord : ∀ b ∈ word, isWordByte b = true)
    (hEnds : Ends r)
    (k : Nat) :
    scanPrimitive (word ++ r) k = .ok (k + word.length) := by
  induction word generalizing k with
  | nil =>
      cases r with
      | nil => rfl
      | cons b rest =>
          have hEnd : isPrimitiveEnd b = true := by
            cases hBlank : isBlank b with
            | true =>
                unfold isBlank at hBlank
                simp only [Bool.or_eq_true, beq_iff_eq]
                  at hBlank
                rcases hBlank with
                  ((rfl | rfl) | rfl) | rfl <;> rfl
            | false =>
                rcases hEnds b rest
                    (skip_cons_of_not_blank hBlank rest) with
                  rfl | rfl | rfl <;> rfl
          show scanPrimitive (b :: rest) k = _
          rw [scanPrimitive, if_pos hEnd]
          rfl
  | cons b word ih =>
      have hHere := word_byte (hWord b List.mem_cons_self)
      rw [List.cons_append, scanPrimitive, hHere.1, hHere.2.1]
      show scanPrimitive (word ++ r) (k + 1) = _
      rw [ih (fun c hc => hWord c (List.mem_cons_of_mem b hc)),
        List.length_cons, Nat.add_assoc, Nat.add_comm 1]

end Shadow

end TrustOnboard

------------------------------------------------------------
-- Advancing Through A Text
------------------------------------------------------------

namespace TrustOnboard

namespace Shadow

open Json

/-
  The loop of the parser at a rest of a text of the given
  length.
-/
def bareFrom
    (n numTokens : Nat)
    (s : Bytes)
    (ts : List JsmnTok) : Int × List JsmnTok :=
  bareLoop numTokens s (n - s.length) 0 ts

/-
  From a rest of the text the parser comes to another one with
  some more tokens, or it runs out of room.
-/
def Advances
    (n numTokens : Nat)
    (s r : Bytes)
    (new : List JsmnTok) : Prop :=
  ∀ ts : List JsmnTok,
    ts.length ≤ numTokens →
      (ts.length + new.length ≤ numTokens →
        bareFrom n numTokens s ts =
          bareFrom n numTokens r (ts ++ new)) ∧
      (numTokens < ts.length + new.length →
        (bareFrom n numTokens s ts).1 = JsmnError.nomem.code)

variable {n numTokens : Nat}
variable {s t r : Bytes}
variable {new new' : List JsmnTok}

/-
  One round, with what the token takes.
-/
theorem bareFrom_step
    {c : UInt8}
    (done : Bytes)
    {ts ts' : List JsmnTok}
    (hInside : (c :: (done ++ r)).length ≤ n)
    (hStep :
      bareStep numTokens (n - (c :: (done ++ r)).length) c
          (done ++ r) ts =
        (ts', .ok done.length)) :
    bareFrom n numTokens (c :: (done ++ r)) ts =
      bareFrom n numTokens r ts' := by
  unfold bareFrom
  rw [bareLoop_ok hStep, bareLoop_skip]
  have hPlace :
      n - (c :: (done ++ r)).length + 1 + done.length =
        n - r.length := by
    rw [List.length_cons, List.length_append] at hInside ⊢
    omega
  rw [hPlace]

theorem bareFrom_error
    {c : UInt8}
    {ts : List JsmnTok}
    (ts' : List JsmnTok)
    {e : JsmnError}
    (hStep :
      bareStep numTokens (n - (c :: s).length) c s ts =
        (ts', .error e)) :
    (bareFrom n numTokens (c :: s) ts).1 = e.code := by
  unfold bareFrom
  rw [bareLoop, hStep]

namespace Advances

theorem refl :
    Advances n numTokens s s [] := by
  intro ts hRoom
  refine ⟨fun _ => ?_, fun hFull => ?_⟩
  · rw [List.append_nil]
  · rw [List.length_nil] at hFull
    omega

theorem trans
    (hFirst : Advances n numTokens s t new)
    (hSecond : Advances n numTokens t r new') :
    Advances n numTokens s r (new ++ new') := by
  intro ts hRoom
  rw [List.length_append]
  have hHere := hFirst ts hRoom
  refine ⟨fun hFits => ?_, fun hFull => ?_⟩
  · have hThere :=
      hSecond (ts ++ new) (by rw [List.length_append]; omega)
    rw [List.length_append] at hThere
    rw [hHere.1 (by omega), hThere.1 (by omega),
      List.append_assoc]
  · by_cases hFits : ts.length + new.length ≤ numTokens
    · have hThere :=
        hSecond (ts ++ new) (by rw [List.length_append]; omega)
      rw [List.length_append] at hThere
      rw [hHere.1 hFits, hThere.2 (by omega)]
    · exact hHere.2 (by omega)

/- A character that makes no token. -/
theorem passed
    {c : UInt8}
    (hInside : (c :: s).length ≤ n)
    (hPassed :
      isBlank c = true ∨ c = 58 ∨ c = 44) :
    Advances n numTokens (c :: s) s [] := by
  intro ts hRoom
  refine ⟨fun _ => ?_, fun hFull => ?_⟩
  · rw [List.append_nil]
    refine bareFrom_step [] hInside ?_
    rcases hPassed with hBlank | rfl | rfl
    · unfold isBlank at hBlank
      simp only [Bool.or_eq_true, beq_iff_eq] at hBlank
      rcases hBlank with ((rfl | rfl) | rfl) | rfl <;> rfl
    · rfl
    · rfl
  · rw [List.length_nil] at hFull
    omega

/- The blanks in front of the next part. -/
theorem skipped
    (hInside : s.length ≤ n) :
    Advances n numTokens s (skip s) [] := by
  induction s with
  | nil => exact refl
  | cons c s ih =>
      cases hBlank : isBlank c with
      | true =>
          have hSame : skip (c :: s) = skip s := by
            unfold skip
            rw [List.dropWhile_cons_of_pos hBlank]
          have hShort : s.length ≤ n := by
            rw [List.length_cons] at hInside
            omega
          rw [hSame]
          exact
            trans (passed hInside (.inl hBlank)) (ih hShort)
      | false =>
          rw [skip_cons_of_not_blank hBlank]
          exact refl

/- Blanks, and one character that makes no token. -/
theorem mark
    {c : UInt8}
    (hInside : s.length ≤ n)
    (hSkip : skip s = c :: r)
    (hMark : c = 58 ∨ c = 44) :
    Advances n numTokens s r [] := by
  have hShort := (skip_suffix s).length_le
  have hBlanks : Advances n numTokens s (c :: r) [] := by
    rw [← hSkip]
    exact skipped hInside
  have hNext : (c :: r).length ≤ n := by
    rw [← hSkip]
    omega
  exact trans hBlanks (passed hNext (.inr hMark))

/- A token that is complete at once. -/
theorem filled
    {c : UInt8}
    {done : Bytes}
    {tok : JsmnTok}
    (hInside : (c :: (done ++ r)).length ≤ n)
    (hStep :
      ∀ ts,
        bareStep numTokens (n - (c :: (done ++ r)).length) c
            (done ++ r) ts =
          bareFill numTokens tok done.length ts) :
    Advances n numTokens (c :: (done ++ r)) r [tok] := by
  intro ts hRoom
  rw [List.length_singleton]
  refine ⟨fun hFits => ?_, fun hFull => ?_⟩
  · refine bareFrom_step _ hInside ?_
    rw [hStep, bareFill, if_neg (by omega)]
  · refine bareFrom_error ts ?_
    rw [hStep, bareFill, if_pos (by omega)]

end Advances

end Shadow

end TrustOnboard

------------------------------------------------------------
-- Values
------------------------------------------------------------

namespace TrustOnboard

namespace Shadow

open Json

variable {n numTokens : Nat}
variable {s t t' r : Bytes}
variable {inside : List JsmnTok}

/- The place of a character of the text. -/
theorem cast_place
    (n : Nat)
    (s : Bytes) :
    ((n - s.length : Nat) : Int) = place n s :=
  rfl

/- The place behind a character. -/
theorem place_succ
    {c : UInt8}
    (hInside : (c :: s).length ≤ n) :
    place n (c :: s) + 1 = place n s := by
  unfold place
  rw [List.length_cons] at hInside ⊢
  omega

/- Tokens inside a text have ended. -/
theorem Lies.ended
    {lo hi : Int}
    {ts : List JsmnTok}
    (hLies : Lies lo hi ts)
    (hLow : 0 ≤ lo) :
    ∀ tok ∈ ts, tok.isOpen = false := by
  intro tok hMem
  have hBegin := hLies.from_low tok hMem
  have hForward := hLies.forward tok hMem
  have hStop : (tok.stop == -1) = false := by
    rw [beq_eq_false_iff_ne]
    omega
  unfold JsmnTok.isOpen
  rw [hStop, Bool.and_false]

theorem place_nonneg
    (n : Nat)
    (s : Bytes) :
    0 ≤ place n s :=
  Int.natCast_nonneg _

/- The last one of some elements with a property. -/
theorem lastIndex_append_cons
    {α : Type}
    {p : α → Bool}
    {x : α}
    {ys : List α}
    (hHere : p x = true)
    (hNone : ∀ y ∈ ys, p y = false)
    (xs : List α) :
    lastIndex p (xs ++ x :: ys) = some xs.length := by
  have hBehind : ∀ zs : List α,
      (∀ z ∈ zs, p z = false) → lastIndex p zs = none := by
    intro zs
    induction zs with
    | nil => intro _; rfl
    | cons z zs ih =>
        intro hAll
        rw [lastIndex,
          ih (fun y hy => hAll y (List.mem_cons_of_mem z hy))]
        dsimp only
        rw [hAll z List.mem_cons_self]
        rfl
  induction xs with
  | nil =>
      rw [List.nil_append, lastIndex, hBehind ys hNone]
      dsimp only
      rw [if_pos hHere]
      rfl
  | cons z xs ih =>
      rw [List.cons_append, lastIndex, ih]
      rfl

/- The closing bracket ends the token of its opening one. -/
theorem bareClose_last
    (pos start : Nat)
    (type : JsmnType)
    (hEnded : ∀ tok ∈ inside, tok.isOpen = false)
    (ts : List JsmnTok) :
    bareClose pos type (ts ++ ⟨type, start, -1⟩ :: inside) =
      (ts ++ ⟨type, start, (pos : Int) + 1⟩ :: inside,
        .ok 0) := by
  have hOpen :
      (⟨type, start, -1⟩ : JsmnTok).isOpen = true := by
    have hStart : ((start : Int) != -1) = true := by
      rw [bne_iff_ne]
      omega
    unfold JsmnTok.isOpen
    rw [hStart]
    rfl
  unfold bareClose
  rw [lastIndex_append_cons hOpen hEnded]
  dsimp only
  rw [List.getElem?_append_right (Nat.le_refl _),
    Nat.sub_self]
  dsimp only [List.getElem?_cons_zero]
  rw [if_neg (by simp), List.set_append_right _ _
    (Nat.le_refl _), Nat.sub_self]
  rfl

namespace Advances

/- A bracketed part with its body. -/
theorem bracketed
    {type : JsmnType}
    {opening closing : UInt8}
    (hBrackets :
      (type = .object ∧ opening = 123 ∧ closing = 125) ∨
        (type = .array ∧ opening = 91 ∧ closing = 93))
    (hOpen : skip s = opening :: t)
    (hInside : s.length ≤ n)
    (hBody : Advances n numTokens t t' inside)
    (hSuffix : t' <:+ t)
    (hClose : skip t' = closing :: r)
    (hEnded : ∀ tok ∈ inside, tok.isOpen = false) :
    Advances n numTokens s r
      (⟨type, place n (opening :: t), place n r⟩ ::
        inside) := by
  have hOpenStep :
      ∀ pos rest ts,
        bareStep numTokens pos opening rest ts =
          bareOpen numTokens pos type ts := by
    intro pos rest ts
    rcases hBrackets with ⟨rfl, rfl, rfl⟩ | ⟨rfl, rfl, rfl⟩
    · rfl
    · rfl
  have hCloseStep :
      ∀ pos rest ts,
        bareStep numTokens pos closing rest ts =
          bareClose pos type ts := by
    intro pos rest ts
    rcases hBrackets with ⟨rfl, rfl, rfl⟩ | ⟨rfl, rfl, rfl⟩
    · rfl
    · rfl
  have hText := (suffix_of_skip_cons hOpen).length_le
  have hBehind := hSuffix.length_le
  have hEnd := (suffix_of_skip_cons hClose).length_le
  have hHere : (opening :: t).length ≤ n := by omega
  rw [List.length_cons] at hText
  have hThere : (closing :: r).length ≤ n := by omega
  -- The blanks in front of the two brackets.
  have hFront : Advances n numTokens s (opening :: t) [] := by
    rw [← hOpen]
    exact skipped hInside
  have hBack : Advances n numTokens t' (closing :: r) [] := by
    rw [← hClose]
    exact skipped (by omega)
  have hBodyBack := hBody.trans hBack
  rw [List.append_nil] at hBodyBack
  -- From bracket to bracket.
  have hMain :
      Advances n numTokens (opening :: t) r
        (⟨type, place n (opening :: t), place n r⟩ ::
          inside) := by
    intro ts hRoom
    rw [List.length_cons]
    by_cases hFull : numTokens ≤ ts.length
    · refine ⟨fun hFits => ?_, fun _ => ?_⟩
      · omega
      · refine bareFrom_error ts ?_
        rw [hOpenStep, bareOpen, if_pos hFull]
    · have hFirst :
          bareFrom n numTokens (opening :: t) ts =
            bareFrom n numTokens t
              (ts ++ [⟨type, place n (opening :: t), -1⟩]) := by
        refine bareFrom_step [] hHere ?_
        rw [hOpenStep, bareOpen, if_neg hFull]
        rfl
      have hInner :=
        hBodyBack
          (ts ++ [⟨type, place n (opening :: t), -1⟩])
          (by
            rw [List.length_append, List.length_singleton]
            omega)
      rw [List.length_append, List.length_singleton] at hInner
      refine ⟨fun hFits => ?_, fun hOver => ?_⟩
      · rw [hFirst, hInner.1 (by omega)]
        refine bareFrom_step [] hThere ?_
        rw [hCloseStep, List.append_assoc,
          List.singleton_append]
        have hLast :=
          bareClose_last (n - (closing :: r).length)
            (n - (opening :: t).length) type hEnded ts
        rw [cast_place, cast_place, place_succ hThere]
          at hLast
        exact hLast
      · rw [hFirst]
        exact hInner.2 (by omega)
  have hAll := hFront.trans hMain
  rwa [List.nil_append] at hAll

/- A string, be it a key or a value. -/
theorem string
    {cs : Bytes}
    (hOpen : skip s = 34 :: t)
    (hChars : Chars cs t r)
    (hInside : s.length ≤ n) :
    Advances n numTokens s r
      [⟨.string, place n t, place n (34 :: r)⟩] := by
  have hText := (suffix_of_skip_cons hOpen).length_le
  have hFront : Advances n numTokens s (34 :: t) [] := by
    rw [← hOpen]
    exact skipped hInside
  rcases scanString_chars hChars with ⟨raw, rfl, hScan⟩
  have hDone : raw ++ 34 :: r = (raw ++ [34]) ++ r := by
    rw [List.append_assoc, List.singleton_append]
  have hMain :
      Advances n numTokens (34 :: ((raw ++ [34]) ++ r)) r
        [⟨.string, place n (raw ++ 34 :: r),
          place n (34 :: r)⟩] := by
    refine filled (by rw [← hDone]; omega) ?_
    intro ts
    have hStep :
        ∀ pos rest k,
          scanString .text rest 0 = .ok k →
            bareStep numTokens pos 34 rest ts =
              bareFill numTokens
                ⟨.string, pos + 1, pos + 1 + k⟩ (k + 1)
                ts := by
      intro pos rest k hString
      unfold bareStep
      rw [if_neg (by decide), if_neg (by decide),
        if_neg (by decide), if_neg (by decide), if_pos rfl,
        hString]
    have hStart :
        (((n - (34 :: (raw ++ 34 :: r)).length : Nat) : Int) +
          1) = place n (raw ++ 34 :: r) :=
      place_succ (by omega)
    have hStop :
        place n (raw ++ 34 :: r) + (raw.length : Nat) =
          place n (34 :: r) := by
      unfold place
      rw [List.length_cons, List.length_append,
        List.length_cons] at hText
      rw [List.length_append, List.length_cons]
      omega
    rw [← hDone, hStep _ _ _ hScan, hStart, hStop,
      List.length_append, List.length_singleton]
  rw [hDone] at hFront
  exact hFront.trans hMain

/- A value without a structure. -/
theorem primitive
    {v : Value}
    (hReads : Reads v s r)
    (hKind : isPrimitive v = true)
    (hEnds : Ends r)
    (hInside : s.length ≤ n) :
    Advances n numTokens s r
      [⟨.primitive, place n (skip s), place n r⟩] := by
  have hText := (skip_suffix s).length_le
  have hFront : Advances n numTokens s (skip s) [] :=
    skipped hInside
  rcases word_of_reads hReads hKind with
    ⟨word, hSkip, hSome, hWord⟩
  rw [hSkip] at hText hFront ⊢
  have hScan := scanPrimitive_word hWord hEnds 0
  cases word with
  | nil => exact absurd rfl hSome
  | cons c done =>
      have hMain :
          Advances n numTokens (c :: (done ++ r)) r
            [⟨.primitive, place n (c :: (done ++ r)),
              place n r⟩] := by
        refine filled (Nat.le_trans hText hInside) ?_
        intro ts
        have hNot := (word_byte (hWord c List.mem_cons_self)).2.2
        simp only [List.mem_cons, List.not_mem_nil, or_false,
          not_or] at hNot
        rcases hNot with
          ⟨h123, h91, h125, h93, h34, h9, h13, h10, h32, h58,
            h44⟩
        have hStop :
            place n (c :: (done ++ r)) +
                ((done.length + 1 : Nat) : Int) =
              place n r := by
          rw [List.length_append, List.length_cons] at hText
          unfold place
          rw [List.length_cons, List.length_append]
          omega
        unfold bareStep
        rw [if_neg h123, if_neg h91, if_neg h125, if_neg h93,
          if_neg h34, if_neg (by simp [h9, h13, h10, h32]),
          if_neg h58, if_neg h44]
        rw [List.cons_append, Nat.zero_add] at hScan
        rw [hScan]
        dsimp only
        rw [cast_place, List.length_cons, hStop,
          Nat.add_sub_cancel]
      exact hFront.trans hMain

end Advances

end Shadow

end TrustOnboard

------------------------------------------------------------
-- Documents
------------------------------------------------------------

namespace TrustOnboard

namespace Shadow

open Json

mutual

/- The parser goes through a value and lists its tokens. -/
theorem Tokens.advances
    {n : Nat}
    {v : Value}
    {s r : Bytes}
    {ts : List JsmnTok} :
    Tokens n v s r ts →
      s.length ≤ n → Ends r →
        ∀ numTokens, Advances n numTokens s r ts
  | .primitive hReads hKind => fun hInside hEnds _ =>
      .primitive hReads hKind hEnds hInside
  | .string hOpen hChars => fun hInside _ _ =>
      .string hOpen hChars hInside
  | .emptyArray hOpen hClose => fun hInside _ _ =>
      .bracketed (.inr ⟨rfl, rfl, rfl⟩) hOpen hInside .refl
        (List.suffix_refl _) hClose (by simp)
  | .array hOpen hItems => fun hInside _ numTokens => by
      have hShort := (suffix_of_skip hOpen).length_le
      have hWithin := Nat.le_trans hShort hInside
      rcases ItemTokens.advances hItems hWithin with
        ⟨t', hSuffix, hClose, hBody⟩
      exact
        .bracketed (.inr ⟨rfl, rfl, rfl⟩) hOpen hInside
          (hBody numTokens) hSuffix hClose
          ((ItemTokens.lies hItems hWithin).ended
            (place_nonneg n _))
  | .object hObject => fun hInside _ =>
      ObjectTokens.advances hObject hInside

/- The items of an array, up to its closing bracket. -/
theorem ItemTokens.advances
    {n : Nat}
    {vs : List Value}
    {s r : Bytes}
    {ts : List JsmnTok} :
    ItemTokens n vs s r ts →
      s.length ≤ n →
        ∃ t,
          t <:+ s ∧ skip t = 93 :: r ∧
            ∀ numTokens, Advances n numTokens s t ts
  | .last hItem hClose => fun hInside =>
      ⟨_, Tokens.suffix hItem, hClose,
        Tokens.advances hItem hInside
          (ends_of_skip hClose (.inr (.inl rfl)))⟩
  | .more hItem hComma hRest => fun hInside => by
      have hFirst := Tokens.suffix hItem
      have hNext := suffix_of_skip hComma
      have hBehind := hFirst.length_le
      have hShort := hNext.length_le
      rcases ItemTokens.advances hRest (by omega) with
        ⟨t, hSuffix, hClose, hBody⟩
      refine
        ⟨t, (hSuffix.trans hNext).trans hFirst, hClose,
          fun numTokens => ?_⟩
      have hHere :=
        (Tokens.advances hItem hInside
          (ends_of_skip hComma (.inl rfl)) numTokens).trans
          (Advances.mark (by omega) hComma (.inr rfl))
      rw [List.append_nil] at hHere
      exact hHere.trans (hBody numTokens)

/- An object with its members. -/
theorem ObjectTokens.advances
    {n : Nat}
    {ms : List Member}
    {s r : Bytes}
    {ts : List JsmnTok} :
    ObjectTokens n ms s r ts →
      s.length ≤ n →
        ∀ numTokens, Advances n numTokens s r ts
  | .empty hOpen hClose => fun hInside _ =>
      .bracketed (.inl ⟨rfl, rfl, rfl⟩) hOpen hInside .refl
        (List.suffix_refl _) hClose (by simp)
  | .full hOpen hMembers => fun hInside numTokens => by
      have hShort := (suffix_of_skip hOpen).length_le
      have hWithin := Nat.le_trans hShort hInside
      rcases MemberTokens.advances hMembers hWithin with
        ⟨t', hSuffix, hClose, hBody⟩
      exact
        .bracketed (.inl ⟨rfl, rfl, rfl⟩) hOpen hInside
          (hBody numTokens) hSuffix hClose
          ((MemberTokens.lies hMembers hWithin).ended
            (place_nonneg n _))

/- The members of an object, up to its closing brace. -/
theorem MemberTokens.advances
    {n : Nat}
    {ms : List Member}
    {s r : Bytes} :
    MemberTokens n ms s r →
      s.length ≤ n →
        ∃ t,
          t <:+ s ∧ skip t = 125 :: r ∧
            ∀ numTokens,
              Advances n numTokens s t
                (ms.flatMap Member.tokens)
  | .last hMember hClose => fun hInside => by
      rw [List.flatMap_singleton]
      exact
        ⟨_, MemberAt.suffix hMember, hClose,
          MemberAt.advances hMember hInside
            (ends_of_skip hClose (.inr (.inr rfl)))⟩
  | .more hMember hComma hRest => fun hInside => by
      have hFirst := MemberAt.suffix hMember
      have hNext := suffix_of_skip hComma
      have hBehind := hFirst.length_le
      have hShort := hNext.length_le
      rcases MemberTokens.advances hRest (by omega) with
        ⟨t, hSuffix, hClose, hBody⟩
      refine
        ⟨t, (hSuffix.trans hNext).trans hFirst, hClose,
          fun numTokens => ?_⟩
      have hHere :=
        (MemberAt.advances hMember hInside
          (ends_of_skip hComma (.inl rfl)) numTokens).trans
          (Advances.mark (by omega) hComma (.inr rfl))
      rw [List.append_nil] at hHere
      rw [List.flatMap_cons]
      exact hHere.trans (hBody numTokens)

/- One member: its key, the colon and its value. -/
theorem MemberAt.advances
    {n : Nat}
    {m : Member}
    {s r : Bytes} :
    MemberAt n m s r →
      s.length ≤ n → Ends r →
        ∀ numTokens, Advances n numTokens s r m.tokens
  | .mk hOpen hKey hColon hValue =>
      fun hInside hEnds numTokens => by
      have hBegin := (suffix_of_skip hOpen).length_le
      have hEnd := (Chars.suffix hKey).length_le
      have hNext := (suffix_of_skip hColon).length_le
      rw [List.length_cons] at hEnd
      have hName : Advances n numTokens _ _ _ :=
        Advances.string hOpen hKey hInside
      have hHere :=
        hName.trans (Advances.mark (by omega) hColon (.inl rfl))
      rw [List.append_nil] at hHere
      exact
        hHere.trans
          (Tokens.advances hValue (by omega) hEnds numTokens)

end

/- The parser goes through the whole text. -/
theorem IsDocument.advances
    {json : Bytes}
    {ms : List Member}
    {ts : List JsmnTok}
    (hDocument : IsDocument json ms ts)
    (numTokens : Nat) :
    Advances json.length numTokens json [] ts := by
  have hEnd :
      ∀ {r : Bytes},
        r.length ≤ json.length → skip r = [] →
          Advances json.length numTokens r [] [] := by
    intro r hInside hBlank
    rw [← hBlank]
    exact .skipped hInside
  cases hDocument with
  | object hObject hBlank =>
      have hAll :=
        (hObject.advances (Nat.le_refl _) numTokens).trans
          (hEnd (ObjectTokens.suffix hObject).length_le
            hBlank)
      rwa [List.append_nil] at hAll
  | other hTokens _ hBlank =>
      have hAll :=
        (hTokens.advances (Nat.le_refl _)
          (ends_of_blank hBlank) numTokens).trans
          (hEnd (Tokens.suffix hTokens).length_le hBlank)
      rwa [List.append_nil] at hAll

/- The parser steps over a document, or runs out of room. -/
theorem IsDocument.jsmnParse_steps
    {json : Bytes}
    {ms : List Member}
    {ts : List JsmnTok}
    (hDocument : IsDocument json ms ts)
    (hShort : json.length < 2 ^ 31) :
    (ts.length ≤ maxJsonTokenExpected →
        jsmnParse json =
          bareFrom json.length maxJsonTokenExpected [] ts) ∧
      (maxJsonTokenExpected < ts.length →
        (jsmnParse json).1 = JsmnError.nomem.code) := by
  have hFrom : bareFrom json.length maxJsonTokenExpected json
      [] = bareParse json := by
    unfold bareFrom bareParse
    rw [Nat.sub_self]
  have hAll :=
    hDocument.advances maxJsonTokenExpected []
      (Nat.zero_le _)
  rw [List.length_nil, Nat.zero_add, List.nil_append, hFrom,
    ← jsmnParse_bare hShort] at hAll
  exact hAll

/- With room for its tokens they are what it leaves. -/
theorem IsDocument.jsmnParse_eq
    {json : Bytes}
    {ms : List Member}
    {ts : List JsmnTok}
    (hDocument : IsDocument json ms ts)
    (hShort : json.length < 2 ^ 31)
    (hFits : ts.length ≤ maxJsonTokenExpected) :
    jsmnParse json = ((ts.length : Int), ts) := by
  have hClosed : ts.any JsmnTok.isOpen = false := by
    rw [List.any_eq_false]
    intro tok hMem hOpen
    rw [hDocument.lies.ended (Int.le_refl 0) tok hMem] at hOpen
    cases hOpen
  rw [(hDocument.jsmnParse_steps hShort).1 hFits]
  show bareLoop maxJsonTokenExpected [] _ 0 ts = _
  rw [bareLoop, hClosed]
  rfl

/-
  A text of less than 2^31 bytes that spells a JSON value: the
  parser lists its tokens in the order in which they begin, or
  there are more of them than it has room for and it says so.
-/
theorem jsmnParse_document
    {json : Bytes}
    {ms : List Member}
    {ts : List JsmnTok}
    (hShort : json.length < 2 ^ 31)
    (hDocument : IsDocument json ms ts) :
    (ts.length ≤ maxJsonTokenExpected →
        jsmnParse json = ((ts.length : Int), ts)) ∧
      (maxJsonTokenExpected < ts.length →
        (jsmnParse json).1 = JsmnError.nomem.code) :=
  ⟨hDocument.jsmnParse_eq hShort,
    (hDocument.jsmnParse_steps hShort).2⟩

/- A document with nothing but a client token. -/
def requestDocument (text : Bytes) : Bytes :=
  ascii "\x7b\"clientToken\":\"" ++ (text ++ [34, 125])

/- Its members and tokens. -/
def requestReading (text : Bytes) : Reading where
  members :=
    [⟨ascii "clientToken", ⟨.string, 2, 13⟩, .string text,
      [⟨.string, 16, 16 + text.length⟩]⟩]
  tokens :=
    [⟨.object, 0, 18 + text.length⟩, ⟨.string, 2, 13⟩,
      ⟨.string, 16, 16 + text.length⟩]

theorem requestReading_document
    {text : Bytes}
    (hPlain : ∀ b ∈ text, Plain b) :
    IsDocument (requestDocument text)
      (requestReading text).members
      (requestReading text).tokens := by
  have hLength :
      (requestDocument text).length = text.length + 18 := by
    unfold requestDocument
    rw [List.length_append, List.length_append]
    show 16 + (text.length + 2) = text.length + 18
    omega
  have hName : (ascii "clientToken").length = 11 := by
    decide
  have hPlace :
      ∀ (s : Bytes) (k : Int),
        (text.length + 18 : Int) - s.length = k →
          s.length ≤ text.length + 18 →
            place (requestDocument text).length s = k := by
    intro s k hEq hInside
    unfold place
    omega
  have hKey :
      Chars (ascii "clientToken")
        (ascii "clientToken" ++ 34 :: 58 :: 34 ::
          (text ++ [34, 125]))
        (58 :: 34 :: (text ++ [34, 125])) :=
    (chars_iff _ _ _).mpr
      ⟨forall_mem_of_all (by decide), rfl⟩
  have hValue : Chars text (text ++ [34, 125]) [125] :=
    (chars_iff _ _ _).mpr ⟨hPlain, rfl⟩
  have hMember :
      MemberAt (requestDocument text).length _
        (34 :: (ascii "clientToken" ++ 34 :: 58 :: 34 ::
          (text ++ [34, 125])))
        [125] :=
    .mk (skip_cons_of_not_blank rfl _) hKey
      (skip_cons_of_not_blank rfl _)
      (.string (skip_cons_of_not_blank rfl _) hValue)
  have hOpen :
      skip (requestDocument text) =
        123 :: 34 :: (ascii "clientToken" ++
          34 :: 58 :: 34 :: (text ++ [34, 125])) :=
    skip_cons_of_not_blank rfl _
  have hObject :
      ObjectTokens (requestDocument text).length _
        (requestDocument text) [] _ :=
    .full hOpen
      (.last hMember (skip_cons_of_not_blank rfl _))
  have hDocument := IsDocument.object hObject rfl
  rw [hPlace (123 :: _) 0, hPlace [] (18 + text.length),
    hPlace (ascii "clientToken" ++ _) 2,
    hPlace (34 :: 58 :: _) 13, hPlace (text ++ _) 16,
    hPlace [34, 125] (16 + text.length)] at hDocument
  · exact hDocument
  all_goals
    simp only [List.length_cons, List.length_append,
      List.length_nil, hName]
    omega

/- The shortest request: three tokens in their order. -/
theorem jsmnParse_document_request :
    jsmnParse (requestDocument [120]) =
      (3, (requestReading [120]).tokens) :=
  (jsmnParse_document (by decide)
    (requestReading_document
      (forall_mem_of_all (by decide)))).1 (by decide)

/-
  A parser that lists the tokens of a text in the standard
  way, as long as there is room for them and their offsets are
  values of type `int`.
-/
def StandardParser
    {E : Type}
    (port : Port E) : Prop :=
  ∀ json ms ts,
    json.length < 2 ^ 31 →
      IsDocument json ms ts →
        ts.length ≤ maxJsonTokenExpected →
          port.jsmnParse json = ((ts.length : Int), ts)

/- The one that comes with the client is such a parser. -/
theorem standardParser_jsmn
    {E : Type}
    (port : Port E) :
    StandardParser port.withJsmn := by
  intro json ms ts hShort hDocument hRoom
  exact hDocument.jsmnParse_eq hShort hRoom

end Shadow

end TrustOnboard

------------------------------------------------------------
-- Any Text
------------------------------------------------------------

namespace TrustOnboard

namespace Shadow

/-
  A later token lies inside an earlier one or behind it.
-/
def Nested (a b : JsmnTok) : Prop :=
  a.start < b.start ∧
    (a.stop = -1 ∨ (b.stop ≠ -1 ∧ b.stop ≤ a.stop) ∨
      a.stop ≤ b.start)

/-
  Tokens that begin in front of a place.  They are in the
  order in which they begin, each of them that has ended lies
  in front of the place, and no two of them overlap in part.
-/
structure Forest
    (hi : Int)
    (ts : List JsmnTok) : Prop where
  begins : ∀ tok ∈ ts, 0 ≤ tok.start ∧ tok.start < hi
  ends :
    ∀ tok ∈ ts,
      tok.stop = -1 ∨ (tok.start ≤ tok.stop ∧ tok.stop ≤ hi)
  nested : ts.Pairwise Nested

/- A token that has ended has an end. -/
theorem JsmnTok.stop_ne_of_ended
    {tok : JsmnTok}
    (hBegins : 0 ≤ tok.start)
    (hEnded : tok.isOpen = false) :
    tok.stop ≠ -1 := by
  intro hNo
  unfold JsmnTok.isOpen at hEnded
  rw [hNo, beq_self_eq_true, Bool.and_true,
    bne_eq_false_iff_eq] at hEnded
  omega

namespace Forest

variable {hi hi' p : Int}
variable {tok : JsmnTok}
variable {ts : List JsmnTok}

theorem nil :
    Forest hi [] where
  begins := by simp
  ends := by simp
  nested := List.Pairwise.nil

theorem mono
    (hForest : Forest hi ts)
    (hLe : hi ≤ hi') :
    Forest hi' ts where
  begins := by
    intro tok hMem
    have hHere := hForest.begins tok hMem
    omega
  ends := by
    intro tok hMem
    have hHere := hForest.ends tok hMem
    omega
  nested := hForest.nested

/- A new token behind all the others. -/
theorem add
    (hForest : Forest p ts)
    (hLow : 0 ≤ p)
    (hBegins : p ≤ tok.start ∧ tok.start < hi)
    (hEnds :
      tok.stop = -1 ∨ (tok.start ≤ tok.stop ∧ tok.stop ≤ hi)) :
    Forest hi (ts ++ [tok]) := by
  have hWider := hForest.mono (show p ≤ hi by omega)
  refine ⟨?_, ?_, ?_⟩
  · intro other hMem
    rcases List.mem_append.mp hMem with hMem | hMem
    · exact hWider.begins other hMem
    · rw [List.mem_singleton.mp hMem]
      omega
  · intro other hMem
    rcases List.mem_append.mp hMem with hMem | hMem
    · exact hWider.ends other hMem
    · rw [List.mem_singleton.mp hMem]
      exact hEnds
  · refine
      List.pairwise_append.mpr
        ⟨hForest.nested, List.pairwise_singleton _ _, ?_⟩
    intro a hA b hB
    rw [List.mem_singleton.mp hB]
    have hBegin := hForest.begins a hA
    have hEnd := hForest.ends a hA
    unfold Nested
    omega

/- The last open token ends. -/
theorem close
    {xs ys : List JsmnTok}
    (hForest : Forest p (xs ++ tok :: ys))
    (hOpen : tok.isOpen = true)
    (hEnded : ∀ y ∈ ys, y.isOpen = false) :
    Forest (p + 1)
      (xs ++ { tok with stop := p + 1 } :: ys) := by
  have hStop : tok.stop = -1 := by
    unfold JsmnTok.isOpen at hOpen
    rw [Bool.and_eq_true, beq_iff_eq] at hOpen
    exact hOpen.2
  have hHere := hForest.begins tok (by simp)
  have hWider := hForest.mono (show p ≤ p + 1 by omega)
  refine ⟨?_, ?_, ?_⟩
  · intro other hMem
    simp only [List.mem_append, List.mem_cons] at hMem
    rcases hMem with hMem | rfl | hMem
    · exact hWider.begins other (by simp [hMem])
    · dsimp only
      omega
    · exact hWider.begins other (by simp [hMem])
  · intro other hMem
    simp only [List.mem_append, List.mem_cons] at hMem
    rcases hMem with hMem | rfl | hMem
    · exact hWider.ends other (by simp [hMem])
    · dsimp only
      omega
    · exact hWider.ends other (by simp [hMem])
  · have hOld := hForest.nested
    rw [List.pairwise_append, List.pairwise_cons] at hOld ⊢
    rcases hOld with ⟨hFront, ⟨hBehind, hBack⟩, hCross⟩
    refine ⟨hFront, ⟨?_, hBack⟩, ?_⟩
    · -- What began inside has ended in front of the bracket.
      intro b hB
      have hPair := hBehind b hB
      have hBegin := hForest.begins b (by simp [hB])
      have hEnd := hForest.ends b (by simp [hB])
      have hNot :=
        JsmnTok.stop_ne_of_ended hBegin.1 (hEnded b hB)
      unfold Nested at hPair ⊢
      dsimp only
      omega
    · intro a hA b hB
      rcases List.mem_cons.mp hB with rfl | hB
      · have hPair := hCross a hA tok (by simp)
        unfold Nested at hPair ⊢
        dsimp only
        omega
      · exact hCross a hA b (List.mem_cons_of_mem _ hB)

end Forest

/- The last element with a property, with what is around it. -/
theorem lastIndex_split
    {α : Type}
    {p : α → Bool}
    {xs : List α}
    {i : Nat}
    (hLast : lastIndex p xs = some i) :
    ∃ front x back,
      xs = front ++ x :: back ∧ front.length = i ∧
        p x = true ∧ ∀ y ∈ back, p y = false := by
  have hNone : ∀ ys : List α,
      lastIndex p ys = none → ∀ y ∈ ys, p y = false := by
    intro ys
    induction ys with
    | nil => intro _ y hy; cases hy
    | cons z zs ih =>
        intro hNo y hy
        rw [lastIndex] at hNo
        cases hRest : lastIndex p zs with
        | some j =>
            rw [hRest] at hNo
            cases hNo
        | none =>
            rw [hRest] at hNo
            dsimp only at hNo
            rcases List.mem_cons.mp hy with rfl | hy
            · cases hHere : p y with
              | false => rfl
              | true =>
                  rw [hHere, if_pos rfl] at hNo
                  cases hNo
            · exact ih hRest y hy
  induction xs generalizing i with
  | nil => cases hLast
  | cons z zs ih =>
      rw [lastIndex] at hLast
      cases hRest : lastIndex p zs with
      | some j =>
          rw [hRest] at hLast
          cases hLast
          rcases ih hRest with
            ⟨front, x, back, rfl, rfl, hHere, hBack⟩
          exact
            ⟨z :: front, x, back, rfl, rfl, hHere, hBack⟩
      | none =>
          rw [hRest] at hLast
          dsimp only at hLast
          split at hLast
          · rename_i hHere
            cases hLast
            exact
              ⟨[], z, zs, rfl, rfl, hHere, hNone zs hRest⟩
          · cases hLast

/-
  What a round leaves: tokens within their array and within
  the text so far, and a number of characters that are there.
-/
structure RoundSound
    (numTokens pos : Nat)
    (rest : Bytes)
    (r : List JsmnTok × Except JsmnError Nat) : Prop where
  room : r.1.length ≤ numTokens
  ok :
    ∀ k, r.2 = .ok k →
      k ≤ rest.length ∧
        Forest ((pos + 1 + k : Nat) : Int) r.1
  error : ∀ e, r.2 = .error e → Forest pos r.1

section

variable {numTokens pos : Nat}
variable {rest : Bytes}
variable {ts ts' : List JsmnTok}

theorem RoundSound.of_ok
    {k : Nat}
    (hRoom : ts.length ≤ numTokens)
    (hRest : k ≤ rest.length)
    (hForest : Forest ((pos + 1 + k : Nat) : Int) ts) :
    RoundSound numTokens pos rest (ts, .ok k) where
  room := hRoom
  ok := by
    intro k' hk
    cases hk
    exact ⟨hRest, hForest⟩
  error := fun _ hNo => nomatch hNo

theorem RoundSound.of_error
    (hRoom : ts.length ≤ numTokens)
    (hForest : Forest pos ts)
    (e : JsmnError) :
    RoundSound numTokens pos rest (ts, .error e) where
  room := hRoom
  ok := fun _ hNo => nomatch hNo
  error := fun _ _ => hForest

variable (hForest : Forest pos ts)
variable (hRoom : ts.length ≤ numTokens)

include hForest hRoom

/- A character that makes no token. -/
theorem passed_sound :
    RoundSound numTokens pos rest (ts, .ok 0) :=
  .of_ok hRoom (Nat.zero_le _) (hForest.mono (by omega))

theorem bareOpen_sound
    (type : JsmnType) :
    RoundSound numTokens pos rest
      (bareOpen numTokens pos type ts) := by
  unfold bareOpen
  split
  · exact .of_error hRoom hForest _
  · refine .of_ok ?_ (Nat.zero_le _) ?_
    · rw [List.length_append, List.length_singleton]
      omega
    · refine
        hForest.add (Int.natCast_nonneg _) ?_ (.inl rfl)
      dsimp only
      omega

theorem bareClose_sound
    (type : JsmnType) :
    RoundSound numTokens pos rest (bareClose pos type ts) := by
  unfold bareClose
  cases hLast : lastIndex JsmnTok.isOpen ts with
  | none => exact .of_error hRoom hForest _
  | some i =>
      rcases lastIndex_split hLast with
        ⟨front, tok, back, rfl, rfl, hHere, hBack⟩
      dsimp only
      rw [List.getElem?_append_right (Nat.le_refl _),
        Nat.sub_self]
      dsimp only [List.getElem?_cons_zero]
      split
      · exact .of_error hRoom hForest _
      · refine .of_ok ?_ (Nat.zero_le _) ?_
        · rw [List.length_set]
          exact hRoom
        · rw [List.set_append_right _ _ (Nat.le_refl _),
            Nat.sub_self, List.set_cons_zero]
          exact hForest.close hHere hBack

theorem bareFill_sound
    {tok : JsmnTok}
    {skipped : Nat}
    (hSkipped : skipped ≤ rest.length)
    (hBegins :
      (pos : Int) ≤ tok.start ∧
        tok.start < ((pos + 1 + skipped : Nat) : Int))
    (hEnds :
      tok.start ≤ tok.stop ∧
        tok.stop ≤ ((pos + 1 + skipped : Nat) : Int)) :
    RoundSound numTokens pos rest
      (bareFill numTokens tok skipped ts) := by
  unfold bareFill
  split
  · exact .of_error hRoom hForest _
  · refine .of_ok ?_ hSkipped ?_
    · rw [List.length_append, List.length_singleton]
      omega
    · exact
        hForest.add (Int.natCast_nonneg _) hBegins
          (.inr hEnds)

/- Every round of the parser. -/
theorem bareStep_sound
    (c : UInt8) :
    RoundSound numTokens pos rest
      (bareStep numTokens pos c rest ts) := by
  unfold bareStep
  split
  · exact bareOpen_sound hForest hRoom .object
  split
  · exact bareOpen_sound hForest hRoom .array
  split
  · exact bareClose_sound hForest hRoom .object
  split
  · exact bareClose_sound hForest hRoom .array
  split
  · cases hScan : scanString .text rest 0 with
    | error e => exact .of_error hRoom hForest _
    | ok k =>
        have hLe := scanString_le hScan
        refine
          bareFill_sound hForest hRoom (by omega) ?_ ?_
        · dsimp only
          omega
        · dsimp only
          omega
  split
  · exact passed_sound hForest hRoom
  split
  · exact passed_sound hForest hRoom
  split
  · exact passed_sound hForest hRoom
  · cases hScan : scanPrimitive (c :: rest) 0 with
    | error e => exact .of_error hRoom hForest _
    | ok k =>
        have hLe := scanPrimitive_le hScan
        rw [List.length_cons] at hLe
        refine
          bareFill_sound hForest hRoom (by omega) ?_ ?_
        · dsimp only
          omega
        · dsimp only
          omega

end

/- The whole loop, from any round on. -/
theorem bareLoop_forest
    (numTokens : Nat)
    {text : Bytes}
    (pos : Nat)
    {skipped : Nat}
    {ts : List JsmnTok}
    (hSkipped : skipped ≤ text.length)
    (hForest : Forest ((pos + skipped : Nat) : Int) ts)
    (hRoom : ts.length ≤ numTokens) :
    (bareLoop numTokens text pos skipped ts).2.length ≤
        numTokens ∧
      Forest ((pos + text.length : Nat) : Int)
        (bareLoop numTokens text pos skipped ts).2 ∧
        (0 ≤ (bareLoop numTokens text pos skipped ts).1 →
          ∀ tok ∈
              (bareLoop numTokens text pos skipped ts).2,
            tok.isOpen = false) := by
  have hNegative : ∀ e : JsmnError, e.code < 0 := by
    intro e
    cases e <;> decide
  induction text generalizing pos skipped ts with
  | nil =>
      have hZero : skipped = 0 := Nat.le_zero.mp hSkipped
      subst hZero
      unfold bareLoop
      split
      · refine ⟨hRoom, hForest, fun hNo => ?_⟩
        have hCode := hNegative .part
        dsimp only at hNo
        omega
      · rename_i hClosed
        refine ⟨hRoom, hForest, fun _ => ?_⟩
        simpa using hClosed
  | cons c rest ih =>
      have hEnd :
          pos + 1 + rest.length = pos + (c :: rest).length := by
        rw [List.length_cons]
        omega
      cases skipped with
      | succ skipped =>
          unfold bareLoop
          rw [List.length_cons] at hSkipped
          have hNext :
              Forest ((pos + 1 + skipped : Nat) : Int) ts :=
            hForest.mono (by omega)
          have hAll := ih (pos + 1) (by omega) hNext hRoom
          rw [hEnd] at hAll
          exact hAll
      | zero =>
          have hStep :
              RoundSound numTokens pos rest
                (bareStep numTokens pos c rest ts) :=
            bareStep_sound hForest hRoom c
          unfold bareLoop
          cases hHere : bareStep numTokens pos c rest ts with
          | mk ts' result =>
              rw [hHere] at hStep
              cases result with
              | error e =>
                  refine
                    ⟨hStep.room,
                      (hStep.error e rfl).mono (by omega),
                      fun hNo => ?_⟩
                  have hCode := hNegative e
                  dsimp only at hNo
                  omega
              | ok k =>
                  rcases hStep.ok k rfl with ⟨hRest, hLater⟩
                  have hAll :=
                    ih (pos + 1) hRest hLater hStep.room
                  rw [hEnd] at hAll
                  exact hAll

/-
  Whatever a text of less than 2^31 bytes is, the parser
  writes no more tokens than there is room for, and they are a
  forest inside the text.
  When it reports success, it reports their number, and all
  of them have ended.
-/
theorem jsmnParse_forest
    (json : Bytes)
    (hShort : json.length < 2 ^ 31) :
    (jsmnParse json).2.length ≤ maxJsonTokenExpected ∧
      Forest json.length (jsmnParse json).2 ∧
        (0 ≤ (jsmnParse json).1 →
          (jsmnParse json).1 =
              ((jsmnParse json).2.length : Int) ∧
            ∀ tok ∈ (jsmnParse json).2,
              tok.start ≤ tok.stop ∧
                (tok.text json).length =
                  (tok.stop - tok.start).toNat) := by
  rw [jsmnParse_bare hShort]
  have hLoop :=
    bareLoop_forest maxJsonTokenExpected 0
      (Nat.zero_le json.length) Forest.nil (Nat.zero_le _)
  rw [Nat.zero_add] at hLoop
  rcases hLoop with ⟨hRoom, hForest, hClosed⟩
  refine ⟨hRoom, hForest, fun hOk => ⟨?_, ?_⟩⟩
  · have hCount :=
      (bareLoop_keeps maxJsonTokenExpected json 0 0 []).1
    exact hCount.resolve_left (Int.not_lt.mpr hOk)
  · intro tok hMem
    have hBegin := hForest.begins tok hMem
    have hEnd := hForest.ends tok hMem
    have hNot :=
      JsmnTok.stop_ne_of_ended hBegin.1 (hClosed hOk tok hMem)
    refine ⟨by omega, ?_⟩
    unfold JsmnTok.text JsmnTok.textFrom
    rw [List.length_take, List.length_drop]
    omega

/- A text that is no document: a number behind two commas. -/
theorem jsmnParse_forest_commas :
    jsmnParse (ascii ",,1") = (1, [⟨.primitive, 2, 3⟩]) ∧
      Forest 3 (jsmnParse (ascii ",,1")).2 :=
  ⟨by decide +kernel,
    (jsmnParse_forest (ascii ",,1") (by decide)).2.1⟩

end Shadow

end TrustOnboard
