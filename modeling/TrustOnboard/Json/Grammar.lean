import TrustOnboard.Memory.Text

/-
  The grammar of JSON texts.

  A reading relates a value, a text that begins with it, and
  what is left of the text behind it.  Texts are sequences of
  bytes: every byte from the space on, other than the quote
  and the backslash, stands for itself in a string, so that
  the encoding of the characters is not looked at.

  Key definitions include:
    * `Json.Value`
    * `Json.Chars`
    * `Json.Reads`
    * `Json.IsText`

  Key results include:
    * `Json.Chars.of_plain`
    * `Json.Chars.plain_of_verbatim`
-/

------------------------------------------------------------
-- Strings
------------------------------------------------------------

namespace TrustOnboard

namespace Json

/- A byte that stands for itself in a string. -/
def Plain (b : UInt8) : Prop :=
  32 ≤ b ∧ b ≠ 34 ∧ b ≠ 92

instance (b : UInt8) : Decidable (Plain b) :=
  inferInstanceAs (Decidable (_ ∧ _))

/- The byte an escape of two characters stands for. -/
def escaped (e : UInt8) : Option UInt8 :=
  if e = 34 ∨ e = 92 ∨ e = 47 then some e
  else if e = 98 then some 8
  else if e = 102 then some 12
  else if e = 110 then some 10
  else if e = 114 then some 13
  else if e = 116 then some 9
  else none

/- The value of a hexadecimal digit. -/
def hexDigit (b : UInt8) : Option Nat :=
  if 48 ≤ b ∧ b ≤ 57 then some (b.toNat - 48)
  else if 97 ≤ b ∧ b ≤ 102 then some (b.toNat - 87)
  else if 65 ≤ b ∧ b ≤ 70 then some (b.toNat - 55)
  else none

/- The number four hexadecimal digits spell. -/
def hexQuad (a b c d : UInt8) : Option Nat := do
  let a ← hexDigit a
  let b ← hexDigit b
  let c ← hexDigit c
  let d ← hexDigit d
  pure (4096 * a + 256 * b + 16 * c + d)

/- The UTF-8 encoding of a code point. -/
def utf8 (n : Nat) : Bytes :=
  if n < 128 then [UInt8.ofNat n]
  else if n < 2048 then
    [UInt8.ofNat (192 + n / 64), UInt8.ofNat (128 + n % 64)]
  else if n < 65536 then
    [UInt8.ofNat (224 + n / 4096),
      UInt8.ofNat (128 + n / 64 % 64),
      UInt8.ofNat (128 + n % 64)]
  else
    [UInt8.ofNat (240 + n / 262144),
      UInt8.ofNat (128 + n / 4096 % 64),
      UInt8.ofNat (128 + n / 64 % 64),
      UInt8.ofNat (128 + n % 64)]

/-
  The characters of a string, read from behind its opening
  quote to behind its closing one.
-/
inductive Chars : Bytes → Bytes → Bytes → Prop where
  | close
      (r : Bytes) :
      Chars [] (34 :: r) r
  | plain
      {b : UInt8}
      {cs s r : Bytes}
      (hPlain : Plain b)
      (hRest : Chars cs s r) :
      Chars (b :: cs) (b :: s) r
  | escape
      {e d : UInt8}
      {cs s r : Bytes}
      (hEscaped : escaped e = some d)
      (hRest : Chars cs s r) :
      Chars (d :: cs) (92 :: e :: s) r
  | unicode
      {a b c d : UInt8}
      {n : Nat}
      {cs s r : Bytes}
      (hHex : hexQuad a b c d = some n)
      (hWhole : n < 55296 ∨ 57344 ≤ n)
      (hRest : Chars cs s r) :
      Chars (utf8 n ++ cs)
        (92 :: 117 :: a :: b :: c :: d :: s) r
  | surrogates
      {a b c d a' b' c' d' : UInt8}
      {m n : Nat}
      {cs s r : Bytes}
      (hHigh : hexQuad a b c d = some m)
      (hLow : hexQuad a' b' c' d' = some n)
      (hFirst : 55296 ≤ m ∧ m < 56320)
      (hSecond : 56320 ≤ n ∧ n < 57344)
      (hRest : Chars cs s r) :
      Chars
        (utf8
            (65536 + 1024 * (m - 55296) + (n - 56320)) ++ cs)
        (92 :: 117 :: a :: b :: c :: d :: 92 :: 117 :: a' ::
          b' :: c' :: d' :: s) r

theorem length_utf8_le
    (n : Nat) :
    (utf8 n).length ≤ 4 := by
  unfold utf8
  split
  · simp
  split
  · simp
  split
  · simp
  · simp

/- The bytes of an encoding that has several are high. -/
theorem ofNat_ne_backslash
    {n : Nat}
    (hHigh : 128 ≤ n)
    (hByte : n < 256) :
    UInt8.ofNat n ≠ 92 := by
  intro hEq
  have hNat := congrArg UInt8.toNat hEq
  rw [UInt8.toNat_ofNat', Nat.mod_eq_of_lt hByte] at hNat
  have hLow : (92 : UInt8).toNat = 92 := rfl
  omega

theorem count_cons_le_one
    {b : UInt8}
    {tail : Bytes}
    (hTail : ∀ c ∈ tail, c ≠ 92) :
    (b :: tail).count 92 ≤ 1 := by
  have hNot : 92 ∉ tail := fun hMem => hTail 92 hMem rfl
  rw [List.count_cons, List.count_eq_zero_of_not_mem hNot]
  split <;> omega

theorem count_utf8_le
    (n : Nat) :
    (utf8 n).count 92 ≤ 1 := by
  have hTail :
      ∀ k : Nat, UInt8.ofNat (128 + k % 64) ≠ 92 :=
    fun k => ofNat_ne_backslash (by omega) (by omega)
  unfold utf8
  split
  · exact List.count_le_length
  split
  · exact
      count_cons_le_one
        (List.forall_mem_cons.mpr ⟨hTail _, List.forall_mem_nil _⟩)
  split
  · exact
      count_cons_le_one
        (List.forall_mem_cons.mpr ⟨hTail _,
          List.forall_mem_cons.mpr ⟨hTail _,
            List.forall_mem_nil _⟩⟩)
  · exact
      count_cons_le_one
        (List.forall_mem_cons.mpr ⟨hTail _,
          List.forall_mem_cons.mpr ⟨hTail _,
            List.forall_mem_cons.mpr ⟨hTail _,
              List.forall_mem_nil _⟩⟩⟩)

theorem hexDigit_ne_quote
    {b : UInt8}
    {n : Nat}
    (hHex : hexDigit b = some n) :
    b ≠ 34 := by
  rintro rfl
  cases hHex

theorem hexQuad_ne_quote
    {a b c d : UInt8}
    {n : Nat}
    (hHex : hexQuad a b c d = some n) :
    a ≠ 34 ∧ b ≠ 34 ∧ c ≠ 34 ∧ d ≠ 34 := by
  unfold hexQuad at hHex
  simp only [Option.bind_eq_bind, Option.bind_eq_some_iff]
    at hHex
  rcases hHex with ⟨a', hA, b', hB, c', hC, d', hD, _⟩
  exact
    ⟨hexDigit_ne_quote hA, hexDigit_ne_quote hB,
      hexDigit_ne_quote hC, hexDigit_ne_quote hD⟩

/- An escape neither hides nor makes a quote. -/
theorem quote_of_escaped
    {e d : UInt8}
    (hEscaped : escaped e = some d)
    (hQuote : e = 34) :
    d = 34 := by
  subst hQuote
  cases hEscaped
  rfl

theorem backslash_escaped_iff
    {e d : UInt8}
    (hEscaped : escaped e = some d) :
    d = 92 ↔ e = 92 := by
  unfold escaped at hEscaped
  split at hEscaped
  · cases hEscaped
    rfl
  rename_i hNot
  have hNo : e ≠ 92 := fun he => hNot (by simp [he])
  refine ⟨fun hd => ?_, fun he => absurd he hNo⟩
  subst hd
  split at hEscaped
  · cases hEscaped
  split at hEscaped
  · cases hEscaped
  split at hEscaped
  · cases hEscaped
  split at hEscaped
  · cases hEscaped
  split at hEscaped
  · cases hEscaped
  · cases hEscaped

namespace Chars

/- Characters that stand for themselves. -/
theorem of_plain
    {cs : Bytes}
    (hPlain : ∀ b ∈ cs, Plain b)
    (r : Bytes) :
    Chars cs (cs ++ 34 :: r) r := by
  induction cs with
  | nil => exact .close r
  | cons b cs ih =>
      have hRest :=
        ih (fun b hb => hPlain b (List.mem_cons_of_mem _ hb))
      exact .plain (hPlain b List.mem_cons_self) hRest

/-
  The source of some characters: it is not shorter than they
  are, it has no more quotes and no fewer backslashes, and it
  is the characters themselves when it is as long.  An escape
  of two characters has a backslash more than what it stands
  for, and any other is longer by two at least.
-/
structure Source
    (cs raw : Bytes) : Prop where
  length : cs.length ≤ raw.length
  quotes : raw.count 34 ≤ cs.count 34
  backslashes : cs.count 92 ≤ raw.count 92
  balanced :
    cs.count 92 = raw.count 92 →
      cs.length = raw.length ∨ cs.length + 2 ≤ raw.length
  verbatim :
    cs.length = raw.length →
      raw = cs ∧ ∀ b ∈ cs, Plain b

theorem source
    {cs s r : Bytes}
    (hChars : Chars cs s r) :
    ∃ raw, s = raw ++ 34 :: r ∧ Source cs raw := by
  -- Along the reading, one case for each way to write a
  -- character.
  induction hChars with
  | close r =>
      exact
        ⟨[], rfl, by simp, by simp, by simp, by simp, by simp⟩
  | plain hPlain hRest ih =>
      rename_i b cs s r
      rcases ih with ⟨raw, rfl, hSource⟩
      refine ⟨b :: raw, rfl, ?_, ?_, ?_, ?_, ?_⟩
      · simpa using hSource.length
      · have hQuotes := hSource.quotes
        simp only [List.count_cons]
        omega
      · have hSlashes := hSource.backslashes
        simp only [List.count_cons]
        omega
      · intro hSame
        simp only [List.count_cons] at hSame
        have hBalanced := hSource.balanced (by omega)
        simp only [List.length_cons]
        omega
      · intro hLength
        rcases hSource.verbatim (by simpa using hLength) with
          ⟨rfl, hAll⟩
        refine ⟨rfl, ?_⟩
        intro b' hb'
        rcases List.mem_cons.mp hb' with rfl | hMem
        · exact hPlain
        · exact hAll b' hMem
  | escape hEscaped hRest ih =>
      rename_i e d cs s r
      rcases ih with ⟨raw, rfl, hSource⟩
      have hLength := hSource.length
      have hSlashes := hSource.backslashes
      have hMore :
          (d :: cs).count 92 + 1 ≤
            (92 :: e :: raw).count 92 := by
        simp only [List.count_cons, beq_iff_eq,
          backslash_escaped_iff hEscaped]
        rw [if_pos trivial]
        omega
      refine ⟨92 :: e :: raw, rfl, ?_, ?_, ?_, ?_, ?_⟩
      · simp only [List.length_cons]
        omega
      · have hQuotes := hSource.quotes
        have hSame := quote_of_escaped hEscaped
        by_cases hQuote : e = 34
        · simp [hQuote, hSame hQuote, hQuotes]
        · simp only [List.count_cons, beq_iff_eq, hQuote,
            if_false]
          have hNot : ¬ (92 : UInt8) = 34 := by decide
          rw [if_neg hNot]
          omega
      · omega
      · omega
      · intro hEq
        simp only [List.length_cons] at hEq
        omega
  | unicode hHex hWhole hRest ih =>
      rename_i a b c d n cs s r
      rcases ih with ⟨raw, rfl, hSource⟩
      have hLength := hSource.length
      have hShort := length_utf8_le n
      have hOne := count_utf8_le n
      have hSlashes := hSource.backslashes
      refine
        ⟨92 :: 117 :: a :: b :: c :: d :: raw, rfl, ?_, ?_, ?_,
          ?_, ?_⟩
      · simp only [List.length_cons, List.length_append]
        omega
      · have hQuotes := hSource.quotes
        rcases hexQuad_ne_quote hHex with ⟨hA, hB, hC, hD⟩
        simp [hA, hB, hC, hD]
        omega
      · simp only [List.count_cons, List.count_append,
          beq_self_eq_true, if_true]
        omega
      · intro _
        right
        simp only [List.length_cons, List.length_append]
        omega
      · intro hEq
        simp only [List.length_cons, List.length_append] at hEq
        omega
  | surrogates hHigh hLow hFirst hSecond hRest ih =>
      rename_i a b c d a' b' c' d' m n cs s r
      rcases ih with ⟨raw, rfl, hSource⟩
      have hLength := hSource.length
      have hShort :=
        length_utf8_le
          (65536 + 1024 * (m - 55296) + (n - 56320))
      have hOne :=
        count_utf8_le
          (65536 + 1024 * (m - 55296) + (n - 56320))
      have hSlashes := hSource.backslashes
      refine
        ⟨92 :: 117 :: a :: b :: c :: d :: 92 :: 117 :: a' ::
          b' :: c' :: d' :: raw, rfl, ?_, ?_, ?_, ?_, ?_⟩
      · simp only [List.length_cons, List.length_append]
        omega
      · have hQuotes := hSource.quotes
        rcases hexQuad_ne_quote hHigh with ⟨hA, hB, hC, hD⟩
        rcases hexQuad_ne_quote hLow with
          ⟨hA', hB', hC', hD'⟩
        simp [hA, hB, hC, hD, hA', hB', hC', hD']
        omega
      · simp only [List.count_cons, List.count_append,
          beq_self_eq_true, if_true]
        omega
      · intro _
        right
        simp only [List.length_cons, List.length_append]
        omega
      · intro hEq
        simp only [List.length_cons, List.length_append] at hEq
        omega

/-
  A string that is read back from its own characters and a
  quote has no character that needs an escape, and ends at
  that quote.
-/
theorem plain_of_verbatim
    {cs s r : Bytes}
    (hChars : Chars cs (cs ++ 34 :: s) r) :
    (∀ b ∈ cs, Plain b) ∧ r = s := by
  rcases hChars.source with ⟨raw, hText, hSource⟩
  have hLength := hSource.length
  rcases Nat.lt_or_ge cs.length raw.length with hLong | hSame
  · -- The quote behind the characters was read as one of
    -- them, which makes one quote too many.
    have hLeft : cs ++ [34] <+: raw ++ 34 :: r :=
      ⟨s, by simpa using hText⟩
    have hRight : raw <+: raw ++ 34 :: r := ⟨34 :: r, rfl⟩
    have hPrefix : cs ++ [34] <+: raw :=
      List.prefix_of_prefix_length_le hLeft hRight
        (by simpa using hLong)
    have hCount := hPrefix.sublist.count_le 34
    have hQuotes := hSource.quotes
    simp at hCount
    omega
  · have hEq : cs.length = raw.length := by omega
    rcases hSource.verbatim hEq with ⟨rfl, hPlain⟩
    refine ⟨hPlain, ?_⟩
    have hRest := List.append_cancel_left hText
    exact (List.cons.inj hRest).2.symm

/-
  A string is not read back from a text that differs from it
  at the end, where neither has a quote or a backslash and
  the text is longer by one at most.
-/
theorem not_of_ne_end
    {a x y s r : Bytes}
    (hX : 92 ∉ x)
    (hY : 92 ∉ y)
    (hX' : 34 ∉ x)
    (hY' : 34 ∉ y)
    (hLong : y.length ≤ x.length + 1)
    (hNe : x ≠ y) :
    ¬ Chars (a ++ x) (a ++ y ++ 34 :: s) r := by
  intro hChars
  rcases hChars.source with ⟨raw, hText, hSource⟩
  have hLength := hSource.length
  have hQuotes := hSource.quotes
  rw [List.length_append] at hLength
  have hRaw : raw <+: a ++ y ++ 34 :: s :=
    ⟨34 :: r, hText.symm⟩
  have hSame : raw = a ++ y := by
    rcases Nat.lt_trichotomy raw.length (a ++ y).length with
      hShort | hEq | hOver
    · -- The quote that ends the string lies in the end.
      have hPrefix : raw <+: a ++ y :=
        List.prefix_of_prefix_length_le hRaw ⟨34 :: s, rfl⟩
          (Nat.le_of_lt hShort)
      rcases hPrefix with ⟨rest, hRest⟩
      rw [← hRest, List.append_assoc] at hText
      have hTail := List.append_cancel_left hText
      cases rest with
      | nil =>
          rw [List.append_nil] at hRest
          exact hRest
      | cons b rest =>
          cases (List.cons.inj hTail).1
          have hDrop :
              34 :: rest = y.drop (raw.length - a.length) := by
            have hDrop := congrArg (List.drop raw.length) hRest
            rwa [List.drop_left, List.drop_append,
              List.drop_of_length_le (by omega),
              List.nil_append] at hDrop
          have hMem : 34 ∈ y.drop (raw.length - a.length) := by
            rw [← hDrop]
            exact List.mem_cons_self
          exact absurd (List.mem_of_mem_drop hMem) hY'
    · exact
        (List.append_inj hText hEq.symm).1.symm
    · have hLeft : a ++ y ++ [34] <+: raw ++ 34 :: r :=
        ⟨s, by simpa using hText⟩
      have hPrefix : a ++ y ++ [34] <+: raw :=
        List.prefix_of_prefix_length_le hLeft
          ⟨34 :: r, rfl⟩
          (by rw [List.length_append]; exact hOver)
      have hCount := hPrefix.sublist.count_le 34
      simp only [List.count_append,
        List.count_eq_zero_of_not_mem hX',
        List.count_eq_zero_of_not_mem hY',
        List.count_singleton_self] at hCount hQuotes
      omega
  subst hSame
  rcases hSource.balanced
      (by simp [List.count_eq_zero_of_not_mem, hX, hY]) with
    hEq | hOver
  · have hAppend := (hSource.verbatim hEq).1
    exact hNe (List.append_cancel_left hAppend).symm
  · simp only [List.length_append] at hOver
    omega

end Chars

end Json

end TrustOnboard

------------------------------------------------------------
-- Values
------------------------------------------------------------

namespace TrustOnboard

namespace Json

/- A value, with its numbers as they are spelled. -/
inductive Value where
  | null
  | bool (b : Bool)
  | number (literal : Bytes)
  | string (chars : Bytes)
  | array (items : List Value)
  | object (members : List (Bytes × Value))

/- The whole part of a number. -/
def IsWhole (ds : Bytes) : Prop :=
  ds = [48] ∨
    ∃ d rest,
      ds = d :: rest ∧ 49 ≤ d ∧ d ≤ 57 ∧
        ∀ b ∈ rest, IsDigit b

/- A non-empty run of digits. -/
def IsDigits (ds : Bytes) : Prop :=
  ds ≠ [] ∧ ∀ b ∈ ds, IsDigit b

/- The spelling of a number. -/
def IsNumber (literal : Bytes) : Prop :=
  ∃ sign whole fraction exponent,
    literal = sign ++ whole ++ fraction ++ exponent ∧
      (sign = [] ∨ sign = [45]) ∧
      IsWhole whole ∧
      (fraction = [] ∨
        ∃ ds, fraction = 46 :: ds ∧ IsDigits ds) ∧
      (exponent = [] ∨
        ∃ e s ds, exponent = e :: (s ++ ds) ∧
          (e = 101 ∨ e = 69) ∧
          (s = [] ∨ s = [43] ∨ s = [45]) ∧ IsDigits ds)

/- The blanks between the parts of a text. -/
def isBlank (b : UInt8) : Bool :=
  b == 32 || b == 9 || b == 10 || b == 13

/- What is left behind the blanks. -/
def skip (s : Bytes) : Bytes :=
  s.dropWhile isBlank

mutual

/- A value at the start of a text, and the rest behind it. -/
inductive Reads : Value → Bytes → Bytes → Prop where
  | null
      {s r : Bytes}
      (hText : skip s = ascii "null" ++ r) :
      Reads .null s r
  | bool
      {b : Bool}
      {s r : Bytes}
      (hText :
        skip s =
          (if b then ascii "true" else ascii "false") ++ r) :
      Reads (.bool b) s r
  | number
      {literal s r : Bytes}
      (hNumber : IsNumber literal)
      (hText : skip s = literal ++ r) :
      Reads (.number literal) s r
  | string
      {cs s t r : Bytes}
      (hOpen : skip s = 34 :: t)
      (hChars : Chars cs t r) :
      Reads (.string cs) s r
  | emptyArray
      {s t r : Bytes}
      (hOpen : skip s = 91 :: t)
      (hClose : skip t = 93 :: r) :
      Reads (.array []) s r
  | array
      {v : Value}
      {vs : List Value}
      {s t r : Bytes}
      (hOpen : skip s = 91 :: t)
      (hItems : ReadsItems v vs t r) :
      Reads (.array (v :: vs)) s r
  | emptyObject
      {s t r : Bytes}
      (hOpen : skip s = 123 :: t)
      (hClose : skip t = 125 :: r) :
      Reads (.object []) s r
  | object
      {k : Bytes}
      {v : Value}
      {ms : List (Bytes × Value)}
      {s t r : Bytes}
      (hOpen : skip s = 123 :: t)
      (hMembers : ReadsMembers k v ms t r) :
      Reads (.object ((k, v) :: ms)) s r

/- The items of an array up to its closing bracket. -/
inductive ReadsItems :
    Value → List Value → Bytes → Bytes → Prop where
  | last
      {v : Value}
      {s t r : Bytes}
      (hItem : Reads v s t)
      (hClose : skip t = 93 :: r) :
      ReadsItems v [] s r
  | more
      {v v' : Value}
      {vs : List Value}
      {s t t' r : Bytes}
      (hItem : Reads v s t)
      (hComma : skip t = 44 :: t')
      (hRest : ReadsItems v' vs t' r) :
      ReadsItems v (v' :: vs) s r

/- The members of an object up to its closing brace. -/
inductive ReadsMembers :
    Bytes → Value → List (Bytes × Value) → Bytes → Bytes →
      Prop where
  | last
      {k : Bytes}
      {v : Value}
      {s t₁ t₂ t₃ t₄ r : Bytes}
      (hOpen : skip s = 34 :: t₁)
      (hKey : Chars k t₁ t₂)
      (hColon : skip t₂ = 58 :: t₃)
      (hValue : Reads v t₃ t₄)
      (hClose : skip t₄ = 125 :: r) :
      ReadsMembers k v [] s r
  | more
      {k k' : Bytes}
      {v v' : Value}
      {ms : List (Bytes × Value)}
      {s t₁ t₂ t₃ t₄ t₅ r : Bytes}
      (hOpen : skip s = 34 :: t₁)
      (hKey : Chars k t₁ t₂)
      (hColon : skip t₂ = 58 :: t₃)
      (hValue : Reads v t₃ t₄)
      (hComma : skip t₄ = 44 :: t₅)
      (hRest : ReadsMembers k' v' ms t₅ r) :
      ReadsMembers k v ((k', v') :: ms) s r

end

/- A whole text that spells a value. -/
def IsText (v : Value) (s : Bytes) : Prop :=
  ∃ r, Reads v s r ∧ skip r = []

theorem skip_cons_of_not_blank
    {b : UInt8}
    (hSolid : isBlank b = false)
    (s : Bytes) :
    skip (b :: s) = b :: s := by
  unfold skip
  rw [List.dropWhile_cons_of_neg (by simp [hSolid])]

/- The numeral of a natural number spells a number. -/
theorem isWhole_decimal
    (n : Nat) :
    IsWhole (decimal n) := by
  by_cases hZero : n = 0
  · subst hZero
    exact Or.inl rfl
  · exact Or.inr (decimal_head hZero)

theorem isNumber_signedDecimal
    (i : Int) :
    IsNumber (signedDecimal i) := by
  cases i with
  | ofNat n =>
      refine
        ⟨[], decimal n, [], [], ?_, Or.inl rfl,
          isWhole_decimal n, Or.inl rfl, Or.inl rfl⟩
      simp [signedDecimal]
  | negSucc n =>
      refine
        ⟨[45], decimal (n + 1), [], [], ?_, Or.inr rfl,
          isWhole_decimal (n + 1), Or.inl rfl, Or.inl rfl⟩
      simp [signedDecimal]

end Json

end TrustOnboard
