import TrustOnboard.Json.Grammar

/-
  Writing JSON texts.

  A text spells a value under a condition when reading the
  value from the text, whatever follows it, goes through
  exactly under that condition and leaves what follows.
  Objects are written with a comma behind every member, the
  last of which is overwritten by the closing brace.  Where
  there is no member, it is the opening brace that is
  overwritten.

  Key definitions include:
    * `Json.Spells`
    * `Json.Item`
    * `Json.objectText`

  Key results include:
    * `Json.readsMembers_iff`
    * `Json.spells_object`
-/

------------------------------------------------------------
-- Literals
------------------------------------------------------------

namespace TrustOnboard

namespace Json

/- A literal that starts with no blank is read as it is. -/
theorem skip_append
    {b : UInt8}
    {text : Bytes}
    (hSolid : isBlank b = false)
    (hHead : text.head? = some b)
    (s : Bytes) :
    skip (text ++ s) = text ++ s := by
  cases text with
  | nil => cases hHead
  | cons a text =>
      cases hHead
      exact skip_cons_of_not_blank hSolid _

theorem isBlank_of_isDigit
    {b : UInt8}
    (hDigit : IsDigit b) :
    isBlank b = false := by
  have hLow := hDigit.1
  have hNot : ∀ c : UInt8, c < 48 → b ≠ c := by
    rintro c hc rfl
    exact absurd hc (UInt8.not_lt.mpr hLow)
  simp [isBlank, hNot 32 (by decide),
    hNot 9 (by decide), hNot 10 (by decide),
    hNot 13 (by decide)]

theorem skip_decimal
    (n : Nat)
    (s : Bytes) :
    skip (decimal n ++ s) = decimal n ++ s := by
  cases hText : decimal n with
  | nil => exact absurd hText (decimal_ne_nil n)
  | cons b ds =>
      have hDigit : IsDigit b := by
        refine decimal_digits n b ?_
        rw [hText]
        exact List.mem_cons_self
      exact skip_append (isBlank_of_isDigit hDigit) rfl s

theorem skip_signedDecimal
    (i : Int)
    (s : Bytes) :
    skip (signedDecimal i ++ s) = signedDecimal i ++ s := by
  cases i with
  | ofNat n => exact skip_decimal n s
  | negSucc n => exact skip_append (b := 45) rfl rfl s

/- A number is read where it stands. -/
theorem reads_number_iff
    (i : Int)
    (s r : Bytes) :
    Reads (.number (signedDecimal i)) (signedDecimal i ++ s)
        r ↔
      r = s := by
  constructor
  · intro hReads
    cases hReads with
    | number _ hText =>
        rw [skip_signedDecimal] at hText
        exact (List.append_cancel_left hText).symm
  · rintro rfl
    exact
      .number (isNumber_signedDecimal i)
        (skip_signedDecimal i r)

theorem reads_bool_iff
    (b : Bool)
    (s r : Bytes) :
    Reads (.bool b)
        ((if b then ascii "true" else ascii "false") ++ s)
        r ↔
      r = s := by
  have hSkip :
      skip
          ((if b then ascii "true" else ascii "false") ++
            s) =
        (if b then ascii "true" else ascii "false") ++ s := by
    cases b with
    | false => exact skip_append (b := 102) rfl rfl s
    | true => exact skip_append (b := 116) rfl rfl s
  constructor
  · intro hReads
    cases hReads with
    | bool hText =>
        rw [hSkip] at hText
        exact (List.append_cancel_left hText).symm
  · rintro rfl
    exact .bool hSkip

/- A string is read where it stands unless it is escaped. -/
theorem chars_iff
    (cs s r : Bytes) :
    Chars cs (cs ++ 34 :: s) r ↔
      (∀ b ∈ cs, Plain b) ∧ r = s := by
  constructor
  · exact Chars.plain_of_verbatim
  · rintro ⟨hPlain, rfl⟩
    exact Chars.of_plain hPlain r

theorem reads_string_iff
    (cs s r : Bytes) :
    Reads (.string cs) (34 :: (cs ++ 34 :: s)) r ↔
      (∀ b ∈ cs, Plain b) ∧ r = s := by
  have hSkip :
      skip (34 :: (cs ++ 34 :: s)) =
        34 :: (cs ++ 34 :: s) :=
    skip_cons_of_not_blank rfl _
  constructor
  · intro hReads
    cases hReads with
    | string hOpen hChars =>
        rw [hSkip] at hOpen
        cases hOpen
        exact (chars_iff _ _ _).mp hChars
  · intro hPlain
    exact .string hSkip ((chars_iff _ _ _).mpr hPlain)

end Json

end TrustOnboard

------------------------------------------------------------
-- Objects
------------------------------------------------------------

namespace TrustOnboard

namespace Json

/- A text spells a value exactly under a condition. -/
def Spells
    (condition : Prop)
    (v : Value)
    (text : Bytes) : Prop :=
  ∀ s r, Reads v (text ++ s) r ↔ condition ∧ r = s

/-
  A member to be written: the text of its value, and when it
  spells that value.
-/
structure Item where
  key : Bytes
  value : Value
  text : Bytes
  condition : Prop
  spells : Spells condition value text

namespace Item

/- The member of the object. -/
def member (i : Item) : Bytes × Value :=
  (i.key, i.value)

/- What is written for it, up to its comma. -/
def written (i : Item) : Bytes :=
  34 :: (i.key ++ 34 :: 58 :: (i.text ++ [44]))

/- When it can be read back. -/
def Legible (i : Item) : Prop :=
  (∀ b ∈ i.key, Plain b) ∧ i.condition

end Item

/- An object, as it is written. -/
def objectText (items : List Item) : Bytes :=
  (123 :: items.flatMap Item.written).dropLast ++ [125]

/- The last comma of some members gives way to a text. -/
theorem dropLast_written
    (i : Item)
    (items : List Item)
    (s : Bytes) :
    ((i :: items).flatMap Item.written).dropLast ++ s =
      34 :: (i.key ++ 34 :: 58 :: (i.text ++
        (if items = [] then s
        else
          44 :: ((items.flatMap Item.written).dropLast ++
            s)))) := by
  cases items with
  | nil =>
      have hText :
          [i].flatMap Item.written =
            (34 :: (i.key ++ 34 :: 58 :: i.text)) ++ [44] := by
        simp [Item.written]
      rw [hText, List.dropLast_concat]
      simp
  | cons j items =>
      have hNe :
          (j :: items).flatMap Item.written ≠ [] := by
        simp [Item.written]
      have hText :
          (i :: j :: items).flatMap Item.written =
            i.written ++ (j :: items).flatMap Item.written :=
        List.flatMap_cons
      rw [hText, List.dropLast_append_of_ne_nil hNe]
      simp [Item.written]

/- The key of a member and the colon behind it. -/
theorem key_iff
    {k s t₁ t₂ t₃ : Bytes}
    (hOpen : skip (34 :: (k ++ 34 :: 58 :: s)) = 34 :: t₁)
    (hKey : Chars k t₁ t₂)
    (hColon : skip t₂ = 58 :: t₃) :
    (∀ b ∈ k, Plain b) ∧ t₃ = s := by
  rw [skip_cons_of_not_blank rfl] at hOpen
  cases hOpen
  rcases (chars_iff _ _ _).mp hKey with ⟨hPlain, rfl⟩
  rw [skip_cons_of_not_blank rfl] at hColon
  cases hColon
  exact ⟨hPlain, rfl⟩

/-
  Members that were written are read back when each of them
  can be.
-/
theorem readsMembers_iff
    (i : Item)
    (items : List Item)
    (s r : Bytes) :
    ReadsMembers i.key i.value (items.map Item.member)
        (((i :: items).flatMap Item.written).dropLast ++
          125 :: s) r ↔
      (∀ j ∈ i :: items, j.Legible) ∧ r = s := by
  induction items generalizing i with
  | nil =>
      rw [dropLast_written, if_pos rfl]
      constructor
      · intro hReads
        cases hReads with
        | last hOpen hKey hColon hValue hClose =>
            rcases key_iff hOpen hKey hColon with
              ⟨hPlain, rfl⟩
            rcases (i.spells _ _).mp hValue with
              ⟨hCondition, rfl⟩
            rw [skip_cons_of_not_blank rfl] at hClose
            cases hClose
            refine ⟨?_, rfl⟩
            intro j hj
            cases List.mem_singleton.mp hj
            exact ⟨hPlain, hCondition⟩
      · rintro ⟨hAll, rfl⟩
        have hLegible := hAll i List.mem_cons_self
        exact
          .last (skip_cons_of_not_blank rfl _)
            ((chars_iff _ _ _).mpr ⟨hLegible.1, rfl⟩)
            (skip_cons_of_not_blank rfl _)
            ((i.spells _ _).mpr ⟨hLegible.2, rfl⟩)
            (skip_cons_of_not_blank rfl _)
  | cons j items ih =>
      rw [dropLast_written, if_neg (List.cons_ne_nil _ _)]
      constructor
      · intro hReads
        cases hReads with
        | more hOpen hKey hColon hValue hComma hRest =>
            rcases key_iff hOpen hKey hColon with
              ⟨hPlain, rfl⟩
            rcases (i.spells _ _).mp hValue with
              ⟨hCondition, rfl⟩
            rw [skip_cons_of_not_blank rfl] at hComma
            cases hComma
            rcases (ih j).mp hRest with ⟨hAll, rfl⟩
            refine ⟨?_, rfl⟩
            intro j' hj'
            rcases List.mem_cons.mp hj' with rfl | hMem
            · exact ⟨hPlain, hCondition⟩
            · exact hAll j' hMem
      · rintro ⟨hAll, rfl⟩
        have hLegible := hAll i List.mem_cons_self
        have hRest :=
          (ih j).mpr
            ⟨fun j' hj' =>
              hAll j' (List.mem_cons_of_mem _ hj'), rfl⟩
        exact
          .more (skip_cons_of_not_blank rfl _)
            ((chars_iff _ _ _).mpr ⟨hLegible.1, rfl⟩)
            (skip_cons_of_not_blank rfl _)
            ((i.spells _ _).mpr ⟨hLegible.2, rfl⟩)
            (skip_cons_of_not_blank rfl _) hRest

/- An object is spelled when it has a member at all. -/
theorem spells_object
    (items : List Item) :
    Spells (items ≠ [] ∧ ∀ i ∈ items, i.Legible)
      (.object (items.map Item.member))
      (objectText items) := by
  intro s r
  cases items with
  | nil =>
      -- What is left of the object is its closing brace.
      constructor
      · intro hReads
        cases hReads with
        | emptyObject hOpen _ =>
            have hClose : skip (125 :: s) = 125 :: s :=
              skip_cons_of_not_blank rfl s
            rw [show objectText [] ++ s = 125 :: s from rfl,
              hClose] at hOpen
            cases hOpen
      · rintro ⟨⟨hNo, _⟩, _⟩
        exact absurd rfl hNo
  | cons i items =>
      have hNe : (i :: items).flatMap Item.written ≠ [] := by
        simp [Item.written]
      have hText :
          objectText (i :: items) ++ s =
            123 ::
              (((i :: items).flatMap Item.written).dropLast ++
                125 :: s) := by
        unfold objectText
        rw [List.dropLast_cons_of_ne_nil hNe]
        simp
      rw [hText]
      constructor
      · intro hReads
        cases hReads with
        | object hOpen hMembers =>
            rw [skip_cons_of_not_blank rfl] at hOpen
            cases hOpen
            rcases (readsMembers_iff i items s r).mp
              hMembers with ⟨hAll, rfl⟩
            exact ⟨⟨List.cons_ne_nil _ _, hAll⟩, rfl⟩
      · rintro ⟨⟨_, hAll⟩, rfl⟩
        exact
          .object (skip_cons_of_not_blank rfl _)
            ((readsMembers_iff i items r r).mpr ⟨hAll, rfl⟩)

end Json

end TrustOnboard
