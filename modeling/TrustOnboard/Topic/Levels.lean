import Mathlib.Data.List.Basic

/-
  Topic filters and topic names as lists of levels.

  A filter or a name is a text cut at its separators.  Two
  characters of a filter stand for levels of a name: one for
  a single level, the other, at the end, for all levels that
  are left.  Levels may be empty.

  Key definitions include:
    * `Alphabet`
    * `Alphabet.levels`
    * `WellFormed`
    * `Covers`
    * `CoversText`
    * `FacesText`

  Key results include:
    * `levels_cons`
    * `coversText_literal`
    * `CoversText.covers`
    * `Covers.text_iff`
-/

------------------------------------------------------------
-- Levels
------------------------------------------------------------

namespace TrustOnboard

namespace Topic

/- The characters with a meaning of their own in filters. -/
structure Alphabet (α : Type) where
  separator : α
  singleLevel : α
  multiLevel : α
  single_ne_separator : singleLevel ≠ separator
  multi_ne_separator : multiLevel ≠ separator
  single_ne_multi : singleLevel ≠ multiLevel

variable {α : Type}

/- The two characters that stand for levels. -/
def Alphabet.IsWildcard (A : Alphabet α) (c : α) : Prop :=
  c = A.singleLevel ∨ c = A.multiLevel

variable [DecidableEq α]

/- The levels of a text. -/
def Alphabet.levels
    (A : Alphabet α)
    (text : List α) : List (List α) :=
  text.splitOn A.separator

variable {A : Alphabet α}

@[simp] theorem levels_nil :
    A.levels [] = [[]] :=
  List.splitOn_nil _

/- A separator ends an empty level. -/
@[simp] theorem levels_separator
    (text : List α) :
    A.levels (A.separator :: text) = [] :: A.levels text := by
  unfold Alphabet.levels
  rw [List.splitOn_cons_eq_if_modifyHead]
  simp

/- Any other character belongs to the first level. -/
theorem levels_cons
    {c : α}
    (hChar : c ≠ A.separator)
    {text level : List α}
    {rest : List (List α)}
    (hLevels : A.levels text = level :: rest) :
    A.levels (c :: text) = (c :: level) :: rest := by
  unfold Alphabet.levels at hLevels ⊢
  rw [List.splitOn_cons_eq_if_modifyHead, hLevels]
  simp [hChar]

/- There is always a first level. -/
theorem exists_level
    (A : Alphabet α)
    (text : List α) :
    ∃ level rest, A.levels text = level :: rest :=
  List.exists_cons_of_ne_nil (List.splitOn_ne_nil _ _)

/- A first level that is empty ends the text or its level. -/
theorem text_of_empty_level
    {text : List α}
    {rest : List (List α)}
    (hLevels : A.levels text = [] :: rest) :
    (text = [] ∧ rest = []) ∨
      ∃ text', text = A.separator :: text' ∧
        rest = A.levels text' := by
  cases text with
  | nil =>
      rw [levels_nil] at hLevels
      cases hLevels
      exact Or.inl ⟨rfl, rfl⟩
  | cons c text =>
      by_cases hChar : c = A.separator
      · subst hChar
        rw [levels_separator] at hLevels
        cases hLevels
        exact Or.inr ⟨text, rfl, rfl⟩
      · rcases exists_level A text with ⟨level, more, hText⟩
        rw [levels_cons hChar hText] at hLevels
        cases hLevels

/-
  What is left of a text after the characters of its first
  level.
-/
theorem levels_dropWhile
    {text level : List α}
    {rest : List (List α)}
    (hLevels : A.levels text = level :: rest) :
    A.levels (text.dropWhile (fun c => c ≠ A.separator)) =
      [] :: rest := by
  induction text generalizing level with
  | nil =>
      rw [levels_nil] at hLevels
      cases hLevels
      simp
  | cons c text ih =>
      by_cases hChar : c = A.separator
      · subst hChar
        rw [levels_separator] at hLevels
        cases hLevels
        simp
      · rcases exists_level A text with ⟨level', more, hText⟩
        rw [levels_cons hChar hText] at hLevels
        cases hLevels
        simpa [hChar] using ih hText

end Topic

end TrustOnboard

------------------------------------------------------------
-- Well-Formed Filters
------------------------------------------------------------

namespace TrustOnboard

namespace Topic

variable {α : Type}
variable {A : Alphabet α}

/- A wildcard occupies its level alone. -/
def LevelOk (A : Alphabet α) (level : List α) : Prop :=
  ∀ c ∈ level, A.IsWildcard c → level = [c]

/- Every level is in order, and nothing follows the last. -/
def LevelsOk (A : Alphabet α) : List (List α) → Prop
  | [] => True
  | level :: rest =>
      LevelOk A level ∧
        (level = [A.multiLevel] → rest = []) ∧
          LevelsOk A rest

theorem levelOk_nil : LevelOk A [] := by
  intro c hMem
  cases hMem

/- A level that begins with no wildcard has none. -/
theorem not_wildcard_of_levelOk
    {c : α}
    {level : List α}
    (hOk : LevelOk A (c :: level))
    (hLiteral : ¬ A.IsWildcard c) :
    ∀ c' ∈ level, ¬ A.IsWildcard c' := by
  intro c' hMem hWild
  have hAlone := hOk c' (List.mem_cons_of_mem _ hMem) hWild
  cases hAlone
  exact hLiteral hWild

/- A wildcard in front of a level is the whole level. -/
theorem level_of_wildcard
    {c : α}
    {level : List α}
    (hOk : LevelOk A (c :: level))
    (hWild : A.IsWildcard c) :
    level = [] :=
  (List.cons.inj (hOk c List.mem_cons_self hWild)).2

variable [DecidableEq α]

instance (c : α) : Decidable (A.IsWildcard c) :=
  inferInstanceAs (Decidable (_ ∨ _))

instance (level : List α) : Decidable (LevelOk A level) :=
  inferInstanceAs (Decidable (∀ c ∈ level, _))

/- The rules for wildcards can be checked. -/
instance decidableLevelsOk :
    (levels : List (List α)) → Decidable (LevelsOk A levels)
  | [] => isTrue trivial
  | level :: rest =>
      haveI := decidableLevelsOk rest
      inferInstanceAs
        (Decidable
          (LevelOk A level ∧
            (level = [A.multiLevel] → rest = []) ∧
              LevelsOk A rest))

/- A filter that keeps the rules for wildcards. -/
def WellFormed (A : Alphabet α) (filter : List α) : Prop :=
  LevelsOk A (A.levels filter)

instance (filter : List α) :
    Decidable (WellFormed A filter) :=
  inferInstanceAs (Decidable (LevelsOk A (A.levels filter)))

/- What follows a literal character is well formed. -/
theorem WellFormed.tail
    {c : α}
    {filter level : List α}
    {rest : List (List α)}
    (hOk : WellFormed A (c :: filter))
    (hLiteral : ¬ A.IsWildcard c)
    (hChar : c ≠ A.separator)
    (hLevels : A.levels filter = level :: rest) :
    WellFormed A filter ∧
      ∀ c' ∈ level, ¬ A.IsWildcard c' := by
  unfold WellFormed at hOk ⊢
  rw [levels_cons hChar hLevels] at hOk
  rcases hOk with ⟨hLevel, _, hRest⟩
  have hPlain := not_wildcard_of_levelOk hLevel hLiteral
  refine ⟨?_, hPlain⟩
  rw [hLevels]
  refine ⟨?_, ?_, hRest⟩
  · intro c' hMem hWild
    exact absurd hWild (hPlain c' hMem)
  · intro hMulti
    refine absurd (Or.inr rfl) (hPlain A.multiLevel ?_)
    rw [hMulti]
    exact List.mem_singleton_self _

/- What follows a separator is well formed. -/
theorem WellFormed.tail_separator
    {filter : List α}
    (hOk : WellFormed A (A.separator :: filter)) :
    WellFormed A filter := by
  unfold WellFormed at hOk ⊢
  rw [levels_separator] at hOk
  exact hOk.2.2

/- A wildcard is followed by the end of its level. -/
theorem WellFormed.tail_wildcard
    {c : α}
    {filter : List α}
    (hOk : WellFormed A (c :: filter))
    (hWild : A.IsWildcard c)
    (hChar : c ≠ A.separator) :
    ∃ rest,
      A.levels (c :: filter) = [c] :: rest ∧
        A.levels filter = [] :: rest ∧
          WellFormed A filter ∧
            (c = A.multiLevel → rest = []) := by
  rcases exists_level A filter with ⟨level, rest, hLevels⟩
  have hCons := levels_cons hChar hLevels
  unfold WellFormed at hOk
  rw [hCons] at hOk
  rcases hOk with ⟨hLevel, hLast, hRest⟩
  have hEmpty := level_of_wildcard hLevel hWild
  subst hEmpty
  refine ⟨rest, hCons, hLevels, ?_, ?_⟩
  · unfold WellFormed
    rw [hLevels]
    refine ⟨levelOk_nil, ?_, hRest⟩
    intro hMulti
    cases hMulti
  · rintro rfl
    exact hLast rfl

end Topic

end TrustOnboard

------------------------------------------------------------
-- The Relation Between Filters And Names
------------------------------------------------------------

namespace TrustOnboard

namespace Topic

variable {α : Type}
variable {A : Alphabet α}

/-
  The levels of a filter cover the levels of a name: the
  last wildcard covers whatever is left, be it nothing.
-/
inductive Covers (A : Alphabet α) :
    List (List α) → List (List α) → Prop where
  | nil : Covers A [] []
  | multi
      (names : List (List α)) :
      Covers A [[A.multiLevel]] names
  | single
      (name : List α)
      {filters names : List (List α)}
      (rest : Covers A filters names) :
      Covers A ([A.singleLevel] :: filters) (name :: names)
  | same
      (level : List α)
      {filters names : List (List α)}
      (rest : Covers A filters names) :
      Covers A (level :: filters) (level :: names)

/-
  The stricter relation in which a wildcard needs a level
  that is not empty.
-/
inductive CoversText (A : Alphabet α) :
    List (List α) → List (List α) → Prop where
  | nil : CoversText A [] []
  | multi
      {name : List α}
      (text : name ≠ [])
      (names : List (List α)) :
      CoversText A [[A.multiLevel]] (name :: names)
  | single
      {name : List α}
      (text : name ≠ [])
      {filters names : List (List α)}
      (rest : CoversText A filters names) :
      CoversText A ([A.singleLevel] :: filters)
        (name :: names)
  | same
      (level : List α)
      {filters names : List (List α)}
      (rest : CoversText A filters names) :
      CoversText A (level :: filters) (level :: names)

/-
  Every wildcard of a filter faces a level of the name that
  is not empty.
-/
def FacesText (A : Alphabet α) :
    List (List α) → List (List α) → Prop
  | [], _ => True
  | level :: _, [] => level ≠ [A.multiLevel]
  | level :: filters, name :: names =>
      (level = [A.singleLevel] ∨ level = [A.multiLevel] →
        name ≠ []) ∧
        FacesText A filters names

/- The stricter relation implies the other one. -/
theorem CoversText.covers
    {filters names : List (List α)}
    (hText : CoversText A filters names) :
    Covers A filters names := by
  induction hText with
  | nil => exact .nil
  | multi _ names => exact .multi _
  | single _ _ ih => exact .single _ ih
  | same level _ ih => exact .same level ih

/- Every list of levels covers itself. -/
theorem coversText_refl
    (levels : List (List α)) :
    CoversText A levels levels := by
  induction levels with
  | nil => exact .nil
  | cons level levels ih => exact .same level ih

/- No level is covered strictly by nothing. -/
theorem not_coversText_nil
    {level : List α}
    {filters : List (List α)} :
    ¬ CoversText A (level :: filters) [] := by
  intro hText
  cases hText

/- A level without a wildcard covers only itself. -/
theorem coversText_literal
    {level name : List α}
    {filters names : List (List α)}
    (hSingle : level ≠ [A.singleLevel])
    (hMulti : level ≠ [A.multiLevel]) :
    CoversText A (level :: filters) (name :: names) ↔
      level = name ∧ CoversText A filters names := by
  constructor
  · intro hText
    cases hText with
    | multi _ _ => exact absurd rfl hMulti
    | single _ _ => exact absurd rfl hSingle
    | same _ hRest => exact ⟨rfl, hRest⟩
  · rintro ⟨rfl, hRest⟩
    exact .same level hRest

/- An empty level covers only an empty level. -/
theorem coversText_empty
    {name : List α}
    {filters names : List (List α)} :
    CoversText A ([] :: filters) (name :: names) ↔
      name = [] ∧ CoversText A filters names := by
  rw [coversText_literal (List.cons_ne_nil _ _).symm
    (List.cons_ne_nil _ _).symm, eq_comm]

/- A level that begins with no wildcard. -/
theorem coversText_begins
    {c : α}
    (hLiteral : ¬ A.IsWildcard c)
    {level name : List α}
    {filters names : List (List α)} :
    CoversText A ((c :: level) :: filters)
        (name :: names) ↔
      c :: level = name ∧ CoversText A filters names :=
  coversText_literal
    (fun hEq => hLiteral (Or.inl (List.cons.inj hEq).1))
    (fun hEq => hLiteral (Or.inr (List.cons.inj hEq).1))

/- A level in which no wildcard occurs. -/
theorem coversText_plain
    {level : List α}
    (hPlain : ∀ c ∈ level, ¬ A.IsWildcard c)
    {name : List α}
    {filters names : List (List α)} :
    CoversText A (level :: filters) (name :: names) ↔
      level = name ∧ CoversText A filters names := by
  cases level with
  | nil =>
      rw [coversText_empty, eq_comm]
  | cons c level =>
      exact coversText_begins (hPlain c List.mem_cons_self)

/- The wildcard for one level. -/
theorem coversText_single
    {name : List α}
    {filters names : List (List α)} :
    CoversText A ([A.singleLevel] :: filters)
        (name :: names) ↔
      name ≠ [] ∧ CoversText A filters names := by
  constructor
  · intro hText
    generalize hLevel :
      ([A.singleLevel] :: filters) = all at hText
    cases hText with
    | multi _ _ =>
        have hHead := (List.cons.inj hLevel).1
        exact absurd (List.cons.inj hHead).1
          A.single_ne_multi
    | single hName hRest =>
        rw [(List.cons.inj hLevel).2]
        exact ⟨hName, hRest⟩
    | same _ hRest =>
        rcases List.cons.inj hLevel with ⟨rfl, rfl⟩
        exact ⟨List.cons_ne_nil _ _, hRest⟩
  · rintro ⟨hName, hRest⟩
    exact .single hName hRest

/- The wildcard for all levels that are left. -/
theorem coversText_multi
    {name : List α}
    {names : List (List α)} :
    CoversText A [[A.multiLevel]] (name :: names) ↔
      name ≠ [] := by
  constructor
  · intro hText
    generalize hLevel :
      [[A.multiLevel]] = all at hText
    cases hText with
    | multi hName _ => exact hName
    | single hName _ => exact hName
    | same _ _ =>
        rw [← (List.cons.inj hLevel).1]
        exact List.cons_ne_nil _ _
  · intro hName
    exact .multi hName names

/-
  A filter that covers a name covers it strictly exactly when
  its wildcards face levels that are not empty.
-/
theorem Covers.text_iff
    {filters names : List (List α)}
    (hCovers : Covers A filters names)
    (hOk : LevelsOk A filters) :
    CoversText A filters names ↔
      FacesText A filters names := by
  induction hCovers with
  | nil => exact ⟨fun _ => trivial, fun _ => .nil⟩
  | multi names =>
      cases names with
      | nil =>
          constructor
          · intro hText
            exact absurd hText not_coversText_nil
          · intro hFaces
            exact absurd rfl hFaces
      | cons name names =>
          rw [coversText_multi]
          constructor
          · intro hName
            exact ⟨fun _ => hName, trivial⟩
          · intro hFaces
            exact hFaces.1 (Or.inr rfl)
  | single name _ ih =>
      rw [coversText_single, ih hOk.2.2]
      constructor
      · rintro ⟨hName, hFaces⟩
        exact ⟨fun _ => hName, hFaces⟩
      · rintro ⟨hName, hFaces⟩
        exact ⟨hName (Or.inl rfl), hFaces⟩
  | same level hRest ih =>
      have hFilled :
          level = [A.singleLevel] ∨
              level = [A.multiLevel] →
            level ≠ [] := by
        rintro (rfl | rfl) <;> exact List.cons_ne_nil _ _
      constructor
      · intro hText
        refine ⟨hFilled, ?_⟩
        rw [← ih hOk.2.2]
        by_cases hMulti : level = [A.multiLevel]
        · -- a last level against itself leaves nothing
          have hEnd := hOk.2.1 hMulti
          subst hEnd
          cases hRest
          exact .nil
        · by_cases hSingle : level = [A.singleLevel]
          · subst hSingle
            exact (coversText_single.mp hText).2
          · exact
              ((coversText_literal hSingle hMulti).mp hText).2
      · rintro ⟨_, hFaces⟩
        exact .same level ((ih hOk.2.2).mpr hFaces)

end Topic

end TrustOnboard
