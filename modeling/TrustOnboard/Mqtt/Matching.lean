import TrustOnboard.Topic.Levels
import TrustOnboard.Mqtt.Receive

/-
  The matching loop of the client against the levels of
  filters and names.

  The loop accepts a name exactly when the filter covers it
  and every wildcard faces a level that is not empty.

  Key definitions include:
    * `topicAlphabet`
    * `FilterOk`
    * `FilterCovers`
    * `isTopicMatchedAt`
    * `MessageHandlers.acceptsAt`

  Key results include:
    * `isTopicMatched_iff`
    * `accepts_iff`
    * `accepts_iff_facesText`
    * `acceptsAt_accepts`
    * `acceptsAt_inside`
-/

------------------------------------------------------------
-- The Loop And The Levels
------------------------------------------------------------

namespace TrustOnboard

namespace Mqtt

open Topic

/- The characters of MQTT topics. -/
def topicAlphabet : Alphabet UInt8 where
  separator := separator
  singleLevel := singleLevel
  multiLevel := multiLevel
  single_ne_separator := by decide
  multi_ne_separator := by decide
  single_ne_multi := by decide

/- A well-formed topic filter. -/
def FilterOk (filter : Bytes) : Prop :=
  WellFormed topicAlphabet filter

instance (filter : Bytes) : Decidable (FilterOk filter) :=
  inferInstanceAs
    (Decidable (WellFormed topicAlphabet filter))

/- A filter matches a name, level by level. -/
def FilterCovers (filter name : Bytes) : Prop :=
  Covers topicAlphabet (topicAlphabet.levels filter)
    (topicAlphabet.levels name)

/- The relation the matching loop decides. -/
abbrev CoveredText (filter name : Bytes) : Prop :=
  CoversText topicAlphabet (topicAlphabet.levels filter)
    (topicAlphabet.levels name)

/- No wildcard of the filter faces an empty level. -/
def WildcardsFaceText (filter name : Bytes) : Prop :=
  FacesText topicAlphabet (topicAlphabet.levels filter)
    (topicAlphabet.levels name)

/- A filter other than the empty one covers some text. -/
theorem not_coveredText_nil
    {f : UInt8}
    {fs : Bytes}
    (hOk : FilterOk (f :: fs)) :
    ¬ CoveredText (f :: fs) [] := by
  unfold CoveredText
  rw [levels_nil]
  by_cases hSep : f = topicAlphabet.separator
  · subst hSep
    rw [levels_separator, coversText_empty]
    rintro ⟨_, hText⟩
    rcases exists_level topicAlphabet fs with
      ⟨level, rest, hLevels⟩
    rw [hLevels] at hText
    exact not_coversText_nil hText
  · by_cases hWild : topicAlphabet.IsWildcard f
    · rcases hOk.tail_wildcard hWild hSep with
        ⟨rest, hLevels, _, _, hLast⟩
      rw [hLevels]
      rcases hWild with rfl | rfl
      · rw [coversText_single]
        exact fun hText => hText.1 rfl
      · rw [hLast rfl, coversText_multi]
        exact fun hText => hText rfl
    · rcases exists_level topicAlphabet fs with
        ⟨level, rest, hLevels⟩
      rw [levels_cons hSep hLevels, coversText_begins hWild]
      rintro ⟨hEq, _⟩
      cases hEq

/- The empty filter covers the empty name only. -/
theorem coveredText_nil_iff
    (name : Bytes) :
    CoveredText [] name ↔ name = [] := by
  unfold CoveredText
  rw [levels_nil]
  rcases exists_level topicAlphabet name with
    ⟨level, rest, hLevels⟩
  rw [hLevels, coversText_empty]
  constructor
  · rintro ⟨rfl, hRest⟩
    rcases text_of_empty_level hLevels with
      ⟨hName, _⟩ | ⟨name', _, rfl⟩
    · exact hName
    · rcases exists_level topicAlphabet name' with
        ⟨level', rest', hMore⟩
      rw [hMore] at hRest
      cases hRest
  · rintro rfl
    rw [levels_nil] at hLevels
    cases hLevels
    exact ⟨rfl, .nil⟩

/- One literal character more on both sides. -/
theorem coveredText_cons
    {c : UInt8}
    {fs ns : Bytes}
    (hOk : FilterOk (c :: fs))
    (hSep : c ≠ topicAlphabet.separator)
    (hLiteral : ¬ topicAlphabet.IsWildcard c) :
    CoveredText (c :: fs) (c :: ns) ↔ CoveredText fs ns := by
  rcases exists_level topicAlphabet fs with
    ⟨level, rest, hLevels⟩
  rcases exists_level topicAlphabet ns with
    ⟨level', rest', hName⟩
  rcases hOk.tail hLiteral hSep hLevels with ⟨_, hPlain⟩
  unfold CoveredText
  rw [levels_cons hSep hLevels, levels_cons hSep hName,
    hLevels, hName, coversText_begins hLiteral,
    coversText_plain hPlain, List.cons.injEq]
  simp

/- One separator more on both sides. -/
theorem coveredText_separator
    {fs ns : Bytes} :
    CoveredText (topicAlphabet.separator :: fs)
        (topicAlphabet.separator :: ns) ↔
      CoveredText fs ns := by
  unfold CoveredText
  rw [levels_separator, levels_separator, coversText_empty]
  simp

/- Different characters are not covered by each other. -/
theorem not_coveredText_of_ne
    {f n : UInt8}
    {fs ns : Bytes}
    (hLiteral : ¬ topicAlphabet.IsWildcard f)
    (hDiffer : f ≠ n) :
    ¬ CoveredText (f :: fs) (n :: ns) := by
  rcases exists_level topicAlphabet fs with
    ⟨level, rest, hLevels⟩
  rcases exists_level topicAlphabet ns with
    ⟨level', rest', hName⟩
  unfold CoveredText
  by_cases hFilter : f = topicAlphabet.separator
  · subst hFilter
    rw [levels_separator, levels_cons hDiffer.symm hName,
      coversText_empty]
    rintro ⟨hEq, _⟩
    cases hEq
  · rw [levels_cons hFilter hLevels]
    by_cases hSep : n = topicAlphabet.separator
    · subst hSep
      rw [levels_separator, coversText_begins hLiteral]
      rintro ⟨hEq, _⟩
      cases hEq
    · rw [levels_cons hSep hName,
        coversText_begins hLiteral]
      rintro ⟨hEq, _⟩
      exact hDiffer (List.cons.inj hEq).1

/- A wildcard does not cover an empty level. -/
theorem not_coveredText_empty
    {f : UInt8}
    {fs ns : Bytes}
    (hOk : FilterOk (f :: fs))
    (hWild : topicAlphabet.IsWildcard f)
    (hSep : f ≠ topicAlphabet.separator) :
    ¬ CoveredText (f :: fs)
        (topicAlphabet.separator :: ns) := by
  rcases hOk.tail_wildcard hWild hSep with
    ⟨rest, hLevels, _, _, hLast⟩
  unfold CoveredText
  rw [hLevels, levels_separator]
  rcases hWild with rfl | rfl
  · rw [coversText_single]
    exact fun hText => hText.1 rfl
  · rw [hLast rfl, coversText_multi]
    exact fun hText => hText rfl

/- The wildcard for one level covers up to its end. -/
theorem coveredText_single
    {n : UInt8}
    {fs ns : Bytes}
    (hOk : FilterOk (topicAlphabet.singleLevel :: fs))
    (hSep : n ≠ topicAlphabet.separator) :
    CoveredText (topicAlphabet.singleLevel :: fs)
        (n :: ns) ↔
      CoveredText fs
        (ns.dropWhile
          (fun b => b ≠ topicAlphabet.separator)) := by
  rcases hOk.tail_wildcard (Or.inl rfl)
      topicAlphabet.single_ne_separator with
    ⟨rest, hLevels, hTail, _, _⟩
  rcases exists_level topicAlphabet ns with
    ⟨level, rest', hName⟩
  unfold CoveredText
  rw [hLevels, hTail, levels_cons hSep hName,
    levels_dropWhile hName, coversText_single,
    coversText_empty]
  simp

/- The wildcard for all levels ends its filter. -/
theorem coveredText_multi
    {n : UInt8}
    {fs : Bytes}
    (ns : Bytes)
    (hOk : FilterOk (topicAlphabet.multiLevel :: fs))
    (hSep : n ≠ topicAlphabet.separator) :
    fs = [] ∧
      CoveredText (topicAlphabet.multiLevel :: fs)
        (n :: ns) := by
  rcases hOk.tail_wildcard (Or.inr rfl)
      topicAlphabet.multi_ne_separator with
    ⟨rest, hLevels, hTail, _, hLast⟩
  have hRest := hLast rfl
  subst hRest
  constructor
  · rcases text_of_empty_level hTail with
      ⟨hNil, _⟩ | ⟨fs', _, hNo⟩
    · exact hNil
    · exact absurd hNo.symm (List.splitOn_ne_nil _ _)
  · rcases exists_level topicAlphabet ns with
      ⟨level, rest, hName⟩
    unfold CoveredText
    rw [hLevels, levels_cons hSep hName, coversText_multi]
    exact List.cons_ne_nil _ _

/- The loop decides the strict relation. -/
theorem isTopicMatched_iff
    (filter name : Bytes)
    (hOk : FilterOk filter) :
    isTopicMatched filter name = true ↔
      CoveredText filter name := by
  induction filter generalizing name with
  | nil =>
      rw [coveredText_nil_iff]
      simp [isTopicMatched]
  | cons f fs ih =>
      cases name with
      | nil =>
          simp [isTopicMatched, not_coveredText_nil hOk]
      | cons n ns =>
          rw [isTopicMatched]
          split
          case isTrue hEmpty =>
            rcases hEmpty with ⟨rfl, hFilter⟩
            by_cases hWild : topicAlphabet.IsWildcard f
            · exact iff_of_false Bool.false_ne_true
                (not_coveredText_empty hOk hWild hFilter)
            · exact iff_of_false Bool.false_ne_true
                (not_coveredText_of_ne hWild hFilter)
          case isFalse hText =>
            split
            case isTrue hDiffer =>
              rcases hDiffer with ⟨hSingle, hMulti, hNe⟩
              have hLiteral :
                  ¬ topicAlphabet.IsWildcard f := by
                rintro (rfl | rfl)
                · exact hSingle rfl
                · exact hMulti rfl
              exact iff_of_false Bool.false_ne_true
                (not_coveredText_of_ne hLiteral hNe)
            case isFalse hSame =>
              split
              case isTrue hSingle =>
                subst hSingle
                have hSep : n ≠ topicAlphabet.separator :=
                  fun hEq => hText ⟨hEq, by decide⟩
                rcases hOk.tail_wildcard (Or.inl rfl)
                    (by decide) with ⟨_, _, _, hTail, _⟩
                rw [ih _ hTail]
                exact (coveredText_single hOk hSep).symm
              case isFalse hSingle =>
                split
                case isTrue hMulti =>
                  subst hMulti
                  have hSep : n ≠ topicAlphabet.separator :=
                    fun hEq => hText ⟨hEq, by decide⟩
                  rcases coveredText_multi ns hOk hSep
                    with ⟨rfl, hCovered⟩
                  exact iff_of_true rfl hCovered
                case isFalse hMulti =>
                  have hEq : f = n := by
                    by_contra hNe
                    exact hSame ⟨hSingle, hMulti, hNe⟩
                  subst hEq
                  have hLiteral :
                      ¬ topicAlphabet.IsWildcard f := by
                    rintro (rfl | rfl)
                    · exact hSingle rfl
                    · exact hMulti rfl
                  by_cases hSep :
                      f = topicAlphabet.separator
                  · subst hSep
                    rw [ih _ hOk.tail_separator]
                    exact coveredText_separator.symm
                  · rcases exists_level topicAlphabet fs with
                      ⟨level, rest, hLevels⟩
                    rw [ih _
                      (hOk.tail hLiteral hSep hLevels).1]
                    exact
                      (coveredText_cons hOk hSep
                        hLiteral).symm

end Mqtt

end TrustOnboard

------------------------------------------------------------
-- The Test Of One Slot
------------------------------------------------------------

namespace TrustOnboard

namespace Mqtt

open Topic

/- A slot that holds a filter with its true length. -/
structure MessageHandlers.Holding
    (slot : MessageHandlers)
    (filter : CString) : Prop where
  topicName : slot.topicName = some filter
  topicNameLen :
    slot.topicNameLen.toNat = filter.bytes.length

/- Comparing as many bytes as the filter has compares all. -/
theorem strncmpEq_iff
    {name filter : Bytes}
    (hNul : (0 : UInt8) ∉ filter)
    (hLength : name.length = filter.length) :
    strncmpEq name filter = true ↔ name = filter := by
  induction name generalizing filter with
  | nil =>
      rw [List.eq_nil_of_length_eq_zero hLength.symm]
      simp [strncmpEq]
  | cons a as ih =>
      cases filter with
      | nil => cases hLength
      | cons b bs =>
          rw [List.mem_cons, not_or] at hNul
          have hRest :=
            ih hNul.2 (Nat.succ.inj hLength)
          simp only [strncmpEq, Bool.and_eq_true,
            beq_iff_eq, Bool.or_eq_true, hRest,
            List.cons.injEq]
          constructor
          · rintro ⟨rfl, hZero | hEq⟩
            · exact absurd hZero.symm hNul.1
            · exact ⟨rfl, hEq⟩
          · rintro ⟨rfl, hEq⟩
            exact ⟨rfl, Or.inr hEq⟩

/- Both routes of the test decide the strict relation. -/
theorem accepts_iff
    {slot : MessageHandlers}
    {filter : CString}
    (hSlot : slot.Holding filter)
    (hOk : FilterOk filter.bytes)
    (name : Bytes) :
    slot.accepts name = true ↔
      CoveredText filter.bytes name := by
  unfold MessageHandlers.accepts
  rw [hSlot.topicName]
  simp only [hSlot.topicNameLen, Bool.or_eq_true,
    Bool.and_eq_true, decide_eq_true_eq,
    isTopicMatched_iff _ name hOk]
  constructor
  · rintro (⟨hLength, hEqual⟩ | hText)
    · rw [(strncmpEq_iff filter.nul_free hLength).mp hEqual]
      exact coversText_refl _
    · exact hText
  · exact Or.inr

/- What a slot accepts is covered by its filter. -/
theorem covered_of_accepts
    {slot : MessageHandlers}
    {filter : CString}
    (hSlot : slot.Holding filter)
    (hOk : FilterOk filter.bytes)
    {name : Bytes}
    (hAccepts : slot.accepts name = true) :
    FilterCovers filter.bytes name :=
  ((accepts_iff hSlot hOk name).mp hAccepts).covers

/-
  A covered name is accepted unless a wildcard of the filter
  faces an empty level.
-/
theorem accepts_iff_facesText
    {slot : MessageHandlers}
    {filter : CString}
    (hSlot : slot.Holding filter)
    (hOk : FilterOk filter.bytes)
    {name : Bytes}
    (hCovered : FilterCovers filter.bytes name) :
    slot.accepts name = true ↔
      WildcardsFaceText filter.bytes name := by
  rw [accepts_iff hSlot hOk name]
  exact hCovered.text_iff hOk

end Mqtt

end TrustOnboard

------------------------------------------------------------
-- The Bytes The Test Examines
------------------------------------------------------------

namespace TrustOnboard

namespace Mqtt

/-
  The inner skip of the matching loop on memory: where it
  stops, and the offsets it examines.  `left` is the number
  of bytes from `nextpos` to the end of the name.
-/
def skipLevelAt (buf : Buffer) : Nat → Nat → Nat × List Nat
  | 0, nextpos => (nextpos, [])
  | left + 1, nextpos =>
      if buf nextpos ≠ separator then
        let skipped := skipLevelAt buf left (nextpos + 1)
        (skipped.1, nextpos :: skipped.2)
      else
        (nextpos, [nextpos])

/-
  `_aws_iot_mqtt_internal_is_topic_matched` on memory, with
  the offsets of the name it examines.
-/
def isTopicMatchedAt
    (buf : Buffer)
    (curnEnd : Nat) : Bytes → Nat → Bool × List Nat
  | [], curn => (curn = curnEnd, [])
  | f :: fs, curn =>
      if curn < curnEnd then
        if buf curn = separator ∧ f ≠ separator then
          (false, [curn])
        else if f ≠ singleLevel ∧ f ≠ multiLevel ∧
            f ≠ buf curn then
          (false, [curn])
        else if f = singleLevel then
          let skipped :=
            skipLevelAt buf (curnEnd - (curn + 1)) (curn + 1)
          let rest := isTopicMatchedAt buf curnEnd fs skipped.1
          (rest.1, curn :: (skipped.2 ++ rest.2))
        else if f = multiLevel then
          let rest := isTopicMatchedAt buf curnEnd fs curnEnd
          (rest.1, curn :: rest.2)
        else
          let rest :=
            isTopicMatchedAt buf curnEnd fs (curn + 1)
          (rest.1, curn :: rest.2)
      else
        (false, [])

/-
  `strncmp` of `n` bytes of memory with a filter that ends in
  a NUL, with the offsets it examines.
-/
def strncmpEqAt (buf : Buffer) :
    Nat → Nat → Bytes → Bool × List Nat
  | 0, _, _ => (true, [])
  | _ + 1, off, [] => (buf off == 0, [off])
  | n + 1, off, b :: bs =>
      if buf off ≠ b then
        (false, [off])
      else if buf off = 0 then
        (true, [off])
      else
        let rest := strncmpEqAt buf n (off + 1) bs
        (rest.1, off :: rest.2)

/-
  The test of one slot on the name at `off`, with the offsets
  of the name it examines.
-/
def MessageHandlers.acceptsAt
    (slot : MessageHandlers)
    (buf : Buffer)
    (off len : Nat) : Bool × List Nat :=
  match slot.topicName with
  | none => (false, [])
  | some filter =>
      if len = slot.topicNameLen.toNat then
        let equal := strncmpEqAt buf len off filter.bytes
        if equal.1 then
          equal
        else
          let matched :=
            isTopicMatchedAt buf (off + len) filter.bytes off
          (matched.1, equal.2 ++ matched.2)
      else
        isTopicMatchedAt buf (off + len) filter.bytes off

/- The skip stays in the name. -/
theorem skipLevelAt_bounds
    (buf : Buffer)
    (left nextpos : Nat) :
    nextpos ≤ (skipLevelAt buf left nextpos).1 ∧
      (skipLevelAt buf left nextpos).1 ≤ nextpos + left ∧
        ∀ a ∈ (skipLevelAt buf left nextpos).2,
          nextpos ≤ a ∧ a < nextpos + left := by
  induction left generalizing nextpos with
  | zero => simp [skipLevelAt]
  | succ left ih =>
      rw [skipLevelAt]
      split
      case isTrue hText =>
        rcases ih (nextpos + 1) with ⟨hFrom, hTo, hReads⟩
        refine ⟨by dsimp only; omega, by dsimp only; omega, ?_⟩
        intro a hMem
        rcases List.mem_cons.mp hMem with rfl | hMem
        · omega
        · have hBounds := hReads a hMem
          omega
      case isFalse hEnd =>
        simp

/- The skip drops the rest of a level. -/
theorem skipLevelAt_load
    (buf : Buffer)
    (left nextpos : Nat) :
    buf.load (skipLevelAt buf left nextpos).1
        (nextpos + left - (skipLevelAt buf left nextpos).1) =
      (buf.load nextpos left).dropWhile
        (fun b => b ≠ separator) := by
  induction left generalizing nextpos with
  | zero => simp [skipLevelAt]
  | succ left ih =>
      rw [skipLevelAt, Buffer.load_succ]
      split
      case isTrue hText =>
        have hRest := ih (nextpos + 1)
        have hSum : nextpos + 1 + left =
            nextpos + (left + 1) := by omega
        rw [hSum] at hRest
        simpa [hText] using hRest
      case isFalse hEnd =>
        have hLeft :
            nextpos + (left + 1) - nextpos = left + 1 := by
          omega
        have hStop : buf nextpos = separator := by
          simpa using hEnd
        dsimp only
        rw [hLeft, Buffer.load_succ]
        simp [hStop]

/- The matching loop stays in the name. -/
theorem isTopicMatchedAt_inside
    (buf : Buffer)
    (curnEnd : Nat)
    (filter : Bytes)
    (curn : Nat) :
    ∀ a ∈ (isTopicMatchedAt buf curnEnd filter curn).2,
      curn ≤ a ∧ a < curnEnd := by
  induction filter generalizing curn with
  | nil => simp [isTopicMatchedAt]
  | cons f fs ih =>
      intro a hMem
      rw [isTopicMatchedAt] at hMem
      split at hMem
      case isFalse hEnd => cases hMem
      case isTrue hLt =>
        have hHere : a = curn → curn ≤ a ∧ a < curnEnd := by
          rintro rfl
          exact ⟨Nat.le_refl a, hLt⟩
        split at hMem
        case isTrue hEmpty =>
          exact hHere (List.mem_singleton.mp hMem)
        case isFalse hText =>
          split at hMem
          case isTrue hDiffer =>
            exact hHere (List.mem_singleton.mp hMem)
          case isFalse hSame =>
            split at hMem
            case isTrue hSingle =>
              have hSkip :=
                skipLevelAt_bounds buf (curnEnd - (curn + 1))
                  (curn + 1)
              rcases List.mem_cons.mp hMem with hEq | hMem
              · exact hHere hEq
              rcases List.mem_append.mp hMem with
                hMem | hMem
              · have hBounds := hSkip.2.2 a hMem
                omega
              · have hBounds := ih _ a hMem
                omega
            case isFalse hSingle =>
              split at hMem
              case isTrue hMulti =>
                rcases List.mem_cons.mp hMem with
                  hEq | hMem
                · exact hHere hEq
                · have hBounds := ih _ a hMem
                  omega
              case isFalse hMulti =>
                rcases List.mem_cons.mp hMem with
                  hEq | hMem
                · exact hHere hEq
                · have hBounds := ih _ a hMem
                  omega

/- The matching loop on memory is the loop on the name. -/
theorem isTopicMatchedAt_load
    (buf : Buffer)
    (curnEnd : Nat)
    (filter : Bytes)
    (curn : Nat)
    (hLe : curn ≤ curnEnd) :
    (isTopicMatchedAt buf curnEnd filter curn).1 =
      isTopicMatched filter
        (buf.load curn (curnEnd - curn)) := by
  induction filter generalizing curn with
  | nil =>
      rcases Nat.exists_eq_add_of_le hLe with ⟨left, rfl⟩
      cases left with
      | zero => simp [isTopicMatchedAt, isTopicMatched]
      | succ left =>
          have hLeft :
              curn + (left + 1) - curn = left + 1 := by
            omega
          rw [hLeft, Buffer.load_succ]
          simp [isTopicMatchedAt, isTopicMatched]
  | cons f fs ih =>
      rcases Nat.exists_eq_add_of_le hLe with ⟨left, rfl⟩
      cases left with
      | zero => simp [isTopicMatchedAt, isTopicMatched]
      | succ left =>
          have hLt : curn < curn + (left + 1) := by omega
          have hLeft :
              curn + (left + 1) - curn = left + 1 := by
            omega
          have hNext :
              curn + (left + 1) - (curn + 1) = left := by
            omega
          rw [hLeft, Buffer.load_succ, isTopicMatchedAt,
            isTopicMatched, if_pos hLt, hNext]
          split
          case isTrue hEmpty => rfl
          case isFalse hText =>
            split
            case isTrue hDiffer => rfl
            case isFalse hSame =>
              split
              case isTrue hSingle =>
                have hSkip :=
                  skipLevelAt_bounds buf left (curn + 1)
                have hLoad :=
                  skipLevelAt_load buf left (curn + 1)
                have hSum :
                    curn + 1 + left =
                      curn + (left + 1) := by
                  omega
                rw [hSum] at hSkip hLoad
                dsimp only
                rw [ih _ hSkip.2.1, hLoad]
              case isFalse hSingle =>
                split
                case isTrue hMulti =>
                  dsimp only
                  rw [ih _ (Nat.le_refl _), Nat.sub_self,
                    Buffer.load_zero]
                case isFalse hMulti =>
                  dsimp only
                  rw [ih _ (by omega), hNext]

/- The comparison stays in the name. -/
theorem strncmpEqAt_inside
    (buf : Buffer)
    (n off : Nat)
    (filter : Bytes) :
    ∀ a ∈ (strncmpEqAt buf n off filter).2,
      off ≤ a ∧ a < off + n := by
  induction n generalizing off filter with
  | zero => simp [strncmpEqAt]
  | succ n ih =>
      intro a hMem
      have hHere :
          a = off → off ≤ a ∧ a < off + (n + 1) := by
        omega
      cases filter with
      | nil => exact hHere (List.mem_singleton.mp hMem)
      | cons b bs =>
          rw [strncmpEqAt] at hMem
          split at hMem
          case isTrue hDiffer =>
            exact hHere (List.mem_singleton.mp hMem)
          case isFalse hSame =>
            split at hMem
            case isTrue hNul =>
              exact hHere (List.mem_singleton.mp hMem)
            case isFalse hMore =>
              rcases List.mem_cons.mp hMem with hEq | hMem
              · exact hHere hEq
              · have hBounds := ih _ _ a hMem
                omega

/- The comparison on memory is the comparison of the name. -/
theorem strncmpEqAt_load
    (buf : Buffer)
    (n off : Nat)
    (filter : Bytes) :
    (strncmpEqAt buf n off filter).1 =
      strncmpEq (buf.load off n) filter := by
  induction n generalizing off filter with
  | zero => simp [strncmpEqAt, strncmpEq]
  | succ n ih =>
      rw [Buffer.load_succ]
      cases filter with
      | nil => rfl
      | cons b bs =>
          rw [strncmpEqAt, strncmpEq]
          split
          case isTrue hDiffer =>
            simp [hDiffer]
          case isFalse hSame =>
            have hEq : buf off = b := by simpa using hSame
            subst hEq
            split
            case isTrue hNul => simp [hNul]
            case isFalse hMore => simp [ih, hMore]

/- The test on memory is the test of the name it finds. -/
theorem acceptsAt_accepts
    (slot : MessageHandlers)
    (buf : Buffer)
    (off len : Nat) :
    (slot.acceptsAt buf off len).1 =
      slot.accepts (buf.load off len) := by
  have hMatched (filter : CString) :
      (isTopicMatchedAt buf (off + len) filter.bytes off).1 =
        isTopicMatched filter.bytes (buf.load off len) := by
    rw [isTopicMatchedAt_load _ _ _ _ (Nat.le_add_right _ _),
      Nat.add_sub_cancel_left]
  unfold MessageHandlers.acceptsAt MessageHandlers.accepts
  cases slot.topicName with
  | none => rfl
  | some filter =>
      dsimp only
      rw [Buffer.length_load]
      split
      case isTrue hLength =>
        have hEqual :=
          strncmpEqAt_load buf len off filter.bytes
        rw [decide_eq_true hLength, Bool.true_and]
        split
        case isTrue hYes =>
          rw [hEqual] at hYes ⊢
          rw [hYes, Bool.true_or]
        case isFalse hNo =>
          rw [hEqual] at hNo
          simp [hMatched, hNo]
      case isFalse hLength =>
        rw [hMatched]
        simp [hLength]

/- The test examines the bytes of the name and no others. -/
theorem acceptsAt_inside
    (slot : MessageHandlers)
    (buf : Buffer)
    (off len : Nat) :
    ∀ a ∈ (slot.acceptsAt buf off len).2,
      off ≤ a ∧ a < off + len := by
  intro a hMem
  unfold MessageHandlers.acceptsAt at hMem
  split at hMem
  case h_1 => cases hMem
  case h_2 filter _ =>
    split at hMem
    case isTrue hLength =>
      dsimp only at hMem
      split at hMem
      case isTrue hYes =>
        exact strncmpEqAt_inside _ _ _ _ a hMem
      case isFalse hNo =>
        rcases List.mem_append.mp hMem with hMem | hMem
        · exact strncmpEqAt_inside _ _ _ _ a hMem
        · exact isTopicMatchedAt_inside _ _ _ _ a hMem
    case isFalse hLength =>
      exact isTopicMatchedAt_inside _ _ _ _ a hMem

end Mqtt

end TrustOnboard
