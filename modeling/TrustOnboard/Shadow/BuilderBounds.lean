import TrustOnboard.Shadow.Builder

/-
  The builder of shadow documents and its buffer.

  A call keeps to the buffer when every text it prints ends
  in it.  The size left is computed once for an element and
  used for its key and again for its value, so that a value
  may be printed behind the buffer when the buffer ends
  inside it; and the brace that closes a section takes one
  byte more than the comma it replaces.

  Key definitions include:
    * `BuilderCall`
    * `BuilderCall.intended`
    * `Complete`
    * `Overruns`
    * `Contained`

  Key results include:
    * `addElements_overruns`
    * `addElements_contained`
    * `contained_iff_not_overruns`
-/

------------------------------------------------------------
-- Printing
------------------------------------------------------------

namespace TrustOnboard

namespace Shadow

open Mqtt (IoTError CString)

/- The test of a return value asks whether the text fits. -/
theorem check_success_iff
    (text : Bytes)
    (n : Nat) :
    checkReturnValueOfSnPrintf (snPrintfReturn text) n =
        .success ↔
      text.length < 2 ^ 31 ∧ text.length < n := by
  unfold checkReturnValueOfSnPrintf snPrintfReturn
  by_cases hShort : text.length < 2 ^ 31
  · rw [if_pos hShort, if_neg (by omega)]
    by_cases hFits : text.length < n
    · rw [if_neg (by simpa using hFits)]
      exact ⟨fun _ => ⟨hShort, hFits⟩, fun _ => rfl⟩
    · rw [if_pos (by simpa using hFits)]
      exact
        ⟨fun hNo => (by cases hNo),
          fun hBoth => absurd hBoth.2 hFits⟩
  · rw [if_neg hShort, if_pos (by decide)]
    exact
      ⟨fun hNo => (by cases hNo),
        fun hBoth => absurd hBoth.1 hShort⟩

namespace Document

theorem sizeLeft_eq
    {d : Document}
    {size : Nat}
    (hSize : size < 2 ^ 64)
    (hInside : d.text.length ≤ size) :
    d.sizeLeft size = size - d.text.length := by
  unfold sizeLeft
  omega

theorem reach_snprintf
    (d : Document)
    (n : Nat)
    (text : Bytes) :
    d.reach ≤ (d.snprintf n text).reach := by
  unfold snprintf
  split
  · exact Nat.le_refl _
  · exact Nat.le_max_left _ _

theorem reach_snprintfOverLast
    (d : Document)
    (n : Nat)
    (text : Bytes) :
    d.reach ≤ (d.snprintfOverLast n text).reach := by
  unfold snprintfOverLast
  split
  · exact Nat.le_refl _
  split
  · exact Nat.le_max_left _ _
  · exact Nat.le_max_left _ _

/- A document inside a buffer of the given size. -/
structure Inside
    (size : Nat)
    (d : Document) : Prop where
  text : d.text.length < size
  reach : d.reach ≤ size

/- A text that fits is printed whole. -/
theorem snprintf_whole
    {d : Document}
    {n : Nat}
    {text : Bytes}
    (hFits : text.length < n) :
    d.snprintf n text =
      ⟨d.text ++ text,
        max d.reach (d.text.length + text.length + 1)⟩ := by
  unfold snprintf
  rw [if_neg (by omega), List.take_of_length_le (by omega),
    Nat.min_eq_left (by omega)]

/- Printing within the size left stays inside. -/
theorem Inside.snprintf
    {size : Nat}
    {d : Document}
    (hInside : d.Inside size)
    {n : Nat}
    (hRoom : d.text.length + n ≤ size)
    (text : Bytes) :
    (d.snprintf n text).Inside size := by
  have hText := hInside.text
  have hReach := hInside.reach
  unfold Document.snprintf
  split
  · exact hInside
  · refine ⟨?_, ?_⟩
    · simp only [List.length_append, List.length_take]
      omega
    · simp only
      omega

/- So does printing over the last character. -/
theorem Inside.snprintfOverLast
    {size : Nat}
    {d : Document}
    (hInside : d.Inside size)
    {n : Nat}
    {text : Bytes}
    (hRoom :
      d.text.length + min text.length (n - 1) ≤ size)
    (hSome : 0 < min text.length (n - 1)) :
    (d.snprintfOverLast n text).Inside size := by
  have hText := hInside.text
  have hReach := hInside.reach
  unfold Document.snprintfOverLast
  split
  · exact hInside
  split
  · refine ⟨?_, ?_⟩
    · simp only [List.length_drop, List.length_take]
      omega
    · simp only
      omega
  · rename_i hNe
    have hPos : 0 < d.text.length :=
      List.length_pos_iff.mpr hNe
    refine ⟨?_, ?_⟩
    · simp only [List.length_append, List.length_take,
        List.length_dropLast]
      omega
    · simp only
      omega

end Document

end Shadow

end TrustOnboard

------------------------------------------------------------
-- Elements
------------------------------------------------------------

namespace TrustOnboard

namespace Shadow

open Mqtt (IoTError CString)

/- What a value adds to the text. -/
def JsonData.added (data : JsonData) : Bytes :=
  data.printedText.getD []

/- What an element adds to the text. -/
def elementText : Option JsonStruct → Bytes
  | none => []
  | some s =>
      s.keyText ++ (s.pData.map JsonData.added).getD []

/- Where the text of some elements ends. -/
def textEnd
    (len : Nat)
    (args : List (Option JsonStruct)) : Nat :=
  len + (args.flatMap elementText).length

/-
  An element with a key and a value, none of whose texts is
  too long for the return value of `snprintf`.
-/
def IsComplete (arg : Option JsonStruct) : Prop :=
  ∃ s data,
    arg = some s ∧ s.pKey.isSome = true ∧
      s.pData = some data ∧ s.keyText.length < 2 ^ 31 ∧
      data.added.length < 2 ^ 31

/- The buffer ends inside the value of the element. -/
def EndsInside
    (size len : Nat)
    (arg : Option JsonStruct) : Prop :=
  ∃ s data,
    arg = some s ∧ s.pKey.isSome = true ∧
      s.pData = some data ∧ s.keyText.length < 2 ^ 31 ∧
      len + s.keyText.length < size ∧
      size ≤ len + s.keyText.length + data.added.length

theorem three_le_length_keyText
    (s : JsonStruct) :
    3 ≤ s.keyText.length := by
  simp [JsonStruct.keyText, ascii]

/- The value of an element, behind its key. -/
theorem convertDataToString_added
    {d : Document}
    (hReach : d.text.length + 1 ≤ d.reach)
    {n : Nat}
    (hPos : 0 < n)
    (data : JsonData) :
    convertDataToString d n data =
      (checkReturnValueOfSnPrintf
          (snPrintfReturn data.added) n,
        ⟨d.text ++ data.added.take (n - 1),
          max d.reach
            (d.text.length + min data.added.length (n - 1) +
              1)⟩) := by
  unfold convertDataToString JsonData.added
  rw [if_neg (by omega)]
  cases data.printedText with
  | none =>
      simp only [Option.getD_none, List.take_nil,
        List.append_nil, List.length_nil, Nat.zero_min,
        Nat.add_zero, Nat.max_eq_left hReach]
      rfl
  | some text =>
      simp only [Option.getD_some, Document.snprintf]
      rw [if_neg (by omega)]

/- One round of the loop, when the key fits. -/
theorem addElement_of_key
    {size : Nat}
    (hSize : size < 2 ^ 64)
    {d : Document}
    (hInside : d.text.length < size)
    {s : JsonStruct}
    (hShort : s.keyText.length < 2 ^ 31)
    (hFits : d.text.length + s.keyText.length < size)
    (hKey : s.pKey.isSome = true)
    {data : JsonData}
    (hData : s.pData = some data)
    (rem : Nat) :
    addElement size (some s) rem d =
      (checkReturnValueOfSnPrintf
          (snPrintfReturn data.added)
          (size - d.text.length),
        size - d.text.length,
        ⟨d.text ++ s.keyText ++
            data.added.take (size - d.text.length - 1),
          max d.reach
            (d.text.length + s.keyText.length +
              min data.added.length
                (size - d.text.length - 1) + 1)⟩) := by
  have hPos := three_le_length_keyText s
  have hLeft :=
    Document.sizeLeft_eq hSize (Nat.le_of_lt hInside)
  have hCheck :
      checkReturnValueOfSnPrintf (snPrintfReturn s.keyText)
          (size - d.text.length) = .success :=
    (check_success_iff _ _).mpr ⟨hShort, by omega⟩
  rcases Option.isSome_iff_exists.mp hKey with ⟨key, hKey'⟩
  unfold addElement
  simp only [hLeft]
  rw [if_neg (by omega), hCheck, if_neg (by simp),
    Document.snprintf_whole (by omega), hKey', hData]
  simp only
  rw [convertDataToString_added
    (by simp only [List.length_append]; omega) (by omega)]
  simp only [List.length_append]
  refine Prod.ext rfl (Prod.ext rfl ?_)
  simp only [Document.mk.injEq, true_and]
  omega

/- A round whose key does not go through. -/
theorem addElement_stops
    {size : Nat}
    (hSize : size < 2 ^ 64)
    {d : Document}
    (hInside : d.Inside size)
    {arg : Option JsonStruct}
    (hNot :
      ∀ s data, arg = some s → s.pKey.isSome = true →
        s.pData = some data → s.keyText.length < 2 ^ 31 →
          size ≤ d.text.length + s.keyText.length)
    (rem : Nat) :
    (addElement size arg rem d).1 ≠ .success ∧
      (addElement size arg rem d).2.2.Inside size := by
  have hText := hInside.text
  have hLeft :=
    Document.sizeLeft_eq hSize (Nat.le_of_lt hInside.text)
  unfold addElement
  simp only [hLeft]
  by_cases hFull : size - d.text.length ≤ 1
  · rw [if_pos hFull]
    exact ⟨fun hNo => (by cases hNo), hInside⟩
  rw [if_neg hFull]
  cases arg with
  | none => exact ⟨fun hNo => (by cases hNo), hInside⟩
  | some s =>
      have hKept :=
        hInside.snprintf (n := size - d.text.length)
          (by omega) s.keyText
      simp only
      split
      · rename_i hRc
        exact ⟨hRc, hKept⟩
      rename_i hRc
      have hOk := (check_success_iff _ _).mp (not_not.mp hRc)
      split
      · rename_i key data hKey hData
        have hLong :=
          hNot s data rfl (by rw [hKey]; rfl) hData hOk.1
        omega
      · exact ⟨fun hNo => (by cases hNo), hKept⟩

theorem reach_addElement
    (size : Nat)
    (arg : Option JsonStruct)
    (rem : Nat)
    (d : Document) :
    d.reach ≤ (addElement size arg rem d).2.2.reach := by
  unfold addElement
  simp only
  split
  · exact Nat.le_refl _
  cases arg with
  | none => exact Nat.le_refl _
  | some s =>
      have hKey :=
        d.reach_snprintf (d.sizeLeft size) s.keyText
      simp only
      split
      · exact hKey
      split
      · refine Nat.le_trans hKey ?_
        unfold convertDataToString
        split
        · exact Nat.le_refl _
        split
        · exact Nat.le_refl _
        · exact Document.reach_snprintf _ _ _
      · exact hKey

theorem addElements_cons_stop
    {size : Nat}
    {arg : Option JsonStruct}
    {args : List (Option JsonStruct)}
    {rem : Nat}
    {d : Document}
    (hRc : (addElement size arg rem d).1 ≠ .success) :
    addElements size (arg :: args) rem d =
      addElement size arg rem d := by
  rw [addElements, if_pos hRc]

theorem addElements_cons_go
    {size : Nat}
    {arg : Option JsonStruct}
    {args : List (Option JsonStruct)}
    {rem : Nat}
    {d : Document}
    (hRc : (addElement size arg rem d).1 = .success) :
    addElements size (arg :: args) rem d =
      addElements size args (addElement size arg rem d).2.1
        (addElement size arg rem d).2.2 := by
  rw [addElements, if_neg (by rw [hRc]; simp)]

theorem reach_addElements
    (size : Nat)
    (args : List (Option JsonStruct))
    (rem : Nat)
    (d : Document) :
    d.reach ≤ (addElements size args rem d).2.2.reach := by
  induction args generalizing rem d with
  | nil => exact Nat.le_refl _
  | cons arg args ih =>
      have hHere := reach_addElement size arg rem d
      by_cases hRc :
          (addElement size arg rem d).1 = .success
      · rw [addElements_cons_go hRc]
        exact Nat.le_trans hHere (ih _ _)
      · rw [addElements_cons_stop hRc]
        exact hHere

/- A round that adds its whole element. -/
theorem addElement_complete
    {size : Nat}
    (hSize : size < 2 ^ 64)
    {d : Document}
    (hInside : d.Inside size)
    {arg : Option JsonStruct}
    (hComplete : IsComplete arg)
    (hFits :
      d.text.length + (elementText arg).length < size)
    (rem : Nat) :
    ∃ rem' d',
      addElement size arg rem d = (.success, rem', d') ∧
        3 < rem' ∧ d'.text = d.text ++ elementText arg ∧
        d'.Inside size := by
  rcases hComplete with
    ⟨s, data, rfl, hKey, hData, hShort, hShort'⟩
  have hLength := three_le_length_keyText s
  have hText := hInside.text
  have hReach := hInside.reach
  have hElement :
      elementText (some s) = s.keyText ++ data.added := by
    simp [elementText, hData]
  rw [hElement, List.length_append] at hFits
  rw [addElement_of_key hSize hText hShort (by omega) hKey
    hData]
  have hCheck :
      checkReturnValueOfSnPrintf (snPrintfReturn data.added)
          (size - d.text.length) = .success :=
    (check_success_iff _ _).mpr ⟨hShort', by omega⟩
  rw [hCheck, List.take_of_length_le (by omega), hElement]
  refine ⟨_, _, rfl, by omega, ?_, ?_, ?_⟩
  · simp
  · simp only [List.length_append]
    omega
  · simp only
    omega

/- A round at whose value the buffer ends. -/
theorem addElement_endsInside
    {size : Nat}
    (hSize : size < 2 ^ 64)
    {d : Document}
    (hText : d.text.length < size)
    {arg : Option JsonStruct}
    (hEnds : EndsInside size d.text.length arg)
    (rem : Nat) :
    size < (addElement size arg rem d).2.2.reach := by
  rcases hEnds with
    ⟨s, data, rfl, hKey, hData, hShort, hFits, hOver⟩
  have hLength := three_le_length_keyText s
  rw [addElement_of_key hSize hText hShort hFits hKey hData]
  simp only
  omega

/- What a round can do. -/
theorem addElement_cases
    {size : Nat}
    (hSize : size < 2 ^ 64)
    {d : Document}
    (hInside : d.Inside size)
    {arg : Option JsonStruct}
    (hNot : ¬ EndsInside size d.text.length arg)
    (rem : Nat) :
    ((addElement size arg rem d).1 ≠ .success ∧
        (addElement size arg rem d).2.2.Inside size) ∨
      (IsComplete arg ∧
        d.text.length + (elementText arg).length < size) := by
  by_cases hGoes :
      ∃ s data, arg = some s ∧ s.pKey.isSome = true ∧
        s.pData = some data ∧ s.keyText.length < 2 ^ 31 ∧
        d.text.length + s.keyText.length < size
  · rcases hGoes with
      ⟨s, data, rfl, hKey, hData, hShort, hFits⟩
    have hEnd :
        d.text.length + s.keyText.length +
          data.added.length < size := by
      by_contra hOver
      exact
        hNot
          ⟨s, data, rfl, hKey, hData, hShort, hFits,
            by omega⟩
    by_cases hShort' : data.added.length < 2 ^ 31
    · right
      refine
        ⟨⟨s, data, rfl, hKey, hData, hShort, hShort'⟩, ?_⟩
      simp only [elementText, hData, Option.map_some,
        Option.getD_some, List.length_append]
      omega
    · left
      have hReach := hInside.reach
      rw [addElement_of_key hSize hInside.text hShort hFits
        hKey hData]
      refine ⟨?_, ?_, ?_⟩
      · intro hRc
        exact hShort' ((check_success_iff _ _).mp hRc).1
      · simp only [List.length_append, List.length_take]
        omega
      · simp only
        omega
  · left
    refine addElement_stops hSize hInside ?_ rem
    intro s data hArg hKey hData hShort
    by_contra hFits
    exact
      hGoes
        ⟨s, data, hArg, hKey, hData, hShort, by omega⟩

/- The buffer ends inside the value of some element. -/
def EndsInsideOne
    (size len : Nat)
    (args : List (Option JsonStruct)) : Prop :=
  ∃ done arg rest,
    args = done ++ arg :: rest ∧
      (∀ a ∈ done, IsComplete a) ∧
      EndsInside size (textEnd len done) arg

theorem textEnd_cons
    (len : Nat)
    (arg : Option JsonStruct)
    (args : List (Option JsonStruct)) :
    textEnd len (arg :: args) =
      textEnd (len + (elementText arg).length) args := by
  simp only [textEnd, List.flatMap_cons, List.length_append]
  omega

theorem le_textEnd
    (len : Nat)
    (args : List (Option JsonStruct)) :
    len ≤ textEnd len args :=
  Nat.le_add_right _ _

/- Then the loop prints behind the buffer. -/
theorem addElements_overruns
    {size : Nat}
    (hSize : size < 2 ^ 64)
    {d : Document}
    (hInside : d.Inside size)
    {args : List (Option JsonStruct)}
    (hEnds : EndsInsideOne size d.text.length args)
    (rem : Nat) :
    size < (addElements size args rem d).2.2.reach := by
  rcases hEnds with ⟨done, arg, rest, rfl, hDone, hEnds⟩
  induction done generalizing d rem with
  | nil =>
      have hHere :=
        addElement_endsInside hSize hInside.text hEnds rem
      rw [List.nil_append]
      by_cases hRc :
          (addElement size arg rem d).1 = .success
      · rw [addElements_cons_go hRc]
        exact
          Nat.lt_of_lt_of_le hHere
            (reach_addElements _ _ _ _)
      · rw [addElements_cons_stop hRc]
        exact hHere
  | cons a done ih =>
      have hFits :
          d.text.length + (elementText a).length < size := by
        rcases hEnds with ⟨s, _, _, _, _, _, hFits, _⟩
        rw [textEnd_cons] at hFits
        have hLe :=
          le_textEnd
            (d.text.length + (elementText a).length) done
        omega
      rcases
        addElement_complete hSize hInside
          (hDone a List.mem_cons_self) hFits rem with
        ⟨rem', d', hRound, _, hText, hInside'⟩
      rw [List.cons_append,
        addElements_cons_go (by rw [hRound]), hRound]
      refine ih hInside' rem' ?_ ?_
      · intro b hb
        exact hDone b (List.mem_cons_of_mem _ hb)
      · rw [hText, List.length_append, ← textEnd_cons]
        exact hEnds

/- Otherwise it keeps to the buffer. -/
theorem addElements_contained
    {size : Nat}
    (hSize : size < 2 ^ 64)
    {d : Document}
    (hInside : d.Inside size)
    {args : List (Option JsonStruct)}
    (hNot : ¬ EndsInsideOne size d.text.length args)
    {rem : Nat}
    (hRem : 3 < rem) :
    (addElements size args rem d).2.2.Inside size ∧
      ((addElements size args rem d).1 = .success ↔
        (∀ a ∈ args, IsComplete a) ∧
          textEnd d.text.length args < size) ∧
      ((addElements size args rem d).1 = .success →
        3 < (addElements size args rem d).2.1 ∧
          (addElements size args rem d).2.2.text =
            d.text ++ args.flatMap elementText) := by
  induction args generalizing d rem with
  | nil =>
      refine ⟨hInside, ?_, fun _ => ⟨hRem, ?_⟩⟩
      · simpa [textEnd, addElements] using hInside.text
      · simp [addElements]
  | cons a args ih =>
      have hNotHere : ¬ EndsInside size d.text.length a := by
        intro hEnds
        refine hNot ⟨[], a, args, rfl, ?_, ?_⟩
        · intro b hb
          cases hb
        · simpa [textEnd] using hEnds
      rcases addElement_cases hSize hInside hNotHere rem with
        ⟨hRc, hKept⟩ | ⟨hComplete, hFits⟩
      · rw [addElements_cons_stop hRc]
        refine
          ⟨hKept, ⟨fun hNo => absurd hNo hRc, ?_⟩,
            fun hNo => absurd hNo hRc⟩
        rintro ⟨hAll, hEnd⟩
        rw [textEnd_cons] at hEnd
        have hLe :=
          le_textEnd
            (d.text.length + (elementText a).length) args
        rcases
          addElement_complete hSize hInside
            (hAll a List.mem_cons_self) (by omega) rem with
          ⟨_, _, hRound, _⟩
        rw [hRound] at hRc
        exact absurd rfl hRc
      · rcases
          addElement_complete hSize hInside hComplete hFits
            rem with
          ⟨rem', d', hRound, hRem', hText, hInside'⟩
        have hNotRest :
            ¬ EndsInsideOne size d'.text.length args := by
          rintro ⟨done, arg, rest, rfl, hDone, hEnds⟩
          refine
            hNot ⟨a :: done, arg, rest, rfl, ?_, ?_⟩
          · intro b hb
            rcases List.mem_cons.mp hb with rfl | hMem
            · exact hComplete
            · exact hDone b hMem
          · rw [textEnd_cons, ← List.length_append, ← hText]
            exact hEnds
        rw [addElements_cons_go (by rw [hRound]), hRound]
        rcases ih hInside' hNotRest hRem' with
          ⟨hInside'', hRc, hDone⟩
        refine ⟨hInside'', ?_, ?_⟩
        · rw [hRc, hText, List.length_append, ← textEnd_cons]
          simp [hComplete]
        · intro hOk
          refine ⟨(hDone hOk).1, ?_⟩
          rw [(hDone hOk).2, hText]
          simp

end Shadow

end TrustOnboard

------------------------------------------------------------
-- Calls
------------------------------------------------------------

namespace TrustOnboard

namespace Shadow

open Mqtt (IoTError CString)

/- The calls of the builder. -/
inductive BuilderCall where
  | init
  | add
      (sec : Section)
      (args : List (Option JsonStruct))
  | finalize
      (mqttClientID : CString)
      (clientTokenNum : UInt32)

/- A text printed over the last character of another. -/
def overLast (text printed : Bytes) : Bytes :=
  if text = [] then printed.drop 1
  else text.dropLast ++ printed

namespace BuilderCall

/- The code and the document a call leaves. -/
def perform
    (size : Nat)
    (d : Document) :
    BuilderCall → Option (IoTError × Document)
  | .init => some (initJsonDocument size d)
  | .add sec args => sec.add size args d
  | .finalize mqttClientID clientTokenNum =>
      let r :=
        finalizeJsonDocument mqttClientID clientTokenNum size
          d
      some (r.1, r.2.2)

/- The document a call is to make of a text. -/
def intended (text : Bytes) : BuilderCall → Bytes
  | .init => ascii "\x7b\"state\":\x7b"
  | .add sec args =>
      overLast
        (text ++ sec.header ++ args.flatMap elementText)
        (ascii "\x7d,")
  | .finalize mqttClientID clientTokenNum =>
      overLast text (ascii "\x7d, \"clientToken\":\"") ++
        clientTokenText mqttClientID clientTokenNum ++
        ascii "\"\x7d"

/-
  The buffer ends inside the value of an element, or directly
  behind the last one, or there are more elements than the
  loop can count and all of them fit.
-/
def Overruns
    (size : Nat)
    (text : Bytes) : BuilderCall → Prop
  | .init => False
  | .add sec args =>
      let len := text.length + sec.header.length
      EndsInsideOne size len args ∨
        ((∀ a ∈ args, IsComplete a) ∧
          (textEnd len args + 1 = size ∨
            (128 ≤ args.length ∧ textEnd len args < size)))
  | .finalize _ _ => False

end BuilderCall

/-
  A call that keeps to the buffer and to its terminator, and
  reports a document that does not fit.
-/
def Contained
    (size : Nat)
    (intended : Bytes)
    (result : Option (IoTError × Document)) : Prop :=
  ∃ rc d,
    result = some (rc, d) ∧ d.Inside size ∧
      (size ≤ intended.length → rc ≠ .success)

theorem three_le_length_header
    (sec : Section) :
    3 ≤ sec.header.length := by
  cases sec <;> decide

theorem length_overLast
    {text printed : Bytes}
    (hSome : text ≠ []) :
    (overLast text printed).length + 1 =
      text.length + printed.length := by
  have hPos : 0 < text.length := List.length_pos_iff.mpr hSome
  unfold overLast
  rw [if_neg hSome]
  simp only [List.length_append, List.length_dropLast]
  omega

theorem Section.add_eq
    (sec : Section) :
    sec.add = addSection sec.header := by
  cases sec <;> rfl

/- A section whose header fits goes on to its elements. -/
theorem addSection_of_header
    {size : Nat}
    (hSize : size < 2 ^ 64)
    {text : Bytes}
    {header : Bytes}
    (hShort : header.length < 2 ^ 31)
    (hHeader : 3 ≤ header.length)
    (hFits : text.length + header.length < size)
    (args : List (Option JsonStruct)) :
    ∃ rem d,
      3 < rem ∧ d.text = text ++ header ∧ d.Inside size ∧
        addSection header size args ⟨text, 0⟩ =
          if (addElements size args rem d).1 ≠ .success then
            some
              ((addElements size args rem d).1,
                (addElements size args rem d).2.2)
          else if 128 ≤ args.length then none
          else
            some
              (checkReturnValueOfSnPrintf
                  (snPrintfReturn (ascii "\x7d,"))
                  (addElements size args rem d).2.1,
                (addElements size args
                  rem d).2.2.snprintfOverLast
                  (addElements size args rem d).2.1
                  (ascii "\x7d,")) := by
  let d₀ : Document := ⟨text, 0⟩
  have hLeft : d₀.sizeLeft size = size - text.length :=
    Document.sizeLeft_eq hSize
      (show text.length ≤ size by omega)
  have hCheck :
      checkReturnValueOfSnPrintf (snPrintfReturn header)
          (size - text.length) = .success :=
    (check_success_iff _ _).mpr ⟨hShort, by omega⟩
  have hWhole :
      d₀.snprintf (size - text.length) header =
        ⟨text ++ header,
          max 0 (text.length + header.length + 1)⟩ :=
    Document.snprintf_whole (by omega)
  refine
    ⟨size - text.length,
      d₀.snprintf (size - text.length) header, by omega, ?_,
      ?_, ?_⟩
  · rw [hWhole]
  · rw [hWhole]
    refine ⟨?_, ?_⟩
    · simp only [List.length_append]
      omega
    · simp only
      omega
  · unfold addSection
    change
      (if d₀.sizeLeft size ≤ 1 then _ else _) = _
    rw [if_neg (by omega), hLeft, hCheck, if_neg (by simp)]

/- One whose header does not fit stops there. -/
theorem addSection_stops
    {size : Nat}
    (hSize : size < 2 ^ 64)
    {text : Bytes}
    (hText : text.length < size)
    {header : Bytes}
    (hLong : size ≤ text.length + header.length)
    (args : List (Option JsonStruct)) :
    ∃ rc d,
      addSection header size args ⟨text, 0⟩ = some (rc, d) ∧
        d.Inside size ∧ rc ≠ .success := by
  let d₀ : Document := ⟨text, 0⟩
  have hInside : d₀.Inside size := ⟨hText, Nat.zero_le _⟩
  have hLeft : d₀.sizeLeft size = size - text.length :=
    Document.sizeLeft_eq hSize (Nat.le_of_lt hText)
  unfold addSection
  change
    ∃ rc d,
      (if d₀.sizeLeft size ≤ 1 then _ else _) = _ ∧ _
  rw [hLeft]
  by_cases hFull : size - text.length ≤ 1
  · rw [if_pos hFull]
    exact ⟨_, _, rfl, hInside, fun hNo => (by cases hNo)⟩
  · have hRc :
        checkReturnValueOfSnPrintf (snPrintfReturn header)
            (size - text.length) ≠ .success := by
      intro hOk
      have hFits := ((check_success_iff _ _).mp hOk).2
      omega
    have hKept : (d₀.snprintf (size - text.length)
        header).Inside size :=
      hInside.snprintf
        (show text.length + (size - text.length) ≤ size by
          omega) header
    rw [if_neg hFull, if_pos hRc]
    exact ⟨_, _, rfl, hKept, hRc⟩

theorem snprintfOverLast_whole
    {d : Document}
    {n : Nat}
    {text : Bytes}
    (hFits : text.length < n) :
    (d.snprintfOverLast n text).text =
      overLast d.text text := by
  unfold Document.snprintfOverLast overLast
  rw [if_neg (by omega)]
  split
  · simp only
    rw [List.take_of_length_le (by omega)]
  · simp only
    rw [List.take_of_length_le (by omega)]

/- The brace that closes a section. -/
theorem closing_inside_iff
    {size : Nat}
    {d : Document}
    (hInside : d.Inside size)
    (hSome : d.text ≠ [])
    {rem : Nat}
    (hRem : 3 < rem) :
    (d.snprintfOverLast rem (ascii "\x7d,")).Inside size ↔
      d.text.length + 1 < size := by
  have hText := hInside.text
  have hLength : (ascii "\x7d,").length = 2 := by decide
  constructor
  · intro hKept
    have hReach := hKept.reach
    unfold Document.snprintfOverLast at hReach
    rw [if_neg (by omega), if_neg hSome, hLength] at hReach
    simp only at hReach
    omega
  · intro hRoom
    exact
      hInside.snprintfOverLast (by omega) (by omega)

theorem addSection_contained_iff
    {size : Nat}
    (hSize : size < 2 ^ 64)
    {text : Bytes}
    (hText : text.length < size)
    (sec : Section)
    (args : List (Option JsonStruct)) :
    Contained size ((BuilderCall.add sec args).intended text)
        (addSection sec.header size args ⟨text, 0⟩) ↔
      ¬ (BuilderCall.add sec args).Overruns size text := by
  have hHeader := three_le_length_header sec
  have hShort : sec.header.length < 2 ^ 31 := by
    cases sec <;> decide
  have hEndLe :=
    le_textEnd (text.length + sec.header.length) args
  by_cases hFits : text.length + sec.header.length < size
  · rcases
      addSection_of_header hSize hShort hHeader hFits args
      with ⟨rem, d, hRem, hd, hInside, hSection⟩
    have hLen :
        d.text.length = text.length + sec.header.length := by
      rw [hd, List.length_append]
    rw [hSection]
    by_cases hEnds :
        EndsInsideOne size (text.length + sec.header.length)
          args
    · -- Some value was printed behind the buffer.
      refine ⟨fun hKept => ?_, fun hNo => ?_⟩
      · rw [← hLen] at hEnds
        have hOver :=
          addElements_overruns hSize hInside hEnds rem
        rcases hKept with ⟨rc, d', hResult, hInside', _⟩
        have hReach := hInside'.reach
        split at hResult
        · cases hResult
          omega
        split at hResult
        · cases hResult
        · cases hResult
          have hLe :=
            Document.reach_snprintfOverLast
              (addElements size args rem d).2.2
              (addElements size args rem d).2.1
              (ascii "\x7d,")
          omega
      · exact absurd (Or.inl hEnds) hNo
    rw [← hLen] at hEnds
    rcases addElements_contained hSize hInside hEnds hRem with
      ⟨hInside', hRc, hDone⟩
    rw [← hLen] at hEndLe
    by_cases hOk :
        (addElements size args rem d).1 = .success
    · rcases hRc.mp hOk with ⟨hAll, hEnd⟩
      rcases hDone hOk with ⟨hRem', hText'⟩
      have hLen' :
          (addElements size args rem d).2.2.text.length =
            textEnd d.text.length args := by
        rw [hText', List.length_append]
        rfl
      have hSome :
          (addElements size args rem d).2.2.text ≠ [] := by
        rw [← List.length_pos_iff]
        omega
      rw [if_neg (by simp [hOk])]
      by_cases hMany : 128 ≤ args.length
      · rw [if_pos hMany]
        refine ⟨fun hKept => ?_, fun hNo => ?_⟩
        · rcases hKept with ⟨rc, d', hResult, _⟩
          cases hResult
        · refine absurd (Or.inr ⟨hAll, Or.inr ⟨hMany, ?_⟩⟩) hNo
          rw [← hLen]
          exact hEnd
      rw [if_neg hMany]
      have hIff :=
        closing_inside_iff hInside' hSome hRem'
      constructor
      · rintro ⟨rc, d', hResult, hKept, _⟩ hOver
        cases hResult
        have hRoom := hIff.mp hKept
        rcases hOver with hNo | ⟨_, hEq | ⟨hNo, _⟩⟩
        · rw [← hLen] at hNo
          exact hEnds hNo
        · rw [← hLen] at hEq
          omega
        · exact hMany hNo
      · intro hNot
        have hRoom :
            (addElements size args rem d).2.2.text.length + 1 <
              size := by
          by_contra hLast
          refine hNot (Or.inr ⟨hAll, Or.inl ?_⟩)
          rw [← hLen]
          omega
        refine ⟨_, _, rfl, hIff.mpr hRoom, ?_⟩
        intro hLong
        have hIntended :
            (BuilderCall.add sec args).intended text =
              overLast
                (addElements size args rem d).2.2.text
                (ascii "\x7d,") := by
          rw [hText', hd]
          rfl
        have hTwo : (ascii "\x7d,").length = 2 := by decide
        have hLength :
            (overLast
                (addElements size args rem d).2.2.text
                (ascii "\x7d,")).length + 1 =
              (addElements size args rem d).2.2.text.length +
                (ascii "\x7d,").length :=
          length_overLast hSome
        rw [hIntended] at hLong
        omega
    · rw [if_pos hOk]
      refine ⟨fun _ hOver => ?_, fun _ => ?_⟩
      · have hAll :
            (∀ a ∈ args, IsComplete a) ∧
              textEnd d.text.length args < size := by
          rw [hLen]
          rcases hOver with hNo | ⟨hAll, hEq | ⟨_, hEnd⟩⟩
          · rw [← hLen] at hNo
            exact absurd hNo hEnds
          · exact ⟨hAll, by omega⟩
          · exact ⟨hAll, hEnd⟩
        exact hOk (hRc.mpr hAll)
      · exact ⟨_, _, rfl, hInside', fun _ => hOk⟩
  · rcases
      addSection_stops hSize hText
        (show size ≤ text.length + sec.header.length by
          omega) args with
      ⟨rc, d, hResult, hInside, hRc⟩
    refine ⟨fun _ hOver => ?_, fun _ => ?_⟩
    · rcases hOver with
        ⟨done, _, _, _, _, s, _, _, _, _, _, hKey, _⟩ |
          ⟨_, hEq | ⟨_, hEnd⟩⟩
      · have hLe :=
          le_textEnd (text.length + sec.header.length) done
        omega
      · omega
      · omega
    · exact ⟨rc, d, hResult, hInside, fun _ => hRc⟩

/- The beginning of a document. -/
theorem initJsonDocument_contained
    {size : Nat}
    {text : Bytes}
    (hText : text.length < size) :
    Contained size (BuilderCall.init.intended text)
      (some (initJsonDocument size ⟨text, 0⟩)) := by
  refine ⟨_, _, rfl, ?_, ?_⟩
  · rw [if_neg (by omega)]
    refine Document.Inside.snprintf ⟨?_, ?_⟩ ?_ _
    · exact Nat.lt_of_le_of_lt (Nat.zero_le _) hText
    · exact Nat.zero_le _
    · simp
  · intro hLong hOk
    have hFits := ((check_success_iff _ _).mp hOk).2
    change
      size ≤ (ascii "\x7b\"state\":\x7b").length at hLong
    omega

/- Printing into what is left, and the test behind it. -/
theorem snprintf_sizeLeft
    {size : Nat}
    (hSize : size < 2 ^ 64)
    {d : Document}
    (hInside : d.Inside size)
    (text : Bytes) :
    (d.snprintf (d.sizeLeft size) text).Inside size ∧
      (checkReturnValueOfSnPrintf (snPrintfReturn text)
            (d.sizeLeft size) = .success →
        (d.snprintf (d.sizeLeft size) text).text =
          d.text ++ text) := by
  have hText := hInside.text
  rw [Document.sizeLeft_eq hSize (Nat.le_of_lt hText)]
  refine ⟨hInside.snprintf (by omega) text, ?_⟩
  intro hOk
  have hFits := ((check_success_iff _ _).mp hOk).2
  rw [Document.snprintf_whole hFits]

/- The end of a document keeps to the buffer. -/
theorem finalizeJsonDocument_contained
    {size : Nat}
    (hSize : size < 2 ^ 64)
    {text : Bytes}
    (hText : text.length < size)
    (mqttClientID : CString)
    (clientTokenNum : UInt32) :
    Contained size
      ((BuilderCall.finalize mqttClientID
        clientTokenNum).intended text)
      ((BuilderCall.finalize mqttClientID
        clientTokenNum).perform size ⟨text, 0⟩) := by
  have hInside : Document.Inside size ⟨text, 0⟩ :=
    ⟨hText, Nat.zero_le _⟩
  have hLeft :
      Document.sizeLeft ⟨text, 0⟩ size =
        size - text.length :=
    Document.sizeLeft_eq hSize (Nat.le_of_lt hText)
  have hOpening :
      (ascii "\x7d, \"clientToken\":\"").length = 18 := by
    decide
  unfold BuilderCall.perform finalizeJsonDocument
  simp only
  -- Each of the three texts is printed into what is left.
  by_cases hFull : size - text.length ≤ 1
  · rw [hLeft, if_pos hFull]
    exact ⟨_, _, rfl, hInside, fun _ hNo => (by cases hNo)⟩
  rw [hLeft, if_neg hFull]
  have hInside₁ :
      (Document.snprintfOverLast ⟨text, 0⟩
        (size - text.length)
        (ascii "\x7d, \"clientToken\":\"")).Inside size :=
    hInside.snprintfOverLast
      (by rw [hOpening]; simp only; omega)
      (by rw [hOpening]; omega)
  by_cases hRc₁ :
      checkReturnValueOfSnPrintf
          (snPrintfReturn
            (ascii "\x7d, \"clientToken\":\""))
          (size - text.length) = .success
  case neg =>
    rw [if_pos hRc₁]
    exact ⟨_, _, rfl, hInside₁, fun _ => hRc₁⟩
  rw [if_neg (by simp [hRc₁])]
  have hText₁ :=
    snprintfOverLast_whole (d := ⟨text, 0⟩)
      ((check_success_iff _ _).mp hRc₁).2
  generalize
    Document.snprintfOverLast ⟨text, 0⟩ (size - text.length)
      (ascii "\x7d, \"clientToken\":\"") = d₁ at *
  by_cases hFull₁ : d₁.sizeLeft size ≤ 1
  · rw [if_pos hFull₁]
    exact ⟨_, _, rfl, hInside₁, fun _ hNo => (by cases hNo)⟩
  rw [if_neg hFull₁]
  rcases
    snprintf_sizeLeft hSize hInside₁
      (clientTokenText mqttClientID clientTokenNum) with
    ⟨hInside₂, hText₂⟩
  by_cases hRc₂ :
      checkReturnValueOfSnPrintf
          (snPrintfReturn
            (clientTokenText mqttClientID clientTokenNum))
          (d₁.sizeLeft size) = .success
  case neg =>
    rw [if_pos hRc₂]
    exact ⟨_, _, rfl, hInside₂, fun _ => hRc₂⟩
  rw [if_neg (by simp [hRc₂])]
  have hText₂ := hText₂ hRc₂
  generalize
    d₁.snprintf (d₁.sizeLeft size)
      (clientTokenText mqttClientID clientTokenNum) = d₂ at *
  by_cases hFull₂ : d₂.sizeLeft size ≤ 1
  · rw [if_pos hFull₂]
    exact ⟨_, _, rfl, hInside₂, fun _ hNo => (by cases hNo)⟩
  rw [if_neg hFull₂]
  rcases
    snprintf_sizeLeft hSize hInside₂ (ascii "\"\x7d") with
    ⟨hInside₃, hText₃⟩
  refine ⟨_, _, rfl, hInside₃, ?_⟩
  intro hLong hOk
  have hLength := hInside₃.text
  rw [hText₃ hOk, hText₂, hText₁] at hLength
  change
    size ≤
      (overLast text (ascii "\x7d, \"clientToken\":\"") ++
        clientTokenText mqttClientID clientTokenNum ++
        ascii "\"\x7d").length at hLong
  exact absurd hLong (Nat.not_le.mpr hLength)

/-
  A call of the builder keeps to the buffer, to its
  terminator and to its duty to report a document that does
  not fit, exactly when it does not overrun.
-/
theorem contained_iff_not_overruns
    {size : Nat}
    (hSize : size < 2 ^ 64)
    {text : Bytes}
    (hText : text.length < size)
    (c : BuilderCall) :
    Contained size (c.intended text)
        (c.perform size ⟨text, 0⟩) ↔
      ¬ c.Overruns size text := by
  cases c with
  | init =>
      exact
        ⟨fun _ hNo => hNo.elim,
          fun _ => initJsonDocument_contained hText⟩
  | add sec args =>
      have hIff :=
        addSection_contained_iff hSize hText sec args
      rw [← Section.add_eq] at hIff
      exact hIff
  | finalize mqttClientID clientTokenNum =>
      exact
        ⟨fun _ hNo => hNo.elim,
          fun _ =>
            finalizeJsonDocument_contained hSize hText
              mqttClientID clientTokenNum⟩

/- The number of five digits with a key of one letter. -/
def numberElement : JsonStruct where
  pKey := some ⟨ascii "a", nul_free_a⟩
  pData := some (.int32 12345)

theorem contained_iff_not_overruns_numberElement :
    ¬ (BuilderCall.add .desired
        [some numberElement]).Overruns 64
        (ascii "\x7b\"state\":\x7b") := by
  have hSize : 64 < 2 ^ 64 := by decide
  have hText :
      (ascii "\x7b\"state\":\x7b").length < 64 := by
    decide
  refine (contained_iff_not_overruns hSize hText _).mp ?_
  refine
    ⟨.success,
      ⟨ascii "\x7b\"state\":\x7b\"desired\":\x7b\"a\":12345\x7d,",
        33⟩, by decide +kernel, ⟨?_, ?_⟩, ?_⟩
  · decide +kernel
  · decide +kernel
  · decide +kernel

/-
  A buffer of 30 bytes ends inside the number: the call
  prints behind it and reports success.
-/
theorem numberElement_overruns :
    ∃ d,
      addDesired 30 [some numberElement]
          ⟨ascii "\x7b\"state\":\x7b", 0⟩ =
          some (.success, d) ∧
        30 < d.reach ∧ 30 ≤ d.text.length := by
  refine
    ⟨⟨ascii "\x7b\"state\":\x7b\"desired\":\x7b\"a\":12345\x7d,",
        33⟩, by decide +kernel, ?_, ?_⟩
  · decide +kernel
  · decide +kernel

end Shadow

end TrustOnboard
