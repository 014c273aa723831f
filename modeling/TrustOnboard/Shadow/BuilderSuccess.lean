import TrustOnboard.Shadow.BuilderDocument

/-
  When the builder succeeds.

  A document that fits its buffer goes through, call by call,
  as long as no single text in it is too long for the `int`
  that `snprintf` returns.

  Key results include:
    * `addElements_succeeds`
    * `addSection_succeeds`
    * `finalizeJsonDocument_succeeds`
    * `build_succeeds`
    * `build_fails_of_long_key`
-/

------------------------------------------------------------
-- Calls That Succeed
------------------------------------------------------------

namespace TrustOnboard

namespace Shadow

open Mqtt (IoTError CString)

variable {size : Nat}

/- A round succeeds when its element fits. -/
theorem addElement_succeeds
    (hSize : size < 2 ^ 64)
    {arg : Option JsonStruct}
    (hComplete : IsComplete arg)
    {d : Document}
    (hFits :
      d.text.length + (elementText arg).length < size)
    (rem : Nat) :
    ∃ d',
      addElement size arg rem d =
          (.success, size - d.text.length, d') ∧
        d'.text = d.text ++ elementText arg := by
  rcases hComplete with
    ⟨s, data, rfl, hKey, hData, hShort, hShort'⟩
  have hElement :
      elementText (some s) = s.keyText ++ data.added := by
    simp [elementText, hData]
  have hLength := three_le_length_keyText s
  rw [hElement, List.length_append] at hFits
  have hCheck :
      checkReturnValueOfSnPrintf (snPrintfReturn data.added)
          (size - d.text.length) = .success :=
    (check_success_iff _ _).mpr ⟨hShort', by omega⟩
  rw [addElement_of_key hSize (by omega) hShort (by omega) hKey
    hData, hCheck, List.take_of_length_le (by omega), hElement]
  exact ⟨_, rfl, List.append_assoc _ _ _⟩

/- So does the loop, and what it leaves is not too little. -/
theorem addElements_succeeds
    (hSize : size < 2 ^ 64)
    {args : List (Option JsonStruct)}
    (hComplete : ∀ a ∈ args, IsComplete a)
    {d : Document}
    (hFits :
      d.text.length + (args.flatMap elementText).length <
        size)
    {rem : Nat}
    (hRem : size - d.text.length ≤ rem) :
    ∃ rem' d',
      addElements size args rem d = (.success, rem', d') ∧
        size - d'.text.length ≤ rem' ∧
          d'.text = d.text ++ args.flatMap elementText := by
  induction args generalizing d rem with
  | nil => exact ⟨rem, d, rfl, hRem, by simp⟩
  | cons a args ih =>
      rw [List.flatMap_cons, List.length_append] at hFits
      rcases addElement_succeeds hSize
          (hComplete a List.mem_cons_self)
          (show d.text.length + (elementText a).length < size
            by omega) rem with
        ⟨d₁, hRound, hText⟩
      have hLength :
          d₁.text.length =
            d.text.length + (elementText a).length := by
        rw [hText, List.length_append]
      rcases ih
          (fun b hb => hComplete b (List.mem_cons_of_mem a hb))
          (show d₁.text.length +
              (args.flatMap elementText).length < size by
            omega)
          (show size - d₁.text.length ≤
              size - d.text.length by omega) with
        ⟨rem', d', hRest, hRem', hText'⟩
      refine ⟨rem', d', ?_, hRem', ?_⟩
      · rw [addElements_cons_go (by rw [hRound]), hRound]
        exact hRest
      · rw [hText', hText, List.flatMap_cons,
          List.append_assoc]

theorem addSection_succeeds
    (hSize : size < 2 ^ 64)
    {header : Bytes}
    (hHeader : header.length < 2 ^ 31)
    {args : List (Option JsonStruct)}
    (hComplete : ∀ a ∈ args, IsComplete a)
    (hCount : args.length < 128)
    {d : Document}
    (hFits :
      (d.text ++ header ++
        args.flatMap elementText).length + 2 < size) :
    ∃ d',
      addSection header size args d = some (.success, d') := by
  simp only [List.length_append] at hFits
  have hLeft :=
    Document.sizeLeft_eq hSize
      (show d.text.length ≤ size by omega)
  have hCheck :
      checkReturnValueOfSnPrintf (snPrintfReturn header)
          (d.sizeLeft size) = .success :=
    (check_success_iff _ _).mpr ⟨hHeader, by omega⟩
  have hText := text_snprintf_of_check hCheck d
  have hRoom : ¬ d.sizeLeft size ≤ 1 := by omega
  have hHeaderText :
      (d.snprintf (d.sizeLeft size) header).text.length =
        d.text.length + header.length := by
    rw [hText, List.length_append]
  have hElementsFit :
      (d.snprintf (d.sizeLeft size) header).text.length +
          (args.flatMap elementText).length < size := by
    omega
  have hRem :
      size -
          (d.snprintf (d.sizeLeft size) header).text.length ≤
        d.sizeLeft size := by
    omega
  rcases addElements_succeeds hSize hComplete hElementsFit
      hRem with
    ⟨rem', d', hElements, hRem', hText'⟩
  have hLength' :
      d'.text.length =
        (d.snprintf (d.sizeLeft size) header).text.length +
          (args.flatMap elementText).length := by
    rw [hText', List.length_append]
  have hTwo : (ascii "\x7d,").length = 2 := by decide
  have hClose :
      checkReturnValueOfSnPrintf
          (snPrintfReturn (ascii "\x7d,")) rem' = .success :=
    (check_success_iff _ _).mpr ⟨by rw [hTwo]; decide, by omega⟩
  rw [addSection_of_check hRoom hCheck hElements,
    if_neg (by simp), if_neg (by omega), hClose]
  exact ⟨_, rfl⟩

/- The end of a document, text by text. -/
theorem finalizeJsonDocument_succeeds
    (hSize : size < 2 ^ 64)
    {mqttClientID : CString}
    {clientTokenNum : UInt32}
    (hToken :
      (clientTokenText mqttClientID clientTokenNum).length <
        2 ^ 31)
    {d : Document}
    (hSome : d.text ≠ [])
    (hFits :
      ((BuilderCall.finalize mqttClientID
        clientTokenNum).intended d.text).length < size) :
    (finalizeJsonDocument mqttClientID clientTokenNum size
      d).1 = .success := by
  have hOpening :
      (ascii "\x7d, \"clientToken\":\"").length = 18 := by
    decide
  have hClosing : (ascii "\"\x7d").length = 2 := by decide
  have hOver :
      (overLast d.text
          (ascii "\x7d, \"clientToken\":\"")).length + 1 =
        d.text.length +
          (ascii "\x7d, \"clientToken\":\"").length :=
    length_overLast hSome
  have hPos := List.length_pos_iff.mpr hSome
  unfold BuilderCall.intended at hFits
  simp only [List.length_append, hClosing] at hFits
  have hLeft :=
    Document.sizeLeft_eq hSize
      (show d.text.length ≤ size by omega)
  have hCheck₁ :
      checkReturnValueOfSnPrintf
          (snPrintfReturn
            (ascii "\x7d, \"clientToken\":\""))
          (d.sizeLeft size) = .success :=
    (check_success_iff _ _).mpr
      ⟨by rw [hOpening]; decide, by omega⟩
  have hText₁ :
      (d.snprintfOverLast (d.sizeLeft size)
          (ascii "\x7d, \"clientToken\":\"")).text =
        overLast d.text
          (ascii "\x7d, \"clientToken\":\"") :=
    snprintfOverLast_whole ((check_success_iff _ _).mp hCheck₁).2
  unfold finalizeJsonDocument
  simp only
  rw [if_neg (by omega), hCheck₁, if_neg (by simp)]
  generalize
    d.snprintfOverLast (d.sizeLeft size)
      (ascii "\x7d, \"clientToken\":\"") = d₁ at *
  rw [← hText₁] at hOver hFits
  have hLeft₁ :=
    Document.sizeLeft_eq hSize
      (show d₁.text.length ≤ size by omega)
  have hCheck₂ :
      checkReturnValueOfSnPrintf
          (snPrintfReturn
            (clientTokenText mqttClientID clientTokenNum))
          (d₁.sizeLeft size) = .success :=
    (check_success_iff _ _).mpr ⟨hToken, by omega⟩
  have hText₂ := text_snprintf_of_check hCheck₂ d₁
  rw [if_neg (by omega), hCheck₂, if_neg (by simp)]
  generalize
    d₁.snprintf (d₁.sizeLeft size)
      (clientTokenText mqttClientID clientTokenNum) = d₂ at *
  have hLength₂ :
      d₂.text.length =
        d₁.text.length +
          (clientTokenText mqttClientID
            clientTokenNum).length := by
    rw [hText₂, List.length_append]
  have hLeft₂ :=
    Document.sizeLeft_eq hSize
      (show d₂.text.length ≤ size by omega)
  rw [if_neg (by omega)]
  dsimp only
  refine (check_success_iff _ _).mpr ⟨?_, ?_⟩
  · rw [hClosing]
    decide
  · rw [hClosing]
    omega

end Shadow

end TrustOnboard

------------------------------------------------------------
-- Documents
------------------------------------------------------------

namespace TrustOnboard

namespace Shadow

open Mqtt (IoTError CString)

variable {size : Nat}

/- A section that adds what it is to add, in a buffer. -/
theorem performAll_adds
    (hSize : size < 2 ^ 64)
    {parts : List Part}
    (hComplete :
      ∀ p ∈ parts, ∀ a ∈ p.args, IsComplete a)
    (hCount : ∀ p ∈ parts, p.2.length < 128)
    {d : Document}
    (hFits :
      (d.text ++ (parts.map Part.toItem).flatMap
        Json.Item.written).length + 1 < size)
    (calls : List BuilderCall) :
    ∃ d',
      d'.text =
          d.text ++ (parts.map Part.toItem).flatMap
            Json.Item.written ∧
        performAll size
            (parts.map (fun p => .add p.1 p.args) ++ calls)
            d =
          performAll size calls d' := by
  induction parts generalizing d with
  | nil => exact ⟨d, by simp, rfl⟩
  | cons p parts ih =>
      have hTwo : (ascii "\x7d,").length = 2 := by decide
      have hIntended := intended_add p d.text
      have hOver :
          (overLast
              (d.text ++ p.1.header ++
                p.args.flatMap elementText)
              (ascii "\x7d,")).length + 1 =
            (d.text ++ p.1.header ++
                p.args.flatMap elementText).length +
              (ascii "\x7d,").length := by
        apply length_overLast
        have hHeader := three_le_length_header p.1
        rw [← List.length_pos_iff]
        simp only [List.length_append]
        omega
      unfold BuilderCall.intended at hIntended
      simp only at hIntended
      rw [hIntended] at hOver
      rw [List.map_cons, List.flatMap_cons,
        ← List.append_assoc] at hFits
      have hHere :
          (d.text ++ p.toItem.written).length + 1 < size := by
        rw [List.length_append] at hFits
        omega
      have hHeaderShort : p.1.header.length < 2 ^ 31 := by
        cases p.1 <;> decide
      have hArgs : p.args.length < 128 := by
        unfold Part.args
        rw [List.length_map]
        exact hCount p List.mem_cons_self
      rcases addSection_succeeds hSize hHeaderShort
          (hComplete p List.mem_cons_self) hArgs
          (show
            (d.text ++ p.1.header ++
              p.args.flatMap elementText).length + 2 < size
            by omega) with
        ⟨d₁, hSection⟩
      have hPerform :
          (BuilderCall.add p.1 p.args).perform size d =
            some (.success, d₁) := by
        unfold BuilderCall.perform
        dsimp only
        rw [Section.add_eq]
        exact hSection
      have hText₁ : d₁.text = d.text ++ p.toItem.written := by
        rw [text_perform hPerform, intended_add]
      rcases ih
          (fun q hq => hComplete q (List.mem_cons_of_mem p hq))
          (fun q hq => hCount q (List.mem_cons_of_mem p hq))
          (d := d₁) (by rw [hText₁]; exact hFits) with
        ⟨d', hText', hRest⟩
      refine ⟨d', ?_, ?_⟩
      · rw [hText', hText₁, List.map_cons, List.flatMap_cons,
          List.append_assoc]
      · rw [List.map_cons, List.cons_append, performAll,
          hPerform]
        exact hRest

/- The document is built when it fits, and no text is long. -/
theorem build_succeeds
    (hSize : size < 2 ^ 64)
    {mqttClientID : CString}
    {clientTokenNum : UInt32}
    {parts : List Part}
    (hComplete :
      ∀ p ∈ parts, ∀ a ∈ p.args, IsComplete a)
    (hCount : ∀ p ∈ parts, p.2.length < 128)
    (hToken :
      (clientTokenText mqttClientID clientTokenNum).length <
        2 ^ 31)
    (hFits :
      (documentText mqttClientID clientTokenNum
        parts).length < size)
    (d : Document) :
    ∃ d',
      build size mqttClientID clientTokenNum parts d =
        some d' := by
  have hInitLength :
      (ascii "\x7b\"state\":\x7b").length = 10 := by
    decide
  have hWhole :=
    intended_finalize mqttClientID clientTokenNum parts
      d.text
  obtain ⟨body, hBody⟩ :
      ∃ body,
        body =
          BuilderCall.init.intended d.text ++
            (parts.map Part.toItem).flatMap
              Json.Item.written :=
    ⟨_, rfl⟩
  rw [← hBody] at hWhole
  have hSome : body ≠ [] := by
    rw [hBody]
    unfold BuilderCall.intended
    rw [← List.length_pos_iff, List.length_append,
      hInitLength]
    omega
  have hOver :
      (overLast body
          (ascii "\x7d, \"clientToken\":\"")).length + 1 =
        body.length +
          (ascii "\x7d, \"clientToken\":\"").length :=
    length_overLast hSome
  have hOpening :
      (ascii "\x7d, \"clientToken\":\"").length = 18 := by
    decide
  have hRoom : body.length + 1 < size := by
    rw [← hWhole] at hFits
    unfold BuilderCall.intended at hFits
    simp only [List.length_append] at hFits
    omega
  have hTen : 10 ≤ body.length := by
    rw [hBody]
    unfold BuilderCall.intended
    rw [List.length_append, hInitLength]
    omega
  have hInit :
      ∃ d₀,
        BuilderCall.init.perform size d = some (.success, d₀) := by
    refine ⟨_, congrArg some (Prod.ext ?_ rfl)⟩
    change
      checkReturnValueOfSnPrintf
          (snPrintfReturn (ascii "\x7b\"state\":\x7b"))
          size =
        .success
    refine (check_success_iff _ _).mpr ⟨?_, ?_⟩
    · rw [hInitLength]
      decide
    · rw [hInitLength]
      omega
  rcases hInit with ⟨d₀, hInit⟩
  have hText₀ := text_perform hInit
  rcases performAll_adds hSize hComplete hCount
      (d := d₀) (by rw [hText₀, ← hBody]; exact hRoom)
      [.finalize mqttClientID clientTokenNum] with
    ⟨d₁, hText₁, hAdds⟩
  rw [hText₀, ← hBody] at hText₁
  have hFinal :=
    finalizeJsonDocument_succeeds hSize hToken (d := d₁)
      (by rw [hText₁]; exact hSome)
      (by rw [hText₁, hWhole]; exact hFits)
  refine
    ⟨(finalizeJsonDocument mqttClientID clientTokenNum size
      d₁).2.2, ?_⟩
  have hFinalize :
      (BuilderCall.finalize mqttClientID
          clientTokenNum).perform size d₁ =
        some
          (.success,
            (finalizeJsonDocument mqttClientID clientTokenNum
              size d₁).2.2) := by
    unfold BuilderCall.perform
    dsimp only
    rw [hFinal]
  unfold build buildCalls
  rw [performAll, hInit]
  dsimp only
  rw [hAdds, performAll, hFinalize]
  rfl

/- The key of an element that goes through is not too long. -/
theorem keyText_short_of_addElement
    {rem : Nat}
    {s : JsonStruct}
    {d : Document}
    (hRc : (addElement size (some s) rem d).1 = .success) :
    s.keyText.length < 2 ^ 31 := by
  by_cases hFull : d.sizeLeft size ≤ 1
  · simp [addElement, hFull] at hRc
  by_cases hKey :
      checkReturnValueOfSnPrintf (snPrintfReturn s.keyText)
          (d.sizeLeft size) = .success
  case neg => simp [addElement, hFull, hKey] at hRc
  exact ((check_success_iff _ _).mp hKey).1

theorem keyText_short_of_addSection
    {header : Bytes}
    {s : JsonStruct}
    {args : List (Option JsonStruct)}
    {d d' : Document}
    (hCall :
      addSection header size (some s :: args) d =
        some (.success, d')) :
    s.keyText.length < 2 ^ 31 := by
  by_cases hFull : d.sizeLeft size ≤ 1
  · simp [addSection, hFull] at hCall
  by_cases hHeader :
      checkReturnValueOfSnPrintf (snPrintfReturn header)
          (d.sizeLeft size) = .success
  case neg => simp [addSection, hFull, hHeader] at hCall
  obtain ⟨r, hr⟩ :
      ∃ r,
        addElements size (some s :: args) (d.sizeLeft size)
          (d.snprintf (d.sizeLeft size) header) = r :=
    ⟨_, rfl⟩
  rw [addSection_of_check hFull hHeader hr] at hCall
  by_cases hRc : r.1 = .success
  case neg =>
    rw [if_pos hRc] at hCall
    exact absurd (congrArg Prod.fst (Option.some.inj hCall)) hRc
  rw [← hr] at hRc
  by_cases hFirst :
      (addElement size (some s) (d.sizeLeft size)
        (d.snprintf (d.sizeLeft size) header)).1 = .success
  · exact keyText_short_of_addElement hFirst
  · rw [addElements_cons_stop hFirst] at hRc
    exact absurd hRc hFirst

/- A key that is too long for an `int` is not printed. -/
theorem build_fails_of_long_key
    {mqttClientID : CString}
    {clientTokenNum : UInt32}
    {sec : Section}
    {e : Element}
    {es : List Element}
    {parts : List Part}
    (hLong : 2 ^ 31 ≤ e.toStruct.keyText.length)
    (d : Document) :
    build size mqttClientID clientTokenNum
        ((sec, e :: es) :: parts) d =
      none := by
  unfold build buildCalls
  rw [performAll]
  split
  · rename_i d₀ _
    rw [List.map_cons, List.cons_append, performAll]
    split
    · rename_i d₁ hCall
      unfold BuilderCall.perform at hCall
      dsimp only at hCall
      rw [Section.add_eq] at hCall
      have hShort := keyText_short_of_addSection hCall
      exact absurd hLong (Nat.not_le.mpr hShort)
    · rfl
  · rfl

end Shadow

end TrustOnboard
