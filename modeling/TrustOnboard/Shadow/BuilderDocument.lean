import TrustOnboard.Json.Writer
import TrustOnboard.Shadow.BuilderBounds

/-
  The document the builder makes.

  When every call succeeds, each of them has printed its
  whole text, and the document is the concatenation of these
  texts with the last character of a part overwritten by what
  follows it.  It spells the intended value exactly when that
  character always is a comma and no text in it needs an
  escape.

  Key definitions include:
    * `Element`
    * `build`
    * `documentValue`
    * `documentText`
    * `Expressible`

  Key results include:
    * `build_text`
    * `build_intended_iff`
-/

------------------------------------------------------------
-- Elements And Their Values
------------------------------------------------------------

namespace TrustOnboard

namespace Shadow

open Mqtt (IoTError CString)

/- The value an integer, a boolean or a string stands for. -/
def JsonData.value? : JsonData → Option Json.Value
  | .int32 v => some (.number (signedDecimal v.toInt))
  | .int16 v => some (.number (signedDecimal v.toInt))
  | .int8 v => some (.number (signedDecimal v.toInt))
  | .uint32 v => some (.number (signedDecimal v.toNat))
  | .uint16 v => some (.number (signedDecimal v.toNat))
  | .uint8 v => some (.number (signedDecimal v.toNat))
  | .bool v => some (.bool v)
  | .string v => some (.string v.bytes)
  | .float _ => none
  | .double _ => none
  | .object => none

/- An element with a key and such a value. -/
structure Element where
  key : CString
  data : JsonData
  value : Json.Value
  stands : data.value? = some value

namespace Element

/- The argument that is passed for an element. -/
def toStruct (e : Element) : JsonStruct where
  pKey := some e.key
  pData := some e.data

/- The member an element is to become. -/
def member (e : Element) : Bytes × Json.Value :=
  (e.key.bytes, e.value)

/- The text of the value of an element. -/
def valueText (e : Element) : Bytes :=
  e.data.valueText.getD []

/- No text of the element needs an escape. -/
def Plain (e : Element) : Prop :=
  (∀ b ∈ e.key.bytes, Json.Plain b) ∧
    ∀ v, e.data = .string v →
      ∀ b ∈ v.bytes, Json.Plain b

/- What an element adds to the document. -/
theorem elementText_toStruct
    (e : Element) :
    elementText (some e.toStruct) =
      34 :: (e.key.bytes ++
        34 :: 58 :: (e.valueText ++ [44])) := by
  have hSome : e.data.valueText.isSome = true := by
    have hStands := e.stands
    cases hData : e.data <;>
      simp_all [JsonData.value?, JsonData.valueText]
  rcases Option.isSome_iff_exists.mp hSome with ⟨text, hText⟩
  simp [elementText, toStruct, JsonStruct.keyText, valueText,
    JsonData.added, JsonData.printedText, hText, ascii]

end Element

end Shadow

end TrustOnboard

------------------------------------------------------------
-- Sections And Documents
------------------------------------------------------------

namespace TrustOnboard

namespace Shadow

open Mqtt (IoTError CString)

namespace Element

/- The text of a value spells it unless it needs escapes. -/
theorem spells
    (e : Element) :
    Json.Spells
      (∀ v, e.data = .string v →
        ∀ b ∈ v.bytes, Json.Plain b)
      e.value e.valueText := by
  intro s r
  rcases e with ⟨key, data, value, hStands⟩
  cases data with
  | int32 v | int16 v | int8 v =>
      cases hStands
      simpa [valueText, JsonData.valueText] using
        Json.reads_number_iff v.toInt s r
  | uint32 v | uint16 v | uint8 v =>
      cases hStands
      simpa [valueText, JsonData.valueText] using
        Json.reads_number_iff (v.toNat : Int) s r
  | bool v =>
      cases hStands
      simpa [valueText, JsonData.valueText] using
        Json.reads_bool_iff v s r
  | string v =>
      cases hStands
      simpa [valueText, JsonData.valueText, ascii] using
        Json.reads_string_iff v.bytes s r
  | float _ | double _ | object => cases hStands

/- An element as a member that is written. -/
def toItem (e : Element) : Json.Item where
  key := e.key.bytes
  value := e.value
  text := e.valueText
  condition :=
    ∀ v, e.data = .string v → ∀ b ∈ v.bytes, Json.Plain b
  spells := e.spells

end Element

/- The name of a section. -/
def Section.name : Section → Bytes
  | .desired => ascii "desired"
  | .reported => ascii "reported"

/- A call that adds a section, with its elements. -/
abbrev Part := Section × List Element

namespace Part

/- The arguments of the call. -/
def args (p : Part) : List (Option JsonStruct) :=
  p.2.map (fun e => some e.toStruct)

/- A section as a member that is written. -/
def toItem (p : Part) : Json.Item where
  key := p.1.name
  value := .object ((p.2.map Element.toItem).map
    Json.Item.member)
  text := Json.objectText (p.2.map Element.toItem)
  condition :=
    p.2.map Element.toItem ≠ [] ∧
      ∀ i ∈ p.2.map Element.toItem, i.Legible
  spells := Json.spells_object _

theorem legible_iff
    (p : Part) :
    p.toItem.Legible ↔ p.2 ≠ [] ∧ ∀ e ∈ p.2, e.Plain := by
  have hName : ∀ b ∈ p.1.name, Json.Plain b := by
    apply forall_mem_of_all
    cases p.1 <;> decide
  constructor
  · rintro ⟨_, hSome, hAll⟩
    refine ⟨fun hNo => hSome (by rw [hNo]; rfl), ?_⟩
    intro e he
    exact hAll e.toItem (List.mem_map_of_mem he)
  · rintro ⟨hSome, hAll⟩
    refine ⟨hName, by simpa using hSome, ?_⟩
    intro i hi
    rcases List.mem_map.mp hi with ⟨e, he, rfl⟩
    exact hAll e he

end Part

/- The document some calls are to make. -/
def documentValue
    (mqttClientID : CString)
    (clientTokenNum : UInt32)
    (parts : List Part) : Json.Value :=
  .object
    [(ascii "state",
        .object
          (parts.map fun p =>
            (p.1.name, .object (p.2.map Element.member)))),
      (ascii "clientToken",
        .string
          (mqttClientID.bytes ++ ascii "-" ++
            decimal clientTokenNum.toNat))]

/- The text they print for it. -/
def documentText
    (mqttClientID : CString)
    (clientTokenNum : UInt32)
    (parts : List Part) : Bytes :=
  ascii "\x7b\"state\":" ++
    Json.objectText (parts.map Part.toItem) ++
    ascii ", \"clientToken\":\"" ++
    clientTokenText mqttClientID clientTokenNum ++
    ascii "\"\x7d"

/-
  The calls whose document can be written down as they do:
  there is a section, none is empty, no text needs an escape,
  the sequence number is not negative as an `int`, and the
  text fits.
-/
structure Expressible
    (size : Nat)
    (mqttClientID : CString)
    (clientTokenNum : UInt32)
    (parts : List Part) : Prop where
  sections : parts ≠ []
  members : ∀ p ∈ parts, p.2 ≠ []
  elements : ∀ p ∈ parts, ∀ e ∈ p.2, e.Plain
  clientId : ∀ b ∈ mqttClientID.bytes, Json.Plain b
  sequence : clientTokenNum.toNat < 2 ^ 31
  fits :
    (documentText mqttClientID clientTokenNum parts).length <
      size

theorem not_mem_of_isDigit
    {c : UInt8}
    (hLow : ¬ IsDigit c)
    (n : Nat) :
    c ∉ decimal n :=
  fun hMem => hLow (decimal_digits n c hMem)

/- The token is read back unless its number is negative. -/
theorem token_iff
    (mqttClientID : CString)
    (clientTokenNum : UInt32)
    (s r : Bytes) :
    Json.Chars
        (mqttClientID.bytes ++ ascii "-" ++
          decimal clientTokenNum.toNat)
        (clientTokenText mqttClientID clientTokenNum ++
          34 :: s) r ↔
      ((∀ b ∈ mqttClientID.bytes, Json.Plain b) ∧
        clientTokenNum.toNat < 2 ^ 31) ∧ r = s := by
  have hPlain :
      ∀ n, ∀ b ∈ ascii "-" ++ decimal n, Json.Plain b := by
    intro n b hb
    rcases List.mem_cons.mp hb with rfl | hMem
    · decide
    · have hDigit := decimal_digits n b hMem
      refine ⟨?_, ?_, ?_⟩
      · exact UInt8.le_trans (by decide) hDigit.1
      · rintro rfl
        exact absurd hDigit (by decide)
      · rintro rfl
        exact absurd hDigit (by decide)
  have hNegative :
      ∀ c : UInt8, ¬ IsDigit c → c ≠ 45 →
        ∀ n, c ∉ ascii "-" ++ decimal n := by
    intro c hNot hSign n hMem
    rcases List.mem_cons.mp hMem with hEq | hMem
    · exact hSign hEq
    · exact not_mem_of_isDigit hNot n hMem
  unfold clientTokenText asInt32
  by_cases hSmall : clientTokenNum.toNat < 2 ^ 31
  · rw [if_pos hSmall, signedDecimal_natCast,
      Json.chars_iff, List.append_assoc,
      List.forall_mem_append]
    have hToken := hPlain clientTokenNum.toNat
    exact
      ⟨fun h => ⟨⟨h.1.1, hSmall⟩, h.2⟩,
        fun h => ⟨⟨h.1.1, hToken⟩, h.2⟩⟩
  · rw [if_neg hSmall]
    have hWord := clientTokenNum.toNat_lt
    obtain ⟨k, hk⟩ :
        ∃ k : Nat,
          (clientTokenNum.toNat : Int) - 2 ^ 32 =
            Int.negSucc k :=
      ⟨2 ^ 32 - clientTokenNum.toNat - 1, by omega⟩
    rw [hk]
    refine
      ⟨fun hChars => ?_,
        fun h => absurd h.1.2 hSmall⟩
    rw [List.append_assoc, List.append_assoc _ _
      (signedDecimal _)] at hChars
    refine absurd hChars (Json.Chars.not_of_ne_end ?_ ?_ ?_ ?_
      ?_ ?_)
    · exact hNegative 92 (by decide) (by decide) _
    · intro hMem
      rcases List.mem_cons.mp hMem with hEq | hMem
      · exact absurd hEq (by decide)
      · exact hNegative 92 (by decide) (by decide) _ hMem
    · exact hNegative 34 (by decide) (by decide) _
    · intro hMem
      rcases List.mem_cons.mp hMem with hEq | hMem
      · exact absurd hEq (by decide)
      · exact hNegative 34 (by decide) (by decide) _ hMem
    · have hLength :
          (decimal (k + 1)).length ≤
            (decimal clientTokenNum.toNat).length :=
        length_decimal_le (by omega) (by omega)
      have hOne : (ascii "-").length = 1 := by decide
      simp only [signedDecimal, List.length_append,
        List.length_cons, hOne]
      omega
    · intro hEq
      have hTail := (List.cons.inj hEq).2
      have hMem : 45 ∈ decimal clientTokenNum.toNat := by
        rw [show decimal clientTokenNum.toNat = _ from hTail]
        exact List.mem_cons_self
      exact not_mem_of_isDigit (by decide) _ hMem

/- The text of a document, character by character. -/
theorem documentText_eq
    (mqttClientID : CString)
    (clientTokenNum : UInt32)
    (parts : List Part) :
    documentText mqttClientID clientTokenNum parts =
      123 :: 34 :: (ascii "state" ++ 34 :: 58 ::
        (Json.objectText (parts.map Part.toItem) ++
          44 :: 32 :: 34 :: (ascii "clientToken" ++
            34 :: 58 :: 34 ::
              (clientTokenText mqttClientID
                  clientTokenNum ++ [34, 125])))) := by
  simp [documentText, ascii]

/- The document is read back when its calls allow it. -/
theorem isText_documentText_iff
    (mqttClientID : CString)
    (clientTokenNum : UInt32)
    (parts : List Part) :
    Json.IsText
        (documentValue mqttClientID clientTokenNum parts)
        (documentText mqttClientID clientTokenNum parts) ↔
      (parts ≠ [] ∧ ∀ p ∈ parts, p.toItem.Legible) ∧
        (∀ b ∈ mqttClientID.bytes, Json.Plain b) ∧
        clientTokenNum.toNat < 2 ^ 31 := by
  have hState :=
    Json.spells_object (parts.map Part.toItem)
  have hParts :
      (parts.map Part.toItem ≠ [] ∧
          ∀ i ∈ parts.map Part.toItem, i.Legible) ↔
        parts ≠ [] ∧ ∀ p ∈ parts, p.toItem.Legible := by
    rw [Ne, List.map_eq_nil_iff, List.forall_mem_map]
  have hMembers :
      (parts.map fun p =>
          (p.1.name,
            Json.Value.object (p.2.map Element.member))) =
        (parts.map Part.toItem).map Json.Item.member := by
    simp [Part.toItem, Json.Item.member, Element.member,
      Element.toItem, Function.comp_def]
  have hState' : ∀ b ∈ ascii "state", Json.Plain b :=
    forall_mem_of_all (by decide)
  have hToken' : ∀ b ∈ ascii "clientToken", Json.Plain b :=
    forall_mem_of_all (by decide)
  have hBlank :
      ∀ s : Bytes, Json.skip (32 :: 34 :: s) = 34 :: s :=
    fun s => rfl
  rw [documentText_eq, documentValue, hMembers, ← hParts]
  constructor
  · rintro ⟨r, hReads, _⟩
    cases hReads with
    | object hOpen hMembers =>
        rw [Json.skip_cons_of_not_blank rfl] at hOpen
        cases hOpen
        cases hMembers with
        | more hOpen hKey hColon hValue hComma hRest =>
            cases (Json.key_iff hOpen hKey hColon).2
            rcases (hState _ _).mp hValue with ⟨hAll, rfl⟩
            rw [Json.skip_cons_of_not_blank rfl] at hComma
            cases hComma
            refine ⟨hAll, ?_⟩
            cases hRest with
            | last hOpen hKey hColon hValue hClose =>
                rw [hBlank] at hOpen
                have hOpen' :=
                  (Json.skip_cons_of_not_blank rfl _).trans
                    hOpen
                cases (Json.key_iff hOpen' hKey hColon).2
                cases hValue with
                | string hOpen hChars =>
                    rw [Json.skip_cons_of_not_blank rfl]
                      at hOpen
                    cases hOpen
                    exact ((token_iff _ _ _ _).mp hChars).1
  · rintro ⟨hAll, hToken⟩
    refine ⟨[], ?_, rfl⟩
    refine .object (Json.skip_cons_of_not_blank rfl _) ?_
    refine
      .more (Json.skip_cons_of_not_blank rfl _)
        ((Json.chars_iff _ _ _).mpr ⟨hState', rfl⟩)
        (Json.skip_cons_of_not_blank rfl _)
        ((hState _ _).mpr ⟨hAll, rfl⟩)
        (Json.skip_cons_of_not_blank rfl _) ?_
    refine
      .last (hBlank _)
        ((Json.chars_iff _ _ _).mpr ⟨hToken', rfl⟩)
        (Json.skip_cons_of_not_blank rfl _) ?_
        (Json.skip_cons_of_not_blank rfl _)
    exact
      .string (Json.skip_cons_of_not_blank rfl _)
        ((token_iff _ _ _ _).mpr ⟨hToken, rfl⟩)

end Shadow

end TrustOnboard

------------------------------------------------------------
-- Building
------------------------------------------------------------

namespace TrustOnboard

namespace Shadow

open Mqtt (IoTError CString)

/- A text that passes the test is printed whole. -/
theorem text_snprintf_of_check
    {n : Nat}
    {text : Bytes}
    (hRc :
      checkReturnValueOfSnPrintf (snPrintfReturn text) n =
        .success)
    (d : Document) :
    (d.snprintf n text).text = d.text ++ text := by
  rw [Document.snprintf_whole ((check_success_iff _ _).mp hRc).2]

theorem text_convertDataToString
    {n : Nat}
    {data : JsonData}
    {d : Document}
    (hRc : (convertDataToString d n data).1 = .success) :
    (convertDataToString d n data).2.text =
      d.text ++ data.added := by
  unfold convertDataToString JsonData.added at *
  by_cases hZero : n = 0
  · rw [if_pos hZero] at hRc
    cases hRc
  rw [if_neg hZero] at hRc ⊢
  cases hText : data.printedText with
  | none => simp
  | some text =>
      rw [hText] at hRc
      exact text_snprintf_of_check hRc d

/-
  A round whose key goes through ends with its value.  The
  result of the conversion has a name of its own, so that no
  check of the proof computes it.
-/
theorem addElement_of_check
    {size rem : Nat}
    {s : JsonStruct}
    {d : Document}
    (hRoom : ¬ d.sizeLeft size ≤ 1)
    (hKey :
      checkReturnValueOfSnPrintf (snPrintfReturn s.keyText)
        (d.sizeLeft size) = .success)
    {key : CString}
    (hSomeKey : s.pKey = some key)
    {data : JsonData}
    (hSomeData : s.pData = some data)
    {r : IoTError × Document}
    (hConvert :
      convertDataToString
          (d.snprintf (d.sizeLeft size) s.keyText)
          (d.sizeLeft size) data = r) :
    addElement size (some s) rem d =
      (r.1, d.sizeLeft size, r.2) := by
  subst hConvert
  unfold addElement
  simp only
  rw [if_neg hRoom, hKey, if_neg (by simp), hSomeKey,
    hSomeData]

/- A round that succeeds adds its whole element. -/
theorem text_addElement
    {size rem : Nat}
    {arg : Option JsonStruct}
    {d : Document}
    (hRc : (addElement size arg rem d).1 = .success) :
    (addElement size arg rem d).2.2.text =
      d.text ++ elementText arg := by
  by_cases hFull : d.sizeLeft size ≤ 1
  · simp [addElement, hFull] at hRc
  cases arg with
  | none => simp [addElement, hFull] at hRc
  | some s =>
      by_cases hKey :
          checkReturnValueOfSnPrintf
              (snPrintfReturn s.keyText)
              (d.sizeLeft size) = .success
      case neg => simp [addElement, hFull, hKey] at hRc
      cases hSomeKey : s.pKey with
      | none =>
          simp [addElement, hFull, hKey, hSomeKey] at hRc
      | some key =>
          cases hSomeData : s.pData with
          | none =>
              simp [addElement, hFull, hKey, hSomeKey,
                hSomeData] at hRc
          | some data =>
              obtain ⟨r, hr⟩ :
                  ∃ r,
                    convertDataToString
                        (d.snprintf (d.sizeLeft size)
                          s.keyText)
                        (d.sizeLeft size) data = r :=
                ⟨_, rfl⟩
              rw [addElement_of_check hFull hKey hSomeKey
                hSomeData hr] at hRc ⊢
              have hText :=
                text_convertDataToString
                  ((congrArg Prod.fst hr).trans hRc)
              rw [hr, text_snprintf_of_check hKey] at hText
              simp [hText, elementText, hSomeData]

theorem text_addElements
    {size : Nat}
    {args : List (Option JsonStruct)}
    {rem : Nat}
    {d : Document}
    (hRc : (addElements size args rem d).1 = .success) :
    (addElements size args rem d).2.2.text =
      d.text ++ args.flatMap elementText := by
  induction args generalizing rem d with
  | nil => simp [addElements]
  | cons arg args ih =>
      by_cases hHere :
          (addElement size arg rem d).1 = .success
      · rw [addElements_cons_go hHere] at hRc ⊢
        rw [ih hRc, text_addElement hHere]
        simp
      · rw [addElements_cons_stop hHere] at hRc
        exact absurd hRc hHere

theorem addSection_of_check
    {header : Bytes}
    {size : Nat}
    {args : List (Option JsonStruct)}
    {d : Document}
    (hRoom : ¬ d.sizeLeft size ≤ 1)
    (hHeader :
      checkReturnValueOfSnPrintf (snPrintfReturn header)
        (d.sizeLeft size) = .success)
    {r : IoTError × Nat × Document}
    (hElements :
      addElements size args (d.sizeLeft size)
        (d.snprintf (d.sizeLeft size) header) = r) :
    addSection header size args d =
      if r.1 ≠ .success then some (r.1, r.2.2)
      else if 128 ≤ args.length then none
      else
        some
          (checkReturnValueOfSnPrintf
              (snPrintfReturn (ascii "\x7d,")) r.2.1,
            r.2.2.snprintfOverLast r.2.1
              (ascii "\x7d,")) := by
  subst hElements
  unfold addSection
  simp only
  rw [if_neg hRoom, hHeader, if_neg (by simp)]

theorem text_addSection
    {header : Bytes}
    {size : Nat}
    {args : List (Option JsonStruct)}
    {d d' : Document}
    (hCall :
      addSection header size args d = some (.success, d')) :
    d'.text =
      overLast
        (d.text ++ header ++ args.flatMap elementText)
        (ascii "\x7d,") := by
  by_cases hFull : d.sizeLeft size ≤ 1
  · simp [addSection, hFull] at hCall
  by_cases hHeader :
      checkReturnValueOfSnPrintf (snPrintfReturn header)
          (d.sizeLeft size) = .success
  case neg => simp [addSection, hFull, hHeader] at hCall
  obtain ⟨r, hr⟩ :
      ∃ r,
        addElements size args (d.sizeLeft size)
          (d.snprintf (d.sizeLeft size) header) = r :=
    ⟨_, rfl⟩
  rw [addSection_of_check hFull hHeader hr] at hCall
  by_cases hRc : r.1 = .success
  case neg =>
    rw [if_pos hRc] at hCall
    exact absurd (congrArg Prod.fst (Option.some.inj hCall)) hRc
  rw [if_neg (not_not.mpr hRc)] at hCall
  by_cases hMany : 128 ≤ args.length
  · rw [if_pos hMany] at hCall
    exact absurd hCall (by simp)
  rw [if_neg hMany] at hCall
  have hPair := Option.some.inj hCall
  have hClose := (Prod.mk.inj hPair).1
  have hText :=
    text_addElements ((congrArg Prod.fst hr).trans hRc)
  rw [hr, text_snprintf_of_check hHeader] at hText
  rw [← (Prod.mk.inj hPair).2,
    snprintfOverLast_whole
      ((check_success_iff _ _).mp hClose).2,
    hText]

theorem text_finalizeJsonDocument
    {mqttClientID : CString}
    {clientTokenNum : UInt32}
    {size : Nat}
    {d : Document}
    {r : IoTError × UInt32 × Document}
    (hCall :
      finalizeJsonDocument mqttClientID clientTokenNum size
        d = r)
    (hRc : r.1 = .success) :
    r.2.2.text =
      overLast d.text (ascii "\x7d, \"clientToken\":\"") ++
        clientTokenText mqttClientID clientTokenNum ++
        ascii "\"\x7d" := by
  unfold finalizeJsonDocument at hCall
  simp only at hCall
  by_cases hFull : d.sizeLeft size ≤ 1
  · rw [if_pos hFull] at hCall
    subst hCall
    cases hRc
  rw [if_neg hFull] at hCall
  by_cases hOpening :
      checkReturnValueOfSnPrintf
          (snPrintfReturn
            (ascii "\x7d, \"clientToken\":\""))
          (d.sizeLeft size) = .success
  case neg =>
    rw [if_pos hOpening] at hCall
    exact absurd ((congrArg Prod.fst hCall).trans hRc) hOpening
  rw [if_neg (not_not.mpr hOpening)] at hCall
  have hText₁ :
      (d.snprintfOverLast (d.sizeLeft size)
          (ascii "\x7d, \"clientToken\":\"")).text =
        overLast d.text
          (ascii "\x7d, \"clientToken\":\"") :=
    snprintfOverLast_whole
      ((check_success_iff _ _).mp hOpening).2
  generalize
    d.snprintfOverLast (d.sizeLeft size)
      (ascii "\x7d, \"clientToken\":\"") = d₁ at *
  by_cases hFull₁ : d₁.sizeLeft size ≤ 1
  · rw [if_pos hFull₁] at hCall
    subst hCall
    cases hRc
  rw [if_neg hFull₁] at hCall
  by_cases hToken :
      checkReturnValueOfSnPrintf
          (snPrintfReturn
            (clientTokenText mqttClientID clientTokenNum))
          (d₁.sizeLeft size) = .success
  case neg =>
    rw [if_pos hToken] at hCall
    exact absurd ((congrArg Prod.fst hCall).trans hRc) hToken
  rw [if_neg (not_not.mpr hToken)] at hCall
  have hText₂ := text_snprintf_of_check hToken d₁
  generalize
    d₁.snprintf (d₁.sizeLeft size)
      (clientTokenText mqttClientID clientTokenNum) = d₂ at *
  by_cases hFull₂ : d₂.sizeLeft size ≤ 1
  · rw [if_pos hFull₂] at hCall
    subst hCall
    cases hRc
  rw [if_neg hFull₂] at hCall
  have hClosing :=
    (congrArg Prod.fst hCall).trans hRc
  have hLast :=
    congrArg (fun r => r.2.2.text) hCall
  rw [← hText₁, ← hText₂,
    ← text_snprintf_of_check hClosing d₂]
  exact hLast.symm

/- A call that succeeds makes the text it is to make. -/
theorem text_perform
    {size : Nat}
    {c : BuilderCall}
    {d d' : Document}
    (hCall : c.perform size d = some (.success, d')) :
    d'.text = c.intended d.text := by
  cases c with
  | init =>
      have hPair :
          initJsonDocument size d = (.success, d') :=
        Option.some.inj hCall
      unfold initJsonDocument at hPair
      simp only [Prod.mk.injEq] at hPair
      have hFits := ((check_success_iff _ _).mp hPair.1).2
      have hDoc := hPair.2
      rw [if_neg (by omega),
        Document.snprintf_whole hFits] at hDoc
      rw [← hDoc]
      rfl
  | add sec args =>
      have hAdd :
          sec.add size args d = some (.success, d') := hCall
      rw [Section.add_eq] at hAdd
      exact text_addSection hAdd
  | finalize mqttClientID clientTokenNum =>
      obtain ⟨r, hr⟩ :
          ∃ r,
            finalizeJsonDocument mqttClientID clientTokenNum
              size d = r :=
        ⟨_, rfl⟩
      have hPair : some (r.1, r.2.2) = some (.success, d') := by
        rw [← hr]
        exact hCall
      simp only [Option.some.injEq, Prod.mk.injEq] at hPair
      rw [← hPair.2]
      exact text_finalizeJsonDocument hr hPair.1

/- Calls one behind another, while they succeed. -/
def performAll
    (size : Nat) :
    List BuilderCall → Document → Option Document
  | [], d => some d
  | c :: calls, d =>
      match c.perform size d with
      | some (.success, d) => performAll size calls d
      | _ => none

theorem text_performAll
    {size : Nat}
    {calls : List BuilderCall}
    {d d' : Document}
    (hCalls : performAll size calls d = some d') :
    d'.text =
      calls.foldl (fun text c => c.intended text) d.text := by
  induction calls generalizing d with
  | nil =>
      cases hCalls
      rfl
  | cons c calls ih =>
      unfold performAll at hCalls
      split at hCalls
      · rename_i d₁ hCall
        rw [ih hCalls, text_perform hCall]
        rfl
      · cases hCalls

/- The calls that build a document. -/
def buildCalls
    (mqttClientID : CString)
    (clientTokenNum : UInt32)
    (parts : List Part) : List BuilderCall :=
  .init ::
    (parts.map (fun p => .add p.1 p.args) ++
      [.finalize mqttClientID clientTokenNum])

/- The document, when every call has succeeded. -/
def build
    (size : Nat)
    (mqttClientID : CString)
    (clientTokenNum : UInt32)
    (parts : List Part)
    (d : Document) : Option Document :=
  performAll size
    (buildCalls mqttClientID clientTokenNum parts) d

/- A section takes the place of no character. -/
theorem intended_add
    (p : Part)
    (text : Bytes) :
    (BuilderCall.add p.1 p.args).intended text =
      text ++ p.toItem.written := by
  have hElements :
      p.args.flatMap elementText =
        (p.2.map Element.toItem).flatMap
          Json.Item.written := by
    rw [Part.args, List.flatMap_map, List.flatMap_map]
    simp only [Element.elementText_toStruct]
    rfl
  have hHeader :
      p.1.header = 34 :: (p.1.name ++ [34, 58, 123]) := by
    cases p.1 <;> rfl
  have hText :
      text ++ p.1.header ++ p.args.flatMap elementText =
        (text ++ 34 :: (p.1.name ++ [34, 58])) ++
          (123 :: (p.2.map Element.toItem).flatMap
            Json.Item.written) := by
    rw [hElements, hHeader]
    simp
  unfold BuilderCall.intended
  simp only
  rw [hText, overLast, if_neg (by simp),
    List.dropLast_append_of_ne_nil (List.cons_ne_nil _ _)]
  simp [Json.Item.written, Part.toItem, Json.objectText,
    ascii]

theorem intended_adds
    (parts : List Part)
    (text : Bytes) :
    (parts.map
        (fun p => BuilderCall.add p.1 p.args)).foldl
        (fun text c => c.intended text) text =
      text ++ (parts.map Part.toItem).flatMap
        Json.Item.written := by
  induction parts generalizing text with
  | nil => simp
  | cons p parts ih =>
      rw [List.map_cons, List.foldl_cons, intended_add, ih]
      simp

/- The end of a document behind its sections. -/
theorem intended_finalize
    (mqttClientID : CString)
    (clientTokenNum : UInt32)
    (parts : List Part)
    (text : Bytes) :
    (BuilderCall.finalize mqttClientID
        clientTokenNum).intended
        (BuilderCall.init.intended text ++
          (parts.map Part.toItem).flatMap
            Json.Item.written) =
      documentText mqttClientID clientTokenNum parts := by
  have hText :
      BuilderCall.init.intended text ++
          (parts.map Part.toItem).flatMap
            Json.Item.written =
        ascii "\x7b\"state\":" ++
          (123 :: (parts.map Part.toItem).flatMap
            Json.Item.written) := by
    simp [BuilderCall.intended, ascii]
  rw [hText]
  unfold BuilderCall.intended
  simp only
  rw [overLast, if_neg (by simp),
    List.dropLast_append_of_ne_nil (List.cons_ne_nil _ _)]
  simp [documentText, Json.objectText, ascii]

/- The text of a document that was built. -/
theorem build_text
    {size : Nat}
    {mqttClientID : CString}
    {clientTokenNum : UInt32}
    {parts : List Part}
    {d d' : Document}
    (hBuild :
      build size mqttClientID clientTokenNum parts d =
        some d') :
    d'.text =
      documentText mqttClientID clientTokenNum parts := by
  rw [text_performAll hBuild, buildCalls, List.foldl_cons,
    List.foldl_append, intended_adds]
  exact intended_finalize _ _ _ _

/-
  When every call has succeeded, the buffer holds the
  intended document exactly if it can be written down as the
  calls do.
-/
theorem build_intended_iff
    {size : Nat}
    {mqttClientID : CString}
    {clientTokenNum : UInt32}
    {parts : List Part}
    {d d' : Document}
    (hBuild :
      build size mqttClientID clientTokenNum parts d =
        some d') :
    (d'.text.length < size ∧
        Json.IsText
          (documentValue mqttClientID clientTokenNum parts)
          d'.text) ↔
      Expressible size mqttClientID clientTokenNum parts := by
  rw [build_text hBuild, isText_documentText_iff]
  constructor
  · rintro ⟨hFits, ⟨hSome, hAll⟩, hToken⟩
    refine ⟨hSome, ?_, ?_, hToken.1, hToken.2, hFits⟩
    · exact fun p hp => ((Part.legible_iff p).mp (hAll p hp)).1
    · exact fun p hp => ((Part.legible_iff p).mp (hAll p hp)).2
  · intro h
    refine
      ⟨h.fits, ⟨h.sections, ?_⟩, h.clientId, h.sequence⟩
    intro p hp
    exact
      (Part.legible_iff p).mpr
        ⟨h.members p hp, h.elements p hp⟩

/- A number in the desired state. -/
def onePart : Part :=
  (.desired,
    [{ key := ⟨ascii "a", nul_free_a⟩
       data := .int32 12345
       value := .number (decimal 12345)
       stands := rfl }])

/- The identifier of a client. -/
def someClient : CString := ⟨ascii "c", nul_free_c⟩

/- What is built for it. -/
def onePartDocument : Document where
  text :=
    ascii
      "\x7b\"state\":\x7b\"desired\":\x7b\"a\":12345" ++
      ascii "\x7d\x7d, \"clientToken\":\"c-0\"\x7d"
  reach := 55

theorem build_intended_iff_onePart :
    build 64 someClient 0 [onePart] ⟨[], 0⟩ =
        some onePartDocument ∧
      onePartDocument.text.length < 64 ∧
      Json.IsText (documentValue someClient 0 [onePart])
        onePartDocument.text := by
  have hBuild :
      build 64 someClient 0 [onePart] ⟨[], 0⟩ =
        some onePartDocument := by
    decide +kernel
  refine ⟨hBuild, (build_intended_iff hBuild).mpr ?_⟩
  refine ⟨by simp, ?_, ?_, ?_, ?_, ?_⟩
  · intro p hp
    cases List.mem_singleton.mp hp
    exact List.cons_ne_nil _ _
  · intro p hp e he
    cases List.mem_singleton.mp hp
    cases List.mem_singleton.mp he
    exact
      ⟨forall_mem_of_all (by decide),
        fun v hv => (by cases hv)⟩
  · exact forall_mem_of_all (by decide)
  · decide
  · decide +kernel

/- A section without elements loses its opening brace. -/
theorem emptySection_unreadable :
    ∃ d',
      build 64 someClient 0 [(.desired, [])] ⟨[], 0⟩ =
          some d' ∧
        ¬ Json.IsText
          (documentValue someClient 0 [(.desired, [])])
          d'.text := by
  have hBuild :
      (build 64 someClient 0 [(.desired, [])]
        ⟨[], 0⟩).isSome = true := by
    decide +kernel
  rcases Option.isSome_iff_exists.mp hBuild with ⟨d', hd'⟩
  refine ⟨d', hd', ?_⟩
  rw [build_text hd', isText_documentText_iff]
  rintro ⟨⟨_, hAll⟩, _⟩
  have hLegible := hAll _ List.mem_cons_self
  exact ((Part.legible_iff _).mp hLegible).1 rfl

end Shadow

end TrustOnboard
