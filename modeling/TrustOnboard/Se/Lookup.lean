import TrustOnboard.Memory.Text
import TrustOnboard.Se.FileCard

/-
  Which objects the search by label finds.

  The files of a directory are looked at from the last to the
  first.  A label is read into an array of 21 bytes, whatever
  its length; an empty one is asked for with the response
  length 0, which stands for 256; five bytes are read for the
  length of a value, even where there are less; and a length
  of one byte is joined to what the variable for it held.

  Key definitions include:
    * `P11Object`
    * `found`
    * `looked`
    * `Finds`

  Key results include:
    * `p11GetObjectByLabel_finds_iff`
-/

------------------------------------------------------------
-- Objects
------------------------------------------------------------

namespace TrustOnboard

namespace Se

/- The forms of a length. -/
inductive LengthForm where
  | short
  | oneByte
  | twoBytes
  deriving DecidableEq, Repr

/- The lengths a form is for. -/
def LengthForm.bound : LengthForm → Nat
  | .short => 0x80
  | .oneByte => 2 ^ 8
  | .twoBytes => 2 ^ 16

/- A length in a form. -/
def LengthForm.encode : LengthForm → Nat → Bytes
  | .short, n => [.ofNat n]
  | .oneByte, n => [0x81, .ofNat n]
  | .twoBytes, n => [0x82, .ofNat (n / 2 ^ 8), .ofNat n]

/- Bytes with their number in front. -/
def field (bs : Bytes) : Bytes :=
  .ofNat bs.length :: bs

/-
  A data object in a file: what is in front of it, its parts,
  and what is behind it.
-/
structure P11Object where
  head : Bytes
  label : Bytes
  application : Bytes
  objectId : Bytes
  form : LengthForm
  value : Bytes
  rest : Bytes
  hHead : head.length = 16
  hLabel : label.length < 2 ^ 8
  hApplication : application.length < 2 ^ 8
  hObjectId : objectId.length < 2 ^ 8
  hValue : value.length < form.bound
  deriving DecidableEq

namespace P11Object

/- The value with its length, and what is behind it. -/
def tail (o : P11Object) : Bytes :=
  o.form.encode o.value.length ++ (o.value ++ o.rest)

/- The content of the file. -/
def encode (o : P11Object) : Bytes :=
  o.head ++ (field o.label ++ (field o.application ++
    (field o.objectId ++ o.tail)))

/- The offset of the length of the value. -/
def valueAt (o : P11Object) : Nat :=
  19 + o.label.length + o.application.length +
    o.objectId.length

end P11Object

/- What becomes of the variable for the length. -/
def LengthForm.read : LengthForm → Nat → Nat → Nat
  | .oneByte, size, n => (size * 2 ^ 8 + n) % 2 ^ 16
  | _, _, n => n

/- The object the search stops at. -/
def found (label : Bytes) (o : P11Object) : Bool :=
  decide (o.label = label ∧ label ≠ [] ∧ 5 ≤ o.tail.length)

/- The objects the search looks at. -/
def looked
    (label : Bytes)
    (objects : List P11Object) : List P11Object :=
  objects.takeWhile (fun o => ! found label o) ++
    (objects.find? (found label)).toList

/- The record of the directory with the given number. -/
def recordOf (directory : Bytes) (i : Nat) : Bytes :=
  (directory.drop (1 + i * 0x15)).take 0x15

/- The file in a record, if the record is complete. -/
def fileAt (directory : Bytes) (i : Nat) : Option P11File :=
  if (recordOf directory i).length = 0x15 then
    some (fileOfRecord (contentOf (recordOf directory i)))
  else none

/- The files a directory lists. -/
def directoryFiles (directory : Bytes) : List P11File :=
  (List.range (directory.headD 0).toNat).filterMap
    (fileAt directory)

/- The object in a file of the directory. -/
def objectOf
    (object : Nat → Option P11Object)
    (file : P11File) : Option P11Object :=
  if file.isObject then object file.efid else none

/-
  The objects of a directory, the last first, where a file
  that is named for one may be missing.
-/
def directoryObjects
    (directory : Bytes)
    (object : Nat → Option P11Object) : List P11Object :=
  (directoryFiles directory).reverse.filterMap
    (objectOf object)

end Se

end TrustOnboard

------------------------------------------------------------
-- Where The Parts Of An Object Are
------------------------------------------------------------

namespace TrustOnboard

namespace Se

namespace P11Object

variable (o : P11Object)

theorem drop_label :
    o.encode.drop 16 =
      field o.label ++ (field o.application ++
        (field o.objectId ++ o.tail)) := by
  unfold encode
  rw [← o.hHead]
  exact List.drop_left

theorem drop_application :
    o.encode.drop (17 + o.label.length) =
      field o.application ++ (field o.objectId ++ o.tail) := by
  have hFar : 17 + o.label.length =
      16 + (field o.label).length := by
    simp only [field, List.length_cons]
    omega
  rw [hFar, ← List.drop_drop, drop_label]
  exact List.drop_left

theorem drop_objectId :
    o.encode.drop
        (18 + o.label.length + o.application.length) =
      field o.objectId ++ o.tail := by
  have hFar : 18 + o.label.length + o.application.length =
      17 + o.label.length + (field o.application).length := by
    simp only [field, List.length_cons]
    omega
  rw [hFar, ← List.drop_drop, drop_application]
  exact List.drop_left

theorem drop_tail :
    o.encode.drop o.valueAt = o.tail := by
  have hFar : o.valueAt =
      18 + o.label.length + o.application.length +
        (field o.objectId).length := by
    simp only [valueAt, field, List.length_cons]
    omega
  rw [hFar, ← List.drop_drop, drop_objectId]
  exact List.drop_left

theorem drop_value :
    o.encode.drop
        (o.valueAt + (o.form.encode o.value.length).length) =
      o.value ++ o.rest := by
  rw [← List.drop_drop, drop_tail]
  exact List.drop_left

theorem length_encode :
    o.encode.length = o.valueAt + o.tail.length := by
  simp only [encode, field, valueAt, List.length_append,
    List.length_cons, o.hHead]
  omega

end P11Object

theorem toNat_ofNat_length
    {bs : Bytes}
    (hShort : bs.length < 2 ^ 8) :
    (UInt8.ofNat bs.length).toNat = bs.length := by
  rw [UInt8.toNat_ofNat']
  exact Nat.mod_eq_of_lt hShort

/- The length of a value is read, with the old variable. -/
theorem valueHeader_eq
    {form : LengthForm}
    {n : Nat}
    (hBound : n < form.bound)
    {more : Bytes}
    {record : Buffer}
    (hRecord :
      record.load 0 5 = (form.encode n ++ more).take 5)
    (hFive : 5 ≤ (form.encode n ++ more).length)
    (size offset : Nat) :
    valueHeader record size offset =
      (form.read size n,
        (offset + (form.encode n).length) % 2 ^ 16) := by
  have hByte : ∀ i, i < (form.encode n).length → i < 5 →
      (form.encode n)[i]? = some (record i) := by
    intro i hIn hFirst
    have hLeft : (record.load 0 5)[i]? = some (record i) := by
      simp only [Buffer.load, List.getElem?_map]
      rw [List.getElem?_range hFirst]
      simp
    rw [hRecord, List.getElem?_take_of_lt hFirst,
      List.getElem?_append_left hIn] at hLeft
    exact hLeft
  cases form with
  | short =>
      have hFirst :=
        hByte 0 (by simp [LengthForm.encode]) (by decide)
      have hZero : record 0 = .ofNat n :=
        (Option.some.inj hFirst).symm
      have hNat : (UInt8.ofNat n).toNat = n := by
        rw [UInt8.toNat_ofNat']
        have : n < 0x80 := hBound
        omega
      have hLow : (UInt8.ofNat n) < 0x80 := by
        have : n < 0x80 := hBound
        rw [UInt8.lt_iff_toNat_lt, hNat]
        exact this
      unfold valueHeader
      rw [hZero, if_pos hLow, hNat]
      rfl
  | oneByte =>
      have hFirst : record 0 = 0x81 :=
        (Option.some.inj
          (hByte 0 (by simp [LengthForm.encode])
            (by decide))).symm
      have hSecond : record 1 = .ofNat n :=
        (Option.some.inj
          (hByte 1 (by simp [LengthForm.encode])
            (by decide))).symm
      have hNat : (UInt8.ofNat n).toNat = n := by
        rw [UInt8.toNat_ofNat']
        exact Nat.mod_eq_of_lt hBound
      unfold valueHeader
      rw [hFirst, if_neg (by decide)]
      change (((size * 2 ^ 8 + (record 1).toNat) % 2 ^ 16, _) :
        Nat × Nat) = _
      rw [hSecond, hNat]
      rfl
  | twoBytes =>
      have hFirst : record 0 = 0x82 :=
        (Option.some.inj
          (hByte 0 (by simp [LengthForm.encode])
            (by decide))).symm
      have hSecond : record 1 = .ofNat (n / 2 ^ 8) :=
        (Option.some.inj
          (hByte 1 (by simp [LengthForm.encode])
            (by decide))).symm
      have hThird : record 2 = .ofNat n :=
        (Option.some.inj
          (hByte 2 (by simp [LengthForm.encode])
            (by decide))).symm
      have hRange : n < 2 ^ 16 := hBound
      unfold valueHeader
      rw [hFirst, if_neg (by decide)]
      change ((((size * 2 ^ 8 + (record 1).toNat) % 2 ^ 16 *
        2 ^ 8 + (record 2).toNat) % 2 ^ 16, _) :
          Nat × Nat) = _
      rw [hSecond, hThird, UInt8.toNat_ofNat',
        UInt8.toNat_ofNat']
      refine Prod.ext ?_ rfl
      change _ = n
      dsimp only
      omega

end Se

end TrustOnboard

------------------------------------------------------------
-- The Fields Of An Object
------------------------------------------------------------

namespace TrustOnboard

namespace Se

variable {K : Type}
variable {port : Port K}
variable {files : Nat → Option Bytes}
variable {selected : K → Option Nat}
variable {efid : Nat}
variable {o : P11Object}
variable {block : Buffer}
variable {w : Run K}

theorem asked_of_length
    {bs : Bytes}
    (hShort : bs.length < 2 ^ 8)
    (hSome : bs ≠ []) :
    asked (.ofNat bs.length) = bs.length := by
  have hNat := toNat_ofNat_length hShort
  unfold asked
  rw [if_neg ?_, hNat]
  intro hZero
  rw [hZero] at hNat
  exact hSome (List.eq_nil_of_length_eq_zero hNat.symm)

/- Reading one byte into the array `record`. -/
theorem FileCard.readByte
    (hCard : FileCard port files selected)
    (hAtFile : AtFile selected efid block w)
    (hFile : files efid = some o.encode)
    {offset : Nat}
    {b : UInt8}
    {more : Bytes}
    (hDrop : o.encode.drop offset = b :: more) :
    ∃ w',
      Prog.Settles
          (fun n => Se.readRecord port n offset 0x01) w (some 1)
          w' ∧
        AtFile selected efid block w' ∧
        (RecordInside w'.log ↔ RecordInside w.log) ∧
        w'.st.record 0 = b := by
  have hSmall := hCard.small efid _ hFile
  have hLt : offset < o.encode.length := by
    by_contra hFar
    rw [List.drop_of_length_le (by omega)] at hDrop
    cases hDrop
  rcases hCard.readRecord hAtFile hFile
    (show offset < 2 ^ 16 by omega)
    (show asked 0x01 ≤ 0x15 by decide) with
    ⟨r, w', hRead, hThere, hInside, hAll, hBytes⟩
  have hOne : r = some 1 := hAll.mpr (by
    change offset + 1 ≤ _
    omega)
  subst hOne
  refine ⟨w', hRead, hThere, hInside, ?_⟩
  have hLoad := hBytes rfl
  rw [hDrop] at hLoad
  exact (List.cons.inj hLoad).1

/- Reading the label and comparing it. -/
theorem FileCard.matchLabel
    (hCard : FileCard port files selected)
    (hAtFile : AtFile selected efid block w)
    (hFile : files efid = some o.encode)
    (label : Bytes) :
    ∃ w',
      Prog.Settles (fun n => Se.matchLabel port n label) w
          (if o.label = label ∧ label ≠ [] then
            some (17 + o.label.length)
          else none) w' ∧
        AtFile selected efid block w' ∧
        (RecordInside w'.log ↔
          RecordInside w.log ∧ o.label.length ≤ 20) := by
  have hShort := o.hLabel
  have hLength := o.length_encode
  unfold P11Object.valueAt at hLength
  suffices hReaches :
      Prog.Reaches (fun n => Se.matchLabel port n label) w
        (fun q w' =>
          q = (fun _ =>
              pure (if o.label = label ∧ label ≠ [] then
                some (17 + o.label.length)
              else none)) ∧
            AtFile selected efid block w' ∧
            (RecordInside w'.log ↔
              RecordInside w.log ∧ o.label.length ≤ 20)) by
    rcases hReaches with ⟨q, w', hLeads, rfl, hRest⟩
    exact ⟨w', hLeads, hRest⟩
  rcases hCard.readByte hAtFile hFile o.drop_label with
    ⟨w₁, hRead, hAtFile₁, hInside₁, hByte⟩
  refine Prog.Reaches.bind hRead ?_
  simp only [↓reduceIte]
  refine Prog.Reaches.read ?_
  rw [hByte]
  rcases hCard.readBinary hAtFile₁ hFile
    (show 17 < 2 ^ 16 by decide) (.ofNat o.label.length) with
    ⟨ok, w₂, hLabel, hAtFile₂, _, hInside₂, hThere, hData⟩
  refine Prog.Reaches.bind hLabel ?_
  have hBehind : o.encode.drop 17 =
      o.label ++ (field o.application ++
        (field o.objectId ++ o.tail)) := by
    rw [← List.drop_drop (i := 1) (j := 16), o.drop_label]
    rfl
  by_cases hEmpty : o.label = []
  · -- The whole rest of the file is asked for.
    have hNone : ¬ (o.label = label ∧ label ≠ []) := by
      rintro ⟨hSame, hSome⟩
      exact hSome (hSame.symm.trans hEmpty)
    have hInside₃ : RecordInside w₂.log ↔
        RecordInside w.log ∧ o.label.length ≤ 20 := by
      rw [hInside₂, hInside₁, hEmpty]
      simp
    rw [if_neg hNone]
    cases ok with
    | false =>
        exact Prog.Reaches.done ⟨rfl, hAtFile₂, hInside₃⟩
    | true =>
        simp only [↓reduceIte]
        refine Prog.Reaches.read ?_
        rw [if_pos hAtFile₂.applet]
        have hMuch : w₂.st.iface.getResponseLength ≠
            (UInt8.ofNat o.label.length).toNat := by
          rw [← getResponse_length, hData rfl, hBehind,
            hEmpty]
          simp [field, asked]
        simp only [if_neg hMuch]
        exact Prog.Reaches.done ⟨rfl, hAtFile₂, hInside₃⟩
  · have hAsked := asked_of_length hShort hEmpty
    rw [hAsked] at hThere hData
    have hOk : ok = true := hThere (by omega)
    subst hOk
    have hBytes : w₂.st.iface.getResponse = o.label := by
      rw [hData rfl, hBehind]
      exact List.take_left
    have hCount : w₂.st.iface.getResponseLength =
        o.label.length := by
      rw [← getResponse_length, hBytes]
    simp only [↓reduceIte]
    refine Prog.Reaches.read ?_
    rw [if_pos hAtFile₂.applet, hCount,
      toNat_ofNat_length hShort]
    simp only [↓reduceIte]
    refine Prog.Reaches.read ?_
    rw [if_pos hAtFile₂.applet, hBytes]
    refine Prog.Reaches.step ?_
    refine Prog.Reaches.step ?_
    refine Prog.Reaches.read ?_
    have hRecord :
        ((w₂.st.record.store 0 o.label).store
          o.label.length [0]).load 0 o.label.length =
            o.label := by
      rw [Buffer.load_store_of_disjoint _ _ _ (by omega)]
      exact Buffer.load_store_self _ _ _
    have hInside₃ : RecordInside
        (.wrote .record o.label.length 1 ::
          .wrote .record 0 o.label.length :: w₂.log) ↔
        RecordInside w.log ∧ o.label.length ≤ 20 := by
      rw [recordInside_wrote, recordInside_wrote, hInside₂,
        hInside₁]
      constructor
      · exact fun hAll => ⟨hAll.2.2, by omega⟩
      · exact fun hAll => ⟨by omega, by omega, hAll.1⟩
    have hAtFile₃ : ∀ record log,
        AtFile selected efid block
          ⟨{ w₂.st with record := record }, log⟩ :=
      fun _ _ =>
        ⟨hAtFile₂.applet, hAtFile₂.file, hAtFile₂.block⟩
    have hSame :
        (label.length = o.label.length ∧
          ((w₂.st.record.store 0 o.label).store
            o.label.length [0]).load 0 label.length = label) ↔
        o.label = label ∧ label ≠ [] := by
      constructor
      · rintro ⟨hLen, hLoad⟩
        rw [hLen, hRecord] at hLoad
        exact ⟨hLoad, hLoad ▸ hEmpty⟩
      · rintro ⟨rfl, _⟩
        exact ⟨rfl, hRecord⟩
    by_cases hMatch : o.label = label ∧ label ≠ []
    · simp only [if_pos (hSame.mpr hMatch), if_pos hMatch]
      rw [Nat.mod_eq_of_lt (by rw [← hMatch.1]; omega),
        ← hMatch.1]
      exact Prog.Reaches.done ⟨rfl, hAtFile₃ _ _, hInside₃⟩
    · simp only [if_neg (mt hSame.mp hMatch), if_neg hMatch]
      exact Prog.Reaches.done ⟨rfl, hAtFile₃ _ _, hInside₃⟩

/- Skipping a field. -/
theorem FileCard.skipField
    (hCard : FileCard port files selected)
    (hAtFile : AtFile selected efid block w)
    (hFile : files efid = some o.encode)
    {offset : Nat}
    {bs more : Bytes}
    (hShort : bs.length < 2 ^ 8)
    (hDrop : o.encode.drop offset = field bs ++ more) :
    ∃ w',
      Prog.Settles (fun n => Se.skipField port n offset) w
          (some (offset + 1 + bs.length)) w' ∧
        AtFile selected efid block w' ∧
        (RecordInside w'.log ↔ RecordInside w.log) := by
  have hSmall := hCard.small efid _ hFile
  have hFits : offset + 1 + bs.length ≤ o.encode.length := by
    have hLength := congrArg List.length hDrop
    rw [List.length_drop, List.length_append] at hLength
    simp only [field, List.length_cons] at hLength
    omega
  rcases hCard.readByte hAtFile hFile hDrop with
    ⟨w₁, hRead, hAtFile₁, hInside₁, hByte⟩
  refine ⟨w₁, (Prog.LeadsTo.bind hRead _).trans ?_, hAtFile₁,
    hInside₁⟩
  simp only [↓reduceIte]
  refine ⟨0, fun _ _ => ?_⟩
  simp only [record, Prog.read, Prog.run_bind, Prog.run_step,
    hByte, toNat_ofNat_length hShort, List.nil_append]
  rw [Nat.mod_eq_of_lt (by omega)]


end Se

end TrustOnboard

------------------------------------------------------------
-- One File
------------------------------------------------------------

namespace TrustOnboard

namespace Se

variable {K : Type}
variable {port : Port K}
variable {files : Nat → Option Bytes}
variable {selected : K → Option Nat}
variable {object : Nat → Option P11Object}
variable {label : Bytes}
variable {file : P11File}
variable {w : Run K}

/- The value of the object is read, with this size. -/
def readFound
    (port : Port K)
    (size : Nat)
    (o : P11Object)
    (fuel : Nat) : Code K (Option Nat) := do
  let r ←
    readValue port fuel
      (o.valueAt + (o.form.encode o.value.length).length)
      (o.form.read size o.value.length)
  pure (some r.2)

/- The card has the objects that the directory lists. -/
def HasObject
    (files : Nat → Option Bytes)
    (object : Nat → Option P11Object)
    (file : P11File) : Prop :=
  file.efid < 2 ^ 16 ∧
    (file.isObject = true →
      files file.efid =
        (object file.efid).map P11Object.encode)

/- A file without an object is passed by. -/
theorem FileCard.readObject_none
    (hCard : FileCard port files selected)
    (hApplet : (w.st.applets .mias).isSelected = true)
    (hHas : HasObject files object file)
    (hNone : objectOf object file = none)
    (label : Bytes)
    (size : Nat) :
    ∃ w',
      Prog.Settles
          (fun n => Se.readObject port n label size file) w none
          w' ∧
        (w'.st.applets .mias).isSelected = true ∧
        w'.st.block = w.st.block ∧
        (RecordInside w'.log ↔ RecordInside w.log) := by
  unfold objectOf at hNone
  unfold Se.readObject
  by_cases hObject : file.isObject = true
  · rw [if_pos hObject] at hNone
    have hMissing := hHas.2 hObject
    rw [hNone] at hMissing
    rcases hCard.selectPath (.ofNat (file.efid / 2 ^ 8))
      (.ofNat file.efid) hApplet with
      ⟨b, w₁, hSelect, hThere, hApplet₁, _, hBlock, hInside⟩
    rw [word_of_efid hHas.1, hMissing] at hThere
    have hRefused : b = false := by
      cases b with
      | false => rfl
      | true => cases hThere.mp rfl
    subst hRefused
    simp only [if_pos hObject]
    exact ⟨w₁, Prog.LeadsTo.bind hSelect _, hApplet₁, hBlock,
      hInside⟩
  · simp only [if_neg hObject]
    exact ⟨w, Prog.LeadsTo.refl _ _, hApplet, rfl, Iff.rfl⟩

/- A file with an object: it is found, or passed by. -/
theorem FileCard.readObject_some
    (hCard : FileCard port files selected)
    (hApplet : (w.st.applets .mias).isSelected = true)
    (hHas : HasObject files object file)
    {o : P11Object}
    (hSome : objectOf object file = some o)
    (label : Bytes)
    (size : Nat) :
    ∃ w',
      Prog.LeadsTo
          (fun n => Se.readObject port n label size file) w
          (if found label o then readFound port size o
          else fun _ => pure none) w' ∧
        files file.efid = some o.encode ∧
        AtFile selected file.efid w.st.block w' ∧
        (RecordInside w'.log ↔
          RecordInside w.log ∧ o.label.length ≤ 20) := by
  unfold objectOf at hSome
  by_cases hObject : file.isObject = true
  case neg =>
    rw [if_neg hObject] at hSome
    cases hSome
  rw [if_pos hObject] at hSome
  have hFile : files file.efid = some o.encode := by
    rw [hHas.2 hObject, hSome]
    rfl
  have hSmall := hCard.small _ _ hFile
  rw [o.length_encode] at hSmall
  suffices hReaches :
      Prog.Reaches
        (fun n => Se.readObject port n label size file) w
        (fun q w' =>
          q = (if found label o then readFound port size o
              else fun _ => pure none) ∧
            AtFile selected file.efid w.st.block w' ∧
            (RecordInside w'.log ↔
              RecordInside w.log ∧ o.label.length ≤ 20)) by
    rcases hReaches with ⟨q, w', hLeads, rfl, hRest⟩
    exact ⟨w', hLeads, hFile, hRest⟩
  unfold Se.readObject
  simp only [if_pos hObject]
  rcases hCard.selectPath (.ofNat (file.efid / 2 ^ 8))
    (.ofNat file.efid) hApplet with
    ⟨b, w₁, hSelect, hThere, _, hAtFile, _, hInside⟩
  rw [word_of_efid hHas.1] at hThere hAtFile
  have hOk : b = true := hThere.mpr (by rw [hFile]; rfl)
  subst hOk
  refine Prog.Reaches.bind hSelect ?_
  simp only [↓reduceIte]
  rcases hCard.matchLabel (hAtFile rfl) hFile label with
    ⟨w₂, hLabel, hAtFile₂, hInside₂⟩
  rw [hInside] at hInside₂
  refine Prog.Reaches.bind hLabel ?_
  by_cases hMatch : o.label = label ∧ label ≠ []
  case neg =>
    have hNot : found label o = false := by
      unfold found
      rw [decide_eq_false_iff_not]
      exact fun hAll => hMatch ⟨hAll.1, hAll.2.1⟩
    simp only [if_neg hMatch, hNot]
    exact Prog.Reaches.done ⟨rfl, hAtFile₂, hInside₂⟩
  simp only [if_pos hMatch]
  rcases hCard.skipField hAtFile₂ hFile o.hApplication
    o.drop_application with ⟨w₃, hSkip, hAtFile₃, hInside₃⟩
  refine Prog.Reaches.bind hSkip ?_
  simp only
  have hIdAt : 17 + o.label.length + 1 + o.application.length =
      18 + o.label.length + o.application.length := by
    omega
  rw [hIdAt]
  rcases hCard.skipField hAtFile₃ hFile o.hObjectId
    o.drop_objectId with ⟨w₄, hSkip', hAtFile₄, hInside₄⟩
  refine Prog.Reaches.bind hSkip' ?_
  simp only
  have hValueAt :
      18 + o.label.length + o.application.length + 1 +
        o.objectId.length = o.valueAt := by
    unfold P11Object.valueAt
    omega
  rw [hValueAt]
  rcases hCard.readRecord hAtFile₄ hFile
    (show o.valueAt < 2 ^ 16 by omega)
    (show asked 0x05 ≤ 0x15 by decide) with
    ⟨r, w₅, hRead, hAtFile₅, hInside₅, hAll, hBytes⟩
  have hInside₆ : RecordInside w₅.log ↔
      RecordInside w.log ∧ o.label.length ≤ 20 := by
    rw [hInside₅, hInside₄, hInside₃, hInside₂]
  have hFive : asked 0x05 = 5 := rfl
  rw [hFive] at hAll hBytes
  rw [o.length_encode] at hAll
  refine Prog.Reaches.bind hRead ?_
  by_cases hRoom : 5 ≤ o.tail.length
  case neg =>
    have hNot : found label o = false := by
      unfold found
      rw [decide_eq_false_iff_not]
      exact fun hAll => hRoom hAll.2.2
    have hShort : ¬ r = some 5 := by
      rw [hAll]
      omega
    simp only [if_neg hShort, hNot]
    exact Prog.Reaches.done ⟨rfl, hAtFile₅, hInside₆⟩
  have hFound : found label o = true := by
    unfold found
    rw [decide_eq_true_iff]
    exact ⟨hMatch.1, hMatch.2, hRoom⟩
  have hWhole : r = some 5 := hAll.mpr (by omega)
  have hLoad := hBytes hWhole
  rw [o.drop_tail] at hLoad
  have hHeader := valueHeader_eq o.hValue hLoad hRoom size
    o.valueAt
  rw [Nat.mod_eq_of_lt (by
    unfold P11Object.tail at hSmall
    rw [List.length_append] at hSmall
    omega)] at hHeader
  simp only [if_pos hWhole]
  refine Prog.Reaches.read ?_
  simp only [hHeader]
  refine Prog.Reaches.done ⟨?_, hAtFile₅, hInside₆⟩
  rw [if_pos hFound]
  rfl

end Se

end TrustOnboard

------------------------------------------------------------
-- The Search
------------------------------------------------------------

namespace TrustOnboard

namespace Se

variable {K : Type}
variable {port : Port K}
variable {files : Nat → Option Bytes}
variable {selected : K → Option Nat}
variable {object : Nat → Option P11Object}
variable {label : Bytes}
variable {w : Run K}

theorem looked_cons
    (label : Bytes)
    (o : P11Object)
    (objects : List P11Object) :
    looked label (o :: objects) =
      if found label o then [o]
      else o :: looked label objects := by
  unfold looked
  cases hFound : found label o with
  | true => simp [hFound]
  | false => simp [hFound]

/- A file without the object leaves the search to the rest. -/
theorem searchFiles_next
    {q : Code K (Option Nat)}
    (hNone : q = pure none)
    (label : Bytes)
    (size : Nat)
    (list : List P11File) :
    Prog.LeadsTo
      (fun n => q >>= fun r =>
        match r with
        | some objectLen => pure (some objectLen)
        | none => Se.searchFiles port n label size list)
      w (fun n => Se.searchFiles port n label size list) w := by
  rw [hNone]
  exact Prog.LeadsTo.refl _ _

/-
  The search goes from file to file, and reads the value of
  the object it finds.
-/
theorem FileCard.searchFiles
    (hCard : FileCard port files selected)
    (list : List P11File)
    (hHas : ∀ file ∈ list, HasObject files object file)
    (hApplet : (w.st.applets .mias).isSelected = true)
    (label : Bytes)
    (size : Nat) :
    ∃ w',
      Prog.LeadsTo
          (fun n => Se.searchFiles port n label size list) w
          (match (list.filterMap (objectOf object)).find?
              (found label) with
          | some o => readFound port size o
          | none => fun _ => pure none) w' ∧
        (∀ o,
          (list.filterMap (objectOf object)).find?
              (found label) = some o →
            ∃ efid, files efid = some o.encode ∧
              AtFile selected efid w.st.block w') ∧
        (RecordInside w'.log ↔
          RecordInside w.log ∧
            ∀ o ∈ looked label
                (list.filterMap (objectOf object)),
              o.label.length ≤ 20) := by
  -- Each file is passed by, or ends the search.
  induction list generalizing w with
  | nil =>
      refine ⟨w, Prog.LeadsTo.refl _ _, ?_, ?_⟩
      · intro o hNo
        cases hNo
      · simp [looked]
  | cons file list ih =>
      have hHere := hHas file List.mem_cons_self
      have hLater : ∀ file ∈ list,
          HasObject files object file :=
        fun file' hMem =>
          hHas file' (List.mem_cons_of_mem file hMem)
      cases hObject : objectOf object file with
      | none =>
          rcases hCard.readObject_none hApplet hHere hObject
            label size with
            ⟨w₁, hRead, hApplet₁, hBlock, hInside⟩
          rcases ih hLater hApplet₁ with
            ⟨w', hLeads, hAtFile, hInside'⟩
          rw [List.filterMap_cons_none hObject]
          refine ⟨w', ?_, ?_, ?_⟩
          · exact ((hRead.andThen _).trans
              (searchFiles_next rfl label size list)).trans
                  hLeads
          · rw [← hBlock]
            exact hAtFile
          · rw [hInside', hInside]
      | some o =>
          rcases hCard.readObject_some hApplet hHere hObject
            label size with
            ⟨w₁, hRead, hFile, hAtFile, hInside⟩
          rw [List.filterMap_cons_some hObject, looked_cons]
          cases hFound : found label o with
          | true =>
              rw [List.find?_cons_of_pos hFound]
              rw [if_pos hFound] at hRead
              refine ⟨w₁, ?_, ?_, ?_⟩
              · refine (hRead.andThen _).trans ⟨0, ?_⟩
                intro n _
                unfold readFound
                dsimp only
                rw [Prog.bind_assoc]
                rfl
              · intro o' hSame
                cases hSame
                exact ⟨file.efid, hFile, hAtFile⟩
              · rw [hInside]
                simp
          | false =>
              rw [List.find?_cons_of_neg (by simp [hFound])]
              rw [if_neg (by simp [hFound])] at hRead
              rcases ih hLater hAtFile.applet with
                ⟨w', hLeads, hThere, hInside'⟩
              refine ⟨w', ?_, ?_, ?_⟩
              · exact ((hRead.andThen _).trans
                  (searchFiles_next rfl label size list)).trans
                  hLeads
              · rw [hAtFile.block] at hThere
                exact hThere
              · rw [hInside', hInside]
                simp [and_assoc]

end Se

end TrustOnboard

------------------------------------------------------------
-- The Directory
------------------------------------------------------------

namespace TrustOnboard

namespace Se

variable {K : Type}
variable {port : Port K}
variable {files : Nat → Option Bytes}
variable {selected : K → Option Nat}
variable {efid : Nat}
variable {content : Bytes}
variable {block : Buffer}
variable {w : Run K}

theorem readRecord_stable
    (port : Port K)
    (offset : Nat)
    (le : UInt8) :
    Prog.Stable (fun n => readRecord port n offset le) := by
  refine (readBinary_transmission port .mias offset
    le).stable.bind ?_
  exact fun ok => (Prog.Stable.const _).ite (Prog.Stable.const _)

/- A round of the loop over the directory. -/
def listRound
    (port : Port K)
    (nbOfFiles fuel : Nat)
    (v : Nat × List P11File) :
    Code K ((Nat × List P11File) ⊕ List P11File) := do
  if v.1 < nbOfFiles then do
    let n ← readRecord port fuel (1 + v.1 * 0x15) 0x15
    if n = some 0x15 then do
      let record ← record
      pure (.inl (v.1 + 1, fileOfRecord record :: v.2))
    else
      pure (.inl (v.1 + 1, v.2))
  else
    pure (.inr v.2)

theorem listRound_stable
    (port : Port K)
    (nbOfFiles : Nat)
    (v : Nat × List P11File) :
    Prog.Stable (fun n => listRound port nbOfFiles n v) := by
  refine Prog.Stable.ite ?_ (Prog.Stable.const _)
  refine (readRecord_stable port _ _).bind ?_
  intro r
  refine Prog.Stable.ite ?_ (Prog.Stable.const _)
  exact Prog.Stable.const _

theorem listFiles_stable
    (port : Port K)
    (nbOfFiles : Nat) :
    Prog.Stable (fun n => listFiles port n nbOfFiles) :=
  Prog.Stable.loop (listRound_stable port nbOfFiles) (0, [])

/- A record is read as far as the array for it reaches. -/
theorem fileOfRecord_congr
    {left right : Buffer}
    (hSame : left.load 0 0x15 = right.load 0 0x15) :
    fileOfRecord left = fileOfRecord right := by
  have hAt : ∀ i, i < 0x15 → left i = right i := by
    intro i hi
    have hByte := congrArg (·[i]?) hSame
    simp only [Buffer.load, List.getElem?_map,
      List.getElem?_range hi, Option.map_some, Nat.zero_add]
      at hByte
    exact Option.some.inj hByte
  have hLoad : ∀ off, off + 8 ≤ 0x15 →
      left.load off 8 = right.load off 8 := by
    intro off hOff
    apply List.map_congr_left
    intro i hi
    have := List.mem_range.mp hi
    exact hAt _ (by omega)
  unfold fileOfRecord
  rw [hAt 0 (by decide), hAt 1 (by decide),
    hLoad 12 (by decide), hLoad 4 (by decide)]

theorem load_contentOf
    (bs : Bytes) :
    (contentOf bs).load 0 bs.length = bs := by
  have hTake := take_drop_contentOf bs 0 bs.length
  rw [List.drop_zero, List.take_length, Nat.sub_zero,
    Nat.min_self] at hTake
  exact hTake.symm

/- A round reads one record, if it is complete. -/
theorem FileCard.listRound
    (hCard : FileCard port files selected)
    (hAtFile : AtFile selected efid block w)
    (hFile : files efid = some content)
    {nbOfFiles i : Nat}
    (hLt : i < nbOfFiles)
    (hMost : nbOfFiles < 2 ^ 8)
    (list : List P11File) :
    ∃ w',
      Prog.Returns
          (fun n => Se.listRound port nbOfFiles n (i, list)) w
          (.inl (i + 1, (fileAt content i).toList ++ list))
          w' ∧
        AtFile selected efid block w' ∧
        (RecordInside w'.log ↔ RecordInside w.log) := by
  rcases hCard.readRecord hAtFile hFile
    (show 1 + i * 0x15 < 2 ^ 16 by omega)
    (show asked 0x15 ≤ 0x15 by decide) with
    ⟨r, w₁, hRead, hAtFile₁, hInside, hAll, hBytes⟩
  have hLen : asked 0x15 = 0x15 := rfl
  rw [hLen] at hAll hBytes
  have hWhole :
      (recordOf content i).length = 0x15 ↔
        1 + i * 0x15 + 0x15 ≤ content.length := by
    unfold recordOf
    rw [List.length_take, List.length_drop]
    omega
  have hLeads : Prog.LeadsTo
      (fun n => Se.listRound port nbOfFiles n (i, list)) w
      (fun _ => pure
        (.inl (i + 1, (fileAt content i).toList ++ list)))
      w₁ := by
    unfold Se.listRound
    simp only [if_pos hLt]
    refine (Prog.LeadsTo.bind hRead _).trans ?_
    unfold fileAt
    by_cases hComplete : (recordOf content i).length = 0x15
    · have hSome := hAll.mpr (hWhole.mp hComplete)
      simp only [if_pos hSome, if_pos hComplete]
      refine ⟨0, fun _ _ => ?_⟩
      have hSame : fileOfRecord w₁.st.record =
          fileOfRecord (contentOf (recordOf content i)) := by
        apply fileOfRecord_congr
        rw [hBytes hSome, ← hComplete, load_contentOf]
        unfold recordOf at hComplete ⊢
        rw [hComplete]
      rw [← hSame]
      rfl
    · have hNone : ¬ r = some 0x15 :=
        fun hSome => hComplete (hWhole.mpr (hAll.mp hSome))
      simp only [if_neg hNone, if_neg hComplete]
      exact Prog.LeadsTo.refl _ _
  rcases hLeads with ⟨m, hRun⟩
  exact ⟨w₁, ⟨m, hRun m (Nat.le_refl m)⟩, hAtFile₁, hInside⟩

/- The loop lists the files, the last first. -/
theorem FileCard.listFiles
    (hCard : FileCard port files selected)
    (hAtFile : AtFile selected efid block w)
    (hFile : files efid = some content)
    {nbOfFiles : Nat}
    (hMost : nbOfFiles < 2 ^ 8) :
    ∃ w',
      Prog.Settles (fun n => Se.listFiles port n nbOfFiles) w
          ((List.range nbOfFiles).filterMap
            (fileAt content)).reverse w' ∧
        AtFile selected efid block w' ∧
        (RecordInside w'.log ↔ RecordInside w.log) := by
  have hRounds : ∀ left i, nbOfFiles - i = left →
      i ≤ nbOfFiles → ∀ w : Run K,
      AtFile selected efid block w →
      ∃ w',
        Prog.Iterates (fun n => Se.listRound port nbOfFiles n)
            (i, ((List.range i).filterMap
              (fileAt content)).reverse) w
            ((List.range nbOfFiles).filterMap
              (fileAt content)).reverse w' ∧
          AtFile selected efid block w' ∧
          (RecordInside w'.log ↔ RecordInside w.log) := by
    -- Every round takes one record more.
    intro left
    induction left with
    | zero =>
        intro i hLeft hLe w hAtFile
        have hDone : i = nbOfFiles := by omega
        subst hDone
        refine ⟨w, .last ⟨0, ?_⟩, hAtFile, Iff.rfl⟩
        unfold Se.listRound
        simp only [Nat.lt_irrefl, if_false]
        rfl
    | succ left ih =>
        intro i hLeft hLe w hAtFile
        rcases hCard.listRound hAtFile hFile
          (show i < nbOfFiles by omega) hMost
          ((List.range i).filterMap
            (fileAt content)).reverse with
          ⟨w₁, hRound, hAtFile₁, hInside⟩
        have hMore :
            (fileAt content i).toList ++
                ((List.range i).filterMap
                  (fileAt content)).reverse =
              ((List.range (i + 1)).filterMap
                (fileAt content)).reverse := by
          rw [List.range_succ, List.filterMap_append,
            List.reverse_append]
          cases hAt : fileAt content i with
          | none => simp [hAt]
          | some file => simp [hAt]
        rw [hMore] at hRound
        rcases ih (i + 1) (by omega) (by omega) w₁ hAtFile₁ with
          ⟨w', hRest, hAtFile', hInside'⟩
        exact ⟨w', .next hRound hRest, hAtFile',
          hInside'.trans hInside⟩
  rcases hRounds nbOfFiles 0 (by omega) (by omega) w hAtFile with
    ⟨w', hIterates, hAtFile', hInside⟩
  have hReturns :
      Prog.Returns (fun n => Se.listFiles port n nbOfFiles) w
        ((List.range nbOfFiles).filterMap
          (fileAt content)).reverse w' :=
    (Prog.returns_loop
      (listRound_stable port nbOfFiles)).mpr hIterates
  exact ⟨w', hReturns.settles (listFiles_stable port nbOfFiles),
    hAtFile', hInside⟩

end Se

end TrustOnboard

------------------------------------------------------------
-- The Whole Function
------------------------------------------------------------

namespace TrustOnboard

namespace Se

variable {K : Type}
variable {port : Port K}
variable {files : Nat → Option Bytes}
variable {selected : K → Option Nat}
variable {object : Nat → Option P11Object}
variable {label : Bytes}
variable {w : Run K}

theorem matchLabel_stable
    (port : Port K)
    (label : Bytes) :
    Prog.Stable (fun n => matchLabel port n label) := by
  refine (readRecord_stable port _ _).bind ?_
  intro r
  refine Prog.Stable.ite ?_ (Prog.Stable.const _)
  refine (Prog.Stable.const _).bind ?_
  intro len
  refine (readBinary_transmission port .mias _ _).stable.bind ?_
  exact fun ok => (Prog.Stable.const _).ite (Prog.Stable.const _)

theorem skipField_stable
    (port : Port K)
    (offset : Nat) :
    Prog.Stable (fun n => skipField port n offset) := by
  refine (readRecord_stable port _ _).bind ?_
  exact fun r => (Prog.Stable.const _).ite (Prog.Stable.const _)

theorem readValue_stable
    (port : Port K)
    (offset size : Nat) :
    Prog.Stable (fun n => readValue port n offset size) := by
  refine (Prog.Stable.const _).bind ?_
  intro _
  refine Prog.Stable.bind
    (Prog.Stable.loop (round_stable valueChunks port _ _) 0) ?_
  exact fun r => Prog.Stable.const _

theorem readObject_stable
    (port : Port K)
    (label : Bytes)
    (size : Nat)
    (file : P11File) :
    Prog.Stable
      (fun n => readObject port n label size file) := by
  refine Prog.Stable.ite ?_ (Prog.Stable.const _)
  refine (selectPath_transmission port _).stable.bind ?_
  intro ok
  refine Prog.Stable.ite ?_ (Prog.Stable.const _)
  refine (matchLabel_stable port label).bind ?_
  intro r
  cases r with
  | none => exact Prog.Stable.const _
  | some offset =>
      refine (skipField_stable port offset).bind ?_
      intro r
      cases r with
      | none => exact Prog.Stable.const _
      | some offset =>
          refine (skipField_stable port offset).bind ?_
          intro r
          cases r with
          | none => exact Prog.Stable.const _
          | some offset =>
              refine (readRecord_stable port _ _).bind ?_
              intro n
              refine Prog.Stable.ite ?_ (Prog.Stable.const _)
              refine (Prog.Stable.const _).bind ?_
              intro record
              refine (readValue_stable port _ _).bind ?_
              exact fun _ => Prog.Stable.const _

theorem searchFiles_stable
    (port : Port K)
    (label : Bytes)
    (size : Nat)
    (list : List P11File) :
    Prog.Stable
      (fun n => searchFiles port n label size list) := by
  induction list with
  | nil => exact Prog.Stable.const _
  | cons file list ih =>
      refine (readObject_stable port label size file).bind ?_
      intro r
      cases r with
      | some objectLen => exact Prog.Stable.const _
      | none => exact ih

theorem p11GetObjectByLabel_stable
    (port : Port K)
    (label : Bytes)
    (size : Nat) :
    Prog.Stable
      (fun n => p11GetObjectByLabel port n label size) := by
  refine (selectPath_transmission port _).stable.bind ?_
  intro ok
  refine Prog.Stable.ite ?_ (Prog.Stable.const _)
  refine (readBinary_transmission port .mias _ _).stable.bind ?_
  intro ok
  refine Prog.Stable.ite ?_ (Prog.Stable.const _)
  refine (Prog.Stable.const _).bind ?_
  intro bs
  match bs with
  | [] => exact Prog.Stable.const _
  | [nbOfFiles] =>
      refine (listFiles_stable port _).bind ?_
      intro list
      refine (searchFiles_stable port label size list).bind ?_
      exact fun r => Prog.Stable.const _
  | _ :: _ :: _ => exact Prog.Stable.const _

/- The result for what the search returns. -/
def searchResult : Option Nat → Code K (Bool × Nat)
  | some objectLen => pure (true, objectLen)
  | none => pure (false, 0)

/- The object the search finds is read, if there is one. -/
def readResult
    (port : Port K)
    (size : Nat)
    (o : Option P11Object)
    (fuel : Nat) : Code K (Bool × Nat) :=
  match o with
  | some o => readFound port size o fuel >>= searchResult
  | none => pure (false, 0)

/- What the function comes to, up to reading the value. -/
theorem FileCard.p11GetObjectByLabel
    (hCard : FileCard port files selected)
    {directory : Bytes}
    (hDirectory : (files 0x0101).getD [] = directory)
    (hHas :
      ∀ file ∈ directoryFiles directory,
        HasObject files object file)
    (hApplet : (w.st.applets .mias).isSelected = true)
    (label : Bytes)
    (size : Nat) :
    ∃ w',
      Prog.LeadsTo
          (fun n => Se.p11GetObjectByLabel port n label size) w
          (readResult port size
            ((directoryObjects directory object).find?
              (found label))) w' ∧
        (∀ o,
          (directoryObjects directory object).find?
              (found label) = some o →
            ∃ efid, files efid = some o.encode ∧
              AtFile selected efid w.st.block w') ∧
        (RecordInside w'.log ↔
          RecordInside w.log ∧
            ∀ o ∈ looked label
                (directoryObjects directory object),
              o.label.length ≤ 20) := by
  suffices hReaches :
      Prog.Reaches
        (fun n => Se.p11GetObjectByLabel port n label size) w
        (fun q w' =>
          q = readResult port size
              ((directoryObjects directory object).find?
                (found label)) ∧
            (∀ o,
              (directoryObjects directory object).find?
                  (found label) = some o →
                ∃ efid, files efid = some o.encode ∧
                  AtFile selected efid w.st.block w') ∧
            (RecordInside w'.log ↔
              RecordInside w.log ∧
                ∀ o ∈ looked label
                    (directoryObjects directory object),
                  o.label.length ≤ 20)) by
    rcases hReaches with ⟨q, w', hLeads, rfl, hRest⟩
    exact ⟨w', hLeads, hRest⟩
  unfold Se.p11GetObjectByLabel
  rcases hCard.selectPath 0x01 0x01 hApplet with
    ⟨ok, w₁, hSelect, hThere, _, hAtFile, hBlock, hInside⟩
  have hEfid : word 0x01 0x01 = 0x0101 := rfl
  rw [hEfid] at hThere hAtFile
  have hNothing : directory = [] → ∀ w₂ : Run K,
      (RecordInside w₂.log ↔ RecordInside w.log) →
      (fun _ : Nat => (pure (false, 0) : Code K (Bool × Nat))) =
          readResult port size
            ((directoryObjects directory object).find?
              (found label)) ∧
        (∀ o,
          (directoryObjects directory object).find?
              (found label) = some o →
            ∃ efid, files efid = some o.encode ∧
              AtFile selected efid w.st.block w₂) ∧
        (RecordInside w₂.log ↔
          RecordInside w.log ∧
            ∀ o ∈ looked label
                (directoryObjects directory object),
              o.label.length ≤ 20) := by
    rintro rfl w₂ hSame
    refine ⟨rfl, ?_, ?_⟩
    · intro o hNo
      cases hNo
    · rw [hSame]
      simp [directoryObjects, directoryFiles, looked]
  refine Prog.Reaches.bind hSelect ?_
  cases hFile : files 0x0101 with
  | none =>
      rw [hFile] at hThere hDirectory
      have hRefused : ok = false := by
        cases ok with
        | false => rfl
        | true => cases hThere.mp rfl
      subst hRefused
      exact Prog.Reaches.done
        (hNothing hDirectory.symm w₁ hInside)
  | some content =>
      rw [hFile] at hThere hDirectory
      have hSame : content = directory := hDirectory
      subst hSame
      have hOk : ok = true := hThere.mpr rfl
      subst hOk
      simp only [↓reduceIte]
      rcases hCard.readBinary (hAtFile rfl) hFile
        (show 0 < 2 ^ 16 by decide) 0x01 with
        ⟨ok, w₂, hRead, hAtFile₂, _, hInside₂, hAll, hData⟩
      rw [hInside] at hInside₂
      refine Prog.Reaches.bind hRead ?_
      cases content with
      | nil =>
          cases ok with
          | false =>
              exact Prog.Reaches.done
                (hNothing rfl w₂ hInside₂)
          | true =>
              simp only [↓reduceIte]
              refine Prog.Reaches.read ?_
              rw [if_pos hAtFile₂.applet, hData rfl]
              exact Prog.Reaches.done
                (hNothing rfl w₂ hInside₂)
      | cons nbOfFiles rest =>
          have hOk : ok = true := hAll (by
            change 0 + 1 ≤ _
            simp)
          subst hOk
          simp only [↓reduceIte]
          refine Prog.Reaches.read ?_
          rw [if_pos hAtFile₂.applet, hData rfl]
          rcases hCard.listFiles hAtFile₂ hFile
            nbOfFiles.toNat_lt with
            ⟨w₃, hList, hAtFile₃, hInside₃⟩
          refine Prog.Reaches.bind hList ?_
          have hListed : ∀ file ∈
              (directoryFiles (nbOfFiles :: rest)).reverse,
              HasObject files object file :=
            fun file hMem =>
              hHas file (List.mem_reverse.mp hMem)
          rcases hCard.searchFiles _ hListed hAtFile₃.applet
            label size with ⟨w', hSearch, hThere', hInside'⟩
          refine ⟨_, w', hSearch.andThen _, ?_, ?_, ?_⟩
          · funext n
            unfold directoryObjects
            cases ((directoryFiles
              (nbOfFiles :: rest)).reverse.filterMap
                (objectOf object)).find? (found label) with
            | none => rfl
            | some o => rfl
          · rw [hAtFile₃.block] at hThere'
            exact hThere'
          · rw [hInside', hInside₃, hInside₂]
            rfl

end Se

end TrustOnboard

------------------------------------------------------------
-- What Is Found
------------------------------------------------------------

namespace TrustOnboard

namespace Se

variable {K : Type}
variable {port : Port K}
variable {files : Nat → Option Bytes}
variable {selected : K → Option Nat}
variable {object : Nat → Option P11Object}
variable {label : Bytes}

/- The state with other memory. -/
def Sys.withMemory
    (s : Sys K)
    (block record : Buffer) : Sys K :=
  { s with block := block, record := record }

/-
  What a search has to do, whatever the memory and the
  variable for the size hold: find an object with the label
  if there is one, give back its value, and stay inside of
  the array `record`.
-/
structure Finds
    (port : Port K)
    (label : Bytes)
    (objects : List P11Object)
    (s : Sys K) : Prop where
  found :
    (∃ o ∈ objects, o.label = label) →
      ∃ o ∈ objects, o.label = label ∧
        ∀ size block record, size < 2 ^ 16 →
          ∃ w',
            Prog.Returns
                (fun n => p11GetObjectByLabel port n label size)
                ⟨s.withMemory block record, []⟩
                (true, o.value.length + 1) w' ∧
              w'.st.block.load 0 o.value.length = o.value
  missing :
    (∀ o ∈ objects, o.label ≠ label) →
      ∀ size block record, size < 2 ^ 16 →
        ∃ objectLen w',
          Prog.Returns
            (fun n => p11GetObjectByLabel port n label size)
            ⟨s.withMemory block record, []⟩
            (false, objectLen) w'
  inside :
    ∀ size block record r w', size < 2 ^ 16 →
      Prog.Returns
          (fun n => p11GetObjectByLabel port n label size)
          ⟨s.withMemory block record, []⟩ r w' →
        RecordInside w'.log

/- When a search does so. -/
structure Findable
    (label : Bytes)
    (objects : List P11Object) : Prop where
  short : ∀ o ∈ looked label objects, o.label.length ≤ 20
  form :
    ∀ o, objects.find? (found label) = some o →
      o.form ≠ .oneByte
  missing :
    objects.find? (found label) = none →
      ∀ o ∈ objects, o.label ≠ label

/- The size that a value is read with is reported. -/
theorem readFound_length
    {size : Nat}
    {o : P11Object}
    {w w' : Run K}
    {objectLen : Nat}
    (hReturns :
      Prog.Returns (readFound port size o) w (some objectLen)
        w') :
    objectLen = 0 ∨
      objectLen =
        (o.form.read size o.value.length + 1) % 2 ^ 16 := by
  rcases hReturns with ⟨n, hRun⟩
  unfold readFound at hRun
  rw [Prog.run_bind] at hRun
  generalize o.valueAt + _ = offset at hRun
  generalize o.form.read _ _ = z at hRun ⊢
  rcases hValue : (readValue port n offset z).run w with ⟨r, w₁⟩
  rw [hValue] at hRun
  cases r with
  | none => cases hRun
  | some r =>
      cases hRun
      unfold readValue at hValue
      simp only [Prog.run_bind, malloc, Prog.emit,
        Prog.run_step] at hValue
      split at hValue
      · rename_i r' w₂ hLoop
        cases r' with
        | none =>
            cases hValue
            exact Or.inl rfl
        | some i =>
            cases hValue
            exact Or.inr rfl
      · cases hValue

theorem readResult_stable
    (port : Port K)
    (size : Nat)
    (o : Option P11Object) :
    Prog.Stable (readResult port size o) := by
  cases o with
  | none => exact Prog.Stable.const _
  | some o =>
      refine Prog.Stable.bind ?_ (fun _ => Prog.Stable.const _)
      exact (readValue_stable port _ _).bind
        (fun _ => Prog.Stable.const _)

/- The search succeeds with what was read. -/
theorem readResult_true
    {size : Nat}
    {o : P11Object}
    {w w' : Run K}
    {objectLen : Nat}
    (hReturns :
      Prog.Returns (readResult port size (some o)) w
        (true, objectLen) w') :
    Prog.Returns (readFound port size o) w (some objectLen)
      w' := by
  rcases hReturns with ⟨n, hRun⟩
  refine ⟨n, ?_⟩
  unfold readResult at hRun
  dsimp only at hRun
  rw [Prog.run_bind] at hRun
  rcases hFound : (readFound port size o n).run w with ⟨r, w₁⟩
  rw [hFound] at hRun
  match r with
  | none => cases hRun
  | some none => cases hRun
  | some (some m) =>
      cases hRun
      rfl

/- The memory that is written to for a value. -/
theorem WritesUpTo.recordInside
    {n : Nat}
    {es : List Event}
    (hWrites : WritesUpTo n es) :
    RecordInside es := by
  intro off len hMem
  rcases hWrites _ hMem rfl with ⟨off', len', hNo, _⟩
  cases hNo

/- An object is read when its size is. -/
theorem FileCard.readFound
    (hCard : FileCard port files selected)
    {o : P11Object}
    {efid : Nat}
    (hFile : files efid = some o.encode)
    {block : Buffer}
    {w : Run K}
    (hAtFile : AtFile selected efid block w)
    {size : Nat}
    (hRead :
      o.form.read size o.value.length = o.value.length) :
    ∃ w',
      Prog.Returns (Se.readFound port size o) w
          (some (o.value.length + 1)) w' ∧
        w'.st.block.load 0 o.value.length = o.value ∧
        (RecordInside w'.log ↔ RecordInside w.log) := by
  have hSmall := hCard.small efid _ hFile
  have hLength := o.length_encode
  unfold P11Object.tail at hLength
  rw [List.length_append, List.length_append] at hLength
  unfold Se.readFound
  rw [hRead]
  generalize hBase :
    o.valueAt + (o.form.encode o.value.length).length = base
  have hFirst : 19 ≤ base := by
    rw [← hBase]
    unfold P11Object.valueAt
    omega
  rcases hCard.delivers hFile (show 0 < base by omega)
    (show base + o.value.length ≤ o.encode.length by omega)
    hAtFile.applet hAtFile.file with
    ⟨cs, hAsked, hComplete, hShort⟩
  have hServes := hCard.serves hFile
  rcases hAsked.returns hServes valueChunks_sound (by omega)
    hAtFile.file w.st.block w.log with
    ⟨s', es, hWrites, hReturns⟩
  let n := o.value.length
  let put := applied (contentOf o.encode) base w.st.block cs
  let w' : Run K :=
    ⟨s'.withBlock (put.store n [0]),
      .wrote .block n 1 ::
        (es ++ .allocated ((n + 1) % 2 ^ 16) :: w.log)⟩
  have hValue :
      Prog.Returns (fun k => readValue port k base n) w
        (true, (n + 1) % 2 ^ 16) w' := by
    simp only [readValue_eq]
    refine (hReturns _ _).mpr ?_
    rw [outcome_of_skips rfl]
    rfl
  have hLen : (n + 1) % 2 ^ 16 = n + 1 := by
    omega
  have hHolds :
      HoldsFile (contentOf o.encode) base n (n + 1)
        (⟨s'.withBlock (put.store n [0]),
          .wrote .block n 1 ::
            (es ++ .allocated (n + 1) :: [])⟩ : Run K) :=
    holdsFile_of_complete hAsked hComplete (Nat.le_refl _)
      hWrites noMemory_nil
  refine ⟨w', ?_, ?_, ?_⟩
  · rcases hValue with ⟨k, hRun⟩
    refine ⟨k, ?_⟩
    rw [hLen] at hRun
    exact Prog.run_bind_of_run hRun
  · have hTake := take_drop_contentOf o.encode base n
    rw [← hBase, o.drop_value, hBase, List.take_left,
      Nat.min_eq_left (by omega)] at hTake
    exact hHolds.bytes.trans hTake.symm
  · have hEnd : RecordInside [.wrote .block n 1] := by
      intro off len hMem
      cases List.mem_singleton.mp hMem
    have hStart :
        RecordInside [.allocated ((n + 1) % 2 ^ 16)] := by
      intro off len hMem
      cases List.mem_singleton.mp hMem
    change RecordInside ([_] ++ (es ++ ([_] ++ w.log))) ↔ _
    rw [recordInside_append, recordInside_append,
      recordInside_append]
    simp only [hEnd, hStart, hWrites.recordInside, true_and]

/- A file identifier of the directory has two bytes. -/
theorem efid_lt
    {directory : Bytes}
    {file : P11File}
    (hListed : file ∈ directoryFiles directory) :
    file.efid < 2 ^ 16 := by
  rcases List.mem_filterMap.mp hListed with ⟨i, _, hAt⟩
  unfold fileAt at hAt
  split at hAt
  · cases hAt
    have hHigh :=
      (contentOf (recordOf directory i) 0).toNat_lt
    have hLow :=
      (contentOf (recordOf directory i) 1).toNat_lt
    change word _ _ < _
    unfold word
    omega
  · cases hAt

/-
  The search by label, on a card whose directory lists proper
  objects.
-/
theorem p11GetObjectByLabel_finds_iff
    (hCard : FileCard port files selected)
    {directory : Bytes}
    (hDirectory : (files 0x0101).getD [] = directory)
    (hObjects :
      ∀ file ∈ directoryFiles directory,
        file.isObject = true →
          files file.efid =
            (object file.efid).map P11Object.encode)
    {s : Sys K}
    (hApplet : (s.applets .mias).isSelected = true) :
    Finds port label (directoryObjects directory object) s ↔
      Findable label (directoryObjects directory object) := by
  have hHas : ∀ file ∈ directoryFiles directory,
      HasObject files object file :=
    fun file hListed =>
      ⟨efid_lt hListed, hObjects file hListed⟩
  have hRun := fun size block record =>
    hCard.p11GetObjectByLabel
      (w := ⟨s.withMemory block record, []⟩) hDirectory hHas
      hApplet label size
  generalize directoryObjects directory object = objects
    at hRun ⊢
  have hResult : ∀ size,
      Prog.Stable (readResult port size
        (objects.find? (found label))) :=
    fun size => readResult_stable port size _
  have hStable := p11GetObjectByLabel_stable port label
  have hEmpty : RecordInside ([] : List Event) := by
    intro off len hNo
    cases hNo
  have hLabel : ∀ {o}, objects.find? (found label) = some o →
      o ∈ objects ∧ o.label = label := by
    intro o hFind
    have hFound := List.find?_some hFind
    exact ⟨List.mem_of_find?_eq_some hFind,
      (of_decide_eq_true hFound).1⟩
  constructor
  case mp =>
    intro hFinds
    constructor
    case short =>
      have hReturns : ∃ r w',
          Prog.Returns
            (fun n => p11GetObjectByLabel port n label 0)
            ⟨s.withMemory s.block s.record, []⟩ r w' := by
        by_cases hThere : ∃ o ∈ objects, o.label = label
        · rcases hFinds.found hThere with ⟨o, _, _, hAll⟩
          rcases hAll 0 s.block s.record (by decide) with
            ⟨w', hReturns, _⟩
          exact ⟨_, w', hReturns⟩
        · rcases hFinds.missing
            (fun o hMem hSame => hThere ⟨o, hMem, hSame⟩) 0
            s.block s.record (by decide) with
            ⟨objectLen, w', hReturns⟩
          exact ⟨_, w', hReturns⟩
      rcases hReturns with ⟨r, w', hReturns⟩
      have hInside := hFinds.inside _ _ _ r w' (by decide)
        hReturns
      rcases hRun 0 s.block s.record with
        ⟨w₁, hLeads, _, hShort⟩
      rcases (hLeads.returns_iff (hStable 0) (hResult 0)).mp
        hReturns with ⟨n, hLater⟩
      rcases Prog.run_log_suffix
        (readResult port 0 (objects.find? (found label)) n)
        w₁ with ⟨es, hLog⟩
      rw [hLater] at hLog
      change w'.log = _ at hLog
      rw [hLog, recordInside_append] at hInside
      exact (hShort.mp hInside.2).2
    case form =>
      intro o hFind hForm
      rcases hLabel hFind with ⟨hMem, hSame⟩
      rcases hFinds.found ⟨o, hMem, hSame⟩ with
        ⟨o', _, _, hAll⟩
      have hRange : o.value.length < 2 ^ 8 := by
        have := o.hValue
        rw [hForm] at this
        exact this
      -- Two contents of the variable give two sizes.
      have hSize : ∀ size, size < 2 ^ 16 →
          o'.value.length + 1 =
            (o.form.read size o.value.length + 1) %
              2 ^ 16 := by
        intro size hLt
        rcases hAll size s.block s.record hLt with
          ⟨w', hReturns, _⟩
        rcases hRun size s.block s.record with
          ⟨w₁, hLeads, _, _⟩
        have hLater := (hLeads.returns_iff (hStable size)
          (hResult size)).mp hReturns
        rw [hFind] at hLater
        rcases readFound_length (readResult_true hLater) with
          hZero | hLength
        · cases hZero
        · exact hLength
      have hZero := hSize 0 (by decide)
      have hOne := hSize 1 (by decide)
      rw [hForm] at hZero hOne
      simp only [LengthForm.read] at hZero hOne
      omega
    case missing =>
      intro hFind o hMem hSame
      rcases hFinds.found ⟨o, hMem, hSame⟩ with
        ⟨o', _, _, hAll⟩
      rcases hAll 0 s.block s.record (by decide) with
        ⟨w', hReturns, _⟩
      rcases hRun 0 s.block s.record with ⟨w₁, hLeads, _, _⟩
      rcases (hLeads.returns_iff (hStable 0) (hResult 0)).mp
        hReturns with ⟨n, hLater⟩
      rw [hFind] at hLater
      cases hLater
  case mpr =>
    intro hFindable
    have hValue : ∀ {o} size block record,
        objects.find? (found label) = some o →
        ∃ w',
          Prog.Returns
              (fun n => p11GetObjectByLabel port n label size)
              ⟨s.withMemory block record, []⟩
              (true, o.value.length + 1) w' ∧
            w'.st.block.load 0 o.value.length = o.value ∧
            RecordInside w'.log := by
      intro o size block record hFind
      rcases hRun size block record with
        ⟨w₁, hLeads, hThere, hInside⟩
      rcases hThere o hFind with ⟨efid, hFile, hAtFile⟩
      have hRead : o.form.read size o.value.length =
          o.value.length := by
        have hForm := hFindable.form o hFind
        cases hCase : o.form with
        | short => rfl
        | twoBytes => rfl
        | oneByte => exact absurd hCase hForm
      rcases hCard.readFound hFile hAtFile hRead with
        ⟨w', ⟨n, hFound⟩, hBytes, hSame⟩
      refine ⟨w', ?_, hBytes, ?_⟩
      · refine (hLeads.returns_iff (hStable size)
          (hResult size)).mpr ⟨n, ?_⟩
        rw [hFind]
        exact Prog.run_bind_of_run hFound
      · exact hSame.mpr (hInside.mpr ⟨hEmpty, hFindable.short⟩)
    constructor
    case found =>
      rintro ⟨o, hMem, hSame⟩
      cases hFind : objects.find? (found label) with
      | none =>
          exact absurd hSame (hFindable.missing hFind o hMem)
      | some o =>
          rcases hLabel hFind with ⟨hThere, hIs⟩
          refine ⟨o, hThere, hIs, ?_⟩
          intro size block record _
          rcases hValue size block record hFind with
            ⟨w', hReturns, hBytes, _⟩
          exact ⟨w', hReturns, hBytes⟩
    case missing =>
      intro hNone size block record _
      have hFind : objects.find? (found label) = none := by
        rw [List.find?_eq_none]
        intro o hMem hFound
        exact hNone o hMem (of_decide_eq_true hFound).1
      rcases hRun size block record with ⟨w₁, hLeads, _, _⟩
      refine ⟨0, w₁, (hLeads.returns_iff (hStable size)
        (hResult size)).mpr ⟨0, ?_⟩⟩
      rw [hFind]
      rfl
    case inside =>
      intro size block record r w' _ hReturns
      cases hFind : objects.find? (found label) with
      | none =>
          rcases hRun size block record with
            ⟨w₁, hLeads, _, hInside⟩
          rcases (hLeads.returns_iff (hStable size)
            (hResult size)).mp hReturns with ⟨n, hLater⟩
          rw [hFind] at hLater
          cases hLater
          exact hInside.mpr ⟨hEmpty, hFindable.short⟩
      | some o =>
          rcases hValue size block record hFind with
            ⟨w'', hOther, _, hInside⟩
          rw [(Prog.Returns.unique (hStable size) hReturns
            hOther).2]
          exact hInside

/-
  A directory with one record, for a public object in the
  file 3301.
-/
def oneRecord : Bytes :=
  [0x01, 0x33, 0x01, 0x00, 0x99] ++ ascii "pubdat00" ++
    [0x70, 0x31, 0x31, 0x00, 0x00, 0x00, 0x00, 0x00, 0x00]

/- An object with a length in the given form. -/
def keyObject
    (form : LengthForm)
    (value : Bytes)
    (hValue : value.length < form.bound) : P11Object where
  head := List.replicate 16 0
  label := ascii "key"
  application := []
  objectId := []
  form := form
  value := value
  rest := []
  hHead := by decide
  hLabel := by decide
  hApplication := by decide
  hObjectId := by decide
  hValue := hValue

/- A card with such a directory and object. -/
def oneObject
    (o : P11Object)
    (efid : Nat) : Option Bytes :=
  if efid = 0x0101 then some oneRecord
  else if efid = 0x3301 then some o.encode
  else none

theorem oneObject_fileCard
    {o : P11Object}
    (hShort : o.encode.length < 2 ^ 16) :
    FileCard (fileSystem (oneObject o)) (oneObject o) id := by
  apply fileSystem_fileCard
  intro efid content hFile
  unfold oneObject at hFile
  split at hFile
  · cases hFile
    decide
  · split at hFile
    · cases hFile
      exact hShort
    · cases hFile

/- An object whose value has four bytes. -/
def shortKey : P11Object :=
  keyObject .short [1, 2, 3, 4] (by decide)

/- The search on a card with that object. -/
theorem p11GetObjectByLabel_finds_iff_shortKey :
    Finds (fileSystem (oneObject shortKey)) (ascii "key")
        (directoryObjects oneRecord (fun _ => some shortKey))
        (Sys.start none) ↔
      Findable (ascii "key")
        (directoryObjects oneRecord
          (fun _ => some shortKey)) :=
  p11GetObjectByLabel_finds_iff
    (oneObject_fileCard (by decide +kernel)) rfl
    (by decide +kernel) rfl

/- An object whose value has 128 bytes. -/
def longKey : P11Object :=
  keyObject .oneByte (List.replicate 128 7) (by
    rw [List.length_replicate]
    decide)

/-
  What the variable for the size holds decides about the
  length that is reported for the value.
-/
theorem p11GetObjectByLabel_longKey :
    FileCard (fileSystem (oneObject longKey))
        (oneObject longKey) id ∧
      directoryObjects oneRecord (fun _ => some longKey) =
        [longKey] ∧
      ¬ Finds (fileSystem (oneObject longKey)) (ascii "key")
        [longKey] (Sys.start none) := by
  refine ⟨oneObject_fileCard (by decide +kernel),
    by decide +kernel, ?_⟩
  intro hFinds
  rcases hFinds.found ⟨longKey, List.mem_cons_self, rfl⟩ with
    ⟨o, hMem, _, hAll⟩
  cases List.mem_singleton.mp hMem
  rcases hAll 1 (fun _ => 0) (fun _ => 0) (by decide) with
    ⟨w', hReturns, _⟩
  have hValue :
      ((p11GetObjectByLabel (fileSystem (oneObject longKey)) 9
          (ascii "key") 1).run
        ⟨(Sys.start none).withMemory (fun _ => 0) (fun _ => 0),
          []⟩).1 =
        some (true, 385) := by
    decide +kernel
  have hSame := Prog.Returns.unique
    (p11GetObjectByLabel_stable _ _ 1) hReturns
    ⟨9, Prog.run_of_returns hValue⟩
  exact absurd hSame.1 (by decide +kernel)

end Se

end TrustOnboard
