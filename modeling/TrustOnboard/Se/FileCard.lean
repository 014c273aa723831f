import TrustOnboard.Se.Cards

/-
  Cards that hold files.

  Such a card selects the files it has, and READ BINARY gives
  what the selected file has at an offset, as many bytes as
  it is asked for if they are all there.

  Key definitions include:
    * `FileCard`
    * `AtFile`

  Key results include:
    * `FileCard.readBinary`
    * `FileCard.readRecord`
    * `FileCard.delivers`
-/

------------------------------------------------------------
-- Cards That Hold Files
------------------------------------------------------------

namespace TrustOnboard

namespace Se

variable {K : Type}

/- SELECT for a file by its two bytes. -/
def selectPath
    (port : Port K)
    (path : Bytes)
    (fuel : Nat) : Code K Bool :=
  succeeds .mias
    (Applet.transmitCase3 port fuel .mias 0x00 0xA4 0x08 0x04
      path)

/-
  A card with some files, and the file that is selected.  At
  the end of a file READ BINARY may fail or give less than it
  is asked for.
-/
structure FileCard
    (port : Port K)
    (files : Nat → Option Bytes)
    (selected : K → Option Nat) : Prop where
  small :
    ∀ efid content, files efid = some content →
      content.length < 2 ^ 16
  selects :
    ∀ hi lo w, (w.st.applets .mias).isSelected = true →
      ∃ b w', Prog.Returns (selectPath port [hi, lo]) w b w' ∧
        (b = true ↔ (files (word hi lo)).isSome) ∧
        (b = true → selected w'.st.env = some (word hi lo))
  stays :
    ∀ name offset le w b w',
      Prog.Returns (fun n => readBinary port n name offset le)
        w b w' →
      selected w'.st.env = selected w.st.env
  reads :
    ∀ name offset le w efid content,
      (w.st.applets name).isSelected = true →
      selected w.st.env = some efid →
      files efid = some content → offset < 2 ^ 16 →
      ∃ b w',
        Prog.Returns
            (fun n => readBinary port n name offset le)
            w b w' ∧
          (offset + asked le ≤ content.length → b = true) ∧
          (b = true →
            w'.st.iface.getResponse =
              (content.drop offset).take (asked le))

/- Nothing is written to the array `record` behind its end. -/
def RecordInside (log : List Event) : Prop :=
  ∀ off len, .wrote .record off len ∈ log → off + len ≤ 0x15

/-
  A file is selected, through an applet that is, and the
  memory for a file is as given.
-/
structure AtFile
    (selected : K → Option Nat)
    (efid : Nat)
    (block : Buffer)
    (w : Run K) : Prop where
  applet : (w.st.applets .mias).isSelected = true
  file : selected w.st.env = some efid
  block : w.st.block = block

end Se

end TrustOnboard

------------------------------------------------------------
-- The Array For Records
------------------------------------------------------------

namespace TrustOnboard

namespace Se

variable {K : Type}

theorem recordInside_append
    (es l : List Event) :
    RecordInside (es ++ l) ↔
      RecordInside es ∧ RecordInside l := by
  unfold RecordInside
  constructor
  · intro hAll
    constructor
    · exact fun off len hMem =>
        hAll off len (List.mem_append_left l hMem)
    · exact fun off len hMem =>
        hAll off len (List.mem_append_right es hMem)
  · rintro ⟨hLeft, hRight⟩ off len hMem
    rcases List.mem_append.mp hMem with hNew | hOld
    · exact hLeft off len hNew
    · exact hRight off len hOld

theorem NoMemory.recordInside
    {es : List Event}
    (hFree : NoMemory es) :
    RecordInside es := by
  intro off len hMem
  have hMemory := hFree _ hMem
  cases hMemory

theorem recordInside_wrote
    (off len : Nat)
    (l : List Event) :
    RecordInside (.wrote .record off len :: l) ↔
      off + len ≤ 0x15 ∧ RecordInside l := by
  rw [← List.singleton_append, recordInside_append]
  constructor
  · rintro ⟨hOne, hRest⟩
    exact ⟨hOne off len List.mem_cons_self, hRest⟩
  · rintro ⟨hOne, hRest⟩
    refine ⟨?_, hRest⟩
    intro off' len' hMem
    cases List.mem_singleton.mp hMem
    exact hOne

/- A transmission leaves the memory alone. -/
theorem Transmission.frame
    {α : Type}
    {p : Nat → Code K α}
    (hSends : Transmission p)
    {w w' : Run K}
    {a : α}
    (hReturns : Prog.Returns p w a w') :
    w'.st.applets = w.st.applets ∧
      w'.st.block = w.st.block ∧
      w'.st.record = w.st.record ∧
      (RecordInside w'.log ↔ RecordInside w.log) := by
  rcases hSends.returns hReturns with ⟨es, hLog, hSent⟩
  refine ⟨hSent.applets, hSent.block, hSent.record, ?_⟩
  rw [hLog, recordInside_append]
  exact and_iff_right hSent.events.recordInside

end Se

end TrustOnboard

------------------------------------------------------------
-- Reading Some Bytes
------------------------------------------------------------

namespace TrustOnboard

namespace Se

variable {K : Type}
variable {port : Port K}
variable {files : Nat → Option Bytes}
variable {selected : K → Option Nat}
variable {efid : Nat}
variable {content : Bytes}
variable {block : Buffer}
variable {w : Run K}

theorem selectPath_transmission
    (port : Port K)
    (path : Bytes) :
    Transmission (selectPath port path) := by
  apply Transmission.succeeds
  apply Transmission.onChannel
  intro channel
  exact (Transmission.setIface _).bind
    (fun _ => Transmission.transmit port)

/- Selecting a file, if there is one. -/
theorem FileCard.selectPath
    (hCard : FileCard port files selected)
    (hi lo : UInt8)
    (hApplet : (w.st.applets .mias).isSelected = true) :
    ∃ b w', Prog.Settles (Se.selectPath port [hi, lo]) w b w' ∧
      (b = true ↔ (files (word hi lo)).isSome) ∧
      (w'.st.applets .mias).isSelected = true ∧
      (b = true →
        AtFile selected (word hi lo) w.st.block w') ∧
      w'.st.block = w.st.block ∧
      (RecordInside w'.log ↔ RecordInside w.log) := by
  rcases hCard.selects hi lo w hApplet with
    ⟨b, w', hReturns, hThere, hSelects⟩
  have hSends := selectPath_transmission port [hi, lo]
  rcases hSends.frame hReturns with
    ⟨hApplets, hBlock, _, hInside⟩
  rw [← hApplets] at hApplet
  exact ⟨b, w', hReturns.settles hSends.stable, hThere,
    hApplet, fun hOk => ⟨hApplet, hSelects hOk, hBlock⟩,
    hBlock, hInside⟩

/- READ BINARY, inside of the file or at its end. -/
theorem FileCard.readBinary
    (hCard : FileCard port files selected)
    (hAtFile : AtFile selected efid block w)
    (hFile : files efid = some content)
    {offset : Nat}
    (hOffset : offset < 2 ^ 16)
    (le : UInt8) :
    ∃ b w',
      Prog.Settles
          (fun n => Se.readBinary port n .mias offset le) w b
          w' ∧
        AtFile selected efid block w' ∧
        w'.st.record = w.st.record ∧
        (RecordInside w'.log ↔ RecordInside w.log) ∧
        (offset + asked le ≤ content.length → b = true) ∧
        (b = true →
          w'.st.iface.getResponse =
            (content.drop offset).take (asked le)) := by
  rcases hCard.reads .mias offset le w efid content
    hAtFile.applet hAtFile.file hFile hOffset with
    ⟨b, w', hReturns, hThere, hData⟩
  have hSends := readBinary_transmission port .mias offset le
  rcases hSends.frame hReturns with
    ⟨hApplets, hBlock, hRecord, hInside⟩
  refine ⟨b, w', hReturns.settles hSends.stable, ?_, hRecord,
    hInside, hThere, hData⟩
  constructor
  case applet =>
    rw [hApplets]
    exact hAtFile.applet
  case file =>
    rw [hCard.stays _ _ _ _ _ _ hReturns]
    exact hAtFile.file
  case block => exact hBlock.trans hAtFile.block

/- The number of bytes in a response. -/
theorem getResponse_length
    (i : SEInterface) :
    i.getResponse.length = i.getResponseLength :=
  Buffer.length_load _ _ _

/-
  Reading into the array `record`: all that was asked for, or
  less of it.
-/
theorem FileCard.readRecord
    (hCard : FileCard port files selected)
    (hAtFile : AtFile selected efid block w)
    (hFile : files efid = some content)
    {offset : Nat}
    (hOffset : offset < 2 ^ 16)
    {le : UInt8}
    (hFits : asked le ≤ 0x15) :
    ∃ r w',
      Prog.Settles
          (fun n => Se.readRecord port n offset le) w r w' ∧
        AtFile selected efid block w' ∧
        (RecordInside w'.log ↔ RecordInside w.log) ∧
        (r = some (asked le) ↔
          offset + asked le ≤ content.length) ∧
        (r = some (asked le) →
          w'.st.record.load 0 (asked le) =
            (content.drop offset).take (asked le)) := by
  have hPos : 0 < asked le := by
    unfold asked
    split
    · decide
    · rename_i hNonzero
      exact Nat.pos_of_ne_zero (fun hZero =>
        hNonzero (UInt8.toNat_inj.mp hZero))
  rcases hCard.readBinary hAtFile hFile hOffset le with
    ⟨b, w₁, hRead, hAtFile₁, hRecord, hInside, hThere, hData⟩
  have hStart :=
    Prog.LeadsTo.bind hRead (fun _ (ok : Bool) =>
      if ok then do
        let bs ← Applet.getResponse .mias
        writeRecord 0 bs
        pure (some bs.length)
      else
        (pure none : Code K (Option Nat)))
  cases b with
  | false =>
      refine ⟨none, w₁, hStart, hAtFile₁, hInside, ?_, ?_⟩
      · constructor
        · exact fun hNo => by cases hNo
        · exact fun hLe => by cases hThere hLe
      · exact fun hNo => by cases hNo
  | true =>
      have hBytes := hData rfl
      have hRun :
          (do
            let bs ← Applet.getResponse .mias
            writeRecord 0 bs
            pure (some bs.length) : Code K (Option Nat)).run
              w₁ =
            (some (some w₁.st.iface.getResponse.length),
              ⟨{ w₁.st with
                record := w₁.st.record.store 0
                  w₁.st.iface.getResponse },
                .wrote .record 0
                  w₁.st.iface.getResponse.length ::
                  w₁.log⟩) := by
        simp only [Applet.getResponse, writeRecord, Prog.read,
          Prog.run_bind, Prog.run_step, hAtFile₁.applet,
          if_true, List.nil_append]
        rfl
      have hLength :
          w₁.st.iface.getResponse.length =
            min (asked le) (content.length - offset) := by
        rw [hBytes, List.length_take, List.length_drop]
      refine ⟨_, _, hStart.trans ⟨0, fun _ _ => hRun⟩, ?_, ?_,
        ?_, ?_⟩
      · exact ⟨hAtFile₁.applet, hAtFile₁.file, hAtFile₁.block⟩
      · rw [recordInside_wrote, hInside]
        exact and_iff_right (by omega)
      · rw [Option.some.injEq, hLength]
        omega
      · intro hAll
        change (w₁.st.record.store 0 _).load 0 _ = _
        rw [← hBytes, ← Option.some.inj hAll]
        exact Buffer.load_store_self _ 0 _

end Se

end TrustOnboard

------------------------------------------------------------
-- Reading A Value
------------------------------------------------------------

namespace TrustOnboard

namespace Se

variable {K : Type}
variable {port : Port K}
variable {files : Nat → Option Bytes}
variable {selected : K → Option Nat}
variable {efid : Nat}
variable {content : Bytes}

/- Two bytes stand for the number they are made from. -/
theorem word_of_efid
    {efid : Nat}
    (hRange : efid < 2 ^ 16) :
    word (.ofNat (efid / 2 ^ 8)) (.ofNat efid) = efid := by
  unfold word
  rw [UInt8.toNat_ofNat', UInt8.toNat_ofNat']
  omega

/- The bytes of a file. -/
def contentOf (content : Bytes) : Buffer :=
  fun i => content.getD i 0

theorem take_drop_contentOf
    (content : Bytes)
    (off n : Nat) :
    (content.drop off).take n =
      (contentOf content).load off
        (min n (content.length - off)) := by
  apply List.ext_getElem
  · simp
  · intro i hLeft hRight
    rw [List.length_take, List.length_drop] at hLeft
    simp only [Buffer.load, contentOf, List.getElem_take,
      List.getElem_drop, List.getElem_map,
      List.getElem_range]
    rw [List.getD_eq_getElem?_getD,
      List.getElem?_eq_getElem (by omega)]
    rfl

/- A card with files serves the one that is selected. -/
theorem FileCard.serves
    (hCard : FileCard port files selected)
    (hFile : files efid = some content) :
    Serves port (contentOf content)
      (fun k => selected k = some efid) where
  stays := by
    intro name offset le w b w' hIn hReturns
    exact (hCard.stays _ _ _ _ _ _ hReturns).trans hIn
  data := by
    intro name offset le w w' hIn hOffset hReturns
    have hApplet := readBinary_selected hReturns
    rcases hCard.reads name offset le w efid content hApplet
      hIn hFile hOffset with ⟨b, w'', hOther, _, hData⟩
    have hSame := Prog.Returns.unique
      (readBinary_transmission port name offset le).stable
      hReturns hOther
    rcases hSame with ⟨hOk, rfl⟩
    refine ⟨min (asked le) (content.length - offset),
      by omega, ?_⟩
    rw [hData hOk.symm]
    exact take_drop_contentOf content offset (asked le)

/- The chunks of a value in the file all come. -/
theorem FileCard.delivers
    (hCard : FileCard port files selected)
    (hFile : files efid = some content)
    {base size : Nat}
    (hBase : 0 < base)
    (hInside : base + size ≤ content.length)
    {s : Sys K}
    (hApplet : (s.applets .mias).isSelected = true)
    (hSelected : selected s.env = some efid) :
    ValueDelivered port base size s := by
  have hSmall := hCard.small efid content hFile
  have hAsk : ∀ i, ∀ s : Sys K,
      (s.applets .mias).isSelected = true →
      selected s.env = some efid →
      ∃ cs, Asked valueChunks port base size i s cs ∧
        Complete cs := by
    intro i
    -- Every chunk brings the end of the value nearer.
    generalize hLeft : size - i = left
    induction left using Nat.strongRecOn generalizing i with
    | ind left ih =>
        intro s hApplet hSelected
        rcases Nat.lt_or_ge i size with hLt | hDone
        · rcases chunkLen_bounds hLt with
            ⟨hPos, hByte, hFits⟩
          have hAsked :
              asked (.ofNat (chunkLen size i)) =
                chunkLen size i := by
            have hNat :
                (UInt8.ofNat (chunkLen size i)).toNat =
                  chunkLen size i := by
              rw [UInt8.toNat_ofNat']
              omega
            unfold asked
            rw [if_neg ?_, hNat]
            intro hZero
            rw [hZero] at hNat
            change 0 = _ at hNat
            omega
          have hOff : (base + i) % 2 ^ 16 = base + i := by
            omega
          rcases hCard.reads .mias ((base + i) % 2 ^ 16)
            (.ofNat (chunkLen size i)) ⟨s, []⟩ efid content
            hApplet hSelected hFile (by omega) with
            ⟨b, ⟨s', es⟩, hReturns, hThere, hData⟩
          rw [hAsked, hOff] at hThere hData
          have hOk := hThere (by omega)
          subst hOk
          have hFrame :=
            (readBinary_transmission port .mias _ _).frame
              hReturns
          have hCame :
              s'.iface.getResponseLength =
                chunkLen size i := by
            rw [← getResponse_length, hData rfl,
              List.length_take, List.length_drop]
            omega
          rcases ih (size - (i + chunkLen size i)) (by omega)
            (i + chunkLen size i) rfl s'
            (by rw [hFrame.1]; exact hApplet)
            ((hCard.stays _ _ _ _ _ _ hReturns).trans
              hSelected) with ⟨cs, hRest, hAll⟩
          refine ⟨.got i s'.iface.getResponseLength :: cs,
            .got hLt hReturns ?_, ?_⟩
          · rw [hCame]
            exact hRest
          · intro j len hMem
            rcases List.mem_cons.mp hMem with hNew | hOld
            · cases hNew
            · exact hAll j len hOld
        · refine ⟨[], .done hDone, ?_⟩
          intro j len hMem
          cases hMem
  rcases hAsk 0 s hApplet hSelected with ⟨cs, hAsked, hAll⟩
  exact ⟨cs, hAsked, hAll, by omega⟩

end Se

end TrustOnboard

------------------------------------------------------------
-- A Card That Holds Files
------------------------------------------------------------

namespace TrustOnboard

namespace Se

variable {files : Nat → Option Bytes}

theorem asked_le (le : UInt8) :
    0 < asked le ∧ asked le ≤ 256 := by
  unfold asked
  split
  · decide
  · rename_i hNonzero
    have hLt := le.toNat_lt
    have hPos : le.toNat ≠ 0 := fun hZero =>
      hNonzero (UInt8.toNat_inj.mp hZero)
    omega

/- All that was asked for, or nothing. -/
def fileReply
    (content : Bytes)
    (offset : Nat)
    (le : UInt8) : Reply :=
  if offset + asked le ≤ content.length then
    ⟨true, (content.drop offset).take (asked le) ++
        [0x90, 0x00], by
      have := (asked_le le).2
      simp only [List.length_append, List.length_take,
        List.length_cons, List.length_nil]
      omega⟩
  else
    ⟨true, [0x6B, 0x00], by decide⟩

/- A card with files; its state is the file selected. -/
def fileSystem
    (files : Nat → Option Bytes) : Port (Option Nat) where
  transmitApdu bs k :=
    match bs with
    | [_, 0xA4, _, _, _, hi, lo] =>
        if (files (word hi lo)).isSome then
          (⟨true, [0x90, 0x00], success_fits⟩, some (word hi lo))
        else
          (⟨true, [0x6A, 0x82], notFound_fits⟩, none)
    | [_, 0xB0, p1, p2, le] =>
        match k.bind files with
        | some content =>
            (fileReply content (word p1 p2) le, k)
        | none => (⟨true, [0x69, 0x86], by decide⟩, k)
    | _ => (⟨true, [0x6D, 0x00], by decide⟩, k)

/- Only a response of two bytes asks for something. -/
theorem Reply.request_of_length
    {r : Reply}
    (hLength : r.bytes.length ≠ 2) :
    r.request = .final := by
  unfold Reply.request
  split
  · rename_i hBytes
    rw [hBytes] at hLength
    exact absurd rfl hLength
  · rfl

theorem fileReply_request
    (content : Bytes)
    (offset : Nat)
    (le : UInt8) :
    (fileReply content offset le).request = .final := by
  unfold fileReply
  split
  · rename_i hInside
    have hPos := (asked_le le).1
    apply Reply.request_of_length
    simp only [List.length_append, List.length_take,
      List.length_drop, List.length_cons, List.length_nil]
    omega
  · rfl

theorem fileSystem_answersAtOnce
    (files : Nat → Option Bytes) :
    AnswersAtOnce (fileSystem files) := by
  intro bs k
  unfold fileSystem
  dsimp only
  split
  · split <;> rfl
  · split
    · exact fileReply_request _ _ _
    · rfl
  · rfl

/- Such a card is one that holds files. -/
theorem fileSystem_fileCard
    (hSmall :
      ∀ efid content, files efid = some content →
        content.length < 2 ^ 16) :
    FileCard (fileSystem files) files id where
  small := hSmall
  selects := by
    intro hi lo w hApplet
    have hRun : (selectPath (fileSystem files) [hi, lo] 1).run
        w = _ :=
      (fileSystem_answersAtOnce files).succeeds hApplet
        (fun channel =>
          [0x00 ||| channel, 0xA4, 0x08, 0x04, 0x02, hi, lo])
        (fun _ => by simp) 0 w.log
    have hWord : ∀ (i : SEInterface) (sw1 sw2 : UInt8),
        (i.receive [sw1, sw2]).getStatusWord =
          sw1.toNat * 256 + sw2.toNat :=
      fun i sw1 sw2 => (receive_data i [] sw1 sw2).1
    refine ⟨_, _, ⟨1, hRun⟩, ?_⟩
    have hReply : ∀ cla,
        (fileSystem files).transmitApdu
            [cla, 0xA4, 0x08, 0x04, 0x02, hi, lo] w.st.env =
          if (files (word hi lo)).isSome then
            (⟨true, [0x90, 0x00], success_fits⟩,
              some (word hi lo))
          else
            (⟨true, [0x6A, 0x82], notFound_fits⟩, none) :=
      fun _ => rfl
    unfold Sys.exchanged
    simp only [hReply]
    by_cases hThere : (files (word hi lo)).isSome
    · simp only [if_pos hThere, hWord]
      simp [hThere]
    · simp only [if_neg hThere, hWord]
      simp [hThere]
  stays := by
    intro name offset le w b w' hReturns
    by_cases hApplet : (w.st.applets name).isSelected = true
    · rcases ((fileSystem_answersAtOnce files).readBinary
        hApplet).mp hReturns with ⟨_, rfl⟩
      change (match w.st.env.bind files with
        | some content => (_, w.st.env)
        | none => (_, w.st.env)).2 = _
      split <;> rfl
    · rcases hReturns with ⟨n, hRun⟩
      unfold readBinary succeeds Applet.transmitCase2
        onChannel at hRun
      simp only [Prog.run_bind, Prog.read, Prog.run_step,
        if_neg hApplet] at hRun
      cases hRun
      rfl
  reads := by
    intro name offset le w efid content hApplet hSelected
      hFile hOffset
    refine ⟨_, _, ((fileSystem_answersAtOnce files).readBinary
      hApplet).mpr ⟨rfl, rfl⟩, ?_⟩
    have hWord :
        word (.ofNat (offset / 2 ^ 8)) (.ofNat offset) =
          offset := by
      unfold word
      rw [UInt8.toNat_ofNat', UInt8.toNat_ofNat']
      omega
    have hFound : w.st.env.bind files = some content := by
      change w.st.env = some efid at hSelected
      rw [hSelected]
      exact hFile
    have hReply : ∀ cla,
        (fileSystem files).transmitApdu
            [cla, 0xB0, .ofNat (offset / 2 ^ 8), .ofNat offset,
              le] w.st.env =
          (fileReply content offset le, w.st.env) := by
      intro cla
      change (match w.st.env.bind files with
        | some content => (fileReply content (word _ _) le, _)
        | none => _) = _
      rw [hFound, hWord]
    unfold Sys.exchanged
    simp only [hReply]
    unfold fileReply
    by_cases hInside : offset + asked le ≤ content.length
    · have hData := fun i => receive_data i
        ((content.drop offset).take (asked le)) 0x90 0x00
      simp only [if_pos hInside, (hData _).1, (hData _).2]
      simp
    · have hData := fun i => receive_data i [] 0x6B 0x00
      simp only [List.nil_append] at hData
      simp only [if_neg hInside, (hData _).1]
      simp [hInside]

end Se

end TrustOnboard
