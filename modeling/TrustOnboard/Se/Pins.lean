import Mathlib.Data.List.DropRight
import TrustOnboard.Se.Sending

/-
  Changing the PINs, `MIAS.cpp` and `MF.cpp`.

  Both functions put the old PIN and the new one into the
  data of one command, in two layouts.  `MF::changePin` fills
  its fields as it should.  `MIAS::changePin` copies the new
  PIN one byte too early, over the last byte of the old one.

  Key definitions include:
    * `MIAS.changePin`
    * `MF.changePin`
    * `Encodes`
    * `Unharmed`

  Key results include:
    * `changePin_encodes_iff`
-/

------------------------------------------------------------
-- The Two Functions
------------------------------------------------------------

namespace TrustOnboard

namespace Se

variable {K : Type}

/- A PIN, whose length is a `uint16_t`. -/
structure Pin where
  bytes : Bytes
  hLength : bytes.length < 2 ^ 16

/- The number of bytes of a PIN. -/
abbrev Pin.length (pin : Pin) : Nat :=
  pin.bytes.length

/-
  The array `data` of `MIAS::changePin` behind its copies.
  The first argument is what it holds before.
-/
def MIAS.pinData
    (data : Buffer)
    (oldPin newPin : Pin) : Buffer :=
  ((data.store 0 [.ofNat oldPin.length]).store 1
    oldPin.bytes).store oldPin.length newPin.bytes

/- The number of bytes that are sent of it. -/
def MIAS.pinDataLen (oldPin newPin : Pin) : Nat :=
  (1 + oldPin.length + newPin.length) % 2 ^ 16

/-
  `MIAS::changePin`.  The array has 17 bytes; lengths whose
  sum does not fit into `dataLen` pass the test, and what is
  copied then runs over the end of the array.
-/
def MIAS.changePin
    (port : Port K)
    (fuel : Nat)
    (data : Buffer)
    (oldPin newPin : Pin) : Code K Bool :=
  if 17 < MIAS.pinDataLen oldPin newPin then
    pure false
  else
    succeeds .mias
      (Applet.transmitCase3 port fuel .mias 0x80 0x24 0x00
        0x81
        ((MIAS.pinData data oldPin newPin).load 0
          (MIAS.pinDataLen oldPin newPin)))

/- The array `pinData` of `MF::changePin`. -/
def MF.pinData (oldPin newPin : Pin) : Buffer :=
  (Buffer.store (fun _ => 0xFF) 0 oldPin.bytes).store 8
    newPin.bytes

/- `MF::changePin`. -/
def MF.changePin
    (port : Port K)
    (fuel : Nat)
    (oldPin newPin : Pin) : Code K Bool :=
  if 8 < oldPin.length ∨ 8 < newPin.length then
    pure false
  else
    succeeds .mf
      (Applet.transmitCase3 port fuel .mf 0x00 0x24 0x00 0x01
        ((MF.pinData oldPin newPin).load 0 16))

end Se

end TrustOnboard

------------------------------------------------------------
-- The Layouts
------------------------------------------------------------

namespace TrustOnboard

namespace Se

variable {K : Type}

/- A length byte, the old PIN and the new one. -/
def MIAS.decodePins : Bytes → Option (Bytes × Bytes)
  | [] => none
  | len :: rest =>
      if len.toNat ≤ rest.length then
        some (rest.take len.toNat, rest.drop len.toNat)
      else none

/- A field without what it is padded with. -/
def unpad (field : Bytes) : Bytes :=
  field.rdropWhile (· == 0xFF)

/- Two fields of 8 bytes. -/
def MF.decodePins (data : Bytes) : Option (Bytes × Bytes) :=
  if data.length = 16 then
    some (unpad (data.take 8), unpad (data.drop 8))
  else none

/- The data field of a command with data. -/
def dataField (command : Bytes) : Bytes :=
  command.drop 5

/- CHANGE PIN, or whatever else has its instruction byte. -/
def isChangePin (command : Bytes) : Bool :=
  command[1]? == some 0x24

/-
  A function that changes a PIN sends the two PINs if they
  fit, so that they can be read from every CHANGE PIN it
  sends, if they are readable at all, and refuses them at
  once otherwise.  The fuel is the number of exchanges the
  card is given for the command.
-/
structure Encodes
    (name : AppletName)
    (fits readable : Prop)
    (decode : Bytes → Option (Bytes × Bytes))
    (code : Nat → Code K Bool)
    (oldPin newPin : Pin)
    (s : Sys K) : Prop where
  sends :
    fits → (s.applets name).isSelected = true →
      ∀ fuel, ∃ e ∈
          exchanges ((code (fuel + 1)).run ⟨s, []⟩).2.log,
        isChangePin e.1 = true
  exact :
    readable → ∀ fuel,
      ∀ e ∈ exchanges ((code fuel).run ⟨s, []⟩).2.log,
        isChangePin e.1 = true →
          decode (dataField e.1) =
            some (oldPin.bytes, newPin.bytes)
  refuses :
    ¬ fits →
      ∀ fuel, (code fuel).run ⟨s, []⟩ = (some false, ⟨s, []⟩)

end Se

end TrustOnboard

------------------------------------------------------------
-- Sending The Data
------------------------------------------------------------

namespace TrustOnboard

namespace Se

variable {K : Type}
variable {port : Port K}
variable {name : AppletName}
variable {data : Bytes}

/- The function that sends some data in a CHANGE PIN. -/
def changing
    (port : Port K)
    (name : AppletName)
    (cla p1 p2 : UInt8)
    (data : Bytes)
    (fuel : Nat) : Code K Bool :=
  succeeds name
    (Applet.transmitCase3 port fuel name cla 0x24 p1 p2 data)

/- It sends a chain of exchanges. -/
theorem changing_run
    (port : Port K)
    (cla p1 p2 : UInt8)
    (hShort : data.length ≤ 255)
    {s : Sys K}
    (hApplet : (s.applets name).isSelected = true)
    (fuel : Nat) :
    ∃ es answer,
      exchanges
          ((changing port name cla p1 p2 data fuel).run
            ⟨s, []⟩).2.log = es ∧
        Chain
          ([cla ||| (s.applets name).channel, 0x24, p1, p2,
            .ofNat data.length] ++ data) es answer ∧
        (0 < fuel → es ≠ []) := by
  have hSent :=
    sendOn_run port fuel
      (fun channel =>
        [cla ||| channel, 0x24, p1, p2,
          .ofNat data.length] ++ data)
      (fun channel => by
        rw [List.length_append]
        simp only [List.length_cons, List.length_nil]
        omega)
      (show ((⟨s, []⟩ : Run K).st.applets name).isSelected =
        true from hApplet)
  rcases hSent with ⟨es, answer, hSent⟩
  refine ⟨exchanges es, answer, ?_, hSent.chain, hSent.sends⟩
  unfold changing
  rw [succeeds_world]
  have hForm :
      Applet.transmitCase3 port fuel name cla 0x24 p1 p2 data =
        sendOn port fuel name (fun channel =>
          [cla ||| channel, 0x24, p1, p2,
            .ofNat data.length] ++ data) := by
    unfold Applet.transmitCase3 sendOn
    simp only [transmitCase3_eq]
  rw [hForm, hSent.log, List.append_nil]

/- An applet that is not selected sends no data. -/
theorem changing_unselected
    (port : Port K)
    (cla p1 p2 : UInt8)
    (data : Bytes)
    {s : Sys K}
    (hApplet : (s.applets name).isSelected = false)
    (fuel : Nat) :
    (changing port name cla p1 p2 data fuel).run ⟨s, []⟩ =
      (some false, ⟨s, []⟩) := by
  apply succeeds_of_false
  unfold Applet.transmitCase3 onChannel
  simp [Prog.run_bind, Prog.read, hApplet]

/-
  Data that is sent is right when it decodes to the PINs, and
  only then.
-/
theorem changing_exact_iff
    (port : Port K)
    (cla p1 p2 : UInt8)
    (hShort : data.length ≤ 255)
    (decode : Bytes → Option (Bytes × Bytes))
    (pins : Bytes × Bytes)
    {s : Sys K}
    (hApplet : (s.applets name).isSelected = true) :
    (∀ fuel, ∀ e ∈ exchanges
          ((changing port name cla p1 p2 data fuel).run
            ⟨s, []⟩).2.log,
        isChangePin e.1 = true →
          decode (dataField e.1) = some pins) ↔
      decode data = some pins := by
  constructor
  case mp =>
    intro hAll
    rcases changing_run port cla p1 p2 hShort hApplet 1 with
      ⟨es, answer, hLog, hChain, hSome⟩
    rcases hChain.head (hSome (by decide)) with
      ⟨r, rest, rfl⟩
    have hFirst := hAll 1 _ (by
      rw [hLog]
      exact List.mem_cons_self) rfl
    exact hFirst
  case mpr =>
    intro hRight fuel e hMem hChange
    rcases changing_run port cla p1 p2 hShort hApplet fuel
      with ⟨es, answer, hLog, hChain, _⟩
    rw [hLog] at hMem
    rcases (hChain.resends e hMem).cases with
      ⟨_, hData⟩ | hOther
    · unfold dataField
      rw [hData]
      exact hRight
    · rw [isChangePin, hOther] at hChange
      exact absurd hChange (by decide)

/- Something is sent, whatever it is. -/
theorem changing_sends
    (port : Port K)
    (cla p1 p2 : UInt8)
    (hShort : data.length ≤ 255)
    {s : Sys K}
    (hApplet : (s.applets name).isSelected = true)
    (fuel : Nat) :
    ∃ e ∈ exchanges
        ((changing port name cla p1 p2 data (fuel + 1)).run
          ⟨s, []⟩).2.log,
      isChangePin e.1 = true := by
  rcases changing_run port cla p1 p2 hShort hApplet (fuel + 1)
    with ⟨es, answer, hLog, hChain, hSome⟩
  rcases hChain.head (hSome (by omega)) with ⟨r, rest, rfl⟩
  rw [hLog]
  exact ⟨_, List.mem_cons_self, rfl⟩

end Se

end TrustOnboard

------------------------------------------------------------
-- What MIAS Puts Into The Data
------------------------------------------------------------

namespace TrustOnboard

namespace Se

/- The length byte and the old PIN. -/
def pinHead (oldPin : Pin) : Bytes :=
  .ofNat oldPin.length :: oldPin.bytes

/-
  The byte the new PIN is copied over: the last one of the
  old PIN, or the length byte if that is empty.
-/
def lastByte (oldPin : Pin) : UInt8 :=
  (pinHead oldPin).getLast (List.cons_ne_nil _ _)

theorem length_pinHead
    (oldPin : Pin) :
    (pinHead oldPin).length = oldPin.length + 1 :=
  rfl

theorem pinHead_split
    (oldPin : Pin) :
    pinHead oldPin =
      (pinHead oldPin).dropLast ++ [lastByte oldPin] :=
  (List.dropLast_append_getLast _).symm

/- The byte behind the new PIN. -/
def strayByte
    (data : Buffer)
    (oldPin newPin : Pin) : UInt8 :=
  if newPin.bytes = [] then lastByte oldPin
  else data (oldPin.length + newPin.length)

/- Behind the two first copies. -/
theorem load_pinHead
    (data : Buffer)
    (oldPin : Pin) :
    ((data.store 0 [.ofNat oldPin.length]).store 1
        oldPin.bytes).load 0 (1 + oldPin.length) =
      pinHead oldPin := by
  rw [Buffer.load_add, Nat.zero_add]
  have hOld := Buffer.load_store_self
    (data.store 0 [.ofNat oldPin.length]) 1 oldPin.bytes
  have hLen :
      ((data.store 0 [.ofNat oldPin.length]).store 1
        oldPin.bytes).load 0 1 =
      (data.store 0 [.ofNat oldPin.length]).load 0 1 :=
    Buffer.load_store_of_disjoint _ _ _ (Or.inl (by decide))
  have hByte := Buffer.load_store_self data 0
    [.ofNat oldPin.length]
  rw [hLen, hOld]
  exact congrArg (· ++ oldPin.bytes) hByte

/-
  The data MIAS sends: the new PIN stands where the old one
  should end, and one byte of the array behind it.
-/
theorem MIAS.load_pinData
    (data : Buffer)
    (oldPin newPin : Pin) :
    (MIAS.pinData data oldPin newPin).load 0
        (1 + oldPin.length + newPin.length) =
      (pinHead oldPin).dropLast ++
        (newPin.bytes ++ [strayByte data oldPin newPin]) := by
  have hHead := load_pinHead data oldPin
  unfold MIAS.pinData strayByte
  generalize hBase :
    (data.store 0 [.ofNat oldPin.length]).store 1
      oldPin.bytes = base at hHead ⊢
  by_cases hNone : newPin.bytes = []
  · have hStore :
        base.store oldPin.length newPin.bytes = base := by
      funext i
      rw [hNone]
      exact Buffer.store_apply_of_not_mem _ _ _ (by
        rw [List.length_nil]
        omega)
    have hCount : newPin.length = 0 := by
      unfold Pin.length
      rw [hNone]
      rfl
    rw [hStore, hCount, Nat.add_zero, hHead, if_pos hNone,
      hNone, List.nil_append]
    exact pinHead_split oldPin
  · have hPos : 0 < newPin.length :=
      List.length_pos_iff.mpr hNone
    have hParts :
        1 + oldPin.length + newPin.length =
          oldPin.length + (newPin.length + 1) := by
      omega
    have hFirst :
        base.load 0 oldPin.length =
          (pinHead oldPin).dropLast := by
      rw [← Buffer.take_load _ _
        (show oldPin.length ≤ 1 + oldPin.length by omega),
        hHead, List.dropLast_eq_take, length_pinHead,
        Nat.add_sub_cancel]
    have hLast :
        base.load (oldPin.length + newPin.length) 1 =
          [data (oldPin.length + newPin.length)] := by
      have hOld : oldPin.bytes.length = oldPin.length := rfl
      rw [← hBase, Buffer.load_store_of_disjoint _ _ _
          (Or.inr (by omega)),
        Buffer.load_store_of_disjoint _ _ _
          (Or.inr (by rw [List.length_singleton]; omega)),
        Buffer.load_succ, Buffer.load_zero]
    have hNew := Buffer.load_store_self base oldPin.length
      newPin.bytes
    rw [if_neg hNone, hParts, Buffer.load_add, Nat.zero_add,
      Buffer.load_store_of_disjoint _ _ _
        (Or.inl (by omega)), hFirst, Buffer.load_add,
      Buffer.load_store_of_disjoint _ _ _
        (Or.inr (Nat.le_refl _)), hLast]
    exact congrArg
      (fun l => (pinHead oldPin).dropLast ++ (l ++ _)) hNew

/- Data shifted by one byte is the same if all bytes are. -/
theorem append_singleton_eq_cons
    {α : Type}
    {l : List α}
    {a b : α} :
    l ++ [b] = a :: l ↔ b = a ∧ ∀ c ∈ l, c = a := by
  induction l with
  | nil => simp
  | cons c l ih =>
      rw [List.cons_append, List.cons.injEq]
      constructor
      · rintro ⟨rfl, hRest⟩
        rcases ih.mp hRest with ⟨hLast, hAll⟩
        refine ⟨hLast, ?_⟩
        intro d hd
        rcases List.mem_cons.mp hd with hHead | hTail
        · exact hHead
        · exact hAll d hTail
      · rintro ⟨hLast, hAll⟩
        have hHead := hAll c List.mem_cons_self
        subst hHead
        exact ⟨rfl, ih.mpr ⟨hLast, fun d hd =>
          hAll d (List.mem_cons_of_mem c hd)⟩⟩

/-
  The shift of the new PIN does no harm: there is none, or it
  repeats the byte it is copied over, and so does the array
  behind it.
-/
def Unharmed
    (data : Buffer)
    (oldPin newPin : Pin) : Prop :=
  newPin.bytes = [] ∨
    (∀ b ∈ newPin.bytes, b = lastByte oldPin) ∧
      data (oldPin.length + newPin.length) = lastByte oldPin

/- What is sent is what should be when no harm is done. -/
theorem MIAS.pinData_iff
    (data : Buffer)
    (oldPin newPin : Pin) :
    (MIAS.pinData data oldPin newPin).load 0
        (1 + oldPin.length + newPin.length) =
      pinHead oldPin ++ newPin.bytes ↔
    Unharmed data oldPin newPin := by
  rw [MIAS.load_pinData]
  have hSplit := pinHead_split oldPin
  have hShift :
      (pinHead oldPin).dropLast ++
          (newPin.bytes ++ [strayByte data oldPin newPin]) =
        pinHead oldPin ++ newPin.bytes ↔
      newPin.bytes ++ [strayByte data oldPin newPin] =
        lastByte oldPin :: newPin.bytes := by
    conv_lhs => rw [hSplit]
    rw [List.dropLast_concat, List.append_assoc]
    exact List.append_right_inj _
  rw [hShift, append_singleton_eq_cons]
  unfold Unharmed strayByte
  by_cases hNone : newPin.bytes = []
  · simp [hNone]
  · rw [if_neg hNone]
    simp only [hNone, false_or]
    exact and_comm

/- The layout of MIAS determines the data. -/
theorem MIAS.decodePins_iff
    {bytes : Bytes}
    {oldPin newPin : Pin}
    (hShort : oldPin.length < 2 ^ 8)
    (hLength :
      bytes.length = 1 + oldPin.length + newPin.length) :
    MIAS.decodePins bytes =
        some (oldPin.bytes, newPin.bytes) ↔
      bytes = pinHead oldPin ++ newPin.bytes := by
  have hByte :
      (UInt8.ofNat oldPin.length).toNat = oldPin.length := by
    rw [UInt8.toNat_ofNat']
    omega
  constructor
  case mp =>
    intro hDecode
    cases bytes with
    | nil => cases hDecode
    | cons len rest =>
        unfold MIAS.decodePins at hDecode
        dsimp only at hDecode
        by_cases hLe : len.toNat ≤ rest.length
        · rw [if_pos hLe] at hDecode
          have hParts := Prod.mk.inj (Option.some.inj hDecode)
          have hCount := congrArg List.length hParts.1
          rw [List.length_take] at hCount
          have hLen : len = .ofNat oldPin.length := by
            apply UInt8.toNat_inj.mp
            rw [hByte]
            change _ = oldPin.length at hCount
            omega
          unfold pinHead
          rw [← hParts.1, ← hParts.2, List.cons_append,
            List.take_append_drop, ← hLen]
        · rw [if_neg hLe] at hDecode
          cases hDecode
  case mpr =>
    rintro rfl
    have hFits :
        oldPin.length ≤
          (oldPin.bytes ++ newPin.bytes).length := by
      rw [List.length_append]
      exact Nat.le_add_right _ _
    unfold MIAS.decodePins pinHead
    simp only [List.cons_append, hByte]
    rw [if_pos hFits]
    simp

end Se

end TrustOnboard

------------------------------------------------------------
-- What MF Puts Into The Data
------------------------------------------------------------

namespace TrustOnboard

namespace Se

/- A PIN in a field of 8 bytes. -/
def pad (bs : Bytes) : Bytes :=
  bs ++ List.replicate (8 - bs.length) 0xFF

/- The PIN ends in a byte it would be padded with. -/
def EndsPadded (pin : Pin) : Prop :=
  pin.bytes.getLast? = some 0xFF

/- A field of 8 bytes all set, with bytes at its start. -/
theorem load_pad
    {buf : Buffer}
    {off : Nat}
    {bs : Bytes}
    (hFree : ∀ i < 8, buf (off + i) = 0xFF)
    (hFits : bs.length ≤ 8) :
    (buf.store off bs).load off 8 = pad bs := by
  have hParts : 8 = bs.length + (8 - bs.length) := by omega
  have hRest :
      (buf.store off bs).load (off + bs.length)
          (8 - bs.length) =
        List.replicate (8 - bs.length) 0xFF := by
    rw [Buffer.load_store_of_disjoint _ _ _
      (Or.inr (Nat.le_refl _)), List.eq_replicate_iff]
    refine ⟨Buffer.length_load _ _ _, ?_⟩
    intro b hb
    rcases List.mem_map.mp hb with ⟨i, hi, rfl⟩
    rw [List.mem_range] at hi
    rw [Nat.add_assoc]
    exact hFree (bs.length + i) (by omega)
  conv_lhs => rw [hParts]
  rw [Buffer.load_add, Buffer.load_store_self, hRest]
  rfl

theorem length_pad
    {bs : Bytes}
    (hFits : bs.length ≤ 8) :
    (pad bs).length = 8 := by
  unfold pad
  rw [List.length_append, List.length_replicate]
  omega

/- The data MF sends. -/
theorem MF.load_pinData
    {oldPin newPin : Pin}
    (hOld : oldPin.length ≤ 8)
    (hNew : newPin.length ≤ 8) :
    (MF.pinData oldPin newPin).load 0 16 =
      pad oldPin.bytes ++ pad newPin.bytes := by
  have hSecond :
      (MF.pinData oldPin newPin).load 8 8 =
        pad newPin.bytes := by
    apply load_pad _ hNew
    intro i hi
    exact Buffer.store_apply_of_not_mem _ _ _ (by
      have hCount : oldPin.bytes.length = oldPin.length := rfl
      omega)
  have hFirst :
      (MF.pinData oldPin newPin).load 0 8 =
        pad oldPin.bytes := by
    unfold MF.pinData
    rw [Buffer.load_store_of_disjoint _ _ _
      (Or.inl (by decide))]
    exact load_pad (fun _ _ => rfl) hOld
  rw [show 16 = 8 + 8 by rfl, Buffer.load_add, hFirst,
    Nat.zero_add, hSecond]

/- What is padded is found again. -/
theorem unpad_pad
    {pin : Pin}
    (hPlain : ¬ EndsPadded pin) :
    unpad (pad pin.bytes) = pin.bytes := by
  have hAll : ∀ n,
      unpad (pin.bytes ++ List.replicate n 0xFF) =
        pin.bytes := by
    intro n
    induction n with
    | zero =>
        rw [List.replicate_zero, List.append_nil]
        unfold unpad
        rw [List.rdropWhile_eq_self_iff]
        intro hSome hLast
        apply hPlain
        unfold EndsPadded
        rw [List.getLast?_eq_some_getLast hSome]
        exact congrArg some (beq_iff_eq.mp hLast)
    | succ n ih =>
        rw [List.replicate_succ', ← List.append_assoc]
        unfold unpad at ih ⊢
        rw [List.rdropWhile_concat_pos _ _ _ (by simp)]
        exact ih
  exact hAll _

/- The layout of MF gives back the PINs. -/
theorem MF.decodePins_pinData
    {oldPin newPin : Pin}
    (hOld : oldPin.length ≤ 8)
    (hNew : newPin.length ≤ 8)
    (hPlainOld : ¬ EndsPadded oldPin)
    (hPlainNew : ¬ EndsPadded newPin) :
    MF.decodePins ((MF.pinData oldPin newPin).load 0 16) =
      some (oldPin.bytes, newPin.bytes) := by
  have hField := length_pad hOld
  unfold MF.decodePins
  rw [if_pos (Buffer.length_load _ _ _),
    MF.load_pinData hOld hNew, ← hField, List.take_left,
    List.drop_left, unpad_pad hPlainOld, unpad_pad hPlainNew]

end Se

end TrustOnboard

------------------------------------------------------------
-- When PINs Are Encoded
------------------------------------------------------------

namespace TrustOnboard

namespace Se

variable {K : Type}

/- Both functions encode the PINs, or refuse them. -/
structure PinsEncoded
    (port : Port K)
    (data : Buffer)
    (oldPin newPin : Pin)
    (s : Sys K) : Prop where
  mias :
    Encodes .mias (1 + oldPin.length + newPin.length ≤ 17)
      True MIAS.decodePins
      (fun fuel =>
        MIAS.changePin port fuel data oldPin newPin)
      oldPin newPin s
  mf :
    Encodes .mf (oldPin.length ≤ 8 ∧ newPin.length ≤ 8)
      (¬ EndsPadded oldPin ∧ ¬ EndsPadded newPin)
      MF.decodePins
      (fun fuel => MF.changePin port fuel oldPin newPin)
      oldPin newPin s

/- A function that refuses PINs that do not fit. -/
theorem encodes_of_refused
    {name : AppletName}
    {fits readable : Prop}
    {decode : Bytes → Option (Bytes × Bytes)}
    {code : Nat → Code K Bool}
    {oldPin newPin : Pin}
    {s : Sys K}
    (hNot : fits → (s.applets name).isSelected = false)
    (hRun :
      ∀ fuel,
        (code fuel).run ⟨s, []⟩ = (some false, ⟨s, []⟩)) :
    Encodes name fits readable decode code oldPin newPin s
    where
  sends := by
    intro hFits hApplet
    rw [hNot hFits] at hApplet
    cases hApplet
  exact := by
    intro _ fuel e hMem
    rw [hRun] at hMem
    cases hMem
  refuses := fun _ => hRun

/- `MF::changePin` encodes all PINs. -/
theorem MF.changePin_encodes
    (port : Port K)
    (oldPin newPin : Pin)
    (s : Sys K) :
    Encodes .mf (oldPin.length ≤ 8 ∧ newPin.length ≤ 8)
      (¬ EndsPadded oldPin ∧ ¬ EndsPadded newPin)
      MF.decodePins
      (fun fuel => MF.changePin port fuel oldPin newPin)
      oldPin newPin s := by
  by_cases hFits : oldPin.length ≤ 8 ∧ newPin.length ≤ 8
  case neg =>
    apply encodes_of_refused (fun hYes => absurd hYes hFits)
    intro fuel
    unfold MF.changePin
    rw [if_pos (by omega)]
    rfl
  case pos =>
    have hCode : ∀ fuel,
        MF.changePin port fuel oldPin newPin =
          changing port .mf 0x00 0x00 0x01
            ((MF.pinData oldPin newPin).load 0 16) fuel := by
      intro fuel
      unfold MF.changePin
      rw [if_neg (by omega)]
      rfl
    have hShort :
        ((MF.pinData oldPin newPin).load 0 16).length ≤
          255 := by
      rw [Buffer.length_load]
      decide
    simp only [hCode]
    cases hApplet : (s.applets .mf).isSelected with
    | false =>
        exact encodes_of_refused (fun _ => hApplet)
          (changing_unselected _ _ _ _ _ hApplet)
    | true =>
        constructor
        case sends =>
          exact fun _ _ =>
            changing_sends _ _ _ _ hShort hApplet
        case exact =>
          intro hReadable
          exact
            (changing_exact_iff _ _ _ _ hShort _ _
              hApplet).mpr
              (MF.decodePins_pinData hFits.1 hFits.2
                hReadable.1 hReadable.2)
        case refuses => exact fun hNot => absurd hFits hNot

/-
  What MIAS is given does not meet the shift of the new PIN,
  or is refused although the sum of the lengths wraps.
-/
def Spared
    (data : Buffer)
    (oldPin newPin : Pin) : Prop :=
  if 1 + oldPin.length + newPin.length ≤ 17 then
    Unharmed data oldPin newPin
  else
    17 < MIAS.pinDataLen oldPin newPin

/- `MIAS::changePin` encodes the PINs that are spared. -/
theorem MIAS.encodes_iff
    (port : Port K)
    (data : Buffer)
    (oldPin newPin : Pin)
    {s : Sys K}
    (hApplet : (s.applets .mias).isSelected = true) :
    Encodes .mias (1 + oldPin.length + newPin.length ≤ 17)
        True MIAS.decodePins
        (fun fuel =>
          MIAS.changePin port fuel data oldPin newPin)
        oldPin newPin s ↔
      Spared data oldPin newPin := by
  unfold Spared
  have hCode :
      ¬ 17 < MIAS.pinDataLen oldPin newPin → ∀ fuel,
        MIAS.changePin port fuel data oldPin newPin =
          changing port .mias 0x80 0x00 0x81
            ((MIAS.pinData data oldPin newPin).load 0
              (MIAS.pinDataLen oldPin newPin)) fuel := by
    intro hShort fuel
    unfold MIAS.changePin
    rw [if_neg hShort]
    rfl
  have hLength :
      ¬ 17 < MIAS.pinDataLen oldPin newPin →
        ((MIAS.pinData data oldPin newPin).load 0
          (MIAS.pinDataLen oldPin newPin)).length ≤ 255 := by
    intro hShort
    rw [Buffer.length_load]
    omega
  by_cases hFits : 1 + oldPin.length + newPin.length ≤ 17
  case pos =>
    rw [if_pos hFits]
    have hLen :
        MIAS.pinDataLen oldPin newPin =
          1 + oldPin.length + newPin.length :=
      Nat.mod_eq_of_lt (by omega)
    have hShort : ¬ 17 < MIAS.pinDataLen oldPin newPin := by
      omega
    have hExact :=
      changing_exact_iff port 0x80 0x00 0x81
        (hLength hShort) MIAS.decodePins
        (oldPin.bytes, newPin.bytes) hApplet
    have hSmall : oldPin.length < 2 ^ 8 := by omega
    rw [hLen, MIAS.decodePins_iff hSmall
        (Buffer.length_load _ _ _),
      MIAS.pinData_iff] at hExact
    rw [← hExact]
    simp only [hCode hShort, hLen]
    constructor
    case mp =>
      exact fun hEncodes => hEncodes.exact trivial
    case mpr =>
      intro hRight
      rw [hLen] at hLength
      constructor
      case sends =>
        exact fun _ _ =>
          changing_sends _ _ _ _ (hLength (by omega)) hApplet
      case exact => exact fun _ => hRight
      case refuses => exact fun hNot => absurd hFits hNot
  case neg =>
    rw [if_neg hFits]
    constructor
    case mp =>
      intro hEncodes
      by_contra hShort
      have hNothing := hEncodes.refuses hFits 1
      rcases changing_sends port 0x80 0x00 0x81
        (hLength hShort) hApplet 0 with ⟨e, hMem, _⟩
      rw [hCode hShort] at hNothing
      rw [hNothing] at hMem
      cases hMem
    case mpr =>
      intro hLong
      apply encodes_of_refused (fun hYes => absurd hYes hFits)
      intro fuel
      unfold MIAS.changePin
      rw [if_pos hLong]
      rfl

/-
  The PINs are encoded, or refused, exactly if nothing can be
  sent to MIAS or the shift of the new PIN does no harm.
-/
theorem changePin_encodes_iff
    (port : Port K)
    (data : Buffer)
    (oldPin newPin : Pin)
    (s : Sys K) :
    PinsEncoded port data oldPin newPin s ↔
      (s.applets .mias).isSelected = false ∨
        Spared data oldPin newPin := by
  have hMf := MF.changePin_encodes port oldPin newPin s
  cases hApplet : (s.applets .mias).isSelected with
  | true =>
      have hMias :=
        MIAS.encodes_iff port data oldPin newPin
          hApplet
      constructor
      case mp =>
        exact fun hBoth => Or.inr (hMias.mp hBoth.mias)
      case mpr =>
        rintro (hNo | hSpared)
        · cases hNo
        · exact ⟨hMias.mpr hSpared, hMf⟩
  | false =>
      refine iff_of_true ⟨?_, hMf⟩ (Or.inl rfl)
      apply encodes_of_refused (fun _ => hApplet)
      intro fuel
      unfold MIAS.changePin
      split
      · rfl
      · exact changing_unselected _ _ _ _ _ hApplet fuel

/- A PIN of four digits. -/
def fourDigits (a b c d : UInt8) : Pin where
  bytes := [a, b, c, d]
  hLength := by simp

/-
  The PIN 1234 is to become 5678: the command has 123 in
  front of 5678, and a byte that was in memory.
-/
theorem changePin_loses_a_digit :
    ¬ PinsEncoded scripted (fun _ => 0)
      (fourDigits 0x31 0x32 0x33 0x34)
      (fourDigits 0x35 0x36 0x37 0x38)
      (Sys.start [⟨true, [0x90, 0x00], success_fits⟩]) := by
  intro hEncoded
  have hDecoded :=
    hEncoded.mias.exact trivial 1
      ([0x80, 0x24, 0x00, 0x81, 0x09, 0x04, 0x31, 0x32, 0x33,
        0x35, 0x36, 0x37, 0x38, 0x00],
        ⟨true, [0x90, 0x00], success_fits⟩)
      (by decide +kernel) (by decide)
  exact absurd hDecoded (by decide)

end Se

end TrustOnboard
