import TrustOnboard.Se.MIAS

/-
  How the readers of files take the size of a file from the
  description a SELECT comes back with.

  The loop of `getEFSize` always ends but goes past the data
  when a value does.  The loop of the MIAS readers counts in
  eight bits, with a bound from the card, and those readers
  go on when there was no size.

  Key definitions include:
    * `Tlv`
    * `Parses`
    * `Reaches`
    * `Passes`

  Key results include:
    * `fcp_parsing_iff`
-/

------------------------------------------------------------
-- What Is Expected
------------------------------------------------------------

namespace TrustOnboard

namespace Se

/- An entry of a file description. -/
structure Tlv where
  tag : UInt8
  value : Bytes

/- Tag, length and value. -/
def Tlv.encode (t : Tlv) : Bytes :=
  t.tag :: .ofNat t.value.length :: t.value

/- The bytes of a list of entries. -/
def encodeAll (tlvs : List Tlv) : Bytes :=
  tlvs.flatMap Tlv.encode

/- The response data are a description with these entries. -/
structure WellFormed
    (i : SEInterface)
    (tlvs : List Tlv) : Prop where
  bytes :
    i.getResponse =
      0x62 :: .ofNat (encodeAll tlvs).length ::
        encodeAll tlvs
  lengths : ∀ t ∈ tlvs, t.value.length < 2 ^ 8
  length : (encodeAll tlvs).length < 2 ^ 8

/- The value of the first entry with a tag. -/
def firstValue (tag : UInt8) (tlvs : List Tlv) : Option Bytes :=
  (tlvs.find? (·.tag == tag)).map (·.value)

/- The value of the last entry with a tag. -/
def lastValue (tag : UInt8) (tlvs : List Tlv) : Option Bytes :=
  firstValue tag tlvs.reverse

/- The number that two bytes stand for. -/
def bigEndian (v : Bytes) : Nat :=
  word (v.getD 0 0) (v.getD 1 0)

/- The states in which a response is looked at. -/
structure Holding
    {K : Type}
    (i : SEInterface)
    (s : Sys K) : Prop where
  iface : s.iface = i
  selected : ∀ name, (s.applets name).isSelected = true

/- With enough fuel a program returns a value. -/
def Yields
    {α : Type}
    (i : SEInterface)
    (code : (K : Type) → Port K → Nat → Code K α)
    (a : α) : Prop :=
  ∀ (K : Type) (port : Port K) (s : Sys K), Holding i s →
    ∃ least, ∀ fuel, least ≤ fuel →
      ((code K port fuel).run ⟨s, []⟩).1 = some a

/-
  What the parsing of a response has to do: end, stay inside
  the data, and yield the size if there is one.  Without a
  size the reader it belongs to fails.
-/
structure Parses
    (i : SEInterface)
    (size : (K : Type) → Nat → Code K (Option Nat))
    (reader : (K : Type) → Port K → Nat → Code K Bool)
    (value : List Tlv → Option Bytes) : Prop where
  ends : ∃ r, Yields i (fun K _ fuel => size K fuel) r
  inside :
    ∀ (K : Type) (s : Sys K) fuel off, Holding i s →
      .examined off ∈ ((size K fuel).run ⟨s, []⟩).2.log →
        off < i.getResponseLength
  found :
    ∀ tlvs v, WellFormed i tlvs → value tlvs = some v →
      v.length = 2 →
        Yields i (fun K _ fuel => size K fuel)
          (some (bigEndian v))
  missing :
    (i.getResponse.head? ≠ some 0x62 ∨
      ∃ tlvs, WellFormed i tlvs ∧ value tlvs = none) →
        Yields i (fun K _ fuel => size K fuel) none
  fails :
    Yields i (fun K _ fuel => size K fuel) none →
      Yields i reader false

/- The interface when a response has come in. -/
def SEInterface.after
    (i : SEInterface)
    (r : Reply) : SEInterface :=
  i.receive r.bytes

end Se

end TrustOnboard

------------------------------------------------------------
-- The Conditions
------------------------------------------------------------

namespace TrustOnboard

namespace Se

/-
  From `i` on, entries follow each other up to the first one
  for the size, which is inside the data, or to the end.
-/
inductive Reaches (buf : Buffer) (n : Nat) : Nat → Prop where
  | past {i : Nat}
      (hPast : n ≤ i) :
      Reaches buf n i
  | size {i : Nat}
      (hTag : buf i = 0x80)
      (hIn : i + 2 + (buf (i + 1)).toNat ≤ n) :
      Reaches buf n i
  | next {i : Nat}
      (hTag : buf i ≠ 0x80)
      (hIn : i + 1 < n)
      (hRest : Reaches buf n (i + 2 + (buf (i + 1)).toNat)) :
      Reaches buf n i

/- Where the next entry starts, in eight bits. -/
def stride (buf : Buffer) (i : Nat) : Nat :=
  (i + 2 + (buf (i + 1)).toNat) % 2 ^ 8

/-
  From `i` on, entries follow each other, in eight bits, up
  to `len`: where they start.  Each has its tag, its length
  and, for a size, two bytes of its value inside the data.
-/
inductive Passes
    (buf : Buffer)
    (n len : Nat) :
    Nat → List Nat → Prop where
  | past {i : Nat}
      (hPast : len ≤ i) :
      Passes buf n len i []
  | entry {i : Nat} {is : List Nat}
      (hLt : i < len)
      (hIn : i + 1 < n)
      (hSize : buf i = tagFileSize → i + 3 < n)
      (hRest : Passes buf n len (stride buf i) is) :
      Passes buf n len i (i :: is)

/- The entries of a response end properly and have a size. -/
def PassesSize (i : SEInterface) : Prop :=
  ∃ is,
    Passes i.apduResponse i.getResponseLength
      (((i.apduResponse 1).toNat + 2) % 2 ^ 8) 2 is ∧
      ∃ j ∈ is, i.apduResponse j = tagFileSize

/- The condition for `getEFSize`. -/
def EFSizeInside (i : SEInterface) : Prop :=
  0 < i.getResponseLength ∧
    (i.apduResponse 0 = 0x62 →
      Reaches i.apduResponse i.getResponseLength 2)

/- The condition for the loop of `listKeyPairs`. -/
def ContainersSized (i : SEInterface) : Prop :=
  i.getResponseLength ≤ 2 ∨ i.apduResponse 0 ≠ 0x62 ∨
    PassesSize i

/- The condition for `getCertificateByContainerId`. -/
def CertificateSized (i : SEInterface) : Prop :=
  i.apduResponse 0 = 0x62 ∧ PassesSize i

end Se

end TrustOnboard

------------------------------------------------------------
-- Rounds Of The Loops
------------------------------------------------------------

namespace TrustOnboard

namespace Se

variable {K : Type}

/- What has been looked at is inside the data. -/
def Within (n : Nat) (log : List Event) : Prop :=
  ∀ off, .examined off ∈ log → off < n

theorem within_nil {n : Nat} : Within n [] := by
  intro off hMem
  cases hMem

theorem within_cons
    {n off : Nat}
    {log : List Event} :
    Within n (.examined off :: log) ↔ off < n ∧ Within n log := by
  simp [Within]

/- The number `l` bytes stand for, in sixteen bits. -/
def valueOf (buf : Buffer) (l i size : Nat) : Nat :=
  match l with
  | 0 => size
  | l + 1 =>
      valueOf buf l ((i + 1) % 2 ^ 16)
        ((size * 2 ^ 8 + (buf i).toNat) % 2 ^ 16)

/- The bytes of a value are looked at one after the other. -/
theorem run_efSizeValue
    (l i size : Nat)
    (hEnd : i + l < 2 ^ 16)
    (s : Sys K)
    (log : List Event) :
    ∃ es,
      (efSizeValue l i size).run ⟨s, log⟩ =
          (some (valueOf s.iface.apduResponse l i size),
            ⟨s, es ++ log⟩) ∧
        (∀ n, Within n (es ++ log) ↔
          (0 < l → i + l ≤ n) ∧ Within n log) := by
  induction l generalizing i size log with
  | zero =>
      refine ⟨[], rfl, ?_⟩
      intro n
      simp
  | succ l ih =>
      have hNext : (i + 1) % 2 ^ 16 = i + 1 := by omega
      rcases ih ((i + 1) % 2 ^ 16)
        ((size * 2 ^ 8 + (s.iface.apduResponse i).toNat) %
          2 ^ 16) (by omega) (.examined i :: log) with
        ⟨es, hRun, hWithin⟩
      refine ⟨es ++ [.examined i], ?_, ?_⟩
      · rw [List.append_assoc]
        exact hRun
      · intro n
        rw [List.append_assoc]
        change Within n (es ++ .examined i :: log) ↔ _
        rw [hWithin, within_cons, hNext]
        constructor
        · rintro ⟨hTail, hHead, hLog⟩
          refine ⟨fun _ => ?_, hLog⟩
          rcases Nat.eq_zero_or_pos l with hZero | hPos
          · omega
          · have := hTail hPos
            omega
        · rintro ⟨hAll, hLog⟩
          have := hAll (by omega)
          exact ⟨fun _ => by omega, by omega, hLog⟩

/- A round of the loop of `getEFSize`. -/
theorem run_efSizeLoop
    (fuel n i : Nat)
    (s : Sys K)
    (log : List Event) :
    (efSizeLoop (fuel + 1) n i).run ⟨s, log⟩ =
      if i < n then
        let b := s.iface.apduResponse ((i + 1) % 2 ^ 16)
        let log' :=
          .examined ((i + 1) % 2 ^ 16) :: .examined i :: log
        if s.iface.apduResponse i = 0x80 then
          (efSizeValue b.toNat ((i + 2) % 2 ^ 16) 0 >>=
            fun size => pure (some size)).run ⟨s, log'⟩
        else
          (efSizeLoop fuel n
            ((i + 2 + b.toNat) % 2 ^ 16)).run ⟨s, log'⟩
      else (some none, ⟨s, log⟩) := by
  conv_lhs => unfold efSizeLoop
  rw [Prog.loop_succ, Prog.run_bind]
  by_cases hLt : i < n
  · rw [if_pos hLt, if_pos hLt]
    by_cases hTag : s.iface.apduResponse i = 0x80
    · simp only [Prog.run_bind, examine, Prog.run_step,
        List.cons_append, List.nil_append]
      rw [if_pos hTag, if_pos hTag]
      simp only [Prog.run_bind]
      cases hValue : (efSizeValue
        (s.iface.apduResponse ((i + 1) % 2 ^ 16)).toNat
        ((i + 2) % 2 ^ 16) 0).run
          ⟨s, .examined ((i + 1) % 2 ^ 16) ::
            .examined i :: log⟩ with
      | mk r w =>
          cases r with
          | none => rfl
          | some r => rfl
    · simp only [Prog.run_bind, examine, Prog.run_step,
        List.cons_append, List.nil_append]
      rw [if_neg hTag, if_neg hTag]
      rfl
  · rw [if_neg hLt, if_neg hLt]
    rfl

/- A round of the loop of the MIAS readers. -/
theorem run_fileSizeLoop
    (fuel len : Nat)
    (v : FcpLocals)
    (s : Sys K)
    (log : List Event) :
    (fileSizeLoop (fuel + 1) len v).run ⟨s, log⟩ =
      if v.i < len then
        let buf := s.iface.apduResponse
        let log' := .examined (v.i + 1) :: .examined v.i :: log
        if buf v.i = tagFileSize then
          (fileSizeLoop fuel len
            { i := stride buf v.i
              size := some (word (buf (v.i + 2))
                (buf (v.i + 3))) }).run
            ⟨s, .examined (v.i + 3) :: .examined (v.i + 2) ::
              log'⟩
        else
          (fileSizeLoop fuel len
            { v with i := stride buf v.i }).run ⟨s, log'⟩
      else (some v.size, ⟨s, log⟩) := by
  conv_lhs => unfold fileSizeLoop
  rw [Prog.loop_succ, Prog.run_bind]
  by_cases hLt : v.i < len
  · rw [if_pos hLt, if_pos hLt]
    by_cases hTag : s.iface.apduResponse v.i = tagFileSize
    · simp only [Prog.run_bind, examine, Prog.run_step,
        List.cons_append, List.nil_append]
      rw [if_pos hTag, if_pos hTag]
      rfl
    · simp only [Prog.run_bind, examine, Prog.run_step,
        List.cons_append, List.nil_append]
      rw [if_neg hTag, if_neg hTag]
      rfl
  · rw [if_neg hLt, if_neg hLt]
    rfl

end Se

end TrustOnboard

------------------------------------------------------------
-- Entries In The Response Array
------------------------------------------------------------

namespace TrustOnboard

namespace Se

variable {buf : Buffer}

/- The first of the entries that start at an offset. -/
structure EntryAt
    (buf : Buffer)
    (i : Nat)
    (t : Tlv)
    (ts : List Tlv) : Prop where
  tag : buf i = t.tag
  length : (buf (i + 1)).toNat = t.value.length
  value : buf.load (i + 2) t.value.length = t.value
  rest :
    buf.load (i + 2 + t.value.length) (encodeAll ts).length =
      encodeAll ts

theorem loadEntry
    {i : Nat}
    {t : Tlv}
    {ts : List Tlv}
    (hLoad :
      buf.load i (encodeAll (t :: ts)).length =
        encodeAll (t :: ts)) :
    buf.load i t.encode.length = t.encode ∧
      buf.load (i + t.encode.length) (encodeAll ts).length =
        encodeAll ts :=
  Buffer.load_append hLoad

theorem entryAt
    {i : Nat}
    {t : Tlv}
    {ts : List Tlv}
    (hLoad :
      buf.load i (encodeAll (t :: ts)).length =
        encodeAll (t :: ts))
    (hLen : t.value.length < 2 ^ 8) :
    EntryAt buf i t ts := by
  have hParts := loadEntry hLoad
  have hEntry := hParts.1
  have hSize : t.encode.length = t.value.length + 1 + 1 := rfl
  rw [hSize, Buffer.load_succ, Buffer.load_succ] at hEntry
  have hFirst := List.cons.inj hEntry
  have hSecond := List.cons.inj hFirst.2
  constructor
  case tag => exact hFirst.1
  case length =>
    rw [hSecond.1]
    simp only [UInt8.toNat_ofNat']
    omega
  case value => exact hSecond.2
  case rest =>
    have hRest := hParts.2
    rw [hSize] at hRest
    have hOff :
        i + (t.value.length + 1 + 1) =
          i + 2 + t.value.length := by
      omega
    rwa [hOff] at hRest

/- The number in a value of two bytes. -/
theorem EntryAt.bigEndian
    {i : Nat}
    {t : Tlv}
    {ts : List Tlv}
    (hEntry : EntryAt buf i t ts)
    (hTwo : t.value.length = 2) :
    word (buf (i + 2)) (buf (i + 3)) = bigEndian t.value := by
  have hValue := hEntry.value
  rw [hTwo] at hValue
  rw [← hValue]
  rfl

/- What a description looks like in the array. -/
theorem WellFormed.inArray
    {i : SEInterface}
    {tlvs : List Tlv}
    (hWell : WellFormed i tlvs) :
    i.getResponseLength = 2 + (encodeAll tlvs).length ∧
      i.apduResponse 0 = 0x62 ∧
      (i.apduResponse 1).toNat = (encodeAll tlvs).length ∧
      i.apduResponse.load 2 (encodeAll tlvs).length =
        encodeAll tlvs := by
  have hBytes := hWell.bytes
  have hLen :
      i.getResponseLength = (encodeAll tlvs).length + 1 + 1 :=
    by
      have hLength := congrArg List.length hBytes
      simpa [SEInterface.getResponse] using hLength
  unfold SEInterface.getResponse at hBytes
  rw [hLen, Buffer.load_succ, Buffer.load_succ] at hBytes
  have hFirst := List.cons.inj hBytes
  have hSecond := List.cons.inj hFirst.2
  refine ⟨by omega, hFirst.1, ?_, hSecond.2⟩
  have hByte := hSecond.1
  rw [Nat.zero_add] at hByte
  rw [hByte]
  have hFits := hWell.length
  simp only [UInt8.toNat_ofNat']
  omega

theorem firstValue_cons
    (tag : UInt8)
    (t : Tlv)
    (ts : List Tlv) :
    firstValue tag (t :: ts) =
      if t.tag = tag then some t.value
      else firstValue tag ts := by
  unfold firstValue
  rw [List.find?_cons]
  by_cases hTag : t.tag = tag
  · rw [beq_iff_eq.mpr hTag, if_pos hTag]
    rfl
  · rw [beq_eq_false_iff_ne.mpr hTag, if_neg hTag]

theorem lastValue_cons
    (tag : UInt8)
    (t : Tlv)
    (ts : List Tlv) :
    lastValue tag (t :: ts) =
      (lastValue tag ts).or
        (if t.tag = tag then some t.value else none) := by
  unfold lastValue firstValue
  rw [List.reverse_cons, List.find?_append]
  cases hFind : ts.reverse.find? (·.tag == tag) with
  | some e => rfl
  | none =>
      by_cases hTag : t.tag = tag
      · simp [hTag]
      · simp [hTag]

end Se

end TrustOnboard

------------------------------------------------------------
-- The Loop Of The Elementary Files
------------------------------------------------------------

namespace TrustOnboard

namespace Se

variable {K : Type}
variable {buf : Buffer}
variable {n : Nat}

/- A round of the loop at an entry, as one equation. -/
theorem run_efSizeLoop_at
    {i : Nat}
    (hLt : i < n)
    (hBound : n ≤ 2 ^ 8)
    (fuel : Nat)
    (s : Sys K)
    (log : List Event) :
    let l := (s.iface.apduResponse (i + 1)).toNat
    (s.iface.apduResponse i = 0x80 →
      ∃ es,
        (efSizeLoop (fuel + 1) n i).run ⟨s, log⟩ =
            (some (some
              (valueOf s.iface.apduResponse l (i + 2) 0)),
              ⟨s, es ++ log⟩) ∧
          (∀ m, Within m (es ++ log) ↔
            (i + 2 + l ≤ m ∧ i + 1 < m) ∧ Within m log)) ∧
    (s.iface.apduResponse i ≠ 0x80 →
      (efSizeLoop (fuel + 1) n i).run ⟨s, log⟩ =
        (efSizeLoop fuel n (i + 2 + l)).run
          ⟨s, .examined (i + 1) :: .examined i :: log⟩) := by
  have hOne : (i + 1) % 2 ^ 16 = i + 1 := by omega
  have hTwo : (i + 2) % 2 ^ 16 = i + 2 := by omega
  have hByte := (s.iface.apduResponse (i + 1)).toNat_lt
  have hNext :
      (i + 2 + (s.iface.apduResponse (i + 1)).toNat) %
          2 ^ 16 =
        i + 2 + (s.iface.apduResponse (i + 1)).toNat := by
    omega
  rw [run_efSizeLoop, if_pos hLt]
  simp only [hOne, hTwo, hNext]
  constructor
  · intro hTag
    rw [if_pos hTag, Prog.run_bind]
    rcases run_efSizeValue
      (s.iface.apduResponse (i + 1)).toNat (i + 2) 0
      (by omega) s (.examined (i + 1) :: .examined i :: log)
      with ⟨es, hRun, hWithin⟩
    rw [hRun]
    refine ⟨es ++ [.examined (i + 1), .examined i], ?_, ?_⟩
    · rw [List.append_assoc]
      rfl
    · intro m
      rw [List.append_assoc]
      change Within m
        (es ++ .examined (i + 1) :: .examined i :: log) ↔ _
      rw [hWithin, within_cons, within_cons]
      constructor
      · rintro ⟨hValue, hOff, hTagIn, hLog⟩
        refine ⟨⟨?_, hOff⟩, hLog⟩
        rcases Nat.eq_zero_or_pos
          (s.iface.apduResponse (i + 1)).toNat with hZ | hPos
        · omega
        · exact hValue hPos
      · rintro ⟨⟨hValue, hOff⟩, hLog⟩
        exact ⟨fun _ => hValue, hOff, by omega, hLog⟩
  · intro hTag
    rw [if_neg hTag]

/- The loop always ends. -/
theorem efSizeLoop_ends
    (buf : Buffer)
    (hBound : n ≤ 2 ^ 8)
    (i : Nat) :
    ∃ r, ∀ (K : Type) (s : Sys K) (fuel : Nat) log,
      s.iface.apduResponse = buf → n - i < fuel →
        ((efSizeLoop fuel n i).run ⟨s, log⟩).1 = some r := by
  induction hLeft : n - i using Nat.strongRecOn
    generalizing i with
  | ind k ih =>
      by_cases hLt : i < n
      · by_cases hTag : buf i = 0x80
        · refine ⟨some
            (valueOf buf (buf (i + 1)).toNat (i + 2) 0), ?_⟩
          intro K s fuel log hBuf hFuel
          subst hBuf
          obtain ⟨f, rfl⟩ :=
            Nat.exists_eq_succ_of_ne_zero
              (show fuel ≠ 0 by omega)
          rcases (run_efSizeLoop_at hLt hBound f s log).1
            hTag with ⟨es, hRun, _⟩
          rw [hRun]
        · rcases ih (n - (i + 2 + (buf (i + 1)).toNat))
            (by omega) (i + 2 + (buf (i + 1)).toNat) rfl with
            ⟨r, hRest⟩
          refine ⟨r, ?_⟩
          intro K s fuel log hBuf hFuel
          subst hBuf
          obtain ⟨f, rfl⟩ :=
            Nat.exists_eq_succ_of_ne_zero
              (show fuel ≠ 0 by omega)
          rw [(run_efSizeLoop_at hLt hBound f s log).2 hTag]
          exact hRest K s f _ rfl (by omega)
      · refine ⟨none, ?_⟩
        intro K s fuel log hBuf hFuel
        obtain ⟨f, rfl⟩ :=
          Nat.exists_eq_succ_of_ne_zero
            (show fuel ≠ 0 by omega)
        rw [run_efSizeLoop, if_neg hLt]

/- Entries that are inside are all that is looked at. -/
theorem Reaches.within
    {i : Nat}
    (hReaches : Reaches buf n i)
    (hBound : n ≤ 2 ^ 8)
    (fuel : Nat)
    {s : Sys K}
    (hBuf : s.iface.apduResponse = buf)
    {log : List Event}
    (hLog : Within n log) :
    Within n ((efSizeLoop fuel n i).run ⟨s, log⟩).2.log := by
  induction hReaches generalizing fuel log with
  | past hPast =>
      cases fuel with
      | zero => exact hLog
      | succ fuel =>
          rw [run_efSizeLoop, if_neg (by omega)]
          exact hLog
  | size hTag hIn =>
      cases fuel with
      | zero => exact hLog
      | succ fuel =>
          subst hBuf
          rcases (run_efSizeLoop_at (by omega) hBound fuel s
            log).1 hTag with ⟨es, hRun, hWithin⟩
          rw [hRun, hWithin]
          exact ⟨⟨hIn, by omega⟩, hLog⟩
  | next hTag hIn hRest ih =>
      cases fuel with
      | zero => exact hLog
      | succ fuel =>
          subst hBuf
          rw [(run_efSizeLoop_at (by omega) hBound fuel s
            log).2 hTag]
          apply ih
          rw [within_cons, within_cons]
          exact ⟨hIn, by omega, hLog⟩

/- The loop stays inside only if the entries do. -/
theorem reaches_of_within
    (hBound : n ≤ 2 ^ 8)
    (i : Nat)
    {s : Sys K}
    (log : List Event)
    (hWithin : ∀ fuel,
      Within n
        ((efSizeLoop fuel n i).run ⟨s, log⟩).2.log) :
    Reaches s.iface.apduResponse n i := by
  induction hLeft : n - i using Nat.strongRecOn
    generalizing i log with
  | ind k ih =>
      by_cases hLt : i < n
      · have hLog : Within n log := hWithin 0
        by_cases hTag : s.iface.apduResponse i = 0x80
        · have hRound := hWithin 1
          rcases (run_efSizeLoop_at hLt hBound 0 s log).1 hTag
            with ⟨es, hRun, hIff⟩
          rw [hRun, hIff] at hRound
          exact .size hTag hRound.1.1
        · have hTail : ∀ fuel, Within n
              ((efSizeLoop fuel n
                (i + 2 +
                  (s.iface.apduResponse (i + 1)).toNat)).run
                ⟨s, .examined (i + 1) :: .examined i ::
                  log⟩).2.log := by
            intro fuel
            rw [← (run_efSizeLoop_at hLt hBound fuel s log).2
              hTag]
            exact hWithin (fuel + 1)
          have hIn := hTail 0
          rw [show ((efSizeLoop 0 n _).run ⟨s, _⟩).2.log =
            .examined (i + 1) :: .examined i :: log from rfl,
            within_cons] at hIn
          exact .next hTag hIn.1
            (ih _ (by omega) _ _ hTail rfl)
      · exact .past (by omega)

/- What the loop finds among the entries of a description. -/
theorem efSizeLoop_entries
    (hBound : n ≤ 2 ^ 8)
    (tlvs : List Tlv)
    (hLengths : ∀ t ∈ tlvs, t.value.length < 2 ^ 8)
    {i : Nat}
    {s : Sys K}
    (hLoad :
      s.iface.apduResponse.load i (encodeAll tlvs).length =
        encodeAll tlvs)
    (hEnd : i + (encodeAll tlvs).length = n)
    {fuel : Nat}
    (hFuel : tlvs.length < fuel)
    (log : List Event) :
    ∃ r, ((efSizeLoop fuel n i).run ⟨s, log⟩).1 = some r ∧
      (firstValue 0x80 tlvs = none → r = none) ∧
      (∀ v, firstValue 0x80 tlvs = some v → v.length = 2 →
        r = some (bigEndian v)) := by
  induction tlvs generalizing i fuel log with
  | nil =>
      obtain ⟨f, rfl⟩ :=
        Nat.exists_eq_succ_of_ne_zero (show fuel ≠ 0 by omega)
      have hPast : ¬ i < n := by
        change i + 0 = n at hEnd
        omega
      rw [run_efSizeLoop, if_neg hPast]
      exact ⟨none, rfl, fun _ => rfl, fun v hNo => by cases hNo⟩
  | cons t ts ih =>
      obtain ⟨f, rfl⟩ :=
        Nat.exists_eq_succ_of_ne_zero (show fuel ≠ 0 by omega)
      have hEntry := entryAt hLoad (hLengths t (by simp))
      have hSize :
          (encodeAll (t :: ts)).length =
            t.value.length + 2 + (encodeAll ts).length := by
        simp only [encodeAll, List.flatMap_cons, Tlv.encode,
          List.length_append, List.length_cons]
      have hLt : i < n := by omega
      have hRound := run_efSizeLoop_at hLt hBound f s log
      rw [firstValue_cons]
      by_cases hTag : t.tag = 0x80
      · rcases hRound.1 (hEntry.tag.trans hTag) with
          ⟨es, hRun, _⟩
        rw [hRun, if_pos hTag]
        refine ⟨_, rfl, (fun hNo => by cases hNo), ?_⟩
        intro v hValue hTwo
        cases hValue
        rw [hEntry.length, hTwo, ← hEntry.bigEndian hTwo]
        have hHigh := (s.iface.apduResponse (i + 2)).toNat_lt
        have hLow := (s.iface.apduResponse (i + 3)).toNat_lt
        have hOff : (i + 2 + 1) % 2 ^ 16 = i + 3 := by omega
        simp only [valueOf, word, hOff, Option.some.injEq]
        omega
      · rw [hRound.2 (by rw [hEntry.tag]; exact hTag),
          if_neg hTag, hEntry.length]
        refine ih
          (fun e he => hLengths e (List.mem_cons_of_mem t he))
          hEntry.rest ?_ ?_ _
        · omega
        · rw [List.length_cons] at hFuel
          omega

end Se

end TrustOnboard

------------------------------------------------------------
-- The Loop Of The Key Containers
------------------------------------------------------------

namespace TrustOnboard

namespace Se

variable {K : Type}
variable {buf : Buffer}
variable {n len : Nat}

/- The size after an entry. -/
def sizeAt
    (buf : Buffer)
    (size : Option Nat)
    (i : Nat) : Option Nat :=
  if buf i = tagFileSize then
    some (word (buf (i + 2)) (buf (i + 3)))
  else size

/- The size after entries that start at these offsets. -/
def sizeAfter
    (buf : Buffer)
    (size : Option Nat)
    (is : List Nat) : Option Nat :=
  is.foldl (sizeAt buf) size

/- A size that was there or is met stays. -/
theorem sizeAfter_isSome
    {size : Option Nat}
    {is : List Nat} :
    (sizeAfter buf size is).isSome = true ↔
      size.isSome = true ∨ ∃ j ∈ is, buf j = tagFileSize := by
  induction is generalizing size with
  | nil => simp [sizeAfter]
  | cons j js ih =>
      change (sizeAfter buf (sizeAt buf size j) js).isSome =
        true ↔ _
      rw [ih]
      by_cases hTag : buf j = tagFileSize
      · simp [sizeAt, hTag]
      · simp [sizeAt, hTag]

/- A round of the loop at an entry. -/
theorem run_fileSizeLoop_at
    {v : FcpLocals}
    (hLt : v.i < len)
    (fuel : Nat)
    (s : Sys K)
    (log : List Event) :
    ∃ es,
      (fileSizeLoop (fuel + 1) len v).run ⟨s, log⟩ =
          (fileSizeLoop fuel len
            { i := stride s.iface.apduResponse v.i
              size := sizeAt s.iface.apduResponse v.size
                v.i }).run ⟨s, es ++ log⟩ ∧
        (∀ m, Within m (es ++ log) ↔
          (v.i + 1 < m ∧
            (s.iface.apduResponse v.i = tagFileSize →
              v.i + 3 < m)) ∧ Within m log) := by
  rw [run_fileSizeLoop, if_pos hLt]
  by_cases hTag : s.iface.apduResponse v.i = tagFileSize
  · refine ⟨[.examined (v.i + 3), .examined (v.i + 2),
      .examined (v.i + 1), .examined v.i], ?_, ?_⟩
    · simp only [sizeAt]
      rw [if_pos hTag, if_pos hTag]
      rfl
    · intro m
      simp only [List.cons_append, List.nil_append,
        within_cons]
      constructor
      · rintro ⟨hFour, _, hTwo, _, hLog⟩
        exact ⟨⟨hTwo, fun _ => hFour⟩, hLog⟩
      · rintro ⟨⟨_, hFour⟩, hLog⟩
        have := hFour hTag
        exact ⟨this, by omega, by omega, by omega, hLog⟩
  · refine ⟨[.examined (v.i + 1), .examined v.i], ?_, ?_⟩
    · simp only [sizeAt]
      rw [if_neg hTag, if_neg hTag]
      rfl
    · intro m
      simp only [List.cons_append, List.nil_append,
        within_cons]
      constructor
      · rintro ⟨hTwo, _, hLog⟩
        exact ⟨⟨hTwo, fun hNo => absurd hNo hTag⟩, hLog⟩
      · rintro ⟨⟨hTwo, _⟩, hLog⟩
        exact ⟨hTwo, by omega, hLog⟩

/- What the loop does with entries that end properly. -/
theorem Passes.run
    {v : FcpLocals}
    {is : List Nat}
    (hPasses : Passes buf n len v.i is)
    (fuel : Nat)
    {s : Sys K}
    (hBuf : s.iface.apduResponse = buf)
    {log : List Event}
    (hLog : Within n log) :
    Within n
        ((fileSizeLoop fuel len v).run ⟨s, log⟩).2.log ∧
      (is.length < fuel →
        ((fileSizeLoop fuel len v).run ⟨s, log⟩).1 =
          some (sizeAfter buf v.size is)) := by
  generalize hAt : v.i = i at hPasses
  induction hPasses generalizing fuel log v with
  | past hPast =>
      cases fuel with
      | zero => exact ⟨hLog, fun hNo => by omega⟩
      | succ fuel =>
          rw [run_fileSizeLoop, if_neg (by omega)]
          exact ⟨hLog, fun _ => rfl⟩
  | entry hLt hIn hSize hRest ih =>
      cases fuel with
      | zero => exact ⟨hLog, fun hNo => by omega⟩
      | succ fuel =>
          subst hAt hBuf
          rcases run_fileSizeLoop_at hLt fuel s log with
            ⟨es, hRun, hIff⟩
          rw [hRun]
          have hNext :=
            ih
              (v := { i := stride s.iface.apduResponse v.i
                      size := sizeAt s.iface.apduResponse
                        v.size v.i })
              fuel ((hIff n).mpr ⟨⟨hIn, hSize⟩, hLog⟩) rfl
          refine ⟨hNext.1, fun hFuel => hNext.2 ?_⟩
          rw [List.length_cons] at hFuel
          omega

/- A loop that ends inside has passed proper entries. -/
theorem passes_of_run
    (fuel : Nat)
    {v : FcpLocals}
    {s : Sys K}
    {log : List Event}
    {r : Option Nat}
    (hEnds :
      ((fileSizeLoop fuel len v).run ⟨s, log⟩).1 = some r)
    (hWithin :
      Within n
        ((fileSizeLoop fuel len v).run ⟨s, log⟩).2.log) :
    ∃ is, Passes s.iface.apduResponse n len v.i is ∧
      r = sizeAfter s.iface.apduResponse v.size is := by
  induction fuel generalizing v log with
  | zero => cases hEnds
  | succ fuel ih =>
      by_cases hLt : v.i < len
      · rcases run_fileSizeLoop_at hLt fuel s log with
          ⟨es, hRun, hIff⟩
        rw [hRun] at hEnds hWithin
        rcases ih hEnds hWithin with ⟨is, hPasses, hSize⟩
        refine ⟨v.i :: is, ?_, hSize⟩
        have hSoFar : Within n (es ++ log) := by
          intro off hMem
          apply hWithin
          rcases Prog.run_log_suffix
            (fileSizeLoop fuel len
              { i := stride s.iface.apduResponse v.i
                size := sizeAt s.iface.apduResponse v.size
                  v.i })
            ⟨s, es ++ log⟩ with ⟨later, hLater⟩
          rw [hLater]
          exact List.mem_append_right later hMem
        have hHere := ((hIff n).mp hSoFar).1
        exact .entry hLt hHere.1 hHere.2 hPasses
      · rw [run_fileSizeLoop, if_neg hLt] at hEnds
        cases hEnds
        exact ⟨[], .past (by omega), rfl⟩

/- What the loop finds among the entries of a description. -/
theorem fileSizeLoop_entries
    (hBound : len < 2 ^ 8)
    (tlvs : List Tlv)
    (hLengths : ∀ t ∈ tlvs, t.value.length < 2 ^ 8)
    {v : FcpLocals}
    {s : Sys K}
    (hLoad :
      s.iface.apduResponse.load v.i (encodeAll tlvs).length =
        encodeAll tlvs)
    (hEnd : v.i + (encodeAll tlvs).length = len)
    {fuel : Nat}
    (hFuel : tlvs.length < fuel)
    (log : List Event) :
    ∃ r, ((fileSizeLoop fuel len v).run ⟨s, log⟩).1 = some r ∧
      (lastValue tagFileSize tlvs = none → r = v.size) ∧
      (∀ value, lastValue tagFileSize tlvs = some value →
        value.length = 2 → r = some (bigEndian value)) := by
  induction tlvs generalizing v fuel log with
  | nil =>
      obtain ⟨f, rfl⟩ :=
        Nat.exists_eq_succ_of_ne_zero (show fuel ≠ 0 by omega)
      have hPast : ¬ v.i < len := by
        change v.i + 0 = len at hEnd
        omega
      rw [run_fileSizeLoop, if_neg hPast]
      exact ⟨v.size, rfl, fun _ => rfl,
        fun v hNo => by cases hNo⟩
  | cons t ts ih =>
      obtain ⟨f, rfl⟩ :=
        Nat.exists_eq_succ_of_ne_zero (show fuel ≠ 0 by omega)
      have hEntry := entryAt hLoad (hLengths t (by simp))
      have hSize :
          (encodeAll (t :: ts)).length =
            t.value.length + 2 + (encodeAll ts).length := by
        simp only [encodeAll, List.flatMap_cons, Tlv.encode,
          List.length_append, List.length_cons]
      have hLt : v.i < len := by omega
      have hStride :
          stride s.iface.apduResponse v.i =
            v.i + 2 + t.value.length := by
        unfold stride
        rw [hEntry.length]
        omega
      rcases run_fileSizeLoop_at hLt f s log with
        ⟨es, hRun, _⟩
      rw [hRun]
      have hRest := hEntry.rest
      rw [← hStride] at hRest
      rcases ih (v := { i := stride s.iface.apduResponse v.i
                        size := sizeAt s.iface.apduResponse
                          v.size v.i })
        (fun e he => hLengths e (List.mem_cons_of_mem t he))
        hRest (by dsimp only; omega)
        (show ts.length < f by
          rw [List.length_cons] at hFuel
          omega)
        (es ++ log) with ⟨r, hResult, hNone, hSome⟩
      refine ⟨r, hResult, ?_, ?_⟩
      · rw [lastValue_cons, Option.or_eq_none_iff]
        rintro ⟨hLater, hHere⟩
        have hOther : t.tag ≠ tagFileSize := by
          intro hTag
          rw [if_pos hTag] at hHere
          cases hHere
        rw [hNone hLater]
        dsimp only
        rw [sizeAt, hEntry.tag, if_neg hOther]
      · intro value hValue hTwo
        rw [lastValue_cons] at hValue
        cases hLater : lastValue tagFileSize ts with
        | some later =>
            rw [hLater] at hValue
            cases hValue
            exact hSome value hLater hTwo
        | none =>
            rw [hLater, Option.none_or] at hValue
            by_cases hTag : t.tag = tagFileSize
            · rw [if_pos hTag] at hValue
              cases hValue
              rw [hNone hLater]
              dsimp only
              rw [sizeAt, hEntry.tag, if_pos hTag,
                hEntry.bigEndian hTwo]
            · rw [if_neg hTag] at hValue
              cases hValue

end Se

end TrustOnboard

------------------------------------------------------------
-- Elementary Files
------------------------------------------------------------

namespace TrustOnboard

namespace Se

variable {K : Type}
variable {i : SEInterface}

/- A response fits its array. -/
theorem responseLength_after
    (before : SEInterface)
    (r : Reply) :
    (before.after r).getResponseLength ≤ 2 ^ 8 := by
  have hFits := r.hFits
  have hLen :
      (before.after r).apduResponseLen = r.bytes.length :=
    rfl
  unfold SEInterface.getResponseLength
  rw [hLen]
  split <;> omega

/- A state in which a response is looked at. -/
def holding (i : SEInterface) : Sys (List Reply) :=
  (Sys.start []).withIface i

theorem holding_holds (i : SEInterface) :
    Holding i (holding i) :=
  ⟨rfl, fun _ => rfl⟩

/- The first byte of the data. -/
theorem head_response
    (hPos : 0 < i.getResponseLength) :
    i.getResponse.head? = some (i.apduResponse 0) := by
  obtain ⟨m, hm⟩ :=
    Nat.exists_eq_succ_of_ne_zero
      (show i.getResponseLength ≠ 0 by omega)
  unfold SEInterface.getResponse
  rw [hm, Buffer.load_succ]
  rfl

/- The reader that `getEFSize` belongs to. -/
def efReader
    (dataLen : Nat)
    (K : Type)
    (port : Port K)
    (fuel : Nat) : Code K Bool := do
  let r ← readSelectedEF port fuel dataLen
  pure r.1

theorem run_efSize
    {s : Sys K}
    (hIface : s.iface = i)
    (fuel : Nat)
    (l : List Event) :
    (efSize fuel).run ⟨s, l⟩ =
      if i.apduResponse 0 = 0x62 then
        (efSizeLoop fuel i.getResponseLength 2).run
          ⟨s, .examined 0 :: l⟩
      else (some none, ⟨s, .examined 0 :: l⟩) := by
  rw [← hIface]
  simp only [efSize, getEFSize, Prog.run_bind, Prog.read,
    examine, Prog.run_step]
  split <;> rfl

/- The size is what the code for it says. -/
theorem efSize_parses
    {before : SEInterface}
    {r : Reply}
    (hInside : EFSizeInside (before.after r))
    (dataLen : Nat) :
    Parses (before.after r) (fun _ fuel => efSize fuel)
      (efReader dataLen) (firstValue 0x80) := by
  have hBound := responseLength_after before r
  constructor
  case ends =>
    by_cases hTag : (before.after r).apduResponse 0 = 0x62
    · rcases efSizeLoop_ends (before.after r).apduResponse
        hBound 2 with ⟨size, hEnds⟩
      refine ⟨size, ?_⟩
      intro K port s hHolding
      refine ⟨(before.after r).getResponseLength + 1, ?_⟩
      intro fuel hFuel
      rw [run_efSize hHolding.iface, if_pos hTag]
      exact hEnds K s fuel _ (by rw [hHolding.iface])
        (by omega)
    · refine ⟨none, ?_⟩
      intro K port s hHolding
      refine ⟨0, fun fuel _ => ?_⟩
      rw [run_efSize hHolding.iface, if_neg hTag]
  case inside =>
    intro K s fuel off hHolding
    rw [run_efSize hHolding.iface]
    have hFirst : Within
        (before.after r).getResponseLength
        [.examined 0] :=
      within_cons.mpr ⟨hInside.1, within_nil⟩
    by_cases hTag : (before.after r).apduResponse 0 = 0x62
    · rw [if_pos hTag]
      exact (hInside.2 hTag).within hBound fuel
        (by rw [hHolding.iface]) hFirst off
    · rw [if_neg hTag]
      exact hFirst off
  case found =>
    intro tlvs v hWell hValue hTwo K port s hHolding
    rcases hWell.inArray with ⟨hLen, hTag, _, hLoad⟩
    rw [← hHolding.iface] at hLoad hBound
    refine ⟨tlvs.length + 1, fun fuel hFuel => ?_⟩
    rw [run_efSize hHolding.iface, if_pos hTag]
    rcases efSizeLoop_entries hBound tlvs hWell.lengths hLoad
      (by rw [hHolding.iface]; omega) hFuel [.examined 0] with
      ⟨size, hRun, _, hFound⟩
    rw [hHolding.iface] at hRun
    rw [hRun, hFound v hValue hTwo]
  case missing =>
    rintro hMissing K port s hHolding
    rcases hMissing with hHead | ⟨tlvs, hWell, hNone⟩
    · refine ⟨0, fun fuel _ => ?_⟩
      rw [head_response hInside.1] at hHead
      rw [run_efSize hHolding.iface,
        if_neg (fun hTag => hHead (congrArg some hTag))]
    · rcases hWell.inArray with ⟨hLen, hTag, _, hLoad⟩
      rw [← hHolding.iface] at hLoad hBound
      refine ⟨tlvs.length + 1, fun fuel hFuel => ?_⟩
      rw [run_efSize hHolding.iface, if_pos hTag]
      rcases efSizeLoop_entries hBound tlvs hWell.lengths
        hLoad (by rw [hHolding.iface]; omega) hFuel
        [.examined 0] with ⟨size, hRun, hMissing, _⟩
      rw [hHolding.iface] at hRun
      rw [hRun, hMissing hNone]
  case fails =>
    intro hNone K port s hHolding
    rcases hNone K port s hHolding with ⟨least, hRun⟩
    refine ⟨least, fun fuel hFuel => ?_⟩
    have hSize := Prog.run_of_returns (hRun fuel hFuel)
    unfold efReader readSelectedEF
    rw [Prog.run_bind, Prog.run_bind, hSize]
    rfl

/- Only then is nothing but the data looked at. -/
theorem EFSizeInside.of_parses
    {before : SEInterface}
    {r : Reply}
    {reader : (K : Type) → Port K → Nat → Code K Bool}
    {value : List Tlv → Option Bytes}
    (hParses :
      Parses (before.after r) (fun _ fuel => efSize fuel)
        reader value) :
    EFSizeInside (before.after r) := by
  have hWithin : ∀ fuel,
      Within (before.after r).getResponseLength
        ((efSize fuel).run
          ⟨holding (before.after r), []⟩).2.log :=
    fun fuel off =>
      hParses.inside _ _ fuel off (holding_holds _)
  constructor
  · apply hWithin 0
    rw [run_efSize (holding_holds _).iface]
    split <;> exact List.mem_singleton.mpr rfl
  · intro hTag
    have hLoop : ∀ fuel,
        Within (before.after r).getResponseLength
          ((efSizeLoop fuel
            (before.after r).getResponseLength 2).run
            ⟨holding (before.after r),
              [.examined 0]⟩).2.log := by
      intro fuel
      have hRun := hWithin fuel
      rwa [run_efSize (holding_holds _).iface, if_pos hTag] at hRun
    exact reaches_of_within (responseLength_after before r) 2
      [.examined 0] hLoop

end Se

end TrustOnboard

------------------------------------------------------------
-- Key Containers And Certificates
------------------------------------------------------------

namespace TrustOnboard

namespace Se

variable {K : Type}
variable {i : SEInterface}

/- The size `listKeyPairs` works with. -/
def containersSizeOnly
    (K : Type)
    (fuel : Nat) : Code K (Option Nat) := do
  let r ← containersSize fuel
  pure r.2

/- The reader that `certificateSize` belongs to. -/
def certificateReader
    (efSize certLen : Nat)
    (K : Type)
    (port : Port K)
    (fuel : Nat) : Code K Bool := do
  let r ← readSelectedCertificate port fuel efSize certLen
  pure r.1

/- The bound of the loop over the entries. -/
def fcpEnd (i : SEInterface) : Nat :=
  ((i.apduResponse 1).toNat + 2) % 2 ^ 8

/- Where the loop over the entries starts. -/
def fcpStart : FcpLocals :=
  { i := 2, size := none }

theorem run_containersSize
    {s : Sys K}
    (hIface : s.iface = i)
    (hSelected : (s.applets .mias).isSelected = true)
    (fuel : Nat)
    (log : List Event) :
    (containersSize fuel).run ⟨s, log⟩ =
      if 2 < i.getResponseLength then
        if i.apduResponse 0 = 0x62 then
          (fileSizeLoop fuel (fcpEnd i) fcpStart >>=
            fun size => pure (true, size)).run
            ⟨s, .examined 1 :: .examined 0 :: log⟩
        else
          (some (false, none), ⟨s, .examined 0 :: log⟩)
      else (some (false, none), ⟨s, log⟩) := by
  have hLen :
      (if (s.applets .mias).isSelected = true then
        s.iface.getResponseLength else 0) =
        i.getResponseLength := by
    rw [if_pos hSelected, hIface]
  unfold containersSize
  simp only [Prog.run_bind, Applet.getResponseLength,
    Prog.read, Prog.run_step, List.nil_append]
  rw [hLen, ← hIface]
  by_cases hLong : 2 < s.iface.getResponseLength
  · rw [if_pos hLong, if_pos hLong]
    simp only [Prog.run_bind, examine, Prog.run_step]
    by_cases hTag : s.iface.apduResponse 0 = 0x62
    · rw [if_pos hTag, if_pos hTag]
      simp only [fileSize, Prog.run_bind, examine,
        Prog.run_step]
      rfl
    · rw [if_neg hTag, if_neg hTag]
      rfl
  · rw [if_neg hLong, if_neg hLong]
    rfl

theorem run_certificateSize
    {s : Sys K}
    (hIface : s.iface = i)
    (fuel : Nat)
    (l : List Event) :
    (certificateSize fuel).run ⟨s, l⟩ =
      if i.apduResponse 0 = 0x62 then
        (fileSizeLoop fuel (fcpEnd i) fcpStart).run
          ⟨s, .examined 1 :: .examined 0 :: l⟩
      else (some none, ⟨s, .examined 0 :: l⟩) := by
  rw [← hIface]
  unfold certificateSize
  simp only [Prog.run_bind, examine, Prog.run_step]
  by_cases hTag : s.iface.apduResponse 0 = 0x62
  · rw [if_pos hTag, if_pos hTag]
    simp only [fileSize, Prog.run_bind, examine,
      Prog.run_step]
    rfl
  · rw [if_neg hTag, if_neg hTag]
    rfl

/- Proper entries with a size need more than three bytes. -/
theorem PassesSize.long
    (hPasses : PassesSize i) :
    3 < i.getResponseLength := by
  rcases hPasses with ⟨is, hPasses, j, hMem, hTag⟩
  have hAll : ∀ {at₀ : Nat} {js : List Nat},
      Passes i.apduResponse i.getResponseLength
        (fcpEnd i) at₀ js → ∀ k ∈ js,
        i.apduResponse k = tagFileSize →
          k + 3 < i.getResponseLength := by
    intro at₀ js hJs
    induction hJs with
    | past => intro k hk; cases hk
    | entry hLt hIn hSize hRest ih =>
        intro k hk hTag
        rcases List.mem_cons.mp hk with hHere | hLater
        · subst hHere
          exact hSize hTag
        · exact ih k hLater hTag
  have := hAll hPasses j hMem hTag
  omega

/- What the loop does on proper entries with a size. -/
theorem PassesSize.run
    (hPasses : PassesSize i) :
    ∃ size least, ∀ (K : Type) (s : Sys K), Holding i s →
      ∀ fuel log, Within i.getResponseLength log →
        Within i.getResponseLength
          ((fileSizeLoop fuel (fcpEnd i) fcpStart).run
            ⟨s, log⟩).2.log ∧
        (least ≤ fuel →
          ((fileSizeLoop fuel (fcpEnd i) fcpStart).run
            ⟨s, log⟩).1 = some (some size)) := by
  rcases hPasses with ⟨is, hPasses, hMet⟩
  have hSome :
      (sizeAfter i.apduResponse fcpStart.size is).isSome =
        true :=
    sizeAfter_isSome.mpr (Or.inr hMet)
  rcases Option.isSome_iff_exists.mp hSome with ⟨size, hSize⟩
  refine ⟨size, is.length + 1, ?_⟩
  intro K s hHolding fuel log hLog
  have hRun :=
    Passes.run (v := fcpStart) hPasses fuel
      (show s.iface.apduResponse = i.apduResponse by
        rw [hHolding.iface]) hLog
  refine ⟨hRun.1, fun hFuel => ?_⟩
  rw [← hSize]
  exact hRun.2 (by omega)

/- What the loop does on a description. -/
theorem PassesSize.entries
    {tlvs : List Tlv}
    (hPasses : PassesSize i)
    (hBound : i.getResponseLength ≤ 2 ^ 8)
    (hWell : WellFormed i tlvs)
    {s : Sys K}
    (hHolding : Holding i s)
    {fuel : Nat}
    (hFuel : tlvs.length < fuel)
    (log : List Event) :
    ∃ r,
      ((fileSizeLoop fuel (fcpEnd i) fcpStart).run
          ⟨s, log⟩).1 = some r ∧
        (lastValue tagFileSize tlvs = none → r = none) ∧
        (∀ v, lastValue tagFileSize tlvs = some v →
          v.length = 2 → r = some (bigEndian v)) := by
  rcases hWell.inArray with ⟨hLen, _, hByte, hLoad⟩
  have hShort : (encodeAll tlvs).length ≠ 254 := by
    intro hWrap
    rcases hPasses with ⟨is, hPasses, j, hMem, _⟩
    rw [hByte, hWrap] at hPasses
    cases hPasses with
    | past => cases hMem
    | entry hLt => omega
  have hEnd : fcpEnd i = 2 + (encodeAll tlvs).length := by
    unfold fcpEnd
    rw [hByte]
    omega
  rw [← hHolding.iface] at hLoad
  exact fileSizeLoop_entries (v := fcpStart) (by omega) tlvs
    hWell.lengths hLoad hEnd.symm hFuel log

/- The loop only looks. -/
theorem fileSizeLoop_st
    (fuel len : Nat)
    (v : FcpLocals)
    (s : Sys K)
    (log : List Event) :
    ((fileSizeLoop fuel len v).run ⟨s, log⟩).2.st = s := by
  induction fuel generalizing v log with
  | zero => rfl
  | succ fuel ih =>
      by_cases hLt : v.i < len
      · rcases run_fileSizeLoop_at hLt fuel s log with
          ⟨es, hRun, _⟩
        rw [hRun]
        exact ih _ _
      · rw [run_fileSizeLoop, if_neg hLt]

/- With a card that does not answer, no size goes unnoticed. -/
theorem listSelectedKeyPairs_without_size
    (fresh : Nat → UInt8)
    (fuel : Nat)
    {log : List Event}
    (hSize :
      (containersSize (fuel + 1)).run ⟨holding i, []⟩ =
        (some (true, none), ⟨holding i, log⟩)) :
    ((listSelectedKeyPairs scripted (fuel + 1) fresh).run
      ⟨holding i, []⟩).1 = some true := by
  unfold listSelectedKeyPairs
  rw [Prog.run_bind, hSize]
  rfl

/- What an uninitialised size of one byte leads to. -/
theorem certificateReader_without_size
    (certLen fuel : Nat)
    {log : List Event}
    (hSize :
      (certificateSize (fuel + 2)).run ⟨holding i, []⟩ =
        (some none, ⟨holding i, log⟩)) :
    ((certificateReader 1 certLen (List Reply) scripted
      (fuel + 2)).run ⟨holding i, []⟩).1 = some true := by
  unfold certificateReader readSelectedCertificate
  rw [Prog.run_bind, Prog.run_bind, hSize]
  rfl

/-
  The loop from which no size came has looked at data only
  if it passed proper entries, none of them a size.
-/
theorem passes_or_missing
    {r : Option Nat}
    {s : Sys K}
    (hHolding : Holding i s)
    {fuel : Nat}
    {log : List Event}
    (hEnds :
      ((fileSizeLoop fuel (fcpEnd i) fcpStart).run
        ⟨s, log⟩).1 = some r)
    (hWithin :
      Within i.getResponseLength
        ((fileSizeLoop fuel (fcpEnd i) fcpStart).run
          ⟨s, log⟩).2.log) :
    PassesSize i ∨ r = none := by
  rcases passes_of_run fuel hEnds hWithin with
    ⟨is, hPasses, hSize⟩
  rw [hHolding.iface] at hPasses hSize
  by_cases hMet :
      ∃ j ∈ is, i.apduResponse j = tagFileSize
  · exact Or.inl ⟨is, hPasses, hMet⟩
  · right
    have hNone :
        ¬ (sizeAfter i.apduResponse fcpStart.size is).isSome =
          true := by
      rw [sizeAfter_isSome]
      rintro (hNo | hYes)
      · cases hNo
      · exact hMet hYes
    rw [hSize]
    simpa using hNone

theorem run_containersSizeOnly
    {s : Sys K}
    (hHolding : Holding i s)
    (fuel : Nat) :
    (containersSizeOnly K fuel).run ⟨s, []⟩ =
      if 2 < i.getResponseLength then
        if i.apduResponse 0 = 0x62 then
          (fileSizeLoop fuel (fcpEnd i) fcpStart).run
            ⟨s, [.examined 1, .examined 0]⟩
        else (some none, ⟨s, [.examined 0]⟩)
      else (some none, ⟨s, []⟩) := by
  unfold containersSizeOnly
  rw [Prog.run_bind, run_containersSize hHolding.iface
    (hHolding.selected .mias)]
  by_cases hLong : 2 < i.getResponseLength
  · rw [if_pos hLong, if_pos hLong]
    by_cases hTag : i.apduResponse 0 = 0x62
    · rw [if_pos hTag, if_pos hTag, Prog.run_bind]
      cases (fileSizeLoop fuel (fcpEnd i) fcpStart).run
        ⟨s, [.examined 1, .examined 0]⟩ with
      | mk r w =>
          cases r with
          | none => rfl
          | some r => rfl
    · rw [if_neg hTag, if_neg hTag]
      rfl
  · rw [if_neg hLong, if_neg hLong]
    rfl

/- Entries with a value take at least two bytes. -/
theorem two_le_encodeAll
    {tag : UInt8}
    {tlvs : List Tlv}
    {v : Bytes}
    (hValue : lastValue tag tlvs = some v) :
    2 ≤ (encodeAll tlvs).length := by
  cases tlvs with
  | nil => cases hValue
  | cons t ts =>
      simp only [encodeAll, List.flatMap_cons, Tlv.encode,
        List.length_append, List.length_cons]
      omega

/- A reader that takes no size from a response and fails. -/
theorem Parses.of_none
    {size : (K : Type) → Nat → Code K (Option Nat)}
    {reader : (K : Type) → Port K → Nat → Code K Bool}
    (hNone : i.getResponseLength ≤ 2 ∨ i.apduResponse 0 ≠ 0x62)
    (hRun : ∀ (K : Type) (s : Sys K) fuel, Holding i s →
      ((size K fuel).run ⟨s, []⟩).1 = some none ∧
        Within i.getResponseLength
          ((size K fuel).run ⟨s, []⟩).2.log)
    (hReader : Yields i reader false) :
    Parses i size reader (lastValue tagFileSize) := by
  have hYields : Yields i (fun K _ fuel => size K fuel) none :=
    fun K port s hHolding =>
      ⟨0, fun fuel _ => (hRun K s fuel hHolding).1⟩
  constructor
  case ends => exact ⟨none, hYields⟩
  case inside =>
    intro K s fuel off hHolding
    exact (hRun K s fuel hHolding).2 off
  case found =>
    intro tlvs v hWell hValue _
    rcases hWell.inArray with ⟨hLen, hTag, _, _⟩
    have hTwo := two_le_encodeAll hValue
    rcases hNone with hShort | hOther
    · omega
    · exact absurd hTag hOther
  case missing => exact fun _ => hYields
  case fails => exact fun _ => hReader

/- A reader that runs the loop on proper entries. -/
theorem Parses.of_loop
    {size : (K : Type) → Nat → Code K (Option Nat)}
    {reader : (K : Type) → Port K → Nat → Code K Bool}
    (hBound : i.getResponseLength ≤ 2 ^ 8)
    (hTag : i.apduResponse 0 = 0x62)
    (hPasses : PassesSize i)
    (hRun : ∀ (K : Type) (s : Sys K) fuel, Holding i s →
      (size K fuel).run ⟨s, []⟩ =
        (fileSizeLoop fuel (fcpEnd i) fcpStart).run
          ⟨s, [.examined 1, .examined 0]⟩) :
    Parses i size reader (lastValue tagFileSize) := by
  have hLong := hPasses.long
  have hFirst :
      Within i.getResponseLength [.examined 1, .examined 0] :=
    by
      rw [within_cons, within_cons]
      exact ⟨by omega, by omega, within_nil⟩
  rcases hPasses.run with ⟨found, least, hLoop⟩
  constructor
  case ends =>
    refine ⟨some found, ?_⟩
    intro K port s hHolding
    refine ⟨least, fun fuel hFuel => ?_⟩
    rw [hRun K s fuel hHolding]
    exact (hLoop K s hHolding fuel _ hFirst).2 hFuel
  case inside =>
    intro K s fuel off hHolding
    rw [hRun K s fuel hHolding]
    exact (hLoop K s hHolding fuel _ hFirst).1 off
  case found =>
    intro tlvs v hWell hValue hTwo K port s hHolding
    refine ⟨tlvs.length + 1, fun fuel hFuel => ?_⟩
    rcases hPasses.entries hBound hWell hHolding hFuel
      [.examined 1, .examined 0] with ⟨r, hEnds, _, hSome⟩
    rw [hRun K s fuel hHolding, hEnds, hSome v hValue hTwo]
  case missing =>
    rintro (hHead | ⟨tlvs, hWell, hNone⟩) K port s hHolding
    · rw [head_response (by omega), hTag] at hHead
      exact absurd rfl hHead
    · refine ⟨tlvs.length + 1, fun fuel hFuel => ?_⟩
      rcases hPasses.entries hBound hWell hHolding hFuel
        [.examined 1, .examined 0] with ⟨r, hEnds, hMiss, _⟩
      rw [hRun K s fuel hHolding, hEnds, hMiss hNone]
  case fails =>
    intro hNone
    rcases hNone _ scripted _ (holding_holds i) with
      ⟨enough, hNever⟩
    have hNo := hNever (max least enough) (by omega)
    rw [hRun _ _ _ (holding_holds i),
      (hLoop _ _ (holding_holds i) _ _ hFirst).2 (by omega)]
      at hNo
    cases hNo

/- The parsing in `listKeyPairs` under its condition. -/
theorem containersSize_parses
    (hBound : i.getResponseLength ≤ 2 ^ 8)
    (hSized : ContainersSized i)
    (fresh : Nat → UInt8) :
    Parses i containersSizeOnly
      (fun _ port fuel => listSelectedKeyPairs port fuel fresh)
      (lastValue tagFileSize) := by
  by_cases hLong : 2 < i.getResponseLength
  · by_cases hTag : i.apduResponse 0 = 0x62
    · have hPasses : PassesSize i := by
        rcases hSized with hShort | hOther | hPasses
        · omega
        · exact absurd hTag hOther
        · exact hPasses
      apply Parses.of_loop hBound hTag hPasses
      intro K s fuel hHolding
      rw [run_containersSizeOnly hHolding, if_pos hLong,
        if_pos hTag]
    · apply Parses.of_none (Or.inr hTag)
      · intro K s fuel hHolding
        rw [run_containersSizeOnly hHolding, if_pos hLong,
          if_neg hTag]
        exact ⟨rfl, within_cons.mpr ⟨by omega, within_nil⟩⟩
      · intro K port s hHolding
        refine ⟨0, fun fuel _ => ?_⟩
        unfold listSelectedKeyPairs
        rw [Prog.run_bind, run_containersSize hHolding.iface
          (hHolding.selected .mias),
          if_pos hLong, if_neg hTag]
        rfl
  · apply Parses.of_none (Or.inl (by omega))
    · intro K s fuel hHolding
      rw [run_containersSizeOnly hHolding, if_neg hLong]
      exact ⟨rfl, within_nil⟩
    · intro K port s hHolding
      refine ⟨0, fun fuel _ => ?_⟩
      unfold listSelectedKeyPairs
      rw [Prog.run_bind, run_containersSize hHolding.iface
          (hHolding.selected .mias),
        if_neg hLong]
      rfl

/- The parsing for a certificate under its condition. -/
theorem certificateSize_parses
    (hBound : i.getResponseLength ≤ 2 ^ 8)
    (hSized : CertificateSized i)
    (efSize certLen : Nat) :
    Parses i (fun _ fuel => certificateSize fuel)
      (certificateReader efSize certLen)
      (lastValue tagFileSize) := by
  apply Parses.of_loop hBound hSized.1 hSized.2
  intro K s fuel hHolding
  rw [run_certificateSize hHolding.iface, if_pos hSized.1]

/- A run of the loop that ends, as a pair. -/
theorem run_fileSizeLoop_of_ends
    {fuel len : Nat}
    {v : FcpLocals}
    {s : Sys K}
    {log : List Event}
    {r : Option Nat}
    (hEnds :
      ((fileSizeLoop fuel len v).run ⟨s, log⟩).1 = some r) :
    ∃ log',
      (fileSizeLoop fuel len v).run ⟨s, log⟩ =
        (some r, ⟨s, log'⟩) := by
  have hState := fileSizeLoop_st fuel len v s log
  rcases hRun : (fileSizeLoop fuel len v).run ⟨s, log⟩ with
    ⟨r', st, log'⟩
  rw [hRun] at hEnds hState
  cases hEnds
  cases hState
  exact ⟨log', rfl⟩

/-
  A reader that goes on without a size needs proper entries
  with one.
-/
theorem PassesSize.of_parses
    {size : (K : Type) → Nat → Code K (Option Nat)}
    {reader : (K : Type) → Port K → Nat → Code K Bool}
    {value : List Tlv → Option Bytes}
    (hParses : Parses i size reader value)
    (hRun : ∀ fuel,
      (size (List Reply) fuel).run ⟨holding i, []⟩ =
        (fileSizeLoop fuel (fcpEnd i) fcpStart).run
          ⟨holding i, [.examined 1, .examined 0]⟩)
    (hGoesOn : ∀ fuel log,
      (size (List Reply) (fuel + 2)).run ⟨holding i, []⟩ =
        (some none, ⟨holding i, log⟩) →
      ((reader (List Reply) scripted (fuel + 2)).run
        ⟨holding i, []⟩).1 = some true) :
    PassesSize i := by
  rcases hParses.ends with ⟨r, hYields⟩
  rcases hYields _ scripted _ (holding_holds i) with
    ⟨least, hEnds⟩
  have hLoop := hEnds least (Nat.le_refl least)
  dsimp only at hLoop
  rw [hRun] at hLoop
  have hWithin : Within i.getResponseLength _ :=
    fun off => hParses.inside _ _ least off (holding_holds i)
  rw [hRun] at hWithin
  rcases passes_or_missing (holding_holds i) hLoop hWithin
    with hPasses | hNone
  · exact hPasses
  · -- without a size the reader both fails and succeeds
    subst hNone
    rcases hParses.fails hYields _ scripted _
      (holding_holds i) with ⟨enough, hFails⟩
    have hFalse := hFails (least + enough + 2) (by omega)
    have hNoSize := hEnds (least + enough + 2) (by omega)
    dsimp only at hNoSize
    rw [hRun] at hNoSize
    rcases run_fileSizeLoop_of_ends hNoSize with ⟨log, hPair⟩
    rw [← hRun] at hPair
    rw [hGoesOn _ log hPair] at hFalse
    cases hFalse

/- The parsing in `listKeyPairs` needs its condition. -/
theorem ContainersSized.of_parses
    {fresh : Nat → UInt8}
    (hParses :
      Parses i containersSizeOnly
        (fun _ port fuel =>
          listSelectedKeyPairs port fuel fresh)
        (lastValue tagFileSize)) :
    ContainersSized i := by
  by_cases hLong : 2 < i.getResponseLength
  · by_cases hTag : i.apduResponse 0 = 0x62
    · have hRun : ∀ fuel,
          (containersSizeOnly (List Reply) fuel).run
              ⟨holding i, []⟩ =
            (fileSizeLoop fuel (fcpEnd i) fcpStart).run
              ⟨holding i, [.examined 1, .examined 0]⟩ := by
        intro fuel
        rw [run_containersSizeOnly (holding_holds i),
          if_pos hLong, if_pos hTag]
      refine Or.inr (Or.inr
        (PassesSize.of_parses hParses hRun ?_))
      intro fuel log hSize
      apply listSelectedKeyPairs_without_size
      rw [hRun] at hSize
      rw [run_containersSize (holding_holds i).iface rfl,
        if_pos hLong, if_pos hTag,
        Prog.run_bind_of_run hSize]
      rfl
    · exact Or.inr (Or.inl hTag)
  · exact Or.inl (by omega)

/- The parsing for a certificate needs its condition. -/
theorem CertificateSized.of_parses
    {certLen : Nat}
    (hParses :
      Parses i (fun _ fuel => certificateSize fuel)
        (certificateReader 1 certLen)
        (lastValue tagFileSize)) :
    CertificateSized i := by
  have hTag : i.apduResponse 0 = 0x62 := by
    by_contra hOther
    have hRun : ∀ fuel,
        (certificateSize fuel).run ⟨holding i, []⟩ =
          (some none, ⟨holding i, [.examined 0]⟩) := by
      intro fuel
      rw [run_certificateSize (holding_holds i).iface,
        if_neg hOther]
    have hPos : 0 < i.getResponseLength := by
      apply hParses.inside _ _ 0 0 (holding_holds i)
      rw [hRun]
      exact List.mem_singleton.mpr rfl
    have hNone := hParses.missing (Or.inl (by
      rw [head_response hPos]
      exact fun hNo => hOther (Option.some.inj hNo)))
    rcases hParses.fails hNone _ scripted _ (holding_holds i)
      with ⟨enough, hFails⟩
    have hFalse := hFails (enough + 2) (by omega)
    rw [certificateReader_without_size certLen enough
      (hRun (enough + 2))] at hFalse
    cases hFalse
  refine ⟨hTag, PassesSize.of_parses hParses ?_ ?_⟩
  · intro fuel
    rw [run_certificateSize (holding_holds i).iface, if_pos hTag]
  · intro fuel log hSize
    exact certificateReader_without_size certLen fuel hSize

end Se

end TrustOnboard

------------------------------------------------------------
-- All Three Readers
------------------------------------------------------------

namespace TrustOnboard

namespace Se

/-
  For every response: the readers take the size from it as
  they should exactly when what they look at is inside it
  and, for the MIAS readers, there is a size to be found.
-/
theorem fcp_parsing_iff
    (before : SEInterface)
    (r : Reply) :
    ((∀ dataLen,
      Parses (before.after r) (fun _ fuel => efSize fuel)
        (efReader dataLen) (firstValue 0x80)) ↔
      EFSizeInside (before.after r)) ∧
    ((∀ fresh,
      Parses (before.after r) containersSizeOnly
        (fun _ port fuel =>
          listSelectedKeyPairs port fuel fresh)
        (lastValue tagFileSize)) ↔
      ContainersSized (before.after r)) ∧
    ((∀ efSize certLen,
      Parses (before.after r)
        (fun _ fuel => certificateSize fuel)
        (certificateReader efSize certLen)
        (lastValue tagFileSize)) ↔
      CertificateSized (before.after r)) := by
  have hBound := responseLength_after before r
  refine ⟨⟨?_, ?_⟩, ⟨?_, ?_⟩, ⟨?_, ?_⟩⟩
  · exact fun hParses => EFSizeInside.of_parses (hParses 0)
  · exact fun hInside dataLen =>
      efSize_parses hInside dataLen
  · exact fun hParses =>
      ContainersSized.of_parses (hParses (fun _ => 0))
  · exact fun hSized fresh =>
      containersSize_parses hBound hSized fresh
  · exact fun hParses =>
      CertificateSized.of_parses (hParses 1 0)
  · exact fun hSized efSize certLen =>
      certificateSize_parses hBound hSized efSize certLen

/- An entry of 254 bytes where there are none. -/
def wrappingReply : Reply :=
  ⟨true, [0x62, 0x08, 0x82, 0xFE, 0x90, 0x00], by decide⟩

/- No entries that follow each other start with it. -/
theorem wrappingReply_not_passes
    {len at₀ : Nat}
    {is : List Nat}
    (hPasses :
      Passes
        ((Sys.start ()).iface.after wrappingReply).apduResponse
        4 len at₀ is)
    (hLen : 2 < len) :
    at₀ ≠ 2 := by
  induction hPasses with
  | past hPast => omega
  | entry hLt hIn hSize hRest ih =>
      rintro rfl
      exact ih (by decide)

/-
  The entry after it starts 256 bytes on, which in eight
  bits is where it starts itself: the loop never ends.
-/
theorem fcp_parsing_wraps :
    ¬ ∀ fresh,
      Parses ((Sys.start ()).iface.after wrappingReply)
        containersSizeOnly
        (fun _ port fuel =>
          listSelectedKeyPairs port fuel fresh)
        (lastValue tagFileSize) := by
  intro hParses
  have hSized :=
    ContainersSized.of_parses (hParses (fun _ => 0))
  rcases hSized with hShort | hOther | ⟨is, hPasses, _⟩
  · exact absurd hShort (by decide)
  · exact hOther rfl
  · exact wrappingReply_not_passes hPasses (by decide) rfl

end Se

end TrustOnboard
