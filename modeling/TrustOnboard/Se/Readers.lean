import TrustOnboard.Se.Cards
import TrustOnboard.Se.Fcp

/-
  When the readers of files give back the file.

  A reader selects a file, takes the size from the
  description of it and then reads it in chunks.  Whatever
  the card says about the file, the result is right exactly
  when the size is, and enough of the chunks come.

  Key definitions include:
    * `opening`
    * `RightFrom`

  Key results include:
    * `rightFrom_iff`
    * `readEF_right_iff`
    * `getCertificateByContainerId_right_iff`
    * `readers_right_iff`
-/

------------------------------------------------------------
-- Opening A File
------------------------------------------------------------

namespace TrustOnboard

namespace Se

variable {K : Type}

/-
  Select a file and look for a size in the description of it:
  nothing if the file is not selected.
-/
def opening
    (select : Code K Bool)
    (parse : Code K (Option Nat)) :
    Code K (Option (Option Nat)) := do
  let ok ← select
  if ok then do
    let r ← parse
    pure (some r)
  else
    pure none

/- The selection in `readEF`. -/
def selectEF
    (port : Port K)
    (path : Bytes)
    (fuel : Nat) : Code K Bool :=
  succeeds .mf
    (Applet.transmitCase4 port fuel .mf 0x00 0xA4 0x08 0x04
      path 0x00)

/- The selection in `getCertificateByContainerId`. -/
def selectCertificate
    (port : Port K)
    (fresh : Nat → UInt8)
    (containerId : UInt8)
    (fuel : Nat) : Code K Bool := do
  let kp ← getKeyPairByContainerId port fuel fresh containerId
  match kp with
  | some kp =>
      if kp.hasCert then
        succeeds .mias
          (Applet.transmitCase4 port fuel .mias 0x00 0xA4
            0x08 0x04 [kp.pubFileId.1, kp.pubFileId.2] 0x1C)
      else
        pure false
  | none => pure false

/- `readEF` up to its loop. -/
def efOpening
    (port : Port K)
    (path : Bytes)
    (fuel : Nat) : Code K (Option (Option Nat)) :=
  opening (selectEF port path fuel) (efSize fuel)

/- `getCertificateByContainerId` up to its loop. -/
def certificateOpening
    (port : Port K)
    (fresh : Nat → UInt8)
    (containerId : UInt8)
    (fuel : Nat) : Code K (Option (Option Nat)) :=
  opening (selectCertificate port fresh containerId fuel)
    (certificateSize fuel)

/- A file that was opened is the one that is served. -/
def Opens
    (inFile : K → Prop)
    (opens : Nat → Code K (Option (Option Nat)))
    (s : Sys K) : Prop :=
  ∀ r s' es,
    Prog.Returns opens ⟨s, []⟩ (some r) ⟨s', es⟩ →
      inFile s'.env

/-
  A reader ends if the opening of the file does, and only
  succeeds with the whole file.
-/
structure RightFrom
    (file : Buffer)
    (size : Nat)
    (opens : Nat → Code K (Option (Option Nat)))
    (code : Nat → Code K (Bool × Nat))
    (s : Sys K) : Prop where
  ends :
    ∀ b r w, Prog.Returns opens ⟨s.withBlock b, []⟩ r w →
      ∃ res w', Prog.Returns code ⟨s.withBlock b, []⟩ res w'
  holds :
    ∀ b n w',
      Prog.Returns code ⟨s.withBlock b, []⟩ (true, n) w' →
        HoldsFile file 0 size n w'

/-
  A reader is right when what follows the opening is, for
  what the opening returns.
-/
theorem rightFrom_iff
    {file : Buffer}
    {size : Nat}
    {opens : Nat → Code K (Option (Option Nat))}
    {rest :
      Nat → Option (Option Nat) → Code K (Bool × Nat)}
    (hOpens : Transmission opens)
    (hRest : ∀ r, Prog.Stable (fun n => rest n r))
    {s : Sys K} :
    RightFrom file size opens (fun n => opens n >>= rest n) s ↔
      ∀ r s' es, Prog.Returns opens ⟨s, []⟩ r ⟨s', es⟩ →
        Right file 0 size (fun n => rest n r) s' es := by
  have hCode : ∀ b res w',
      Prog.Returns (fun n => opens n >>= rest n)
          ⟨s.withBlock b, []⟩ res w' ↔
        ∃ r s' es, Prog.Returns opens ⟨s, []⟩ r ⟨s', es⟩ ∧
          Prog.Returns (fun n => rest n r)
            ⟨s'.withBlock b, es⟩ res w' := by
    intro b res w'
    rw [Prog.returns_bind hOpens.stable hRest]
    constructor
    · rintro ⟨r, w₁, hFirst, hLater⟩
      rcases hOpens.returns_iff.mp hFirst with
        ⟨s', es, hAlone, rfl⟩
      rw [List.append_nil] at hLater
      exact ⟨r, s', es, hAlone, hLater⟩
    · rintro ⟨r, s', es, hAlone, hLater⟩
      refine ⟨r, ⟨s'.withBlock b, es⟩, ?_, hLater⟩
      refine hOpens.returns_iff.mpr ⟨s', es, hAlone, ?_⟩
      rw [List.append_nil]
  constructor
  case mp =>
    intro hRight r s' es hReturns
    have hFirst : ∀ b,
        Prog.Returns opens ⟨s.withBlock b, []⟩ r
          ⟨s'.withBlock b, es⟩ := by
      intro b
      refine hOpens.returns_iff.mpr ⟨s', es, hReturns, ?_⟩
      rw [List.append_nil]
    constructor
    case ends =>
      intro b
      rcases hRight.ends b r _ (hFirst b) with ⟨res, w', hRun⟩
      rcases (hCode b res w').mp hRun with
        ⟨r', t, es', hOther, hLater⟩
      have hSame :=
        Prog.Returns.unique hOpens.stable hReturns hOther
      cases hSame.1
      cases hSame.2
      exact ⟨res, w', hLater⟩
    case holds =>
      intro b n w' hLater
      exact hRight.holds b n w'
        ((hCode b _ w').mpr ⟨r, s', es, hReturns, hLater⟩)
  case mpr =>
    intro hAll
    constructor
    case ends =>
      intro b r w hFirst
      rcases hOpens.returns_iff.mp hFirst with
        ⟨s', es, hAlone, rfl⟩
      rcases (hAll r s' es hAlone).ends b with
        ⟨res, w', hLater⟩
      exact ⟨res, w', (hCode b res w').mpr
        ⟨r, s', es, hAlone, hLater⟩⟩
    case holds =>
      intro b n w' hRun
      rcases (hCode b _ w').mp hRun with
        ⟨r, s', es, hAlone, hLater⟩
      exact (hAll r s' es hAlone).holds b n w' hLater

end Se

end TrustOnboard

------------------------------------------------------------
-- Openings Only Send
------------------------------------------------------------

namespace TrustOnboard

namespace Se

variable {K : Type}

theorem efSizeValue_transmission
    (l i size : Nat) :
    Transmission
      (fun _ => (efSizeValue l i size : Code K Nat)) := by
  induction l generalizing i size with
  | zero => exact Transmission.pure size
  | succ l ih =>
      exact (Transmission.examine i).bind (fun _ => ih _ _)

theorem efSize_transmission :
    Transmission
      (fun n => (efSize n : Code K (Option Nat))) := by
  refine (Transmission.read (fun _ _ => rfl)).bind ?_
  intro n
  refine (Transmission.examine 0).bind ?_
  intro tag
  refine Transmission.ite ?_ (Transmission.pure none)
  apply Transmission.loop
  intro i
  refine Transmission.ite ?_ (Transmission.pure _)
  refine (Transmission.examine _).bind ?_
  intro t
  refine (Transmission.examine _).bind ?_
  intro l
  refine Transmission.ite ?_ (Transmission.pure _)
  exact (efSizeValue_transmission _ _ _).bind
    (fun _ => Transmission.pure _)

theorem fileSize_transmission :
    Transmission
      (fun n => (fileSize n : Code K (Option Nat))) := by
  refine (Transmission.examine 1).bind ?_
  intro len
  apply Transmission.loop
  intro v
  refine Transmission.ite ?_ (Transmission.pure _)
  refine (Transmission.examine _).bind ?_
  intro t
  refine (Transmission.examine _).bind ?_
  intro l
  refine Transmission.ite ?_ (Transmission.pure _)
  refine (Transmission.examine _).bind ?_
  intro hi
  exact (Transmission.examine _).bind
    (fun _ => Transmission.pure _)

theorem certificateSize_transmission :
    Transmission
      (fun n => (certificateSize n : Code K (Option Nat))) := by
  refine (Transmission.examine 0).bind ?_
  intro tag
  exact fileSize_transmission.ite (Transmission.pure none)

/- A file is selected by one command. -/
theorem select_transmission
    (port : Port K)
    (name : AppletName)
    (path : Bytes)
    (le : UInt8) :
    Transmission (fun n =>
      succeeds name
        (Applet.transmitCase4 port n name 0x00 0xA4 0x08 0x04
          path le)) := by
  apply Transmission.succeeds
  apply Transmission.onChannel
  intro channel
  exact (Transmission.setIface _).bind
    (fun _ => Transmission.transmit port)

theorem containersRound_transmission
    (port : Port K)
    (size : Nat)
    (fresh : Nat → UInt8)
    (v : RecordLocals) :
    Transmission
      (fun n => containersRound port n size fresh v) := by
  refine Transmission.ite ?_ (Transmission.pure _)
  refine Transmission.bind (Transmission.onChannel ?_) ?_
  · intro channel
    exact (Transmission.setIface _).bind
      (fun _ => Transmission.transmit port)
  intro ok
  refine Transmission.ite ?_ (Transmission.pure _)
  refine (Transmission.read (fun _ _ => rfl)).bind ?_
  intro sw
  refine Transmission.ite ?_ (Transmission.pure _)
  refine (Transmission.read (fun _ _ => rfl)).bind ?_
  intro record
  refine Transmission.ite ?_ (Transmission.pure _)
  exact (Transmission.setKeypairs _).bind
    (fun _ => Transmission.pure _)

theorem listContainers_transmission
    (port : Port K)
    (size : Nat)
    (fresh : Nat → UInt8) :
    Transmission
      (fun n => listContainers port n size fresh) :=
  Transmission.loop
    (containersRound_transmission port size fresh) _

theorem certificatesRound_transmission
    (port : Port K)
    (size : Nat)
    (v : RecordLocals) :
    Transmission
      (fun n => certificatesRound port n size v) := by
  refine Transmission.ite ?_ (Transmission.pure _)
  refine (readBinary_transmission port .mias _ _).bind ?_
  intro ok
  refine Transmission.ite ?_ (Transmission.pure _)
  refine (Transmission.read (fun _ _ => rfl)).bind ?_
  intro record
  refine Transmission.ite ?_ (Transmission.pure _)
  exact (Transmission.setKeypairs _).bind
    (fun _ => Transmission.pure _)

theorem listCertificates_transmission
    (port : Port K)
    (size : Nat) :
    Transmission (fun n => listCertificates port n size) :=
  Transmission.loop
    (certificatesRound_transmission port size) _

theorem containersSize_transmission :
    Transmission
      (fun n =>
        (containersSize n : Code K (Bool × Option Nat))) := by
  refine (Transmission.read (fun _ _ => rfl)).bind ?_
  intro n
  refine Transmission.ite ?_ (Transmission.pure _)
  refine (Transmission.examine 0).bind ?_
  intro tag
  refine Transmission.ite ?_ (Transmission.pure _)
  exact fileSize_transmission.bind
    (fun _ => Transmission.pure _)

theorem listKeyPairs_transmission
    (port : Port K)
    (fresh : Nat → UInt8) :
    Transmission (fun n => listKeyPairs port n fresh) := by
  refine (Transmission.read (fun _ _ => rfl)).bind ?_
  intro known
  refine (Transmission.pure _).ite ?_
  refine (select_transmission port .mias _ _).bind ?_
  intro ok
  refine Transmission.ite ?_ (Transmission.pure _)
  refine containersSize_transmission.bind ?_
  intro r
  refine Transmission.ite ?_ (Transmission.pure _)
  refine (listContainers_transmission port _ fresh).bind ?_
  intro _
  refine (select_transmission port .mias _ _).bind ?_
  intro ok
  refine Transmission.ite ?_ (Transmission.pure _)
  refine (readBinary_transmission port .mias _ _).bind ?_
  intro ok
  refine Transmission.ite ?_ (Transmission.pure _)
  refine (Transmission.read (fun _ _ => rfl)).bind ?_
  intro record
  exact (listCertificates_transmission port _).bind
    (fun _ => Transmission.pure _)

theorem getKeyPair_transmission
    (port : Port K)
    (fresh : Nat → UInt8)
    (containerId : UInt8) :
    Transmission
      (fun n =>
        getKeyPairByContainerId port n fresh containerId) := by
  refine (listKeyPairs_transmission port fresh).bind ?_
  intro _
  refine (Transmission.read (fun _ _ => rfl)).bind ?_
  exact fun _ => Transmission.pure _

theorem selectCertificate_transmission
    (port : Port K)
    (fresh : Nat → UInt8)
    (containerId : UInt8) :
    Transmission (selectCertificate port fresh containerId) := by
  refine (getKeyPair_transmission port fresh
    containerId).bind ?_
  intro kp
  cases kp with
  | none => exact Transmission.pure _
  | some kp =>
      refine Transmission.ite ?_ (Transmission.pure _)
      exact select_transmission port .mias _ _

/- Opening a file only sends if its parts do. -/
theorem opening_transmission
    {select : Nat → Code K Bool}
    {parse : Nat → Code K (Option Nat)}
    (hSelect : Transmission select)
    (hParse : Transmission parse) :
    Transmission (fun n => opening (select n) (parse n)) := by
  refine hSelect.bind ?_
  intro ok
  refine Transmission.ite ?_ (Transmission.pure _)
  exact hParse.bind (fun _ => Transmission.pure _)

/- A file that was opened was selected before. -/
theorem opening_some
    {select : Nat → Code K Bool}
    {parse : Nat → Code K (Option Nat)}
    {w w' : Run K}
    {r : Option Nat}
    (hReturns :
      Prog.Returns (fun n => opening (select n) (parse n)) w
        (some r) w') :
    ∃ w₁, Prog.Returns select w true w₁ ∧
      Prog.Returns parse w₁ r w' := by
  rcases hReturns with ⟨n, hRun⟩
  unfold opening at hRun
  rw [Prog.run_bind] at hRun
  rcases hSelected : (select n).run w with ⟨ok, w₁⟩
  rw [hSelected] at hRun
  match ok with
  | none => cases hRun
  | some false => cases hRun
  | some true =>
      refine ⟨w₁, ⟨n, hSelected⟩, n, ?_⟩
      simp only [if_true, Prog.run_bind] at hRun
      rcases hParsed : (parse n).run w₁ with ⟨r', w₂⟩
      rw [hParsed] at hRun
      cases r' with
      | none => cases hRun
      | some r' =>
          cases hRun
          rfl

end Se

end TrustOnboard

------------------------------------------------------------
-- Sizes
------------------------------------------------------------

namespace TrustOnboard

namespace Se

variable {K : Type}

theorem efSizeValue_lt
    (l i : Nat)
    {size z : Nat}
    (hSize : size < 2 ^ 16)
    {w w' : Run K}
    (hRun : (efSizeValue l i size).run w = (some z, w')) :
    z < 2 ^ 16 := by
  induction l generalizing i size w with
  | zero =>
      cases hRun
      exact hSize
  | succ l ih =>
      exact ih _ (Nat.mod_lt _ (by decide)) hRun

theorem efSizeLoop_lt
    (fuel n i : Nat)
    {z : Nat}
    {s : Sys K}
    {log : List Event}
    {w' : Run K}
    (hRun :
      (efSizeLoop fuel n i).run ⟨s, log⟩ =
        (some (some z), w')) :
    z < 2 ^ 16 := by
  induction fuel generalizing i log with
  | zero => cases hRun
  | succ fuel ih =>
      rw [run_efSizeLoop] at hRun
      split at hRun
      · dsimp only at hRun
        split at hRun
        · rw [Prog.run_bind] at hRun
          rcases hValue : (efSizeValue
            (s.iface.apduResponse ((i + 1) % 2 ^ 16)).toNat
            ((i + 2) % 2 ^ 16) 0).run
              ⟨s, .examined ((i + 1) % 2 ^ 16) ::
                .examined i :: log⟩ with ⟨r, w₁⟩
          rw [hValue] at hRun
          cases r with
          | none => cases hRun
          | some v =>
              cases hRun
              exact efSizeValue_lt _ _ (by decide) hValue
        · exact ih _ hRun
      · cases hRun

/- A size has sixteen bits. -/
theorem efSize_lt
    {z : Nat}
    {w w' : Run K}
    (hReturns :
      Prog.Returns (fun n => efSize n) w (some z) w') :
    z < 2 ^ 16 := by
  rcases hReturns with ⟨n, hRun⟩
  rw [run_efSize rfl] at hRun
  split at hRun
  · exact efSizeLoop_lt _ _ _ hRun
  · cases hRun

theorem fileSizeLoop_lt
    (fuel len : Nat)
    {v : FcpLocals}
    (hSize : ∀ z ∈ v.size, z < 2 ^ 16)
    {s : Sys K}
    {log : List Event}
    {w' : Run K}
    {r : Option Nat}
    (hRun :
      (fileSizeLoop fuel len v).run ⟨s, log⟩ =
        (some r, w')) :
    ∀ z ∈ r, z < 2 ^ 16 := by
  induction fuel generalizing v log with
  | zero => cases hRun
  | succ fuel ih =>
      by_cases hLt : v.i < len
      · rcases run_fileSizeLoop_at hLt fuel s log with
          ⟨es, hRound, _⟩
        rw [hRound] at hRun
        refine ih ?_ hRun
        intro z hz
        dsimp only [sizeAt] at hz
        split at hz
        · cases hz
          have hHigh := (s.iface.apduResponse (v.i + 2)).toNat_lt
          have hLow := (s.iface.apduResponse (v.i + 3)).toNat_lt
          unfold word
          omega
        · exact hSize z hz
      · rw [run_fileSizeLoop, if_neg hLt] at hRun
        cases hRun
        exact hSize

theorem certificateSize_lt
    {r : Option Nat}
    {w w' : Run K}
    (hReturns :
      Prog.Returns (fun n => certificateSize n) w r w') :
    ∀ z ∈ r, z < 2 ^ 16 := by
  rcases hReturns with ⟨n, hRun⟩
  rw [run_certificateSize rfl] at hRun
  split at hRun
  · exact fileSizeLoop_lt _ _ (by simp [fcpStart]) hRun
  · cases hRun
    simp

end Se

end TrustOnboard

------------------------------------------------------------
-- Whole Readers
------------------------------------------------------------

namespace TrustOnboard

namespace Se

variable {K : Type}
variable {port : Port K}

theorem readData_stable
    (reader : ChunkReader)
    (port : Port K)
    (base z alloc : Nat)
    (fin : Option Nat → Code K (Bool × Nat)) :
    Prog.Stable (readData reader port base z alloc fin) :=
  (Prog.Stable.const _).bind (fun _ =>
    (Prog.Stable.loop (round_stable reader port base z) 0).bind
      (fun _ => Prog.Stable.const _))

/- What `readEF` does once the file is opened. -/
def efRest
    (port : Port K)
    (dataLen fuel : Nat) :
    Option (Option Nat) → Code K (Bool × Nat)
  | some (some z) => readEFData port fuel z
  | _ => pure (false, dataLen)

theorem readEF_eq
    (path : Bytes)
    (dataLen n : Nat) :
    readEF port n path dataLen =
      efOpening port path n >>= efRest port dataLen n := by
  unfold efOpening opening
  rw [Prog.bind_assoc]
  unfold readEF
  change selectEF port path n >>= _ = _
  congr 1
  funext ok
  cases ok with
  | false => rfl
  | true =>
      simp only [if_true]
      rw [Prog.bind_assoc]
      unfold readSelectedEF
      congr 1
      funext r
      cases r with
      | none => rfl
      | some z => rfl

theorem efRest_stable
    (dataLen : Nat)
    (r : Option (Option Nat)) :
    Prog.Stable (fun n => efRest port dataLen n r) := by
  match r with
  | none => exact Prog.Stable.const _
  | some none => exact Prog.Stable.const _
  | some (some z) =>
      simp only [efRest, readEFData_eq]
      exact readData_stable _ _ _ _ _ _

/- What follows the opening in the reader of certificates. -/
def certificateRest
    (port : Port K)
    (efSize certLen fuel : Nat) :
    Option (Option Nat) → Code K (Bool × Nat)
  | none => pure (false, certLen)
  | some r =>
      if r.getD efSize ≠ 0 then
        readCertificateData port fuel (r.getD efSize)
      else
        pure (false, certLen)

theorem getCertificateByContainerId_eq
    (fresh : Nat → UInt8)
    (containerId : UInt8)
    (efSize certLen n : Nat) :
    getCertificateByContainerId port n fresh containerId
        efSize certLen =
      certificateOpening port fresh containerId n >>=
        certificateRest port efSize certLen n := by
  unfold certificateOpening opening selectCertificate
  simp only [Prog.bind_assoc]
  unfold getCertificateByContainerId
  congr 1
  funext kp
  cases kp with
  | none => rfl
  | some kp =>
      dsimp only
      split
      · congr 1
        funext ok
        cases ok with
        | false => rfl
        | true =>
            simp only [if_true]
            rw [Prog.bind_assoc]
            rfl
      · rfl

theorem certificateRest_stable
    (efSize certLen : Nat)
    (r : Option (Option Nat)) :
    Prog.Stable
      (fun n => certificateRest port efSize certLen n r) := by
  cases r with
  | none => exact Prog.Stable.const _
  | some r =>
      apply Prog.Stable.ite
      · simp only [readCertificateData_eq]
        exact readData_stable _ _ _ _ _ _
      · exact Prog.Stable.const _

/- A failure is nothing to be wrong. -/
theorem right_of_false
    (file : Buffer)
    (size n : Nat)
    (s : Sys K)
    (l : List Event) :
    Right file 0 size (fun _ => pure (false, n)) s l where
  ends := fun _ => ⟨_, _, 0, rfl⟩
  holds := by
    intro b m w' hReturns
    rw [Prog.returns_const] at hReturns
    cases hReturns

/- What opens a file leaves the memory alone. -/
theorem noMemory_of_opening
    {opens : Nat → Code K (Option (Option Nat))}
    {s s' : Sys K}
    {r : Option (Option Nat)}
    {es : List Event}
    (hSends : Transmission opens)
    (hReturns : Prog.Returns opens ⟨s, []⟩ r ⟨s', es⟩) :
    NoMemory es := by
  rcases hSends.returns hReturns with ⟨es', hLog, hSent⟩
  rw [List.append_nil] at hLog
  change es = es' at hLog
  rw [hLog]
  exact hSent.events

/-
  `MF::readEF` is right exactly when the chunks come as they
  should and the size in the description is.
-/
theorem readEF_right_iff
    {file : Buffer}
    {inFile : K → Prop}
    (hServes : Serves port file inFile)
    {s : Sys K}
    {path : Bytes}
    (hOpens : Opens inFile (efOpening port path) s)
    (size : Nat) :
    (∀ dataLen,
      RightFrom file size (efOpening port path)
        (fun n => readEF port n path dataLen) s) ↔
      ∀ z s' es,
        Prog.Returns (efOpening port path) ⟨s, []⟩
          (some (some z)) ⟨s', es⟩ →
        EFDelivered port size z s' := by
  have hSends : Transmission (efOpening port path) :=
    opening_transmission (select_transmission port .mf path 0)
      efSize_transmission
  simp only [readEF_eq]
  have hEach : ∀ dataLen,
      RightFrom file size (efOpening port path) _ s ↔
        ∀ r s' es,
          Prog.Returns (efOpening port path) ⟨s, []⟩ r
            ⟨s', es⟩ →
          Right file 0 size
            (fun n => efRest port dataLen n r) s' es :=
    fun dataLen =>
      rightFrom_iff hSends (efRest_stable dataLen)
  have hData : ∀ {z s' es},
      Prog.Returns (efOpening port path) ⟨s, []⟩
        (some (some z)) ⟨s', es⟩ →
      (Right file 0 size (fun n => readEFData port n z) s'
        es ↔ EFDelivered port size z s') := by
    intro z s' es hReturns
    rcases opening_some hReturns with ⟨w₁, _, hParsed⟩
    exact readEFData_right_iff hServes (efSize_lt hParsed)
      (hOpens _ s' es hReturns)
      (noMemory_of_opening hSends hReturns)
  constructor
  · intro hRight z s' es hReturns
    exact (hData hReturns).mp
      ((hEach 0).mp (hRight 0) _ s' es hReturns)
  · intro hDelivered dataLen
    refine (hEach dataLen).mpr ?_
    intro r s' es hReturns
    match r with
    | none => exact right_of_false file size dataLen s' es
    | some none =>
        exact right_of_false file size dataLen s' es
    | some (some z) =>
        exact (hData hReturns).mpr
          (hDelivered z s' es hReturns)

/-
  `getCertificateByContainerId`, for every value the variable
  for the size may hold when no size is described.
-/
theorem getCertificateByContainerId_right_iff
    {file : Buffer}
    {inFile : K → Prop}
    (hServes : Serves port file inFile)
    {s : Sys K}
    {fresh : Nat → UInt8}
    {containerId : UInt8}
    (hOpens :
      Opens inFile (certificateOpening port fresh containerId) s)
    (size : Nat) :
    (∀ efSize certLen, efSize < 2 ^ 16 →
      RightFrom file size
        (certificateOpening port fresh containerId)
        (fun n =>
          getCertificateByContainerId port n fresh containerId
            efSize certLen) s) ↔
      ∀ efSize r s' es, efSize < 2 ^ 16 →
        Prog.Returns
          (certificateOpening port fresh containerId) ⟨s, []⟩
          (some r) ⟨s', es⟩ →
        r.getD efSize ≠ 0 →
        CertificateDelivered port file size (r.getD efSize)
          s' := by
  have hSends :
      Transmission
        (certificateOpening port fresh containerId) :=
    opening_transmission
      (selectCertificate_transmission port fresh containerId)
      certificateSize_transmission
  simp only [getCertificateByContainerId_eq]
  have hEach : ∀ efSize certLen,
      RightFrom file size
          (certificateOpening port fresh containerId) _ s ↔
        ∀ r s' es,
          Prog.Returns
            (certificateOpening port fresh containerId)
            ⟨s, []⟩ r ⟨s', es⟩ →
          Right file 0 size
            (fun n => certificateRest port efSize certLen n r)
            s' es :=
    fun efSize certLen =>
      rightFrom_iff hSends
        (certificateRest_stable efSize certLen)
  have hData : ∀ {efSize r s' es}, efSize < 2 ^ 16 →
      Prog.Returns
        (certificateOpening port fresh containerId) ⟨s, []⟩
        (some r) ⟨s', es⟩ →
      (Right file 0 size
          (fun n =>
            readCertificateData port n (r.getD efSize)) s'
          es ↔
        CertificateDelivered port file size (r.getD efSize)
          s') := by
    intro efSize r s' es hSize hReturns
    rcases opening_some hReturns with ⟨w₁, _, hParsed⟩
    refine readCertificateData_right_iff hServes ?_
      (hOpens _ s' es hReturns)
      (noMemory_of_opening hSends hReturns)
    cases r with
    | none => exact hSize
    | some z => exact certificateSize_lt hParsed z rfl
  constructor
  · intro hRight efSize r s' es hSize hReturns hNonzero
    have hRest :=
      (hEach efSize 0).mp (hRight efSize 0 hSize) _ s' es
        hReturns
    simp only [certificateRest, if_pos hNonzero] at hRest
    exact (hData hSize hReturns).mp hRest
  · intro hDelivered efSize certLen hSize
    refine (hEach efSize certLen).mpr ?_
    intro r s' es hReturns
    cases r with
    | none => exact right_of_false file size certLen s' es
    | some r =>
        by_cases hNonzero : r.getD efSize ≠ 0
        · simp only [certificateRest, if_pos hNonzero]
          exact (hData hSize hReturns).mpr
            (hDelivered efSize r s' es hSize hReturns
              hNonzero)
        · simp only [certificateRest, if_neg hNonzero]
          exact right_of_false file size certLen s' es

/-
  For a card that serves a file: each of the readers ends and
  succeeds only with the whole file exactly when the size it
  works with is right and the chunks come as they should.
-/
theorem readers_right_iff
    {file : Buffer}
    {inFile : K → Prop}
    (hServes : Serves port file inFile) :
    (∀ s path size,
      Opens inFile (efOpening port path) s →
      ((∀ dataLen,
        RightFrom file size (efOpening port path)
          (fun n => readEF port n path dataLen) s) ↔
        ∀ z s' es,
          Prog.Returns (efOpening port path) ⟨s, []⟩
            (some (some z)) ⟨s', es⟩ →
          EFDelivered port size z s')) ∧
    (∀ s fresh containerId size,
      Opens inFile
        (certificateOpening port fresh containerId) s →
      ((∀ efSize certLen, efSize < 2 ^ 16 →
        RightFrom file size
          (certificateOpening port fresh containerId)
          (fun n =>
            getCertificateByContainerId port n fresh
              containerId efSize certLen) s) ↔
        ∀ efSize r s' es, efSize < 2 ^ 16 →
          Prog.Returns
            (certificateOpening port fresh containerId) ⟨s, []⟩
            (some r) ⟨s', es⟩ →
          r.getD efSize ≠ 0 →
          CertificateDelivered port file size (r.getD efSize)
            s')) ∧
    (∀ (s : Sys K) base valueSize, inFile s.env →
      base + valueSize < 2 ^ 16 →
      (Right file base valueSize
          (fun n => readValue port n base valueSize) s [] ↔
        ValueDelivered port base valueSize s)) := by
  refine ⟨?_, ?_, ?_⟩
  · intro s path size hOpens
    exact readEF_right_iff hServes hOpens size
  · intro s fresh containerId size hOpens
    exact
      getCertificateByContainerId_right_iff hServes hOpens size
  · intro s base valueSize hIn hValue
    exact readValue_right_iff hServes hValue hIn noMemory_nil

/- One byte of a file for every READ BINARY. -/
def oneByteAnswer (file : Buffer) (bs : Bytes) : Reply :=
  match bs with
  | [_, 0xB0, p1, p2, _] =>
      ⟨true, [file (word p1 p2), 0x90, 0x00], by simp⟩
  | _ =>
      ⟨true, [0x62, 0x04, 0x80, 0x02, 0x00, 0x03, 0x90, 0x00],
        by simp⟩

theorem oneByteCard_serves
    (file : Buffer) :
    Serves (steadyCard (oneByteAnswer file)) file
      (fun _ => True) where
  stays := fun _ _ _ _ _ _ _ _ => trivial
  data := by
    intro name offset le w w' _ hOffset hReturns
    have hFinal : ∀ bs,
        (oneByteAnswer file bs).request = .final := by
      intro bs
      unfold oneByteAnswer
      split <;> rfl
    rcases steadyCard_readBinary hFinal hReturns with
      ⟨i, cla, hIface, _⟩
    refine ⟨1, ?_, ?_⟩
    · unfold asked
      split
      · decide
      · rename_i hNonzero
        have : le.toNat ≠ 0 := fun hZero =>
          hNonzero (UInt8.toNat_inj.mp hZero)
        omega
    · have hWord :
          word (.ofNat (offset / 2 ^ 8)) (.ofNat offset) =
            offset := by
        unfold word
        rw [UInt8.toNat_ofNat', UInt8.toNat_ofNat']
        omega
      rw [hIface]
      change [file _] = [file _]
      rw [hWord, Nat.add_zero]

/- The readers on such a card. -/
theorem readers_right_iff_oneByteCard :
    let port := steadyCard (oneByteAnswer (.ofNat ·))
    ((∀ dataLen,
      RightFrom (.ofNat ·) 3 (efOpening port [0x6F, 0x01])
        (fun n => readEF port n [0x6F, 0x01] dataLen)
        (Sys.start ())) ↔
      ∀ z s' es,
        Prog.Returns (efOpening port [0x6F, 0x01])
          ⟨Sys.start (), []⟩ (some (some z)) ⟨s', es⟩ →
        EFDelivered port 3 z s') ∧
    ((∀ efSize certLen, efSize < 2 ^ 16 →
      RightFrom (.ofNat ·) 3
        (certificateOpening port (fun _ => 0) 0)
        (fun n =>
          getCertificateByContainerId port n (fun _ => 0) 0
            efSize certLen) (Sys.start ())) ↔
      ∀ efSize r s' es, efSize < 2 ^ 16 →
        Prog.Returns (certificateOpening port (fun _ => 0) 0)
          ⟨Sys.start (), []⟩ (some r) ⟨s', es⟩ →
        r.getD efSize ≠ 0 →
        CertificateDelivered port (.ofNat ·) 3
          (r.getD efSize) s') ∧
    (Right (.ofNat ·) 1 2 (fun n => readValue port n 1 2)
        (Sys.start ()) [] ↔
      ValueDelivered port 1 2 (Sys.start ())) :=
  have hReaders :=
    readers_right_iff (oneByteCard_serves (.ofNat ·))
  ⟨hReaders.1 _ _ _ (fun _ _ _ _ => trivial),
    hReaders.2.1 _ _ _ _ (fun _ _ _ _ => trivial),
    hReaders.2.2 _ _ _ trivial (by decide)⟩

/-
  The description of a file of one byte, and a refusal to
  give it.
-/
def refusal (bs : Bytes) : Reply :=
  match bs with
  | [_, 0xB0, _, _, _] => ⟨true, [0x6A, 0x82], notFound_fits⟩
  | _ =>
      ⟨true, [0x62, 0x04, 0x81, 0x02, 0x00, 0x01, 0x90, 0x00],
        by decide⟩

/- A key pair with a certificate is known. -/
def withCertificate : Sys Unit :=
  { Sys.start () with
    keypairs :=
      [{ kid := 0x21, flags := 5, sizeInBits := 0x400
         pubFileId := (0x10, 0x01), hasCert := true }] }

/-
  The reader of certificates succeeds with such a card and
  leaves the memory as it was allocated.
-/
theorem certificate_without_a_chunk :
    Serves (steadyCard refusal) (fun _ => 1) (fun _ => True) ∧
    ¬ ∀ efSize certLen, efSize < 2 ^ 16 →
      RightFrom (fun _ => 1) 1
        (certificateOpening (steadyCard refusal) (fun _ => 0) 0)
        (fun n =>
          getCertificateByContainerId (steadyCard refusal) n
            (fun _ => 0) 0 efSize certLen)
        withCertificate := by
  constructor
  · constructor
    case stays => exact fun _ _ _ _ _ _ _ _ => trivial
    case data =>
      intro name offset le w w' _ hOffset hReturns
      have hFinal : ∀ bs, (refusal bs).request = .final := by
        intro bs
        unfold refusal
        split <;> rfl
      rcases steadyCard_readBinary hFinal hReturns with
        ⟨i, cla, hIface, hWord⟩
      rw [hIface] at hWord
      have hRefused :
          (i.receive [0x6A, 0x82]).getStatusWord = 0x6A82 := by
        simp [SEInterface.getStatusWord, SEInterface.receive,
          Buffer.store]
      exact absurd (hRefused.symm.trans hWord) (by decide)
  · intro hAll
    have hRun :
        (getCertificateByContainerId (steadyCard refusal) 9
            (fun _ => 0) 0 0 0).run
          ⟨withCertificate.withBlock (fun _ => 7), []⟩ =
          (some (true, 2), _) :=
      Prod.ext (by decide +kernel) rfl
    have hHolds :=
      (hAll 0 0 (by decide)).holds (fun _ => 7) 2 _ ⟨9, hRun⟩
    exact absurd hHolds.bytes (by decide +kernel)

end Se

end TrustOnboard
