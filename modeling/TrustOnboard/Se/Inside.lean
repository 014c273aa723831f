import TrustOnboard.Program.Passage
import TrustOnboard.Se.Crypto
import TrustOnboard.Se.P11

/-
  What is done while an applet is selected.

  Nothing that reads a file, verifies a PIN or uses a key
  opens or closes a channel, selects an applet by its AID, or
  changes the fields of an applet.

  Key definitions include:
    * `concernsSelection`
    * `inside`

  Key results include:
    * `readEF_inside`
    * `p11GetObjectByLabel_inside`
    * `getKeyPairByContainerId_inside`
    * `getCertificateByContainerId_inside`
    * `signFinal_inside`
    * `psoDecipher_inside`
-/

------------------------------------------------------------
-- Staying In An Applet
------------------------------------------------------------

namespace TrustOnboard

namespace Se

variable {K : Type}

/- MANAGE CHANNEL, or SELECT by the AID. -/
def concernsSelection (command : Bytes) : Bool :=
  command[1]? == some 0x70 ||
    (command[1]? == some 0xA4 && command[2]? == some 0x04)

/- The answers that are about the selection of an applet. -/
def selections
    (l : List (Bytes × Reply)) : List (Bytes × Reply) :=
  l.filter (fun e => concernsSelection e.1)

/- No answer is, and the applets are as they were. -/
def inside : Passage (Sys K) Event where
  rel w w' :=
    w'.st.applets = w.st.applets ∧
      ∃ l, Answered w w' l ∧ selections l = []
  refl w := ⟨rfl, [], .refl w, rfl⟩
  trans := by
    rintro w w' w'' ⟨hFirst, l, hAnswered, hNone⟩
      ⟨hThen, l', hAnswered', hNone'⟩
    refine ⟨hThen.trans hFirst, l ++ l',
      hAnswered.trans hAnswered', ?_⟩
    unfold selections at hNone hNone' ⊢
    rw [List.filter_append, hNone, hNone']
    rfl

/- The beginning of a command concerns no more than it. -/
theorem concernsSelection_take
    {command : Bytes}
    (hOther : concernsSelection command = false)
    (n : Nat) :
    concernsSelection (command.take n) = false := by
  unfold concernsSelection at hOther ⊢
  by_cases hTwo : 2 < n
  · rw [List.getElem?_take_of_lt (by omega),
      List.getElem?_take_of_lt hTwo]
    exact hOther
  · have hNone : (command.take n)[2]? = none :=
      List.getElem?_eq_none
        (by rw [List.length_take]; omega)
    rw [hNone]
    by_cases hOne : 1 < n
    · rw [List.getElem?_take_of_lt hOne]
      simp only [Bool.or_eq_false_iff] at hOther
      rw [hOther.1]
      simp
    · have hShort : (command.take n)[1]? = none :=
        List.getElem?_eq_none
          (by rw [List.length_take]; omega)
      rw [hShort]
      rfl

end Se

end TrustOnboard

------------------------------------------------------------
-- Commands
------------------------------------------------------------

namespace TrustOnboard

namespace Se

variable {K : Type}

/- An action without an exchange, on no applet. -/
theorem silent_inside
    {α : Type}
    {f : Sys K → α × Sys K × List Event}
    (hApplets : ∀ s, (f s).2.1.applets = s.applets)
    (hSilent : ∀ s, exchanges (f s).2.2 = []) :
    (Prog.step f).Relates inside :=
  .step (fun w =>
    ⟨hApplets w.st, [], .of_none rfl (hSilent w.st), rfl⟩)

theorem examine_inside
    (off : Nat) :
    (examine off : Code K UInt8).Relates inside :=
  silent_inside (fun _ => rfl) (fun _ => rfl)

theorem writeBlock_inside
    (off : Nat)
    (bs : Bytes) :
    (writeBlock off bs : Code K Unit).Relates inside :=
  silent_inside (fun _ => rfl) (fun _ => rfl)

theorem writeRecord_inside
    (off : Nat)
    (bs : Bytes) :
    (writeRecord off bs : Code K Unit).Relates inside :=
  silent_inside (fun _ => rfl) (fun _ => rfl)

theorem malloc_inside
    (size : Nat) :
    (malloc size : Code K Unit).Relates inside :=
  silent_inside (fun _ => rfl) (fun _ => rfl)

theorem setKeypairs_inside
    (f : List KeyPair → List KeyPair) :
    (setKeypairs f : Code K Unit).Relates inside :=
  silent_inside (fun _ => rfl) (fun _ => rfl)

/- A command that is not about the selection. -/
theorem send_inside
    (port : Port K)
    (fuel : Nat)
    {command : Bytes}
    (hOther : concernsSelection command = false) :
    (send port fuel command).Relates inside := by
  intro w ok w' hRun
  have hSent := send_take port fuel command w
  rw [hRun] at hSent
  rcases hSent.replied with ⟨r, hReplied, -⟩
  refine ⟨hReplied.frame.applets, _, hReplied.answered, ?_⟩
  unfold selections
  rw [List.filter_cons_of_neg]
  · rfl
  · rw [Bool.not_eq_true]
    exact concernsSelection_take hOther _

theorem onChannel_inside
    {name : AppletName}
    {send : UInt8 → Code K Bool}
    (hSend : ∀ channel, (send channel).Relates inside) :
    (onChannel name send).Relates inside := by
  refine (Prog.Relates.read _).bind ?_
  intro a
  exact (hSend a.channel).ite (.pure false)

theorem succeeds_inside
    {name : AppletName}
    {send : Code K Bool}
    (hSend : send.Relates inside) :
    (succeeds name send).Relates inside := by
  intro w b w' hRun
  have hWorld := succeeds_world name send w
  rw [hRun] at hWorld
  unfold succeeds at hRun
  rcases Prog.of_run_bind hRun with ⟨ok, w₁, hFirst, -⟩
  rw [hFirst] at hWorld
  cases hWorld
  exact hSend w ok w' hFirst

variable (port : Port K)
variable (fuel : Nat)
variable (name : AppletName)
variable (cla : UInt8)
variable {ins p1 : UInt8}
variable (p2 le : UInt8)
variable (data : Bytes)

/- The channel is in the class byte only. -/
theorem transmitCase2_inside
    (hOther : concernsSelection [0x00, ins, p1] = false) :
    (Applet.transmitCase2 port fuel name cla ins p1 p2
      le).Relates inside := by
  apply onChannel_inside
  intro channel
  rw [transmitCase2_eq]
  exact send_inside port fuel hOther

theorem transmitCase3_inside
    (hOther : concernsSelection [0x00, ins, p1] = false) :
    (Applet.transmitCase3 port fuel name cla ins p1 p2
      data).Relates inside := by
  apply onChannel_inside
  intro channel
  rw [transmitCase3_eq]
  exact send_inside port fuel hOther

theorem transmitCase4_inside
    (hOther : concernsSelection [0x00, ins, p1] = false) :
    (Applet.transmitCase4 port fuel name cla ins p1 p2 data
      le).Relates inside := by
  apply onChannel_inside
  intro channel
  rw [transmitCase4_eq]
  exact send_inside port fuel hOther

end Se

end TrustOnboard

------------------------------------------------------------
-- Reading Files
------------------------------------------------------------

namespace TrustOnboard

namespace Se

open Prog (Relates)

variable {K : Type}

theorem efSizeValue_inside
    (l i size : Nat) :
    (efSizeValue l i size : Code K Nat).Relates inside := by
  induction l generalizing i size with
  | zero => exact .pure size
  | succ l ih =>
      exact (examine_inside i).bind (fun _ => ih _ _)

theorem efSize_inside
    (fuel : Nat) :
    (efSize fuel : Code K (Option Nat)).Relates inside := by
  refine (Relates.read _).bind ?_
  intro n
  refine (examine_inside 0).bind ?_
  intro tag
  refine Relates.ite ?_ (.pure none)
  apply Relates.loop
  intro i
  refine Relates.ite ?_ (.pure _)
  refine (examine_inside _).bind ?_
  intro t
  refine (examine_inside _).bind ?_
  intro l
  refine Relates.ite ?_ (.pure _)
  exact (efSizeValue_inside _ _ _).bind (fun _ => .pure _)

theorem fileSize_inside
    (fuel : Nat) :
    (fileSize fuel : Code K (Option Nat)).Relates inside := by
  refine (examine_inside 1).bind ?_
  intro len
  apply Relates.loop
  intro v
  refine Relates.ite ?_ (.pure _)
  refine (examine_inside _).bind ?_
  intro t
  refine (examine_inside _).bind ?_
  intro l
  refine Relates.ite ?_ (.pure _)
  refine (examine_inside _).bind ?_
  intro hi
  exact (examine_inside _).bind (fun _ => .pure _)

variable (port : Port K)
variable (fuel : Nat)

theorem readBinary_inside
    (name : AppletName)
    (offset : Nat)
    (le : UInt8) :
    (readBinary port fuel name offset le).Relates inside :=
  succeeds_inside
    (transmitCase2_inside port fuel name 0x00 _ le rfl)

/- A file is selected by its path, not by an AID. -/
theorem selectFile_inside
    (name : AppletName)
    (path : Bytes)
    (le : UInt8) :
    (succeeds name
      (Applet.transmitCase4 port fuel name 0x00 0xA4 0x08 0x04
        path le)).Relates inside :=
  succeeds_inside
    (transmitCase4_inside port fuel name 0x00 0x04 le path
      rfl)

theorem selectFile3_inside
    (name : AppletName)
    (path : Bytes) :
    (succeeds name
      (Applet.transmitCase3 port fuel name 0x00 0xA4 0x08 0x04
        path)).Relates inside :=
  succeeds_inside
    (transmitCase3_inside port fuel name 0x00 0x04 path rfl)

theorem chunks_inside
    (reader : ChunkReader)
    (base size : Nat) :
    (reader.loop port fuel base size).Relates inside := by
  apply Relates.loop
  intro i
  refine Relates.ite ?_ (.pure _)
  refine (readBinary_inside port fuel _ _ _).bind ?_
  intro ok
  refine Relates.ite ?_ (.ite (.pure _) (.pure _))
  refine (Relates.read _).bind ?_
  intro bs
  exact (writeBlock_inside _ _).bind (fun _ => .pure _)

theorem readEF_inside
    (path : Bytes)
    (dataLen : Nat) :
    (readEF port fuel path dataLen).Relates inside := by
  refine (selectFile_inside port fuel .mf path 0x00).bind ?_
  intro ok
  refine Relates.ite ?_ (.pure _)
  refine (efSize_inside fuel).bind ?_
  intro size
  cases size with
  | none => exact .pure _
  | some size =>
      refine (malloc_inside _).bind ?_
      intro _
      refine (chunks_inside port fuel _ _ _).bind ?_
      intro r
      cases r with
      | none => exact .pure _
      | some i =>
          exact (writeBlock_inside _ _).bind (fun _ => .pure _)

end Se

end TrustOnboard

------------------------------------------------------------
-- Key Pairs And Certificates
------------------------------------------------------------

namespace TrustOnboard

namespace Se

open Prog (Relates)

variable {K : Type}
variable (port : Port K)
variable (fuel : Nat)
variable (fresh : Nat → UInt8)

theorem listContainers_inside
    (size : Nat) :
    (listContainers port fuel size fresh).Relates inside := by
  apply Relates.loop
  intro v
  refine Relates.ite ?_ (.pure _)
  refine (transmitCase2_inside port fuel .mias 0x00 _ _
    rfl).bind ?_
  intro ok
  refine Relates.ite ?_ (.pure _)
  refine (Relates.read _).bind ?_
  intro sw
  refine Relates.ite ?_ (.pure _)
  refine (Relates.read _).bind ?_
  intro record
  refine Relates.ite ?_ (.pure _)
  exact (setKeypairs_inside _).bind (fun _ => .pure _)

theorem listCertificates_inside
    (size : Nat) :
    (listCertificates port fuel size).Relates inside := by
  apply Relates.loop
  intro v
  refine Relates.ite ?_ (.pure _)
  refine (readBinary_inside port fuel .mias _ _).bind ?_
  intro ok
  refine Relates.ite ?_ (.pure _)
  refine (Relates.read _).bind ?_
  intro record
  refine Relates.ite ?_ (.pure _)
  exact (setKeypairs_inside _).bind (fun _ => .pure _)

theorem containersSize_inside :
    (containersSize fuel :
      Code K (Bool × Option Nat)).Relates inside := by
  refine (Relates.read _).bind ?_
  intro n
  refine Relates.ite ?_ (.pure _)
  refine (examine_inside 0).bind ?_
  intro tag
  refine Relates.ite ?_ (.pure _)
  exact (fileSize_inside fuel).bind (fun _ => .pure _)

theorem listKeyPairs_inside :
    (listKeyPairs port fuel fresh).Relates inside := by
  refine (Relates.read _).bind ?_
  intro known
  refine Relates.ite (.pure _) ?_
  refine (selectFile_inside port fuel .mias _ _).bind ?_
  intro ok
  refine Relates.ite ?_ (.pure _)
  refine (containersSize_inside fuel).bind ?_
  intro r
  refine Relates.ite ?_ (.pure _)
  refine (listContainers_inside port fuel fresh _).bind ?_
  intro _
  refine (selectFile_inside port fuel .mias _ _).bind ?_
  intro ok
  refine Relates.ite ?_ (.pure _)
  refine (readBinary_inside port fuel .mias _ _).bind ?_
  intro ok
  refine Relates.ite ?_ (.pure _)
  refine (Relates.read _).bind ?_
  intro record
  exact (listCertificates_inside port fuel _).bind
    (fun _ => .pure _)

theorem getKeyPairByContainerId_inside
    (containerId : UInt8) :
    (getKeyPairByContainerId port fuel fresh
      containerId).Relates inside := by
  refine (listKeyPairs_inside port fuel fresh).bind ?_
  intro _
  exact (Relates.read _).bind (fun _ => .pure _)

theorem readCertificateData_inside
    (efSize : Nat) :
    (readCertificateData port fuel efSize).Relates
      inside := by
  refine (malloc_inside _).bind ?_
  intro _
  refine (chunks_inside port fuel _ _ _).bind ?_
  intro r
  cases r with
  | none => exact .pure _
  | some offset =>
      refine (writeBlock_inside _ _).bind ?_
      intro _
      exact (Relates.read _).bind (fun _ => .pure _)

theorem getCertificateByContainerId_inside
    (containerId : UInt8)
    (efSize certLen : Nat) :
    (getCertificateByContainerId port fuel fresh containerId
      efSize certLen).Relates inside := by
  refine (getKeyPairByContainerId_inside port fuel fresh
    containerId).bind ?_
  intro kp
  cases kp with
  | none => exact .pure _
  | some kp =>
      refine Relates.ite ?_ (.pure _)
      refine (selectFile_inside port fuel .mias _ _).bind ?_
      intro ok
      refine Relates.ite ?_ (.pure _)
      refine Relates.bind ?_ ?_
      · refine (examine_inside 0).bind ?_
        intro tag
        exact (fileSize_inside fuel).ite (.pure _)
      · intro size
        exact (readCertificateData_inside port fuel _).ite
          (.pure _)

end Se

end TrustOnboard

------------------------------------------------------------
-- Objects
------------------------------------------------------------

namespace TrustOnboard

namespace Se

open Prog (Relates)

variable {K : Type}
variable (port : Port K)
variable (fuel : Nat)

theorem readRecord_inside
    (offset : Nat)
    (le : UInt8) :
    (readRecord port fuel offset le).Relates inside := by
  refine (readBinary_inside port fuel .mias _ _).bind ?_
  intro ok
  refine Relates.ite ?_ (.pure _)
  refine (Relates.read _).bind ?_
  intro bs
  exact (writeRecord_inside _ _).bind (fun _ => .pure _)

theorem listFiles_inside
    (nbOfFiles : Nat) :
    (listFiles port fuel nbOfFiles).Relates inside := by
  apply Relates.loop
  intro v
  refine Relates.ite ?_ (.pure _)
  refine (readRecord_inside port fuel _ _).bind ?_
  intro n
  refine Relates.ite ?_ (.pure _)
  exact (Relates.read _).bind (fun _ => .pure _)

theorem matchLabel_inside
    (label : Bytes) :
    (matchLabel port fuel label).Relates inside := by
  refine (readRecord_inside port fuel _ _).bind ?_
  intro n
  refine Relates.ite ?_ (.pure _)
  refine (Relates.read _).bind ?_
  intro len
  refine (readBinary_inside port fuel .mias _ _).bind ?_
  intro ok
  refine Relates.ite ?_ (.pure _)
  refine (Relates.read _).bind ?_
  intro n
  refine Relates.ite ?_ (.pure _)
  refine (Relates.read _).bind ?_
  intro bs
  refine (writeRecord_inside _ _).bind ?_
  intro _
  refine (writeRecord_inside _ _).bind ?_
  intro _
  refine (Relates.read _).bind ?_
  intro record
  exact Relates.ite (.pure _) (.pure _)

theorem skipField_inside
    (offset : Nat) :
    (skipField port fuel offset).Relates inside := by
  refine (readRecord_inside port fuel _ _).bind ?_
  intro n
  refine Relates.ite ?_ (.pure _)
  exact (Relates.read _).bind (fun _ => .pure _)

theorem readValue_inside
    (offset size : Nat) :
    (readValue port fuel offset size).Relates inside := by
  refine (malloc_inside _).bind ?_
  intro _
  refine (chunks_inside port fuel _ _ _).bind ?_
  intro r
  cases r with
  | none => exact .pure _
  | some i =>
      exact (writeBlock_inside _ _).bind (fun _ => .pure _)

theorem readObject_inside
    (label : Bytes)
    (size : Nat)
    (file : P11File) :
    (readObject port fuel label size file).Relates
      inside := by
  refine Relates.ite ?_ (.pure _)
  refine (selectFile3_inside port fuel .mias _).bind ?_
  intro ok
  refine Relates.ite ?_ (.pure _)
  refine (matchLabel_inside port fuel label).bind ?_
  intro offset
  cases offset with
  | none => exact .pure _
  | some offset =>
  refine (skipField_inside port fuel offset).bind ?_
  intro offset
  cases offset with
  | none => exact .pure _
  | some offset =>
  refine (skipField_inside port fuel offset).bind ?_
  intro offset
  cases offset with
  | none => exact .pure _
  | some offset =>
  refine (readRecord_inside port fuel _ _).bind ?_
  intro n
  refine Relates.ite ?_ (.pure _)
  refine (Relates.read _).bind ?_
  intro record
  exact (readValue_inside port fuel _ _).bind
    (fun _ => .pure _)

theorem searchFiles_inside
    (label : Bytes)
    (size : Nat)
    (files : List P11File) :
    (searchFiles port fuel label size files).Relates
      inside := by
  induction files with
  | nil => exact .pure _
  | cons file files ih =>
      refine (readObject_inside port fuel label size
        file).bind ?_
      intro r
      cases r with
      | none => exact ih
      | some objectLen => exact .pure _

theorem p11GetObjectByLabel_inside
    (label : Bytes)
    (size : Nat) :
    (p11GetObjectByLabel port fuel label size).Relates
      inside := by
  refine (selectFile3_inside port fuel .mias _).bind ?_
  intro ok
  refine Relates.ite ?_ (.pure _)
  refine (readBinary_inside port fuel .mias _ _).bind ?_
  intro ok
  refine Relates.ite ?_ (.pure _)
  refine (Relates.read _).bind ?_
  intro bs
  match bs with
  | [] => exact .pure _
  | _ :: _ :: _ => exact .pure _
  | [nbOfFiles] =>
      refine (listFiles_inside port fuel _).bind ?_
      intro files
      refine (searchFiles_inside port fuel _ _ _).bind ?_
      intro r
      cases r with
      | none => exact .pure _
      | some objectLen => exact .pure _

end Se

end TrustOnboard

------------------------------------------------------------
-- PINs And Keys
------------------------------------------------------------

namespace TrustOnboard

namespace Se

open Prog (Relates)

variable {K : Type}
variable (port : Port K)
variable (fuel : Nat)

theorem verifyData_inside
    (name : AppletName)
    (p2 : UInt8)
    (data : Bytes) :
    (verifyData port fuel name p2 data).Relates inside :=
  succeeds_inside
    (transmitCase3_inside port fuel name 0x00 p2 data rfl)

theorem MIAS.verifyPin_inside
    (pin : Bytes) :
    (MIAS.verifyPin port fuel pin).Relates inside :=
  verifyData_inside port fuel .mias 0x81 pin

theorem MF.verifyPin_inside
    (pin : Bytes) :
    (MF.verifyPin port fuel pin).Relates inside :=
  Relates.ite (.pure _) (verifyData_inside port fuel .mf _ _)

theorem manageEnvironment_inside
    (template : UInt8)
    (data : Bytes) :
    (manageEnvironment port fuel template data).Relates
      inside :=
  succeeds_inside
    (transmitCase3_inside port fuel .mias 0x00 template data
      rfl)

theorem psoHashExternally_inside
    (algorithm : UInt8)
    (hash : Buffer) :
    (psoHashExternally port fuel algorithm hash).Relates
      inside := by
  unfold psoHashExternally
  cases hashSize algorithm with
  | none => exact .pure _
  | some n =>
      exact succeeds_inside
        (transmitCase4_inside port fuel .mias 0x00 0xA0 0x00
          _ rfl)

theorem signFinal_inside
    (signAlgo : UInt8)
    (hash : Buffer) :
    (signFinal port fuel signAlgo hash).Relates inside := by
  refine (psoHashExternally_inside port fuel _ hash).bind ?_
  intro ok
  refine Relates.ite ?_ (.pure _)
  refine (transmitCase2_inside port fuel .mias 0x00 _ _
    rfl).bind ?_
  intro ok
  refine Relates.ite ?_ (.pure _)
  apply Relates.loop
  intro signature
  refine (Relates.read _).bind ?_
  intro n
  refine Relates.ite ?_ (.pure _)
  refine (Relates.read _).bind ?_
  intro bs
  refine (Relates.read _).bind ?_
  intro sw
  refine Relates.ite ?_ (.pure _)
  refine (transmitCase2_inside port fuel .mias 0x00 _ _
    rfl).bind ?_
  intro ok
  exact Relates.ite (.pure _) (.pure _)

theorem decipher_inside
    (cla : UInt8)
    (data : Bytes) :
    (decipher port fuel cla data).Relates inside :=
  succeeds_inside
    (transmitCase3_inside port fuel .mias cla 0x86 data rfl)

theorem psoDecipher_inside
    (data : Bytes) :
    (psoDecipher port fuel data).Relates inside := by
  refine Relates.bind ?_ ?_
  · refine Relates.ite (decipher_inside port fuel _ _) ?_
    refine (decipher_inside port fuel _ _).bind ?_
    intro ok
    exact Relates.ite (decipher_inside port fuel _ _)
      (.pure _)
  · intro ok
    refine Relates.ite ?_ (.pure _)
    exact (Relates.read _).bind (fun _ => .pure _)

end Se

end TrustOnboard
