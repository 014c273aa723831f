import TrustOnboard.Program.Passage
import TrustOnboard.Se.KeyPairs
import TrustOnboard.Se.Readers
import TrustOnboard.Se.Sending

/-
  Looking up a container on a card, `listKeyPairs` and
  `getKeyPairByContainerId`.

  The list of key pairs is made when a container is looked up
  for the first time.  It is the one that the records stand
  for, and stays as it is.

  Key definitions include:
    * `ContainersCard`
    * `Known`
    * `Earlier`
    * `LooksUp`

  Key results include:
    * `ContainersCard.listContainers`
    * `ContainersCard.getKeyPair`
    * `containers_found_iff`
-/

------------------------------------------------------------
-- Cards With A Containers File
------------------------------------------------------------

namespace TrustOnboard

namespace Se

variable {K : Type}

/- SELECT for the containers file. -/
def selectContainers
    (port : Port K)
    (fuel : Nat) : Code K Bool :=
  succeeds .mias
    (Applet.transmitCase4 port fuel .mias 0x00 0xA4 0x08 0x04
      [0x00, 0x02] 0x15)

/- SELECT for the file directory. -/
def selectDirectory
    (port : Port K)
    (fuel : Nat) : Code K Bool :=
  succeeds .mias
    (Applet.transmitCase4 port fuel .mias 0x00 0xA4 0x08 0x04
      [0x01, 0x01] 0x15)

/- The MIAS applet is selected. -/
def OnMias (s : Sys K) : Prop :=
  (s.applets .mias).isSelected = true

/-
  A response is the description of a file, in no more bytes
  than are asked for, with its size in two of them.
-/
def Describes (i : SEInterface) (size : Nat) : Prop :=
  ∃ tlvs v, WellFormed i tlvs ∧
    (encodeAll tlvs).length ≤ 0x13 ∧
    lastValue tagFileSize tlvs = some v ∧
    v.length = 2 ∧ bigEndian v = size

/-
  A card with a containers file.  It describes the file when
  it is selected, and gives the bytes of a record of it.  To
  everything else it answers in some way.
-/
structure ContainersCard
    (port : Port K)
    (content : Bytes)
    (selected : K → Prop) : Prop where
  selects :
    ∀ w, OnMias w.st →
      ∃ w', Prog.Returns (selectContainers port) w true w' ∧
        selected w'.st.env ∧
        Describes w'.st.iface content.length
  reads :
    ∀ w offset, OnMias w.st → selected w.st.env →
      offset + 0x0B ≤ content.length →
      ∃ w',
        Prog.Returns
            (fun n => readBinary port n .mias offset 0x0B) w
            true w' ∧
          selected w'.st.env ∧
          w'.st.iface.getResponse =
            (content.drop offset).take 0x0B
  answersDirectory :
    ∀ w, OnMias w.st →
      ∃ b w', Prog.Returns (selectDirectory port) w b w'
  answersRead :
    ∀ w offset le, OnMias w.st →
      ∃ b w',
        Prog.Returns
          (fun n => readBinary port n .mias offset le) w b w'

/- The bytes of the records. -/
def infoContent (records : List InfoRecord) : Bytes :=
  records.flatMap (·.bytes)

/- A key pair without its file. -/
def KeyPair.plain (kp : KeyPair) : KeyPair :=
  { kp with pubFileId := (0, 0), hasCert := false }

/-
  The key pairs are not known yet, or they are those of the
  records.
-/
structure Known
    (records : List InfoRecord)
    (fresh : Nat → UInt8)
    (s : Sys K) : Prop where
  onMias : OnMias s
  list :
    s.keypairs = [] ∨
      s.keypairs.map KeyPair.plain =
        (keyPairs fresh 0 records).reverse

/- What containers that were looked up have led to. -/
inductive Earlier
    (port : Port K)
    (fresh : Nat → UInt8)
    (s : Sys K) : Sys K → Prop where
  | start : Earlier port fresh s s
  | lookup
      (s' : Sys K)
      (c : UInt8)
      (result : Option KeyPair)
      (w : Run K)
      (hEarlier : Earlier port fresh s s')
      (hReturns :
        Prog.Returns
          (fun n => getKeyPairByContainerId port n fresh c)
          ⟨s', []⟩ result w) :
      Earlier port fresh s w.st

/-
  Looking up a container returns, for the first time and at
  any later one, what it has to, whatever the memory holds
  that is allocated for the key pairs.
-/
def LooksUp
    (port : Port K)
    (records : List InfoRecord)
    (c : UInt8)
    (s : Sys K) : Prop :=
  ∀ fresh s', Earlier port fresh s s' →
    ∃ result w,
      Prog.Settles
          (fun n => getKeyPairByContainerId port n fresh c)
          ⟨s', []⟩ result w ∧
        FindsKey records fresh c.toNat result

end Se

end TrustOnboard

------------------------------------------------------------
-- What A Command Leaves Alone
------------------------------------------------------------

namespace TrustOnboard

namespace Se

variable {K : Type}

/- Only the interface and the card have changed. -/
def framed : Passage (Sys K) Event where
  rel w w' := w.st.Framed w'.st
  refl _ := rfl
  trans hFirst hThen := hThen.trans hFirst

theorem send_framed
    (port : Port K)
    (fuel : Nat)
    (command : Bytes) :
    (send port fuel command).Relates framed := by
  intro w ok w' hRun
  have hSent := send_take port fuel command w
  rw [hRun] at hSent
  rcases hSent.replied with ⟨r, hReplied, -⟩
  exact hReplied.frame

theorem onChannel_framed
    {name : AppletName}
    {send : UInt8 → Code K Bool}
    (hSend : ∀ channel, (send channel).Relates framed) :
    (onChannel name send).Relates framed := by
  refine (Prog.Relates.read _).bind ?_
  intro a
  exact (hSend a.channel).ite (.pure false)

theorem succeeds_framed
    {name : AppletName}
    {send : Code K Bool}
    (hSend : send.Relates framed) :
    (succeeds name send).Relates framed := by
  refine hSend.bind ?_
  intro ok
  refine Prog.Relates.ite ?_ (.pure false)
  exact (Prog.Relates.read _).bind (fun _ => .pure _)

theorem readBinary_framed
    (port : Port K)
    (fuel : Nat)
    (name : AppletName)
    (offset : Nat)
    (le : UInt8) :
    (readBinary port fuel name offset le).Relates framed :=
  succeeds_framed
    (onChannel_framed (fun _ => send_framed port fuel _))

theorem selectFile_framed
    (port : Port K)
    (fuel : Nat)
    (name : AppletName)
    (path : Bytes)
    (le : UInt8) :
    (succeeds name
      (Applet.transmitCase4 port fuel name 0x00 0xA4 0x08 0x04
        path le)).Relates framed := by
  apply succeeds_framed
  apply onChannel_framed
  intro channel
  rw [transmitCase4_eq]
  exact send_framed port fuel _

theorem Sys.Framed.keypairs
    {s s' : Sys K}
    (hFramed : s.Framed s') :
    s'.keypairs = s.keypairs := by
  unfold Sys.Framed at hFramed
  rw [hFramed]

theorem Sys.Framed.onMias
    {s s' : Sys K}
    (hFramed : s.Framed s')
    (hOn : OnMias s) :
    OnMias s' := by
  unfold OnMias
  rw [hFramed.applets]
  exact hOn

end Se

end TrustOnboard

------------------------------------------------------------
-- The Size Of The File
------------------------------------------------------------

namespace TrustOnboard

namespace Se

variable {K : Type}
variable {port : Port K}
variable {w w' : Run K}

/- A transmission that succeeds has the status word 9000. -/
theorem of_succeeds
    {name : AppletName}
    {send : Code K Bool}
    (hRun : (succeeds name send).run w = (some true, w')) :
    send.run w = (some true, w') ∧
      (if (w'.st.applets name).isSelected then
        w'.st.iface.getStatusWord else 0) = 0x9000 := by
  unfold succeeds at hRun
  rcases Prog.of_run_bind hRun with ⟨ok, w₁, hFirst, hRest⟩
  cases ok with
  | false => cases hRest
  | true =>
      simp only [if_true, Applet.getStatusWord, Prog.read,
        Prog.run_bind, Prog.run_step, List.nil_append,
        Prog.pure_eq, Prog.run_ret, Prod.mk.injEq,
        Option.some.injEq, beq_iff_eq] at hRest
      rcases hRest with ⟨hStatus, rfl⟩
      exact ⟨hFirst, hStatus⟩

/- The size is taken from the description. -/
theorem containersSize_describes
    {size : Nat}
    (hOn : OnMias w.st)
    (hDescribes : Describes w.st.iface size) :
    ∃ w',
      Prog.Returns (fun n => containersSize n) w
          (true, some size) w' ∧
        w'.st = w.st := by
  rcases w with ⟨s, log⟩
  rcases hDescribes with
    ⟨tlvs, v, hWell, hShort, hLast, hTwo, hSize⟩
  rcases hWell.inArray with ⟨hLength, hTag, hLen, hLoad⟩
  have hEnd : fcpEnd s.iface = 2 + (encodeAll tlvs).length := by
    unfold fcpEnd
    dsimp only at hLen
    omega
  have hBound : fcpEnd s.iface < 2 ^ 8 := by omega
  rcases fileSizeLoop_entries hBound tlvs hWell.lengths
    (v := fcpStart) hLoad hEnd.symm
    (Nat.lt_succ_self tlvs.length)
    (.examined 1 :: .examined 0 :: log) with
    ⟨r, hRun, -, hFound⟩
  have hSome := hFound v hLast hTwo
  rw [hSize] at hSome
  have hState := fileSizeLoop_st (tlvs.length + 1)
    (fcpEnd s.iface) fcpStart s
    (.examined 1 :: .examined 0 :: log)
  have hMore : 0 < (encodeAll tlvs).length := by
    cases tlvs with
    | nil => cases hLast
    | cons t tlvs =>
        simp [encodeAll, Tlv.encode]
  refine ⟨_, ⟨tlvs.length + 1, ?_⟩, hState⟩
  dsimp only at hLength hTag
  rw [run_containersSize (i := s.iface) rfl hOn,
    if_pos (by omega),
    if_pos hTag, Prog.run_bind_of_run
      (Prog.run_of_returns hRun), hSome]
  rfl

end Se

end TrustOnboard

------------------------------------------------------------
-- The Records
------------------------------------------------------------

namespace TrustOnboard

namespace Se

variable {K : Type}
variable {port : Port K}
variable {selected : K → Prop}
variable {records : List InfoRecord}
variable {fresh : Nat → UInt8}

theorem length_infoContent
    (records : List InfoRecord) :
    (infoContent records).length = 0x0B * records.length := by
  induction records with
  | nil => rfl
  | cons r records ih =>
      unfold infoContent at ih ⊢
      rw [List.flatMap_cons, List.length_append, ih,
        r.hLength, List.length_cons]
      omega

/- The bytes of one of the records. -/
theorem drop_infoContent
    (done rest : List InfoRecord)
    (r : InfoRecord) :
    ((infoContent (done ++ r :: rest)).drop
      (0x0B * done.length)).take 0x0B = r.bytes := by
  have hDone := length_infoContent done
  unfold infoContent at hDone ⊢
  rw [List.flatMap_append, ← hDone, List.drop_left,
    List.flatMap_cons, ← r.hLength, List.take_left]

/- A key pair is made from the bytes of the record only. -/
theorem keyPairOfRecord_congr
    {left right : Buffer}
    (hSame : ∀ k, k < 0x0B → left k = right k)
    (i : Nat)
    (kid : UInt8) :
    keyPairOfRecord left i kid =
      keyPairOfRecord right i kid := by
  unfold keyPairOfRecord
  rw [hSame 4 (by decide), hSame 5 (by decide),
    hSame 6 (by decide), hSame 7 (by decide)]

/- The bytes of a response are those of the record. -/
theorem response_record
    {i : SEInterface}
    {r : InfoRecord}
    (hResponse : i.getResponse = r.bytes)
    {k : Nat}
    (hk : k < 0x0B) :
    i.apduResponse k = contentOf r.bytes k := by
  have hByte := congrArg (fun bs => bs.getD k 0) hResponse
  have hLength := congrArg List.length hResponse
  rw [getResponse_length, r.hLength] at hLength
  unfold SEInterface.getResponse at hByte
  rw [hLength] at hByte
  simpa [Buffer.load, hk, contentOf] using hByte

/- A round takes one record into the list. -/
theorem ContainersCard.containersRound
    (hCard :
      ContainersCard port (infoContent records) selected)
    (fresh : Nat → UInt8)
    {done rest : List InfoRecord}
    {r : InfoRecord}
    (hRecords : records = done ++ r :: rest)
    (hSize : (infoContent records).length < 2 ^ 16)
    {w : Run K}
    (hOn : OnMias w.st)
    (hSelected : selected w.st.env) :
    ∃ w',
      Prog.Returns
          (fun n =>
            Se.containersRound port n
              (infoContent records).length fresh
              { i := done.length % 2 ^ 8
                offset := 0x0B * done.length }) w
          (.inl
            { i := (done.length + 1) % 2 ^ 8
              offset := 0x0B * (done.length + 1) }) w' ∧
        OnMias w'.st ∧ selected w'.st.env ∧
        w'.st.keypairs =
          (if r.inUse then
            [r.keyPair fresh done.length] else []) ++
            w.st.keypairs := by
  have hLength := length_infoContent records
  have hCount : records.length =
      done.length + (rest.length + 1) := by
    rw [hRecords, List.length_append, List.length_cons]
  rcases hCard.reads w (0x0B * done.length) hOn hSelected
    (by omega) with ⟨w₁, ⟨n, hRead⟩, hSelected₁, hBytes⟩
  have hFramed :=
    readBinary_framed port n .mias _ _ w true w₁ hRead
  have hOn₁ := hFramed.onMias hOn
  have hRecord : w₁.st.iface.getResponse = r.bytes := by
    rw [hBytes, hRecords]
    exact drop_infoContent done rest r
  rcases of_succeeds hRead with ⟨hSend, hStatus⟩
  have hNext :
      ({ i := (done.length % 2 ^ 8 + 1) % 2 ^ 8
         offset := (0x0B * done.length + 0x0B) % 2 ^ 16 } :
        RecordLocals) =
      { i := (done.length + 1) % 2 ^ 8
        offset := 0x0B * (done.length + 1) } := by
    congr 1
    · omega
    · omega
  have hUse :
      w₁.st.iface.apduResponse 0 ≠ 0 ↔ r.inUse = true := by
    rw [response_record hRecord (by decide)]
    unfold InfoRecord.inUse
    rw [bne_iff_ne]
    rfl
  have hPair :
      keyPairOfRecord w₁.st.iface.apduResponse
          (done.length % 2 ^ 8)
          (fresh (0x0B * done.length / 0x0B)) =
        r.keyPair fresh done.length := by
    rw [Nat.mul_div_cancel_left _ (by decide)]
    exact keyPairOfRecord_congr
      (fun k hk => response_record hRecord hk) _ _
  have hRun : (Se.containersRound port n
      (infoContent records).length fresh
      { i := done.length % 2 ^ 8
        offset := 0x0B * done.length }).run w =
      (if w₁.st.iface.apduResponse 0 ≠ 0 then do
          setKeypairs (fun l =>
            keyPairOfRecord w₁.st.iface.apduResponse
              (done.length % 2 ^ 8)
              (fresh (0x0B * done.length / 0x0B)) :: l)
          pure (.inl
            { i := (done.length % 2 ^ 8 + 1) % 2 ^ 8
              offset :=
                (0x0B * done.length + 0x0B) % 2 ^ 16 })
        else
          pure (.inl
            { i := (done.length % 2 ^ 8 + 1) % 2 ^ 8
              offset :=
                (0x0B * done.length + 0x0B) % 2 ^ 16 }) :
        Code K (RecordLocals ⊕ Unit)).run w₁ := by
    unfold Se.containersRound
    dsimp only
    rw [if_pos (by omega), Prog.run_bind_of_run hSend,
      if_pos rfl]
    simp only [Applet.getStatusWord, response, Prog.read,
      Prog.run_bind, Prog.run_step, List.nil_append]
    rw [if_pos hStatus]
    simp only [Prog.run_bind, Prog.run_step, List.nil_append]
  rw [hNext, hPair] at hRun
  cases hInUse : r.inUse with
  | true =>
      rw [if_pos (hUse.mpr hInUse)] at hRun
      refine ⟨_, ⟨n, hRun⟩, hOn₁, hSelected₁, ?_⟩
      change r.keyPair fresh done.length :: w₁.st.keypairs = _
      rw [hFramed.keypairs]
      rfl
  | false =>
      rw [if_neg (fun h => by
        rw [hUse.mp h] at hInUse
        cases hInUse)] at hRun
      refine ⟨w₁, ⟨n, hRun⟩, hOn₁, hSelected₁, ?_⟩
      rw [hFramed.keypairs]
      rfl

/- The loop takes all of them. -/
theorem ContainersCard.listContainers
    (hCard :
      ContainersCard port (infoContent records) selected)
    (fresh : Nat → UInt8)
    (hSize : (infoContent records).length < 2 ^ 16)
    {w : Run K}
    (hOn : OnMias w.st)
    (hSelected : selected w.st.env) :
    ∃ w',
      Prog.Returns
          (fun n =>
            Se.listContainers port n
              (infoContent records).length fresh) w () w' ∧
        OnMias w'.st ∧
        w'.st.keypairs =
          (keyPairs fresh 0 records).reverse ++
            w.st.keypairs := by
  have hRounds : ∀ rest done, records = done ++ rest →
      ∀ w : Run K, OnMias w.st → selected w.st.env →
      ∃ w',
        Prog.Iterates
            (fun n => Se.containersRound port n
              (infoContent records).length fresh)
            { i := done.length % 2 ^ 8
              offset := 0x0B * done.length } w () w' ∧
          OnMias w'.st ∧
          w'.st.keypairs =
            (keyPairs fresh done.length rest).reverse ++
              w.st.keypairs := by
    intro rest
    induction rest with
    | nil =>
        intro done hRecords w hOn hSelected
        refine ⟨w, .last ⟨0, ?_⟩, hOn, rfl⟩
        rw [length_infoContent, hRecords, List.append_nil]
        unfold Se.containersRound
        simp
    | cons r rest ih =>
        intro done hRecords w hOn hSelected
        rcases hCard.containersRound fresh hRecords hSize hOn
          hSelected with
          ⟨w₁, hRound, hOn₁, hSelected₁, hPairs⟩
        rcases ih (done ++ [r])
          (by rw [hRecords, List.append_assoc]; rfl) w₁ hOn₁
          hSelected₁ with ⟨w', hRest, hOn', hPairs'⟩
        rw [List.length_append, List.length_singleton]
          at hRest hPairs'
        refine ⟨w', .next hRound hRest, hOn', ?_⟩
        rw [hPairs', hPairs, keyPairs, List.reverse_append,
          List.append_assoc]
        congr 1
        cases r.inUse with
        | true => rfl
        | false => rfl
  rcases hRounds records [] rfl w hOn hSelected with
    ⟨w', hIterates, hOn', hPairs⟩
  refine ⟨w', ?_, hOn', hPairs⟩
  exact (Prog.returns_loop (fun v =>
    (containersRound_transmission port _ fresh v).stable)).mpr
      hIterates

end Se

end TrustOnboard

------------------------------------------------------------
-- The File Directory
------------------------------------------------------------

namespace TrustOnboard

namespace Se

variable {K : Type}
variable {port : Port K}
variable {content : Bytes}
variable {selected : K → Prop}

/- Files are given to key pairs, which stay the same. -/
theorem map_plain_assignFile
    (container : Int)
    (file : UInt8 × UInt8)
    (l : List KeyPair) :
    (assignFile container file l).map KeyPair.plain =
      l.map KeyPair.plain := by
  induction l with
  | nil => rfl
  | cons kp rest ih =>
      unfold assignFile
      split
      · rfl
      · rw [List.map_cons, ih, List.map_cons]

/- The key pairs are the same but for their files. -/
structure SamePairs (s s' : Sys K) : Prop where
  onMias : OnMias s'
  plain :
    s'.keypairs.map KeyPair.plain =
      s.keypairs.map KeyPair.plain

theorem SamePairs.trans
    {s s' s'' : Sys K}
    (hFirst : SamePairs s s')
    (hThen : SamePairs s' s'') :
    SamePairs s s'' :=
  ⟨hThen.onMias, hThen.plain.trans hFirst.plain⟩

theorem SamePairs.of_framed
    {s s' : Sys K}
    (hOn : OnMias s)
    (hFramed : s.Framed s') :
    SamePairs s s' :=
  ⟨hFramed.onMias hOn, by rw [hFramed.keypairs]⟩

/- A round of the loop over the directory. -/
theorem ContainersCard.certificatesRound
    (hCard : ContainersCard port content selected)
    {w : Run K}
    (hOn : OnMias w.st)
    (size : Nat)
    (v : RecordLocals)
    (hLt : v.i < size) :
    ∃ w',
      Prog.Returns
          (fun n => Se.certificatesRound port n size v) w
          (.inl
            { i := (v.i + 1) % 2 ^ 8
              offset := (v.offset + 0x15) % 2 ^ 16 }) w' ∧
        SamePairs w.st w'.st := by
  rcases hCard.answersRead w v.offset 0x15 hOn with
    ⟨b, w₁, n, hRead⟩
  have hSame := SamePairs.of_framed hOn
    (readBinary_framed port n .mias _ _ w b w₁ hRead)
  have hRun :
      (Se.certificatesRound port n size v).run w =
        (some (.inl
            { i := (v.i + 1) % 2 ^ 8
              offset := (v.offset + 0x15) % 2 ^ 16 }),
          if b && namesCertificate w₁.st.iface.apduResponse then
            ⟨{ w₁.st with
              keypairs := assignFile
                (recordContainer w₁.st.iface.apduResponse)
                (w₁.st.iface.apduResponse 0,
                  w₁.st.iface.apduResponse 1)
                w₁.st.keypairs }, w₁.log⟩
          else w₁) := by
    unfold Se.certificatesRound
    rw [if_pos hLt, Prog.run_bind_of_run hRead]
    cases b with
    | false => rfl
    | true =>
        simp only [if_true, response, Prog.read,
          Prog.run_bind, Prog.run_step, List.nil_append,
          Bool.true_and]
        split
        · rfl
        · rfl
  refine ⟨_, ⟨n, hRun⟩, ?_⟩
  split
  · exact ⟨hSame.onMias,
      (map_plain_assignFile _ _ _).trans hSame.plain⟩
  · exact hSame

/- The loop over the directory. -/
theorem ContainersCard.listCertificates
    (hCard : ContainersCard port content selected)
    {w : Run K}
    (hOn : OnMias w.st)
    {size : Nat}
    (hSize : size < 2 ^ 8) :
    ∃ w',
      Prog.Returns
          (fun n => Se.listCertificates port n size) w () w' ∧
        SamePairs w.st w'.st := by
  have hRounds : ∀ left v, size - v.i = left → v.i ≤ size →
      ∀ w : Run K, OnMias w.st →
      ∃ w',
        Prog.Iterates
            (fun n => Se.certificatesRound port n size) v w ()
            w' ∧
          SamePairs w.st w'.st := by
    intro left
    induction left with
    | zero =>
        intro v hLeft hLe w hOn
        refine ⟨w, .last ⟨0, ?_⟩, hOn, rfl⟩
        unfold Se.certificatesRound
        dsimp only
        rw [if_neg (by omega)]
        rfl
    | succ left ih =>
        intro v hLeft hLe w hOn
        rcases hCard.certificatesRound hOn size v (by omega)
          with ⟨w₁, hRound, hSame⟩
        rcases ih
          { i := (v.i + 1) % 2 ^ 8
            offset := (v.offset + 0x15) % 2 ^ 16 }
          (by dsimp only; omega) (by dsimp only; omega) w₁
          hSame.onMias with ⟨w', hRest, hSame'⟩
        exact ⟨w', .next hRound hRest, hSame.trans hSame'⟩
  rcases hRounds size { i := 0, offset := 1 } rfl (by simp) w
    hOn with ⟨w', hIterates, hSame⟩
  refine ⟨w', ?_, hSame⟩
  exact (Prog.returns_loop (fun v =>
    (certificatesRound_transmission port size v).stable)).mpr
      hIterates

end Se

end TrustOnboard

------------------------------------------------------------
-- The Whole List
------------------------------------------------------------

namespace TrustOnboard

namespace Se

open Prog (LeadsTo Settles)

variable {K : Type}
variable {port : Port K}
variable {selected : K → Prop}
variable {records : List InfoRecord}
variable {fresh : Nat → UInt8}

theorem keyPairs_plain
    (fresh : Nat → UInt8)
    (number : Nat)
    (records : List InfoRecord) :
    (keyPairs fresh number records).map KeyPair.plain =
      keyPairs fresh number records := by
  induction records generalizing number with
  | nil => rfl
  | cons r records ih =>
      rw [keyPairs, List.map_append, ih]
      congr 1
      cases r.inUse with
      | false => rfl
      | true =>
          change [(r.keyPair fresh number).plain] = _
          rw [InfoRecord.keyPair_eq]
          rfl

/- What follows the containers file in `listKeyPairs`. -/
theorem ContainersCard.directory
    {content : Bytes}
    (hCard : ContainersCard port content selected)
    {w : Run K}
    (hOn : OnMias w.st) :
    ∃ w',
      Settles
          (fun n => do
            let ok ← selectDirectory port n
            if ok then do
              let ok ← readBinary port n .mias 0 0x01
              if ok then do
                let record ← response
                Se.listCertificates port n (record 0).toNat
              else
                pure ()
            else
              pure ()
            pure true) w true w' ∧
        SamePairs w.st w'.st := by
  rcases hCard.answersDirectory w hOn with
    ⟨b, w₁, hSelect⟩
  have hSelected := hSelect.settles
    (select_transmission port .mias _ _).stable
  have hSame := SamePairs.of_framed hOn
    (Prog.Relates.returns
      (fun n => selectFile_framed port n .mias _ _) hSelect)
  cases b with
  | false =>
      exact ⟨w₁, LeadsTo.bind hSelected _, hSame⟩
  | true =>
  rcases hCard.answersRead w₁ 0 0x01 hSame.onMias with
    ⟨b, w₂, hRead⟩
  have hReading := hRead.settles
    (readBinary_transmission port .mias 0 0x01).stable
  have hSame₂ := SamePairs.of_framed hSame.onMias
    (Prog.Relates.returns
      (fun n => readBinary_framed port n .mias 0 0x01) hRead)
  cases b with
  | false =>
      exact ⟨w₂,
        (LeadsTo.bind hSelected _).trans
          (LeadsTo.bind hReading _),
        hSame.trans hSame₂⟩
  | true =>
  rcases hCard.listCertificates hSame₂.onMias
    (w₂.st.iface.apduResponse 0).toNat_lt with
    ⟨w₃, hList, hSame₃⟩
  have hListed := hList.settles
    (listCertificates_transmission port _).stable
  refine ⟨w₃, ?_, hSame.trans (hSame₂.trans hSame₃)⟩
  refine (LeadsTo.bind hSelected _).trans ?_
  refine (LeadsTo.bind hReading _).trans ?_
  exact LeadsTo.trans ⟨0, fun _ _ => rfl⟩
    (LeadsTo.bind hListed (fun _ _ => pure true))

/- The list of key pairs is made from the records. -/
theorem ContainersCard.listKeyPairs
    (hCard :
      ContainersCard port (infoContent records) selected)
    {w : Run K}
    (hOn : OnMias w.st)
    (hNone : w.st.keypairs = []) :
    ∃ w',
      Settles (fun n => Se.listKeyPairs port n fresh) w true
          w' ∧
        OnMias w'.st ∧
        w'.st.keypairs.map KeyPair.plain =
          (keyPairs fresh 0 records).reverse := by
  rcases hCard.selects w hOn with
    ⟨w₁, hSelect, hSelected₁, hDescribes⟩
  have hFramed : w.st.Framed w₁.st :=
    Prog.Relates.returns
      (fun n => selectFile_framed port n .mias _ _) hSelect
  have hSelecting := hSelect.settles
    (select_transmission port .mias _ _).stable
  have hSize : (infoContent records).length < 2 ^ 16 := by
    rcases hDescribes with ⟨_, v, _, _, _, _, hValue⟩
    have hHigh := (v.getD 0 0).toNat_lt
    have hLow := (v.getD 1 0).toNat_lt
    unfold bigEndian word at hValue
    omega
  rcases containersSize_describes (hFramed.onMias hOn)
    hDescribes with ⟨w₂, hParse, hState⟩
  have hParsed := hParse.settles
    containersSize_transmission.stable
  rcases hCard.listContainers fresh hSize (w := w₂)
    (by rw [hState]; exact hFramed.onMias hOn)
    (by rw [hState]; exact hSelected₁) with
    ⟨w₃, hList, hOn₃, hPairs⟩
  have hListed := hList.settles
    (listContainers_transmission port _ fresh).stable
  rcases hCard.directory hOn₃ with ⟨w₄, hRest, hSame⟩
  refine ⟨w₄, ?_, hSame.onMias, ?_⟩
  · have hStart : LeadsTo
        (fun n => Se.listKeyPairs port n fresh) w
        (fun n => do
          let ok ← selectContainers port n
          if ok then
            listSelectedKeyPairs port n fresh
          else
            pure false) w := by
      refine ⟨0, fun n _ => ?_⟩
      unfold Se.listKeyPairs
      simp only [Prog.read, Prog.run_bind, Prog.run_step,
        hNone, List.isEmpty_nil, Bool.not_true,
        Bool.false_eq_true, if_false, List.nil_append]
      rfl
    refine hStart.trans ?_
    refine (LeadsTo.bind hSelecting _).trans ?_
    refine LeadsTo.trans (LeadsTo.bind hParsed
      (fun n r =>
        if r.1 then
          listKeyPairsOfSize port n (r.2.getD 0) fresh
        else
          pure false)) ?_
    exact LeadsTo.trans (LeadsTo.bind hListed _) hRest
  · rw [hSame.plain, hPairs, hState, hFramed.keypairs, hNone,
      List.append_nil, List.map_reverse, keyPairs_plain]

end Se

end TrustOnboard

------------------------------------------------------------
-- Looking Up
------------------------------------------------------------

namespace TrustOnboard

namespace Se

open Prog (LeadsTo Settles)

variable {K : Type}
variable {port : Port K}
variable {selected : K → Prop}
variable {records : List InfoRecord}
variable {fresh : Nat → UInt8}
variable {s : Sys K}

/- Looking up a container, for the first time or later. -/
theorem ContainersCard.getKeyPair
    (hCard :
      ContainersCard port (infoContent records) selected)
    (hKnown : Known records fresh s)
    (c : UInt8) :
    ∃ result w,
      Settles
          (fun n => getKeyPairByContainerId port n fresh c)
          ⟨s, []⟩ result w ∧
        Known records fresh w.st ∧
        result.map KeyPair.plain =
          lookup records fresh c.toNat := by
  -- The list is made, or it is there already.
  have hList : ∃ w,
      Settles (fun n => Se.listKeyPairs port n fresh)
          ⟨s, []⟩ true w ∧
        OnMias w.st ∧
        w.st.keypairs.map KeyPair.plain =
          (keyPairs fresh 0 records).reverse := by
    by_cases hNone : s.keypairs = []
    · exact hCard.listKeyPairs hKnown.onMias hNone
    · refine ⟨⟨s, []⟩, ⟨0, fun n _ => ?_⟩, hKnown.onMias,
        hKnown.list.resolve_left hNone⟩
      unfold Se.listKeyPairs
      simp [Prog.read, Prog.run_bind, hNone]
  rcases hList with ⟨w, hListed, hOn, hPairs⟩
  refine ⟨w.st.keypairs.find?
      (fun kp => kp.container == (c.toNat : Int)), w, ?_,
    ⟨hOn, Or.inr hPairs⟩, ?_⟩
  · exact (LeadsTo.bind hListed _).trans
      ⟨0, fun n _ => rfl⟩
  · unfold lookup
    rw [← hPairs, List.find?_map]
    rfl

/- Lookups keep what is known. -/
theorem Earlier.known
    (hCard :
      ContainersCard port (infoContent records) selected)
    {s' : Sys K}
    (hEarlier : Earlier port fresh s s')
    (hKnown : Known records fresh s) :
    Known records fresh s' := by
  induction hEarlier with
  | start => exact hKnown
  | lookup s' c result w hEarlier hReturns ih =>
      rcases hCard.getKeyPair ih c with
        ⟨result', w', ⟨m, hSettles⟩, hAfter, -⟩
      have hSame := Prog.Returns.unique
        (getKeyPair_transmission port fresh c).stable
        hReturns ⟨m, hSettles m (Nat.le_refl m)⟩
      rw [hSame.2]
      exact hAfter

/- What is asked of a result does not concern its file. -/
theorem findsKey_plain
    {c : Nat}
    {result : Option KeyPair} :
    FindsKey records fresh c (result.map KeyPair.plain) ↔
      FindsKey records fresh c result := by
  cases result with
  | none => rfl
  | some kp =>
      have hKey : ∀ r,
          IsKeyOf records fresh c r kp.plain ↔
            IsKeyOf records fresh c r kp :=
        fun r =>
          ⟨fun h => ⟨h.1, h.2, h.3, h.4, h.5⟩,
            fun h => ⟨h.1, h.2, h.3, h.4, h.5⟩⟩
      constructor
      · intro hFinds
        refine ⟨hFinds.found, ?_⟩
        intro kp' r hSame hAt
        cases hSame
        exact (hKey r).mp (hFinds.key _ r rfl hAt)
      · intro hFinds
        refine ⟨hFinds.found, ?_⟩
        intro kp' r hSame hAt
        cases hSame
        exact (hKey r).mpr (hFinds.key _ r rfl hAt)

/- Lookups on a card are lookups among the key pairs. -/
theorem looksUp_iff_lookup
    (hCard :
      ContainersCard port (infoContent records) selected)
    (hOn : OnMias s)
    (hFirst : s.keypairs = [])
    (c : UInt8) :
    LooksUp port records c s ↔
      ∀ fresh, FindsKey records fresh c.toNat
        (lookup records fresh c.toNat) := by
  have hStart : ∀ fresh, Known records fresh s :=
    fun _ => ⟨hOn, Or.inl hFirst⟩
  constructor
  case mp =>
    intro hLooks fresh
    rcases hLooks fresh s .start with
      ⟨result, w, ⟨m, hSettles⟩, hFinds⟩
    rcases hCard.getKeyPair (hStart fresh) c with
      ⟨result', w', ⟨m', hSettles'⟩, -, hLookup⟩
    have hSame := Prog.Returns.unique
      (getKeyPair_transmission port fresh c).stable
      ⟨m, hSettles m (Nat.le_refl m)⟩
      ⟨m', hSettles' m' (Nat.le_refl m')⟩
    rw [← hLookup, ← hSame.1, findsKey_plain]
    exact hFinds
  case mpr =>
    intro hAll fresh s' hEarlier
    rcases hCard.getKeyPair
      (hEarlier.known hCard (hStart fresh)) c with
      ⟨result, w, hSettles, -, hLookup⟩
    refine ⟨result, w, hSettles, ?_⟩
    rw [← findsKey_plain, hLookup]
    exact hAll fresh

/-
  For every containers file, every card that holds it and
  every container: looking the container up returns the key
  pair of its record if that is in use, and nothing if not,
  exactly if the container is distinguished.
-/
theorem containers_found_iff
    (port : Port K)
    (records : List InfoRecord)
    (selected : K → Prop)
    (hCard :
      ContainersCard port (infoContent records) selected)
    (s : Sys K)
    (hOn : OnMias s)
    (hFirst : s.keypairs = [])
    (c : UInt8) :
    LooksUp port records c s ↔
      Distinguished records c.toNat :=
  (looksUp_iff_lookup hCard hOn hFirst c).trans
    (lookup_finds_iff records c.toNat)

end Se

end TrustOnboard

------------------------------------------------------------
-- A Card With Records
------------------------------------------------------------

namespace TrustOnboard

namespace Se

/- Only the containers file is on the card. -/
def infoAnswer (content bs : Bytes) : Reply :=
  match bs with
  | [_, 0xB0, p1, p2, 0x0B] =>
      ⟨true, (content.drop (word p1 p2)).take 0x0B ++
        [0x90, 0x00], by
          rw [List.length_append, List.length_take]
          simp only [List.length_cons, List.length_nil]
          omega⟩
  | [_, 0xA4, 0x08, 0x04, 0x02, 0x00, 0x02, 0x15] =>
      ⟨true, [0x62, 0x04, 0x81, 0x02,
        .ofNat (content.length / 2 ^ 8), .ofNat content.length,
        0x90, 0x00], by simp⟩
  | _ => ⟨true, [0x6A, 0x82], notFound_fits⟩

theorem request_data
    (data : Bytes)
    (hFits : (data ++ [0x90, 0x00]).length ≤ 258) :
    Reply.request ⟨true, data ++ [0x90, 0x00], hFits⟩ =
      .final := by
  match data with
  | [] => rfl
  | [_] => rfl
  | [_, _] => rfl
  | _ :: _ :: _ :: _ => rfl

theorem infoAnswer_final
    (content bs : Bytes) :
    (infoAnswer content bs).request = .final := by
  unfold infoAnswer
  split
  · exact request_data _ _
  · rfl
  · rfl

theorem infoAnswer_select
    (content : Bytes)
    (cla : UInt8) :
    let r := infoAnswer content
      [cla, 0xA4, 0x08, 0x04, 0x02, 0x00, 0x02, 0x15]
    r.ok = true ∧
      r.bytes =
        [0x62, 0x04, 0x81, 0x02,
          .ofNat (content.length / 2 ^ 8),
          .ofNat content.length] ++ [0x90, 0x00] :=
  ⟨rfl, rfl⟩

theorem infoAnswer_read
    (content : Bytes)
    (cla p1 p2 : UInt8) :
    let r := infoAnswer content [cla, 0xB0, p1, p2, 0x0B]
    r.ok = true ∧
      r.bytes =
        (content.drop (word p1 p2)).take 0x0B ++
          [0x90, 0x00] :=
  ⟨rfl, rfl⟩

/- What is received with 9000. -/
theorem exchanged_data
    {answer : Bytes → Reply}
    {s : Sys Unit}
    {bs data : Bytes}
    (hAnswer :
      (answer bs).ok = true ∧
        (answer bs).bytes = data ++ [0x90, 0x00]) :
    let port := steadyCard answer
    ((port.transmitApdu bs s.env).1.ok &&
        (s.exchanged port bs).iface.getStatusWord ==
          0x9000) = true ∧
      (s.exchanged port bs).iface.getResponse = data := by
  intro port
  have hIface : (s.exchanged port bs).iface =
      (s.iface.withCommand bs).receive
        (data ++ [0x90, 0x00]) := by
    unfold Sys.exchanged
    rw [← hAnswer.2]
    rfl
  have hData := receive_data (s.iface.withCommand bs) data
    0x90 0x00
  have hOk : (port.transmitApdu bs s.env).1.ok = true :=
    hAnswer.1
  rw [hIface, hOk, hData.1, hData.2]
  exact ⟨by decide, rfl⟩

/- The card is one with that file. -/
theorem infoCard
    {content : Bytes}
    (hFits : content.length < 2 ^ 16) :
    ContainersCard (steadyCard (infoAnswer content)) content
      (fun _ => True) := by
  have hAtOnce : AnswersAtOnce
      (steadyCard (infoAnswer content)) :=
    fun bs _ => infoAnswer_final content bs
  constructor
  case selects =>
    intro w hOn
    have hRun :=
      hAtOnce.succeeds hOn
        (fun channel =>
          [0x00 ||| channel, 0xA4, 0x08, 0x04, 0x02, 0x00,
            0x02, 0x15])
        (fun _ => by simp) 0 w.log
    have hData := exchanged_data (s := w.st)
      (infoAnswer_select content
        (0x00 ||| (w.st.applets .mias).channel))
    dsimp only at hRun hData
    rw [hData.1] at hRun
    refine ⟨_, ⟨1, hRun⟩, trivial, ?_⟩
    refine ⟨[⟨0x81, [.ofNat (content.length / 2 ^ 8),
      .ofNat content.length]⟩], _, ⟨hData.2, ?_, ?_⟩, ?_, rfl,
      rfl, word_of_efid hFits⟩
    · intro t ht
      cases List.mem_singleton.mp ht
      exact Nat.lt_of_le_of_lt (Nat.le_refl 2) (by decide)
    · exact Nat.lt_of_le_of_lt (Nat.le_refl 4) (by decide)
    · exact Nat.le_trans (Nat.le_refl 4) (by decide)
  case reads =>
    intro w offset hOn _ hInside
    have hWord : word (.ofNat (offset / 2 ^ 8))
        (.ofNat offset) = offset :=
      word_of_efid (by omega)
    have hData := exchanged_data (s := w.st)
      (infoAnswer_read content
        (0x00 ||| (w.st.applets .mias).channel)
        (.ofNat (offset / 2 ^ 8)) (.ofNat offset))
    rw [hWord] at hData
    exact ⟨_, (hAtOnce.readBinary hOn).mpr
      ⟨hData.1.symm, rfl⟩, trivial, hData.2⟩
  case answersDirectory =>
    intro w hOn
    exact ⟨_, _, 1, hAtOnce.succeeds hOn
      (fun channel =>
        [0x00 ||| channel, 0xA4, 0x08, 0x04, 0x02, 0x01, 0x01,
          0x15])
      (fun _ => by simp) 0 w.log⟩
  case answersRead =>
    intro w offset le hOn
    exact ⟨_, _, (hAtOnce.readBinary hOn).mpr ⟨rfl, rfl⟩⟩

/- A signature key of 2048 bits, in use. -/
def signatureRecord : InfoRecord where
  bytes :=
    [0x01, 0x00, 0x00, 0x00, 0x08, 0x00, 0x00, 0x00, 0x00,
      0x00, 0x00]
  hLength := rfl

/- The sixteenth of sixteen keys is not found. -/
theorem sixteenth_key_not_found :
    ¬ ∀ (port : Port Unit) (records : List InfoRecord)
        (selected : Unit → Prop),
      ContainersCard port (infoContent records) selected →
      ∀ s, OnMias s → s.keypairs = [] →
        ∀ c, LooksUp port records c s := by
  intro hAll
  let records := List.replicate 16 signatureRecord
  have hFits : (infoContent records).length < 2 ^ 16 := by
    rw [length_infoContent, List.length_replicate]
    decide
  have hLooks := hAll _ records _ (infoCard hFits)
    (Sys.start ()) rfl rfl 15
  have hDistinguished :=
    (lookup_finds_iff records 15).mp
      ((looksUp_iff_lookup (s := Sys.start ()) (infoCard hFits)
        rfl rfl 15).mp hLooks)
  exact absurd (hDistinguished signatureRecord rfl) (by decide)

/- The only one is. -/
theorem containers_found_iff_signature :
    (LooksUp
        (steadyCard
          (infoAnswer (infoContent [signatureRecord])))
        [signatureRecord] 0 (Sys.start ()) ↔
      Distinguished [signatureRecord] 0) ∧
      Distinguished [signatureRecord] 0 := by
  constructor
  · exact containers_found_iff _ _ _
      (infoCard (by rw [length_infoContent]; decide))
      (Sys.start ()) rfl rfl 0
  · intro j r hAt hUse
    cases j with
    | zero =>
        cases hAt
        exact ⟨by decide, fun _ => rfl⟩
    | succ j => cases hAt

end Se

end TrustOnboard
