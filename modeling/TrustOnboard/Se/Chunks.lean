import TrustOnboard.Se.Transmission
import TrustOnboard.Se.P11

/-
  What the readers of files make of the chunks a card gives
  them.

  The reader of elementary files stops at a chunk that is
  refused.  The readers of certificates and of objects go on
  behind it, and leave what the memory held before.  An
  empty chunk makes all three ask again.

  Key definitions include:
    * `Serves`
    * `Asked`
    * `Right`

  Key results include:
    * `readEFData_right_iff`
    * `readCertificateData_right_iff`
    * `readValue_right_iff`
-/

------------------------------------------------------------
-- Cards With Files
------------------------------------------------------------

namespace TrustOnboard

namespace Se

variable {K : Type}

/- The number of bytes a response length asks for. -/
def asked (le : UInt8) : Nat :=
  if le = 0 then 256 else le.toNat

/-
  While a file is selected, READ BINARY leaves it so, and if
  it succeeds it gives bytes of the file from the offset on,
  at most as many as it was asked for.
-/
structure Serves
    (port : Port K)
    (file : Buffer)
    (inFile : K → Prop) : Prop where
  stays :
    ∀ name offset le w b w', inFile w.st.env →
      Prog.Returns (fun n => readBinary port n name offset le)
        w b w' →
      inFile w'.st.env
  data :
    ∀ name offset le w w', inFile w.st.env →
      offset < 2 ^ 16 →
      Prog.Returns (fun n => readBinary port n name offset le)
        w true w' →
      ∃ m, m ≤ asked le ∧
        w'.st.iface.getResponse = file.load offset m

/- A chunk that came, or one that did not. -/
inductive Chunk where
  | got (i len : Nat)
  | lost (i len : Nat)
  deriving DecidableEq, Repr

/- READ BINARY for the chunk that starts at an index. -/
def chunkRead
    (reader : ChunkReader)
    (port : Port K)
    (base size i fuel : Nat) : Code K Bool :=
  readBinary port fuel reader.name ((base + i) % 2 ^ 16)
    (.ofNat (reader.ask size i))

/-
  The chunks that come of it when a reader asks a card for
  one after the other, from the byte with index `i` on.
-/
inductive Asked
    (reader : ChunkReader)
    (port : Port K)
    (base size : Nat) :
    Nat → Sys K → List Chunk → Prop where
  | done {i : Nat} {s : Sys K}
      (hDone : size ≤ i) :
      Asked reader port base size i s []
  | got {i : Nat} {s s' : Sys K} {es : List Event}
      {cs : List Chunk}
      (hLt : i < size)
      (hCame :
        Prog.Returns (chunkRead reader port base size i)
          ⟨s, []⟩ true ⟨s', es⟩)
      (hRest :
        Asked reader port base size
          (i + s'.iface.getResponseLength) s' cs) :
      Asked reader port base size i s
        (.got i s'.iface.getResponseLength :: cs)
  | lost {i : Nat} {s s' : Sys K} {es : List Event}
      {cs : List Chunk}
      (hSkips : reader.skips = true)
      (hLt : i < size)
      (hRefused :
        Prog.Returns (chunkRead reader port base size i)
          ⟨s, []⟩ false ⟨s', es⟩)
      (hRest :
        Asked reader port base size
          (i + reader.ask size i) s' cs) :
      Asked reader port base size i s
        (.lost i (reader.ask size i) :: cs)
  | refused {i : Nat} {s s' : Sys K} {es : List Event}
      (hStops : reader.skips = false)
      (hLt : i < size)
      (hRefused :
        Prog.Returns (chunkRead reader port base size i)
          ⟨s, []⟩ false ⟨s', es⟩) :
      Asked reader port base size i s
        [.lost i (reader.ask size i)]

/- No chunk was lost. -/
def Complete (cs : List Chunk) : Prop :=
  ∀ i len, .lost i len ∉ cs

/- The byte with index `j` came. -/
def Covered (cs : List Chunk) (j : Nat) : Prop :=
  ∃ i len, .got i len ∈ cs ∧ i ≤ j ∧ j < i + len

/-
  The first two bytes came and are those of a certificate
  that is compressed; the byte behind a file of one byte is
  the 0 that is put there.
-/
def StartsCompressed
    (file : Buffer)
    (size : Nat)
    (cs : List Chunk) : Prop :=
  (Covered cs 0 ∧ file 0 = 0x01) ∧
    (size = 1 ∨ Covered cs 1 ∧ file 1 = 0x00)

end Se

end TrustOnboard

------------------------------------------------------------
-- What Is Expected
------------------------------------------------------------

namespace TrustOnboard

namespace Se

variable {K : Type}

/-
  The memory holds `size` bytes of a file and a 0, the
  length is reported with it, and nothing was written outside
  of what was allocated.
-/
structure HoldsFile
    (file : Buffer)
    (base size n : Nat)
    (w : Run K) : Prop where
  bytes : w.st.block.load 0 size = file.load base size
  nul : w.st.block size = 0
  length : n = size + 1
  bounds :
    ∃ a, .allocated a ∈ w.log ∧
      ∀ off len, .wrote .block off len ∈ w.log →
        off + len ≤ a

/-
  Whatever the memory holds before, a reader ends and only
  succeeds with the whole file.
-/
structure Right
    (file : Buffer)
    (base size : Nat)
    (code : Nat → Code K (Bool × Nat))
    (s : Sys K)
    (l : List Event) : Prop where
  ends :
    ∀ b, ∃ r w', Prog.Returns code ⟨s.withBlock b, l⟩ r w'
  holds :
    ∀ b n w',
      Prog.Returns code ⟨s.withBlock b, l⟩ (true, n) w' →
        HoldsFile file base size n w'

end Se

end TrustOnboard

------------------------------------------------------------
-- Rounds
------------------------------------------------------------

namespace TrustOnboard

namespace Se

variable {K : Type}
variable {port : Port K}
variable {reader : ChunkReader}
variable {base size : Nat}

theorem chunkRead_transmission
    (reader : ChunkReader)
    (port : Port K)
    (base size i : Nat) :
    Transmission (chunkRead reader port base size i) :=
  readBinary_transmission _ _ _ _

/- A chunk only comes through an applet that is selected. -/
theorem readBinary_selected
    {name : AppletName}
    {offset : Nat}
    {le : UInt8}
    {w w' : Run K}
    (hReturns :
      Prog.Returns (fun n => readBinary port n name offset le)
        w true w') :
    (w.st.applets name).isSelected = true := by
  rcases hReturns with ⟨n, hRun⟩
  by_contra hNot
  unfold readBinary succeeds Applet.transmitCase2 onChannel
    at hRun
  simp only [Prog.run_bind, Prog.read, Prog.run_step, hNot]
    at hRun
  cases hRun

/- What follows the reading of a chunk. -/
def afterChunk
    (reader : ChunkReader)
    (size i : Nat)
    (ok : Bool) : Code K (Nat ⊕ Option Nat) := do
  if ok then do
    let bs ← Applet.getResponse reader.name
    writeBlock i bs
    pure (.inl ((i + bs.length % 2 ^ reader.bits) % 2 ^ 16))
  else if reader.skips then
    pure (.inl ((i + reader.ask size i) % 2 ^ 16))
  else
    pure (.inr none)

theorem round_stable
    (reader : ChunkReader)
    (port : Port K)
    (base size i : Nat) :
    Prog.Stable
      (fun n => reader.round port n base size i) := by
  simp only [ChunkReader.round]
  apply Prog.Stable.ite
  · exact (chunkRead_transmission reader port base size
      i).stable.bind (fun _ => Prog.Stable.const _)
  · exact Prog.Stable.const _

/- The loop ends when everything was asked for. -/
theorem round_done
    {i : Nat}
    (hDone : size ≤ i)
    {w w' : Run K}
    {r : Nat ⊕ Option Nat} :
    Prog.Returns (fun n => reader.round port n base size i)
        w r w' ↔
      r = .inr (some i) ∧ w' = w := by
  simp only [ChunkReader.round, if_neg (Nat.not_lt.mpr hDone)]
  rw [Prog.returns_const]
  constructor
  · intro hRun
    cases hRun
    exact ⟨rfl, rfl⟩
  · rintro ⟨rfl, rfl⟩
    rfl

/- A round that asks for a chunk. -/
theorem round_asks
    {i : Nat}
    (hLt : i < size)
    {s : Sys K}
    {b : Buffer}
    {l : List Event}
    {w' : Run K}
    {r : Nat ⊕ Option Nat} :
    Prog.Returns (fun n => reader.round port n base size i)
        ⟨s.withBlock b, l⟩ r w' ↔
      (∃ s' es,
        Prog.Returns (chunkRead reader port base size i)
            ⟨s, []⟩ true ⟨s', es⟩ ∧
          r = .inl
            ((i + s'.iface.getResponseLength %
              2 ^ reader.bits) % 2 ^ 16) ∧
          w' =
            ⟨s'.withBlock (b.store i s'.iface.getResponse),
              .wrote .block i s'.iface.getResponseLength ::
                (es ++ l)⟩) ∨
      (∃ s' es,
        Prog.Returns (chunkRead reader port base size i)
            ⟨s, []⟩ false ⟨s', es⟩ ∧
          r = (if reader.skips then
              .inl ((i + reader.ask size i) % 2 ^ 16)
            else .inr none) ∧
          w' = ⟨s'.withBlock b, es ++ l⟩) := by
  have hSends :=
    chunkRead_transmission reader port base size i
  have hSame : ∀ {s' : Sys K} {es : List Event},
      Prog.Returns (chunkRead reader port base size i)
        ⟨s, []⟩ true ⟨s', es⟩ →
      (s'.applets reader.name).isSelected = true := by
    intro s' es hReturns
    rcases hSends.returns hReturns with ⟨_, _, hSent⟩
    rw [hSent.applets]
    exact readBinary_selected hReturns
  have hGot : ∀ {s' : Sys K} {es : List Event},
      (s'.applets reader.name).isSelected = true →
      (afterChunk reader size i true).run
          ⟨s'.withBlock b, es ++ l⟩ =
        (some (.inl
            ((i + s'.iface.getResponseLength %
              2 ^ reader.bits) % 2 ^ 16)),
          ⟨s'.withBlock (b.store i s'.iface.getResponse),
            .wrote .block i s'.iface.getResponseLength ::
              (es ++ l)⟩) := by
    intro s' es hOn
    have hLen :
        s'.iface.getResponse.length =
          s'.iface.getResponseLength :=
      Buffer.length_load _ _ _
    change (some _, _) = _
    simp only [Sys.withBlock, hOn, if_true, hLen]
    rfl
  simp only [ChunkReader.round, if_pos hLt]
  refine (Prog.returns_bind
    (q := fun _ => afterChunk reader size i) hSends.stable
    (fun _ => Prog.Stable.const _)).trans ?_
  constructor
  case mp =>
    rintro ⟨ok, w₁, hRead, hAfter⟩
    rcases hSends.returns_iff.mp hRead with
      ⟨s', es, hAlone, rfl⟩
    rw [Prog.returns_const] at hAfter
    cases ok with
    | true =>
        left
        rw [hGot (hSame hAlone)] at hAfter
        cases hAfter
        exact ⟨s', es, hAlone, rfl, rfl⟩
    | false =>
        right
        refine ⟨s', es, hAlone, ?_⟩
        cases hSkips : reader.skips with
        | true =>
            simp only [afterChunk, hSkips] at hAfter
            cases hAfter
            exact ⟨rfl, rfl⟩
        | false =>
            simp only [afterChunk, hSkips] at hAfter
            cases hAfter
            exact ⟨rfl, rfl⟩
  case mpr =>
    rintro (⟨s', es, hAlone, rfl, rfl⟩ |
      ⟨s', es, hAlone, rfl, rfl⟩)
    · refine ⟨true, _, hSends.returns_iff.mpr
        ⟨s', es, hAlone, rfl⟩, ?_⟩
      rw [Prog.returns_const, hGot (hSame hAlone)]
    · refine ⟨false, _, hSends.returns_iff.mpr
        ⟨s', es, hAlone, rfl⟩, ?_⟩
      rw [Prog.returns_const]
      cases hSkips : reader.skips with
      | true =>
          simp only [afterChunk, hSkips]
          rfl
      | false =>
          simp only [afterChunk, hSkips]
          rfl

end Se

end TrustOnboard

------------------------------------------------------------
-- Runs
------------------------------------------------------------

namespace TrustOnboard

namespace Se

variable {K : Type}
variable {port : Port K}
variable {reader : ChunkReader}
variable {base size : Nat}
variable {file : Buffer}
variable {inFile : K → Prop}

/- A reader asks for some of what is left, in eight bits. -/
structure ChunkReader.Sound (reader : ChunkReader) : Prop where
  pos : ∀ size i, i < size → 0 < reader.ask size i
  small : ∀ size i, i < size → reader.ask size i < 2 ^ 8
  fits : ∀ size i, i < size → i + reader.ask size i ≤ size
  bits : 8 ≤ reader.bits

theorem efChunks_sound : efChunks.Sound where
  pos := by
    intro size i hLt
    change 0 < toread size i
    unfold toread
    split <;> omega
  small := by
    intro size i hLt
    change toread size i < 2 ^ 8
    unfold toread
    split <;> omega
  fits := by
    intro size i hLt
    change i + toread size i ≤ size
    unfold toread
    split <;> omega
  bits := by decide

theorem chunkLen_bounds
    {size i : Nat}
    (hLt : i < size) :
    0 < chunkLen size i ∧ chunkLen size i < 2 ^ 8 ∧
      i + chunkLen size i ≤ size := by
  unfold chunkLen
  split <;> omega

theorem certificateChunks_sound : certificateChunks.Sound where
  pos := fun _ _ hLt => (chunkLen_bounds hLt).1
  small := fun _ _ hLt => (chunkLen_bounds hLt).2.1
  fits := fun _ _ hLt => (chunkLen_bounds hLt).2.2
  bits := by decide

theorem valueChunks_sound : valueChunks.Sound where
  pos := fun _ _ hLt => (chunkLen_bounds hLt).1
  small := fun _ _ hLt => (chunkLen_bounds hLt).2.1
  fits := fun _ _ hLt => (chunkLen_bounds hLt).2.2
  bits := by decide

/- What a chunk that came is. -/
structure Came
    (file : Buffer)
    (inFile : K → Prop)
    (off most : Nat)
    (s' : Sys K) : Prop where
  data :
    s'.iface.getResponse =
      file.load off s'.iface.getResponseLength
  most : s'.iface.getResponseLength ≤ most

theorem Serves.came
    (hServes : Serves port file inFile)
    (hSound : reader.Sound)
    (hSize : base + size < 2 ^ 16)
    {i : Nat}
    (hLt : i < size)
    {s s' : Sys K}
    {es : List Event}
    (hIn : inFile s.env)
    (hRead :
      Prog.Returns (chunkRead reader port base size i)
        ⟨s, []⟩ true ⟨s', es⟩) :
    Came file inFile (base + i) (reader.ask size i) s' := by
  have hOff : (base + i) % 2 ^ 16 = base + i := by omega
  have hPos := hSound.pos size i hLt
  have hSmall := hSound.small size i hLt
  rcases hServes.data reader.name ((base + i) % 2 ^ 16) _ _ _
    hIn (by omega) hRead with ⟨m, hMost, hData⟩
  have hLen : s'.iface.getResponseLength = m := by
    have hLength := congrArg List.length hData
    simpa [SEInterface.getResponse] using hLength
  have hByte :
      (UInt8.ofNat (reader.ask size i)).toNat =
        reader.ask size i := by
    rw [UInt8.toNat_ofNat']
    omega
  have hAsked :
      asked (.ofNat (reader.ask size i)) =
        reader.ask size i := by
    unfold asked
    rw [if_neg ?_, hByte]
    intro hZero
    rw [hZero] at hByte
    change 0 = _ at hByte
    omega
  rw [hAsked] at hMost
  rw [hOff] at hData
  dsimp only at hData
  constructor
  case data => rw [hLen, hData]
  case most => omega

/- The file stays selected, and no memory is written. -/
theorem Serves.after
    (hServes : Serves port file inFile)
    {i : Nat}
    {s s' : Sys K}
    {es : List Event}
    {ok : Bool}
    (hIn : inFile s.env)
    (hRead :
      Prog.Returns (chunkRead reader port base size i)
        ⟨s, []⟩ ok ⟨s', es⟩) :
    inFile s'.env ∧ NoMemory es := by
  refine ⟨hServes.stays _ _ _ _ _ _ hIn hRead, ?_⟩
  rcases (chunkRead_transmission _ _ _ _ i).returns hRead with
    ⟨es', hLog, hSent⟩
  rw [List.append_nil] at hLog
  change es = es' at hLog
  rw [hLog]
  exact hSent.events

/- The memory after a chunk. -/
def put
    (file : Buffer)
    (base : Nat)
    (b : Buffer) :
    Chunk → Buffer
  | .got i len => b.store i (file.load (base + i) len)
  | .lost _ _ => b

/- The memory after some chunks. -/
def applied
    (file : Buffer)
    (base : Nat)
    (b : Buffer)
    (cs : List Chunk) : Buffer :=
  cs.foldl (put file base) b

/- What the loop returns for some chunks. -/
def outcome
    (reader : ChunkReader)
    (size : Nat)
    (cs : List Chunk) : Option Nat :=
  if ! reader.skips && cs.any (fun
      | .lost _ _ => true
      | .got _ _ => false) then
    none
  else some size

/- The only memory that is written is that of the file. -/
def WritesUpTo (n : Nat) (es : List Event) : Prop :=
  ∀ e ∈ es, e.isMemory = true →
    ∃ off len, e = .wrote .block off len ∧ off + len ≤ n

theorem NoMemory.writesUpTo
    {es : List Event}
    (hFree : NoMemory es)
    (n : Nat) :
    WritesUpTo n es := by
  intro e he hMemory
  rw [hFree e he] at hMemory
  cases hMemory

theorem WritesUpTo.append
    {n : Nat}
    {es l : List Event}
    (hLeft : WritesUpTo n es)
    (hRight : WritesUpTo n l) :
    WritesUpTo n (es ++ l) := by
  intro e he
  rcases List.mem_append.mp he with hNew | hOld
  · exact hLeft e hNew
  · exact hRight e hOld

/- What the loop does with the chunks a card gives. -/
theorem Asked.iterates
    (hServes : Serves port file inFile)
    (hSound : reader.Sound)
    (hSize : base + size < 2 ^ 16)
    {i : Nat}
    {s : Sys K}
    {cs : List Chunk}
    (hAsked : Asked reader port base size i s cs)
    (hLe : i ≤ size)
    (hIn : inFile s.env)
    (b : Buffer)
    (l : List Event) :
    ∃ (s' : Sys K) (es : List Event),
      Prog.Iterates
          (fun n => reader.round port n base size) i
          ⟨s.withBlock b, l⟩ (outcome reader size cs)
          ⟨s'.withBlock (applied file base b cs),
            es ++ l⟩ ∧
        WritesUpTo size es := by
  induction hAsked generalizing b l with
  | @done i s hDone =>
      refine ⟨s, [], .last ?_, noMemory_nil.writesUpTo size⟩
      have hEnd : i = size := by omega
      subst hEnd
      have hNone : outcome reader i [] = some i := by
        simp [outcome]
      rw [hNone]
      exact (round_done hDone).mpr ⟨rfl, rfl⟩
  | @got i s s' es cs hLt hCame hRest ih =>
      have hChunk :=
        hServes.came hSound hSize hLt hIn hCame
      have hAfter := hServes.after hIn hCame
      have hFits := hSound.fits size i hLt
      have hSmall := hSound.small size i hLt
      have hMost := hChunk.most
      have hBits : s'.iface.getResponseLength < 2 ^ reader.bits :=
        Nat.lt_of_lt_of_le (by omega)
          (Nat.pow_le_pow_right (by decide) hSound.bits)
      have hNext :
          (i + s'.iface.getResponseLength %
              2 ^ reader.bits) % 2 ^ 16 =
            i + s'.iface.getResponseLength := by
        rw [Nat.mod_eq_of_lt hBits]
        omega
      rcases ih (by omega) hAfter.1
        (b.store i s'.iface.getResponse)
        (.wrote .block i s'.iface.getResponseLength ::
          (es ++ l)) with ⟨s'', later, hLater, hWrites⟩
      refine ⟨s'',
        later ++ (.wrote .block i s'.iface.getResponseLength ::
          es), ?_, ?_⟩
      · have hRound :=
          (round_asks hLt (b := b) (l := l)).mpr
            (Or.inl ⟨s', es, hCame, rfl, rfl⟩)
        rw [hNext] at hRound
        refine .next hRound ?_
        rw [List.append_assoc]
        rw [hChunk.data] at hLater
        rw [hChunk.data]
        exact hLater
      · refine hWrites.append ?_
        intro e he hMemory
        rcases List.mem_cons.mp he with hHere | hOld
        · exact ⟨_, _, hHere, by omega⟩
        · rw [hAfter.2 e hOld] at hMemory
          cases hMemory
  | @lost i s s' es cs hSkips hLt hRefused hRest ih =>
      have hAfter := hServes.after hIn hRefused
      have hFits := hSound.fits size i hLt
      have hNext :
          (i + reader.ask size i) % 2 ^ 16 =
            i + reader.ask size i := by
        omega
      rcases ih (by omega) hAfter.1 b (es ++ l)
        with ⟨s'', later, hLater, hWrites⟩
      refine ⟨s'', later ++ es, ?_, ?_⟩
      · have hRound :=
          (round_asks hLt (b := b) (l := l)).mpr
            (Or.inr ⟨s', es, hRefused, rfl, rfl⟩)
        rw [if_pos hSkips, hNext] at hRound
        refine .next hRound ?_
        rw [List.append_assoc]
        have hSame :
            outcome reader size
                (.lost i (reader.ask size i) :: cs) =
              outcome reader size cs := by
          simp [outcome, hSkips]
        rw [hSame]
        exact hLater
      · exact hWrites.append (hAfter.2.writesUpTo size)
  | @refused i s s' es hStops hLt hRefused =>
      have hAfter := hServes.after hIn hRefused
      refine ⟨s', es, .last ?_, hAfter.2.writesUpTo size⟩
      have hRound :=
        (round_asks hLt (b := b) (l := l)).mpr
          (Or.inr ⟨s', es, hRefused, rfl, rfl⟩)
      rw [if_neg (by simp [hStops])] at hRound
      have hNone :
          outcome reader size
              [.lost i (reader.ask size i)] = none := by
        simp [outcome, hStops]
      rw [hNone]
      exact hRound

/- A loop that ends has asked for chunks. -/
theorem asked_of_iterates
    (hServes : Serves port file inFile)
    (hSound : reader.Sound)
    (hSize : base + size < 2 ^ 16)
    {i : Nat}
    {s : Sys K}
    (hLe : i ≤ size)
    (hIn : inFile s.env)
    {b : Buffer}
    {l : List Event}
    {r : Option Nat}
    {w : Run K}
    (hIterates :
      Prog.Iterates (fun n => reader.round port n base size) i
        ⟨s.withBlock b, l⟩ r w) :
    ∃ cs, Asked reader port base size i s cs := by
  generalize hStart : (⟨s.withBlock b, l⟩ : Run K) = w₀
    at hIterates
  induction hIterates generalizing s b l with
  | last hBody =>
      subst hStart
      rename_i i w' r
      by_cases hLt : i < size
      · rcases (round_asks hLt).mp hBody with
          ⟨s', es, hCame, hNo, _⟩ | ⟨s', es, hRefused, hR, _⟩
        · cases hNo
        · cases hSkips : reader.skips with
          | true =>
              rw [if_pos hSkips] at hR
              cases hR
          | false => exact ⟨_, .refused hSkips hLt hRefused⟩
      · exact ⟨[], .done (by omega)⟩
  | next hBody hRest ih =>
      subst hStart
      rename_i i i' w₁ w' r
      by_cases hLt : i < size
      · have hFits := hSound.fits size i hLt
        rcases (round_asks hLt).mp hBody with
          ⟨s', es, hCame, hR, hW⟩ | ⟨s', es, hRefused, hR, hW⟩
        · have hChunk :=
            hServes.came hSound hSize hLt hIn hCame
          have hAfter := hServes.after hIn hCame
          have hMost := hChunk.most
          have hSmall := hSound.small size i hLt
          have hBits :
              s'.iface.getResponseLength < 2 ^ reader.bits :=
            Nat.lt_of_lt_of_le (by omega)
              (Nat.pow_le_pow_right (by decide) hSound.bits)
          have hNext : i' = i + s'.iface.getResponseLength := by
            rw [Nat.mod_eq_of_lt hBits] at hR
            have := Sum.inl.inj hR
            omega
          subst hNext
          rcases ih (by omega) hAfter.1 hW.symm with
            ⟨cs, hAsked⟩
          exact ⟨_, .got hLt hCame hAsked⟩
        · have hAfter := hServes.after hIn hRefused
          cases hSkips : reader.skips with
          | false =>
              rw [if_neg (by simp [hSkips])] at hR
              cases hR
          | true =>
              rw [if_pos hSkips] at hR
              have hNext : i' = i + reader.ask size i := by
                have := Sum.inl.inj hR
                omega
              subst hNext
              rcases ih (by omega) hAfter.1 hW.symm
                with ⟨cs, hAsked⟩
              exact ⟨_, .lost hSkips hLt hRefused hAsked⟩
      · have hNo := (round_done (by omega)).mp hBody
        cases hNo.1

end Se

end TrustOnboard

------------------------------------------------------------
-- The Memory Afterwards
------------------------------------------------------------

namespace TrustOnboard

namespace Se

variable {K : Type}
variable {port : Port K}
variable {reader : ChunkReader}
variable {base size : Nat}
variable {file : Buffer}

theorem covered_cons
    {c : Chunk}
    {cs : List Chunk}
    {j : Nat} :
    Covered (c :: cs) j ↔
      (∃ i len, c = .got i len ∧ i ≤ j ∧ j < i + len) ∨
        Covered cs j := by
  constructor
  · rintro ⟨i, len, hMem, hRange⟩
    rcases List.mem_cons.mp hMem with hHere | hLater
    · exact Or.inl ⟨i, len, hHere.symm, hRange⟩
    · exact Or.inr ⟨i, len, hLater, hRange⟩
  · rintro (⟨i, len, rfl, hRange⟩ | ⟨i, len, hMem, hRange⟩)
    · exact ⟨i, len, List.mem_cons_self, hRange⟩
    · exact ⟨i, len, List.mem_cons_of_mem _ hMem, hRange⟩

/- A byte of what a chunk brought. -/
theorem store_load_apply
    (b : Buffer)
    (i off len j : Nat)
    (hLe : i ≤ j)
    (hLt : j < i + len) :
    b.store i (file.load off len) j = file (off + (j - i)) := by
  obtain ⟨k, rfl⟩ := Nat.exists_eq_add_of_le hLe
  have hk : k < (file.load off len).length := by
    rw [Buffer.length_load]
    omega
  rw [Buffer.store_apply_of_mem b i _ hk]
  simp only [Buffer.load, List.getElem_map,
    List.getElem_range]
  congr 1
  omega

/- The bytes that came are those of the file. -/
theorem applied_of_covered
    {cs : List Chunk}
    {b : Buffer}
    {j : Nat}
    (hCovered : Covered cs j ∨ b j = file (base + j)) :
    applied file base b cs j = file (base + j) := by
  induction cs generalizing b with
  | nil =>
      rcases hCovered with ⟨_, _, hNo, _⟩ | hSame
      · cases hNo
      · exact hSame
  | cons c cs ih =>
      cases c with
      | lost i len =>
          apply ih
          rcases hCovered with hCovered | hSame
          · rcases covered_cons.mp hCovered with
              ⟨_, _, hNo, _⟩ | hLater
            · cases hNo
            · exact Or.inl hLater
          · exact Or.inr hSame
      | got i len =>
          apply ih
          by_cases hHere : i ≤ j ∧ j < i + len
          · right
            dsimp only [put]
            rw [store_load_apply b i _ len j hHere.1 hHere.2]
            congr 1
            omega
          · rcases hCovered with hCovered | hSame
            · rcases covered_cons.mp hCovered with
                ⟨i', len', hEq, hRange⟩ | hLater
              · cases hEq
                exact absurd hRange hHere
              · exact Or.inl hLater
            · right
              dsimp only [put]
              rw [Buffer.store_apply_of_not_mem]
              · exact hSame
              · rw [Buffer.length_load]
                omega

/- The other bytes are as they were. -/
theorem applied_of_not_covered
    {cs : List Chunk}
    {b : Buffer}
    {j : Nat}
    (hNot : ¬ Covered cs j) :
    applied file base b cs j = b j := by
  induction cs generalizing b with
  | nil => rfl
  | cons c cs ih =>
      rw [covered_cons] at hNot
      have hLater :
          applied file base (put file base b c) cs j =
            put file base b c j :=
        ih (fun hYes => hNot (Or.inr hYes))
      refine hLater.trans ?_
      cases c with
      | lost i len => rfl
      | got i len =>
          apply Buffer.store_apply_of_not_mem
          rw [Buffer.length_load]
          by_contra hIn
          exact hNot (Or.inl ⟨i, len, rfl, by omega, by omega⟩)

theorem complete_cons
    {c : Chunk}
    {cs : List Chunk}
    (hComplete : Complete (c :: cs)) :
    Complete cs :=
  fun i len hMem =>
    hComplete i len (List.mem_cons_of_mem c hMem)

/- Without a loss everything comes. -/
theorem Asked.covers
    {i : Nat}
    {s : Sys K}
    {cs : List Chunk}
    (hAsked : Asked reader port base size i s cs)
    (hComplete : Complete cs)
    {j : Nat}
    (hLe : i ≤ j)
    (hLt : j < size) :
    Covered cs j := by
  induction hAsked with
  | done hDone => omega
  | @got i s s' es cs hHere hCame hRest ih =>
      rw [covered_cons]
      by_cases hFirst : j < i + s'.iface.getResponseLength
      · exact Or.inl ⟨_, _, rfl, hLe, hFirst⟩
      · exact Or.inr
          (ih (complete_cons hComplete) (by omega))
  | lost _ _ _ _ _ =>
      exact absurd List.mem_cons_self (hComplete _ _)
  | refused _ _ _ =>
      exact absurd List.mem_cons_self (hComplete _ _)

/- No byte comes twice. -/
theorem Asked.not_covered
    {i : Nat}
    {s : Sys K}
    {cs : List Chunk}
    (hAsked : Asked reader port base size i s cs)
    {j : Nat}
    (hLt : j < i) :
    ¬ Covered cs j := by
  induction hAsked with
  | done hDone =>
      rintro ⟨_, _, hNo, _⟩
      cases hNo
  | got hHere hCame hRest ih =>
      rw [covered_cons]
      rintro (⟨_, _, hEq, hRange⟩ | hLater)
      · cases hEq
        omega
      · exact ih (by omega) hLater
  | lost hSkips hHere hRefused hRest ih =>
      rw [covered_cons]
      rintro (⟨_, _, hEq, _⟩ | hLater)
      · cases hEq
      · exact ih (by omega) hLater
  | refused hStops hHere hRefused =>
      rw [covered_cons]
      rintro (⟨_, _, hEq, _⟩ | ⟨_, _, hNo, _⟩)
      · cases hEq
      · cases hNo

/- A loss leaves a byte that does not come. -/
theorem Asked.loses
    (hSound : reader.Sound)
    {i : Nat}
    {s : Sys K}
    {cs : List Chunk}
    (hAsked : Asked reader port base size i s cs)
    (hLoss : ¬ Complete cs) :
    ∃ j, i ≤ j ∧ j < size ∧ ¬ Covered cs j := by
  induction hAsked with
  | done hDone =>
      exact absurd (fun _ _ hNo => by cases hNo) hLoss
  | @got i s s' es cs hHere hCame hRest ih =>
      have hLater : ¬ Complete cs := by
        intro hComplete
        apply hLoss
        intro k len hMem
        rcases List.mem_cons.mp hMem with hNo | hMem
        · cases hNo
        · exact hComplete k len hMem
      rcases ih hLater with ⟨j, hLe, hLt, hNot⟩
      refine ⟨j, by omega, hLt, ?_⟩
      rw [covered_cons]
      rintro (⟨_, _, hEq, hRange⟩ | hYes)
      · cases hEq
        omega
      · exact hNot hYes
  | @lost i s s' es cs hSkips hHere hRefused hRest ih =>
      refine ⟨i, by omega, hHere, ?_⟩
      rw [covered_cons]
      rintro (⟨_, _, hEq, _⟩ | hLater)
      · cases hEq
      · have hPos := hSound.pos size i hHere
        exact hRest.not_covered (by omega) hLater
  | @refused i s s' es hStops hHere hRefused =>
      refine ⟨i, by omega, hHere, ?_⟩
      rw [covered_cons]
      rintro (⟨_, _, hEq, _⟩ | ⟨_, _, hNo, _⟩)
      · cases hEq
      · cases hNo

end Se

end TrustOnboard

------------------------------------------------------------
-- Whole Files
------------------------------------------------------------

namespace TrustOnboard

namespace Se

variable {K : Type}
variable {port : Port K}
variable {reader : ChunkReader}
variable {base size z : Nat}
variable {file : Buffer}
variable {inFile : K → Prop}

theorem outcome_of_complete
    {cs : List Chunk}
    (hComplete : Complete cs) :
    outcome reader size cs = some size := by
  have hNone : (cs.any (fun
      | .lost _ _ => true
      | .got _ _ => false)) = false := by
    rw [List.any_eq_false]
    intro c hMem
    cases c with
    | lost i len => exact absurd hMem (hComplete i len)
    | got i len => simp
  simp [outcome, hNone]

theorem outcome_of_skips
    {cs : List Chunk}
    (hSkips : reader.skips = true) :
    outcome reader size cs = some size := by
  simp [outcome, hSkips]

theorem outcome_of_loss
    {cs : List Chunk}
    (hStops : reader.skips = false)
    (hLoss : ¬ Complete cs) :
    outcome reader size cs = none := by
  have hSome : (cs.any (fun
      | .lost _ _ => true
      | .got _ _ => false)) = true := by
    unfold Complete at hLoss
    push Not at hLoss
    rcases hLoss with ⟨i, len, hMem⟩
    exact List.any_eq_true.mpr ⟨_, hMem, rfl⟩
  unfold outcome
  rw [hStops, hSome]
  rfl

/- A loop over chunks with what stands around it. -/
def readData
    (reader : ChunkReader)
    (port : Port K)
    (base z alloc : Nat)
    (fin : Option Nat → Code K (Bool × Nat))
    (fuel : Nat) : Code K (Bool × Nat) := do
  malloc alloc
  let r ← reader.loop port fuel base z
  fin r

/- What comes before and after the loop, without its fuel. -/
theorem readData_returns
    {alloc : Nat}
    {fin : Option Nat → Code K (Bool × Nat)}
    {w w' : Run K}
    {res : Bool × Nat} :
    Prog.Returns (readData reader port base z alloc fin)
        w res w' ↔
      ∃ r w₁,
        Prog.Iterates (fun n => reader.round port n base z) 0
            ⟨w.st, .allocated alloc :: w.log⟩ r w₁ ∧
          (fin r).run w₁ = (some res, w') := by
  have hStable :
      Prog.Stable (fun n => reader.loop port n base z) :=
    Prog.Stable.loop (round_stable reader port base z) 0
  have hLoop : ∀ (w w' : Run K) r,
      Prog.Returns (fun n => reader.loop port n base z)
          w r w' ↔
        Prog.Iterates (fun n => reader.round port n base z) 0
          w r w' :=
    fun _ _ _ =>
      Prog.returns_loop (round_stable reader port base z)
  have hAfter :
      Prog.Returns
          (fun n => reader.loop port n base z >>= fin)
          ⟨w.st, .allocated alloc :: w.log⟩ res w' ↔
        ∃ r w₁,
          Prog.Returns (fun n => reader.loop port n base z)
              ⟨w.st, .allocated alloc :: w.log⟩ r w₁ ∧
            Prog.Returns (fun _ => fin r) w₁ res w' :=
    Prog.returns_bind (q := fun _ => fin) hStable
      (fun _ => Prog.Stable.const _)
  have hStart :
      Prog.Returns (readData reader port base z alloc fin)
          w res w' ↔
        Prog.Returns
          (fun n => reader.loop port n base z >>= fin)
          ⟨w.st, .allocated alloc :: w.log⟩ res w' :=
    Iff.rfl
  rw [hStart, hAfter]
  constructor
  · rintro ⟨r, w₁, hReturns, hFin⟩
    exact ⟨r, w₁, (hLoop _ _ _).mp hReturns,
      Prog.returns_const.mp hFin⟩
  · rintro ⟨r, w₁, hIterates, hFin⟩
    exact ⟨r, w₁, (hLoop _ _ _).mpr hIterates,
      Prog.returns_const.mpr hFin⟩

/- What a reader returns for the chunks a card gives. -/
theorem Asked.returns
    (hServes : Serves port file inFile)
    (hSound : reader.Sound)
    (hSize : base + z < 2 ^ 16)
    {s : Sys K}
    {cs : List Chunk}
    (hAsked : Asked reader port base z 0 s cs)
    (hIn : inFile s.env)
    {alloc : Nat}
    {fin : Option Nat → Code K (Bool × Nat)}
    (b : Buffer)
    (l : List Event) :
    ∃ (s' : Sys K) (es : List Event),
      WritesUpTo z es ∧
      ∀ res w',
        Prog.Returns (readData reader port base z alloc fin)
            ⟨s.withBlock b, l⟩ res w' ↔
          (fin (outcome reader z cs)).run
              ⟨s'.withBlock (applied file base b cs),
                es ++ .allocated alloc :: l⟩ =
            (some res, w') := by
  rcases hAsked.iterates hServes hSound hSize (Nat.zero_le z)
    hIn b (.allocated alloc :: l) with
    ⟨s', es, hIterates, hWrites⟩
  refine ⟨s', es, hWrites, ?_⟩
  intro res w'
  rw [readData_returns]
  constructor
  · rintro ⟨r, w₁, hOther, hFin⟩
    have hStable := round_stable reader port base z
    have hSame :=
      Prog.Returns.unique (Prog.Stable.loop hStable 0)
        ((Prog.returns_loop hStable).mpr hIterates)
        ((Prog.returns_loop hStable).mpr hOther)
    rw [hSame.1, hSame.2]
    exact hFin
  · exact fun hFin => ⟨_, _, hIterates, hFin⟩

/- A reader that ends has asked for chunks. -/
theorem asked_of_returns
    (hServes : Serves port file inFile)
    (hSound : reader.Sound)
    (hSize : base + z < 2 ^ 16)
    {s : Sys K}
    (hIn : inFile s.env)
    {alloc : Nat}
    {fin : Option Nat → Code K (Bool × Nat)}
    {l : List Event}
    (hEnds :
      ∀ b, ∃ r w',
        Prog.Returns (readData reader port base z alloc fin)
          ⟨s.withBlock b, l⟩ r w') :
    ∃ cs, Asked reader port base z 0 s cs := by
  rcases hEnds s.block with ⟨res, w', hReturns⟩
  rcases readData_returns.mp hReturns with ⟨r, w₁, hLoop, _⟩
  exact asked_of_iterates hServes hSound hSize
    (Nat.zero_le z) hIn hLoop

/- A reader that asked for its chunks ends. -/
theorem Asked.ends
    (hServes : Serves port file inFile)
    (hSound : reader.Sound)
    (hSize : base + z < 2 ^ 16)
    {s : Sys K}
    {cs : List Chunk}
    (hAsked : Asked reader port base z 0 s cs)
    (hIn : inFile s.env)
    {alloc : Nat}
    {fin : Option Nat → Code K (Bool × Nat)}
    (hTotal : ∀ r w, ∃ res w',
      (fin r).run w = (some res, w'))
    (b : Buffer)
    (l : List Event) :
    ∃ res w',
      Prog.Returns (readData reader port base z alloc fin)
        ⟨s.withBlock b, l⟩ res w' := by
  rcases hAsked.returns hServes hSound hSize hIn
    b l with ⟨s', es, _, hReturns⟩
  rcases hTotal (outcome reader z cs)
    ⟨s'.withBlock (applied file base b cs),
      es ++ .allocated alloc :: l⟩ with ⟨res, w', hRun⟩
  exact ⟨res, w', (hReturns res w').mpr hRun⟩

/- The memory when all chunks came and the 0 is put there. -/
theorem holdsFile_of_complete
    {s s' : Sys K}
    {cs : List Chunk}
    (hAsked : Asked reader port base z 0 s cs)
    (hComplete : Complete cs)
    {alloc : Nat}
    (hAlloc : z + 1 ≤ alloc)
    {b : Buffer}
    {es l : List Event}
    (hWrites : WritesUpTo z es)
    (hFree : NoMemory l) :
    HoldsFile file base z (z + 1)
      (⟨s'.withBlock
          ((applied file base b cs).store z [0]),
        .wrote .block z 1 ::
          (es ++ .allocated alloc :: l)⟩ : Run K) where
  bytes := by
    change ((applied file base b cs).store z [0]).load 0 z = _
    rw [Buffer.load_store_of_disjoint _ _ _
      (Or.inl (by omega))]
    unfold Buffer.load
    apply List.map_congr_left
    intro j hj
    have hLt : j < z := List.mem_range.mp hj
    rw [Nat.zero_add]
    exact applied_of_covered
      (Or.inl (hAsked.covers hComplete (Nat.zero_le j) hLt))
  nul := Buffer.store_apply_of_mem _ z [0] (i := 0) (by simp)
  length := rfl
  bounds := by
    refine ⟨alloc, by simp, ?_⟩
    intro off len hMem
    rcases List.mem_cons.mp hMem with hHere | hMem
    · cases hHere
      exact hAlloc
    · rcases List.mem_append.mp hMem with hLoop | hMem
      · rcases hWrites _ hLoop rfl with ⟨o, n, hEq, hLe⟩
        cases hEq
        omega
      · rcases List.mem_cons.mp hMem with hNo | hMem
        · cases hNo
        · have hNo := hFree _ hMem
          cases hNo

/- Memory that nowhere holds what is in the file. -/
def garbage (file : Buffer) (base : Nat) : Buffer :=
  fun j => if file (base + j) = 2 then 3 else 2

theorem garbage_ne
    (j : Nat) :
    garbage file base j ≠ file (base + j) ∧
      garbage file base j ≠ 0 ∧ garbage file base j ≠ 1 := by
  unfold garbage
  split
  · rename_i hTwo
    rw [hTwo]
    decide
  · rename_i hOther
    exact ⟨fun hSame => hOther hSame.symm, by decide, by decide⟩

/- A file that is there in spite of garbage came whole. -/
theorem complete_of_holdsFile
    (hSound : reader.Sound)
    (hSize : base + z < 2 ^ 16)
    {s : Sys K}
    {cs : List Chunk}
    (hAsked : Asked reader port base z 0 s cs)
    {w : Run K}
    (hBlock :
      w.st.block =
        (applied file base (garbage file base) cs).store z
          [0])
    (hHolds :
      HoldsFile file base size ((z + 1) % 2 ^ 16) w) :
    Complete cs ∧ z = size ∧ z ≠ 65535 := by
  have hLength := hHolds.length
  have hSame : z = size ∧ z ≠ 65535 := by omega
  refine ⟨?_, hSame⟩
  by_contra hLoss
  rcases hAsked.loses hSound hLoss with ⟨j, _, hLt, hNot⟩
  have hBytes := hHolds.bytes
  have hByte : w.st.block j = file (base + j) := by
    have hAt := congrArg (fun l => l[j]?) hBytes
    simp only [Buffer.load, List.getElem?_map] at hAt
    rw [List.getElem?_range (by omega)] at hAt
    simpa using hAt
  rw [hBlock, Buffer.store_apply_of_not_mem _ _ _
    (Or.inl hLt), applied_of_not_covered hNot] at hByte
  exact (garbage_ne j).1 hByte

end Se

end TrustOnboard

------------------------------------------------------------
-- The Three Readers
------------------------------------------------------------

namespace TrustOnboard

namespace Se

variable {K : Type}
variable {port : Port K}
variable {base size z : Nat}
variable {file : Buffer}
variable {inFile : K → Prop}

/- What `readEF` does behind its loop. -/
def efEnd (z : Nat) : Option Nat → Code K (Bool × Nat)
  | some i => do
      writeBlock i [0]
      pure (true, (z + 1) % 2 ^ 16)
  | none => pure (false, z)

theorem efEnd_total
    (r : Option Nat)
    (w : Run K) :
    ∃ res w', (efEnd z r).run w = (some res, w') := by
  cases r <;> exact ⟨_, _, rfl⟩

theorem readEFData_eq
    (n : Nat) :
    readEFData port n z =
      readData efChunks port 0 z (z + 1) (efEnd z) n := by
  unfold readEFData readData
  rfl

/- What the reader of certificates does behind its loop. -/
def certificateEnd
    (z : Nat) :
    Option Nat → Code K (Bool × Nat)
  | some offset => do
      writeBlock offset [0]
      let block ← Prog.read (fun s => s.block)
      pure (! isCompressed block, (z + 1) % 2 ^ 16)
  | none => pure (false, (z + 1) % 2 ^ 16)

theorem certificateEnd_total
    (r : Option Nat)
    (w : Run K) :
    ∃ res w', (certificateEnd z r).run w = (some res, w') := by
  cases r <;> exact ⟨_, _, rfl⟩

theorem readCertificateData_eq
    (n : Nat) :
    readCertificateData port n z =
      readData certificateChunks port 0 z ((z + 1) % 2 ^ 16)
        (certificateEnd z) n := by
  unfold readCertificateData readData
  rfl

/- What the reader of objects does behind its loop. -/
def valueEnd (z : Nat) : Option Nat → Code K (Bool × Nat)
  | some i => do
      writeBlock i [0]
      pure (true, (z + 1) % 2 ^ 16)
  | none => pure (false, 0)

theorem valueEnd_total
    (r : Option Nat)
    (w : Run K) :
    ∃ res w', (valueEnd z r).run w = (some res, w') := by
  cases r <;> exact ⟨_, _, rfl⟩

theorem readValue_eq
    (n : Nat) :
    readValue port n base z =
      readData valueChunks port base z ((z + 1) % 2 ^ 16)
        (valueEnd z) n := by
  unfold readValue readData
  rfl

/- The chunks of an elementary file, as they have to be. -/
def EFDelivered
    (port : Port K)
    (size z : Nat)
    (s : Sys K) : Prop :=
  ∃ cs, Asked efChunks port 0 z 0 s cs ∧
    (Complete cs → z = size ∧ z ≠ 65535)

/- The chunks of a certificate, as they have to be. -/
def CertificateDelivered
    (port : Port K)
    (file : Buffer)
    (size z : Nat)
    (s : Sys K) : Prop :=
  ∃ cs, Asked certificateChunks port 0 z 0 s cs ∧
    (StartsCompressed file z cs ∨
      Complete cs ∧ z = size ∧ z ≠ 65535)

/- The chunks of an object, as they have to be. -/
def ValueDelivered
    (port : Port K)
    (base size : Nat)
    (s : Sys K) : Prop :=
  ∃ cs, Asked valueChunks port base size 0 s cs ∧
    Complete cs ∧ size ≠ 65535

/- The content of an elementary file. -/
theorem readEFData_right_iff
    (hServes : Serves port file inFile)
    (hSize : z < 2 ^ 16)
    {s : Sys K}
    (hIn : inFile s.env)
    {l : List Event}
    (hFree : NoMemory l) :
    Right file 0 size (fun n => readEFData port n z) s l ↔
      EFDelivered port size z s := by
  simp only [readEFData_eq]
  have hBound : 0 + z < 2 ^ 16 := by omega
  constructor
  case mp =>
    intro hRight
    rcases asked_of_returns hServes efChunks_sound hBound hIn
      hRight.ends with ⟨cs, hAsked⟩
    refine ⟨cs, hAsked, fun hComplete => ?_⟩
    rcases hAsked.returns hServes efChunks_sound hBound hIn
      s.block l with ⟨s', es, _, hReturns⟩
    have hHolds := hRight.holds _ ((z + 1) % 2 ^ 16) _
      ((hReturns _ _).mpr (by
        rw [outcome_of_complete hComplete]
        rfl))
    have hLength := hHolds.length
    omega
  case mpr =>
    rintro ⟨cs, hAsked, hWhole⟩
    constructor
    case ends =>
      exact fun b =>
        hAsked.ends hServes efChunks_sound hBound hIn
          efEnd_total b l
    case holds =>
      intro b n w' hReturn
      rcases hAsked.returns hServes efChunks_sound hBound hIn
        b l with ⟨s', es, hWrites, hReturns⟩
      have hRun := (hReturns _ _).mp hReturn
      by_cases hComplete : Complete cs
      · rw [outcome_of_complete hComplete] at hRun
        rcases hWhole hComplete with ⟨rfl, hShort⟩
        have hLen : (z + 1) % 2 ^ 16 = z + 1 := by omega
        cases hRun
        rw [hLen]
        exact holdsFile_of_complete hAsked hComplete
          (Nat.le_refl _) hWrites hFree
      · rw [outcome_of_loss rfl hComplete] at hRun
        cases hRun

/- The content of an object. -/
theorem readValue_right_iff
    (hServes : Serves port file inFile)
    (hSize : base + size < 2 ^ 16)
    {s : Sys K}
    (hIn : inFile s.env)
    {l : List Event}
    (hFree : NoMemory l) :
    Right file base size
        (fun n => readValue port n base size) s l ↔
      ValueDelivered port base size s := by
  simp only [readValue_eq]
  constructor
  case mp =>
    intro hRight
    rcases asked_of_returns hServes valueChunks_sound hSize
      hIn hRight.ends with ⟨cs, hAsked⟩
    refine ⟨cs, hAsked, ?_⟩
    -- with garbage in the memory a loss would show
    rcases hAsked.returns hServes valueChunks_sound hSize hIn
      (garbage file base) l with
      ⟨s', es, _, hReturns⟩
    have hHolds := hRight.holds _ ((size + 1) % 2 ^ 16) _
      ((hReturns _ _).mpr (by
        rw [outcome_of_skips rfl]
        rfl))
    have hAll :=
      complete_of_holdsFile valueChunks_sound hSize hAsked rfl
        hHolds
    exact ⟨hAll.1, hAll.2.2⟩
  case mpr =>
    rintro ⟨cs, hAsked, hComplete, hShort⟩
    have hLen : (size + 1) % 2 ^ 16 = size + 1 := by omega
    constructor
    case ends =>
      exact fun b =>
        hAsked.ends hServes valueChunks_sound hSize hIn
          valueEnd_total b l
    case holds =>
      intro b n w' hReturn
      rcases hAsked.returns hServes valueChunks_sound hSize
        hIn b l with ⟨s', es, hWrites, hReturns⟩
      have hRun := (hReturns _ _).mp hReturn
      rw [outcome_of_skips rfl, hLen] at hRun
      cases hRun
      rw [hLen]
      exact holdsFile_of_complete hAsked hComplete
        (Nat.le_refl _) hWrites hFree

/- A chunk that came starts before the end. -/
theorem Asked.got_lt
    {reader : ChunkReader}
    {i : Nat}
    {s : Sys K}
    {cs : List Chunk}
    (hAsked : Asked reader port base z i s cs)
    {k len : Nat}
    (hMem : .got k len ∈ cs) :
    k < z := by
  induction hAsked with
  | done hDone => cases hMem
  | got hLt hCame hRest ih =>
      rcases List.mem_cons.mp hMem with hHere | hLater
      · cases hHere
        exact hLt
      · exact ih hLater
  | lost hSkips hLt hRefused hRest ih =>
      rcases List.mem_cons.mp hMem with hNo | hLater
      · cases hNo
      · exact ih hLater
  | refused hStops hLt hRefused =>
      rcases List.mem_cons.mp hMem with hNo | hNo <;> cases hNo

/- Two bytes that are there whatever the memory held. -/
theorem StartsCompressed.isCompressed
    {reader : ChunkReader}
    {s : Sys K}
    {cs : List Chunk}
    (hStarts : StartsCompressed file z cs)
    (hAsked : Asked reader port 0 z 0 s cs)
    (b : Buffer) :
    isCompressed ((applied file 0 b cs).store z [0]) = true := by
  rcases hStarts with ⟨⟨hFirst, hOne⟩, hSecond⟩
  have hPos : 0 < z := by
    rcases hFirst with ⟨i, len, hMem, hLe, _⟩
    have := hAsked.got_lt hMem
    omega
  have hByte0 : ((applied file 0 b cs).store z [0]) 0 = 1 := by
    rw [Buffer.store_apply_of_not_mem _ _ _ (Or.inl hPos),
      applied_of_covered (Or.inl hFirst)]
    exact hOne
  have hByte1 : ((applied file 0 b cs).store z [0]) 1 = 0 := by
    by_cases hSingle : z = 1
    · subst hSingle
      exact Buffer.store_apply_of_mem _ 1 [0] (i := 0) (by simp)
    · rcases hSecond with hNo | ⟨hCovered, hZero⟩
      · exact absurd hNo hSingle
      · rw [Buffer.store_apply_of_not_mem _ _ _
          (Or.inl (by omega)),
          applied_of_covered (Or.inl hCovered)]
        exact hZero
  simp [Se.isCompressed, hByte0, hByte1]

/- Garbage does not look compressed by itself. -/
theorem startsCompressed_of_garbage
    {cs : List Chunk}
    (hCompressed :
      isCompressed
        ((applied file 0 (garbage file 0) cs).store z [0]) =
          true) :
    StartsCompressed file z cs := by
  unfold isCompressed at hCompressed
  rw [Bool.and_eq_true, beq_iff_eq, beq_iff_eq] at hCompressed
  rcases hCompressed with ⟨hByte0, hByte1⟩
  have hPos : 0 < z := by
    by_contra hZero
    have hEnd : z = 0 := by omega
    subst hEnd
    rw [show ((applied file 0 (garbage file 0) cs).store 0
      [0]) 0 = 0 from rfl] at hByte0
    exact absurd hByte0 (by decide)
  rw [Buffer.store_apply_of_not_mem _ _ _ (Or.inl hPos)]
    at hByte0
  have hFirst : Covered cs 0 := by
    by_contra hNot
    rw [applied_of_not_covered hNot] at hByte0
    exact (garbage_ne 0).2.2 hByte0
  rw [applied_of_covered (Or.inl hFirst)] at hByte0
  refine ⟨⟨hFirst, hByte0⟩, ?_⟩
  by_cases hSingle : z = 1
  · exact Or.inl hSingle
  · right
    rw [Buffer.store_apply_of_not_mem _ _ _
      (Or.inl (by omega))] at hByte1
    have hSecond : Covered cs 1 := by
      by_contra hNot
      rw [applied_of_not_covered hNot] at hByte1
      exact (garbage_ne 1).2.1 hByte1
    rw [applied_of_covered (Or.inl hSecond)] at hByte1
    exact ⟨hSecond, hByte1⟩

/- The content of a certificate. -/
theorem readCertificateData_right_iff
    (hServes : Serves port file inFile)
    (hSize : z < 2 ^ 16)
    {s : Sys K}
    (hIn : inFile s.env)
    {l : List Event}
    (hFree : NoMemory l) :
    Right file 0 size
        (fun n => readCertificateData port n z) s l ↔
      CertificateDelivered port file size z s := by
  simp only [readCertificateData_eq]
  have hBound : 0 + z < 2 ^ 16 := by omega
  constructor
  case mp =>
    intro hRight
    rcases asked_of_returns hServes certificateChunks_sound
      hBound hIn hRight.ends with ⟨cs, hAsked⟩
    refine ⟨cs, hAsked, ?_⟩
    by_cases hCompressed :
        isCompressed
          ((applied file 0 (garbage file 0) cs).store z [0]) =
            true
    · exact Or.inl (startsCompressed_of_garbage hCompressed)
    · -- with garbage in the memory a loss would show
      right
      rcases hAsked.returns hServes certificateChunks_sound
        hBound hIn (garbage file 0) l with
        ⟨s', es, _, hReturns⟩
      have hHolds := hRight.holds _ ((z + 1) % 2 ^ 16)
        ⟨s'.withBlock
            ((applied file 0 (garbage file 0) cs).store z [0]),
          .wrote .block z 1 ::
            (es ++ .allocated ((z + 1) % 2 ^ 16) :: l)⟩
        ((hReturns _ _).mpr (by
          rw [outcome_of_skips rfl]
          change (some (! isCompressed _, _), _) = _
          rw [Bool.not_eq_true] at hCompressed
          dsimp only [Sys.withBlock]
          rw [hCompressed]
          rfl))
      exact complete_of_holdsFile certificateChunks_sound
        hBound hAsked rfl hHolds
  case mpr =>
    rintro ⟨cs, hAsked, hWhole⟩
    constructor
    case ends =>
      exact fun b =>
        hAsked.ends hServes certificateChunks_sound hBound hIn
          certificateEnd_total b l
    case holds =>
      intro b n w' hReturn
      rcases hAsked.returns hServes certificateChunks_sound
        hBound hIn b l with
        ⟨s', es, hWrites, hReturns⟩
      have hRun := (hReturns _ _).mp hReturn
      rw [outcome_of_skips rfl] at hRun
      change (some (! isCompressed
        ((applied file 0 b cs).store z [0]), _), _) = _ at hRun
      rcases hWhole with hStarts | ⟨hComplete, rfl, hShort⟩
      · rw [hStarts.isCompressed hAsked b] at hRun
        cases hRun
      · have hLen : (z + 1) % 2 ^ 16 = z + 1 := by omega
        rw [hLen] at hRun
        cases hCompressed : isCompressed
          ((applied file 0 b cs).store z [0]) with
        | true =>
            rw [hCompressed] at hRun
            cases hRun
        | false =>
            rw [hCompressed] at hRun
            cases hRun
            exact holdsFile_of_complete hAsked hComplete
              (Nat.le_refl _) hWrites hFree

end Se

end TrustOnboard
