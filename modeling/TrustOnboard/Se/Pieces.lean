import TrustOnboard.Se.Applet
import TrustOnboard.Se.Crypto

/-
  Data that is handed to the secure element in pieces.

  With a card that answers at once a command is one exchange.
  The data fields of the commands are then the data, in its
  order and without a byte more or less.

  Key definitions include:
    * `commands`
    * `HashPieces`
    * `DecipherPieces`

  Key results include:
    * `hashRounds_pieces`
    * `AnswersAtOnce.deciphers`
    * `data_handedOver`
-/

------------------------------------------------------------
-- The Commands That Are Sent
------------------------------------------------------------

namespace TrustOnboard

namespace Se

/- The commands of a log, the oldest first. -/
def commands (log : List Event) : List Bytes :=
  (exchanges log).map Prod.fst

/- A command with a data field. -/
def caseThree
    (cla ins p1 p2 : UInt8)
    (field : Bytes) : Bytes :=
  [cla, ins, p1, p2, .ofNat field.length] ++ field

/- PSO HASH and PSO DECIPHER with a data field. -/
def hashCommand (channel : UInt8) (field : Bytes) : Bytes :=
  caseThree (0x00 ||| channel) 0x2A 0x90 0x80 field

def decipherCommand
    (cla channel : UInt8)
    (field : Bytes) : Bytes :=
  caseThree (cla ||| channel) 0x2A 0x80 0x86 field

/- The class byte of a command. -/
def classByte (command : Bytes) : UInt8 :=
  command.headD 0

/-
  The commands hand some data to the hash: in full blocks,
  the last one apart, and none of them empty.
-/
def HashPieces
    (block : Nat)
    (channel : UInt8)
    (data : Bytes)
    (sent : List Bytes) : Prop :=
  ∃ fields : List Bytes,
    sent = fields.map (hashCommand channel) ∧
      fields.flatten = data ∧
      (∀ f ∈ fields, f ≠ [] ∧ f.length ≤ block) ∧
      ∀ f ∈ fields.dropLast, f.length = block

/-
  The commands hand some data to the decryption: all but the
  last have the chaining bit in their class byte, and the
  last has not.
-/
def DecipherPieces
    (channel : UInt8)
    (data : Bytes)
    (sent : List Bytes) : Prop :=
  ∃ (chained : List Bytes) (last : Bytes),
    sent =
        chained.map (decipherCommand 0x10 channel) ++
          [decipherCommand 0x00 channel last] ∧
      (chained ++ [last]).flatten = 0x81 :: data ∧
      (∀ f ∈ chained ++ [last], f.length ≤ 255) ∧
      (∀ c ∈ sent.dropLast, classByte c &&& 0x10 = 0x10) ∧
      ∀ c ∈ sent.getLast?, classByte c &&& 0x10 = 0

theorem commands_cons
    (command : Bytes)
    (r : Reply)
    (l : List Event) :
    commands (.exchanged command r :: l) =
      commands l ++ [command] := by
  have hSplit := exchanges_append [.exchanged command r] l
  unfold commands
  rw [← List.singleton_append, hSplit, List.map_append]
  rfl

end Se

end TrustOnboard

------------------------------------------------------------
-- One Command
------------------------------------------------------------

namespace TrustOnboard

namespace Se

variable {K : Type}
variable {port : Port K}

/- A command that succeeds is one exchange. -/
theorem AnswersAtOnce.sends
    (hAtOnce : AnswersAtOnce port)
    {fuel : Nat}
    {cla ins p1 p2 : UInt8}
    {data : Bytes}
    {w w' : Run K}
    (hRun :
      (Se.succeeds .mias
        (Applet.transmitCase3 port fuel .mias cla ins p1 p2
          data)).run w = (some true, w'))
    (hShort : data.length ≤ 255) :
    commands w'.log =
        commands w.log ++
          [caseThree (cla ||| (w.st.applets .mias).channel)
            ins p1 p2 data] ∧
      w'.st.applets = w.st.applets := by
  have hForm :
      Applet.transmitCase3 port fuel .mias cla ins p1 p2 data =
        sendOn port fuel .mias (fun channel =>
          caseThree (cla ||| channel) ins p1 p2 data) := by
    unfold Applet.transmitCase3 sendOn
    simp only [transmitCase3_eq]
    rfl
  rw [hForm] at hRun
  cases hApplet : (w.st.applets .mias).isSelected with
  | false =>
      rw [succeeds_of_false
        (sendOn_unselected fuel _ hApplet)] at hRun
      cases hRun
  | true =>
      cases fuel with
      | zero =>
          unfold Se.succeeds sendOn onChannel at hRun
          simp only [Prog.run_bind, Prog.read, Prog.run_step,
            hApplet, if_true] at hRun
          cases hRun
      | succ fuel =>
          have hCommand :=
            hAtOnce.succeeds hApplet
              (fun channel =>
                caseThree (cla ||| channel) ins p1 p2 data)
              (fun channel => by
                unfold caseThree
                rw [List.length_append]
                simp only [List.length_cons,
                  List.length_nil]
                omega)
              fuel w.log
          have hSame := hRun.symm.trans hCommand
          cases (Prod.mk.inj hSame).2
          exact ⟨commands_cons _ _ _, rfl⟩

end Se

end TrustOnboard

------------------------------------------------------------
-- Hashing
------------------------------------------------------------

namespace TrustOnboard

namespace Se

variable {K : Type}
variable {port : Port K}

/- The blocks the algorithms have. -/
theorem blockSize_bounds
    {algorithm : UInt8}
    {block : Nat}
    (hBlock : blockSize algorithm = some block) :
    0 < block ∧ block ≤ 255 := by
  unfold blockSize at hBlock
  split at hBlock
  · cases hBlock
    decide
  · split at hBlock
    · cases hBlock
      decide
    · cases hBlock

/- A piece is a block, or what is left. -/
theorem pieceLen_bounds
    {block n i : Nat}
    (hPos : 0 < block)
    (hMore : i < n) :
    0 < pieceLen block n i ∧
      pieceLen block n i ≤ block ∧
      i + pieceLen block n i ≤ n ∧
      (i + pieceLen block n i < n →
        pieceLen block n i = block) := by
  unfold pieceLen
  split <;> omega

/- One more piece in front. -/
theorem HashPieces.cons
    {block : Nat}
    {channel : UInt8}
    {field data : Bytes}
    {sent : List Bytes}
    (hRest : HashPieces block channel data sent)
    (hSome : field ≠ [])
    (hFits : field.length ≤ block)
    (hFull : data ≠ [] → field.length = block) :
    HashPieces block channel (field ++ data)
      (hashCommand channel field :: sent) := by
  rcases hRest with ⟨fields, rfl, rfl, hAll, hBlocks⟩
  refine ⟨field :: fields, rfl, rfl, ?_, ?_⟩
  · intro f hf
    rcases List.mem_cons.mp hf with rfl | hLater
    · exact ⟨hSome, hFits⟩
    · exact hAll f hLater
  · intro f hf
    cases fields with
    | nil => cases hf
    | cons g fields =>
        rw [List.dropLast_cons_of_ne_nil (by simp)] at hf
        rcases List.mem_cons.mp hf with rfl | hLater
        · apply hFull
          rw [List.flatten_cons]
          have hFirst := (hAll g List.mem_cons_self).1
          exact fun hNone =>
            hFirst (List.append_eq_nil_iff.mp hNone).1
        · exact hBlocks f hLater

/-
  From some index on the rounds hand over the rest of the
  data.
-/
theorem hashRounds_pieces
    (hAtOnce : AnswersAtOnce port)
    {block : Nat}
    (hPos : 0 < block)
    (hByte : block ≤ 255)
    {data : Bytes}
    (hData : data.length ≤ 65535)
    {fuel : Nat}
    (rounds i : Nat)
    (hIndex : i ≤ data.length)
    {w w' : Run K}
    (hRun :
      (Prog.loop rounds (hashRound port fuel block data)
        i).run w = (some true, w')) :
    ∃ rest,
      HashPieces block (w.st.applets .mias).channel
          (data.drop i) rest ∧
        commands w'.log = commands w.log ++ rest := by
  induction rounds generalizing i w with
  | zero => cases hRun
  | succ rounds ih =>
      rw [Prog.loop_succ] at hRun
      rcases Prog.of_run_bind hRun with ⟨r, w₁, hRound, hRun⟩
      unfold hashRound at hRound
      by_cases hMore : i < data.length
      case neg =>
        rw [if_neg hMore] at hRound
        cases hRound
        cases hRun
        have hEnd : data.drop i = [] :=
          List.drop_eq_nil_of_le (by omega)
        refine ⟨[], ⟨[], rfl, hEnd.symm, ?_, ?_⟩, by simp⟩
        · exact fun f hf => by cases hf
        · exact fun f hf => by cases hf
      case pos =>
        rw [if_pos hMore] at hRound
        rcases pieceLen_bounds hPos hMore with
          ⟨hSome, hBlock, hFits, hFull⟩
        dsimp only at hRound
        generalize pieceLen block data.length i = l
          at hRound hSome hBlock hFits hFull
        rcases Prog.of_run_bind hRound with
          ⟨ok, w₂, hSent, hRound⟩
        cases ok with
        | false =>
            cases hRound
            cases hRun
        | true =>
            cases hRound
            have hField :
                ((data.drop i).take l).length = l := by
              rw [List.length_take, List.length_drop]
              omega
            rcases hAtOnce.sends hSent (by omega) with
              ⟨hLog, hApplets⟩
            have hIndex' : (i + l) % 2 ^ 16 = i + l := by
              omega
            dsimp only at hRun
            rw [hIndex'] at hRun
            rcases ih (i + l) hFits hRun with
              ⟨rest, hPieces, hLater⟩
            rw [hApplets] at hPieces
            have hNew :
                HashPieces block (w.st.applets .mias).channel
                  ((data.drop i).take l ++ data.drop (i + l))
                  (hashCommand (w.st.applets .mias).channel
                    ((data.drop i).take l) :: rest) := by
              apply hPieces.cons
              · intro hNone
                rw [hNone] at hField
                exact absurd hField (Nat.ne_of_lt hSome)
              · omega
              · intro hLeft
                rw [hField]
                apply hFull
                by_contra hNone
                exact hLeft
                  (List.drop_eq_nil_of_le (by omega))
            rw [← List.drop_drop, List.take_append_drop]
              at hNew
            rw [hLog, List.append_assoc] at hLater
            exact ⟨_, hNew, hLater⟩

end Se

end TrustOnboard

------------------------------------------------------------
-- Handing Over
------------------------------------------------------------

namespace TrustOnboard

namespace Se

variable {K : Type}
variable {port : Port K}

/-
  What is hashed and what is decrypted reaches the card, as
  far as the two functions return true.  The channel is
  joined to the class byte of every command, so the last one
  of a decryption is free of the chaining bit exactly when
  the channel is.
-/
structure HandedOver
    (port : Port K)
    (s : Sys K) : Prop where
  hashed :
    ∀ fuel algorithm data w,
      data.length ≤ 65535 →
      (psoHashInternally port fuel algorithm data).run
          ⟨s, []⟩ = (some true, w) →
      ∃ block, blockSize algorithm = some block ∧
        HashPieces block (s.applets .mias).channel data
          (commands w.log)
  deciphered :
    ∀ fuel data plain w,
      data.length ≤ 509 →
      (psoDecipher port fuel data).run ⟨s, []⟩ =
          (some (some plain), w) →
      (DecipherPieces (s.applets .mias).channel data
          (commands w.log) ↔
        (s.applets .mias).channel &&& 0x10 = 0)

/- The chaining bit stays when the channel is joined to it. -/
theorem chaining_bit
    (channel : UInt8) :
    (0x10 ||| channel) &&& 0x10 = 0x10 := by
  apply UInt8.toBitVec_inj.mp
  ext i hi
  simp only [UInt8.toBitVec_and, UInt8.toBitVec_or,
    BitVec.getElem_and, BitVec.getElem_or]
  cases (UInt8.toBitVec 0x10)[i] <;> simp

/- Only the channel decides about the last command. -/
theorem decipherPieces_iff
    {channel : UInt8}
    {data : Bytes}
    {sent : List Bytes}
    (chained : List Bytes)
    (last : Bytes)
    (hSent :
      sent =
        chained.map (decipherCommand 0x10 channel) ++
          [decipherCommand 0x00 channel last])
    (hData : (chained ++ [last]).flatten = 0x81 :: data)
    (hFits : ∀ f ∈ chained ++ [last], f.length ≤ 255) :
    DecipherPieces channel data sent ↔
      channel &&& 0x10 = 0 := by
  have hLast :
      sent.getLast? =
        some (decipherCommand 0x00 channel last) := by
    rw [hSent, List.getLast?_concat]
  have hClass :
      classByte (decipherCommand 0x00 channel last) =
        channel :=
    UInt8.zero_or
  constructor
  · rintro ⟨_, _, _, _, _, _, hFree⟩
    rw [← hClass]
    exact hFree _ hLast
  · intro hFree
    refine ⟨chained, last, hSent, hData, hFits, ?_, ?_⟩
    · intro c hc
      rw [hSent, List.dropLast_concat] at hc
      rcases List.mem_map.mp hc with ⟨f, _, rfl⟩
      exact chaining_bit channel
    · intro c hc
      rw [hLast] at hc
      cases hc
      rw [hClass]
      exact hFree

/-
  The commands of `psoDecipher` carry the data, the last one
  with nothing but the channel in its class byte.
-/
theorem AnswersAtOnce.deciphers
    (hAtOnce : AnswersAtOnce port)
    {fuel : Nat}
    {data : Bytes}
    (hData : data.length ≤ 509)
    {s : Sys K}
    {w : Run K}
    (hRun :
      (decipherAll port fuel data).run ⟨s, []⟩ =
        (some true, w)) :
    DecipherPieces (s.applets .mias).channel data
        (commands w.log) ↔
      (s.applets .mias).channel &&& 0x10 = 0 := by
  unfold decipherAll decipher at hRun
  by_cases hShort : data.length < 255
  case pos =>
    rw [if_pos hShort] at hRun
    have hSent := (hAtOnce.sends hRun (by
      rw [List.length_cons]
      omega)).1
    rw [hSent]
    apply decipherPieces_iff [] (0x81 :: data) rfl
    · simp
    · intro f hf
      cases List.mem_singleton.mp hf
      rw [List.length_cons]
      omega
  case neg =>
    rw [if_neg hShort] at hRun
    rcases Prog.of_run_bind hRun with ⟨ok, w₁, hFirst, hRun⟩
    cases ok with
    | false => cases hRun
    | true =>
        rcases hAtOnce.sends hFirst (by
          rw [List.length_cons, List.length_take]
          omega) with ⟨hLog₁, hApplets⟩
        have hLog := (hAtOnce.sends hRun (by
          rw [List.length_drop]
          omega)).1
        rw [hLog, hLog₁, hApplets]
        apply
          decipherPieces_iff [0x81 :: data.take 0xFE]
            (data.drop 0xFE) rfl
        · simp
        · intro f hf
          rcases List.mem_cons.mp hf with rfl | hLast
          · rw [List.length_cons, List.length_take]
            omega
          · cases List.mem_singleton.mp hLast
            rw [List.length_drop]
            omega

/-
  All data reaches a card that answers at once, in commands
  that are marked rightly when the channel leaves the
  chaining bit alone.
-/
theorem data_handedOver
    (port : Port K)
    (hAtOnce : AnswersAtOnce port)
    (s : Sys K) :
    HandedOver port s where
  hashed := by
    intro fuel algorithm data w hData hRun
    unfold psoHashInternally at hRun
    cases hBlock : blockSize algorithm with
    | none =>
        rw [hBlock] at hRun
        cases hRun
    | some block =>
        rw [hBlock] at hRun
        have hBounds := blockSize_bounds hBlock
        rcases hashRounds_pieces hAtOnce hBounds.1 hBounds.2
          hData fuel 0 (Nat.zero_le _) hRun with
          ⟨rest, hPieces, hLog⟩
        have hEmpty : commands [] ++ rest = rest := rfl
        rw [hEmpty] at hLog
        rw [hLog]
        exact ⟨block, rfl, hPieces⟩
  deciphered := by
    intro fuel data plain w hData hRun
    unfold psoDecipher at hRun
    rcases Prog.of_run_bind hRun with ⟨ok, w₁, hAll, hRun⟩
    cases ok with
    | false => cases hRun
    | true =>
        cases hRun
        exact hAtOnce.deciphers hData hAll

/- A card that answers 9000 to everything. -/
def obligingCard : Port Unit :=
  steadyCard (fun _ => ⟨true, [0x90, 0x00], success_fits⟩)

/- With it the functions do return true. -/
theorem data_handedOver_obliging :
    HandedOver obligingCard (Sys.start ()) ∧
      ((psoHashInternally obligingCard 4 algoSha256
          (List.replicate 130 7)).run
            ⟨Sys.start (), []⟩).1 = some true ∧
      ((psoDecipher obligingCard 1
          (List.replicate 255 7)).run
            ⟨Sys.start (), []⟩).1 = some (some []) := by
  refine ⟨?_, by decide +kernel, by decide +kernel⟩
  exact data_handedOver obligingCard (fun _ _ => rfl) _

/-
  A card that opens the logical channel 16 and answers 9000
  to everything else.
-/
def channelCard : Port Unit :=
  steadyCard (fun command =>
    if command = openChannel then
      ⟨true, [0x10, 0x90, 0x00], by decide⟩
    else ⟨true, [0x90, 0x00], success_fits⟩)

/- The applet selected on the channel it has opened. -/
def channelRun : Run Unit :=
  ((Applet.select channelCard 1 .mias false).run
    ⟨Sys.start (), []⟩).2

/-
  The only command of a decryption has the chaining bit, so
  the card goes on waiting for the rest of the data.
-/
theorem psoDecipher_channel16 :
    AnswersAtOnce channelCard ∧
      ((Applet.select channelCard 1 .mias false).run
        ⟨Sys.start (), []⟩).1 = some true ∧
      ((psoDecipher channelCard 1 [7]).run
        ⟨channelRun.st, []⟩).1 = some (some []) ∧
      ¬ DecipherPieces
        (channelRun.st.applets .mias).channel [7]
        (commands
          ((psoDecipher channelCard 1 [7]).run
            ⟨channelRun.st, []⟩).2.log) := by
  have hAtOnce : AnswersAtOnce channelCard := by
    intro bs k
    show Reply.request (if _ then _ else _) = _
    split <;> rfl
  have hSent :
      commands
          ((psoDecipher channelCard 1 [7]).run
            ⟨channelRun.st, []⟩).2.log =
        [[0x10, 0x2A, 0x80, 0x86, 2, 0x81, 7]] := by
    decide +kernel
  refine
    ⟨hAtOnce, by decide +kernel, by decide +kernel, ?_⟩
  rintro ⟨_, _, _, _, _, _, hFree⟩
  rw [hSent] at hFree
  have hLast := hFree [0x10, 0x2A, 0x80, 0x86, 2, 0x81, 7] rfl
  exact absurd hLast (by decide)

end Se

end TrustOnboard
