import TrustOnboard.At.ConceptBoard
import TrustOnboard.At.Csim

/-
  A command of the secure element and its response over the
  modem of the concept board.

  The lines of the answer are read one after the other to the
  start of the same array.  What is left there of a longer
  line is never taken for a part of a shorter one, since a
  line ends with its only newline.

  Key definitions include:
    * `IsLine`
    * `Standing`
    * `BoardReply`
    * `sendExtent`

  Key results include:
    * `startsWith_line`
    * `sendATCSIM_answer`
    * `sendATCSIM_contained_iff`
-/

------------------------------------------------------------
-- Lines
------------------------------------------------------------

namespace TrustOnboard

namespace At

/- A line ends with its only newline. -/
def IsLine (s : Bytes) : Prop :=
  ∃ body : Bytes, s = body ++ [10] ∧ ∀ b ∈ body, b ≠ 10

/- A text whose only newline can be its last byte. -/
def InLine (s : Bytes) : Prop :=
  ∀ b ∈ s.dropLast, b ≠ 10

instance (s : Bytes) : Decidable (InLine s) :=
  List.decidableBAll (· ≠ 10) s.dropLast

theorem IsLine.length_pos
    {s : Bytes}
    (hLine : IsLine s) :
    0 < s.length := by
  rcases hLine with ⟨body, rfl, _⟩
  simp

/-
  An array that starts with a line starts with a text of one
  line only if the line does.
-/
theorem startsWith_line
    {buf : Buffer}
    {line s : Bytes}
    (hLine : IsLine line)
    (hHere : buf.load 0 line.length = line)
    (hInLine : InLine s) :
    buf.load 0 s.length = s ↔ s <+: line := by
  rcases Nat.lt_or_ge line.length s.length with hLong | hShort
  · -- The line is too short, and what is behind it is old.
    constructor
    · intro hLoad
      have hTake : s.take line.length = line := by
        rw [← hLoad, Buffer.take_load _ _ (Nat.le_of_lt hLong)]
        exact hHere
      rcases hLine with ⟨body, rfl, _⟩
      have hMem : (10 : UInt8) ∈ s.dropLast := by
        rw [List.dropLast_eq_take]
        have hIn :
            (10 : UInt8) ∈ s.take (body ++ [10]).length := by
          rw [hTake]
          simp
        have hSub :
            s.take (body ++ [10]).length <+:
              s.take (s.length - 1) :=
          List.take_prefix_take_left (by omega)
        exact hSub.subset hIn
      exact absurd rfl (hInLine 10 hMem)
    · intro hPrefix
      have hLe := hPrefix.length_le
      omega
  · have hTake : buf.load 0 s.length = line.take s.length := by
      rw [← Buffer.take_load _ _ hShort, hHere]
    rw [hTake, List.prefix_iff_eq_take]
    exact eq_comm

end At

end TrustOnboard

------------------------------------------------------------
-- Reading Into The Array
------------------------------------------------------------

namespace TrustOnboard

namespace At

variable {K : Type}

/- The bytes sent to the modem, oldest first. -/
def sentOver : List BoardEvent → Bytes
  | [] => []
  | .sent bs :: l => sentOver l ++ bs
  | .filled _ _ :: l => sentOver l
  | .stored _ :: l => sentOver l

/- How far the array has been written. -/
def extent : List BoardEvent → Nat
  | [] => 0
  | .sent _ :: l => extent l
  | .filled off len :: l => max (extent l) (off + len)
  | .stored _ :: l => extent l

/- The array starts with a text. -/
def Holds (s : Bytes) (buf : Buffer) : Prop :=
  buf.load 0 s.length = s

/- A byte behind what the array starts with. -/
theorem Holds.push
    {done : Bytes}
    {buf : Buffer}
    (hHolds : Holds done buf)
    (bs : Bytes) :
    Holds (done ++ bs) (buf.store done.length bs) := by
  unfold Holds at hHolds ⊢
  rw [List.length_append, Buffer.load_add, Nat.zero_add,
    Buffer.load_store_self,
    Buffer.load_store_of_disjoint _ _ _ (Or.inl (by omega)),
    hHolds]

/- The array starts with a shorter text also. -/
theorem Holds.front
    {xs ys : Bytes}
    {buf : Buffer}
    (hHolds : Holds (xs ++ ys) buf) :
    Holds xs buf :=
  (Buffer.load_append hHolds).1

/-
  The board stands before a text with a port that does not
  fail, with what is known of its array, what was sent, and
  how far the array was written.
-/
def Standing
    (b : Board K)
    (φ : Buffer → Prop)
    (sent : Bytes)
    (m n : Nat)
    (t : Bytes)
    (w : BoardRun K) : Prop :=
  b.uart = .sound ∧ ∃ l ss buf,
    (sentOver l = sent ∧ extent l = m) ∧ φ buf ∧
      (Slots.text ss = t ∧ ss.length ≤ n) ∧
        w = ⟨{ b with buf := buf, slots := ss }, l⟩

variable {b : Board K}
variable {φ ψ : Buffer → Prop}
variable {sent t : Bytes}
variable {m n fuel : Nat}

theorem Standing.mono
    {n' : Nat}
    {w : BoardRun K}
    (hStanding : Standing b φ sent m n t w)
    (hBuf : ∀ buf, φ buf → ψ buf)
    (hLe : n ≤ n') :
    Standing b ψ sent m n' t w := by
  rcases hStanding with
    ⟨hUart, l, ss, buf, hLog, hHere, ⟨hText, hLength⟩, hWorld⟩
  exact
    ⟨hUart, l, ss, buf, hLog, hBuf buf hHere,
      ⟨hText, hLength.trans hLe⟩, hWorld⟩

/- A text is no longer than the looks it takes. -/
theorem standing_length
    {α : Type}
    {C : Contract (Board K) BoardEvent}
    {p : BoardCode K α}
    {Q : α → BoardRun K → Prop}
    (hTriple :
      t.length ≤ n → Triple C (Standing b φ sent m n t) p Q) :
    Triple C (Standing b φ sent m n t) p Q := by
  intro w hStanding
  refine hTriple ?_ w hStanding
  rcases hStanding with
    ⟨_, l, ss, buf, _, _, ⟨rfl, hLength⟩, _⟩
  exact ss.length_text_le.trans hLength

theorem fill_standing
    (off : Nat)
    (bs : Bytes)
    (hBuf : ∀ buf, φ buf → ψ (buf.store off bs)) :
    Triple (Contract.total _ _) (Standing b φ sent m n t)
      (fill off bs)
      (fun _ =>
        Standing b ψ sent (max m (off + bs.length)) n t) := by
  apply Triple.step
  rintro w ⟨hUart, l, ss, buf, ⟨hSent, rfl⟩, hHere, hLine, rfl⟩
  exact
    Or.inr
      ⟨hUart, .filled off bs.length :: l, ss, _, ⟨hSent, rfl⟩,
        hBuf buf hHere, hLine, rfl⟩

/- A look finds what is there. -/
theorem serialLook_standing :
    Triple (Contract.total _ _) (Standing b φ sent m n t)
      serialLook
      (fun look w =>
        match look with
        | .failed => False
        | .nothing =>
            (t ≠ [] → 0 < n) ∧
              Standing b φ sent m (n - 1) t w
        | .byte c =>
            ∃ rest,
              t = c :: rest ∧
                Standing b φ sent m (n - 1) rest w) := by
  apply Triple.step
  rintro w ⟨hUart, l, ss, buf, hLog, hHere, ⟨rfl, hLength⟩, rfl⟩
  refine Or.inr ?_
  have hNext : b.uart.nextRead = b.uart := by
    rw [hUart]
    rfl
  have hWorks : b.uart.readFails.headD false = false := by
    rw [hUart]
    rfl
  dsimp only
  rw [hWorks, if_neg Bool.false_ne_true, hNext]
  cases ss with
  | nil =>
      exact
        ⟨fun hNo => absurd rfl hNo, hUart, l, [], buf, hLog,
          hHere, ⟨rfl, Nat.zero_le _⟩, rfl⟩
  | cons s ss =>
      rw [List.length_cons] at hLength
      have hLess : ss.length ≤ n - 1 := by omega
      cases s with
      | none =>
          exact
            ⟨fun _ => by omega, hUart, l, ss, buf, hLog,
              hHere, ⟨rfl, hLess⟩, rfl⟩
      | some c =>
          exact
            ⟨Slots.text ss, rfl, hUart, l, ss, buf, hLog,
              hHere, ⟨rfl, hLess⟩, rfl⟩

/- The looks up to the byte that comes next. -/
theorem lookLoop_standing
    {c : UInt8}
    (hFuel : n < fuel) :
    Triple (Contract.total _ _)
      (Standing b φ sent m n (c :: t))
      (Prog.loop fuel
        (fun (_ : Unit) => do
          let look ← serialLook
          match look with
          | .failed => pure (.inr none)
          | .nothing => pure (.inl ())
          | .byte c => pure (.inr (some c)))
        ())
      (fun c? w =>
        c? = some c ∧ Standing b φ sent m n t w) := by
  induction fuel generalizing n with
  | zero => exact absurd hFuel (Nat.not_lt_zero n)
  | succ fuel ih =>
      rw [Prog.loop_succ, Prog.bind_assoc]
      refine serialLook_standing.bind ?_
      intro look
      cases look with
      | failed => exact Triple.false_pre (fun _ hNo => hNo)
      | nothing =>
          apply Triple.of_fact
          intro hLooks
          have hPos := hLooks (List.cons_ne_nil c t)
          simp only [Prog.pure_eq, Prog.ret_bind]
          refine (ih (by omega)).post ?_
          rintro c? w ⟨rfl, hStanding⟩
          exact
            ⟨rfl, hStanding.mono (fun _ h => h)
              (Nat.sub_le n 1)⟩
      | byte c' =>
          apply Triple.exists_pre
          intro rest
          apply Triple.of_fact
          intro hText
          cases hText
          refine Triple.ret ?_
          intro w hStanding
          exact
            ⟨rfl, hStanding.mono (fun _ h => h)
              (Nat.sub_le n 1)⟩

/- `recv` gets the byte that comes next. -/
theorem serialRecv_standing
    {c : UInt8}
    (hFuel : n < fuel) :
    Triple (Contract.total _ _)
      (Standing b φ sent m n (c :: t)) (serialRecv fuel)
      (fun c? w =>
        c? = some c ∧ Standing b φ sent m n t w) := by
  unfold serialRecv
  refine
    Triple.bind
      (M := fun isOpen w =>
        isOpen = true ∧ Standing b φ sent m n (c :: t) w)
      (Triple.read ?_) ?_
  · intro w hStanding
    refine ⟨?_, hStanding⟩
    rcases hStanding with
      ⟨hUart, l, ss, buf, _, _, _, rfl⟩
    dsimp only
    rw [hUart]
    rfl
  · intro isOpen
    apply Triple.of_fact
    rintro rfl
    rw [if_pos rfl]
    exact lookLoop_standing hFuel

/- A line is over at once or is a byte longer than another. -/
theorem IsLine.split
    {s : Bytes}
    (hLine : IsLine s) :
    s = [10] ∨
      ∃ c rest, s = c :: rest ∧ c ≠ 10 ∧ IsLine rest := by
  rcases hLine with ⟨body, rfl, hBody⟩
  cases body with
  | nil => exact Or.inl rfl
  | cons c body =>
      refine
        Or.inr
          ⟨c, body ++ [10], rfl, hBody c List.mem_cons_self,
            body, rfl, ?_⟩
      exact fun b hb => hBody b (List.mem_cons_of_mem c hb)

/- The rounds of `readLine` behind a part of the line. -/
theorem lineLoop_standing
    {inner : Nat}
    (done : Bytes)
    {more : Bytes}
    (hLine : IsLine more)
    (hInner : n < inner)
    (hFuel : more.length ≤ fuel) :
    Triple (Contract.total _ _)
      (Standing b (Holds done) sent m n (more ++ t))
      (Prog.loop fuel (lineRound inner) done.length)
      (fun _ =>
        Standing b (Holds (done ++ more)) sent
          (max m (done ++ more).length) n t) := by
  induction fuel generalizing done more m with
  | zero =>
      have hPos := hLine.length_pos
      omega
  | succ fuel ih =>
      rw [Prog.loop_succ, lineRound]
      simp only [Prog.bind_assoc]
      rcases hLine.split with rfl | ⟨c, rest, rfl, hc, hRest⟩
      · refine (serialRecv_standing hInner).bind ?_
        intro c?
        apply Triple.of_fact
        rintro rfl
        simp only [Prog.bind_assoc]
        refine
          (fill_standing done.length [10]
            (fun _ hHere => hHere.push [10])).bind ?_
        intro _
        rw [List.length_append]
        exact Triple.same
      · refine (serialRecv_standing hInner).bind ?_
        intro c?
        apply Triple.of_fact
        rintro rfl
        simp only [Prog.bind_assoc]
        refine
          (fill_standing done.length [c]
            (fun _ hHere => hHere.push [c])).bind ?_
        intro _
        rw [if_neg (by simpa using hc)]
        simp only [Prog.pure_eq, Prog.ret_bind]
        have hAll :=
          ih (m := max m (done.length + [c].length))
            (done ++ [c]) hRest (by
              rw [List.length_cons] at hFuel
              omega)
        have hMost :
            max (max m (done.length + [c].length))
                (done ++ [c] ++ rest).length =
              max m (done ++ c :: rest).length := by
          simp only [List.length_append, List.length_cons,
            List.length_nil]
          omega
        rw [hMost, List.length_append] at hAll
        simpa using hAll

/- A line is read to the start of the array. -/
theorem readLine_standing
    {line : Bytes}
    (hLine : IsLine line)
    (hFuel : n < fuel) :
    Triple (Contract.total _ _)
      (Standing b φ sent m n (line ++ t)) (readLine fuel)
      (fun _ =>
        Standing b (Holds line) sent (max m line.length) n
          t) := by
  apply standing_length
  intro hLength
  rw [List.length_append] at hLength
  refine
    (lineLoop_standing [] hLine hFuel (by omega)).pre ?_
  intro w hStanding
  exact hStanding.mono (fun _ _ => rfl) (Nat.le_refl n)

/- The array is compared with a text of one line. -/
theorem startsWith_standing
    {line s : Bytes}
    (hLine : IsLine line)
    (hInLine : InLine s) :
    Triple (Contract.total _ _)
      (Standing b (Holds line) sent m n t) (startsWith s)
      (fun r w =>
        (r = true ↔ s <+: line) ∧
          Standing b (Holds line) sent m n t w) := by
  apply Triple.read
  rintro w ⟨hUart, l, ss, buf, hLog, hHere, hText, rfl⟩
  refine ⟨?_, hUart, l, ss, buf, hLog, hHere, hText, rfl⟩
  rw [beq_iff_eq]
  exact startsWith_line hLine hHere hInLine

end At

end TrustOnboard

------------------------------------------------------------
-- Going Through Lines
------------------------------------------------------------

namespace TrustOnboard

namespace At

variable {K : Type}
variable {b : Board K}
variable {φ : Buffer → Prop}
variable {sent t : Bytes}
variable {m n fuel : Nat}

/- How far the array is written after some lines. -/
def widest (m : Nat) (lines : List Bytes) : Nat :=
  lines.foldl (fun m line => max m line.length) m

theorem widest_le_iff
    {lines : List Bytes}
    {size : Nat} :
    widest m lines ≤ size ↔
      m ≤ size ∧ ∀ line ∈ lines, line.length ≤ size := by
  induction lines generalizing m with
  | nil => simp [widest]
  | cons line lines ih =>
      have hCons :
          widest m (line :: lines) =
            widest (max m line.length) lines :=
        rfl
      rw [hCons, ih, Nat.max_le, List.forall_mem_cons,
        and_assoc]

theorem widest_append
    (xs ys : List Bytes) :
    widest m (xs ++ ys) = widest (widest m xs) ys :=
  List.foldl_append

/- A loop that stops at one line and not before. -/
theorem linesLoop_standing
    {α : Type}
    {round : BoardCode K (Unit ⊕ α)}
    {a : α}
    {lines : List Bytes}
    {final : Bytes}
    (hGo :
      ∀ line ∈ lines, ∀ φ m t,
        Triple (Contract.total _ _)
          (Standing b φ sent m n (line ++ t)) round
          (fun r w =>
            r = .inl () ∧
              Standing b (Holds line) sent
                (max m line.length) n t w))
    (hEnd :
      ∀ φ m t,
        Triple (Contract.total _ _)
          (Standing b φ sent m n (final ++ t)) round
          (fun r w =>
            r = .inr a ∧
              Standing b (Holds final) sent
                (max m final.length) n t w))
    (hFuel : lines.length < fuel) :
    Triple (Contract.total _ _)
      (Standing b φ sent m n (lines.flatten ++ (final ++ t)))
      (Prog.loop fuel (fun (_ : Unit) => round) ())
      (fun a' w =>
        a' = a ∧
          Standing b (Holds final) sent
            (widest m (lines ++ [final])) n t w) := by
  induction lines generalizing φ m fuel with
  | nil =>
      cases fuel with
      | zero => exact absurd hFuel (Nat.not_lt_zero _)
      | succ fuel =>
          rw [Prog.loop_succ]
          refine (hEnd φ m t).bind ?_
          intro r
          apply Triple.of_fact
          rintro rfl
          exact Triple.ret (fun w hStanding => ⟨rfl, hStanding⟩)
  | cons line lines ih =>
      cases fuel with
      | zero => exact absurd hFuel (Nat.not_lt_zero _)
      | succ fuel =>
          rw [List.length_cons] at hFuel
          rw [Prog.loop_succ, List.flatten_cons,
            List.append_assoc]
          refine
            (hGo line List.mem_cons_self φ m _).bind ?_
          intro r
          apply Triple.of_fact
          rintro rfl
          exact
            ih
              (fun line' hMem =>
                hGo line' (List.mem_cons_of_mem _ hMem))
              (by omega)

/- Lines that are not empty are no more than their bytes. -/
theorem length_le_flatten
    {lines : List Bytes}
    (hLines : ∀ line ∈ lines, IsLine line) :
    lines.length ≤ lines.flatten.length := by
  induction lines with
  | nil => exact Nat.le_refl 0
  | cons line lines ih =>
      have hHere := (hLines line List.mem_cons_self).length_pos
      have hRest :=
        ih (fun line' hMem =>
          hLines line' (List.mem_cons_of_mem _ hMem))
      rw [List.flatten_cons, List.length_append,
        List.length_cons]
      omega

/- A line that is neither an error nor the response. -/
def Unrelated (line : Bytes) : Prop :=
  IsLine line ∧ ¬ ascii "ERROR\r\n" <+: line ∧
    ¬ ascii "+CSIM: " <+: line

/- A line that is not the end of the command. -/
def Unfinished (line : Bytes) : Prop :=
  IsLine line ∧ ¬ ascii "OK\r\n" <+: line

theorem responseRound_unrelated
    {line : Bytes}
    (hLine : Unrelated line)
    (hFuel : n < fuel) :
    Triple (Contract.total _ _)
      (Standing b φ sent m n (line ++ t)) (responseRound fuel)
      (fun r w =>
        r = .inl () ∧
          Standing b (Holds line) sent (max m line.length) n
            t w) := by
  rcases hLine with ⟨hLine, hNoError, hNoCsim⟩
  unfold responseRound
  refine (readLine_standing hLine hFuel).bind ?_
  intro _
  refine (startsWith_standing hLine (by decide)).bind ?_
  intro failed
  apply Triple.of_fact
  intro hFailed
  rw [if_neg (fun hYes => hNoError (hFailed.mp hYes))]
  refine (startsWith_standing hLine (by decide)).bind ?_
  intro found
  apply Triple.of_fact
  intro hFound
  rw [if_neg (fun hYes => hNoCsim (hFound.mp hYes))]
  exact Triple.ret (fun w hStanding => ⟨rfl, hStanding⟩)

theorem responseRound_found
    {line : Bytes}
    (hLine : IsLine line)
    (hCsim : ascii "+CSIM: " <+: line)
    (hFuel : n < fuel) :
    Triple (Contract.total _ _)
      (Standing b φ sent m n (line ++ t)) (responseRound fuel)
      (fun r w =>
        r = .inr true ∧
          Standing b (Holds line) sent (max m line.length) n
            t w) := by
  have hNoError : ¬ ascii "ERROR\r\n" <+: line := by
    intro hError
    have hHeads :=
      List.prefix_of_prefix_length_le hError hCsim (by decide)
    revert hHeads
    decide
  unfold responseRound
  refine (readLine_standing hLine hFuel).bind ?_
  intro _
  refine (startsWith_standing hLine (by decide)).bind ?_
  intro failed
  apply Triple.of_fact
  intro hFailed
  rw [if_neg (fun hYes => hNoError (hFailed.mp hYes))]
  refine (startsWith_standing hLine (by decide)).bind ?_
  intro found
  apply Triple.of_fact
  intro hFound
  rw [if_pos (hFound.mpr hCsim)]
  exact Triple.ret (fun w hStanding => ⟨rfl, hStanding⟩)

theorem okRound_unfinished
    {line : Bytes}
    (hLine : Unfinished line)
    (hFuel : n < fuel) :
    Triple (Contract.total _ _)
      (Standing b φ sent m n (line ++ t)) (okRound fuel)
      (fun r w =>
        r = .inl () ∧
          Standing b (Holds line) sent (max m line.length) n
            t w) := by
  rcases hLine with ⟨hLine, hNotOk⟩
  unfold okRound
  refine (readLine_standing hLine hFuel).bind ?_
  intro _
  refine (startsWith_standing hLine (by decide)).bind ?_
  intro done
  apply Triple.of_fact
  intro hDone
  rw [if_neg (fun hYes => hNotOk (hDone.mp hYes))]
  exact Triple.ret (fun w hStanding => ⟨rfl, hStanding⟩)

theorem okRound_done
    {line : Bytes}
    (hLine : IsLine line)
    (hOk : ascii "OK\r\n" <+: line)
    (hFuel : n < fuel) :
    Triple (Contract.total _ _)
      (Standing b φ sent m n (line ++ t)) (okRound fuel)
      (fun r w =>
        r = .inr () ∧
          Standing b (Holds line) sent (max m line.length) n
            t w) := by
  unfold okRound
  refine (readLine_standing hLine hFuel).bind ?_
  intro _
  refine (startsWith_standing hLine (by decide)).bind ?_
  intro done
  apply Triple.of_fact
  intro hDone
  rw [if_pos (hDone.mpr hOk)]
  exact Triple.ret (fun w hStanding => ⟨rfl, hStanding⟩)

end At

end TrustOnboard

------------------------------------------------------------
-- The Response In The Array
------------------------------------------------------------

namespace TrustOnboard

namespace At

variable {K : Type}
variable {b : Board K}
variable {φ : Buffer → Prop}
variable {sent t : Bytes}
variable {m n fuel : Nat}

theorem read_standing
    {α : Type}
    {f : Board K → α}
    {a : α}
    (hValue :
      ∀ buf ss,
        φ buf → f { b with buf := buf, slots := ss } = a) :
    Triple (Contract.total _ _) (Standing b φ sent m n t)
      (Prog.read f)
      (fun a' w => a' = a ∧ Standing b φ sent m n t w) := by
  apply Triple.read
  rintro w ⟨hUart, l, ss, buf, hLog, hHere, hText, rfl⟩
  exact
    ⟨hValue buf ss hHere, hUart, l, ss, buf, hLog, hHere,
      hText, rfl⟩

/- A digit is added as its value. -/
theorem addChar_digit
    {c : UInt8}
    (hDigit : IsDigit c)
    (k : Nat) :
    addChar k c = addDecimal (2 ^ 16) k c := by
  have hAll :
      ∀ c : UInt8, IsDigit c →
        charValue c - 48 = ((c - 48).toNat : Int) := by
    apply forall_byte
    decide +kernel
  unfold addChar addDecimal
  rw [hAll c hDigit]
  omega

/- The first byte of a text in the array. -/
theorem load_head
    {buf : Buffer}
    {off : Nat}
    {x : UInt8}
    {xs : Bytes}
    (hLoad : buf.load off (x :: xs).length = x :: xs) :
    buf off = x ∧ buf.load (off + 1) xs.length = xs := by
  rw [List.length_cons, Buffer.load_succ, List.cons.injEq]
    at hLoad
  exact hLoad

/- The numeral in the array, up to its comma. -/
theorem lengthLoop_standing
    {xs : Bytes}
    {off k : Nat}
    (hThere :
      ∀ buf, φ buf →
        buf.load off (xs ++ [44]).length = xs ++ [44])
    (hDigits : ∀ c ∈ xs, IsDigit c)
    (hFuel : xs.length < fuel) :
    Triple (Contract.total _ _) (Standing b φ sent m n t)
      (Prog.loop fuel lengthRound (off, k))
      (fun r w =>
        r =
            (off + xs.length,
              xs.foldl (addDecimal (2 ^ 16)) k) ∧
          Standing b φ sent m n t w) := by
  induction xs generalizing off k fuel with
  | nil =>
      cases fuel with
      | zero => exact absurd hFuel (Nat.not_lt_zero _)
      | succ fuel =>
          rw [Prog.loop_succ, lengthRound, Prog.bind_assoc]
          refine
            (read_standing (a := (44 : UInt8))
              (fun buf _ hBuf =>
                (load_head (hThere buf hBuf)).1)).bind ?_
          intro c
          apply Triple.of_fact
          rintro rfl
          exact Triple.ret (fun w hStanding => ⟨rfl, hStanding⟩)
  | cons x xs ih =>
      cases fuel with
      | zero => exact absurd hFuel (Nat.not_lt_zero _)
      | succ fuel =>
          rw [List.length_cons] at hFuel
          have hDigit : IsDigit x := hDigits x List.mem_cons_self
          have hNot : (x == 44) = false := by
            rw [beq_eq_false_iff_ne]
            rintro rfl
            revert hDigit
            decide
          rw [Prog.loop_succ, lengthRound, Prog.bind_assoc]
          refine
            (read_standing (a := x)
              (fun buf _ hBuf =>
                (load_head (hThere buf hBuf)).1)).bind ?_
          intro c
          apply Triple.of_fact
          rintro rfl
          rw [hNot, if_neg Bool.false_ne_true]
          simp only [Prog.pure_eq, Prog.ret_bind]
          refine
            (ih
              (fun buf hBuf => (load_head (hThere buf hBuf)).2)
              (fun c' hc' =>
                hDigits c' (List.mem_cons_of_mem c hc'))
              (by omega)).post ?_
          rintro r w ⟨rfl, hStanding⟩
          refine ⟨?_, hStanding⟩
          rw [addChar_digit hDigit, List.foldl_cons,
            List.length_cons]
          congr 1
          omega

/- The first digit in the array behind some other bytes. -/
theorem findDigit_standing
    {xs : Bytes}
    {off : Nat}
    {h : UInt8}
    (hThere :
      ∀ buf, φ buf →
        buf.load off (xs ++ [h]).length = xs ++ [h])
    (hOther : ∀ c ∈ xs, ¬ IsHexDigit c)
    (hDigit : IsHexDigit h)
    (hFuel : xs.length < fuel) :
    Triple (Contract.total _ _) (Standing b φ sent m n t)
      (findDigit fuel off)
      (fun r w =>
        r = off + xs.length ∧
          Standing b φ sent m n t w) := by
  unfold findDigit
  induction xs generalizing off fuel with
  | nil =>
      cases fuel with
      | zero => exact absurd hFuel (Nat.not_lt_zero _)
      | succ fuel =>
          rw [Prog.loop_succ, findRound, Prog.bind_assoc]
          refine
            (read_standing (a := h)
              (fun buf _ hBuf =>
                (load_head (hThere buf hBuf)).1)).bind ?_
          intro c
          apply Triple.of_fact
          rintro rfl
          rw [if_pos hDigit]
          exact Triple.ret (fun w hStanding => ⟨rfl, hStanding⟩)
  | cons x xs ih =>
      cases fuel with
      | zero => exact absurd hFuel (Nat.not_lt_zero _)
      | succ fuel =>
          rw [List.length_cons] at hFuel
          rw [Prog.loop_succ, findRound, Prog.bind_assoc]
          refine
            (read_standing (a := x)
              (fun buf _ hBuf =>
                (load_head (hThere buf hBuf)).1)).bind ?_
          intro c
          apply Triple.of_fact
          rintro rfl
          rw [if_neg (hOther c List.mem_cons_self)]
          simp only [Prog.pure_eq, Prog.ret_bind]
          refine
            (ih
              (fun buf hBuf => (load_head (hThere buf hBuf)).2)
              (fun c' hc' =>
                hOther c' (List.mem_cons_of_mem c hc'))
              (by omega)).post ?_
          rintro r w ⟨rfl, hStanding⟩
          refine ⟨?_, hStanding⟩
          rw [List.length_cons]
          omega

/- The response is converted into the memory of the caller. -/
theorem storeResponse_standing
    {off : Nat}
    {digits response : Bytes}
    (hThere :
      ∀ buf, φ buf → buf.load off digits.length = digits)
    (hDigits : SpelledInHex digits response) :
    Triple (Contract.total _ _) (Standing b φ sent m n t)
      (storeResponse off digits.length)
      (fun _ =>
        Standing
          { b with
            memory := b.memory.store 0 response
            length := response.length }
          φ sent m n t) := by
  apply Triple.step
  rintro w
    ⟨hUart, l, ss, buf, ⟨hSent, hExtent⟩, hHere, hText, rfl⟩
  refine Or.inr ?_
  have hBytes :=
    hexString2BytesArray_spelled hDigits buf off
      (hThere buf hHere)
  dsimp only
  rw [hBytes]
  exact
    ⟨hUart, .stored response :: l, ss, buf,
      ⟨hSent, hExtent⟩, hHere, hText, rfl⟩

end At

end TrustOnboard

------------------------------------------------------------
-- The Command In The Array
------------------------------------------------------------

namespace TrustOnboard

namespace At

variable {K : Type}
variable {b : Board K}
variable {φ : Buffer → Prop}
variable {sent t : Bytes}
variable {m n fuel : Nat}

theorem sprintf_standing
    (done bs : Bytes) :
    Triple (Contract.total _ _)
      (Standing b (Holds done) sent m n t)
      (sprintf done.length bs)
      (fun off w =>
        off = (done ++ bs).length ∧
          Standing b (Holds (done ++ bs)) sent
            (max m ((done ++ bs).length + 1)) n t w) := by
  have hEnd :
      done.length + (bs ++ [0]).length =
        (done ++ bs).length + 1 := by
    simp only [List.length_append, List.length_singleton]
    omega
  have hHolds :
      ∀ buf, Holds done buf →
        Holds (done ++ bs)
          (buf.store done.length (bs ++ [0])) := by
    intro buf hHere
    have hAll := hHere.push (bs ++ [0])
    rw [← List.append_assoc] at hAll
    exact hAll.front
  unfold sprintf
  refine (fill_standing done.length (bs ++ [0]) hHolds).bind ?_
  intro _
  rw [hEnd]
  refine Triple.ret ?_
  intro w hStanding
  exact ⟨List.length_append.symm, hStanding⟩

/- The bytes of a command, behind what is printed of it. -/
theorem sprintfEach_standing
    {off k : Nat}
    (done bs : Bytes)
    (hPlace : done.length = off + 2 * k)
    (hMost : done.length < m) :
    Triple (Contract.total _ _)
      (Standing b (Holds done) sent m n t)
      (Prog.each
        (fun ib : UInt8 × Nat => do
          let _ ← sprintf (off + 2 * ib.2) (hexPair ib.1)
          pure ())
        (bs.zipIdx k))
      (fun _ =>
        Standing b (Holds (done ++ hexText bs)) sent
          (max m ((done ++ hexText bs).length + 1)) n t) := by
  induction bs generalizing done k m with
  | nil =>
      apply Triple.ret
      intro w hStanding
      have hNil : done ++ hexText [] = done :=
        List.append_nil done
      rw [hNil, Nat.max_eq_left hMost]
      exact hStanding
  | cons x bs ih =>
      have hCons : hexText (x :: bs) = hexPair x ++ hexText bs :=
        List.flatMap_cons
      rw [List.zipIdx_cons, Prog.each, ← hPlace, hCons]
      refine
        Triple.bind
          (M := fun _ =>
            Standing b (Holds (done ++ hexPair x)) sent
              (max m ((done ++ hexPair x).length + 1)) n t)
          ?_ ?_
      · refine (sprintf_standing done (hexPair x)).bind ?_
        intro r
        apply Triple.of_fact
        intro _
        exact Triple.same
      · intro _
        have hPair : (hexPair x).length = 2 := rfl
        refine
          (ih (k := k + 1) (done ++ hexPair x)
            (by
              rw [List.length_append]
              omega)
            (by omega)).post ?_
        intro _ w hStanding
        rw [← List.append_assoc]
        have hMax :
            max (max m ((done ++ hexPair x).length + 1))
                ((done ++ hexPair x ++ hexText bs).length + 1) =
              max m
                ((done ++ hexPair x ++ hexText bs).length +
                  1) := by
          simp only [List.length_append]
          omega
        rw [hMax] at hStanding
        exact hStanding

/- The line of a command is printed into the array. -/
theorem printCommand_standing
    (apdu : Bytes) :
    Triple (Contract.total _ _) (Standing b φ sent m n t)
      (printCommand apdu)
      (fun off w =>
        off = (csimLine apdu).length ∧
          Standing b (Holds (csimLine apdu)) sent
            (max m ((csimLine apdu).length + 1)) n t w) := by
  unfold printCommand
  generalize hHead :
    ascii "AT+CSIM=" ++ decimal (apdu.length * 2) ++
      ascii ",\"" = head
  have hLine :
      csimLine apdu =
        head ++ hexText apdu ++ ascii "\"\r\n" := by
    rw [← hHead, csimLine, Nat.mul_comm]
  rw [hLine]
  refine
    ((sprintf_standing [] head).pre
      (fun w hStanding =>
        hStanding.mono (fun _ _ => rfl) (Nat.le_refl n))).bind
      ?_
  intro off
  apply Triple.of_fact
  rintro rfl
  rw [List.nil_append]
  refine
    (sprintfEach_standing (k := 0) head apdu rfl
      (by omega)).bind ?_
  intro _
  have hPlace :
      head.length + 2 * apdu.length =
        (head ++ hexText apdu).length := by
    rw [List.length_append, length_hexText]
  rw [hPlace]
  refine
    (sprintf_standing (head ++ hexText apdu) _).post ?_
  rintro off w ⟨rfl, hStanding⟩
  refine ⟨rfl, ?_⟩
  have hMax :
      max
          (max (max m (head.length + 1))
            ((head ++ hexText apdu).length + 1))
          ((head ++ hexText apdu ++
            ascii "\"\r\n").length + 1) =
        max m
          ((head ++ hexText apdu ++
            ascii "\"\r\n").length + 1) := by
    simp only [List.length_append]
    omega
  rw [hMax] at hStanding
  exact hStanding

/- The board behind some bytes for the modem. -/
def Board.after
    (modem : Modem K)
    (bs : Bytes)
    (b : Board K) : Board K :=
  { b with env := (modem.hears bs b.env).2 }

/- What starts the array is sent. -/
theorem serialSend_standing
    (modem : Modem K)
    (bs : Bytes) :
    Triple (Contract.total _ _)
      (Standing b (Holds bs) sent m n t)
      (serialSend modem bs.length)
      (fun _ =>
        Standing (b.after modem bs) (fun _ => True)
          (sent ++ bs) m
          (n + (modem.hears bs b.env).1.length)
          (t ++ Slots.text (modem.hears bs b.env).1)) := by
  apply Triple.step
  rintro w
    ⟨hUart, l, ss, buf, ⟨rfl, rfl⟩, hHere, ⟨rfl, hLength⟩, rfl⟩
  have hLoad : buf.load 0 bs.length = bs := hHere
  have hAll : b.uart.sendable bs.length = bs.length := by
    rw [hUart]
    rfl
  refine Or.inr ?_
  dsimp only
  rw [hAll, hLoad]
  refine
    ⟨hUart, .sent bs :: l, _, buf, ⟨rfl, rfl⟩, trivial,
      ⟨?_, ?_⟩, rfl⟩
  · exact Slots.text_append _ _
  · rw [List.length_append]
    exact Nat.add_le_add_right hLength _

end At

end TrustOnboard

------------------------------------------------------------
-- The Exchange
------------------------------------------------------------

namespace TrustOnboard

namespace At

variable {K : Type}
variable {b : Board K}
variable {φ : Buffer → Prop}
variable {sent t : Bytes}
variable {m n fuel : Nat}

/- The lines of an answer with a response. -/
structure BoardReply where
  before : List Bytes
  quoted : Bool
  digits : Bytes
  response : Bytes
  after : List Bytes
  hBefore : ∀ line ∈ before, Unrelated line
  hDigits : SpelledInHex digits response
  hSome : response ≠ []
  hShort : digits.length < 2 ^ 16
  hAfter : ∀ line ∈ after, Unfinished line

/- The lines of an answer without one. -/
structure BoardError where
  before : List Bytes
  hBefore : ∀ line ∈ before, Unrelated line

/- What a modem may answer. -/
inductive BoardAnswer where
  | reply (r : BoardReply)
  | error (e : BoardError)

/- The lines that are read. -/
def BoardAnswer.lines : BoardAnswer → List Bytes
  | .reply r =>
      (r.before ++ [responseLine r.quoted r.digits]) ++
        (r.after ++ [ascii "OK\r\n"])
  | .error e => e.before ++ [ascii "ERROR\r\n"]

/- There is a response. -/
def BoardAnswer.found : BoardAnswer → Bool
  | .reply _ => true
  | .error _ => false

/- The board with the response where the caller wants it. -/
def BoardAnswer.deliver (b : Board K) : BoardAnswer → Board K
  | .reply r =>
      { b with
        memory := b.memory.store 0 r.response
        length := r.response.length }
  | .error _ => b

/- The line of a response is a line. -/
theorem isLine_responseLine
    {digits bs : Bytes}
    (hDigits : SpelledInHex digits bs)
    (quoted : Bool) :
    IsLine (responseLine quoted digits) := by
  refine
    ⟨ascii "+CSIM: " ++ decimal digits.length ++ [44] ++
        quote quoted ++ digits ++ quote quoted ++ [13], ?_, ?_⟩
  · simp [responseLine]
  · have hQuote : ∀ c ∈ quote quoted, c ≠ 10 := by
      unfold quote
      split <;> simp
    have hName : ∀ c ∈ ascii "+CSIM: ", c ≠ 10 :=
      ne_newline_of_all rfl
    intro c hc
    simp only [List.mem_append, List.mem_singleton] at hc
    rcases hc with
      (((((hc | hc) | rfl) | hc) | hc) | hc) | rfl
    · exact hName c hc
    · exact ne_newline_of_digit (decimal_digits _ c hc)
    · decide
    · exact hQuote c hc
    · exact ne_newline_of_hexDigit (hDigits.digits c hc)
    · exact hQuote c hc
    · decide

theorem isLine_ok : IsLine (ascii "OK\r\n") :=
  ⟨ascii "OK\r", rfl, ne_newline_of_all rfl⟩

theorem isLine_error : IsLine (ascii "ERROR\r\n") :=
  ⟨ascii "ERROR\r", rfl, ne_newline_of_all rfl⟩

theorem responseRound_error
    (hFuel : n < fuel) :
    Triple (Contract.total _ _)
      (Standing b φ sent m n (ascii "ERROR\r\n" ++ t))
      (responseRound fuel)
      (fun r w =>
        r = .inr false ∧
          Standing b (Holds (ascii "ERROR\r\n")) sent
            (max m (ascii "ERROR\r\n").length) n t w) := by
  unfold responseRound
  refine (readLine_standing isLine_error hFuel).bind ?_
  intro _
  refine (startsWith_standing isLine_error (by decide)).bind ?_
  intro failed
  apply Triple.of_fact
  intro hFailed
  rw [if_pos (hFailed.mpr (List.prefix_refl _))]
  exact Triple.ret (fun w hStanding => ⟨rfl, hStanding⟩)

/- The response is taken out of its line in the array. -/
theorem takeResponse_standing
    {α : Type}
    (r : BoardReply)
    {p : BoardCode K α}
    {Q : α → BoardRun K → Prop}
    (hFuel : (responseLine r.quoted r.digits).length < fuel)
    (hRest :
      Triple (Contract.total _ _)
        (Standing (BoardAnswer.deliver b (.reply r))
          (Holds (responseLine r.quoted r.digits)) sent m n t)
        p Q) :
    Triple (Contract.total _ _)
      (Standing b (Holds (responseLine r.quoted r.digits)) sent
        m n t)
      (do
        let (off, k) ← readLength fuel 7
        let off ← findDigit fuel off
        storeResponse off k
        p)
      Q := by
  rcases digits_head r.hDigits r.hSome with
    ⟨h, hs, hHead, hHex⟩
  generalize hNumeral : decimal r.digits.length = numeral
    at *
  have hLine :
      responseLine r.quoted r.digits =
        ascii "+CSIM: " ++ (numeral ++ ([44] ++
          (quote r.quoted ++ (r.digits ++
            (quote r.quoted ++ [13, 10]))))) := by
    rw [← hNumeral]
    simp [responseLine]
  have hLengths := congrArg List.length hLine
  simp only [List.length_append, List.length_singleton]
    at hLengths
  have hFront : (ascii "+CSIM: ").length = 7 := rfl
  -- The parts of the line are in the array one by one.
  have hParts :
      ∀ buf, Holds (responseLine r.quoted r.digits) buf →
        buf.load 7 (numeral ++ [44]).length =
            numeral ++ [44] ∧
          buf.load (7 + numeral.length)
              ((44 :: quote r.quoted) ++ [h]).length =
            (44 :: quote r.quoted) ++ [h] ∧
          buf.load
              (7 + numeral.length +
                (44 :: quote r.quoted).length)
              r.digits.length =
            r.digits := by
    intro buf hHolds
    unfold Holds at hHolds
    rw [hLine] at hHolds
    have hNumber := (Buffer.load_append hHolds).2
    rw [hFront, Nat.zero_add] at hNumber
    have hComma := (Buffer.load_append hNumber).2
    have hDigits := (Buffer.load_append hComma).2
    have hPlain := (Buffer.load_append hDigits).2
    refine ⟨?_, ?_, ?_⟩
    · rw [← List.append_assoc] at hNumber
      exact (Buffer.load_append hNumber).1
    · have hFirst :
          [44] ++ (quote r.quoted ++ (r.digits ++
              (quote r.quoted ++ [13, 10]))) =
            ((44 :: quote r.quoted) ++ [h]) ++
              (hs ++ (quote r.quoted ++ [13, 10])) := by
        simp [hHead]
      rw [hFirst] at hComma
      exact (Buffer.load_append hComma).1
    · have hThere := (Buffer.load_append hPlain).1
      rw [List.length_singleton] at hThere
      rw [List.length_cons]
      have hOff :
          7 + numeral.length + ((quote r.quoted).length + 1) =
            7 + numeral.length + 1 +
              (quote r.quoted).length := by
        omega
      rw [hOff]
      exact hThere
  have hQuote :
      ∀ c ∈ 44 :: quote r.quoted, ¬ IsHexDigit c := by
    unfold quote
    split <;> simp <;> decide
  refine
    (lengthLoop_standing (k := 0)
      (fun buf hBuf => (hParts buf hBuf).1) ?_ ?_).bind ?_
  · rw [← hNumeral]
    exact decimal_digits _
  · omega
  intro s
  apply Triple.of_fact
  rintro rfl
  have hValue :
      numeral.foldl (addDecimal (2 ^ 16)) 0 =
        r.digits.length := by
    rw [← hNumeral, foldl_addDecimal_decimal]
    exact Nat.mod_eq_of_lt r.hShort
  rw [hValue]
  refine
    (findDigit_standing
      (fun buf hBuf => (hParts buf hBuf).2.1) hQuote hHex
      (by
        rw [List.length_cons]
        omega)).bind ?_
  intro off
  apply Triple.of_fact
  rintro rfl
  refine
    (storeResponse_standing
      (fun buf hBuf => (hParts buf hBuf).2.2)
      r.hDigits).bind ?_
  intro _
  exact hRest

/- The lines of an answer are read up to its end. -/
theorem answerLines_standing
    (a : BoardAnswer)
    (hFuel : n < fuel)
    (hLines : a.lines.flatten.length ≤ n) :
    Triple (Contract.total _ _)
      (Standing b φ sent m n (a.lines.flatten ++ t))
      (do
        let found ← Prog.loop fuel
          (fun (_ : Unit) => responseRound fuel) ()
        if ¬ found then
          pure false
        else do
          let (off, k) ← readLength fuel 7
          let off ← findDigit fuel off
          storeResponse off k
          Prog.loop fuel (fun (_ : Unit) => okRound fuel) ()
          pure true)
      (fun found w =>
        found = a.found ∧
          Standing (a.deliver b) (fun _ => True) sent
            (widest m a.lines) n t w) := by
  cases a with
  | reply r =>
      have hCsim :
          ascii "+CSIM: " <+:
            responseLine r.quoted r.digits := by
        simp only [responseLine, List.append_assoc]
        exact List.prefix_append _ _
      have hBefore :=
        length_le_flatten (fun line hMem =>
          (r.hBefore line hMem).1)
      have hAfter :=
        length_le_flatten (fun line hMem =>
          (r.hAfter line hMem).1)
      simp only [BoardAnswer.lines, List.flatten_append,
        List.flatten_singleton, List.length_append,
        List.append_assoc] at hLines ⊢
      refine
        (linesLoop_standing
          (fun line hMem _ _ _ =>
            responseRound_unrelated (r.hBefore line hMem) hFuel)
          (fun _ _ _ =>
            responseRound_found
              (isLine_responseLine r.hDigits r.quoted) hCsim
              hFuel) (by omega)).bind ?_
      intro found
      apply Triple.of_fact
      rintro rfl
      rw [if_neg (by simp)]
      apply takeResponse_standing r (by omega)
      refine
        (linesLoop_standing
          (fun line hMem _ _ _ =>
            okRound_unfinished (r.hAfter line hMem) hFuel)
          (fun _ _ _ =>
            okRound_done isLine_ok (List.prefix_refl _) hFuel)
          (by omega)).bind ?_
      intro _
      apply Triple.of_fact
      intro _
      refine Triple.ret ?_
      intro w hStanding
      refine ⟨rfl, ?_⟩
      rw [← widest_append, List.append_assoc] at hStanding
      exact hStanding.mono (fun _ _ => trivial) (Nat.le_refl n)
  | error e =>
      have hBefore :=
        length_le_flatten (fun line hMem =>
          (e.hBefore line hMem).1)
      simp only [BoardAnswer.lines, List.flatten_append,
        List.flatten_singleton, List.length_append,
        List.append_assoc] at hLines ⊢
      refine
        (linesLoop_standing
          (fun line hMem _ _ _ =>
            responseRound_unrelated (e.hBefore line hMem) hFuel)
          (fun _ _ _ => responseRound_error hFuel)
          (by omega)).bind ?_
      intro found
      apply Triple.of_fact
      rintro rfl
      rw [if_pos (by simp)]
      refine Triple.ret ?_
      intro w hStanding
      exact
        ⟨rfl,
          hStanding.mono (fun _ _ => trivial) (Nat.le_refl n)⟩

/- One past the bytes of the array an exchange touches. -/
def sendExtent
    (apdu : Bytes)
    (pointer : Nat)
    (a : BoardAnswer) : Nat :=
  widest (max ((csimLine apdu).length + 1) pointer) a.lines

/- `sendATCSIM` goes through an answer. -/
theorem sendATCSIM_run
    {modem : Modem K}
    {pointer : Nat}
    {apdu rest : Bytes}
    {a : BoardAnswer}
    (hUart : b.uart = .sound)
    (hAnswer :
      Slots.text b.slots ++
          Slots.text (modem.hears (csimLine apdu) b.env).1 =
        a.lines.flatten ++ rest)
    (hFuel :
      b.slots.length +
          (modem.hears (csimLine apdu) b.env).1.length <
        fuel) :
    ∃ ss buf l',
      (sendATCSIM modem fuel pointer apdu).run ⟨b, []⟩ =
          (some a.found,
            ⟨{ a.deliver (b.after modem (csimLine apdu)) with
               buf := buf, slots := ss },
              l'⟩) ∧
        Slots.text ss = rest ∧ sentOver l' = csimLine apdu ∧
          extent l' = sendExtent apdu pointer a := by
  have hSends :
      Triple (Contract.total _ _)
        (Standing b (fun _ => True) [] 0 b.slots.length
          (Slots.text b.slots))
        (sendATCSIM modem fuel pointer apdu)
        (fun found w =>
          found = a.found ∧
            Standing
              (a.deliver (b.after modem (csimLine apdu)))
              (fun _ => True) (csimLine apdu)
              (sendExtent apdu pointer a)
              (b.slots.length +
                (modem.hears (csimLine apdu) b.env).1.length)
              rest w) := by
    unfold sendATCSIM
    refine (printCommand_standing apdu).bind ?_
    intro off
    apply Triple.of_fact
    rintro rfl
    refine (serialSend_standing modem (csimLine apdu)).bind ?_
    intro _
    refine
      (fill_standing (ψ := fun _ => True) 0
        (List.replicate pointer 0) (fun _ _ => trivial)).bind
        ?_
    intro _
    rw [List.nil_append, hAnswer, List.length_replicate,
      Nat.zero_add]
    apply standing_length
    intro hLength
    rw [List.length_append] at hLength
    refine
      (answerLines_standing a hFuel (by omega)).post ?_
    rintro found w ⟨rfl, hStanding⟩
    have hZero :
        max 0 ((csimLine apdu).length + 1) =
          (csimLine apdu).length + 1 :=
      Nat.max_eq_right (Nat.zero_le _)
    rw [hZero] at hStanding
    exact ⟨rfl, hStanding⟩
  have hStart :
      Standing b (fun _ => True) [] 0 b.slots.length
        (Slots.text b.slots) ⟨b, []⟩ :=
    ⟨hUart, [], b.slots, b.buf, ⟨rfl, rfl⟩, trivial,
      ⟨rfl, Nat.le_refl _⟩, rfl⟩
  rcases hSends.returns hStart with ⟨found, w, hRun, rfl, hEnd⟩
  rcases hEnd with
    ⟨_, l', ss, buf, ⟨hSent, hExtent⟩, _, ⟨hText, _⟩, rfl⟩
  exact ⟨ss, buf, l', hRun, hText, hSent, hExtent⟩

/- A command fits in the array up to 260 bytes. -/
theorem length_csimLine_lt_iff
    (apdu : Bytes) :
    (csimLine apdu).length + 1 ≤ atBufferSize ↔
      apdu.length ≤ 260 := by
  have hLine :
      (csimLine apdu).length =
        13 + (decimal (2 * apdu.length)).length +
          2 * apdu.length := by
    have hHead : (ascii "AT+CSIM=").length = 8 := rfl
    have hComma : (ascii ",\"").length = 2 := rfl
    have hTail : (ascii "\"\r\n").length = 3 := rfl
    simp only [csimLine, List.length_append, length_hexText,
      hHead, hComma, hTail]
    omega
  have hThree : (decimal 520).length = 3 := by
    decide +kernel
  have hThree' : (decimal 522).length = 3 := by
    decide +kernel
  have hOne : (decimal 0).length = 1 := rfl
  rw [hLine]
  unfold atBufferSize
  rcases Nat.lt_or_ge 260 apdu.length with hLong | hShort
  · have hDigits :=
      length_decimal_le (m := 522) (n := 2 * apdu.length)
        (by decide) (by omega)
    omega
  · by_cases hZero : apdu.length = 0
    · rw [hZero, Nat.mul_zero, hOne]
      omega
    · have hDigits :=
        length_decimal_le (m := 2 * apdu.length) (n := 520)
          (by omega) (by omega)
      omega

/- How far `sendATCSIM` goes into its array. -/
theorem extent_le_iff
    {pointer : Nat}
    {apdu : Bytes}
    {a : BoardAnswer}
    (hPointer : pointer ≤ atBufferSize) :
    sendExtent apdu pointer a ≤ atBufferSize ↔
      apdu.length ≤ 260 ∧
        ∀ line ∈ a.lines, line.length ≤ atBufferSize := by
  rw [sendExtent, widest_le_iff, Nat.max_le,
    length_csimLine_lt_iff, and_iff_left hPointer]

/-
  Over a port that does not fail, with a command and lines
  that fit in its array, `sendATCSIM` sends the line of the
  command and stays in the array.  It returns true exactly if
  there is a response, which is then what the caller gets, and
  leaves what is behind the answer on the line.
-/
theorem sendATCSIM_answer
    (modem : Modem K)
    (b : Board K)
    (apdu rest : Bytes)
    (a : BoardAnswer)
    (fuel pointer : Nat)
    (hPointer : pointer ≤ atBufferSize)
    (hShort : apdu.length ≤ 260)
    (hFits : ∀ line ∈ a.lines, line.length ≤ atBufferSize)
    (hUart : b.uart = .sound)
    (hAnswer :
      Slots.text b.slots ++
          Slots.text (modem.hears (csimLine apdu) b.env).1 =
        a.lines.flatten ++ rest)
    (hFuel :
      b.slots.length +
          (modem.hears (csimLine apdu) b.env).1.length <
        fuel) :
    ∃ ss buf l',
      (sendATCSIM modem fuel pointer apdu).run ⟨b, []⟩ =
          (some a.found,
            ⟨{ a.deliver (b.after modem (csimLine apdu)) with
               buf := buf, slots := ss },
              l'⟩) ∧
        Slots.text ss = rest ∧ sentOver l' = csimLine apdu ∧
          extent l' ≤ atBufferSize := by
  rcases sendATCSIM_run hUart hAnswer hFuel with
    ⟨ss, buf, l', hRun, hText, hSent, hExtent⟩
  refine ⟨ss, buf, l', hRun, hText, hSent, ?_⟩
  rw [hExtent]
  exact (extent_le_iff hPointer).mpr ⟨hShort, hFits⟩

/- The same modem's answer, line by line. -/
def acceptingLines : BoardReply where
  before := []
  quoted := true
  digits := acceptingAnswer.digits
  response := acceptingAnswer.response
  after := []
  hBefore := List.forall_mem_nil _
  hDigits := acceptingAnswer.hDigits
  hSome := acceptingAnswer.hSome
  hShort := Nat.le_of_ble_eq_true rfl
  hAfter := List.forall_mem_nil _

/- SELECT of the master file over such a modem. -/
theorem sendATCSIM_answer_select :
    ∃ ss buf l',
      (sendATCSIM acceptingModem 100 8
          [0x00, 0xA4, 0x00, 0x04]).run
          ⟨⟨fun _ => 0, [none], fun _ => 0, 0, (), .sound⟩, []⟩ =
          (some true,
            ⟨⟨buf, ss, Buffer.store (fun _ => 0) 0 [0x90, 0x00],
                2, (), .sound⟩,
              l'⟩) ∧
        Slots.text ss = [] ∧
          sentOver l' = ascii "AT+CSIM=8,\"00A40004\"\r\n" ∧
            extent l' ≤ atBufferSize :=
  sendATCSIM_answer acceptingModem
    ⟨fun _ => 0, [none], fun _ => 0, 0, (), .sound⟩
    [0x00, 0xA4, 0x00, 0x04] [] (.reply acceptingLines) 100 8
    (by decide) (by decide) (by decide +kernel) rfl
    (by decide +kernel) (by decide +kernel)

/-
  Over such a port the allocated array is not left exactly if
  the command has at most 260 bytes and no line of the answer
  is longer than the array.
-/
theorem sendATCSIM_contained_iff
    (modem : Modem K)
    (b : Board K)
    (apdu rest : Bytes)
    (a : BoardAnswer)
    (fuel pointer : Nat)
    (hPointer : pointer ≤ atBufferSize)
    (hUart : b.uart = .sound)
    (hAnswer :
      Slots.text b.slots ++
          Slots.text (modem.hears (csimLine apdu) b.env).1 =
        a.lines.flatten ++ rest)
    (hFuel :
      b.slots.length +
          (modem.hears (csimLine apdu) b.env).1.length <
        fuel) :
    extent
          ((sendATCSIM modem fuel pointer apdu).run
            ⟨b, []⟩).2.log ≤
        atBufferSize ↔
      apdu.length ≤ 260 ∧
        ∀ line ∈ a.lines, line.length ≤ atBufferSize := by
  rcases sendATCSIM_run hUart hAnswer hFuel with
    ⟨ss, buf, l', hRun, _, _, hExtent⟩
  rw [hRun]
  dsimp only
  rw [hExtent]
  exact extent_le_iff hPointer

/- A command with 255 bytes of data and a length is too long. -/
theorem sendATCSIM_contained_iff_longest :
    ¬ extent
          ((sendATCSIM acceptingModem 700 8
              (List.replicate 261 0)).run
            ⟨⟨fun _ => 0, [], fun _ => 0, 0, (), .sound⟩,
              []⟩).2.log ≤
        atBufferSize := by
  intro hInside
  have hBoth :=
    (sendATCSIM_contained_iff acceptingModem
      ⟨fun _ => 0, [], fun _ => 0, 0, (), .sound⟩
      (List.replicate 261 0) [] (.reply acceptingLines) 700 8
      (by decide) rfl (by decide +kernel)
      (by decide +kernel)).mp hInside
  exact absurd hBoth.1 (by decide +kernel)

end At

end TrustOnboard
