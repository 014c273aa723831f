import TrustOnboard.At.Recognition

/-
  A command of the secure element and its response over the
  modem of the connect shield.

  A reply is what a modem may answer to an `AT+CSIM` line:
  lines of no concern, the response in hexadecimal digits,
  and the end of the command.  `modem_send_apdu` gets the
  bytes of the response out of it, however the bytes of the
  reply arrive.

  Key definitions include:
    * `Silent`
    * `CsimReply`
    * `CsimAnswer.text`
    * `Device.answer`

  Key results include:
    * `readCsim_silent`
    * `modemSendApdu_run`
    * `modemSendApdu_answer`
-/

------------------------------------------------------------
-- Bytes Put Behind Each Other
------------------------------------------------------------

namespace TrustOnboard

namespace Buffer

/- The last of two stores of the same length counts. -/
theorem store_store_same
    (buf : Buffer)
    (off : Nat)
    {xs ys : Bytes}
    (hLength : xs.length = ys.length) :
    (buf.store off xs).store off ys = buf.store off ys := by
  funext i
  by_cases hInside : off ≤ i ∧ i < off + ys.length
  · obtain ⟨j, rfl⟩ : ∃ j, i = off + j :=
      ⟨i - off, by omega⟩
    have hj : j < ys.length := by omega
    rw [store_apply_of_mem _ _ _ hj,
      store_apply_of_mem _ _ _ hj]
  · rw [store_apply_of_not_mem _ _ _ (by omega),
      store_apply_of_not_mem _ _ _ (by omega),
      store_apply_of_not_mem _ _ _ (by omega)]

/- A store byte by byte. -/
theorem store_cons
    (buf : Buffer)
    (off : Nat)
    (b : UInt8)
    (bs : Bytes) :
    (buf.store off [b]).store (off + 1) bs =
      buf.store off (b :: bs) := by
  funext i
  rcases Nat.lt_trichotomy i off with hLess | rfl | hMore
  · rw [store_apply_of_not_mem _ _ _ (by omega),
      store_apply_of_not_mem _ _ _ (by omega),
      store_apply_of_not_mem _ _ _ (by omega)]
  · rw [store_apply_of_not_mem _ _ _ (by omega)]
    simp [store]
  · obtain ⟨j, rfl⟩ : ∃ j, i = off + 1 + j :=
      ⟨i - (off + 1), by omega⟩
    have hLeft : ¬ off + 1 + j < off + 1 := by omega
    have hRight : ¬ off + 1 + j < off := by omega
    have hOff : off + 1 + j - (off + 1) = j := by omega
    have hOff' : off + 1 + j - off = j + 1 := by omega
    simp only [store, if_neg hLeft, if_neg hRight, hOff, hOff',
      List.getD_cons_succ, List.getD_nil]

/- Two stores in a row make one. -/
theorem store_append
    (buf : Buffer)
    (off : Nat)
    (xs ys : Bytes) :
    (buf.store off xs).store (off + xs.length) ys =
      buf.store off (xs ++ ys) := by
  induction xs generalizing buf off with
  | nil =>
      funext i
      simp [store]
  | cons x xs ih =>
      have hPlace :
          off + (x :: xs).length = off + 1 + xs.length := by
        rw [List.length_cons]
        omega
      rw [hPlace, ← store_cons, ih, store_cons,
        List.cons_append]

@[simp] theorem store_nil
    (buf : Buffer)
    (off : Nat) :
    buf.store off [] = buf := by
  funext i
  simp [store]

end Buffer

end TrustOnboard

------------------------------------------------------------
-- Passing Bytes Of A Line
------------------------------------------------------------

namespace TrustOnboard

namespace At

variable {K : Type}

/- A text is no longer than the looks it takes. -/
theorem facing_length
    {α : Type}
    {C : Contract (Device K) Event}
    {p : Code K α}
    {Q : α → Run K → Prop}
    {d : Device K}
    {l : List Event}
    {n : Nat}
    {t : Bytes}
    (hTriple : t.length ≤ n → Triple C (Facing d l n t) p Q) :
    Triple C (Facing d l n t) p Q := by
  intro w hFacing
  refine hTriple ?_ w hFacing
  rcases hFacing with ⟨ss, rfl, hLength, _⟩
  exact ss.length_text_le.trans hLength

/-
  A loop up to a byte.  The byte at hand and the text make
  one stream.
-/
theorem passLoop_facing
    {α : Type}
    {body : UInt8 → Code K (UInt8 ⊕ α)}
    {a : α}
    {d : Device K}
    {l : List Event}
    {n fuel : Nat}
    {c₀ c : UInt8}
    {passed t₀ t : Bytes}
    (hStream : c₀ :: t₀ = passed ++ c :: t)
    (hGo :
      ∀ b ∈ passed, ∀ c' ∈ passed ++ [c], ∀ t',
        Triple (Contract.total _ _) (Facing d l n (c' :: t'))
          (body b)
          (fun r w => r = .inl c' ∧ Facing d l n t' w))
    (hEnd : body c = pure (.inr a))
    (hFuel : passed.length < fuel) :
    Triple (Contract.total _ _) (Facing d l n t₀)
      (Prog.loop fuel body c₀)
      (fun a' w => a' = a ∧ Facing d l n t w) := by
  induction passed generalizing c₀ t₀ fuel with
  | nil =>
      cases hStream
      cases fuel with
      | zero => exact absurd hFuel (Nat.not_lt_zero _)
      | succ fuel =>
          rw [Prog.loop_succ, hEnd]
          exact Triple.ret (fun w hFacing => ⟨rfl, hFacing⟩)
  | cons b passed ih =>
      rw [List.cons_append, List.cons.injEq] at hStream
      rcases hStream with ⟨rfl, rfl⟩
      cases fuel with
      | zero => exact absurd hFuel (Nat.not_lt_zero _)
      | succ fuel =>
          rw [List.length_cons] at hFuel
          obtain ⟨c₁, t₁, hNext⟩ :
              ∃ c₁ t₁, passed ++ c :: t = c₁ :: t₁ :=
            List.exists_cons_of_ne_nil (by simp)
          have hMem : c₁ ∈ passed ++ [c] := by
            cases passed with
            | nil =>
                cases hNext
                exact List.mem_singleton_self _
            | cons b passed =>
                cases hNext
                exact List.mem_cons_self
          rw [Prog.loop_succ, hNext]
          refine
            (hGo c₀ List.mem_cons_self c₁
              (List.mem_cons_of_mem _ hMem) t₁).bind ?_
          intro r
          apply Triple.of_fact
          rintro rfl
          apply ih hNext.symm _ (by omega)
          intro b hb c' hc'
          exact
            hGo b (List.mem_cons_of_mem _ hb) c'
              (List.mem_cons_of_mem _ hc')

/- The stream is longer than what is passed of it. -/
theorem length_passed_le
    {c₀ c : UInt8}
    {passed t₀ t : Bytes}
    (hStream : c₀ :: t₀ = passed ++ c :: t) :
    passed.length ≤ t₀.length := by
  have hLengths := congrArg List.length hStream
  simp only [List.length_cons, List.length_append]
    at hLengths
  omega

theorem skipUntil_facing
    {stops : UInt8 → Bool}
    {d : Device K}
    {l : List Event}
    {n fuel : Nat}
    {c₀ c : UInt8}
    {t₀ t : Bytes}
    (passed : Bytes)
    (hStream : c₀ :: t₀ = passed ++ c :: t)
    (hPassed : ∀ b ∈ passed, stops b = false)
    (hStop : stops c = true)
    (hFuel : n < fuel) :
    Triple (Contract.total _ _) (Facing d l n t₀)
      (skipUntil fuel stops c₀)
      (fun c' w => c' = c ∧ Facing d l n t w) := by
  apply facing_length
  intro hLength
  have hRounds := length_passed_le hStream
  refine passLoop_facing hStream ?_ ?_ (by omega)
  · intro b hb c' hc' t'
    rw [skipRound, hPassed b hb, if_neg Bool.false_ne_true]
    refine (atReadC_facing hFuel).bind ?_
    intro c''
    apply Triple.of_fact
    rintro rfl
    exact Triple.ret (fun w hFacing => ⟨rfl, hFacing⟩)
  · rw [skipRound, if_pos hStop]

theorem seek_facing
    {stops : UInt8 → Bool}
    {d : Device K}
    {l : List Event}
    {n fuel : Nat}
    {c₀ c : UInt8}
    {t₀ t : Bytes}
    (passed : Bytes)
    (hStream : c₀ :: t₀ = passed ++ c :: t)
    (hPassed : ∀ b ∈ passed, stops b = false)
    (hStop : stops c = true)
    (hLine : ∀ b ∈ passed ++ [c], b ≠ 10)
    (hFuel : n < fuel) :
    Triple (Contract.total _ _) (Facing d l n t₀)
      (seek fuel stops c₀)
      (fun c' w => c' = some c ∧ Facing d l n t w) := by
  apply facing_length
  intro hLength
  have hRounds := length_passed_le hStream
  refine passLoop_facing hStream ?_ ?_ (by omega)
  · intro b hb c' hc' t'
    rw [seekRound, hPassed b hb, if_neg Bool.false_ne_true]
    refine (atReadC_facing hFuel).bind ?_
    intro c''
    apply Triple.of_fact
    rintro rfl
    rw [if_neg (by simpa using hLine c'' hc')]
    exact Triple.ret (fun w hFacing => ⟨rfl, hFacing⟩)
  · rw [seekRound, if_pos hStop]

end At

end TrustOnboard

------------------------------------------------------------
-- The Response
------------------------------------------------------------

namespace TrustOnboard

namespace At

variable {K : Type}

/- The bytes sent to the modem, oldest first. -/
def sentBytes : List Event → Bytes
  | [] => []
  | .sent bs :: l => sentBytes l ++ bs
  | .stored _ _ :: l => sentBytes l

/-
  The device stands before a text, and nothing was sent to
  the modem since.
-/
def Silent
    (d : Device K)
    (sent : Bytes)
    (n : Nat)
    (t : Bytes)
    (w : Run K) : Prop :=
  ∃ l, sentBytes l = sent ∧ Facing d l n t w

/- A program that sends nothing. -/
theorem Silent.of_facing
    {α : Type}
    {p : Code K α}
    {d d' : Device K}
    {sent : Bytes}
    {n : Nat}
    {t t' : Bytes}
    {φ : α → Prop}
    (hTriple :
      ∀ l,
        Triple (Contract.total _ _) (Facing d l n t) p
          (fun a w => φ a ∧ Facing d' l n t' w)) :
    Triple (Contract.total _ _) (Silent d sent n t) p
      (fun a w => φ a ∧ Silent d' sent n t' w) := by
  apply Triple.exists_pre
  intro l
  apply Triple.of_fact
  intro hSent
  refine (hTriple l).post ?_
  rintro a w ⟨hFact, hFacing⟩
  exact ⟨hFact, l, hSent, hFacing⟩

theorem silent_length
    {α : Type}
    {C : Contract (Device K) Event}
    {p : Code K α}
    {Q : α → Run K → Prop}
    {d : Device K}
    {sent : Bytes}
    {n : Nat}
    {t : Bytes}
    (hTriple :
      t.length ≤ n → Triple C (Silent d sent n t) p Q) :
    Triple C (Silent d sent n t) p Q := by
  apply Triple.exists_pre
  intro l
  apply Triple.of_fact
  intro hSent
  apply facing_length
  intro hLength
  exact
    (hTriple hLength).pre (fun w hFacing => ⟨l, hSent, hFacing⟩)

/- The device with some bytes in the memory of the caller. -/
def Device.put
    (d : Device K)
    (off : Nat)
    (bs : Bytes) : Device K :=
  { d with memory := d.memory.store off bs }

theorem store_silent
    (d : Device K)
    (sent : Bytes)
    (n : Nat)
    (t : Bytes)
    (off : Nat)
    (bs : Bytes) :
    Triple (Contract.total _ _) (Silent d sent n t)
      (store off bs)
      (fun _ => Silent (d.put off bs) sent n t) := by
  apply Triple.step
  rintro w ⟨l, hSent, ss, hText, hLength, rfl⟩
  exact
    Or.inr
      ⟨.stored off bs :: l, hSent, ss, hText, hLength, rfl⟩

theorem setLength_silent
    (d : Device K)
    (sent : Bytes)
    (n : Nat)
    (t : Bytes)
    (f : Nat → Nat) :
    Triple (Contract.total _ _) (Silent d sent n t)
      (setLength f)
      (fun _ =>
        Silent { d with length := f d.length % 2 ^ 16 } sent n
          t) := by
  apply Triple.modify
  rintro w ⟨l, hSent, ss, hText, hLength, rfl⟩
  exact ⟨l, hSent, ss, hText, hLength, rfl⟩

theorem atReadC_silent
    {d : Device K}
    {sent : Bytes}
    {n fuel : Nat}
    {c : UInt8}
    {t : Bytes}
    (hFuel : n < fuel) :
    Triple (Contract.total _ _) (Silent d sent n (c :: t))
      (atReadC fuel)
      (fun c' w => c' = c ∧ Silent d sent n t w) :=
  Silent.of_facing (fun _ => atReadC_facing hFuel)

/- The device with a response in the memory of the caller. -/
def Device.receive
    (d : Device K)
    (off : Nat)
    (bs : Bytes) : Device K :=
  { d with
    memory := d.memory.store off bs
    length := (d.length + bs.length) % 2 ^ 16 }

theorem Device.receive_cons
    (d : Device K)
    (off : Nat)
    (x b : UInt8)
    (bs : Bytes) :
    ({ (d.put off [x]).put off [b] with
        length := (d.length + 1) % 2 ^ 16 } :
        Device K).receive (off + 1) bs =
      d.receive off (b :: bs) := by
  have hLength :
      ((d.length + 1) % 2 ^ 16 + bs.length) % 2 ^ 16 =
        (d.length + (bs.length + 1)) % 2 ^ 16 := by
    omega
  simp only [Device.receive, Device.put, List.length_cons,
    hLength]
  have hSame : ([x] : Bytes).length = [b].length := rfl
  rw [Buffer.store_store_same _ _ hSame, Buffer.store_cons]

theorem Device.receive_nil
    {d : Device K}
    (hLength : d.length < 2 ^ 16)
    (off : Nat) :
    d.receive off [] = d := by
  simp only [Device.receive, Buffer.store_nil,
    List.length_nil, Nat.add_zero, Nat.mod_eq_of_lt hLength]

/- A digit does not end a line. -/
theorem ne_newline_of_all
    {s : Bytes}
    (hAll : s.all (· != 10) = true) :
    ∀ c ∈ s, c ≠ 10 := by
  intro c hc
  exact bne_iff_ne.mp (List.all_eq_true.mp hAll c hc)

theorem ne_newline_of_hexDigit
    {c : UInt8}
    (hDigit : IsHexDigit c) :
    c ≠ 10 := by
  rintro rfl
  revert hDigit
  decide

/- The rounds that put the bytes of a response together. -/
theorem extractLoop_silent
    {d : Device K}
    {sent : Bytes}
    {n inner fuel off : Nat}
    {c₀ c : UInt8}
    {digits bs t₀ t : Bytes}
    (hLength : d.length < 2 ^ 16)
    (hStream : c₀ :: t₀ = digits ++ c :: t)
    (hDigits : SpelledInHex digits bs)
    (hEnd : ¬ IsHexDigit c)
    (hLine : c ≠ 10)
    (hInner : n < inner)
    (hFuel : bs.length < fuel) :
    Triple (Contract.total _ _) (Silent d sent n t₀)
      (Prog.loop fuel (extractRound inner) (off, c₀))
      (fun r w =>
        r = some (off + bs.length, c) ∧
          Silent (d.receive off bs) sent n t w) := by
  induction hDigits generalizing d off c₀ t₀ fuel with
  | nil =>
      cases hStream
      cases fuel with
      | zero => exact absurd hFuel (Nat.not_lt_zero _)
      | succ fuel =>
          rw [Prog.loop_succ, extractRound, if_neg hEnd]
          refine Triple.ret ?_
          intro w hSilent
          rw [Device.receive_nil hLength]
          exact ⟨rfl, hSilent⟩
  | @cons h low digits bs hHigh hLow hRest ih =>
      rw [List.cons_append, List.cons.injEq] at hStream
      rcases hStream with ⟨rfl, rfl⟩
      cases fuel with
      | zero => exact absurd hFuel (Nat.not_lt_zero _)
      | succ fuel =>
          rw [List.length_cons] at hFuel
          obtain ⟨c₁, t₁, hNext⟩ :
              ∃ c₁ t₁, digits ++ c :: t = c₁ :: t₁ :=
            List.exists_cons_of_ne_nil (by simp)
          have hIn : c₁ ≠ 10 := by
            cases digits with
            | nil =>
                cases hNext
                exact hLine
            | cons b digits =>
                cases hNext
                exact
                  ne_newline_of_hexDigit
                    (hRest.digits _ List.mem_cons_self)
          rw [Prog.loop_succ, extractRound, if_pos hHigh]
          simp only [Prog.bind_assoc, List.cons_append, hNext]
          refine (store_silent _ _ _ _ _ _).bind ?_
          intro _
          refine (atReadC_silent hInner).bind ?_
          intro c'
          apply Triple.of_fact
          rintro rfl
          rw [if_neg (by simpa using ne_newline_of_hexDigit hLow)]
          simp only [Prog.bind_assoc]
          refine (store_silent _ _ _ _ _ _).bind ?_
          intro _
          refine (setLength_silent _ _ _ _ _).bind ?_
          intro _
          refine (atReadC_silent hInner).bind ?_
          intro c''
          apply Triple.of_fact
          rintro rfl
          rw [if_neg (by simpa using hIn)]
          simp only [Prog.pure_eq, Prog.ret_bind]
          refine
            (ih (Nat.mod_lt _ (by decide)) hNext.symm
              (by omega)).post ?_
          rintro r w ⟨rfl, hSilent⟩
          rw [← Device.receive_cons d off (digitValue c₀)]
          refine ⟨?_, hSilent⟩
          rw [List.length_cons]
          congr 2
          omega

end At

end TrustOnboard

------------------------------------------------------------
-- Replies
------------------------------------------------------------

namespace TrustOnboard

namespace At

variable {K : Type}

/- The events `modem_send_apdu` does nothing at. -/
def AtEvent.isOther (e : AtEvent) : Bool :=
  e != .csim && ! e.isResponse

theorem isResponse_of_isOther
    (e : AtEvent)
    (hOther : e.isOther = true) :
    e.isResponse = false := by
  cases e <;> first | rfl | cases hOther

theorem csimEvent_other
    {fuel : Nat}
    (off : Nat)
    (e : AtEvent)
    (hOther : e.isOther = true) :
    csimEvent (K := K) fuel off e = pure (.inl off) := by
  have hNot : (e == .csim) = false := by
    cases e <;> first | rfl | cases hOther
  simp [csimEvent, hNot, isResponse_of_isOther e hOther]

/- The quotes a modem may put around the digits. -/
def quote (quoted : Bool) : Bytes :=
  if quoted then [34] else []

/- The line of a response. -/
def responseLine
    (quoted : Bool)
    (digits : Bytes) : Bytes :=
  ascii "+CSIM: " ++ decimal digits.length ++ [44] ++
    quote quoted ++ digits ++ quote quoted ++ [13, 10]

/-
  What a modem answers to a command: lines of no concern in
  front of the response and behind it, and the digits of the
  response in any case, with or without quotes.
-/
structure CsimReply where
  before : Bytes
  quoted : Bool
  digits : Bytes
  response : Bytes
  after : Bytes
  hBefore : Passes AtEvent.isOther before []
  hDigits : SpelledInHex digits response
  hSome : response ≠ []
  hAfter : Passes AtEvent.isOther after []

/- The bytes of the answer. -/
def CsimReply.text (r : CsimReply) : Bytes :=
  r.before ++ (responseLine r.quoted r.digits ++ (r.after ++
    ascii "OK\r\n"))

/- A modem that has no response answers with an error. -/
structure CsimError where
  before : Bytes
  error : Bytes
  hBefore : Passes AtEvent.isOther before []
  hError : firstEvent error = some (.commandFailure, [])

/- What a modem may answer. -/
inductive CsimAnswer where
  | reply (r : CsimReply)
  | error (e : CsimError)

/- The bytes of an answer. -/
def CsimAnswer.text : CsimAnswer → Bytes
  | .reply r => r.text
  | .error e => e.before ++ e.error

/- The response in an answer. -/
def CsimAnswer.response : CsimAnswer → Bytes
  | .reply r => r.response
  | .error _ => []

/- The event of a literal, whatever follows it. -/
theorem firstEvent_literal
    {s : Bytes}
    {e : AtEvent}
    (hEvent : firstEvent s = some (e, []))
    (t : Bytes) :
    firstEvent (s ++ t) = some (e, t) :=
  Line.scan_append hEvent t

theorem firstEvent_csim :
    firstEvent (ascii "+CSIM:") = some (.csim, []) := by
  decide +kernel

theorem firstEvent_ok :
    firstEvent (ascii "OK\r\n") =
      some (.commandSuccess, []) := by
  decide +kernel

/- The first digit of a response is at its head. -/
theorem digits_head
    {digits bs : Bytes}
    (hDigits : SpelledInHex digits bs)
    (hSome : bs ≠ []) :
    ∃ h t, digits = h :: t ∧ IsHexDigit h := by
  cases hDigits with
  | nil => exact absurd rfl hSome
  | cons hHigh hLow hRest => exact ⟨_, _, rfl, hHigh⟩

/- The bytes of a numeral are not passed over. -/
theorem ne_newline_of_digit
    {c : UInt8}
    (hDigit : IsDigit c) :
    c ≠ 10 :=
  ne_newline_of_hexDigit hDigit.isHexDigit

/- An answer behind its `+CSIM:` is read to its end. -/
theorem readCsim_silent
    {d : Device K}
    {n fuel : Nat}
    (sent : Bytes)
    (off : Nat)
    {quoted : Bool}
    {digits response t : Bytes}
    (hLength : d.length < 2 ^ 16)
    (hDigits : SpelledInHex digits response)
    (hSome : response ≠ [])
    (hFuel : n < fuel) :
    Triple (Contract.total _ _)
      (Silent d sent n
        (32 :: (decimal digits.length ++ 44 ::
          (quote quoted ++ (digits ++ (quote quoted ++
            13 :: 10 :: t))))))
      (readCsim fuel off)
      (fun r w =>
        r = some (off + response.length) ∧
          Silent (d.receive off response) sent n t w) := by
  rcases digits_head hDigits hSome with ⟨h, hs, hHead, hHex⟩
  obtain ⟨k, ks, hNumber⟩ :
      ∃ k ks, decimal digits.length = k :: ks :=
    List.exists_cons_of_ne_nil (decimal_ne_nil _)
  have hNumeral : ∀ b ∈ k :: ks, IsDigit b := by
    rw [← hNumber]
    exact decimal_digits _
  have hDigit : IsDigit k := hNumeral k List.mem_cons_self
  rw [hNumber]
  unfold readCsim
  -- The length starts behind a blank.
  refine
    (Silent.of_facing (fun l =>
      seek_facing (c := k) [0, 32] rfl ?_ ?_ ?_
        hFuel)).bind ?_
  · intro b hb
    simp only [List.mem_cons, List.not_mem_nil, or_false] at hb
    rcases hb with rfl | rfl
    · rfl
    · rfl
  · simpa using hDigit
  · have hFront : ∀ b ∈ ([0, 32] : Bytes), b ≠ 10 :=
      ne_newline_of_all rfl
    intro b hb
    rcases List.mem_append.mp hb with hb | hb
    · exact hFront b hb
    · rw [List.mem_singleton.mp hb]
      exact ne_newline_of_digit hDigit
  intro r
  apply Triple.of_fact
  rintro rfl
  -- It ends at a comma.
  refine
    (Silent.of_facing (fun l =>
      seek_facing (c := 44) (k :: ks) rfl ?_ ?_ ?_
        hFuel)).bind ?_
  · intro b hb
    simpa using hNumeral b hb
  · decide
  · intro b hb
    rcases List.mem_append.mp hb with hb | hb
    · exact ne_newline_of_digit (hNumeral b hb)
    · rw [List.mem_singleton.mp hb]
      decide
  intro r
  apply Triple.of_fact
  rintro rfl
  -- The digits may stand behind a quote.
  have hQuote : ∀ b ∈ 44 :: quote quoted, b = 44 ∨ b = 34 := by
    unfold quote
    split <;> simp
  refine
    (Silent.of_facing (fun l =>
      seek_facing (c := h) (44 :: quote quoted)
        (t := hs ++ (quote quoted ++ 13 :: 10 :: t))
        (by simp [hHead]) ?_ ?_ ?_ hFuel)).bind ?_
  · intro b hb
    rcases hQuote b hb with rfl | rfl <;> decide
  · simpa using hHex
  · intro b hb
    rcases List.mem_append.mp hb with hb | hb
    · rcases hQuote b hb with rfl | rfl <;> decide
    · rw [List.mem_singleton.mp hb]
      exact ne_newline_of_hexDigit hHex
  intro r
  apply Triple.of_fact
  rintro rfl
  -- They end at a quote or at the end of the line.
  obtain ⟨c, rest, passed, hEnd, hLast, hNot, hLine⟩ :
      ∃ c rest passed,
        quote quoted ++ 13 :: 10 :: t = c :: rest ∧
          c :: rest = passed ++ 10 :: t ∧
          ¬ IsHexDigit c ∧ ∀ b ∈ c :: passed, b ≠ 10 := by
    cases quoted with
    | false =>
        exact
          ⟨13, 10 :: t, [13], rfl, rfl, by decide, by simp⟩
    | true =>
        exact
          ⟨34, 13 :: 10 :: t, [34, 13], rfl, rfl, by decide,
            by simp⟩
  have hStream :
      h :: (hs ++ (quote quoted ++ 13 :: 10 :: t)) =
        digits ++ c :: rest := by
    rw [hEnd, hHead, List.cons_append]
  refine
    Triple.bind
      (M := fun r w =>
        r = some (off + response.length, c) ∧
          Silent (d.receive off response) sent n rest w)
      ?_ ?_
  · apply silent_length
    intro hLong
    have hDouble := hDigits.length
    simp only [hHead, List.length_cons, List.length_append]
      at hDouble hLong
    exact
      extractLoop_silent hLength hStream hDigits hNot
        (hLine c List.mem_cons_self) hFuel (by omega)
  intro r
  apply Triple.of_fact
  rintro rfl
  refine
    (Silent.of_facing (fun l =>
      skipUntil_facing passed hLast ?_ ?_ hFuel)).bind ?_
  · intro b hb
    simpa using hLine b (List.mem_cons_of_mem _ hb)
  · decide
  intro c'
  apply Triple.of_fact
  intro _
  exact Triple.ret (fun w hSilent => ⟨rfl, hSilent⟩)

end At

end TrustOnboard

------------------------------------------------------------
-- The Exchange
------------------------------------------------------------

namespace TrustOnboard

namespace At

variable {K : Type}

/- What a modem answers to two texts in a row. -/
theorem Modem.hears_append
    (modem : Modem K)
    (xs ys : Bytes)
    (k : K) :
    modem.hears (xs ++ ys) k =
      ((modem.hears xs k).1 ++
          (modem.hears ys (modem.hears xs k).2).1,
        (modem.hears ys (modem.hears xs k).2).2) := by
  induction xs generalizing k with
  | nil => rfl
  | cons x xs ih =>
      simp only [List.cons_append, Modem.hears, ih,
        List.append_assoc]

/- The device behind some bytes for the modem. -/
def Device.after
    (modem : Modem K)
    (bs : Bytes)
    (d : Device K) : Device K :=
  { d with env := (modem.hears bs d.env).2 }

/- What the modem has to say to some bytes. -/
def Device.answer
    (modem : Modem K)
    (bs : Bytes)
    (d : Device K) : Slots :=
  (modem.hears bs d.env).1

theorem atPrint_silent
    (modem : Modem K)
    (d : Device K)
    (sent : Bytes)
    (n : Nat)
    (t bs : Bytes) :
    Triple (Contract.total _ _) (Silent d sent n t)
      (atPrint modem bs)
      (fun _ =>
        Silent (d.after modem bs) (sent ++ bs)
          (n + (d.answer modem bs).length)
          (t ++ (d.answer modem bs).text)) := by
  apply Triple.step
  rintro w ⟨l, rfl, ss, rfl, hLength, rfl⟩
  refine
    Or.inr ⟨.sent bs :: l, rfl, _, ?_, ?_, rfl⟩
  · exact Slots.text_append _ _
  · rw [List.length_append]
    exact Nat.add_le_add_right hLength _

/- Two prints in a row make one. -/
theorem Silent.print_append
    {modem : Modem K}
    {d : Device K}
    {sent : Bytes}
    {n : Nat}
    {t xs ys : Bytes}
    {w : Run K}
    (hSilent :
      Silent ((d.after modem xs).after modem ys)
        ((sent ++ xs) ++ ys)
        (n + (d.answer modem xs).length +
          ((d.after modem xs).answer modem ys).length)
        ((t ++ (d.answer modem xs).text) ++
          ((d.after modem xs).answer modem ys).text) w) :
    Silent (d.after modem (xs ++ ys)) (sent ++ (xs ++ ys))
      (n + (d.answer modem (xs ++ ys)).length)
      (t ++ (d.answer modem (xs ++ ys)).text) w := by
  have hAnswer :
      d.answer modem (xs ++ ys) =
        d.answer modem xs ++ (d.after modem xs).answer modem ys :=
    congrArg Prod.fst (modem.hears_append xs ys d.env)
  have hAfter :
      d.after modem (xs ++ ys) =
        (d.after modem xs).after modem ys := by
    unfold Device.after
    rw [modem.hears_append]
  rw [hAnswer, hAfter, Slots.text_append, List.length_append,
    ← Nat.add_assoc, ← List.append_assoc, ← List.append_assoc]
  exact hSilent

/- The bytes of a command are printed one by one. -/
theorem printEach_silent
    (modem : Modem K)
    (d : Device K)
    (sent : Bytes)
    (n : Nat)
    (t bs : Bytes) :
    Triple (Contract.total _ _) (Silent d sent n t)
      (Prog.each (fun b => atPrint modem (hexPair b)) bs)
      (fun _ =>
        Silent (d.after modem (hexText bs))
          (sent ++ hexText bs)
          (n + (d.answer modem (hexText bs)).length)
          (t ++ (d.answer modem (hexText bs)).text)) := by
  induction bs generalizing d sent n t with
  | nil =>
      apply Triple.ret
      intro w hSilent
      simpa [hexText, Device.after, Device.answer,
        Modem.hears] using hSilent
  | cons b bs ih =>
      have hCons : hexText (b :: bs) = hexPair b ++ hexText bs :=
        List.flatMap_cons
      rw [hCons]
      refine (atPrint_silent modem d sent n t _).bind ?_
      intro _
      exact (ih _ _ _ _).post (fun _ w => Silent.print_append)

/- The whole line of a command. -/
theorem printLine_silent
    {α : Type}
    (modem : Modem K)
    (d : Device K)
    (sent : Bytes)
    (n : Nat)
    (t apdu : Bytes)
    {p : Code K α}
    {Q : α → Run K → Prop}
    (hRest :
      Triple (Contract.total _ _)
        (Silent (d.after modem (csimLine apdu))
          (sent ++ csimLine apdu)
          (n + (d.answer modem (csimLine apdu)).length)
          (t ++ (d.answer modem (csimLine apdu)).text))
        p Q) :
    Triple (Contract.total _ _) (Silent d sent n t)
      (do
        atPrint modem
          (ascii "AT+CSIM=" ++ decimal (apdu.length * 2) ++
            ascii ",\"")
        Prog.each (fun b => atPrint modem (hexPair b)) apdu
        atPrint modem (ascii "\"\r\n")
        p)
      Q := by
  have hLine :
      csimLine apdu =
        ((ascii "AT+CSIM=" ++ decimal (apdu.length * 2) ++
          ascii ",\"") ++ hexText apdu) ++
            ascii "\"\r\n" := by
    rw [csimLine, Nat.mul_comm]
  rw [hLine] at hRest
  refine (atPrint_silent modem d sent n t _).bind ?_
  intro _
  refine
    ((printEach_silent modem _ _ _ _ apdu).post
      (fun _ w => Silent.print_append)).bind ?_
  intro _
  refine
    ((atPrint_silent modem _ _ _ _ _).post
      (fun _ w => Silent.print_append)).bind ?_
  intro _
  exact hRest

/- The line of a response, byte by byte. -/
theorem responseLine_append
    (quoted : Bool)
    (digits t : Bytes) :
    responseLine quoted digits ++ t =
      ascii "+CSIM:" ++ 32 :: (decimal digits.length ++ 44 ::
        (quote quoted ++ (digits ++ (quote quoted ++
          13 :: 10 :: t)))) := by
  have hHead : ascii "+CSIM: " = ascii "+CSIM:" ++ [32] := rfl
  simp [responseLine, hHead]

/- The rounds that take a response and the end behind it. -/
theorem replyLoop_silent
    {d : Device K}
    {sent : Bytes}
    {n fuel : Nat}
    {t rest : Bytes}
    (r : CsimReply)
    (hPass : Passes AtEvent.isOther t [])
    (hLength : d.length < 2 ^ 16)
    (hFuel : n < fuel) :
    Triple (Contract.total _ _)
      (Silent d sent n (t ++ (r.text ++ rest)))
      (Prog.loop fuel
        (fun off => atProcessRecv fuel >>= csimEvent fuel off)
        0)
      (fun ok w =>
        ok = true ∧
          Silent
            ((d.receive 0 r.response).heard .commandSuccess)
            sent n rest w) := by
  apply Triple.exists_pre
  intro l
  apply Triple.of_fact
  rintro rfl
  have hFront :
      Passes AtEvent.isOther (t ++ (r.text ++ rest))
        (responseLine r.quoted r.digits ++ (r.after ++
          (ascii "OK\r\n" ++ rest))) := by
    have hLines :=
      (hPass.append r.before).trans r.hBefore
    have hAll :=
      hLines.append
        (responseLine r.quoted r.digits ++ (r.after ++
          (ascii "OK\r\n" ++ rest)))
    simpa [CsimReply.text] using hAll
  refine
    loop_upTo
      (P := fun m off w =>
        off = r.response.length ∧
          Silent (d.receive 0 r.response) (sentBytes l) m
            (r.after ++ (ascii "OK\r\n" ++ rest)) w)
      (fun _ => rfl) csimEvent_other rfl
      isResponse_of_isOther hFront
      (by
        rw [responseLine_append]
        exact firstEvent_literal firstEvent_csim _)
      hFuel (Nat.le_of_lt hFuel) ?_ ?_
  · -- The response is taken.
    intro m hLess
    rw [Device.heard_of_not rfl]
    refine
      Triple.bind
        ((readCsim_silent (sentBytes l) 0 hLength r.hDigits
          r.hSome (by omega)).pre
            (fun w hFacing => ⟨l, rfl, hFacing⟩)) ?_
    intro reached
    apply Triple.of_fact
    rintro rfl
    apply Triple.ret
    intro w hSilent
    exact ⟨Nat.zero_add _, hSilent⟩
  · -- The command ends.
    intro m fuel' off hLess hLe
    apply Triple.of_fact
    rintro rfl
    apply Triple.exists_pre
    intro l'
    apply Triple.of_fact
    intro hSent
    refine
      loop_upTo (P := fun _ _ _ => False)
        (fun _ => rfl) csimEvent_other rfl
        isResponse_of_isOther
        (r.hAfter.append (ascii "OK\r\n" ++ rest))
        (firstEvent_literal firstEvent_ok rest)
        (by omega) hLe ?_ ?_
    · intro m' hLess'
      apply Triple.ret
      intro w hFacing
      exact ⟨rfl, l', hSent, hFacing.mono (by omega)⟩
    · intro _ _ _ _ _
      exact Triple.false_pre (fun _ hNo => hNo)

/- The rounds up to an error. -/
theorem errorLoop_silent
    {d : Device K}
    {sent : Bytes}
    {n fuel : Nat}
    {t rest : Bytes}
    (e : CsimError)
    (hPass : Passes AtEvent.isOther t [])
    (hFuel : n < fuel) :
    Triple (Contract.total _ _)
      (Silent d sent n (t ++ ((e.before ++ e.error) ++ rest)))
      (Prog.loop fuel
        (fun off => atProcessRecv fuel >>= csimEvent fuel off)
        0)
      (fun ok w =>
        ok = true ∧
          Silent (d.heard .commandFailure) sent n rest w) := by
  apply Triple.exists_pre
  intro l
  apply Triple.of_fact
  rintro rfl
  have hFront :
      Passes AtEvent.isOther
        (t ++ ((e.before ++ e.error) ++ rest))
        (e.error ++ rest) := by
    have hLines := (hPass.append e.before).trans e.hBefore
    have hAll := hLines.append (e.error ++ rest)
    simpa using hAll
  refine
    loop_upTo (P := fun _ _ _ => False)
      (fun _ => rfl) csimEvent_other rfl
      isResponse_of_isOther hFront
      (firstEvent_literal e.hError rest)
      hFuel (Nat.le_of_lt hFuel) ?_ ?_
  · intro m hLess
    apply Triple.ret
    intro w hFacing
    exact ⟨rfl, l, rfl, hFacing.mono (by omega)⟩
  · intro _ _ _ _ _
    exact Triple.false_pre (fun _ hNo => hNo)

/- `modem_send_apdu` goes through an answer. -/
theorem modemSendApdu_run
    {modem : Modem K}
    {d : Device K}
    (l : List Event)
    {apdu rest : Bytes}
    {a : CsimAnswer}
    {fuel : Nat}
    (hShort : apdu.length ≤ 256)
    (hFree : d.locked = false)
    (hIdle : Passes AtEvent.isOther d.slots.text [])
    (hAnswer :
      (modem.hears (csimLine apdu) d.env).1.text =
        a.text ++ rest)
    (hFuel :
      d.slots.length +
          (modem.hears (csimLine apdu) d.env).1.length < fuel) :
    ∃ ss l',
      (modemSendApdu modem fuel apdu).run ⟨d, l⟩ =
          (some true,
            ⟨{ locked := false
               slots := ss
               memory := d.memory.store 0 a.response
               length := a.response.length % 2 ^ 16
               env := (modem.hears (csimLine apdu) d.env).2 },
              l'⟩) ∧
        ss.text = rest ∧
          sentBytes l' = sentBytes l ++ csimLine apdu := by
  have hSends :
      Triple (Contract.total _ _)
        (Silent d (sentBytes l) d.slots.length d.slots.text)
        (modemSendApdu modem fuel apdu)
        (fun ok w =>
          ok = true ∧
            ∃ n,
              Silent
                { d with
                  locked := false
                  memory := d.memory.store 0 a.response
                  length := a.response.length % 2 ^ 16
                  env :=
                    (modem.hears (csimLine apdu) d.env).2 }
                (sentBytes l ++ csimLine apdu) n rest w) := by
    unfold modemSendApdu
    refine (setLength_silent _ _ _ _ _).bind ?_
    intro _
    rw [if_neg (by omega)]
    apply Triple.exists_pre
    intro l₀
    apply Triple.of_fact
    intro hSent
    refine
      Triple.bind
        (atLock_facing isResponse_of_isOther
          (by exact hFree) hIdle (by omega)) ?_
    intro _
    apply Triple.exists_pre
    intro t
    apply Triple.of_fact
    intro hPass
    refine
      (printLine_silent modem _ (sentBytes l) _ t apdu ?_).pre
        (fun w hFacing => ⟨l₀, hSent, hFacing⟩)
    have hText :
        ((({ d with length := 0 % 2 ^ 16, locked := true } :
          Device K)).answer modem (csimLine apdu)).text =
            a.text ++ rest :=
      hAnswer
    rw [hText]
    cases a with
    | reply r =>
        refine
          (replyLoop_silent r hPass (Nat.zero_lt_succ _)
            hFuel).post ?_
        rintro ok w ⟨rfl, hSilent⟩
        have hEnd :
            ∃ n, Silent _ (sentBytes l ++ csimLine apdu) n rest
              w :=
          ⟨_, hSilent⟩
        refine ⟨rfl, ?_⟩
        simpa [Device.receive, Device.heard, Device.after,
          AtEvent.isResponse, CsimAnswer.response] using hEnd
    | error e =>
        refine (errorLoop_silent e hPass hFuel).post ?_
        rintro ok w ⟨rfl, hSilent⟩
        have hEnd :
            ∃ n, Silent _ (sentBytes l ++ csimLine apdu) n rest
              w :=
          ⟨_, hSilent⟩
        refine ⟨rfl, ?_⟩
        simpa [Device.heard, Device.after,
          AtEvent.isResponse, CsimAnswer.response] using hEnd
  have hStart :
      Silent d (sentBytes l) d.slots.length d.slots.text
        ⟨d, l⟩ :=
    ⟨l, rfl, facing_self d l⟩
  rcases hSends.returns hStart with
    ⟨ok, w, hRun, rfl, n, l', hSent, ss, hText, _, rfl⟩
  exact ⟨ss, l', hRun, hText, hSent⟩

/-
  `modem_send_apdu` on an unlocked device sends the line of
  the command.  It always returns true, with the response in
  the memory of the caller and nothing else changed there;
  what the modem says behind the answer is left on the line.
-/
theorem modemSendApdu_answer
    (modem : Modem K)
    (d : Device K)
    (l : List Event)
    (apdu rest : Bytes)
    (a : CsimAnswer)
    (fuel : Nat)
    (hShort : apdu.length ≤ 256)
    (hFree : d.locked = false)
    (hIdle : Passes AtEvent.isOther d.slots.text [])
    (hAnswer :
      (modem.hears (csimLine apdu) d.env).1.text =
        a.text ++ rest)
    (hFuel :
      d.slots.length +
          (modem.hears (csimLine apdu) d.env).1.length < fuel) :
    ∃ ss l',
      (modemSendApdu modem fuel apdu).run ⟨d, l⟩ =
          (some true,
            ⟨{ locked := false
               slots := ss
               memory := d.memory.store 0 a.response
               length := a.response.length % 2 ^ 16
               env := (modem.hears (csimLine apdu) d.env).2 },
              l'⟩) ∧
        ss.text = rest ∧
          sentBytes l' = sentBytes l ++ csimLine apdu :=
  modemSendApdu_run l hShort hFree hIdle hAnswer hFuel

/- No lines at all. -/
theorem passes_nil : Passes AtEvent.isOther [] [] :=
  .refl _

/- A modem that answers every line with 9000. -/
def acceptingModem : Modem Unit where
  hear c _ :=
    if c = 10 then
      ((ascii "+CSIM: 4,\"9000\"\r\nOK\r\n").map some, ())
    else
      ([], ())

/- Its answer. -/
def acceptingAnswer : CsimReply where
  before := []
  quoted := true
  digits := hexText [0x90, 0x00]
  response := [0x90, 0x00]
  after := []
  hBefore := passes_nil
  hDigits := spelledInHex_hexText _
  hSome := by decide
  hAfter := passes_nil

/- A modem that refuses every line. -/
def refusingModem : Modem Unit where
  hear c _ :=
    if c = 10 then ((ascii "+CME ERROR: 13\r\n").map some, ())
    else ([], ())

/- Its answer, up to what tells the event. -/
def refusingAnswer : CsimError where
  before := []
  error := ascii "+CME ERROR:"
  hBefore := passes_nil
  hError := by decide +kernel

/-
  SELECT of the master file over a modem that accepts it and
  over one that refuses it.
-/
theorem modemSendApdu_answer_select :
    (∃ ss l',
      (modemSendApdu acceptingModem 100
          [0x00, 0xA4, 0x00, 0x04]).run
          ⟨⟨false, [none, some 13, some 10], fun _ => 0, 7, ()⟩,
            []⟩ =
          (some true,
            ⟨{ locked := false
               slots := ss
               memory :=
                 Buffer.store (fun _ => 0) 0 [0x90, 0x00]
               length := 2
               env := () },
              l'⟩) ∧
        ss.text = [] ∧
          sentBytes l' = ascii "AT+CSIM=8,\"00A40004\"\r\n") ∧
      ∃ ss l',
        (modemSendApdu refusingModem 100
            [0x00, 0xA4, 0x00, 0x04]).run
            ⟨⟨false, [], fun _ => 0, 7, ()⟩, []⟩ =
            (some true,
              ⟨{ locked := false
                 slots := ss
                 memory := Buffer.store (fun _ => 0) 0 []
                 length := 0
                 env := () },
                l'⟩) ∧
          ss.text = ascii " 13\r\n" ∧
            sentBytes l' =
              ascii "AT+CSIM=8,\"00A40004\"\r\n" :=
  ⟨modemSendApdu_answer acceptingModem
      ⟨false, [none, some 13, some 10], fun _ => 0, 7, ()⟩ []
      [0x00, 0xA4, 0x00, 0x04] [] (.reply acceptingAnswer) 100
      (by decide) rfl
      (.step (e := .timeout) rfl rfl
        (.step (e := .timeout) rfl rfl (.refl _)))
      (by decide +kernel) (by decide +kernel),
    modemSendApdu_answer refusingModem
      ⟨false, [], fun _ => 0, 7, ()⟩ []
      [0x00, 0xA4, 0x00, 0x04] (ascii " 13\r\n")
      (.error refusingAnswer) 100 (by decide) rfl (.refl _)
      (by decide +kernel) (by decide +kernel)⟩

end At

end TrustOnboard
