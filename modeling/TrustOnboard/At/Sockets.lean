import TrustOnboard.At.Csim

/-
  The socket of the modem of the connect shield.

  A dialogue is a whole transfer as the modem goes through
  it: each round asks for the state of the service and for a
  transfer of what is to go, and the modem grants some of it,
  none at all for the time being, or refuses.  Whatever the
  pieces, and however the bytes on the line are spaced, the
  bytes of the stream are put into the array of the caller,
  or given to the modem, in their order and once each.

  Key definitions include:
    * `Way`
    * `StateReply`
    * `Grant`
    * `Round`
    * `Dialogue`

  Key results include:
    * `transferRound_waits`
    * `transferLoop_waits`
    * `modemReadSocket_delivers`
    * `modemWriteSocket_delivers`
-/

------------------------------------------------------------
-- Numbers In A Line
------------------------------------------------------------

namespace TrustOnboard

namespace At

variable {K : Type}

/- The rounds that read the digits of a number. -/
theorem digitLoop_facing
    {d : Device K}
    {l : List Event}
    {modulus n inner fuel acc : Nat}
    {c₀ c : UInt8}
    {digits t₀ t : Bytes}
    (hStream : c₀ :: t₀ = digits ++ c :: t)
    (hDigits : ∀ b ∈ digits, IsDigit b)
    (hEnd : ¬ IsDigit c)
    (hInner : n < inner)
    (hFuel : digits.length < fuel) :
    Triple (Contract.total _ _) (Facing d l n t₀)
      (Prog.loop fuel (digitRound inner modulus) (acc, c₀))
      (fun r w =>
        r = (digits.foldl (addDecimal modulus) acc, c) ∧
          Facing d l n t w) := by
  induction digits generalizing acc c₀ t₀ fuel with
  | nil =>
      cases hStream
      cases fuel with
      | zero => exact absurd hFuel (Nat.not_lt_zero _)
      | succ fuel =>
          rw [Prog.loop_succ, digitRound, if_neg hEnd]
          exact Triple.ret (fun w hFacing => ⟨rfl, hFacing⟩)
  | cons b digits ih =>
      rw [List.cons_append, List.cons.injEq] at hStream
      rcases hStream with ⟨rfl, rfl⟩
      cases fuel with
      | zero => exact absurd hFuel (Nat.not_lt_zero _)
      | succ fuel =>
          rw [List.length_cons] at hFuel
          obtain ⟨c₁, t₁, hNext⟩ :
              ∃ c₁ t₁, digits ++ c :: t = c₁ :: t₁ :=
            List.exists_cons_of_ne_nil (by simp)
          have hDigit : IsDigit c₀ :=
            hDigits c₀ List.mem_cons_self
          rw [Prog.loop_succ, digitRound, if_pos hDigit,
            Prog.bind_assoc, hNext]
          refine (atReadC_facing hInner).bind ?_
          intro c'
          apply Triple.of_fact
          rintro rfl
          simp only [Prog.pure_eq, Prog.ret_bind]
          exact
            ih hNext.symm
              (fun b hb => hDigits b (List.mem_cons_of_mem _ hb))
              (by omega)

/- The digits of a line and the byte behind them. -/
theorem readNumber_facing
    {d : Device K}
    {l : List Event}
    {modulus n fuel acc : Nat}
    {c : UInt8}
    {digits t : Bytes}
    (hDigits : ∀ b ∈ digits, IsDigit b)
    (hEnd : ¬ IsDigit c)
    (hFuel : n < fuel) :
    Triple (Contract.total _ _)
      (Facing d l n (digits ++ c :: t))
      (readNumber fuel modulus acc)
      (fun r w =>
        r = (digits.foldl (addDecimal modulus) acc, c) ∧
          Facing d l n t w) := by
  apply facing_length
  intro hLength
  obtain ⟨c₀, t₀, hNext⟩ :
      ∃ c₀ t₀, digits ++ c :: t = c₀ :: t₀ :=
    List.exists_cons_of_ne_nil (by simp)
  have hFew : digits.length < fuel := by
    rw [List.length_append] at hLength
    omega
  rw [readNumber, hNext]
  refine (atReadC_facing hFuel).bind ?_
  intro c'
  apply Triple.of_fact
  rintro rfl
  exact digitLoop_facing hNext.symm hDigits hEnd hFuel hFew

/-
  What may stand behind a number up to the end of its line.
-/
structure LineEnd where
  info : Bytes
  hDigit : ∀ c ∈ info.head?, ¬ IsDigit c
  hLine : ∀ c ∈ info, c ≠ 10

/- The bytes up to the end of the line and the end. -/
def LineEnd.text (e : LineEnd) : Bytes :=
  e.info ++ [10]

/- The digits of a number, and the rest of their line. -/
theorem readNumberLine_facing
    {d : Device K}
    {l : List Event}
    {modulus n fuel acc : Nat}
    {digits t : Bytes}
    (e : LineEnd)
    (hDigits : ∀ b ∈ digits, IsDigit b)
    (hFuel : n < fuel) :
    Triple (Contract.total _ _)
      (Facing d l n (digits ++ (e.text ++ t)))
      (readNumberLine fuel modulus acc)
      (fun v w =>
        v = digits.foldl (addDecimal modulus) acc ∧
          Facing d l n t w) := by
  obtain ⟨c, cs, hInfo⟩ :
      ∃ c cs, e.text = c :: cs :=
    List.exists_cons_of_ne_nil (by simp [LineEnd.text])
  have hEnd : ¬ IsDigit c := by
    unfold LineEnd.text at hInfo
    cases hHead : e.info with
    | nil =>
        rw [hHead] at hInfo
        cases hInfo
        decide
    | cons b bs =>
        rw [hHead] at hInfo
        cases hInfo
        apply e.hDigit
        rw [hHead]
        rfl
  rw [hInfo, List.cons_append]
  refine (readNumber_facing hDigits hEnd hFuel).bind ?_
  intro r
  apply Triple.of_fact
  rintro rfl
  have hStream : c :: (cs ++ t) = e.info ++ 10 :: t := by
    rw [← List.cons_append, ← hInfo, LineEnd.text,
      List.append_assoc]
    rfl
  refine (skipUntil_facing e.info hStream ?_ ?_ hFuel).bind ?_
  · intro b hb
    simpa using e.hLine b hb
  · rfl
  intro c'
  apply Triple.of_fact
  intro _
  exact Triple.ret (fun w hFacing => ⟨rfl, hFacing⟩)

end At

end TrustOnboard

------------------------------------------------------------
-- Dialogues
------------------------------------------------------------

namespace TrustOnboard

namespace At

variable {K : Type}

/- The ways a transfer may go, to the modem from an array. -/
inductive Way where
  | reading
  | writing (data : Buffer)

namespace Way

/- The name of the command. -/
def name : Way → Bytes
  | reading => ascii "SISR"
  | writing _ => ascii "SISW"

/- The event of its answer. -/
def header : Way → AtEvent
  | reading => .sisr1
  | writing _ => .sisw1

/- What the answer starts with. -/
def head : Way → Bytes
  | reading => ascii "^SISR: 1,"
  | writing _ => ascii "^SISW: 1,"

/- What is done with the bytes that are granted. -/
def move
    (modem : Modem K)
    (fuel : Nat) : Way → Nat → Nat → Code K Unit
  | reading => fun i n => do
      let bs ← atRead fuel n
      store i bs
  | writing data => fun i n => atWrite modem (data.load i n)

/- What the modem sends of a piece. -/
def incoming : Way → Bytes → Bytes
  | reading, piece => piece
  | writing _, _ => []

/- What is sent to it. -/
def outgoing : Way → Bytes → Bytes
  | reading, _ => []
  | writing _, piece => piece

/- A piece written is what the array has there. -/
def Fits : Way → Nat → Bytes → Prop
  | reading, _, _ => True
  | writing data, i, piece => piece = data.load i piece.length

/- The device that has got a piece. -/
def put : Way → Device K → Nat → Bytes → Device K
  | reading, d, i, piece => d.put i piece
  | writing _, d, _, _ => d

/- The command for `n` bytes. -/
def askLine (way : Way) (n : Nat) : Bytes :=
  ascii "AT^" ++ way.name ++ ascii "=" ++
    signedDecimal 1 ++ ascii "," ++ decimal n ++ ascii "\r\n"

/- The events a transfer does nothing at. -/
def isNoise (way : Way) (e : AtEvent) : Bool :=
  ! e.isError && ! e.isResponse && e != .sisi1 &&
    e != way.header

end Way

/- The query for the state of the service. -/
def sisiLine : Bytes :=
  ascii "AT^SISI?\r\n"

/- A line with digits of the state of the service. -/
structure StateLine (way : Way) where
  before : Bytes
  digits : Bytes
  lineEnd : LineEnd
  hBefore : Passes way.isNoise before []
  hDigits : ∀ b ∈ digits, IsDigit b

def StateLine.text {way : Way} (line : StateLine way) : Bytes :=
  line.before ++
    (ascii "^SISI: 1," ++ (line.digits ++ line.lineEnd.text))

/-
  What the modem tells of the state of the service: any lines
  about it, or none, and the end of the command, which may
  also be an error.
-/
structure StateReply (way : Way) where
  lines : List (StateLine way)
  after : Bytes
  fin : Bytes
  event : AtEvent
  hAfter : Passes way.isNoise after []
  hEvent : firstEvent fin = some (event, [])
  hResponse : event.isResponse = true

def StateReply.text {way : Way} (r : StateReply way) : Bytes :=
  r.lines.flatMap StateLine.text ++ (r.after ++ r.fin)

/- The number that all its digits make in a `uint8_t`. -/
def StateReply.state {way : Way} (r : StateReply way) : Nat :=
  (r.lines.flatMap StateLine.digits).foldl
    (addDecimal (2 ^ 8)) 0

/- The service is down in these states. -/
def StateReply.IsDown {way : Way} (r : StateReply way) : Prop :=
  r.state = 5 ∨ r.state = 6

instance {way : Way} (r : StateReply way) :
    Decidable r.IsDown :=
  inferInstanceAs (Decidable (_ ∨ _))

/- A number of bytes the modem grants. -/
structure Grant (way : Way) where
  before : Bytes
  digits : Bytes
  lineEnd : LineEnd
  hBefore : Passes way.isNoise before []
  hDigits : ∀ b ∈ digits, IsDigit b

def Grant.text {way : Way} (g : Grant way) : Bytes :=
  g.before ++ (way.head ++ (g.digits ++ g.lineEnd.text))

/- What its digits make in a `uint16_t`. -/
def Grant.granted {way : Way} (g : Grant way) : Nat :=
  g.digits.foldl (addDecimal (2 ^ 16)) 0

/- An answer without a grant. -/
structure Refusal (way : Way) where
  before : Bytes
  error : Bytes
  hBefore : Passes way.isNoise before []
  hError : firstEvent error = some (.commandFailure, [])

def Refusal.text {way : Way} (e : Refusal way) : Bytes :=
  e.before ++ e.error

/-
  The modem in a state answers to some bytes with a text, in
  a number of looks, and is in another state then.
-/
structure Modem.Says
    (modem : Modem K)
    (k : K)
    (heard said : Bytes)
    (looks : Nat)
    (k' : K) : Prop where
  text : (modem.hears heard k).1.text = said
  length : (modem.hears heard k).1.length = looks
  env : (modem.hears heard k).2 = k'

/-
  A round at a place of the array: the bytes that move, if it
  goes well, what is said to the modem, and the looks at its
  answers.
-/
inductive Round
    (modem : Modem K)
    (way : Way)
    (len i : Nat) :
    K → Bytes → Bool → Bytes → Nat → K → Prop where
  | down
      {k k' : K}
      {rest : Bytes}
      {m : Nat}
      (r : StateReply way)
      (hSays : modem.Says k sisiLine (r.text ++ rest) m k')
      (hRest : Passes way.isNoise rest [])
      (hDown : r.IsDown) :
      Round modem way len i k [] false sisiLine m k'
  | refused
      {k k₁ k' : K}
      {rest rest' : Bytes}
      {m m' : Nat}
      (r : StateReply way)
      (e : Refusal way)
      (hSays : modem.Says k sisiLine (r.text ++ rest) m k₁)
      (hRest : Passes way.isNoise rest [])
      (hUp : ¬ r.IsDown)
      (hSays' :
        modem.Says k₁
          (way.askLine (min (len - i) modemMaxPacketSize))
          (e.text ++ rest') m' k')
      (hRest' : Passes way.isNoise rest' []) :
      Round modem way len i k [] false
        (sisiLine ++
          way.askLine (min (len - i) modemMaxPacketSize))
        (m + m') k'
  | moved
      {k k₁ k₂ k' : K}
      {piece rest t u fin rest' : Bytes}
      {m m' m'' : Nat}
      {e : AtEvent}
      (r : StateReply way)
      (g : Grant way)
      (hSays : modem.Says k sisiLine (r.text ++ rest) m k₁)
      (hRest : Passes way.isNoise rest [])
      (hUp : ¬ r.IsDown)
      (hSays' :
        modem.Says k₁
          (way.askLine (min (len - i) modemMaxPacketSize))
          (g.text ++ (way.incoming piece ++ t)) m' k₂)
      (hGranted : g.granted = piece.length)
      (hMost : piece.length ≤ min (len - i) modemMaxPacketSize)
      (hFits : way.Fits i piece)
      (hMoved : modem.Says k₂ (way.outgoing piece) u m'' k')
      (hEnd : Passes way.isNoise (t ++ u) (fin ++ rest'))
      (hResponse : e.isResponse = true)
      (hEvent : firstEvent fin = some (e, []))
      (hRest' : Passes way.isNoise rest' []) :
      Round modem way len i k piece (e != .commandFailure)
        ((sisiLine ++
          way.askLine (min (len - i) modemMaxPacketSize)) ++
            way.outgoing piece)
        ((m + m') + m'') k'

/-
  The rounds of a transfer from a place of the array on: if
  it goes well, the pieces that move, what is said to the
  modem, and the looks at its answers.
-/
inductive Dialogue
    (modem : Modem K)
    (way : Way)
    (len : Nat) :
    Nat → K → Bool → List Bytes → Bytes → Nat → K → Prop where
  | done
      {i : Nat}
      {k : K}
      (hAll : len ≤ i) :
      Dialogue modem way len i k true [] [] 0 k
  | failed
      {i m : Nat}
      {k k' : K}
      {piece said : Bytes}
      (hMore : i < len)
      (hRound : Round modem way len i k piece false said m k') :
      Dialogue modem way len i k false [piece] said m k'
  | moved
      {i m m' : Nat}
      {k k₁ k' : K}
      {ok : Bool}
      {piece said said' : Bytes}
      {pieces : List Bytes}
      (hMore : i < len)
      (hRound : Round modem way len i k piece true said m k₁)
      (hRest :
        Dialogue modem way len (i + piece.length) k₁ ok pieces
          said' m' k') :
      Dialogue modem way len i k ok (piece :: pieces)
        (said ++ said') (m + m') k'

end At

end TrustOnboard

------------------------------------------------------------
-- Questions
------------------------------------------------------------

namespace TrustOnboard

namespace At

variable {K : Type}

theorem Way.firstEvent_head
    (way : Way) :
    firstEvent way.head = some (way.header, []) := by
  have hReading :
      firstEvent (ascii "^SISR: 1,") = some (.sisr1, []) := by
    decide +kernel
  have hWriting :
      firstEvent (ascii "^SISW: 1,") = some (.sisw1, []) := by
    decide +kernel
  cases way with
  | reading => exact hReading
  | writing _ => exact hWriting

theorem firstEvent_sisi :
    firstEvent (ascii "^SISI: 1,") = some (.sisi1, []) := by
  decide +kernel

namespace Way

theorem isResponse_of_isNoise
    (way : Way)
    (e : AtEvent)
    (hNoise : way.isNoise e = true) :
    e.isResponse = false := by
  cases e <;> first | rfl | cases hNoise

theorem header_isResponse
    (way : Way) :
    way.header.isResponse = false := by
  cases way <;> rfl

theorem isNoise_timeout
    (way : Way) :
    way.isNoise .timeout = true := by
  cases way <;> rfl

end Way

/-
  A device that waits: what is left on its line is of no
  concern.
-/
def Waits
    (way : Way)
    (d : Device K)
    (sent : Bytes)
    (n : Nat)
    (w : Run K) : Prop :=
  ∃ t, Passes way.isNoise t [] ∧ Silent d sent n t w

/- A device that waits takes the lock and speaks. -/
theorem command_waits
    {way : Way}
    {modem : Modem K}
    {d : Device K}
    {sent said line : Bytes}
    {n m fuel : Nat}
    {k' : K}
    (hFree : d.locked = false)
    (hSays : modem.Says d.env line said m k')
    (hFuel : n < fuel) :
    Triple (Contract.total _ _) (Waits way d sent n)
      (modemSendAtCommandNoWaitResponse modem fuel line)
      (fun _ w =>
        ∃ t, Passes way.isNoise t [] ∧
          Silent { d with locked := true, env := k' }
            (sent ++ line) (n + m) (t ++ said) w) := by
  apply Triple.exists_pre
  intro t
  apply Triple.of_fact
  intro hPass
  apply Triple.exists_pre
  intro l
  apply Triple.of_fact
  intro hSent
  unfold modemSendAtCommandNoWaitResponse
  refine
    (atLock_facing way.isResponse_of_isNoise hFree hPass
      hFuel).bind ?_
  intro _
  apply Triple.exists_pre
  intro t'
  apply Triple.of_fact
  intro hPass'
  refine
    ((atPrint_silent modem { d with locked := true } sent n t'
      line).pre (fun w hFacing => ⟨l, hSent, hFacing⟩)).post ?_
  intro _ w hSilent
  refine ⟨t', hPass', ?_⟩
  simpa [Device.after, Device.answer, hSays.text,
    hSays.length, hSays.env] using hSilent

/- A loop up to an event, for a device of which all is known. -/
theorem loop_silent
    {σ α : Type}
    {way : Way}
    {inner : Nat}
    {body : σ → Code K (σ ⊕ α)}
    {handle : σ → AtEvent → Code K (σ ⊕ α)}
    {P : Nat → σ → Run K → Prop}
    {Q : α → Run K → Prop}
    {d : Device K}
    {sent : Bytes}
    {s : σ}
    {t t₁ t₂ : Bytes}
    {e : AtEvent}
    {n fuel : Nat}
    (hBody : ∀ s, body s = atProcessRecv inner >>= handle s)
    (hSkip :
      ∀ s e, way.isNoise e = true → handle s e = pure (.inl s))
    (hPass : Passes way.isNoise t t₁)
    (hEvent : firstEvent t₁ = some (e, t₂))
    (hInner : n < inner)
    (hFuel : n ≤ fuel)
    (hHandle :
      ∀ m, m < n →
        Triple (Contract.total _ _)
          (Silent (d.heard e) sent m t₂) (handle s e)
          (fun r w =>
            match r with
            | .inl s' => P m s' w
            | .inr a => Q a w))
    (hRest :
      ∀ m fuel' s',
        m < n → m ≤ fuel' →
          Triple (Contract.total _ _) (P m s')
            (Prog.loop fuel' body s') Q) :
    Triple (Contract.total _ _) (Silent d sent n t)
      (Prog.loop fuel body s) Q := by
  apply Triple.exists_pre
  intro l
  apply Triple.of_fact
  intro hSent
  refine
    loop_upTo hBody hSkip way.isNoise_timeout
      way.isResponse_of_isNoise hPass hEvent hInner hFuel ?_
      hRest
  intro m hLess
  exact
    (hHandle m hLess).pre
      (fun w hFacing => ⟨l, hSent, hFacing⟩)

/- Up to the end of a command. -/
theorem atWaitForResponse_silent
    {way : Way}
    {d : Device K}
    {sent t fin rest : Bytes}
    {e : AtEvent}
    {n fuel : Nat}
    (hPass : Passes way.isNoise t (fin ++ rest))
    (hEvent : firstEvent fin = some (e, []))
    (hResponse : e.isResponse = true)
    (hFuel : n < fuel) :
    Triple (Contract.total _ _) (Silent d sent n t)
      (atWaitForResponse fuel)
      (fun e' w =>
        e' = e ∧
          Silent { d with locked := false } sent n rest w) := by
  refine
    loop_silent (P := fun _ _ _ => False) (fun _ => rfl) ?_
      hPass (firstEvent_literal hEvent rest) hFuel
      (Nat.le_of_lt hFuel) ?_ ?_
  · intro s e hNoise
    rw [stopAt, way.isResponse_of_isNoise e hNoise,
      if_neg Bool.false_ne_true]
  · intro m hLess
    rw [stopAt, if_pos hResponse]
    apply Triple.pure
    rintro w ⟨l, hSent, hFacing⟩
    refine ⟨rfl, l, hSent, ?_⟩
    rw [Device.heard, if_pos hResponse] at hFacing
    exact hFacing.mono (Nat.le_of_lt hLess)
  · intro _ _ _ _ _
    exact Triple.false_pre (fun _ hNo => hNo)

theorem sisiEvent_noise
    {way : Way}
    {fuel : Nat}
    (state : Nat)
    (e : AtEvent)
    (hNoise : way.isNoise e = true) :
    sisiEvent (K := K) fuel state e = pure (.inl state) := by
  have hNot : (e == .sisi1) = false := by
    cases e <;> first | rfl | cases hNoise
  simp [sisiEvent, hNot, way.isResponse_of_isNoise e hNoise]

theorem sisiEvent_response
    {fuel : Nat}
    {e : AtEvent}
    (hResponse : e.isResponse = true)
    (state : Nat) :
    sisiEvent (K := K) fuel state e = pure (.inr state) := by
  have hNot : (e == .sisi1) = false := by
    cases e <;> first | rfl | cases hResponse
  simp [sisiEvent, hNot, hResponse]

/- A line about the state puts its digits behind the others. -/
theorem sisiEvent_silent
    {way : Way}
    {d : Device K}
    {sent t : Bytes}
    {n fuel : Nat}
    (line : StateLine way)
    (state : Nat)
    (hFuel : n < fuel) :
    Triple (Contract.total _ _)
      (Silent d sent n
        (line.digits ++ (line.lineEnd.text ++ t)))
      (sisiEvent fuel state .sisi1)
      (fun r w =>
        r =
            .inl
              (line.digits.foldl (addDecimal (2 ^ 8)) state) ∧
          Silent d sent n t w) := by
  rw [sisiEvent, if_pos (by rfl)]
  refine
    (Silent.of_facing (fun l =>
      readNumberLine_facing line.lineEnd line.hDigits
        hFuel)).bind ?_
  intro state'
  apply Triple.of_fact
  rintro rfl
  exact Triple.ret (fun w hSilent => ⟨rfl, hSilent⟩)

/-
  The loop over the lines about the state, behind what was
  left on the line.  The induction is on the lines.
-/
theorem sisiLoop_silent
    {way : Way}
    {d : Device K}
    {sent after fin rest t : Bytes}
    {e : AtEvent}
    {n inner fuel state : Nat}
    (lines : List (StateLine way))
    (hAfter : Passes way.isNoise after [])
    (hEvent : firstEvent fin = some (e, []))
    (hResponse : e.isResponse = true)
    (hPass : Passes way.isNoise t [])
    (hInner : n < inner)
    (hFuel : n ≤ fuel) :
    Triple (Contract.total _ _)
      (Silent d sent n
        (t ++ (lines.flatMap StateLine.text ++
          (after ++ (fin ++ rest)))))
      (Prog.loop fuel
        (fun state =>
          atProcessRecv inner >>= sisiEvent inner state)
        state)
      (fun state' w =>
        state' =
            (lines.flatMap StateLine.digits).foldl
              (addDecimal (2 ^ 8)) state ∧
          Silent { d with locked := false } sent n rest w) := by
  induction lines generalizing t n fuel state with
  | nil =>
      have hFront :
          Passes way.isNoise
            (t ++ (after ++ (fin ++ rest))) (fin ++ rest) := by
        have hAll := (hPass.append after).trans hAfter
        simpa using hAll.append (fin ++ rest)
      refine
        loop_silent (P := fun _ _ _ => False) (fun _ => rfl)
          sisiEvent_noise hFront
          (firstEvent_literal hEvent rest) hInner hFuel ?_ ?_
      · intro m hLess
        rw [sisiEvent_response hResponse]
        apply Triple.ret
        rintro w ⟨l, hSent, hFacing⟩
        rw [Device.heard, if_pos hResponse] at hFacing
        exact
          ⟨rfl, l, hSent, hFacing.mono (Nat.le_of_lt hLess)⟩
      · intro _ _ _ _ _
        exact Triple.false_pre (fun _ hNo => hNo)
  | cons line lines ih =>
      have hFront :
          Passes way.isNoise
            (t ++ (List.flatMap StateLine.text
              (line :: lines) ++ (after ++ (fin ++ rest))))
            (ascii "^SISI: 1," ++ (line.digits ++
              (line.lineEnd.text ++
                (lines.flatMap StateLine.text ++
                  (after ++ (fin ++ rest)))))) := by
        have hAll := (hPass.append line.before).trans
          line.hBefore
        simpa [StateLine.text] using hAll.append _
      refine
        loop_silent
          (P := fun m state' w =>
            state' =
                line.digits.foldl (addDecimal (2 ^ 8)) state ∧
              Silent d sent m
                ([] ++ (lines.flatMap StateLine.text ++
                  (after ++ (fin ++ rest)))) w)
          (fun _ => rfl) sisiEvent_noise hFront
          (firstEvent_literal firstEvent_sisi _) hInner hFuel
          ?_ ?_
      · intro m hLess
        rw [Device.heard_of_not rfl]
        refine
          (sisiEvent_silent line state (by omega)).post ?_
        rintro r w ⟨rfl, hSilent⟩
        exact ⟨rfl, hSilent⟩
      · intro m fuel' state' hLess hLe
        apply Triple.of_fact
        rintro rfl
        refine
          (ih (.refl []) (by omega) hLe).post ?_
        rintro state'' w ⟨rfl, l, hSent, hFacing⟩
        rw [List.flatMap_cons, List.foldl_append]
        exact
          ⟨rfl, l, hSent, hFacing.mono (Nat.le_of_lt hLess)⟩

/- The state of the service is asked for. -/
theorem modemSendQueryAtSisi_waits
    {way : Way}
    {modem : Modem K}
    {d : Device K}
    {sent rest : Bytes}
    {n m fuel : Nat}
    {k' : K}
    (r : StateReply way)
    (hFree : d.locked = false)
    (hSays : modem.Says d.env sisiLine (r.text ++ rest) m k')
    (hRest : Passes way.isNoise rest [])
    (hFuel : n + m < fuel) :
    Triple (Contract.total _ _) (Waits way d sent n)
      (modemSendQueryAtSisi modem fuel)
      (fun state w =>
        state = r.state ∧
          Waits way { d with env := k' } (sent ++ sisiLine)
            (n + m) w) := by
  unfold modemSendQueryAtSisi
  refine (command_waits hFree hSays (by omega)).bind ?_
  intro _
  apply Triple.exists_pre
  intro t
  apply Triple.of_fact
  intro hPass
  have hText :
      t ++ (r.text ++ rest) =
        t ++ (r.lines.flatMap StateLine.text ++
          (r.after ++ (r.fin ++ rest))) := by
    unfold StateReply.text
    simp only [List.append_assoc]
  rw [hText]
  refine
    (sisiLoop_silent r.lines r.hAfter r.hEvent r.hResponse
      hPass hFuel (Nat.le_of_lt hFuel)).post ?_
  rintro state w ⟨rfl, hSilent⟩
  have hSame :
      ({ { d with locked := true, env := k' } with
        locked := false } : Device K) = { d with env := k' } := by
    rw [← hFree]
  rw [hSame] at hSilent
  exact ⟨rfl, rest, hRest, hSilent⟩

end At

end TrustOnboard

------------------------------------------------------------
-- Rounds
------------------------------------------------------------

namespace TrustOnboard

namespace At

variable {K : Type}

/- The events behind a question for bytes that go unnoticed. -/
theorem stopAt_noise
    {way : Way}
    (s : Unit)
    (e : AtEvent)
    (hNoise : way.isNoise e = true) :
    stopAt (K := K)
        (fun e =>
          e.isError || ! ((1 : Int) == 1 && e != way.header))
        e = pure (.inl s) := by
  have hError : e.isError = false := by
    cases e <;> first | rfl | cases hNoise
  have hOther : (e != way.header) = true := by
    unfold Way.isNoise at hNoise
    exact (Bool.and_eq_true_iff.mp hNoise).2
  simp [stopAt, hError, hOther]

/- A number of bytes is granted. -/
theorem askTransfer_granted
    {way : Way}
    {modem : Modem K}
    {d : Device K}
    {sent rest : Bytes}
    {n m fuel asked : Nat}
    {k' : K}
    (g : Grant way)
    (hFree : d.locked = false)
    (hSays :
      modem.Says d.env (way.askLine asked) (g.text ++ rest) m k')
    (hFuel : n + m < fuel) :
    Triple (Contract.total _ _) (Waits way d sent n)
      (askTransfer modem fuel way.name way.header 1 asked)
      (fun granted w =>
        granted = some g.granted ∧
          Silent { d with locked := true, env := k' }
            (sent ++ way.askLine asked) (n + m) rest w) := by
  unfold askTransfer
  refine (command_waits hFree hSays (by omega)).bind ?_
  intro _
  apply Triple.exists_pre
  intro t
  apply Triple.of_fact
  intro hPass
  have hFront :
      Passes way.isNoise (t ++ (g.text ++ rest))
        (way.head ++ (g.digits ++
          (g.lineEnd.text ++ rest))) := by
    have hLines := (hPass.append g.before).trans g.hBefore
    simpa [Grant.text] using hLines.append _
  refine
    Triple.bind
      (M := fun e w =>
        e = way.header ∧
          Silent { d with locked := true, env := k' }
            (sent ++ way.askLine asked) (n + m)
            (g.digits ++ (g.lineEnd.text ++ rest)) w)
      ?_ ?_
  · refine
      loop_silent (P := fun _ _ _ => False) (fun _ => rfl)
        stopAt_noise hFront
        (firstEvent_literal way.firstEvent_head _)
        hFuel (Nat.le_of_lt hFuel) ?_ ?_
    · intro m' hLess
      rw [Device.heard_of_not way.header_isResponse, stopAt,
        if_pos (by simp)]
      apply Triple.pure
      rintro w ⟨l, hSent, hFacing⟩
      exact
        ⟨rfl, l, hSent, hFacing.mono (Nat.le_of_lt hLess)⟩
    · intro _ _ _ _ _
      exact Triple.false_pre (fun _ hNo => hNo)
  intro e
  apply Triple.of_fact
  rintro rfl
  have hFine : way.header.isError = false := by
    cases way <;> rfl
  rw [hFine, if_neg Bool.false_ne_true]
  refine
    (Silent.of_facing (fun l =>
      readNumberLine_facing g.lineEnd g.hDigits hFuel)).bind ?_
  intro granted
  apply Triple.of_fact
  rintro rfl
  exact Triple.ret (fun w hSilent => ⟨rfl, hSilent⟩)

/- None is granted. -/
theorem askTransfer_refused
    {way : Way}
    {modem : Modem K}
    {d : Device K}
    {sent rest : Bytes}
    {n m fuel asked : Nat}
    {k' : K}
    (e : Refusal way)
    (hFree : d.locked = false)
    (hSays :
      modem.Says d.env (way.askLine asked) (e.text ++ rest) m k')
    (hRest : Passes way.isNoise rest [])
    (hFuel : n + m < fuel) :
    Triple (Contract.total _ _) (Waits way d sent n)
      (askTransfer modem fuel way.name way.header 1 asked)
      (fun granted w =>
        granted = none ∧
          Waits way { d with env := k' }
            (sent ++ way.askLine asked) (n + m) w) := by
  unfold askTransfer
  refine (command_waits hFree hSays (by omega)).bind ?_
  intro _
  apply Triple.exists_pre
  intro t
  apply Triple.of_fact
  intro hPass
  have hFront :
      Passes way.isNoise (t ++ (e.text ++ rest))
        (e.error ++ rest) := by
    have hLines := (hPass.append e.before).trans e.hBefore
    simpa [Refusal.text] using hLines.append _
  refine
    Triple.bind
      (M := fun e' w =>
        e' = .commandFailure ∧
          Waits way { d with env := k' }
            (sent ++ way.askLine asked) (n + m) w)
      ?_ ?_
  · refine
      loop_silent (P := fun _ _ _ => False) (fun _ => rfl)
        stopAt_noise hFront (firstEvent_literal e.hError rest)
        hFuel (Nat.le_of_lt hFuel) ?_ ?_
    · intro m' hLess
      rw [stopAt, if_pos (by rfl)]
      apply Triple.pure
      rintro w ⟨l, hSent, hFacing⟩
      refine ⟨rfl, rest, hRest, l, hSent, ?_⟩
      have hHeard :
          ({ d with locked := true, env := k' } :
            Device K).heard .commandFailure =
              { d with env := k' } := by
        have hSame : d = { d with locked := false } := by
          rw [← hFree]
        rw [hSame]
        rfl
      rw [hHeard] at hFacing
      exact hFacing.mono (Nat.le_of_lt hLess)
    · intro _ _ _ _ _
      exact Triple.false_pre (fun _ hNo => hNo)
  intro e'
  apply Triple.of_fact
  rintro rfl
  rw [if_pos (by rfl)]
  exact Triple.ret (fun w hWaits => ⟨rfl, hWaits⟩)

/- The bytes that are granted move. -/
theorem move_silent
    {way : Way}
    {modem : Modem K}
    {d : Device K}
    {sent piece t u : Bytes}
    {n m fuel i : Nat}
    {k' : K}
    (hFits : way.Fits i piece)
    (hMoved : modem.Says d.env (way.outgoing piece) u m k')
    (hFuel : n < fuel) :
    Triple (Contract.total _ _)
      (Silent d sent n (way.incoming piece ++ t))
      (way.move modem fuel i piece.length)
      (fun _ =>
        Silent { way.put d i piece with env := k' }
          (sent ++ way.outgoing piece) (n + m) (t ++ u)) := by
  cases way with
  | reading =>
      have hText : [] = u := hMoved.text
      have hLooks : 0 = m := hMoved.length
      have hEnv : d.env = k' := hMoved.env
      subst hText hLooks hEnv
      refine
        (Silent.of_facing (fun l =>
          atRead_facing piece hFuel)).bind ?_
      intro bs
      apply Triple.of_fact
      rintro rfl
      refine (store_silent d sent n t i bs).post ?_
      intro _ w hSilent
      simpa [Way.put, Way.outgoing, Device.put] using hSilent
  | writing data =>
      have hPiece : data.load i piece.length = piece :=
        Eq.symm hFits
      refine
        ((atPrint_silent modem d sent n t
          (data.load i piece.length)).post ?_)
      intro _ w hSilent
      rw [hPiece] at hSilent
      have hText : (d.answer modem piece).text = u := hMoved.text
      have hLooks : (d.answer modem piece).length = m :=
        hMoved.length
      have hEnv : (modem.hears piece d.env).2 = k' := hMoved.env
      simpa [Device.after, hText, hLooks, hEnv, Way.put,
        Way.outgoing] using hSilent

/- A piece without bytes changes nothing. -/
theorem Way.put_nil
    (way : Way)
    (d : Device K)
    (i : Nat) :
    way.put d i [] = d := by
  cases way with
  | reading =>
      exact
        congrArg (fun b => { d with memory := b })
          (Buffer.store_nil _ _)
  | writing _ => rfl

/- No byte moves where none is granted. -/
theorem moveGranted_silent
    {way : Way}
    {modem : Modem K}
    {d : Device K}
    {sent piece t u : Bytes}
    {n m fuel i : Nat}
    {k' : K}
    (hFits : way.Fits i piece)
    (hMoved : modem.Says d.env (way.outgoing piece) u m k')
    (hFuel : n < fuel) :
    Triple (Contract.total _ _)
      (Silent d sent n (way.incoming piece ++ t))
      (moveGranted (way.move modem fuel) i piece.length)
      (fun _ =>
        Silent { way.put d i piece with env := k' }
          (sent ++ way.outgoing piece) (n + m) (t ++ u)) := by
  unfold moveGranted
  by_cases hSome : piece.length ≠ 0
  · rw [if_pos hSome]
    exact move_silent hFits hMoved hFuel
  · rw [if_neg hSome]
    have hNil : piece = [] :=
      List.eq_nil_of_length_eq_zero (not_not.mp hSome)
    subst hNil
    have hOut : way.outgoing [] = [] := by
      cases way <;> rfl
    have hIn : way.incoming [] = [] := by
      cases way <;> rfl
    rw [hOut] at hMoved
    have hText : [] = u := hMoved.text
    have hLooks : 0 = m := hMoved.length
    have hEnv : d.env = k' := hMoved.env
    subst hText hLooks hEnv
    rw [hOut, hIn, way.put_nil]
    apply Triple.pure
    intro w hSilent
    simpa using hSilent

/- What a round comes to. -/
def roundResult
    (i total : Nat)
    (piece : Bytes) : Bool → (Nat × Nat) ⊕ Int
  | true => .inl (i + piece.length, total + piece.length)
  | false => .inr (-1)

/- A round of a transfer does what the dialogue says. -/
theorem transferRound_waits
    {way : Way}
    {modem : Modem K}
    {d : Device K}
    {sent piece said : Bytes}
    {len i total n m fuel : Nat}
    {ok : Bool}
    {k' : K}
    (hRound : Round modem way len i d.env piece ok said m k')
    (hMore : i < len)
    (hLen : len < 2 ^ 16)
    (hFree : d.locked = false)
    (hFuel : n + m < fuel) :
    Triple (Contract.total _ _) (Waits way d sent n)
      (transferRound modem fuel way.name way.header
        (way.move modem fuel) 1 len (i, total))
      (fun r w =>
        r = roundResult i total piece ok ∧
          Waits way { way.put d i piece with env := k' }
            (sent ++ said) (n + m) w) := by
  unfold transferRound
  rw [if_pos hMore]
  cases hRound with
  | down r hSays hRest hDown =>
      refine
        (modemSendQueryAtSisi_waits r hFree hSays hRest
          hFuel).bind ?_
      intro state
      apply Triple.of_fact
      rintro rfl
      rw [if_pos (by simpa [StateReply.IsDown] using hDown),
        way.put_nil]
      exact Triple.pure (fun w hWaits => ⟨rfl, hWaits⟩)
  | @refused k₁ _ _ _ _ _ r e hSays hRest hUp hSays'
      hRest' =>
      refine
        (modemSendQueryAtSisi_waits r hFree hSays hRest
          (by omega)).bind ?_
      intro state
      apply Triple.of_fact
      rintro rfl
      rw [if_neg (by simpa [StateReply.IsDown] using hUp),
        way.put_nil]
      refine
        (askTransfer_refused (d := { d with env := k₁ }) e
          hFree hSays' hRest' (by omega)).bind ?_
      intro granted
      apply Triple.of_fact
      rintro rfl
      apply Triple.pure
      intro w hWaits
      refine ⟨rfl, ?_⟩
      simpa [Nat.add_assoc] using hWaits
  | @moved k₁ k₂ _ _ _ t u fin rest' m₀ m₁ m₂ e r g
      hSays hRest hUp hSays' hGranted hMost hFits hMoved hEnd
      hResponse hEvent hRest' =>
      refine
        (modemSendQueryAtSisi_waits r hFree hSays hRest
          (by omega)).bind ?_
      intro state
      apply Triple.of_fact
      rintro rfl
      rw [if_neg (by simpa [StateReply.IsDown] using hUp)]
      refine
        (askTransfer_granted (d := { d with env := k₁ }) g
          hFree hSays' (by omega)).bind ?_
      intro granted
      apply Triple.of_fact
      rintro rfl
      simp only [hGranted]
      refine
        (moveGranted_silent
          (d := { d with locked := true, env := k₂ }) hFits
          hMoved (by omega : n + m₀ + m₁ < fuel)).bind ?_
      intro _
      refine
        (atWaitForResponse_silent hEnd hEvent hResponse
          (by omega)).bind ?_
      intro e'
      apply Triple.of_fact
      rintro rfl
      have hWaits :
          ∀ w,
            Silent
                { { way.put { d with locked := true, env := k₂ }
                    i piece with env := k' } with
                  locked := false }
                (((sent ++ sisiLine) ++
                  way.askLine
                    (min (len - i) modemMaxPacketSize)) ++
                  way.outgoing piece)
                (n + m₀ + m₁ + m₂) rest' w →
              Waits way { way.put d i piece with env := k' }
                (sent ++ ((sisiLine ++
                  way.askLine
                    (min (len - i) modemMaxPacketSize)) ++
                  way.outgoing piece))
                (n + (m₀ + m₁ + m₂)) w := by
        intro w hSilent
        refine ⟨rest', hRest', ?_⟩
        have hSame :
            ({ { way.put { d with locked := true, env := k₂ }
                i piece with env := k' } with
              locked := false } : Device K) =
              { way.put d i piece with env := k' } := by
          cases way <;> simp [Way.put, Device.put, hFree]
        rw [hSame] at hSilent
        simpa [Nat.add_assoc] using hSilent
      have hPlace :
          (i + piece.length) % 2 ^ 16 = i + piece.length := by
        apply Nat.mod_eq_of_lt
        omega
      cases e' <;> cases hResponse
      · -- The command went well.
        rw [if_neg (by decide), hPlace]
        exact
          Triple.pure (fun w hSilent => ⟨rfl, hWaits w hSilent⟩)
      · rw [if_pos (by rfl)]
        exact
          Triple.pure (fun w hSilent => ⟨rfl, hWaits w hSilent⟩)

end At

end TrustOnboard

------------------------------------------------------------
-- Transfers
------------------------------------------------------------

namespace TrustOnboard

namespace At

variable {K : Type}

/- An answer takes a look at least. -/
theorem Modem.Says.looks_pos
    {modem : Modem K}
    {k k' : K}
    {heard said : Bytes}
    {m : Nat}
    (hSays : modem.Says k heard said m k')
    (hSome : said ≠ []) :
    0 < m := by
  have hLooks := (modem.hears heard k).1.length_text_le
  rw [hSays.text, hSays.length] at hLooks
  have hPos := List.length_pos_of_ne_nil hSome
  omega

theorem StateReply.text_ne_nil
    {way : Way}
    (r : StateReply way)
    (rest : Bytes) :
    r.text ++ rest ≠ [] := by
  have hFin : r.fin ≠ [] := by
    intro hNil
    have hEvent := r.hEvent
    rw [hNil] at hEvent
    cases hEvent
  simp [StateReply.text, hFin]

/- So does a round. -/
theorem Round.looks_pos
    {modem : Modem K}
    {way : Way}
    {len i m : Nat}
    {k k' : K}
    {piece said : Bytes}
    {ok : Bool}
    (hRound : Round modem way len i k piece ok said m k') :
    0 < m := by
  cases hRound with
  | down r hSays _ _ => exact hSays.looks_pos (r.text_ne_nil _)
  | refused r _ hSays _ _ _ _ =>
      have hPos := hSays.looks_pos (r.text_ne_nil _)
      omega
  | moved r _ hSays =>
      have hPos := hSays.looks_pos (r.text_ne_nil _)
      omega

/- No more moves than there is to go. -/
theorem Round.length_le
    {modem : Modem K}
    {way : Way}
    {len i m : Nat}
    {k k' : K}
    {piece said : Bytes}
    {ok : Bool}
    (hRound : Round modem way len i k piece ok said m k') :
    piece.length ≤ len - i := by
  cases hRound with
  | down => exact Nat.zero_le _
  | refused => exact Nat.zero_le _
  | moved _ _ _ _ _ _ _ hMost => omega

/- A piece written is what the array has there. -/
theorem Round.fits
    {modem : Modem K}
    {way : Way}
    {len i m : Nat}
    {k k' : K}
    {piece said : Bytes}
    {ok : Bool}
    (hRound : Round modem way len i k piece ok said m k') :
    way.Fits i piece := by
  cases hRound with
  | down => cases way <;> trivial
  | refused => cases way <;> trivial
  | moved _ _ _ _ _ _ _ _ hFits => exact hFits

/- The pieces of a transfer that goes well are all of it. -/
theorem Dialogue.length_pieces
    {modem : Modem K}
    {way : Way}
    {len i m : Nat}
    {k k' : K}
    {ok : Bool}
    {pieces : List Bytes}
    {said : Bytes}
    (hDialogue :
      Dialogue modem way len i k ok pieces said m k')
    (hPlace : i ≤ len)
    (hOk : ok = true) :
    pieces.flatten.length = len - i := by
  induction hDialogue with
  | done hAll =>
      rw [List.flatten_nil, List.length_nil]
      omega
  | failed _ _ => cases hOk
  | moved hMore hRound hRest ih =>
      have hMost := hRound.length_le
      have hMoreMoves := ih (by omega) hOk
      rw [List.flatten_cons, List.length_append, hMoreMoves]
      omega

/- Together they are what the array has. -/
theorem Dialogue.pieces_load
    {modem : Modem K}
    {data : Buffer}
    {len i m : Nat}
    {k k' : K}
    {ok : Bool}
    {pieces : List Bytes}
    {said : Bytes}
    (hDialogue :
      Dialogue modem (.writing data) len i k ok pieces said m
        k') :
    pieces.flatten = data.load i pieces.flatten.length := by
  induction hDialogue with
  | done hAll => rfl
  | failed _ hRound =>
      rw [List.flatten_cons, List.flatten_nil, List.append_nil]
      exact hRound.fits
  | moved hMore hRound hRest ih =>
      rw [List.flatten_cons, List.length_append,
        Buffer.load_add, ← ih]
      exact congrArg (· ++ _) hRound.fits

/- Pieces put behind each other. -/
theorem Way.put_append
    (way : Way)
    (d : Device K)
    (i : Nat)
    (k : K)
    (xs ys : Bytes) :
    way.put { way.put d i xs with env := k } (i + xs.length)
        ys =
      { way.put d i (xs ++ ys) with env := k } := by
  cases way with
  | reading =>
      simp only [Way.put, Device.put, Buffer.store_append]
  | writing _ => rfl

/- What a transfer returns. -/
def transferResult (n : Nat) (ok : Bool) : Int :=
  if ok then n else -1

/- A transfer does what the dialogue says. -/
theorem transferLoop_waits
    {way : Way}
    {modem : Modem K}
    {d : Device K}
    {sent said : Bytes}
    {pieces : List Bytes}
    {len i n m inner fuel : Nat}
    {ok : Bool}
    {k' : K}
    (total : Nat)
    (hDialogue :
      Dialogue modem way len i d.env ok pieces said m k')
    (hLen : len < 2 ^ 16)
    (hFree : d.locked = false)
    (hInner : n + m < inner)
    (hFuel : m < fuel) :
    Triple (Contract.total _ _) (Waits way d sent n)
      (Prog.loop fuel
        (transferRound modem inner way.name way.header
          (way.move modem inner) 1 len)
        (i, total))
      (fun r w =>
        r = transferResult (total + pieces.flatten.length) ok ∧
          Waits way
            { way.put d i pieces.flatten with env := k' }
            (sent ++ said) (n + m) w) := by
  generalize hEnv : d.env = k at hDialogue
  induction hDialogue generalizing d sent total n fuel with
  | done hAll =>
      subst hEnv
      cases fuel with
      | zero => exact absurd hFuel (Nat.not_lt_zero _)
      | succ fuel =>
          rw [Prog.loop_succ, transferRound,
            if_neg (Nat.not_lt.mpr hAll)]
          apply Triple.ret
          intro w hWaits
          refine ⟨rfl, ?_⟩
          rw [List.flatten_nil, way.put_nil]
          simpa using hWaits
  | @failed i m k k' piece said hMore hRound =>
      subst hEnv
      cases fuel with
      | zero => exact absurd hFuel (Nat.not_lt_zero _)
      | succ fuel =>
          rw [Prog.loop_succ]
          refine
            (transferRound_waits hRound hMore hLen hFree
              hInner).bind ?_
          intro r
          apply Triple.of_fact
          rintro rfl
          apply Triple.ret
          intro w hWaits
          refine ⟨rfl, ?_⟩
          simpa using hWaits
  | @moved i m m' k k₁ k' ok piece said said' pieces hMore
      hRound hRest ih =>
      subst hEnv
      have hPos := hRound.looks_pos
      cases fuel with
      | zero => exact absurd hFuel (Nat.not_lt_zero _)
      | succ fuel =>
          rw [Prog.loop_succ]
          refine
            (transferRound_waits hRound hMore hLen hFree
              (by omega)).bind ?_
          intro r
          apply Triple.of_fact
          rintro rfl
          simp only [roundResult]
          have hFree' : (way.put d i piece).locked = false := by
            cases way <;> exact hFree
          refine
            (ih (d := { way.put d i piece with env := k₁ }) _
              hFree' (by omega) (by omega) rfl).post ?_
          rintro r w ⟨rfl, hWaits⟩
          rw [List.flatten_cons, List.length_append,
            ← Nat.add_assoc]
          refine ⟨rfl, ?_⟩
          rw [Way.put_append, List.append_assoc,
            Nat.add_assoc] at hWaits
          exact hWaits

end At

end TrustOnboard

------------------------------------------------------------
-- Sockets
------------------------------------------------------------

namespace TrustOnboard

namespace At

variable {K : Type}

/- What is said over rounds that all go well. -/
def Way.transcript (way : Way) (len : Nat) :
    Nat → List Bytes → Bytes
  | _, [] => []
  | i, piece :: pieces =>
      sisiLine ++
        (way.askLine (min (len - i) modemMaxPacketSize) ++
          (way.outgoing piece ++
            way.transcript len (i + piece.length) pieces))

theorem Round.said
    {modem : Modem K}
    {way : Way}
    {len i m : Nat}
    {k k' : K}
    {piece said : Bytes}
    {ok : Bool}
    (hRound : Round modem way len i k piece ok said m k')
    (hOk : ok = true) :
    said =
      sisiLine ++
        (way.askLine (min (len - i) modemMaxPacketSize) ++
          way.outgoing piece) := by
  cases hRound with
  | down => cases hOk
  | refused => cases hOk
  | moved => exact List.append_assoc _ _ _

theorem Dialogue.said
    {modem : Modem K}
    {way : Way}
    {len i m : Nat}
    {k k' : K}
    {ok : Bool}
    {pieces : List Bytes}
    {said : Bytes}
    (hDialogue :
      Dialogue modem way len i k ok pieces said m k')
    (hOk : ok = true) :
    said = way.transcript len i pieces := by
  induction hDialogue with
  | done _ => rfl
  | failed _ _ => cases hOk
  | moved hMore hRound hRest ih =>
      rw [hRound.said rfl, ih hOk, Way.transcript]
      simp only [List.append_assoc]

/- The run of a transfer from an unlocked device. -/
theorem transferLoop_run
    {way : Way}
    {modem : Modem K}
    {d : Device K}
    (l : List Event)
    {said : Bytes}
    {pieces : List Bytes}
    {len m fuel : Nat}
    {ok : Bool}
    {k' : K}
    (hLen : len < 2 ^ 16)
    (hFree : d.locked = false)
    (hIdle : Passes way.isNoise d.slots.text [])
    (hDialogue :
      Dialogue modem way len 0 d.env ok pieces said m k')
    (hFuel : d.slots.length + m < fuel) :
    ∃ ss l',
      (transferLoop modem fuel way.name way.header
            (way.move modem fuel) 1 len).run ⟨d, l⟩ =
          (some (transferResult len ok),
            ⟨{ way.put d 0 pieces.flatten with
                slots := ss
                env := k' },
              l'⟩) ∧
        Passes way.isNoise ss.text [] ∧
          sentBytes l' = sentBytes l ++ said := by
  have hStart :
      Waits way d (sentBytes l) d.slots.length ⟨d, l⟩ :=
    ⟨d.slots.text, hIdle, l, rfl, facing_self d l⟩
  have hTransfer :=
    (transferLoop_waits 0 hDialogue hLen hFree hFuel
      (by omega : m < fuel)).returns hStart
  rcases hTransfer with
    ⟨r, w, hRun, rfl, t, hPass, l', hSent, ss, rfl, _, rfl⟩
  refine ⟨ss, l', ?_, hPass, hSent⟩
  have hResult :
      transferResult (0 + pieces.flatten.length) ok =
        transferResult len ok := by
    cases ok with
    | false => rfl
    | true =>
        rw [hDialogue.length_pieces (Nat.zero_le len) rfl,
          Nat.zero_add, Nat.sub_zero]
  rw [hResult] at hRun
  exact hRun

/-
  `modem_read_socket` goes through a dialogue.  It returns
  the length it is called with, and the array then has the
  pieces that came behind each other from its start, all of
  the length; or it returns -1 at the round that fails.
-/
theorem modemReadSocket_delivers
    (modem : Modem K)
    (d : Device K)
    (l : List Event)
    (len : Nat)
    (ok : Bool)
    (pieces : List Bytes)
    (said : Bytes)
    (m : Nat)
    (k' : K)
    (fuel : Nat)
    (hLen : len < 2 ^ 16)
    (hFree : d.locked = false)
    (hIdle : Passes Way.reading.isNoise d.slots.text [])
    (hDialogue :
      Dialogue modem .reading len 0 d.env ok pieces said m k')
    (hFuel : d.slots.length + m < fuel) :
    ∃ ss l',
      (modemReadSocket modem fuel 1 len).run ⟨d, l⟩ =
          (some (if ok then (len : Int) else -1),
            ⟨{ d with
                slots := ss
                memory := d.memory.store 0 pieces.flatten
                env := k' },
              l'⟩) ∧
        Passes Way.reading.isNoise ss.text [] ∧
          sentBytes l' = sentBytes l ++ said ∧
            (ok = true →
              pieces.flatten.length = len ∧
                said = Way.reading.transcript len 0 pieces) := by
  rcases transferLoop_run l hLen hFree hIdle hDialogue hFuel with
    ⟨ss, l', hRun, hPass, hSent⟩
  refine ⟨ss, l', hRun, hPass, hSent, ?_⟩
  intro hOk
  exact
    ⟨hDialogue.length_pieces (Nat.zero_le len) hOk,
      hDialogue.said hOk⟩

/- What a modem answers, and after how many bytes. -/
abbrev Cues := List (Nat × Bytes)

/- A modem that answers on its cues. -/
def promptedModem : Modem Cues where
  hear _ k :=
    match k with
    | [] => ([], [])
    | (0, answer) :: k => (answer.map some, k)
    | (n + 1, answer) :: k => ([], (n, answer) :: k)

/- The end of a line without anything more. -/
def plainEnd : LineEnd where
  info := [13]
  hDigit := by
    intro c hc
    cases hc
    decide
  hLine := ne_newline_of_all rfl

/- A service that is up. -/
def serviceUp (way : Way) : StateReply way where
  lines :=
    [{ before := []
       digits := [52]
       lineEnd := plainEnd
       hBefore := .refl _
       hDigits := forall_mem_of_all (by decide) }]
  after := []
  fin := ascii "OK\r\n"
  event := .commandSuccess
  hAfter := .refl _
  hEvent := firstEvent_ok
  hResponse := rfl

theorem firstEvent_error :
    firstEvent (ascii "ERROR\r\n") =
      some (.commandFailure, []) := by
  decide +kernel

/- A service whose state the modem does not tell. -/
def serviceUnknown (way : Way) : StateReply way where
  lines := []
  after := []
  fin := ascii "ERROR\r\n"
  event := .commandFailure
  hAfter := .refl _
  hEvent := firstEvent_error
  hResponse := rfl

/- A grant of some bytes. -/
def plainGrant (way : Way) (n : Nat) : Grant way where
  before := []
  digits := decimal n
  lineEnd := plainEnd
  hBefore := .refl _
  hDigits := decimal_digits n

/-
  The lines of a modem that gives two bytes and then one, and
  does not tell the state of the service in between.
-/
def threeBytes : Cues :=
  [(9, ascii "^SISI: 1,4\r\nOK\r\n"),
    (12, ascii "^SISR: 1,2\r\nab\r\nOK\r\n"),
    (9, ascii "ERROR\r\n"),
    (12, ascii "^SISR: 1,1\r\nc\r\nOK\r\n")]

/- Three bytes come in two pieces. -/
theorem modemReadSocket_delivers_three :
    ∃ ss l',
      (modemReadSocket promptedModem 200 1 3).run
          ⟨⟨false, [], fun _ => 0, 0, threeBytes⟩, []⟩ =
          (some 3,
            ⟨⟨false, ss,
              Buffer.store (fun _ => 0) 0 (ascii "abc"), 0, []⟩,
              l'⟩) ∧
        sentBytes l' =
          Way.reading.transcript 3 0
            [ascii "ab", ascii "c"] := by
  have hEnd :
      Passes Way.reading.isNoise ([13, 10] ++ ascii "OK\r\n")
        (ascii "OK\r\n" ++ []) := by
    apply Passes.step (e := .timeout) rfl rfl
    apply Passes.step (e := .timeout) rfl rfl
    exact .refl _
  have hFirst :
      Round promptedModem .reading 3 0 threeBytes (ascii "ab")
        (AtEvent.commandSuccess != .commandFailure)
        ((sisiLine ++ Way.reading.askLine 3) ++ [])
        ((16 + 20) + 0) (threeBytes.drop 2) :=
    .moved (t := [13, 10] ++ ascii "OK\r\n") (u := [])
      (serviceUp _) (plainGrant _ 2)
      ⟨by decide +kernel, by decide +kernel, rfl⟩ (.refl [])
      (by decide)
      ⟨by decide +kernel, by decide +kernel, by decide +kernel⟩
      rfl (by decide) trivial ⟨rfl, rfl, rfl⟩ hEnd rfl
      firstEvent_ok (.refl [])
  have hSecond :
      Round promptedModem .reading 3 2 (threeBytes.drop 2)
        (ascii "c")
        (AtEvent.commandSuccess != .commandFailure)
        ((sisiLine ++ Way.reading.askLine 1) ++ [])
        ((7 + 19) + 0) [] :=
    .moved (t := [13, 10] ++ ascii "OK\r\n") (u := [])
      (serviceUnknown _) (plainGrant _ 1)
      ⟨by decide +kernel, by decide +kernel, rfl⟩ (.refl [])
      (by decide)
      ⟨by decide +kernel, by decide +kernel, by decide +kernel⟩
      rfl (by decide) trivial ⟨rfl, rfl, rfl⟩ hEnd rfl
      firstEvent_ok (.refl [])
  have hDialogue :=
    Dialogue.moved (by decide) hFirst
      (.moved (by decide) hSecond (.done (by decide)))
  rcases
    modemReadSocket_delivers promptedModem
      ⟨false, [], fun _ => 0, 0, threeBytes⟩ [] 3 true
      [ascii "ab", ascii "c"] _ _ [] 200 (by decide) rfl
      (.refl _) hDialogue (by decide) with
    ⟨ss, l', hRun, _, hSent, _⟩
  exact ⟨ss, l', hRun, hSent⟩

/-
  `modem_write_socket` goes through a dialogue.  When it
  returns the length it is called with, the pieces it has
  given to the modem, each behind the command it was granted
  for, are the array from its start on, all of the length.
-/
theorem modemWriteSocket_delivers
    (modem : Modem K)
    (d : Device K)
    (l : List Event)
    (data : Buffer)
    (len : Nat)
    (ok : Bool)
    (pieces : List Bytes)
    (said : Bytes)
    (m : Nat)
    (k' : K)
    (fuel : Nat)
    (hLen : len < 2 ^ 16)
    (hFree : d.locked = false)
    (hIdle : Passes (Way.writing data).isNoise d.slots.text [])
    (hDialogue :
      Dialogue modem (.writing data) len 0 d.env ok pieces said
        m k')
    (hFuel : d.slots.length + m < fuel) :
    ∃ ss l',
      (modemWriteSocket modem fuel 1 data len).run ⟨d, l⟩ =
          (some (if ok then (len : Int) else -1),
            ⟨{ d with slots := ss, env := k' }, l'⟩) ∧
        Passes (Way.writing data).isNoise ss.text [] ∧
          sentBytes l' = sentBytes l ++ said ∧
            (ok = true →
              pieces.flatten = data.load 0 len ∧
                said =
                  (Way.writing data).transcript len 0
                    pieces) := by
  rcases transferLoop_run l hLen hFree hIdle hDialogue hFuel with
    ⟨ss, l', hRun, hPass, hSent⟩
  refine ⟨ss, l', hRun, hPass, hSent, ?_⟩
  intro hOk
  have hAll := hDialogue.length_pieces (Nat.zero_le len) hOk
  refine ⟨?_, hDialogue.said hOk⟩
  rw [hDialogue.pieces_load, hAll, Nat.sub_zero]

/- The lines of a modem that takes two bytes at once. -/
def twoBytes : Cues :=
  [(9, ascii "^SISI: 1,4\r\nOK\r\n"),
    (12, ascii "^SISW: 1,2\r\n"),
    (1, ascii "OK\r\n")]

/- The lines of a modem that refuses. -/
def refusingLines : Cues :=
  [(9, ascii "^SISI: 1,4\r\nOK\r\n"), (12, ascii "ERROR\r\n")]

/- The array of the two bytes. -/
def twoBytesArray : Buffer :=
  Buffer.store (fun _ => 0) 0 (ascii "ab")

/- Two bytes go in one piece, or are refused. -/
theorem modemWriteSocket_delivers_two :
    (∃ ss l',
      (modemWriteSocket promptedModem 200 1
            twoBytesArray 2).run
          ⟨⟨false, [], fun _ => 0, 0, twoBytes⟩, []⟩ =
          (some 2, ⟨⟨false, ss, fun _ => 0, 0, []⟩, l'⟩) ∧
        sentBytes l' =
          ascii "AT^SISI?\r\nAT^SISW=1,2\r\nab") ∧
      ∃ ss l',
        (modemWriteSocket promptedModem 200 1
              twoBytesArray 2).run
            ⟨⟨false, [], fun _ => 0, 0, refusingLines⟩, []⟩ =
            (some (-1),
              ⟨⟨false, ss, fun _ => 0, 0, []⟩, l'⟩) ∧
          sentBytes l' =
            ascii "AT^SISI?\r\nAT^SISW=1,2\r\n" := by
  have hRound :
      Round promptedModem (.writing twoBytesArray) 2 0
        twoBytes (ascii "ab")
        (AtEvent.commandSuccess != .commandFailure)
        ((sisiLine ++
          (Way.writing twoBytesArray).askLine 2) ++
            ascii "ab")
        ((16 + 12) + 4) [] :=
    .moved (t := []) (u := ascii "OK\r\n")
      (serviceUp _) (plainGrant _ 2)
      ⟨by decide +kernel, by decide +kernel, rfl⟩ (.refl [])
      (by decide)
      ⟨by decide +kernel, by decide +kernel, rfl⟩
      rfl (by decide) rfl
      ⟨by decide +kernel, by decide +kernel, by decide +kernel⟩
      (.refl (ascii "OK\r\n")) rfl firstEvent_ok (.refl [])
  have hRefused :
      Round promptedModem (.writing twoBytesArray) 2 0
        refusingLines [] false
        (sisiLine ++ (Way.writing twoBytesArray).askLine 2)
        (16 + 7) [] :=
    .refused (serviceUp _)
      ⟨[], ascii "ERROR\r\n", .refl _, firstEvent_error⟩
      ⟨by decide +kernel, by decide +kernel, rfl⟩ (.refl [])
      (by decide)
      ⟨by decide +kernel, by decide +kernel, rfl⟩ (.refl [])
  constructor
  · rcases
      modemWriteSocket_delivers promptedModem
        ⟨false, [], fun _ => 0, 0, twoBytes⟩ []
        twoBytesArray 2 true [ascii "ab"] _ _ [] 200
        (by decide) rfl (.refl _)
        (.moved (by decide) hRound (.done (by decide)))
        (by decide) with
      ⟨ss, l', hRun, _, hSent, _⟩
    exact ⟨ss, l', hRun, hSent⟩
  · rcases
      modemWriteSocket_delivers promptedModem
        ⟨false, [], fun _ => 0, 0, refusingLines⟩ []
        twoBytesArray 2 false [[]] _ _ [] 200
        (by decide) rfl (.refl _)
        (.failed (by decide) hRefused)
        (by decide) with
      ⟨ss, l', hRun, _, hSent, _⟩
    exact ⟨ss, l', hRun, hSent⟩

end At

end TrustOnboard
