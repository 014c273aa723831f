import TrustOnboard.Tls.Wrapper

/-
  What the transfer functions of the TLS layer report about
  the bytes they moved.

  A read reports exactly what it received.  A write does so
  unless the timer runs out between the test of its outer
  loop and the call of the library: then it adds what the
  variable `ret` happens to hold.

  Key definitions include:
    * `ReadAccounted`
    * `WriteAccounted`
    * `overtaken`

  Key results include:
    * `iotTlsRead_accounted`
    * `iotTlsWrite_accounted_iff`
-/

------------------------------------------------------------
-- Reading
------------------------------------------------------------

namespace TrustOnboard

namespace Tls

open Mqtt (IoTError ReadResult)

variable {E : Type}
variable {port : Port E}

/- The bytes of one read. -/
def Event.received : Event → Bytes
  | .sslRead _ bs _ => bs
  | _ => []

/- The bytes the library delivered, in order. -/
def received : List Event → Bytes
  | [] => []
  | e :: l => received l ++ e.received

/- The memory past the message is as before. -/
def Untouched (len : Nat) (before after : Buffer) : Prop :=
  ∀ i, len ≤ i → after i = before i

/-
  What a read reports agrees with what was received: success
  means all of it, and the codes for nothing and for some of
  it are only used for that.
-/
structure ReadAccounted
    (len : Nat)
    (rc : IoTError)
    (readLen : Option Nat)
    (s : Sys E)
    (bs : Bytes) : Prop where
  success_iff : rc = .success ↔ bs.length = len
  whole :
    rc = .success →
      s.msg.load 0 len = bs ∧ readLen = some len
  nothing : rc = .networkSslNothingToRead → bs = []
  some_of_it :
    rc = .networkSslReadTimeoutError →
      0 < bs.length ∧ bs.length < len
  codes :
    rc = .success ∨ rc = .networkSslNothingToRead ∨
      rc = .networkSslReadTimeoutError ∨
        rc = .networkSslReadError
  least : bs.length ≤ len

/- The counters of the loop and the bytes received so far. -/
structure Reading
    (len : Nat)
    (before : Buffer)
    (v : ReadLocals)
    (w : Run E) : Prop where
  count : v.rxLen = (received w.log).length
  place : v.pMsg = v.rxLen
  left : v.rxLen + v.len = len
  stored : w.st.msg.load 0 v.rxLen = received w.log
  untouched : Untouched len before w.st.msg

/- A read leaves the memory past the message alone. -/
def readContract
    (E : Type)
    (len : Nat)
    (before : Buffer) : Contract (Sys E) Event where
  excused := fun _ => False
  excused_append := fun _ hNo => hNo
  halted := fun w => Untouched len before w.st.msg

/- What the end of the loop reports. -/
theorem Reading.accounted
    {len : Nat}
    {before : Buffer}
    {v : ReadLocals}
    {w : Run E}
    (hReading : Reading len before v w) :
    ReadAccounted len (readResult v).1 (readResult v).2 w.st
      (received w.log) := by
  have hCount := hReading.count
  have hLeft := hReading.left
  unfold readResult
  split
  · rename_i hDone
    have hAll : v.rxLen = len := by omega
    have hStored := hReading.stored
    rw [hAll] at hStored hCount
    constructor
    case success_iff => simp [← hCount]
    case whole =>
      exact fun _ => ⟨hStored, by rw [hAll]⟩
    case nothing => exact fun hNo => by cases hNo
    case some_of_it => exact fun hNo => by cases hNo
    case codes => exact Or.inl rfl
    case least => omega
  · rename_i hMore
    split
    · rename_i hNone
      have hNil : received w.log = [] := by
        rw [← List.length_eq_zero_iff]
        omega
      constructor
      case success_iff =>
        rw [hNil]
        simp only [reduceCtorEq, List.length_nil, false_iff]
        omega
      case whole => exact fun hNo => by cases hNo
      case nothing => exact fun _ => hNil
      case some_of_it => exact fun hNo => by cases hNo
      case codes => exact Or.inr (Or.inl rfl)
      case least => omega
    · constructor
      case success_iff =>
        simp only [reduceCtorEq, false_iff]
        omega
      case whole => exact fun hNo => by cases hNo
      case nothing => exact fun hNo => by cases hNo
      case some_of_it => exact fun _ => by omega
      case codes => exact Or.inr (Or.inr (Or.inl rfl))
      case least => omega

/- A call that moves bytes stores them behind the others. -/
theorem Reading.moved
    {len : Nat}
    {before : Buffer}
    {v : ReadLocals}
    {w : Run E}
    (hReading : Reading len before v w)
    {bs : Bytes}
    (hLe : bs.length ≤ v.len)
    (env : E) :
    Reading len before
      { pMsg := v.pMsg + bs.length
        len := v.len - bs.length
        rxLen := v.rxLen + bs.length }
      ⟨⟨w.st.msg.store v.pMsg bs, env⟩,
        .sslRead v.pMsg bs bs.length :: w.log⟩ := by
  have hCount := hReading.count
  have hPlace := hReading.place
  have hLeft := hReading.left
  constructor
  case count =>
    simp only [received, Event.received, List.length_append]
    omega
  case place => simp only [hPlace]
  case left =>
    dsimp only
    omega
  case stored =>
    change
      (w.st.msg.store v.pMsg bs).load 0
          (v.rxLen + bs.length) =
        received w.log ++ bs
    have hOld :
        (w.st.msg.store v.pMsg bs).load 0 v.rxLen =
          received w.log := by
      rw [Buffer.load_store_of_disjoint]
      · exact hReading.stored
      · exact Or.inl (by omega)
    rw [Buffer.load_add, hOld, Nat.zero_add, hPlace,
      Buffer.load_store_self]
  case untouched =>
    intro i hi
    rw [← hReading.untouched i hi]
    exact
      Buffer.store_apply_of_not_mem _ _ _
        (Or.inr (by omega))

/- Events that deliver nothing keep the counters right. -/
theorem Reading.skip
    {len : Nat}
    {before : Buffer}
    {v : ReadLocals}
    {w : Run E}
    (hReading : Reading len before v w)
    {e : Event}
    (hNone : e.received = [])
    (env : E) :
    Reading len before v
      ⟨{ w.st with env := env }, e :: w.log⟩ := by
  have hSame : received (e :: w.log) = received w.log := by
    rw [received, hNone, List.append_nil]
  constructor
  case count =>
    rw [hSame]
    exact hReading.count
  case place => exact hReading.place
  case left => exact hReading.left
  case stored =>
    rw [hSame]
    exact hReading.stored
  case untouched => exact hReading.untouched

/- A call that returns a code delivers nothing. -/
theorem Reading.code
    {len : Nat}
    {before : Buffer}
    {v : ReadLocals}
    {w : Run E}
    (hReading : Reading len before v w)
    (c : Int)
    (env : E) :
    Reading len before v
      ⟨⟨w.st.msg.store v.pMsg [], env⟩,
        .sslRead v.pMsg [] c :: w.log⟩ := by
  have hStore : w.st.msg.store v.pMsg [] = w.st.msg := by
    funext i
    apply Buffer.store_apply_of_not_mem
    simp only [List.length_nil]
    omega
  rw [hStore]
  exact hReading.skip rfl env

/- An error leaves the read short. -/
theorem Reading.failed
    {len : Nat}
    {before : Buffer}
    {v : ReadLocals}
    {w : Run E}
    (hReading : Reading len before v w)
    (hMore : 0 < v.len) :
    ReadAccounted len .networkSslReadError none w.st
      (received w.log) := by
  have hCount := hReading.count
  have hLeft := hReading.left
  constructor
  case success_iff =>
    simp only [reduceCtorEq, false_iff]
    omega
  case whole => exact fun hNo => by cases hNo
  case nothing => exact fun hNo => by cases hNo
  case some_of_it => exact fun hNo => by cases hNo
  case codes => exact Or.inr (Or.inr (Or.inr rfl))
  case least => omega

theorem ReadLocals.after_code
    (v : ReadLocals)
    {c : Int}
    (hNot : c ≤ 0) :
    v.after c = v :=
  if_neg (by omega)

/- One call of the library. -/
theorem sslRead_reading
    (port : Port E)
    {C : Contract (Sys E) Event}
    {len : Nat}
    {before : Buffer}
    (v : ReadLocals) :
    Triple C (Reading len before v)
      (sslRead port v.pMsg v.len)
      (fun ret => Reading len before (v.after ret)) := by
  apply Triple.step
  intro w hReading
  right
  generalize port.sslRead v.len w.st.env = r
  rcases r with ⟨result, env⟩
  cases result with
  | moved bs hPos hLe hInt =>
      have hSome : (0 : Int) < bs.length := by omega
      dsimp only [SslReturn.ret, SslReturn.bytes]
      unfold ReadLocals.after
      rw [if_pos hSome, Int.toNat_natCast]
      exact hReading.moved hLe env
  | code c hNot hInt =>
      dsimp only [SslReturn.ret, SslReturn.bytes]
      rw [ReadLocals.after_code v hNot]
      exact hReading.code c env

/- The loop of `iot_tls_read`. -/
theorem iotTlsRead_loop
    (port : Port E)
    (fuel len : Nat)
    (before : Buffer) :
    Triple (readContract E len before)
      (Reading len before
        { pMsg := 0, len := len, rxLen := 0 })
      (iotTlsRead port fuel len)
      (fun r w =>
        ReadAccounted len r.1 r.2 w.st (received w.log) ∧
          Untouched len before w.st.msg) := by
  refine
    Triple.loop (Reading len before)
      (fun _ _ hReading => hReading.untouched) ?_
  intro v
  apply Triple.ite
  · intro hMore
    refine Triple.bind
      (M := fun ret => Reading len before (v.after ret))
      (sslRead_reading port v) ?_
    intro ret
    apply Triple.ite
    · rintro ⟨hNot, _⟩
      apply Triple.pure
      intro w hReading
      rw [ReadLocals.after_code v hNot] at hReading
      exact ⟨hReading.failed hMore, hReading.untouched⟩
    · intro _
      refine Triple.bind
        (M := fun _ => Reading len before (v.after ret))
        (Triple.step ?_) ?_
      · intro w hReading
        exact Or.inr (hReading.skip rfl _)
      intro expired
      cases expired with
      | true =>
          apply Triple.pure
          intro w hReading
          exact ⟨hReading.accounted, hReading.untouched⟩
      | false => exact Triple.pure (fun _ h => h)
  · intro _
    apply Triple.pure
    intro w hReading
    exact ⟨hReading.accounted, hReading.untouched⟩

/-
  Every read, whether it returns or not, stores no byte past
  the message, and one that returns reports what it received.
-/
theorem iotTlsRead_accounted
    (port : Port E)
    (fuel len : Nat)
    (s : Sys E) :
    let r := (iotTlsRead port fuel len).run ⟨s, []⟩
    Untouched len s.msg r.2.st.msg ∧
      ∀ rc readLen,
        r.1 = some (rc, readLen) →
          ReadAccounted len rc readLen r.2.st
            (received r.2.log) := by
  intro r
  have hStart :
      Reading len s.msg
        { pMsg := 0, len := len, rxLen := 0 } ⟨s, []⟩ := by
    constructor
    case count => rfl
    case place => rfl
    case left => simp
    case stored => exact Buffer.load_zero _ _
    case untouched => exact fun _ _ => rfl
  have hLoop :=
    iotTlsRead_loop port fuel len s.msg ⟨s, []⟩ hStart
  change Contract.Meets _ _ r at hLoop
  rcases hLoop with hNo | hMeets
  · exact hNo.elim
  cases hResult : r.1 with
  | none =>
      rw [hResult] at hMeets
      exact ⟨hMeets, fun _ _ hNo => by cases hNo⟩
  | some result =>
      rw [hResult] at hMeets
      refine ⟨hMeets.2, ?_⟩
      rintro rc readLen hEq
      cases hEq
      exact hMeets.1

/- A read that returns reports what it received. -/
theorem iotTlsRead_reported
    (port : Port E)
    {fuel len : Nat}
    {s : Sys E}
    {rc : IoTError}
    {readLen : Option Nat}
    (hRun :
      ((iotTlsRead port fuel len).run ⟨s, []⟩).1 =
        some (rc, readLen)) :
    ReadAccounted len rc readLen
      ((iotTlsRead port fuel len).run ⟨s, []⟩).2.st
      (received
        ((iotTlsRead port fuel len).run ⟨s, []⟩).2.log) := by
  have hStart :
      Reading len s.msg
        { pMsg := 0, len := len, rxLen := 0 } ⟨s, []⟩ := by
    constructor
    case count => rfl
    case place => rfl
    case left => exact Nat.zero_add len
    case stored => exact Buffer.load_zero _ _
    case untouched => exact fun _ _ => rfl
  rcases (iotTlsRead_loop port fuel len s.msg).of_run hStart
      (Prod.ext hRun rfl) with hNo | hRead
  · exact hNo.elim
  · exact hRead.1

end Tls

end TrustOnboard

------------------------------------------------------------
-- Writing
------------------------------------------------------------

namespace TrustOnboard

namespace Tls

open Mqtt (IoTError)

variable {E : Type}
variable {port : Port E}

/- The bytes of one write. -/
def Event.taken : Event → Bytes
  | .sslWrite bs _ => bs
  | _ => []

/- The bytes the library accepted, in order. -/
def taken : List Event → Bytes
  | [] => []
  | e :: l => taken l ++ e.taken

/- A write that failed for good. -/
def Event.isRefusal : Event → Bool
  | .sslWrite _ ret => decide (ret ≤ 0) && !isWant ret
  | _ => false

def refused (l : List Event) : Bool :=
  l.any Event.isRefusal

/-
  What a write reports agrees with what the library accepted.
-/
structure WriteAccounted
    (msg : Buffer)
    (len : Nat)
    (rc : IoTError)
    (written : Nat)
    (l : List Event) : Prop where
  count : written = (taken l).length
  inside : written ≤ len
  order : taken l = msg.load 0 written
  success_iff : rc = .success ↔ written = len
  error_iff : rc = .networkSslWriteError ↔ refused l = true
  timeout_iff :
    rc = .networkSslWriteTimeoutError ↔
      written ≠ len ∧ refused l = false

/- What the variable `ret` holds after some events. -/
def lastRet (ret : Int) : List Event → Int
  | [] => ret
  | .sslWrite _ ret' :: _ => ret'
  | _ :: l => lastRet ret l

/-
  The timer ran out between the test of the outer loop and
  the call of the library, with something left in `ret`.
-/
def overtaken (ret : Int) : List Event → Bool
  | [] => false
  | .timerChecked .attempt true :: l =>
      decide (lastRet ret l ≠ 0) || overtaken ret l
  | _ :: l => overtaken ret l

/-
  The timer had run out when the outer loop ended, and had
  not run out any more when it was looked at again.
-/
def wavers : List Event → Bool
  | .timerChecked .last false ::
      .timerChecked .round true :: _ => true
  | _ => false

/- A timer that has run out has still run out right after. -/
def StaysExpired (port : Port E) : Prop :=
  ∀ e,
    (port.hasTimerExpired e).1 = true →
      (port.hasTimerExpired (port.hasTimerExpired e).2).1 =
        true

/- A value of type `int`. -/
def IsInt (n : Int) : Prop :=
  -2 ^ 31 ≤ n ∧ n < 2 ^ 31

/- The count agrees with the bytes accepted so far. -/
structure Writing
    (msg : Buffer)
    (len : Nat)
    (ret₀ : Int)
    (n : Nat)
    (ret : Int)
    (w : Run E) : Prop where
  memory : w.st.msg = msg
  count : n = (taken w.log).length
  inside : n ≤ len
  order : taken w.log = msg.load 0 n
  calm : overtaken ret₀ w.log = false
  last : lastRet ret₀ w.log = ret
  int : IsInt ret

/- The next look at the timer finds that it has run out. -/
def Expired (port : Port E) (s : Sys E) : Prop :=
  (port.hasTimerExpired s.env).1 = true

/-
  How the inner loop ends without an error: with some more
  bytes accepted, or because the timer has run out.
-/
inductive AttemptsEnd
    (port : Port E)
    (msg : Buffer)
    (len : Nat)
    (ret₀ : Int)
    (n : Nat)
    (ret : Int)
    (w : Run E) : Prop where
  | accepted
      (k : Nat)
      (hRet : ret = k)
      (hWriting : Writing msg len ret₀ (n + k) ret w)
  | ranOut
      (l : List Event)
      (hLog : w.log = .timerChecked .attempt true :: l)
      (hWriting :
        Writing msg len ret₀ n ret ⟨w.st, l⟩)
      (hStays : StaysExpired port → Expired port w.st)

/- Looking at the timer changes nothing else. -/
theorem Writing.timer
    {msg : Buffer}
    {len n : Nat}
    {ret₀ ret : Int}
    {w : Run E}
    (hWriting : Writing msg len ret₀ n ret w)
    {site : Site}
    {expired : Bool}
    (hCalm : site = .attempt → expired = true → ret = 0)
    (env : E) :
    Writing msg len ret₀ n ret
      ⟨{ w.st with env := env },
        .timerChecked site expired :: w.log⟩ := by
  constructor
  case memory => exact hWriting.memory
  case count => simpa [taken, Event.taken] using hWriting.count
  case inside => exact hWriting.inside
  case order => simpa [taken, Event.taken] using hWriting.order
  case calm =>
    unfold overtaken
    split
    · rename_i hNil
      cases hNil
    · rename_i hEq
      cases hEq
      rw [hWriting.last, hCalm rfl rfl, hWriting.calm]
      rfl
    · rename_i hEq
      cases hEq
      exact hWriting.calm
  case last => exact hWriting.last
  case int => exact hWriting.int

/- A call moves bytes or returns a code. -/
theorem SslReturn.moved_or_code
    {n : Nat}
    (r : SslReturn n) :
    (0 < r.bytes.length ∧ r.ret = r.bytes.length ∧
        r.bytes.length ≤ n ∧ IsInt r.ret) ∨
      (r.bytes = [] ∧ r.ret ≤ 0 ∧ IsInt r.ret) := by
  unfold IsInt
  cases r with
  | moved bs hPos hLe hInt =>
      refine Or.inl ⟨hPos, rfl, hLe, ?_⟩
      dsimp only [SslReturn.ret]
      omega
  | code c hNot hInt =>
      refine Or.inr ⟨rfl, hNot, hInt, ?_⟩
      dsimp only [SslReturn.ret]
      omega

/- One call of the library. -/
theorem sslWrite_writing
    (port : Port E)
    {C : Contract (Sys E) Event}
    (msg : Buffer)
    {len n : Nat}
    (ret₀ ret : Int)
    (hMore : n < len) :
    Triple C
      (fun w =>
        Writing msg len ret₀ n ret w ∧ refused w.log = false)
      (sslWrite port n (len - n))
      (fun ret' w =>
        (∃ k : Nat,
          0 < k ∧ ret' = k ∧
            Writing msg len ret₀ (n + k) ret' w ∧
              refused w.log = false) ∨
        (ret' ≤ 0 ∧ Writing msg len ret₀ n ret' w ∧
          refused w.log = !isWant ret')) := by
  apply Triple.step
  rintro w ⟨hWriting, hNone⟩
  right
  have hCount := hWriting.count
  have hMsg := hWriting.memory
  rcases SslReturn.moved_or_code
      (port.sslWrite (w.st.msg.load n (len - n))
        w.st.env).1 with
    ⟨hPos, hRet, hLe, hInt⟩ | ⟨hNil, hNot, hInt⟩
  · left
    have hLe :=
      Nat.le_trans hLe
        (Nat.le_of_eq (Buffer.length_load _ _ _))
    have hTake :
        ∀ k ≤ len - n,
          (w.st.msg.load n (len - n)).take k =
            msg.load n k := by
      intro k hk
      rw [Buffer.take_load _ _ hk, hMsg]
    refine ⟨_, hPos, hRet, ?_, ?_⟩
    · constructor
      case memory => exact hMsg
      case count =>
        simp only [taken, Event.taken, hTake _ hLe,
          List.cons_append, List.nil_append,
          List.length_append, Buffer.length_load]
        omega
      case inside => omega
      case order =>
        simp only [taken, Event.taken, hTake _ hLe,
          List.cons_append, List.nil_append]
        rw [hWriting.order, Buffer.load_add, Nat.zero_add]
      case calm => exact hWriting.calm
      case last => rfl
      case int => exact hInt
    · simp only [refused, List.cons_append, List.nil_append,
        List.any_cons, Event.isRefusal]
      rw [hRet]
      have hSome : ¬ ((List.length _ : Nat) : Int) ≤ 0 :=
        Int.not_le.mpr (Int.natCast_pos.mpr hPos)
      rw [decide_eq_false hSome]
      exact hNone
  · right
    refine ⟨hNot, ?_, ?_⟩
    · constructor
      case memory => exact hMsg
      case count =>
        simpa [taken, Event.taken, hNil] using hCount
      case inside => exact hWriting.inside
      case order =>
        simpa [taken, Event.taken, hNil] using hWriting.order
      case calm => exact hWriting.calm
      case last => rfl
      case int => exact hInt
    · have hOld : w.log.any Event.isRefusal = false := hNone
      simp [refused, Event.isRefusal, hNot, hOld]

/- The inner loop. -/
theorem writeAttempts_writing
    (port : Port E)
    (fuel : Nat)
    {msg : Buffer}
    {len n : Nat}
    {ret₀ ret : Int}
    (hMore : n < len) :
    Triple (Contract.plain (Sys E) Event)
      (fun w =>
        Writing msg len ret₀ n ret w ∧ refused w.log = false)
      (writeAttempts port fuel n len ret)
      (fun r w =>
        (r.1 = true ∧ refused w.log = true ∧
          ∃ ret, Writing msg len ret₀ n ret w) ∨
        (r.1 = false ∧ refused w.log = false ∧
          AttemptsEnd port msg len ret₀ n r.2 w)) := by
  refine
    Triple.loop
      (fun ret w =>
        Writing msg len ret₀ n ret w ∧ refused w.log = false)
      (fun _ _ _ => trivial) ?_
  intro ret
  refine Triple.bind
    (M := fun expired w =>
      refused w.log = false ∧
        ((expired = false ∧ Writing msg len ret₀ n ret w) ∨
          (expired = true ∧
            AttemptsEnd port msg len ret₀ n ret w)))
    (Triple.step ?_) ?_
  · rintro w ⟨hWriting, hNone⟩
    right
    refine ⟨hNone, ?_⟩
    dsimp only
    cases hNow : (port.hasTimerExpired w.st.env).1 with
    | false =>
        refine Or.inl ⟨rfl, ?_⟩
        exact hWriting.timer (fun _ hNo => by cases hNo) _
    | true =>
        refine Or.inr ⟨rfl, .ranOut w.log rfl ?_ ?_⟩
        · exact
            { memory := hWriting.memory
              count := hWriting.count
              inside := hWriting.inside
              order := hWriting.order
              calm := hWriting.calm
              last := hWriting.last
              int := hWriting.int }
        · exact fun hStays => hStays _ hNow
  intro expired
  cases expired with
  | true =>
      apply Triple.pure
      rintro w ⟨hNone, ⟨hNo, _⟩ | ⟨_, hEnd⟩⟩
      · cases hNo
      · exact Or.inr ⟨rfl, hNone, hEnd⟩
  | false =>
      refine Triple.bind
        ((sslWrite_writing port msg ret₀ ret hMore).pre
          ?_) ?_
      · rintro w ⟨hNone, ⟨_, hWriting⟩ | ⟨hNo, _⟩⟩
        · exact ⟨hWriting, hNone⟩
        · cases hNo
      intro ret'
      apply Triple.ite
      · intro hCode
        apply Triple.ite
        · intro hWant
          apply Triple.pure
          rintro w (⟨k, hPos, rfl, _⟩ | ⟨_, hWriting, hBad⟩)
          · omega
          · refine Or.inl ⟨rfl, ?_, _, hWriting⟩
            simpa [hWant] using hBad
        · intro hWant
          apply Triple.pure
          rintro w (⟨k, hPos, rfl, _⟩ | ⟨_, hWriting, hBad⟩)
          · omega
          · refine ⟨hWriting, ?_⟩
            rw [hBad]
            simpa using hWant
      · intro hMoved
        apply Triple.pure
        rintro w (⟨k, _, hRet, hWriting, hNone⟩ | ⟨hNo, _⟩)
        · exact
            Or.inr ⟨rfl, hNone, .accepted k hRet hWriting⟩
        · exact absurd hNo hMoved

/- The count has lost track of the bytes accepted. -/
structure Lost
    (port : Port E)
    (ret₀ : Int)
    (n : Nat)
    (w : Run E) : Prop where
  overtaken : overtaken ret₀ w.log = true
  wrong : n ≠ (taken w.log).length
  expired : StaysExpired port → Expired port w.st

/- Adding a value of type `int` other than zero. -/
theorem addInt_ne
    {n : Nat}
    {ret : Int}
    (hInt : IsInt ret)
    (hSome : ret ≠ 0) :
    addInt n ret ≠ n := by
  rcases hInt with ⟨hLow, hHigh⟩
  unfold addInt
  omega

theorem addInt_natCast
    {n k : Nat}
    (hSmall : n + k < 2 ^ 64) :
    addInt n k = n + k := by
  unfold addInt
  omega

/- The count after the inner loop. -/
theorem AttemptsEnd.next
    {msg : Buffer}
    {len n : Nat}
    {ret₀ ret : Int}
    {w : Run E}
    (hLen : len < 2 ^ 64)
    (hMore : n < len)
    (hEnd : AttemptsEnd port msg len ret₀ n ret w) :
    Writing msg len ret₀ (addInt n ret) ret w ∨
      Lost port ret₀ (addInt n ret) w := by
  cases hEnd with
  | accepted k hRet hWriting =>
      left
      have hInside := hWriting.inside
      rw [hRet, addInt_natCast (by omega), ← hRet]
      exact hWriting
  | ranOut l hLog hWriting hStays =>
      rcases w with ⟨s, log⟩
      dsimp only at hLog
      subst hLog
      by_cases hZero : ret = 0
      · left
        have hSame : addInt n ret = n := by
          rw [hZero]
          exact addInt_natCast (k := 0) (by omega)
        rw [hSame]
        exact hWriting.timer (fun _ _ => hZero) s.env
      · right
        constructor
        case overtaken =>
          simp [overtaken, hWriting.last, hZero]
        case wrong =>
          have hCount := hWriting.count
          have hNe := addInt_ne (n := n) hWriting.int hZero
          dsimp only at hCount
          simp only [taken, Event.taken, List.append_nil]
          omega
        case expired => exact hStays

/- How the outer loop ends. -/
inductive RoundsEnd
    (port : Port E)
    (msg : Buffer)
    (len : Nat)
    (ret₀ : Int)
    (n : Nat)
    (w : Run E) : Bool → Prop where
  | failed
      (ret : Int)
      (hWriting : Writing msg len ret₀ n ret w)
      (hMore : n < len)
      (hRefused : refused w.log = true) :
      RoundsEnd port msg len ret₀ n w true
  | whole
      (ret : Int)
      (hWriting : Writing msg len ret₀ n ret w)
      (hAll : n = len)
      (hNone : refused w.log = false) :
      RoundsEnd port msg len ret₀ n w false
  | late
      (ret : Int)
      (l : List Event)
      (hWriting : Writing msg len ret₀ n ret w)
      (hMore : n < len)
      (hNone : refused w.log = false)
      (hLog : w.log = .timerChecked .round true :: l)
      (hStays : StaysExpired port → Expired port w.st) :
      RoundsEnd port msg len ret₀ n w false
  | lost
      (err : Bool)
      (hOvertaken : overtaken ret₀ w.log = true)
      (hWrong :
        StaysExpired port →
          err = false ∧ n ≠ (taken w.log).length) :
      RoundsEnd port msg len ret₀ n w err

/- The count before a round of the outer loop. -/
def Rounding
    (port : Port E)
    (msg : Buffer)
    (len : Nat)
    (ret₀ : Int)
    (v : WriteLocals)
    (w : Run E) : Prop :=
  (Writing msg len ret₀ v.writtenSoFar v.ret w ∧
    refused w.log = false) ∨
  (overtaken ret₀ w.log = true ∧
    (StaysExpired port →
      Lost port ret₀ v.writtenSoFar w))

theorem overtaken_append
    {ret₀ : Int}
    {l : List Event}
    (hOvertaken : overtaken ret₀ l = true)
    (es : List Event) :
    overtaken ret₀ (es ++ l) = true := by
  induction es with
  | nil => exact hOvertaken
  | cons e es ih =>
      rw [List.cons_append]
      unfold overtaken
      split
      · rename_i hNil
        cases hNil
      · rename_i hEq
        cases hEq
        rw [ih, Bool.or_true]
      · rename_i hEq
        cases hEq
        exact ih

/- What has been lost track of stays so. -/
theorem overtaken_kept
    {α : Type}
    {ret₀ : Int}
    (p : Code E α) :
    Triple (Contract.plain (Sys E) Event)
      (fun w : Run E => overtaken ret₀ w.log = true) p
      (fun _ w => overtaken ret₀ w.log = true) :=
  Triple.log_mono
    (I := fun l => overtaken ret₀ l = true)
    (fun es _ h => overtaken_append h es)

/- The outer loop. -/
theorem writeRounds_ends
    (port : Port E)
    (fuel : Nat)
    {len : Nat}
    (hLen : len < 2 ^ 64)
    (msg : Buffer)
    (ret₀ : Int) :
    Triple (Contract.plain (Sys E) Event)
      (Rounding port msg len ret₀
        { writtenSoFar := 0, ret := ret₀ })
      (writeRounds port fuel len ret₀)
      (fun r w => RoundsEnd port msg len ret₀ r.2 w r.1) := by
  refine
    Triple.loop (Rounding port msg len ret₀)
      (fun _ _ _ => trivial) ?_
  intro v
  apply Triple.ite
  · intro hMore
    refine Triple.bind
      (M := fun expired w =>
        (Writing msg len ret₀ v.writtenSoFar v.ret w ∧
          refused w.log = false ∧
          (expired = true →
            (∃ l, w.log = .timerChecked .round true :: l) ∧
              (StaysExpired port → Expired port w.st))) ∨
        (overtaken ret₀ w.log = true ∧
          (StaysExpired port →
            expired = true ∧
              v.writtenSoFar ≠ (taken w.log).length)))
      (Triple.step ?_) ?_
    · rintro w (⟨hWriting, hNone⟩ | ⟨hOvertaken, hLost⟩)
      · right
        left
        refine
          ⟨hWriting.timer (fun hNo => by cases hNo) _, hNone,
            ?_⟩
        intro hNow
        dsimp only at hNow ⊢
        exact
          ⟨⟨w.log, by rw [hNow]; rfl⟩,
            fun hStays => hStays _ hNow⟩
      · right
        right
        refine ⟨hOvertaken, ?_⟩
        intro hStays
        have hLost := hLost hStays
        refine ⟨hLost.expired hStays, ?_⟩
        simpa [taken, Event.taken] using hLost.wrong
    intro expired
    cases expired with
    | true =>
        apply Triple.pure
        rintro w (⟨hWriting, hNone, hLate⟩ | ⟨hOver, hWrong⟩)
        · rcases hLate rfl with ⟨⟨l, hLog⟩, hStays⟩
          exact .late _ l hWriting hMore hNone hLog hStays
        · exact
            .lost false hOver
              (fun hStays => ⟨rfl, (hWrong hStays).2⟩)
    | false =>
        refine Triple.bind
          (M := fun r w =>
            (r.1 = true ∧ refused w.log = true ∧
              ∃ ret,
                Writing msg len ret₀ v.writtenSoFar ret w) ∨
            (r.1 = false ∧ refused w.log = false ∧
              AttemptsEnd port msg len ret₀ v.writtenSoFar
                r.2 w) ∨
            (overtaken ret₀ w.log = true ∧
              ¬ StaysExpired port)) ?_ ?_
        · intro w hPre
          rcases hPre with
            ⟨hWriting, hNone, _⟩ | ⟨hOver, hWrong⟩
          · refine
              (writeAttempts_writing port fuel hMore).post
                ?_ w ⟨hWriting, hNone⟩
            rintro r w' (hFailed | hEnd)
            · exact Or.inl hFailed
            · exact Or.inr (Or.inl hEnd)
          · refine (overtaken_kept _).post ?_ w hOver
            intro r w' hOver'
            refine Or.inr (Or.inr ⟨hOver', ?_⟩)
            exact fun hStays => by cases (hWrong hStays).1
        intro r
        rcases r with ⟨err, ret⟩
        cases err with
        | true =>
            apply Triple.pure
            rintro w (⟨_, hRefused, ret', hWriting⟩ |
              ⟨hNo, _⟩ | ⟨hOver, hNot⟩)
            · exact .failed ret' hWriting hMore hRefused
            · cases hNo
            · exact
                .lost true hOver
                  (fun hStays => absurd hStays hNot)
        | false =>
            apply Triple.pure
            rintro w (⟨hNo, _⟩ | ⟨_, hNone, hEnd⟩ |
              ⟨hOver, hNot⟩)
            · cases hNo
            · rcases hEnd.next hLen hMore with
                hWriting | hLost
              · exact Or.inl ⟨hWriting, hNone⟩
              · exact
                  Or.inr ⟨hLost.overtaken, fun _ => hLost⟩
            · exact
                Or.inr
                  ⟨hOver, fun hStays => absurd hStays hNot⟩
  · intro hEnd
    apply Triple.pure
    rintro w (⟨hWriting, hNone⟩ | ⟨hOver, hLost⟩)
    · have hInside := hWriting.inside
      exact .whole _ hWriting (by omega) hNone
    · exact
        .lost false hOver
          (fun hStays => ⟨rfl, (hLost hStays).wrong⟩)

/- The report after the outer loop. -/
structure Reported
    (port : Port E)
    (msg : Buffer)
    (len : Nat)
    (ret₀ : Int)
    (rc : IoTError)
    (written : Nat)
    (w : Run E) : Prop where
  right :
    overtaken ret₀ w.log = false →
      (wavers w.log = false ∨ StaysExpired port) →
        WriteAccounted msg len rc written w.log
  wrong :
    overtaken ret₀ w.log = true → StaysExpired port →
      written ≠ (taken w.log).length

/- A count that is right is reported as it is. -/
theorem Writing.reported
    {msg : Buffer}
    {len n : Nat}
    {ret₀ ret : Int}
    {w : Run E}
    (hWriting : Writing msg len ret₀ n ret w)
    {rc : IoTError}
    (hCodes :
      (wavers w.log = false ∨ StaysExpired port) →
        (rc = .success ↔ n = len) ∧
          (rc = .networkSslWriteError ↔
            refused w.log = true) ∧
          (rc = .networkSslWriteTimeoutError ↔
            n ≠ len ∧ refused w.log = false)) :
    Reported port msg len ret₀ rc n w where
  right := by
    intro _ hTimer
    rcases hCodes hTimer with ⟨hSuccess, hError, hTimeout⟩
    exact
      { count := hWriting.count
        inside := hWriting.inside
        order := hWriting.order
        success_iff := hSuccess
        error_iff := hError
        timeout_iff := hTimeout }
  wrong := by
    intro hNo
    rw [hWriting.calm] at hNo
    cases hNo

/- The code a look at the timer leads to. -/
def lastCode (expired : Bool) (n len : Nat) : IoTError :=
  if expired ∧ n ≠ len then .networkSslWriteTimeoutError
  else .success

/- The last look at the timer, after no error. -/
theorem RoundsEnd.reported
    {msg : Buffer}
    {len n : Nat}
    {ret₀ : Int}
    {w : Run E}
    (hEnd : RoundsEnd port msg len ret₀ n w false) :
    let r := port.hasTimerExpired w.st.env
    Reported port msg len ret₀ (lastCode r.1 n len) n
      ⟨{ w.st with env := r.2 },
        .timerChecked .last r.1 :: w.log⟩ := by
  intro r
  have hKept :
      ∀ {ret}, Writing msg len ret₀ n ret w →
        Writing msg len ret₀ n ret
          ⟨{ w.st with env := r.2 },
            .timerChecked .last r.1 :: w.log⟩ :=
    fun hWriting => hWriting.timer (fun hNo => by cases hNo) _
  have hRefused :
      refused (.timerChecked .last r.1 :: w.log) =
        refused w.log := rfl
  unfold lastCode
  cases hEnd with
  | whole ret hWriting hAll hNone =>
      refine (hKept hWriting).reported ?_
      intro _
      simp [hRefused, hAll, hNone]
  | late ret l hWriting hMore hNone hLog hStays =>
      refine (hKept hWriting).reported ?_
      intro hTimer
      have hNow : r.1 = true := by
        rcases hTimer with hNot | hStay
        · dsimp only at hNot
          rw [hLog] at hNot
          cases hCheck : r.1 with
          | true => rfl
          | false =>
              rw [hCheck] at hNot
              cases hNot
        · exact hStays hStay
      have hNe : n ≠ len := by omega
      rw [if_pos ⟨hNow, hNe⟩]
      dsimp only
      rw [hRefused]
      simp [hNone, hNe]
  | lost err hOver hWrong =>
      have hOver' :=
        overtaken_append hOver [.timerChecked .last r.1]
      constructor
      case right =>
        intro hNo
        have hYes : overtaken ret₀ (_ :: w.log) = true := hOver'
        rw [hNo] at hYes
        cases hYes
      case wrong =>
        intro _ hStays
        have hNe := (hWrong hStays).2
        simpa [taken, Event.taken] using hNe

/- `iot_tls_write`. -/
theorem iotTlsWrite_reported
    (port : Port E)
    (fuel : Nat)
    {len : Nat}
    (hLen : len < 2 ^ 64)
    (msg : Buffer)
    (ret₀ : Int) :
    Triple (Contract.plain (Sys E) Event)
      (Rounding port msg len ret₀
        { writtenSoFar := 0, ret := ret₀ })
      (iotTlsWrite port fuel len ret₀)
      (fun r w => Reported port msg len ret₀ r.1 r.2 w) := by
  refine (writeRounds_ends port fuel hLen msg ret₀).bind ?_
  intro r
  rcases r with ⟨err, n⟩
  cases err with
  | true =>
      apply Triple.pure
      intro w hEnd
      cases hEnd with
      | failed ret hWriting hMore hRefused =>
          refine hWriting.reported ?_
          intro _
          simp [hRefused]
          omega
      | lost err hOver hWrong =>
          constructor
          case right =>
            intro hNo
            rw [hOver] at hNo
            cases hNo
          case wrong =>
            intro _ hStays
            cases (hWrong hStays).1
  | false =>
      refine Triple.bind
        (M := fun expired =>
          Reported port msg len ret₀ (lastCode expired n len)
            n)
        (Triple.step (fun w hEnd => Or.inr hEnd.reported)) ?_
      intro expired
      unfold lastCode
      apply Triple.ite
      · intro hLate
        apply Triple.pure
        intro w hReported
        rwa [if_pos hLate] at hReported
      · intro hNot
        apply Triple.pure
        intro w hReported
        rwa [if_neg hNot] at hReported

/-
  A write whose timer never runs out between the test of the
  outer loop and the call of the library, with something left
  in `ret`, reports what the library accepted, if its timer
  does not waver; and when the timer cannot waver at all, no
  other write does.
-/
theorem iotTlsWrite_accounted_iff
    (port : Port E)
    (fuel : Nat)
    {len : Nat}
    (hLen : len < 2 ^ 64)
    {ret₀ : Int}
    (hInt : IsInt ret₀)
    (s : Sys E)
    {rc : IoTError}
    {written : Nat}
    {w : Run E}
    (hRun :
      (iotTlsWrite port fuel len ret₀).run ⟨s, []⟩ =
        (some (rc, written), w)) :
    (overtaken ret₀ w.log = false → wavers w.log = false →
      WriteAccounted s.msg len rc written w.log) ∧
    (StaysExpired port →
      (WriteAccounted s.msg len rc written w.log ↔
        overtaken ret₀ w.log = false)) := by
  have hStart :
      Rounding port s.msg len ret₀
        { writtenSoFar := 0, ret := ret₀ } ⟨s, []⟩ := by
    refine Or.inl ⟨?_, rfl⟩
    constructor
    case memory => rfl
    case count => rfl
    case inside => exact Nat.zero_le _
    case order => exact (Buffer.load_zero _ _).symm
    case calm => rfl
    case last => rfl
    case int => exact hInt
  rcases (iotTlsWrite_reported port fuel hLen s.msg
      ret₀).of_run hStart hRun with hNo | hReported
  · exact hNo.elim
  refine
    ⟨fun hCalm hTimer => hReported.right hCalm (Or.inl hTimer),
      ?_⟩
  intro hStays
  constructor
  · intro hAccounted
    by_contra hOver
    exact
      hReported.wrong (by simpa using hOver) hStays
        hAccounted.count
  · intro hCalm
    exact hReported.right hCalm (Or.inr hStays)

end Tls

end TrustOnboard

------------------------------------------------------------
-- A Scripted Library
------------------------------------------------------------

namespace TrustOnboard

namespace Tls

/-
  The answers of the timer, which has run out at their end,
  and of the library, which breaks the connection at theirs.
-/
structure Script where
  timers : List Bool
  calls : List (Option Bytes)

/- What a call moves is in range, and so are its codes. -/
theorem part_le (n : Nat) (bs : Bytes) :
    (bs.take (min n (2 ^ 31 - 1))).length ≤ n := by
  rw [List.length_take]
  omega

theorem part_lt (n : Nat) (bs : Bytes) :
    (bs.take (min n (2 ^ 31 - 1))).length < 2 ^ 31 := by
  rw [List.length_take]
  omega

theorem broken_le : (-1 : Int) ≤ 0 := by decide

theorem le_broken : -2 ^ 31 ≤ (-1 : Int) := by decide

theorem wantRead_le : wantRead ≤ 0 := by decide

theorem le_wantRead : -2 ^ 31 ≤ wantRead := by decide

/- A call for `n` bytes moves part of the next segment. -/
def Script.next
    (n : Nat)
    (e : Script) : SslReturn n × Script :=
  match e.calls with
  | [] => (.code (-1) broken_le le_broken, e)
  | none :: rest =>
      (.code (-1) broken_le le_broken,
        { e with calls := rest })
  | some bs :: rest =>
      let part := bs.take (min n (2 ^ 31 - 1))
      if hPos : 0 < part.length then
        (.moved part hPos (part_le n bs) (part_lt n bs),
          { e with calls := rest })
      else
        (.code wantRead wantRead_le le_wantRead,
          { e with calls := rest })

/- The platform of a script. -/
def scriptPort : Port Script where
  hasTimerExpired := fun e =>
    match e.timers with
    | [] => (true, e)
    | b :: rest => (b, { e with timers := rest })
  sslWrite := fun bs e => e.next bs.length
  sslRead := fun n e => e.next n

/- The message `hi`. -/
def greeting : Buffer :=
  fun i => if i = 0 then 104 else 105

/- A message that comes in or goes out in two parts. -/
def inTwoParts : Sys Script where
  msg := greeting
  env := { timers := [false, false, false, false, false]
           calls := [some [104], some [105]] }

theorem iotTlsRead_accounted_inTwoParts :
    ReadAccounted 2 .success (some 2)
      ((iotTlsRead scriptPort 4 2).run
        ⟨inTwoParts, []⟩).2.st
      (received
        ((iotTlsRead scriptPort 4 2).run
          ⟨inTwoParts, []⟩).2.log) :=
  (iotTlsRead_accounted scriptPort 4 2 inTwoParts).2 _ _
    (by decide +kernel)

theorem iotTlsWrite_accounted_iff_inTwoParts :
    ∃ w,
      (iotTlsWrite scriptPort 4 2 0).run ⟨inTwoParts, []⟩ =
          (some (.success, 2), w) ∧
        WriteAccounted greeting 2 .success 2 w.log := by
  have hRun :
      (iotTlsWrite scriptPort 4 2 0).run ⟨inTwoParts, []⟩ =
        (some (.success, 2),
          ((iotTlsWrite scriptPort 4 2 0).run
            ⟨inTwoParts, []⟩).2) :=
    Prod.ext (by decide +kernel) rfl
  have hBoth :=
    iotTlsWrite_accounted_iff scriptPort 4 (by decide)
      ⟨by decide, by decide⟩ inTwoParts hRun
  exact
    ⟨_, hRun,
      hBoth.1 (by decide +kernel) (by decide +kernel)⟩

/-
  The first part goes out, and the timer runs out before the
  second one.
-/
def betweenParts : Sys Script where
  msg := greeting
  env := { timers := [false, false, false]
           calls := [some [104]] }

/- The write reports two bytes, and one was accepted. -/
theorem iotTlsWrite_counts_twice :
    ∃ w,
      (iotTlsWrite scriptPort 4 2 0).run
          ⟨betweenParts, []⟩ = (some (.success, 2), w) ∧
        taken w.log = [104] ∧
          ¬ WriteAccounted greeting 2 .success 2 w.log := by
  have hTaken :
      taken
          ((iotTlsWrite scriptPort 4 2 0).run
            ⟨betweenParts, []⟩).2.log = [104] := by
    decide +kernel
  refine
    ⟨((iotTlsWrite scriptPort 4 2 0).run
      ⟨betweenParts, []⟩).2,
      Prod.ext (by decide +kernel) rfl, hTaken, ?_⟩
  intro hAccounted
  have hCount := hAccounted.count
  rw [hTaken] at hCount
  cases hCount

end Tls

end TrustOnboard
