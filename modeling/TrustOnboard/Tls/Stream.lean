import TrustOnboard.Mqtt.Conversation
import TrustOnboard.Tls.Accounting

/-
  The connection of the client over the TLS layer.

  The transfers of any library with which they return make a
  network for the client.  Where the library hands over what
  the peer has sent in pieces of any size, and puts callers
  off now and then, this network is a stream of bytes.

  Key definitions include:
    * `Transfers`
    * `Transfers.onto`
    * `Delivers`
    * `Delivers.transfers`

  Key results include:
    * `Delivers.iotTlsRead_stream`
    * `Delivers.iotTlsWrite_stream`
    * `Delivers.streaming`
    * `Delivers.session_piecewise`
-/

------------------------------------------------------------
-- Transfers That Return
------------------------------------------------------------

namespace TrustOnboard

namespace Tls

open Mqtt (IoTError ReadResult WriteResult)

variable {E : Type}
variable {port : Port E}

/- Memory that nothing was stored in. -/
def blank : Buffer :=
  fun _ => 0

/- A read from the start of the memory. -/
def readRun
    (port : Port E)
    (fuel n : Nat)
    (e : E) : Option (IoTError × Option Nat) × Run E :=
  (iotTlsRead port fuel n).run ⟨⟨blank, e⟩, []⟩

/- A write of the bytes at the start of the memory. -/
def writeRun
    (port : Port E)
    (fuel : Nat)
    (ret : Int)
    (bs : Bytes)
    (e : E) : Option (IoTError × Nat) × Run E :=
  (iotTlsWrite port fuel bs.length ret).run
    ⟨⟨blank.store 0 bs, e⟩, []⟩

/-
  A library with which every transfer returns, and no write
  reports more than it was given.  Lengths are values of type
  `size_t`.
-/
structure Transfers (port : Port E) where
  fuel : Nat → Nat
  ret : Int
  reads :
    ∀ n e, (readRun port (fuel n) n e).1.isSome = true
  writes :
    ∀ bs e,
      bs.length < 2 ^ 64 →
        (writeRun port (fuel bs.length) ret bs e).1.isSome =
          true
  counts :
    ∀ bs e r,
      bs.length < 2 ^ 64 →
        (writeRun port (fuel bs.length) ret bs e).1 = some r →
          r.2 ≤ bs.length

/- A read reports what it received. -/
theorem readRun_accounted
    {fuel n : Nat}
    {e : E}
    {r : IoTError × Option Nat}
    (hRun : (readRun port fuel n e).1 = some r) :
    ReadAccounted n r.1 r.2 (readRun port fuel n e).2.st
      (received (readRun port fuel n e).2.log) := by
  exact iotTlsRead_reported port hRun

/- The result of a read, as the client sees it. -/
def readResultOf
    (n : Nat)
    (rc : IoTError)
    (bs : Bytes)
    (hLe : bs.length ≤ n) : ReadResult n :=
  if hAll : bs.length = n then
    .success bs hAll
  else if rc = .networkSslReadError then
    .readError bs (by omega)
  else if hSome : 0 < bs.length then
    .readTimeout bs hSome (by omega)
  else
    .nothingToRead (by omega)

theorem readResultOf_whole
    {rc : IoTError}
    {bs xs : Bytes}
    (hLe : bs.length ≤ xs.length)
    (hEq : bs = xs) :
    readResultOf xs.length rc bs hLe = .success xs rfl := by
  subst hEq
  exact dif_pos rfl

/- The result of a write, as the client sees it. -/
def writeResultOf
    (n : Nat)
    (rc : IoTError)
    (written : Nat)
    (hLe : written ≤ n) : WriteResult n :=
  match rc with
  | .success => .success written hLe
  | .networkSslWriteTimeoutError => .writeTimeout written hLe
  | _ => .writeError written hLe

theorem writeResultOf_whole
    {n : Nat}
    {r : IoTError × Nat}
    (hLe : r.2 ≤ n)
    (hEq : r = (.success, n)) :
    writeResultOf n r.1 r.2 hLe =
      .success n (Nat.le_refl n) := by
  subst hEq
  rfl

namespace Transfers

/- What a read of `n` bytes returns. -/
def readResult
    (t : Transfers port)
    (n : Nat)
    (e : E) : IoTError × Option Nat :=
  (readRun port (t.fuel n) n e).1.get (t.reads n e)

theorem readRun_eq
    (t : Transfers port)
    (n : Nat)
    (e : E) :
    (readRun port (t.fuel n) n e).1 =
      some (t.readResult n e) :=
  (Option.some_get (t.reads n e)).symm

/- `read` of the network, as the client calls it. -/
def netRead
    (t : Transfers port)
    (n : Nat)
    (e : E) : ReadResult n × E :=
  let w := (readRun port (t.fuel n) n e).2
  (readResultOf n (t.readResult n e).1 (received w.log)
      (readRun_accounted (t.readRun_eq n e)).least,
    w.st.env)

/- What a write returns. -/
def writeResult
    (t : Transfers port)
    (bs : Bytes)
    (e : E)
    (hFits : bs.length < 2 ^ 64) : IoTError × Nat :=
  (writeRun port (t.fuel bs.length) t.ret bs e).1.get
    (t.writes bs e hFits)

theorem writeRun_eq
    (t : Transfers port)
    (bs : Bytes)
    (e : E)
    (hFits : bs.length < 2 ^ 64) :
    (writeRun port (t.fuel bs.length) t.ret bs e).1 =
      some (t.writeResult bs e hFits) :=
  (Option.some_get (t.writes bs e hFits)).symm

/- `write` of the network, as the client calls it. -/
def netWrite
    (t : Transfers port)
    (bs : Bytes)
    (e : E) : WriteResult bs.length × E :=
  if hFits : bs.length < 2 ^ 64 then
    let r := t.writeResult bs e hFits
    (writeResultOf bs.length r.1 r.2
        (t.counts bs e r hFits (t.writeRun_eq bs e hFits)),
      (writeRun port (t.fuel bs.length) t.ret bs e).2.st.env)
  else
    -- no array is that long
    (.success bs.length (WriteResult.whole bs), e)

/- The platform whose network goes through the library. -/
def onto
    (t : Transfers port)
    (base : Mqtt.Port E) : Mqtt.Port E :=
  { base with
    netRead := t.netRead
    netWrite := t.netWrite }

/- A read that takes all of its bytes. -/
theorem netRead_whole
    (t : Transfers port)
    {xs : Bytes}
    {e : E}
    (hWhole :
      received
          (readRun port (t.fuel xs.length) xs.length
            e).2.log = xs) :
    (t.netRead xs.length e).1 = .success xs rfl :=
  readResultOf_whole
    (readRun_accounted (t.readRun_eq xs.length e)).least
    hWhole

/- A write that gives all of its bytes. -/
theorem netWrite_whole
    (t : Transfers port)
    {bs : Bytes}
    {e : E}
    {w : Run E}
    (hFits : bs.length < 2 ^ 64)
    (hRun :
      writeRun port (t.fuel bs.length) t.ret bs e =
        (some (.success, bs.length), w)) :
    t.netWrite bs e =
      (.success bs.length (WriteResult.whole bs),
        w.st.env) := by
  have hResult :
      t.writeResult bs e hFits = (.success, bs.length) := by
    apply Option.get_of_eq_some
    exact congrArg Prod.fst hRun
  unfold netWrite
  rw [dif_pos hFits]
  apply Prod.ext
  · exact writeResultOf_whole _ hResult
  · exact congrArg (fun r => r.2.st.env) hRun

end Transfers

end Tls

end TrustOnboard

------------------------------------------------------------
-- Pieces Of A Stream
------------------------------------------------------------

namespace TrustOnboard

namespace Tls

open Mqtt (IoTError)

variable {E : Type}
variable {port : Port E}
variable {rest : E → Bytes}
variable {idle : E → Nat}
variable {limit : Nat}

/- A code a read goes on after. -/
def PutsOff (ret : Int) : Prop :=
  isWant ret = true ∨ ret = sslTimeout

/-
  A library over the connection to a peer that has sent
  `rest` and then closes it.  A call moves a piece of any
  size or puts the caller off, which it does `limit` times in
  a row at most.  The timer does not run out.
-/
structure Delivers
    (port : Port E)
    (rest : E → Bytes)
    (idle : E → Nat)
    (limit : Nat) : Prop where
  idle_le : ∀ e, idle e ≤ limit
  read :
    ∀ n e,
      rest e =
        (port.sslRead n e).1.bytes ++
          rest (port.sslRead n e).2
  read_code :
    ∀ n e,
      0 < n →
        (port.sslRead n e).1.ret ≤ 0 →
          PutsOff (port.sslRead n e).1.ret ∧
              idle (port.sslRead n e).2 < idle e ∨
            ¬ PutsOff (port.sslRead n e).1.ret ∧
              rest e = []
  write : ∀ bs e, rest (port.sslWrite bs e).2 = rest e
  write_code :
    ∀ bs e,
      bs ≠ [] →
        (port.sslWrite bs e).1.ret ≤ 0 →
          isWant (port.sslWrite bs e).1.ret = true ∧
            idle (port.sslWrite bs e).2 < idle e
  in_time : ∀ e, (port.hasTimerExpired e).1 = false
  timer :
    ∀ e,
      rest (port.hasTimerExpired e).2 = rest e ∧
        idle (port.hasTimerExpired e).2 ≤ idle e

/- The codes of an error are not put off. -/
theorem not_putsOff_iff
    {ret : Int}
    (hNot : ret ≤ 0) :
    ¬ PutsOff ret ↔
      ret ≤ 0 ∧
        (ret = 0 ∨ (¬ isWant ret ∧ ret ≠ sslTimeout)) := by
  unfold PutsOff
  constructor
  · intro hNo
    rw [not_or] at hNo
    exact ⟨hNot, Or.inr hNo⟩
  · rintro ⟨_, rfl | hNo⟩
    · decide
    · exact not_or.mpr hNo

/- A read on its way, and what is left of the stream. -/
structure Taking
    (rest : E → Bytes)
    (len : Nat)
    (all : Bytes)
    (v : ReadLocals)
    (w : Run E) : Prop where
  reading : Reading len blank v w
  stream : received w.log ++ rest w.st.env = all

/- How many more calls of the library there can be. -/
def callsLeft
    (idle : E → Nat)
    (limit : Nat)
    (len : Nat)
    (e : E) : Nat :=
  len * (limit + 1) + idle e

/- Moving bytes leaves fewer calls, whatever comes then. -/
theorem callsLeft_moved
    (hLe : ∀ e, idle e ≤ limit)
    {len k : Nat}
    (hPos : 0 < k)
    (hSome : k ≤ len)
    (e e' : E) :
    callsLeft idle limit (len - k) e' <
      callsLeft idle limit len e := by
  have hHere := hLe e'
  obtain ⟨m, rfl⟩ := Nat.exists_eq_add_of_le hSome
  have hSplit :
      (k + m) * (limit + 1) =
        k * (limit + 1) + m * (limit + 1) :=
    Nat.add_mul _ _ _
  have hOne : 1 * (limit + 1) ≤ k * (limit + 1) :=
    Nat.mul_le_mul_right _ hPos
  unfold callsLeft
  rw [Nat.add_sub_cancel_left]
  omega

/- One call of the library in a read. -/
theorem Delivers.sslRead_step
    {C : Contract (Sys E) Event}
    (hDelivers : Delivers port rest idle limit)
    {len : Nat}
    {all : Bytes}
    {v : ReadLocals}
    (hMore : 0 < v.len)
    (n : Nat) :
    Triple C
      (fun w =>
        Taking rest len all v w ∧
          callsLeft idle limit v.len w.st.env = n)
      (sslRead port v.pMsg v.len)
      (fun ret w =>
        (0 < ret ∨ PutsOff ret) ∧
            Taking rest len all (v.after ret) w ∧
              callsLeft idle limit (v.after ret).len
                w.st.env < n ∨
          ret ≤ 0 ∧ ¬ PutsOff ret ∧
            Taking rest len all v w ∧
              rest w.st.env = []) := by
  apply Triple.step
  rintro w ⟨⟨hReading, hStream⟩, rfl⟩
  right
  have hRead := hDelivers.read v.len w.st.env
  have hCode := hDelivers.read_code v.len w.st.env hMore
  revert hRead hCode
  generalize port.sslRead v.len w.st.env = r
  rcases r with ⟨result, env⟩
  intro hRead hCode
  cases result with
  | moved bs hPos hLe hInt =>
      left
      have hSome : (0 : Int) < bs.length := by omega
      dsimp only [SslReturn.ret, SslReturn.bytes] at hRead ⊢
      refine ⟨Or.inl hSome, ?_⟩
      unfold ReadLocals.after
      rw [if_pos hSome, Int.toNat_natCast]
      refine ⟨⟨hReading.moved hLe env, ?_⟩, ?_⟩
      · change
          (received w.log ++ bs) ++ rest env = all
        rw [List.append_assoc, ← hRead]
        exact hStream
      · exact callsLeft_moved hDelivers.idle_le hPos hLe _ _
  | code c hNot hInt =>
      dsimp only [SslReturn.ret, SslReturn.bytes] at hRead hCode ⊢
      rw [List.nil_append] at hRead
      have hTaking :
          Taking rest len all v
            ⟨⟨w.st.msg.store v.pMsg [], env⟩,
              .sslRead v.pMsg [] c :: w.log⟩ := by
        refine ⟨hReading.code c env, ?_⟩
        change (received w.log ++ []) ++ rest env = all
        rw [List.append_nil, ← hRead]
        exact hStream
      rw [ReadLocals.after_code v hNot]
      rcases hCode hNot with ⟨hOff, hLess⟩ | ⟨hNo, hEnd⟩
      · left
        refine ⟨Or.inr hOff, hTaking, ?_⟩
        exact Nat.add_lt_add_left hLess _
      · right
        exact ⟨hNot, hNo, hTaking, hRead.symm.trans hEnd⟩

/- Looking at the timer moves nothing. -/
theorem Delivers.timer_step
    {C : Contract (Sys E) Event}
    (hDelivers : Delivers port rest idle limit)
    {len : Nat}
    {all : Bytes}
    {v : ReadLocals}
    {site : Site}
    (n : Nat) :
    Triple C
      (fun w =>
        Taking rest len all v w ∧
          callsLeft idle limit v.len w.st.env < n)
      (hasTimerExpired port site)
      (fun expired w =>
        expired = false ∧
          Taking rest len all v w ∧
            callsLeft idle limit v.len w.st.env < n) := by
  apply Triple.step
  rintro w ⟨⟨hReading, hStream⟩, hLess⟩
  right
  have hTimer := hDelivers.timer w.st.env
  refine ⟨hDelivers.in_time _, ⟨hReading.skip rfl _, ?_⟩, ?_⟩
  · change (received w.log ++ []) ++ rest _ = all
    rw [List.append_nil, hTimer.1]
    exact hStream
  · exact Nat.lt_of_le_of_lt
      (Nat.add_le_add_left hTimer.2 _) hLess

/-
  A read returns.  It takes its bytes from the front of the
  stream, and is short only where the stream ends.
-/
theorem Delivers.iotTlsRead_stream
    (hDelivers : Delivers port rest idle limit)
    {fuel n : Nat}
    (hFuel : n * (limit + 1) + limit < fuel)
    (e : E) :
    ∃ r w,
      readRun port fuel n e = (some r, w) ∧
        received w.log ++ rest w.st.env = rest e ∧
          (r.1 = .success ∨
            r.1 = .networkSslReadError ∧
              rest w.st.env = []) := by
  have hLoop :
      Triple (Contract.total (Sys E) Event)
        (fun w =>
          Taking rest n (rest e)
              { pMsg := 0, len := n, rxLen := 0 } w ∧
            callsLeft idle limit n w.st.env < fuel)
        (iotTlsRead port fuel n)
        (fun r w =>
          received w.log ++ rest w.st.env = rest e ∧
            (r.1 = .success ∨
              r.1 = .networkSslReadError ∧
                rest w.st.env = [])) := by
    refine
      Triple.loop_measured (Taking rest n (rest e))
        (fun v w => callsLeft idle limit v.len w.st.env) ?_
        fuel _
    intro v k
    apply Triple.ite
    · intro hMore
      refine (hDelivers.sslRead_step hMore k).bind ?_
      intro ret
      apply Triple.ite
      · intro hError
        apply Triple.pure
        rintro w (⟨hGoes, _⟩ | ⟨_, _, hTaking, hEnd⟩)
        · rcases hGoes with hPos | hOff
          · omega
          · exact
              absurd hOff
                ((not_putsOff_iff hError.1).mpr hError)
        · exact ⟨hTaking.stream, Or.inr ⟨rfl, hEnd⟩⟩
      · intro hOn
        refine
          Triple.bind
            (M := fun expired w =>
              expired = false ∧
                Taking rest n (rest e) (v.after ret) w ∧
                  callsLeft idle limit (v.after ret).len
                    w.st.env < k) ?_ ?_
        · apply (hDelivers.timer_step k).pre
          rintro w (⟨_, hTaking⟩ | ⟨hNot, hNo, _⟩)
          · exact hTaking
          · exact absurd ((not_putsOff_iff hNot).mp hNo) hOn
        · intro expired
          apply Triple.of_fact
          rintro rfl
          exact Triple.pure (fun _ h => h)
    · intro hDone
      apply Triple.pure
      rintro w ⟨hTaking, _⟩
      refine ⟨hTaking.stream, Or.inl ?_⟩
      unfold readResult
      rw [if_pos (Nat.eq_zero_of_not_pos hDone)]
  have hStart :
      Taking rest n (rest e)
        { pMsg := 0, len := n, rxLen := 0 }
        ⟨⟨blank, e⟩, []⟩ := by
    refine ⟨?_, rfl⟩
    constructor
    case count => rfl
    case place => rfl
    case left => exact Nat.zero_add n
    case stored => exact Buffer.load_zero _ _
    case untouched => exact fun _ _ => rfl
  have hLimit := hDelivers.idle_le e
  have hEnough : callsLeft idle limit n e < fuel := by
    unfold callsLeft
    omega
  rcases hLoop.returns ⟨hStart, hEnough⟩ with
    ⟨r, w, hRun, hResult⟩
  exact ⟨r, w, hRun, hResult⟩

end Tls

end TrustOnboard

------------------------------------------------------------
-- Writing To It
------------------------------------------------------------

namespace TrustOnboard

namespace Tls

open Mqtt (IoTError)

variable {E : Type}
variable {port : Port E}
variable {rest : E → Bytes}
variable {idle : E → Nat}
variable {limit : Nat}
variable {C : Contract (Sys E) Event}

/- A write on its way: the library has taken `n` bytes. -/
structure Giving
    (rest : E → Bytes)
    (msg : Buffer)
    (ys : Bytes)
    (n : Nat)
    (w : Run E) : Prop where
  memory : w.st.msg = msg
  order : taken w.log = msg.load 0 n
  stream : rest w.st.env = ys

/- Looking at the timer gives nothing away. -/
theorem Delivers.giving_timer
    (hDelivers : Delivers port rest idle limit)
    {msg : Buffer}
    {ys : Bytes}
    {n k : Nat}
    {site : Site} :
    Triple C
      (fun w => Giving rest msg ys n w ∧ idle w.st.env ≤ k)
      (hasTimerExpired port site)
      (fun expired w =>
        expired = false ∧
          Giving rest msg ys n w ∧ idle w.st.env ≤ k) := by
  apply Triple.step
  rintro w ⟨⟨hMemory, hOrder, hStream⟩, hIdle⟩
  right
  have hTimer := hDelivers.timer w.st.env
  refine
    ⟨hDelivers.in_time _, ⟨hMemory, ?_, ?_⟩,
      hTimer.2.trans hIdle⟩
  · change taken w.log ++ [] = _
    rw [List.append_nil]
    exact hOrder
  · exact hTimer.1.trans hStream

/- One call of the library in a write. -/
theorem Delivers.sslWrite_step
    (hDelivers : Delivers port rest idle limit)
    {msg : Buffer}
    {ys : Bytes}
    {n len k : Nat}
    (hMore : n < len) :
    Triple C
      (fun w => Giving rest msg ys n w ∧ idle w.st.env ≤ k)
      (sslWrite port n (len - n))
      (fun ret w =>
        (∃ m : Nat,
            ret = m ∧ 0 < m ∧ n + m ≤ len ∧
              Giving rest msg ys (n + m) w) ∨
          ret ≤ 0 ∧ isWant ret = true ∧
            Giving rest msg ys n w ∧ idle w.st.env < k) := by
  apply Triple.step
  rintro w ⟨⟨hMemory, hOrder, hStream⟩, hIdle⟩
  right
  have hLength :
      (w.st.msg.load n (len - n)).length = len - n :=
    Buffer.length_load _ _ _
  have hSome : w.st.msg.load n (len - n) ≠ [] := by
    apply List.ne_nil_of_length_pos
    omega
  have hWrite :=
    hDelivers.write (w.st.msg.load n (len - n)) w.st.env
  have hCode :=
    hDelivers.write_code (w.st.msg.load n (len - n)) w.st.env
      hSome
  dsimp only
  revert hWrite hCode
  generalize
    port.sslWrite (w.st.msg.load n (len - n)) w.st.env = r
  rcases r with ⟨result, env⟩
  intro hWrite hCode
  cases result with
  | moved bs hPos hLe hInt =>
      left
      rw [hLength] at hLe
      refine ⟨bs.length, rfl, hPos, by omega, hMemory, ?_,
        hWrite.trans hStream⟩
      change
        taken w.log ++
            (w.st.msg.load n (len - n)).take bs.length =
          msg.load 0 (n + bs.length)
      rw [hOrder, hMemory, Buffer.take_load _ _ hLe,
        Buffer.load_add, Nat.zero_add]
  | code c hNot hInt =>
      right
      rcases hCode hNot with ⟨hWant, hLess⟩
      refine ⟨hNot, hWant, ⟨hMemory, ?_, ?_⟩, ?_⟩
      · change
          taken w.log ++
              (w.st.msg.load n (len - n)).take 0 =
            msg.load 0 n
        rw [List.take_zero, List.append_nil]
        exact hOrder
      · exact hWrite.trans hStream
      · exact Nat.lt_of_lt_of_le hLess hIdle

/- The inner loop gives the library a piece. -/
theorem Delivers.writeAttempts_gives
    (hDelivers : Delivers port rest idle limit)
    {msg : Buffer}
    {ys : Bytes}
    {n len fuel : Nat}
    (hMore : n < len)
    (hFuel : limit < fuel)
    (ret : Int) :
    Triple C (Giving rest msg ys n)
      (writeAttempts port fuel n len ret)
      (fun r w =>
        r.1 = false ∧
          ∃ m : Nat,
            r.2 = m ∧ 0 < m ∧ n + m ≤ len ∧
              Giving rest msg ys (n + m) w) := by
  refine
    Triple.pre
      (Triple.loop_measured
        (fun _ => Giving rest msg ys n)
        (fun _ w => idle w.st.env) ?_ fuel ret) ?_
  · intro s k
    refine Triple.bind
      (M := fun expired w =>
        expired = false ∧
          Giving rest msg ys n w ∧ idle w.st.env ≤ k) ?_ ?_
    · apply hDelivers.giving_timer.pre
      intro w hP
      exact ⟨hP.1, Nat.le_of_eq hP.2⟩
    intro expired
    apply Triple.of_fact
    rintro rfl
    refine Triple.ite (fun hNo => by cases hNo) ?_
    intro _
    refine (hDelivers.sslWrite_step hMore).bind ?_
    intro ret
    apply Triple.ite
    · intro hNot
      apply Triple.ite
      · intro hError
        apply Triple.pure
        rintro w (⟨m, rfl, hPos, _⟩ | ⟨_, hWant, _⟩)
        · omega
        · exact absurd hWant hError
      · intro _
        apply Triple.pure
        rintro w (⟨m, rfl, hPos, _⟩ | ⟨_, _, hGiving, hLess⟩)
        · omega
        · exact ⟨hGiving, hLess⟩
    · intro hSome
      apply Triple.pure
      rintro w (hMoved | ⟨hNot, _⟩)
      · exact ⟨rfl, hMoved⟩
      · exact absurd hNot hSome
  · intro w hGiving
    have hLimit := hDelivers.idle_le w.st.env
    exact ⟨hGiving, by omega⟩

/- The outer loop gives it all of the pieces. -/
theorem Delivers.writeRounds_gives
    (hDelivers : Delivers port rest idle limit)
    {msg : Buffer}
    {ys : Bytes}
    {len fuel : Nat}
    (hFits : len < 2 ^ 64)
    (hFuel : limit < fuel)
    (hRounds : len < fuel)
    (ret : Int) :
    Triple C (Giving rest msg ys 0)
      (writeRounds port fuel len ret)
      (fun r w =>
        r = (false, len) ∧ Giving rest msg ys len w) := by
  refine
    Triple.pre
      (Triple.loop_measured
        (fun (v : WriteLocals) w =>
          v.writtenSoFar ≤ len ∧
            Giving rest msg ys v.writtenSoFar w)
        (fun v _ => len - v.writtenSoFar) ?_ fuel _) ?_
  · intro v k
    apply Triple.ite
    · intro hMore
      refine
        Triple.pre
          (A := fun w =>
            len - v.writtenSoFar = k ∧
              Giving rest msg ys v.writtenSoFar w ∧
                idle w.st.env ≤ limit)
          (Triple.of_fact ?_) ?_
      swap
      · intro w hP
        exact ⟨hP.2, hP.1.2, hDelivers.idle_le _⟩
      intro hMeasure
      refine hDelivers.giving_timer.bind ?_
      intro expired
      apply Triple.of_fact
      rintro rfl
      refine Triple.ite (fun hNo => by cases hNo) ?_
      intro _
      refine Triple.pre ?_ (fun _ hP => And.left hP)
      refine
        (hDelivers.writeAttempts_gives hMore hFuel
          v.ret).bind ?_
      intro r
      apply Triple.of_fact
      intro hFalse
      refine Triple.ite
        (fun hNo => absurd (hFalse.symm.trans hNo) nofun) ?_
      intro _
      apply Triple.pure
      rintro w ⟨m, hRet, hPos, hLe, hGiving⟩
      rw [hRet, addInt_natCast (by omega)]
      exact ⟨⟨hLe, hGiving⟩, by dsimp only; omega⟩
    · intro hDone
      apply Triple.pure
      rintro w ⟨⟨hLe, hGiving⟩, _⟩
      have hAll : v.writtenSoFar = len := by omega
      rw [hAll] at hGiving ⊢
      exact ⟨rfl, hGiving⟩
  · intro w hGiving
    exact ⟨⟨Nat.zero_le _, hGiving⟩, by dsimp only; omega⟩

/-
  A write returns with success, and the library was given all
  of its bytes in order.
-/
theorem Delivers.iotTlsWrite_stream
    (hDelivers : Delivers port rest idle limit)
    {fuel : Nat}
    {bs : Bytes}
    (hFits : bs.length < 2 ^ 64)
    (hFuel : limit < fuel)
    (hRounds : bs.length < fuel)
    (ret : Int)
    (e : E) :
    ∃ w,
      writeRun port fuel ret bs e =
        (some (.success, bs.length), w) ∧
      taken w.log = bs ∧ rest w.st.env = rest e := by
  have hAll :
      Triple (Contract.total (Sys E) Event)
        (Giving rest (blank.store 0 bs) (rest e) 0)
        (iotTlsWrite port fuel bs.length ret)
        (fun r w =>
          r = (.success, bs.length) ∧
            Giving rest (blank.store 0 bs) (rest e) bs.length
              w) := by
    refine
      (hDelivers.writeRounds_gives hFits hFuel hRounds
        ret).bind ?_
    intro r
    apply Triple.of_fact
    rintro rfl
    refine Triple.ite (fun hNo => by cases hNo) ?_
    intro _
    apply
      Triple.bind
        ((hDelivers.giving_timer (k := limit)).pre
          (fun w hGiving =>
            ⟨hGiving, hDelivers.idle_le w.st.env⟩))
    intro expired
    apply Triple.of_fact
    rintro rfl
    refine Triple.ite (fun hNo => by cases hNo.1) ?_
    intro _
    exact Triple.pure (fun _ hP => ⟨rfl, hP.1⟩)
  have hStart :
      Giving rest (blank.store 0 bs) (rest e) 0
        ⟨⟨blank.store 0 bs, e⟩, []⟩ :=
    ⟨rfl, (Buffer.load_zero _ _).symm, rfl⟩
  rcases hAll.returns hStart with
    ⟨r, w, hRun, rfl, hGiving⟩
  refine ⟨w, hRun, ?_, hGiving.stream⟩
  rw [hGiving.order, Buffer.load_store_self]

end Tls

end TrustOnboard

------------------------------------------------------------
-- The Network Of The Client
------------------------------------------------------------

namespace TrustOnboard

namespace Tls

open Mqtt (IoTError ReadResult WriteResult)

variable {E : Type}
variable {port : Port E}
variable {rest : E → Bytes}
variable {idle : E → Nat}
variable {limit : Nat}

/- Fuel that is enough for a transfer. -/
def enough (limit n : Nat) : Nat :=
  n * (limit + 1) + limit + 1

theorem enough_limit (limit n : Nat) :
    limit < enough limit n := by
  unfold enough
  omega

theorem enough_rounds (limit n : Nat) :
    n < enough limit n := by
  have hOne : n * 1 ≤ n * (limit + 1) :=
    Nat.mul_le_mul_left _ (Nat.succ_pos limit)
  unfold enough
  omega

/- With such a library every transfer returns. -/
def Delivers.transfers
    (hDelivers : Delivers port rest idle limit)
    (ret : Int) : Transfers port where
  fuel := enough limit
  ret := ret
  reads := by
    intro n e
    rcases hDelivers.iotTlsRead_stream
        (Nat.lt_succ_self (n * (limit + 1) + limit)) e with
      ⟨r, w, hRun, _⟩
    unfold enough
    rw [hRun]
    rfl
  writes := by
    intro bs e hFits
    rcases hDelivers.iotTlsWrite_stream hFits
        (enough_limit limit bs.length)
        (enough_rounds limit bs.length) ret e with
      ⟨w, hRun, _⟩
    rw [hRun]
    rfl
  counts := by
    intro bs e r hFits hEq
    rcases hDelivers.iotTlsWrite_stream hFits
        (enough_limit limit bs.length)
        (enough_rounds limit bs.length) ret e with
      ⟨w, hRun, _⟩
    rw [hRun] at hEq
    cases hEq
    exact Nat.le_refl _

/-
  What a platform does besides its network: it leaves the
  connection alone, one of its timers does not run out, its
  callbacks make no calls, and no other thread holds a mutex.
-/
structure Leaves
    (base : Mqtt.Port E)
    (timer : Mqtt.TimerName)
    (rest : E → Bytes) : Prop where
  hasTimerExpired :
    ∀ timer' e,
      rest (base.hasTimerExpired timer' e).2 = rest e
  in_time : ∀ e, (base.hasTimerExpired timer e).1 = false
  countdown :
    ∀ timer' span e,
      rest (base.countdown timer' span e) = rest e
  onMessage :
    ∀ handler data msg e,
      (base.onMessage handler data msg e).1 = [] ∧
        rest (base.onMessage handler data msg e).2 = rest e
  mutexTrylock :
    ∀ m e,
      (base.mutexTrylock m e).1 = true ∧
        rest (base.mutexTrylock m e).2 = rest e

/- A read of bytes that are there takes them. -/
theorem Delivers.readRun_ahead
    (hDelivers : Delivers port rest idle limit)
    {xs ys : Bytes}
    {e : E}
    (hAhead : rest e = xs ++ ys) :
    let w := (readRun port (enough limit xs.length) xs.length
      e).2
    received w.log = xs ∧ rest w.st.env = ys := by
  intro w
  rcases hDelivers.iotTlsRead_stream
      (Nat.lt_succ_self (xs.length * (limit + 1) + limit))
      e with
    ⟨r, w', hRun, hStream, hCode⟩
  have hRead :=
    readRun_accounted (congrArg Prod.fst hRun)
  have hSame : w = w' := congrArg Prod.snd hRun
  rw [hRun] at hRead
  rw [hAhead] at hStream
  have hLength : (received w'.log).length = xs.length := by
    rcases hCode with hEq | ⟨_, hEnd⟩
    · exact hRead.success_iff.mp hEq
    · have hLeast : (received w'.log).length ≤ xs.length :=
        hRead.least
      have hAll := congrArg List.length hStream
      rw [hEnd, List.append_nil, List.length_append] at hAll
      omega
  rw [hSame]
  exact List.append_inj hStream hLength

/-
  Over a library that delivers what the peer has sent piece
  by piece, the network of the client is a stream.
-/
theorem Delivers.streaming
    (hDelivers : Delivers port rest idle limit)
    (ret : Int)
    (base : Mqtt.Port E)
    (timer : Mqtt.TimerName)
    (hLeaves : Leaves base timer rest) :
    Mqtt.Streaming ((hDelivers.transfers ret).onto base)
      timer rest where
  read := by
    intro e xs ys hAhead
    have hTaken := hDelivers.readRun_ahead hAhead
    exact
      ⟨(hDelivers.transfers ret).netRead_whole hTaken.1,
        hTaken.2⟩
  write := by
    intro bs e
    change
      ((hDelivers.transfers ret).netWrite bs e).1 = _ ∧
        rest ((hDelivers.transfers ret).netWrite bs e).2 =
          rest e
    by_cases hFits : bs.length < 2 ^ 64
    · rcases hDelivers.iotTlsWrite_stream hFits
          (enough_limit limit bs.length)
          (enough_rounds limit bs.length) ret e with
        ⟨w, hRun, _, hRest⟩
      rw [(hDelivers.transfers ret).netWrite_whole hFits
        hRun]
      exact ⟨rfl, hRest⟩
    · unfold Transfers.netWrite
      rw [dif_neg hFits]
      exact ⟨rfl, rfl⟩
  hasTimerExpired := hLeaves.hasTimerExpired
  in_time := hLeaves.in_time
  countdown := hLeaves.countdown
  onMessage := hLeaves.onMessage
  mutexTrylock := hLeaves.mutexTrylock

end Tls

end TrustOnboard

------------------------------------------------------------
-- A Library That Trickles
------------------------------------------------------------

namespace TrustOnboard

namespace Tls

open Mqtt (ReadResult WriteResult)

/-
  A connection on which every other call moves one byte, and
  the calls between them put the caller off.
-/
structure Trickle where
  ahead : Bytes
  due : Bool

/- The calls until a byte is moved. -/
def Trickle.idle (e : Trickle) : Nat :=
  if e.due then 0 else 1

theorem wantWrite_le : wantWrite ≤ 0 := by decide

theorem le_wantWrite : -2 ^ 31 ≤ wantWrite := by decide

theorem closed_le : (0 : Int) ≤ 0 := Int.le_refl 0

theorem le_closed : -2 ^ 31 ≤ (0 : Int) := by decide

theorem not_putsOff_closed : ¬ PutsOff 0 := by
  rintro (hNo | hNo)
  · cases hNo
  · cases hNo

theorem one_lt : 1 < 2 ^ 31 := by decide

theorem not_one_le : ¬ ((1 : Nat) : Int) ≤ 0 := by decide

/- The library of such a connection. -/
def tricklePort : Port Trickle where
  hasTimerExpired := fun e => (false, e)
  sslWrite := fun bs e =>
    match bs, e.due with
    | b :: _, true =>
        (.moved [b] (Nat.succ_pos 0) (Nat.le_add_left 1 _)
          one_lt, { e with due := false })
    | _, _ =>
        (.code wantWrite wantWrite_le le_wantWrite,
          { e with due := true })
  sslRead := fun n e =>
    match n, e.ahead, e.due with
    | _, [], _ => (.code 0 closed_le le_closed, e)
    | n + 1, b :: bs, true =>
        (.moved [b] (Nat.succ_pos 0) (Nat.le_add_left 1 n)
          one_lt, { ahead := bs, due := false })
    | _, _, _ =>
        (.code wantRead wantRead_le le_wantRead,
          { e with due := true })

theorem delivers_trickle :
    Delivers tricklePort Trickle.ahead Trickle.idle 1 where
  idle_le := by
    intro e
    unfold Trickle.idle
    split
    · exact Nat.zero_le 1
    · exact Nat.le_refl 1
  read := by
    rintro n ⟨ahead, due⟩
    rcases n with _ | n <;> rcases ahead with _ | ⟨b, bs⟩ <;>
      cases due <;> rfl
  read_code := by
    rintro n ⟨ahead, due⟩ hPos hCode
    obtain ⟨n, rfl⟩ := Nat.exists_eq_add_of_le' hPos
    cases ahead with
    | nil => exact Or.inr ⟨not_putsOff_closed, rfl⟩
    | cons b bs =>
        cases due with
        | false =>
            exact Or.inl ⟨Or.inl rfl, Nat.succ_pos 0⟩
        | true => exact absurd hCode not_one_le
  write := by
    rintro bs ⟨ahead, due⟩
    cases bs <;> cases due <;> rfl
  write_code := by
    rintro bs ⟨ahead, due⟩ hSome hCode
    cases bs with
    | nil => exact absurd rfl hSome
    | cons b bs =>
        cases due with
        | false => exact ⟨rfl, Nat.succ_pos 0⟩
        | true => exact absurd hCode not_one_le
  in_time := fun _ => rfl
  timer := fun _ => ⟨rfl, Nat.le_refl _⟩

/- A platform whose own network nothing uses. -/
def bareBase : Mqtt.Port Trickle where
  threadSupport := false
  txBufLen := 64
  rxBufLen := 64
  minReconnectWaitInterval := 1000
  maxReconnectWaitInterval := 128000
  hasTimerExpired := fun _ e => (false, e)
  countdown := fun _ _ e => e
  tlsInit := fun e => (.success, e)
  netConnect := fun e => (.success, e)
  netRead := fun n e =>
    (.success (List.replicate n 0) List.length_replicate, e)
  netWrite := fun bs e =>
    (.writeError 0 (Nat.zero_le bs.length), e)
  netDisconnect := fun e => e
  netDestroy := fun e => (.success, e)
  netIsConnected := fun e =>
    (.networkPhysicalLayerConnected, e)
  mutexTrylock := fun _ e => (true, e)
  onMessage := fun _ _ _ e => ([], e)
  onDisconnect := fun _ _ e => ([], e)

theorem leaves_bareBase
    (timer : Mqtt.TimerName) :
    Leaves bareBase timer Trickle.ahead where
  hasTimerExpired := fun _ _ => rfl
  in_time := fun _ => rfl
  countdown := fun _ _ _ => rfl
  onMessage := fun _ _ _ _ => ⟨rfl, rfl⟩
  mutexTrylock := fun _ _ => ⟨rfl, rfl⟩

theorem linked_bareBase :
    Mqtt.Linked bareBase Trickle.ahead where
  connect := fun _ => ⟨rfl, rfl⟩
  disconnect := fun _ => rfl
  destroy := fun _ => ⟨rfl, rfl⟩

end Tls

end TrustOnboard

------------------------------------------------------------
-- Sessions Over It
------------------------------------------------------------

namespace TrustOnboard

namespace Tls

open Mqtt (Ahead ApiCall CallRun Conversation Exchange)
open Mqtt (Linked MessageHandlers Went)
open Mqtt (conversationEffects heardPing heardStream)

variable {E : Type}
variable {port : Port E}
variable {rest : E → Bytes}
variable {idle : E → Nat}
variable {limit : Nat}

/-
  A session of the client over the TLS layer, whatever the
  pieces are in which the library moves the bytes: its calls
  succeed, and every packet of the peer has its effects once
  and in the order of the stream.
-/
theorem Delivers.session_piecewise
    (hDelivers : Delivers port rest idle limit)
    (ret : Int)
    (base : Mqtt.Port E)
    (hLeaves : Leaves base .command rest)
    (hLinked : Linked base rest)
    (fuel : Nat)
    (calls : List ApiCall)
    (xs : List Exchange)
    (w : Mqtt.Run E)
    (ys : Bytes)
    (hReady : w.st.client.Ready base)
    (hTalk : Conversation fuel w.st.client calls xs)
    (hAhead : rest w.st.env = heardStream xs ++ ys) :
    ∃ w',
      CallRun ((hDelivers.transfers ret).onto base) w
        (calls.map (fun call => (call, .success))) w' ∧
      Went (w.st.client.askedAll calls) w.log
        (Ahead rest ys)
        (conversationEffects w.st.client calls xs)
        (heardPing xs w.st.client.readBufSize) w' := by
  have hStream :=
    hDelivers.streaming ret base .command hLeaves
  have hOver :
      Linked ((hDelivers.transfers ret).onto base) rest :=
    ⟨hLinked.connect, hLinked.disconnect, hLinked.destroy⟩
  have hReady' :
      w.st.client.Ready
        ((hDelivers.transfers ret).onto base) :=
    ⟨hReady.free, hReady.room_read, hReady.room_ack⟩
  exact
    hTalk.run hStream hOver w ⟨_, _, _, rfl⟩ hReady' hAhead

/- A whole session, one byte at a time. -/
theorem Delivers.session_trickle :
    ∃ w' es,
      CallRun ((delivers_trickle.transfers 0).onto bareBase)
        ⟨⟨Mqtt.newcomer.st.client,
          ⟨heardStream Mqtt.wholeExchanges, false⟩⟩, []⟩
        (Mqtt.wholeCalls.map (fun call => (call, .success)))
        w' ∧
      w'.log = es ∧
        Mqtt.effects es =
          conversationEffects Mqtt.newcomer.st.client
            Mqtt.wholeCalls Mqtt.wholeExchanges ∧
        w'.st.env.ahead = [] := by
  rcases
      delivers_trickle.session_piecewise 0 bareBase
        (leaves_bareBase .command) linked_bareBase 20
        Mqtt.wholeCalls Mqtt.wholeExchanges
        ⟨⟨Mqtt.newcomer.st.client,
          ⟨heardStream Mqtt.wholeExchanges, false⟩⟩, []⟩ []
        ⟨nofun, Nat.zero_lt_succ 63,
          Nat.le_of_ble_eq_true rfl⟩
        Mqtt.conversation_whole
        (List.append_nil _).symm with
    ⟨w', hRun, hWent⟩
  rcases hWent.log with ⟨es, hLog, hEffects⟩
  refine ⟨w', es, hRun, ?_, hEffects, hWent.env⟩
  rw [hLog]
  exact List.append_nil _

end Tls

end TrustOnboard
