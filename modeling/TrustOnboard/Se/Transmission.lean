import TrustOnboard.Program.Returns
import TrustOnboard.Program.Triple
import TrustOnboard.Se.MIAS

/-
  What sending a command leaves alone.

  Every form of `transmit` touches the interface and the card
  only, does not depend on the rest of the state, and does
  not depend on its fuel once it returns.

  Key definitions include:
    * `Transmission`

  Key results include:
    * `readBinary_transmission`
    * `Transmission.returns`
    * `Transmission.returns_iff`
-/

------------------------------------------------------------
-- The Shape Of A Transmission
------------------------------------------------------------

namespace TrustOnboard

namespace Se

variable {K : Type}

/- An event that concerns memory. -/
def Event.isMemory : Event → Bool
  | .allocated _ => true
  | .wrote _ _ _ => true
  | _ => false

/- No event of the log concerns memory. -/
def NoMemory (log : List Event) : Prop :=
  ∀ e ∈ log, e.isMemory = false

theorem noMemory_nil : NoMemory [] := by
  intro e he
  cases he

theorem NoMemory.append
    {es l : List Event}
    (hLeft : NoMemory es)
    (hRight : NoMemory l) :
    NoMemory (es ++ l) := by
  intro e he
  rcases List.mem_append.mp he with hNew | hOld
  · exact hLeft e hNew
  · exact hRight e hOld

theorem noMemory_singleton
    {e : Event}
    (hFree : e.isMemory = false) :
    NoMemory [e] := by
  intro e' he
  rw [List.mem_singleton.mp he]
  exact hFree

/- The interface, the card and the key pairs may change. -/
structure OnlySent
    (s s' : Sys K)
    (es : List Event) : Prop where
  applets : s'.applets = s.applets
  block : s'.block = s.block
  record : s'.record = s.record
  events : NoMemory es

/- The state with other memory for a file. -/
def Sys.withBlock
    (b : Buffer)
    (s : Sys K) : Sys K :=
  { s with block := b }

/- A program, for every fuel, that only sends. -/
structure Transmission
    {α : Type}
    (p : Nat → Code K α) : Prop where
  stable : Prog.Stable p
  uses : ∀ n, (p n).Uses OnlySent
  commutes : ∀ b n, Prog.Commutes (Sys.withBlock b) (p n)

namespace Transmission

variable {α β : Type}

theorem pure
    (a : α) :
    Transmission (fun _ => (Pure.pure a : Code K α)) where
  stable := Prog.Stable.const _
  uses := fun _ => Prog.Uses.pure a
  commutes := fun _ _ => Prog.Commutes.pure a

theorem bind
    {p : Nat → Code K α}
    {q : Nat → α → Code K β}
    (hFirst : Transmission p)
    (hRest : ∀ a, Transmission (fun n => q n a)) :
    Transmission (fun n => p n >>= q n) where
  stable := hFirst.stable.bind (fun a => (hRest a).stable)
  uses := fun n => (hFirst.uses n).bind (fun a => (hRest a).uses n)
  commutes := fun b n =>
    (hFirst.commutes b n).bind (fun a => (hRest a).commutes b n)

theorem ite
    {c : Prop}
    [Decidable c]
    {p q : Nat → Code K α}
    (hThen : Transmission p)
    (hElse : Transmission q) :
    Transmission (fun n => if c then p n else q n) := by
  split
  · exact hThen
  · exact hElse

theorem loop
    {σ : Type}
    {body : Nat → σ → Code K (σ ⊕ α)}
    (hBody : ∀ s, Transmission (fun n => body n s))
    (s : σ) :
    Transmission (fun n => Prog.loop n (body n) s) where
  stable := Prog.Stable.loop (fun s => (hBody s).stable) s
  uses := fun n => Prog.Uses.loop (fun s => (hBody s).uses n)
  commutes := fun b n =>
    Prog.Commutes.loop (fun s => (hBody s).commutes b n)

/- Reading what is not the memory for a file. -/
theorem read
    {f : Sys K → α}
    (hBlind : ∀ b s, f (s.withBlock b) = f s) :
    Transmission (fun _ => Prog.read f) where
  stable := Prog.Stable.const _
  uses := fun _ =>
    Prog.Uses.step (fun _ => ⟨rfl, rfl, rfl, noMemory_nil⟩)
  commutes := fun b _ =>
    Prog.Commutes.step (fun s => by rw [hBlind])

theorem setIface
    (f : SEInterface → SEInterface) :
    Transmission (fun _ => (Se.setIface f : Code K Unit)) where
  stable := Prog.Stable.const _
  uses := fun _ =>
    Prog.Uses.step (fun _ => ⟨rfl, rfl, rfl, noMemory_nil⟩)
  commutes := fun _ _ => Prog.Commutes.step (fun _ => rfl)

theorem setKeypairs
    (f : List KeyPair → List KeyPair) :
    Transmission
      (fun _ => (Se.setKeypairs f : Code K Unit)) where
  stable := Prog.Stable.const _
  uses := fun _ =>
    Prog.Uses.step (fun _ => ⟨rfl, rfl, rfl, noMemory_nil⟩)
  commutes := fun _ _ => Prog.Commutes.step (fun _ => rfl)

theorem transmitApdu
    (port : Port K) :
    Transmission (fun _ => Se.transmitApdu port) where
  stable := Prog.Stable.const _
  uses := fun _ =>
    Prog.Uses.step (fun _ =>
      ⟨rfl, rfl, rfl, noMemory_singleton rfl⟩)
  commutes := fun _ _ => Prog.Commutes.step (fun _ => rfl)

theorem transmit
    (port : Port K) :
    Transmission (fun n => Se.transmit port n) := by
  apply loop
  intro _
  apply (transmitApdu port).bind
  intro ok
  apply ite (pure _)
  apply (read (fun _ _ => rfl)).bind
  intro i
  apply ite ((setIface _).bind (fun _ => pure _))
  apply ite ((setIface _).bind (fun _ => pure _))
  exact pure _

theorem examine
    (off : Nat) :
    Transmission (fun _ => (Se.examine off : Code K UInt8)) where
  stable := Prog.Stable.const _
  uses := fun _ =>
    Prog.Uses.step (fun _ =>
      ⟨rfl, rfl, rfl, noMemory_singleton rfl⟩)
  commutes := fun _ _ => Prog.Commutes.step (fun _ => rfl)

/- On the channel of an applet. -/
theorem onChannel
    {name : AppletName}
    {send : Nat → UInt8 → Code K Bool}
    (hSend : ∀ channel,
      Transmission (fun n => send n channel)) :
    Transmission (fun n => Se.onChannel name (send n)) := by
  apply (read (fun _ _ => rfl)).bind
  intro applet
  exact ite (hSend _) (pure _)

/- A transmission together with its status word. -/
theorem succeeds
    {name : AppletName}
    {send : Nat → Code K Bool}
    (hSend : Transmission send) :
    Transmission (fun n => Se.succeeds name (send n)) := by
  apply hSend.bind
  intro ok
  apply ite
  · apply (read (fun _ _ => rfl)).bind
    exact fun sw => pure _
  · exact pure _

/- What a transmission returns, and what it leaves alone. -/
theorem returns
    {p : Nat → Code K α}
    (hSends : Transmission p)
    {w w' : Run K}
    {a : α}
    (hReturns : Prog.Returns p w a w') :
    ∃ es, w'.log = es ++ w.log ∧
      OnlySent w.st w'.st es := by
  rcases hReturns with ⟨n, hRun⟩
  have hFinal : ∃ es, ((p n).run w).2.log = es ++ w.log ∧
      OnlySent w.st ((p n).run w).2.st es := by
    refine Prog.Uses.final (G := fun _ => True)
      (I := fun v => ∃ es, v.log = es ++ w.log ∧
        OnlySent w.st v.st es)
      (hSends.uses n) (fun _ _ _ => trivial) ?_ ?_ trivial
    · rintro s s' es l hStep _ ⟨earlier, hLog, hSent⟩
      refine ⟨es ++ earlier, ?_, ?_⟩
      · change es ++ l = _
        rw [List.append_assoc]
        exact congrArg (es ++ ·) hLog
      · constructor
        case applets => exact hStep.applets.trans hSent.applets
        case block => exact hStep.block.trans hSent.block
        case record => exact hStep.record.trans hSent.record
        case events => exact hStep.events.append hSent.events
    · exact ⟨[], rfl, rfl, rfl, rfl, noMemory_nil⟩
  rw [hRun] at hFinal
  exact hFinal

/-
  What a transmission returns does not depend on the memory
  for a file or on what happened before.
-/
theorem returns_iff
    {p : Nat → Code K α}
    (hSends : Transmission p)
    {s : Sys K}
    {b : Buffer}
    {l : List Event}
    {a : α}
    {w' : Run K} :
    Prog.Returns p ⟨s.withBlock b, l⟩ a w' ↔
      ∃ s' es, Prog.Returns p ⟨s, []⟩ a ⟨s', es⟩ ∧
        w' = ⟨s'.withBlock b, es ++ l⟩ := by
  have hAlone : ∀ n (t : Sys K),
      (p n).run ⟨t, l⟩ =
        (((p n).run ⟨t, []⟩).1,
          ⟨((p n).run ⟨t, []⟩).2.st,
            ((p n).run ⟨t, []⟩).2.log ++ l⟩) :=
    fun n t => Prog.run_from_empty (p n) t [] l
  constructor
  case mp =>
    rintro ⟨n, hRun⟩
    rw [hAlone] at hRun
    have hBare : Prog.Returns p ⟨s.withBlock b, []⟩ a
        ((p n).run ⟨s.withBlock b, []⟩).2 :=
      ⟨n, Prog.run_of_returns (congrArg Prod.fst hRun)⟩
    have hBlock := (hSends.returns hBare).choose_spec.2.block
    have hPlain := Prog.Commutes.returns
      (hSends.commutes s.block) hBare
    refine ⟨_, _, hPlain, ?_⟩
    have hWorld := (congrArg Prod.snd hRun).symm
    dsimp only at hWorld
    rw [hWorld]
    generalize ((p n).run ⟨s.withBlock b, []⟩).2 = v
      at hBlock
    rcases v with ⟨t, es⟩
    dsimp only at hBlock ⊢
    change t.block = b at hBlock
    subst hBlock
    rfl
  case mpr =>
    rintro ⟨s', es, ⟨n, hRun⟩, rfl⟩
    refine ⟨n, ?_⟩
    have hChanged := hSends.commutes b n ⟨s, []⟩
    rw [hRun] at hChanged
    change (p n).run ⟨s.withBlock b, []⟩ = _ at hChanged
    rw [hAlone, hChanged]
    rfl

end Transmission

/- READ BINARY only sends. -/
theorem readBinary_transmission
    (port : Port K)
    (name : AppletName)
    (offset : Nat)
    (le : UInt8) :
    Transmission (fun n => readBinary port n name offset le) := by
  apply Transmission.succeeds
  apply Transmission.onChannel
  intro channel
  exact (Transmission.setIface _).bind
    (fun _ => Transmission.transmit port)

end Se

end TrustOnboard
