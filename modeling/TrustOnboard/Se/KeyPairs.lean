import TrustOnboard.Se.FileCard

/-
  The key pairs of a containers file, and what is found when
  a container is looked up in them.

  The number of a container is kept in four bits of the key
  id, and for keys of two sizes only.

  Key definitions include:
    * `InfoRecord`
    * `keyPairs`
    * `FindsKey`
    * `Distinguished`

  Key results include:
    * `lookup_finds_iff`
-/

------------------------------------------------------------
-- Records
------------------------------------------------------------

namespace TrustOnboard

namespace Se

/- A record of the containers file. -/
structure InfoRecord where
  bytes : Bytes
  hLength : bytes.length = 0x0B

namespace InfoRecord

/- The container is in use. -/
def inUse (r : InfoRecord) : Bool :=
  r.bytes.getD 0 0 != 0

/- Without the size of a signature key it is for both. -/
def decrypts (r : InfoRecord) : Bool :=
  word (r.bytes.getD 4 0) (r.bytes.getD 5 0) == 0

/- The size of the key in bits. -/
def size (r : InfoRecord) : Nat :=
  if r.decrypts then
    word (r.bytes.getD 6 0) (r.bytes.getD 7 0)
  else
    word (r.bytes.getD 4 0) (r.bytes.getD 5 0)

/- The sizes that a key id is made for. -/
def isSupported (r : InfoRecord) : Bool :=
  r.size == 0x400 || r.size == 0x800

/- The kind of a key, in the high bits of its id. -/
def keyKind (r : InfoRecord) : Option UInt8 :=
  if r.size = 0x400 then
    some (if r.decrypts then 0x10 else 0x20)
  else if r.size = 0x800 then
    some (if r.decrypts then 0x30 else 0x40)
  else
    none

/- The key id that a record and its number determine. -/
def keyId (r : InfoRecord) (number : Nat) : Option UInt8 :=
  r.keyKind.map (fun kind => kind ||| .ofNat (number + 1))

/- The key pair made from a record, over fresh memory. -/
def keyPair
    (r : InfoRecord)
    (fresh : Nat → UInt8)
    (number : Nat) : KeyPair :=
  keyPairOfRecord (contentOf r.bytes) (number % 2 ^ 8)
    (fresh number)

/- The key id in it. -/
def kid
    (r : InfoRecord)
    (fresh : Nat → UInt8)
    (number : Nat) : UInt8 :=
  (r.keyId number).getD (fresh number)

end InfoRecord

/- The key pairs of records, with the number of the first. -/
def keyPairs
    (fresh : Nat → UInt8) :
    Nat → List InfoRecord → List KeyPair
  | _, [] => []
  | number, r :: rest =>
      (if r.inUse then [r.keyPair fresh number] else []) ++
        keyPairs fresh (number + 1) rest

/-
  A key pair is the one of a record: its size and flags, and
  a key id that the record determines and no other one has.
-/
structure IsKeyOf
    (records : List InfoRecord)
    (fresh : Nat → UInt8)
    (c : Nat)
    (r : InfoRecord)
    (kp : KeyPair) : Prop where
  size : kp.sizeInBits.toNat = r.size
  signature : kp.flags &&& signatureKeyPairFlag ≠ 0
  decryption :
    kp.flags &&& decryptionKeyPairFlag ≠ 0 ↔
      r.decrypts = true
  determined : r.keyId c = some kp.kid
  distinct :
    ∀ j r', j ≠ c → records[j]? = some r' →
      r'.inUse = true → r'.kid fresh j ≠ kp.kid

/- What looking up a container has to come to. -/
structure FindsKey
    (records : List InfoRecord)
    (fresh : Nat → UInt8)
    (c : Nat)
    (result : Option KeyPair) : Prop where
  found :
    result.isSome = true ↔
      ∃ r, records[c]? = some r ∧ r.inUse = true
  key :
    ∀ kp r, result = some kp → records[c]? = some r →
      IsKeyOf records fresh c r kp

/-
  A container below 15 is distinguished if every key in use
  has a size that is supported and no other one is in use
  whose number has the same last four bits; a container from
  15 on, if it is not in use.
-/
def Distinguished
    (records : List InfoRecord)
    (c : Nat) : Prop :=
  if c < 15 then
    ∀ j r, records[j]? = some r → r.inUse = true →
      r.isSupported = true ∧ (j % 2 ^ 4 = c → j = c)
  else
    ∀ r, records[c]? = some r → r.inUse = false

end Se

end TrustOnboard

------------------------------------------------------------
-- The Key Pair Of A Record
------------------------------------------------------------

namespace TrustOnboard

namespace Se

namespace InfoRecord

variable (r : InfoRecord)
variable (fresh : Nat → UInt8)
variable (number : Nat)

theorem ofNat_mod_add_one :
    UInt8.ofNat (number % 2 ^ 8 + 1) =
      UInt8.ofNat (number + 1) := by
  apply UInt8.toNat_inj.mp
  rw [UInt8.toNat_ofNat', UInt8.toNat_ofNat']
  omega

theorem keyPair_eq :
    r.keyPair fresh number =
      { kid := r.kid fresh number
        flags :=
          (if r.decrypts then
            signatureKeyPairFlag ||| decryptionKeyPairFlag
          else signatureKeyPairFlag) |||
            (if r.isSupported then rsaKeyPairFlag else 0)
        sizeInBits := .ofNat r.size
        pubFileId := (0, 0)
        hasCert := false } := by
  unfold keyPair keyPairOfRecord kid keyId keyKind
    isSupported
  have hAt : ∀ i, contentOf r.bytes i = r.bytes.getD i 0 :=
    fun i => rfl
  have hSize :
      (if (word (contentOf r.bytes 4)
            (contentOf r.bytes 5) == 0) = true then
          word (contentOf r.bytes 6) (contentOf r.bytes 7)
        else word (contentOf r.bytes 4)
          (contentOf r.bytes 5)) = r.size := by
    simp only [hAt]
    rfl
  have hDecrypts :
      (word (contentOf r.bytes 4) (contentOf r.bytes 5) ==
        0) = r.decrypts := by
    simp only [hAt]
    rfl
  dsimp only
  rw [hSize, hDecrypts, ofNat_mod_add_one]
  by_cases hSmall : r.size = 0x400
  · simp [hSmall]
  · by_cases hLarge : r.size = 0x800
    · simp [hLarge]
    · simp [hSmall, hLarge]

end InfoRecord

end Se

end TrustOnboard

------------------------------------------------------------
-- Containers In Key Ids
------------------------------------------------------------

namespace TrustOnboard

namespace Se

variable {r : InfoRecord}
variable {fresh : Nat → UInt8}
variable {number c : Nat}

/- The low four bits of a key id with a kind. -/
theorem toNat_kind_or
    {kind : UInt8}
    (hKind : kind &&& 0x0F = 0)
    (x : UInt8) :
    ((kind ||| x) &&& 0x0F).toNat = x.toNat % 2 ^ 4 := by
  have hNat := congrArg UInt8.toNat hKind
  rw [UInt8.toNat_and] at hNat
  change kind.toNat &&& 15 = 0 at hNat
  rw [UInt8.toNat_and, UInt8.toNat_or]
  change (kind.toNat ||| x.toNat) &&& 15 = _
  rw [Nat.and_or_distrib_right, hNat, Nat.zero_or]
  exact Nat.and_two_pow_sub_one_eq_mod x.toNat 4

/- Every kind leaves the low four bits to the number. -/
theorem InfoRecord.keyKind_low
    {kind : UInt8}
    (hKind : r.keyKind = some kind) :
    kind &&& 0x0F = 0 := by
  unfold keyKind at hKind
  split at hKind
  · split at hKind
    · cases hKind
      rfl
    · cases hKind
      rfl
  · split at hKind
    · split at hKind
      · cases hKind
        rfl
      · cases hKind
        rfl
    · cases hKind

theorem InfoRecord.isSupported_iff :
    r.isSupported = true ↔ ∃ kind, r.keyKind = some kind := by
  unfold isSupported keyKind
  by_cases hSmall : r.size = 0x400
  · simp [hSmall]
  · by_cases hLarge : r.size = 0x800
    · simp [hLarge]
    · simp [hSmall, hLarge]

theorem InfoRecord.keyPair_kid :
    (r.keyPair fresh number).kid = r.kid fresh number := by
  rw [keyPair_eq]

/- The container is what stands in the low four bits. -/
theorem container_eq_iff
    (kp : KeyPair)
    (c : Nat) :
    (kp.container == (c : Int)) = true ↔
      (kp.kid &&& 0x0F).toNat = c + 1 := by
  unfold KeyPair.container
  rw [beq_iff_eq]
  omega

theorem low_lt
    (kid : UInt8) :
    (kid &&& 0x0F).toNat < 2 ^ 4 := by
  rw [UInt8.toNat_and]
  exact Nat.lt_of_le_of_lt Nat.and_le_right (by decide)

/- A supported key belongs to its number modulo 16. -/
theorem InfoRecord.low_kid
    (hSupported : r.isSupported = true)
    (fresh : Nat → UInt8)
    (number : Nat) :
    (r.kid fresh number &&& 0x0F).toNat =
      (number + 1) % 2 ^ 4 := by
  rcases isSupported_iff.mp hSupported with ⟨kind, hKind⟩
  unfold kid keyId
  rw [hKind]
  change ((kind ||| UInt8.ofNat (number + 1)) &&&
    0x0F).toNat = _
  rw [toNat_kind_or (keyKind_low hKind), UInt8.toNat_ofNat']
  omega

/- The key id of any other key is what the memory held. -/
theorem InfoRecord.kid_of_not_supported
    (hOther : ¬ r.isSupported = true)
    (fresh : Nat → UInt8)
    (number : Nat) :
    r.kid fresh number = fresh number := by
  have hNone : r.keyKind = none := by
    rw [isSupported_iff] at hOther
    exact Option.eq_none_iff_forall_ne_some.mpr
      (fun kind hKind => hOther ⟨kind, hKind⟩)
  unfold kid keyId
  rw [hNone]
  rfl

/- A supported key has its id from the record. -/
theorem InfoRecord.keyId_eq_some
    (hSupported : r.isSupported = true)
    (fresh : Nat → UInt8)
    (number : Nat) :
    r.keyId number = some (r.kid fresh number) := by
  rcases isSupported_iff.mp hSupported with ⟨kind, hKind⟩
  unfold kid keyId
  rw [hKind]
  rfl

theorem InfoRecord.isSupported_of_keyId
    {kid : UInt8}
    (hKid : r.keyId number = some kid) :
    r.isSupported = true := by
  unfold keyId at hKid
  rw [Option.map_eq_some_iff] at hKid
  rcases hKid with ⟨kind, hKind, -⟩
  exact isSupported_iff.mpr ⟨kind, hKind⟩

end Se

end TrustOnboard

------------------------------------------------------------
-- The List Of Key Pairs
------------------------------------------------------------

namespace TrustOnboard

namespace Se

variable {records : List InfoRecord}
variable {fresh : Nat → UInt8}
variable {r : InfoRecord}
variable {kp : KeyPair}

theorem mem_keyPairs
    {number : Nat} :
    kp ∈ keyPairs fresh number records ↔
      ∃ (j : Nat) (r : InfoRecord), records[j]? = some r ∧
        r.inUse = true ∧
        kp = r.keyPair fresh (number + j) := by
  induction records generalizing number with
  | nil =>
      constructor
      · intro hMem
        cases hMem
      · rintro ⟨j, r, hAt, -⟩
        cases hAt
  | cons r₀ records ih =>
      rw [keyPairs, List.mem_append, ih]
      constructor
      · rintro (hHere | ⟨j, r, hAt, hUse, hPair⟩)
        · split at hHere
          case isTrue hUse =>
            exact ⟨0, r₀, rfl, hUse,
              List.mem_singleton.mp hHere⟩
          case isFalse => cases hHere
        · refine ⟨j + 1, r, hAt, hUse, ?_⟩
          rw [hPair]
          congr 1
          omega
      · rintro ⟨j, r, hAt, hUse, hPair⟩
        cases j with
        | zero =>
            cases hAt
            rw [if_pos hUse]
            exact Or.inl (List.mem_singleton.mpr hPair)
        | succ j =>
            refine Or.inr ⟨j, r, hAt, hUse, ?_⟩
            rw [hPair]
            congr 1
            omega

/-
  The list is searched from its end: what is found stands no
  earlier than any key pair that is as required.
-/
theorem find_keyPairs
    (p : KeyPair → Bool)
    (number : Nat)
    {j : Nat}
    (hAt : records[j]? = some r)
    (hUse : r.inUse = true)
    (hRequired : p (r.keyPair fresh (number + j)) = true) :
    ∃ (j' : Nat) (r' : InfoRecord), j ≤ j' ∧
      records[j']? = some r' ∧ r'.inUse = true ∧
      (keyPairs fresh number records).reverse.find? p =
        some (r'.keyPair fresh (number + j')) := by
  induction records generalizing number j with
  | nil => cases hAt
  | cons r₀ records ih =>
      rw [keyPairs, List.reverse_append, List.find?_append]
      cases hLater :
          (keyPairs fresh (number + 1) records).reverse.find?
            p with
      | some kp =>
          have hMem := List.mem_reverse.mp
            (List.mem_of_find?_eq_some hLater)
          cases j with
          | zero =>
              rcases mem_keyPairs.mp hMem with
                ⟨j', r', hAt', hUse', hPair⟩
              refine ⟨j' + 1, r', by omega, hAt', hUse', ?_⟩
              rw [Option.some_or, hPair]
              congr 2
              omega
          | succ j =>
              have hNext : number + (j + 1) =
                  number + 1 + j := by omega
              rw [hNext] at hRequired
              rcases ih (number + 1) hAt hRequired with
                ⟨j', r', hLe, hAt', hUse', hFound⟩
              refine ⟨j' + 1, r', by omega, hAt', hUse', ?_⟩
              rw [hLater] at hFound
              rw [Option.some_or, hFound]
              congr 2
              omega
      | none =>
          cases j with
          | zero =>
              cases hAt
              refine ⟨0, r, Nat.le_refl 0, rfl, hUse, ?_⟩
              rw [if_pos hUse, Option.none_or]
              exact List.find?_cons_of_pos hRequired
          | succ j =>
              have hNext : number + (j + 1) =
                  number + 1 + j := by omega
              rw [hNext] at hRequired
              rcases ih (number + 1) hAt hRequired with
                ⟨j', r', hLe, hAt', hUse', hFound⟩
              rw [hLater] at hFound
              cases hFound

/- Looking up a container among the key pairs of records. -/
def lookup
    (records : List InfoRecord)
    (fresh : Nat → UInt8)
    (c : Nat) : Option KeyPair :=
  (keyPairs fresh 0 records).reverse.find?
    (fun kp => kp.container == (c : Int))

/- What is found is the key pair of a record. -/
theorem lookup_some
    {c : Nat}
    (hFound : lookup records fresh c = some kp) :
    ∃ (j : Nat) (r : InfoRecord), records[j]? = some r ∧
      r.inUse = true ∧ kp = r.keyPair fresh j ∧
      (r.kid fresh j &&& 0x0F).toNat = c + 1 := by
  have hMem := List.mem_reverse.mp
    (List.mem_of_find?_eq_some hFound)
  rcases mem_keyPairs.mp hMem with ⟨j, r, hAt, hUse, hPair⟩
  rw [Nat.zero_add] at hPair
  refine ⟨j, r, hAt, hUse, hPair, ?_⟩
  have hHere :=
    List.find?_some (p := fun kp : KeyPair =>
      kp.container == (c : Int)) hFound
  rw [container_eq_iff, hPair, InfoRecord.keyPair_kid]
    at hHere
  exact hHere

/- A key id with the container leads to no earlier record. -/
theorem lookup_of_low
    {j c : Nat}
    (hAt : records[j]? = some r)
    (hUse : r.inUse = true)
    (hLow : (r.kid fresh j &&& 0x0F).toNat = c + 1) :
    ∃ (j' : Nat) (r' : InfoRecord), j ≤ j' ∧
      records[j']? = some r' ∧ r'.inUse = true ∧
      lookup records fresh c = some (r'.keyPair fresh j') := by
  have hRequired :
      ((r.keyPair fresh (0 + j)).container == (c : Int)) =
        true := by
    rw [container_eq_iff, InfoRecord.keyPair_kid,
      Nat.zero_add]
    exact hLow
  rcases find_keyPairs
    (fun kp => kp.container == (c : Int)) 0 hAt hUse
    hRequired with ⟨j', r', hLe, hAt', hUse', hFound⟩
  rw [Nat.zero_add] at hFound
  exact ⟨j', r', hLe, hAt', hUse', hFound⟩

end Se

end TrustOnboard

------------------------------------------------------------
-- When Containers Are Found
------------------------------------------------------------

namespace TrustOnboard

namespace Se

variable {records : List InfoRecord}
variable {r : InfoRecord}
variable {c : Nat}

/- The flags and the size are always those of the record. -/
theorem InfoRecord.keyPair_flags
    (r : InfoRecord)
    (fresh : Nat → UInt8)
    (number : Nat) :
    (r.keyPair fresh number).flags &&&
        signatureKeyPairFlag ≠ 0 ∧
      ((r.keyPair fresh number).flags &&&
        decryptionKeyPairFlag ≠ 0 ↔ r.decrypts = true) := by
  have hAll : ∀ decrypts supported : Bool, ∀ flags : UInt16,
      flags =
          (if decrypts then
            signatureKeyPairFlag ||| decryptionKeyPairFlag
          else signatureKeyPairFlag) |||
            (if supported then rsaKeyPairFlag else 0) →
        flags &&& signatureKeyPairFlag ≠ 0 ∧
          (flags &&& decryptionKeyPairFlag ≠ 0 ↔
            decrypts = true) := by
    rintro decrypts supported flags rfl
    revert decrypts supported
    decide
  rw [keyPair_eq]
  exact hAll r.decrypts r.isSupported _ rfl

theorem InfoRecord.keyPair_size
    (r : InfoRecord)
    (fresh : Nat → UInt8)
    (number : Nat) :
    (r.keyPair fresh number).sizeInBits.toNat = r.size := by
  have hSize : r.size < 2 ^ 16 := by
    have hWord : ∀ hi lo : UInt8, word hi lo < 2 ^ 16 := by
      intro hi lo
      have hHigh := hi.toNat_lt
      have hLow := lo.toNat_lt
      unfold word
      omega
    unfold size
    split
    · exact hWord _ _
    · exact hWord _ _
  rw [keyPair_eq]
  change (UInt16.ofNat r.size).toNat = r.size
  rw [UInt16.toNat_ofNat']
  exact Nat.mod_eq_of_lt hSize

/- A container from 15 on is never found. -/
theorem lookup_large
    (records : List InfoRecord)
    (fresh : Nat → UInt8)
    (hLarge : ¬ c < 15) :
    lookup records fresh c = none := by
  rw [Option.eq_none_iff_forall_ne_some]
  intro kp hFound
  rcases lookup_some hFound with ⟨j, r, -, -, -, hLow⟩
  have hBound := low_lt (r.kid fresh j)
  omega

/- What is found of a container that is distinguished. -/
theorem finds_of_distinguished
    (hDistinguished : Distinguished records c)
    (fresh : Nat → UInt8) :
    FindsKey records fresh c (lookup records fresh c) := by
  unfold Distinguished at hDistinguished
  by_cases hSmall : c < 15
  case neg =>
    rw [if_neg hSmall] at hDistinguished
    rw [lookup_large records fresh hSmall]
    constructor
    case found =>
      refine iff_of_false (by simp) ?_
      rintro ⟨r, hAt, hUse⟩
      rw [hDistinguished r hAt] at hUse
      cases hUse
    case key => exact fun kp r hNone => by cases hNone
  case pos =>
  rw [if_pos hSmall] at hDistinguished
  -- Only the record with that number has the container.
  have hOnly : ∀ j r, records[j]? = some r →
      r.inUse = true →
      (r.kid fresh j &&& 0x0F).toNat = c + 1 → j = c := by
    intro j r hAt hUse hLow
    have hKey := hDistinguished j r hAt hUse
    rw [r.low_kid hKey.1] at hLow
    exact hKey.2 (by omega)
  constructor
  case found =>
    constructor
    · intro hSome
      rcases Option.isSome_iff_exists.mp hSome with
        ⟨kp, hFound⟩
      rcases lookup_some hFound with
        ⟨j, r, hAt, hUse, -, hLow⟩
      rw [hOnly j r hAt hUse hLow] at hAt
      exact ⟨r, hAt, hUse⟩
    · rintro ⟨r, hAt, hUse⟩
      have hKey := hDistinguished c r hAt hUse
      have hLow := r.low_kid hKey.1 fresh c
      rcases lookup_of_low hAt hUse
        (show (r.kid fresh c &&& 0x0F).toNat = c + 1 by
          omega) with ⟨j', r', -, -, -, hFound⟩
      rw [hFound]
      rfl
  case key =>
    intro kp r hFound hAt
    rcases lookup_some hFound with
      ⟨j, r', hAt', hUse, hPair, hLow⟩
    cases hOnly j r' hAt' hUse hLow
    rw [hAt] at hAt'
    cases hAt'
    have hKey := hDistinguished c r hAt hUse
    rw [hPair]
    constructor
    case size => exact r.keyPair_size fresh c
    case signature => exact (r.keyPair_flags fresh c).1
    case decryption => exact (r.keyPair_flags fresh c).2
    case determined =>
      rw [InfoRecord.keyPair_kid]
      exact r.keyId_eq_some hKey.1 fresh c
    case distinct =>
      intro j' r' hOther hAt' hUse' hSame
      rw [InfoRecord.keyPair_kid] at hSame
      rw [← hSame] at hLow
      exact hOther (hOnly j' r' hAt' hUse' hLow)

/- Every key in use must have a size that is supported. -/
theorem supported_of_finds
    (hSmall : c < 15)
    (hFinds : ∀ fresh,
      FindsKey records fresh c (lookup records fresh c))
    {j : Nat}
    (hAt : records[j]? = some r)
    (hUse : r.inUse = true) :
    r.isSupported = true := by
  by_contra hOther
  -- The memory may hold the key id of the container.
  have hHeld : ∀ kid : UInt8,
      (kid &&& 0x0F).toNat = c + 1 →
      ∃ rc, records[c]? = some rc ∧ rc.inUse = true ∧
        ∃ id, rc.keyId c = some id ∧
          (j ≠ c → kid ≠ id) := by
    intro kid hLow
    have hFind := hFinds (fun _ => kid)
    have hKid : r.kid (fun _ => kid) j = kid :=
      r.kid_of_not_supported hOther _ j
    rw [← hKid] at hLow
    rcases lookup_of_low hAt hUse hLow with
      ⟨j', r', -, -, -, hFound⟩
    rcases hFind.found.mp (by rw [hFound]; rfl) with
      ⟨rc, hAtC, hUseC⟩
    have hKey := hFind.key _ rc hFound hAtC
    refine ⟨rc, hAtC, hUseC, _, hKey.determined, ?_⟩
    intro hNot
    have hDistinct := hKey.distinct j r hNot hAt hUse
    rw [hKid] at hDistinct
    exact hDistinct
  have hNumber :
      (UInt8.ofNat (c + 1) &&& 0x0F).toNat = c + 1 := by
    have hLow := toNat_kind_or
      (show (0 : UInt8) &&& 0x0F = 0 from rfl)
      (UInt8.ofNat (c + 1))
    rw [UInt8.zero_or, UInt8.toNat_ofNat'] at hLow
    omega
  rcases hHeld _ hNumber with ⟨rc, hAtC, hUseC, id, hId, -⟩
  have hSupported := InfoRecord.isSupported_of_keyId hId
  by_cases hSame : j = c
  · subst hSame
    rw [hAt] at hAtC
    cases hAtC
    exact hOther hSupported
  · -- Then it may hold the one of the record as well.
    have hKid := rc.keyId_eq_some hSupported (fun _ => 0) c
    have hLow := rc.low_kid hSupported (fun _ => 0) c
    rcases hHeld (rc.kid (fun _ => 0) c) (by omega) with
      ⟨rc', hAtC', -, id', hId', hDistinct⟩
    rw [hAtC] at hAtC'
    cases hAtC'
    rw [hKid] at hId'
    exact hDistinct hSame (Option.some.inj hId')

/-
  Containers are found as they should be, whatever is in the
  memory for the key pairs, exactly if the container that is
  looked up is distinguished.
-/
theorem lookup_finds_iff
    (records : List InfoRecord)
    (c : Nat) :
    (∀ fresh,
        FindsKey records fresh c (lookup records fresh c)) ↔
      Distinguished records c := by
  constructor
  case mpr =>
    exact fun hDistinguished fresh =>
      finds_of_distinguished hDistinguished fresh
  case mp =>
  intro hFinds
  unfold Distinguished
  by_cases hSmall : c < 15
  case neg =>
    rw [if_neg hSmall]
    intro r hAt
    by_contra hUse
    rw [Bool.not_eq_false] at hUse
    have hFound := (hFinds (fun _ => 0)).found.mpr
      ⟨r, hAt, hUse⟩
    rw [lookup_large records _ hSmall] at hFound
    cases hFound
  case pos =>
  rw [if_pos hSmall]
  intro j r hAt hUse
  have hSupported := supported_of_finds hSmall hFinds hAt hUse
  refine ⟨hSupported, ?_⟩
  intro hSame
  by_contra hOther
  have hFind := hFinds (fun _ => 0)
  -- The record that is found stands behind the container's.
  have hLow := r.low_kid hSupported (fun _ => 0) j
  rcases lookup_of_low hAt hUse
    (show (r.kid (fun _ => 0) j &&& 0x0F).toNat = c + 1 by
      omega) with ⟨j', r', hLe, hAt', hUse', hFound⟩
  rcases hFind.found.mp (by rw [hFound]; rfl) with
    ⟨rc, hAtC, -⟩
  have hKey := hFind.key _ rc hFound hAtC
  refine hKey.distinct j' r' (by omega) hAt' hUse' ?_
  rw [InfoRecord.keyPair_kid]

end Se

end TrustOnboard
