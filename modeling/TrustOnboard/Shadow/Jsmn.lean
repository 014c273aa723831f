import TrustOnboard.Shadow.Parsing

/-
  The parser of JSON texts that comes with the client,
  `jsmn.c`, in its mode without parent links.

  It goes through a text once and lists its tokens.  It does
  not check the grammar: it looks for the ends of strings and
  primitives and matches brackets.  The size of a token and
  the token above the next one are kept for nobody: neither
  changes what else the parser does, and no function of the
  client reads a size.  Offsets are kept as values of type
  `int`, which are what they stand for in texts of less than
  2^31 bytes.

  Key definitions include:
    * `keptAsInt`
    * `scanString`
    * `scanPrimitive`
    * `jsmnStep`
    * `jsmnParse`
    * `bareParse`
    * `isScannable`

  Key results include:
    * `jsmnParse_bare`
-/

------------------------------------------------------------
-- Scanning
------------------------------------------------------------

namespace TrustOnboard

namespace Shadow

/- `enum jsmnerr`. -/
inductive JsmnError where
  | nomem
  | inval
  | part
  deriving DecidableEq, Repr

/- The value of an error. -/
def JsmnError.code : JsmnError → Int
  | .nomem => -1
  | .inval => -2
  | .part => -3

/- A digit of a `\u` escape. -/
def isHexChar (b : UInt8) : Bool :=
  (48 ≤ b && b ≤ 57) || (65 ≤ b && b ≤ 70) ||
    (97 ≤ b && b ≤ 102)

/- The other characters that may follow a backslash. -/
def isEscapeChar (b : UInt8) : Bool :=
  [34, 47, 92, 98, 102, 114, 110, 116].contains b

/-
  Where the loop of `jsmn_parse_string` is in an escape: so
  many digits are to come behind the next one.
-/
inductive StringMode where
  | text
  | escape
  | digits (left : Nat)
  deriving DecidableEq, Repr

/- What a character does to the loop. -/
inductive StringRead where
  | closes
  | invalid
  | goesOn (mode : StringMode)
  deriving DecidableEq, Repr

def StringMode.read : StringMode → UInt8 → StringRead
  | .text, c =>
      if c = 34 then .closes
      else if c = 92 then .goesOn .escape
      else .goesOn .text
  | .escape, c =>
      if isEscapeChar c then .goesOn .text
      else if c = 117 then .goesOn (.digits 3)
      else .invalid
  | .digits 0, c =>
      if isHexChar c then .goesOn .text else .invalid
  | .digits (left + 1), c =>
      if isHexChar c then .goesOn (.digits left)
      else .invalid

/-
  The loop behind the opening quote: the number of characters
  in front of the closing one.  At the end of the text there
  is more to come, also within an escape.
-/
def scanString :
    StringMode → Bytes → Nat → Except JsmnError Nat
  | _, [], _ => .error .part
  | mode, c :: rest, k =>
      match mode.read c with
      | .closes => .ok k
      | .invalid => .error .inval
      | .goesOn mode => scanString mode rest (k + 1)

/- What ends a primitive. -/
def isPrimitiveEnd (b : UInt8) : Bool :=
  [58, 9, 13, 10, 32, 44, 93, 125].contains b

/-
  The loop of `jsmn_parse_primitive`: the number of its
  characters.  Bytes from 127 on are negative or beyond the
  range.
-/
def scanPrimitive : Bytes → Nat → Except JsmnError Nat
  | [], k => .ok k
  | c :: rest, k =>
      if isPrimitiveEnd c then .ok k
      else if c < 32 || 127 ≤ c then .error .inval
      else scanPrimitive rest (k + 1)

/- What a scanner takes is there. -/
theorem scanString_le
    {mode : StringMode}
    {text : Bytes}
    {k k' : Nat}
    (hScan : scanString mode text k = .ok k') :
    k ≤ k' ∧ k' < k + text.length := by
  induction text generalizing mode k with
  | nil => cases hScan
  | cons c text ih =>
      rw [scanString] at hScan
      rw [List.length_cons]
      cases hRead : mode.read c with
      | closes =>
          rw [hRead] at hScan
          cases hScan
          omega
      | invalid =>
          rw [hRead] at hScan
          cases hScan
      | goesOn next =>
          rw [hRead] at hScan
          have hHere := ih hScan
          omega

theorem scanPrimitive_le
    {text : Bytes}
    {k k' : Nat}
    (hScan : scanPrimitive text k = .ok k') :
    k ≤ k' ∧ k' ≤ k + text.length := by
  induction text generalizing k with
  | nil =>
      cases hScan
      simp
  | cons c text ih =>
      rw [scanPrimitive] at hScan
      rw [List.length_cons]
      split at hScan
      · cases hScan
        omega
      split at hScan
      · cases hScan
      · have hHere := ih hScan
        omega

end Shadow

end TrustOnboard

------------------------------------------------------------
-- Parsing
------------------------------------------------------------

namespace TrustOnboard

namespace Shadow

/- An offset of type `unsigned int` as a value of type `int`. -/
def keptAsInt (n : Nat) : Int :=
  (n : Int).bmod (2 ^ 32)

theorem keptAsInt_of_lt
    {n : Nat}
    (hSmall : n < 2 ^ 31) :
    keptAsInt n = n := by
  unfold keptAsInt
  rw [Int.bmod_def]
  omega

/- `jsmntok_t`. -/
structure SizedTok extends JsmnTok where
  size : Nat
  deriving DecidableEq

/-
  A `jsmn_parser` with the tokens it has allocated and the
  count of `jsmn_parse`.  The next token is the one behind
  the list; no superior token is -1 in the source.
-/
structure JsmnParser where
  tokens : List SizedTok
  toksuper : Option Nat
  count : Nat
  deriving DecidableEq

/- The last element with a property, from behind. -/
def lastIndex
    {α : Type}
    (p : α → Bool) : List α → Option Nat
  | [] => none
  | x :: xs =>
      match lastIndex p xs with
      | some i => some (i + 1)
      | none => if p x then some 0 else none

/- A token that has begun and not ended. -/
def JsmnTok.isOpen (tok : JsmnTok) : Bool :=
  tok.start != -1 && tok.stop == -1

/- An object or an array. -/
def JsmnTok.isNested (tok : JsmnTok) : Bool :=
  tok.type == .object || tok.type == .array

namespace JsmnParser

/- `jsmn_alloc_token` with what the token is filled with. -/
def alloc
    (numTokens : Nat)
    (p : JsmnParser)
    (tok : JsmnTok) : Option JsmnParser :=
  if numTokens ≤ p.tokens.length then none
  else some { p with tokens := p.tokens ++ [⟨tok, 0⟩] }

/- `tokens[parser->toksuper].size++`. -/
def grow (p : JsmnParser) : JsmnParser :=
  match p.toksuper with
  | none => p
  | some i =>
      { p with
        tokens :=
          p.tokens.modify i (fun tok =>
            { tok with size := tok.size + 1 }) }

def counted (p : JsmnParser) : JsmnParser :=
  { p with count := p.count + 1 }

end JsmnParser

/- An opening brace or bracket. -/
def jsmnOpen
    (numTokens pos : Nat)
    (type : JsmnType)
    (p : JsmnParser) : JsmnParser × Except JsmnError Nat :=
  let p := p.counted
  match p.alloc numTokens ⟨type, keptAsInt pos, -1⟩ with
  | none => (p, .error .nomem)
  | some p' =>
      ({ p'.grow with toksuper := some p.tokens.length },
        .ok 0)

/- A closing one. -/
def jsmnClose
    (pos : Nat)
    (type : JsmnType)
    (p : JsmnParser) : JsmnParser × Except JsmnError Nat :=
  match lastIndex (fun tok => tok.isOpen) p.tokens with
  | none => (p, .error .inval)
  | some i =>
      match p.tokens[i]? with
      | none => (p, .error .inval)
      | some tok =>
          if tok.type ≠ type then (p, .error .inval)
          else
            let tokens :=
              p.tokens.set i
                { tok with stop := keptAsInt (pos + 1) }
            ({ p with
                tokens := tokens
                toksuper :=
                  lastIndex (fun tok => tok.isOpen)
                    (tokens.take (i + 1)) },
              .ok 0)

/- A token that is complete, for so many characters. -/
def jsmnFill
    (numTokens : Nat)
    (tok : JsmnTok)
    (skipped : Nat)
    (p : JsmnParser) : JsmnParser × Except JsmnError Nat :=
  match p.alloc numTokens tok with
  | none => (p, .error .nomem)
  | some p' => (p'.counted.grow, .ok skipped)

/- A colon makes the last token the superior one. -/
def jsmnColon (p : JsmnParser) : JsmnParser :=
  { p with
    toksuper :=
      if p.tokens.length = 0 then none
      else some (p.tokens.length - 1) }

/- A comma goes back to the object or array around it. -/
def jsmnComma (p : JsmnParser) : JsmnParser :=
  match p.toksuper.bind (fun i => p.tokens[i]?) with
  | none => p
  | some tok =>
      if tok.isNested then p
      else
        match
          lastIndex (fun tok => tok.isNested && tok.isOpen)
            p.tokens
        with
        | none => p
        | some i => { p with toksuper := some i }

/-
  One round of the loop of `jsmn_parse`: what is left of the
  parser, and an error or the number of further characters
  that are done with.
-/
def jsmnStep
    (numTokens pos : Nat)
    (c : UInt8)
    (rest : Bytes)
    (p : JsmnParser) : JsmnParser × Except JsmnError Nat :=
  if c = 123 then jsmnOpen numTokens pos .object p
  else if c = 91 then jsmnOpen numTokens pos .array p
  else if c = 125 then jsmnClose pos .object p
  else if c = 93 then jsmnClose pos .array p
  else if c = 34 then
    match scanString .text rest 0 with
    | .error e => (p, .error e)
    | .ok k =>
        jsmnFill numTokens
          ⟨.string, keptAsInt (pos + 1),
            keptAsInt (pos + 1 + k)⟩ (k + 1) p
  else if c = 9 ∨ c = 13 ∨ c = 10 ∨ c = 32 then (p, .ok 0)
  else if c = 58 then (jsmnColon p, .ok 0)
  else if c = 44 then (jsmnComma p, .ok 0)
  else
    match scanPrimitive (c :: rest) 0 with
    | .error e => (p, .error e)
    | .ok k =>
        jsmnFill numTokens
          ⟨.primitive, keptAsInt pos, keptAsInt (pos + k)⟩
          (k - 1) p

/-
  The loop, and the check for brackets left open.  The number
  of characters a token has taken with it is passed on.
-/
def jsmnLoop
    (numTokens : Nat) :
    Bytes → Nat → Nat → JsmnParser → Int × List SizedTok
  | [], _, _, p =>
      if p.tokens.any (fun tok => tok.isOpen) then
        (JsmnError.part.code, p.tokens)
      else (p.count, p.tokens)
  | _ :: rest, pos, skipped + 1, p =>
      jsmnLoop numTokens rest (pos + 1) skipped p
  | c :: rest, pos, 0, p =>
      match jsmnStep numTokens pos c rest p with
      | (p, .error e) => (e.code, p.tokens)
      | (p, .ok skipped) =>
          jsmnLoop numTokens rest (pos + 1) skipped p

/- `jsmn_init`. -/
def jsmnInit : JsmnParser where
  tokens := []
  toksuper := none
  count := 0

/-
  `jsmn_parse` of a text up to its terminator, into the array
  of the shadow client.
-/
def jsmnParse (json : Bytes) : Int × List JsmnTok :=
  let r := jsmnLoop maxJsonTokenExpected json 0 0 jsmnInit
  (r.1, r.2.map SizedTok.toJsmnTok)

/- The platform with this parser. -/
def Port.withJsmn
    {E : Type}
    (port : Port E) : Port E :=
  { port with jsmnParse := Shadow.jsmnParse }

/- A nested object, and a string where a value is missing. -/
example :
    jsmnParse (ascii "\x7b\"a\":\x7b\"b\": 1\x7d\x7d") =
      (5,
        [⟨.object, 0, 14⟩, ⟨.string, 2, 3⟩, ⟨.object, 5, 13⟩,
          ⟨.string, 7, 8⟩, ⟨.primitive, 11, 12⟩]) := by
  decide +kernel

end Shadow

end TrustOnboard

------------------------------------------------------------
-- The Bare Parser
------------------------------------------------------------

namespace TrustOnboard

namespace Shadow

/-
  The same without sizes, superior tokens and a count, and
  with offsets as large as they have to be.
-/
def bareOpen
    (numTokens pos : Nat)
    (type : JsmnType)
    (ts : List JsmnTok) :
    List JsmnTok × Except JsmnError Nat :=
  if numTokens ≤ ts.length then (ts, .error .nomem)
  else (ts ++ [⟨type, pos, -1⟩], .ok 0)

def bareClose
    (pos : Nat)
    (type : JsmnType)
    (ts : List JsmnTok) :
    List JsmnTok × Except JsmnError Nat :=
  match lastIndex JsmnTok.isOpen ts with
  | none => (ts, .error .inval)
  | some i =>
      match ts[i]? with
      | none => (ts, .error .inval)
      | some tok =>
          if tok.type ≠ type then (ts, .error .inval)
          else (ts.set i { tok with stop := pos + 1 }, .ok 0)

def bareFill
    (numTokens : Nat)
    (tok : JsmnTok)
    (skipped : Nat)
    (ts : List JsmnTok) :
    List JsmnTok × Except JsmnError Nat :=
  if numTokens ≤ ts.length then (ts, .error .nomem)
  else (ts ++ [tok], .ok skipped)

def bareStep
    (numTokens pos : Nat)
    (c : UInt8)
    (rest : Bytes)
    (ts : List JsmnTok) :
    List JsmnTok × Except JsmnError Nat :=
  if c = 123 then bareOpen numTokens pos .object ts
  else if c = 91 then bareOpen numTokens pos .array ts
  else if c = 125 then bareClose pos .object ts
  else if c = 93 then bareClose pos .array ts
  else if c = 34 then
    match scanString .text rest 0 with
    | .error e => (ts, .error e)
    | .ok k =>
        bareFill numTokens
          ⟨.string, pos + 1, pos + 1 + k⟩ (k + 1) ts
  else if c = 9 ∨ c = 13 ∨ c = 10 ∨ c = 32 then (ts, .ok 0)
  else if c = 58 then (ts, .ok 0)
  else if c = 44 then (ts, .ok 0)
  else
    match scanPrimitive (c :: rest) 0 with
    | .error e => (ts, .error e)
    | .ok k =>
        bareFill numTokens ⟨.primitive, pos, pos + k⟩
          (k - 1) ts

def bareLoop
    (numTokens : Nat) :
    Bytes → Nat → Nat → List JsmnTok → Int × List JsmnTok
  | [], _, _, ts =>
      if ts.any JsmnTok.isOpen then (JsmnError.part.code, ts)
      else (ts.length, ts)
  | _ :: rest, pos, skipped + 1, ts =>
      bareLoop numTokens rest (pos + 1) skipped ts
  | c :: rest, pos, 0, ts =>
      match bareStep numTokens pos c rest ts with
      | (ts, .error e) => (e.code, ts)
      | (ts, .ok skipped) =>
          bareLoop numTokens rest (pos + 1) skipped ts

/- The tokens of a parser as the bare one sees them. -/
def JsmnParser.bare (p : JsmnParser) : List JsmnTok :=
  p.tokens.map SizedTok.toJsmnTok

/- An action of the parser is one of the bare parser. -/
structure JsmnParser.Follows
    (r : JsmnParser × Except JsmnError Nat)
    (r' : List JsmnTok × Except JsmnError Nat) : Prop where
  bare : r.1.bare = r'.1
  result : r.2 = r'.2
  counted :
    ∀ k, r.2 = .ok k → r.1.count = r.1.tokens.length

theorem lastIndex_map
    {α β : Type}
    (f : α → β)
    (p : β → Bool)
    (xs : List α) :
    lastIndex (fun x => p (f x)) xs =
      lastIndex p (xs.map f) := by
  induction xs with
  | nil => rfl
  | cons x xs ih =>
      unfold lastIndex
      rw [List.map_cons]
      dsimp only
      rw [ih]

/- A change that a map does not see. -/
theorem map_modify_same
    {α β : Type}
    {f : α → β}
    {g : α → α}
    (hSame : ∀ x, f (g x) = f x)
    (xs : List α)
    (i : Nat) :
    (xs.modify i g).map f = xs.map f := by
  induction xs generalizing i with
  | nil => rw [List.modify_nil]
  | cons x xs ih =>
      cases i with
      | zero =>
          rw [List.modify_zero_cons, List.map_cons,
            List.map_cons, hSame]
      | succ i =>
          rw [List.modify_succ_cons, List.map_cons,
            List.map_cons, ih]

namespace JsmnParser

variable {p : JsmnParser}
variable {numTokens pos : Nat}

theorem length_bare
    (p : JsmnParser) :
    p.bare.length = p.tokens.length :=
  List.length_map _

/- The size of a token is not seen. -/
theorem bare_grow
    (p : JsmnParser) :
    p.grow.bare = p.bare := by
  unfold grow bare
  split
  · rfl
  · apply map_modify_same
    intro tok
    rfl

theorem length_grow
    (p : JsmnParser) :
    p.grow.tokens.length = p.tokens.length := by
  rw [← length_bare, bare_grow, length_bare]

theorem count_grow
    (p : JsmnParser) :
    p.grow.count = p.count := by
  unfold grow
  split <;> rfl

theorem follows_open
    (hCount : p.count = p.tokens.length)
    (hSmall : pos < 2 ^ 31)
    (numTokens : Nat)
    (type : JsmnType) :
    Follows (jsmnOpen numTokens pos type p)
      (bareOpen numTokens pos type p.bare) := by
  unfold jsmnOpen bareOpen alloc counted
  dsimp only
  rw [length_bare, keptAsInt_of_lt hSmall]
  by_cases hFull : numTokens ≤ p.tokens.length
  · rw [if_pos hFull, if_pos hFull]
    exact ⟨rfl, rfl, fun _ hNo => nomatch hNo⟩
  · rw [if_neg hFull, if_neg hFull]
    refine ⟨?_, rfl, ?_⟩
    · show (grow _).bare = _
      rw [bare_grow]
      unfold bare
      rw [List.map_append]
      rfl
    · intro k _
      show (grow _).count = (grow _).tokens.length
      rw [count_grow, length_grow, List.length_append]
      exact congrArg (fun n => n + 1) hCount

theorem follows_fill
    (hCount : p.count = p.tokens.length)
    (numTokens : Nat)
    (tok : JsmnTok)
    (skipped : Nat) :
    Follows (jsmnFill numTokens tok skipped p)
      (bareFill numTokens tok skipped p.bare) := by
  unfold jsmnFill bareFill alloc
  rw [length_bare]
  by_cases hFull : numTokens ≤ p.tokens.length
  · rw [if_pos hFull, if_pos hFull]
    exact ⟨rfl, rfl, fun _ hNo => nomatch hNo⟩
  · rw [if_neg hFull, if_neg hFull]
    refine ⟨?_, rfl, ?_⟩
    · show (grow _).bare = _
      rw [bare_grow]
      unfold bare counted
      rw [List.map_append]
      rfl
    · intro k _
      show (grow _).count = (grow _).tokens.length
      rw [count_grow, length_grow]
      unfold counted
      rw [List.length_append]
      exact congrArg (fun n => n + 1) hCount

theorem follows_close
    (hCount : p.count = p.tokens.length)
    (hSmall : pos + 1 < 2 ^ 31)
    (type : JsmnType) :
    Follows (jsmnClose pos type p)
      (bareClose pos type p.bare) := by
  unfold jsmnClose bareClose bare
  rw [keptAsInt_of_lt hSmall]
  rw [lastIndex_map SizedTok.toJsmnTok JsmnTok.isOpen]
  cases lastIndex JsmnTok.isOpen
      (p.tokens.map SizedTok.toJsmnTok) with
  | none => exact ⟨rfl, rfl, fun _ hNo => nomatch hNo⟩
  | some i =>
      dsimp only
      rw [List.getElem?_map]
      cases p.tokens[i]? with
      | none => exact ⟨rfl, rfl, fun _ hNo => nomatch hNo⟩
      | some tok =>
          dsimp only [Option.map_some]
          by_cases hType : tok.type ≠ type
          · rw [if_pos hType, if_pos hType]
            exact ⟨rfl, rfl, fun _ hNo => nomatch hNo⟩
          · rw [if_neg hType, if_neg hType]
            refine ⟨?_, rfl, ?_⟩
            · unfold bare
              rw [List.map_set, Nat.cast_succ]
            · intro k _
              dsimp only
              rw [List.length_set]
              exact hCount

/- Nothing to see. -/
theorem follows_same
    {p' : JsmnParser}
    (hCount : p.count = p.tokens.length)
    (hTokens : p'.tokens = p.tokens)
    (hSame : p'.count = p.count)
    (k : Nat) :
    Follows (p', .ok k) (p.bare, .ok k) := by
  refine ⟨?_, rfl, ?_⟩
  · unfold bare
    rw [hTokens]
  · intro _ _
    rw [hSame, hTokens, hCount]

/- A comma changes the superior token only. -/
theorem jsmnComma_same
    (p : JsmnParser) :
    (jsmnComma p).tokens = p.tokens ∧
      (jsmnComma p).count = p.count := by
  unfold jsmnComma
  split
  · exact ⟨rfl, rfl⟩
  · split
    · exact ⟨rfl, rfl⟩
    · split
      · exact ⟨rfl, rfl⟩
      · exact ⟨rfl, rfl⟩

theorem follows_error
    (p : JsmnParser)
    (e : JsmnError) :
    Follows (p, .error e) (p.bare, .error e) :=
  ⟨rfl, rfl, fun _ hNo => nomatch hNo⟩

/- Every round is one of the bare parser. -/
theorem follows_step
    {c : UInt8}
    {rest : Bytes}
    (hCount : p.count = p.tokens.length)
    (hSmall : pos + (c :: rest).length < 2 ^ 31)
    (numTokens : Nat) :
    Follows (jsmnStep numTokens pos c rest p)
      (bareStep numTokens pos c rest p.bare) := by
  rw [List.length_cons] at hSmall
  have hHere : pos < 2 ^ 31 := by omega
  have hNext : pos + 1 < 2 ^ 31 := by omega
  unfold jsmnStep bareStep
  split
  · exact follows_open hCount hHere numTokens .object
  split
  · exact follows_open hCount hHere numTokens .array
  split
  · exact follows_close hCount hNext .object
  split
  · exact follows_close hCount hNext .array
  split
  · cases hScan : scanString .text rest 0 with
    | error e => exact follows_error p e
    | ok k =>
        have hEnd := (scanString_le hScan).2
        dsimp only
        rw [keptAsInt_of_lt hNext,
          keptAsInt_of_lt (show pos + 1 + k < 2 ^ 31 by omega)]
        exact follows_fill hCount numTokens _ _
  split
  · exact follows_same hCount rfl rfl 0
  split
  · refine follows_same hCount ?_ ?_ 0 <;> rfl
  split
  · exact
      follows_same hCount (jsmnComma_same p).1
        (jsmnComma_same p).2 0
  · cases hScan : scanPrimitive (c :: rest) 0 with
    | error e => exact follows_error p e
    | ok k =>
        have hEnd := (scanPrimitive_le hScan).2
        rw [List.length_cons] at hEnd
        dsimp only
        rw [keptAsInt_of_lt hHere,
          keptAsInt_of_lt (show pos + k < 2 ^ 31 by omega)]
        exact follows_fill hCount numTokens _ _

end JsmnParser

/- So a text that is not too long is parsed in the same way. -/
theorem jsmnLoop_bare
    (numTokens : Nat)
    {text : Bytes}
    {pos : Nat}
    (hSmall : pos + text.length < 2 ^ 31)
    (skipped : Nat)
    {p : JsmnParser}
    (hCount : p.count = p.tokens.length) :
    ((jsmnLoop numTokens text pos skipped p).1,
        (jsmnLoop numTokens text pos skipped p).2.map
          SizedTok.toJsmnTok) =
      bareLoop numTokens text pos skipped p.bare := by
  induction text generalizing pos skipped p with
  | nil =>
      have hSame :
          p.bare.any JsmnTok.isOpen =
            p.tokens.any (fun tok => tok.isOpen) :=
        List.any_map
      unfold jsmnLoop bareLoop
      rw [hSame, JsmnParser.length_bare, hCount]
      split <;> rfl
  | cons c rest ih =>
      have hNext : pos + 1 + rest.length < 2 ^ 31 := by
        rw [List.length_cons] at hSmall
        omega
      cases skipped with
      | succ skipped =>
          unfold jsmnLoop bareLoop
          exact ih hNext skipped hCount
      | zero =>
          have hStep :=
            JsmnParser.follows_step hCount hSmall numTokens
          unfold jsmnLoop bareLoop
          cases hHere : jsmnStep numTokens pos c rest p with
          | mk p' result =>
              rw [hHere] at hStep
              have hBare :
                  bareStep numTokens pos c rest p.bare =
                    (p'.bare, result) :=
                Prod.ext hStep.bare.symm hStep.result.symm
              rw [hBare]
              cases result with
              | error e => rfl
              | ok k => exact ih hNext k (hStep.counted k rfl)

/- The bare parser of a text. -/
def bareParse (json : Bytes) : Int × List JsmnTok :=
  bareLoop maxJsonTokenExpected json 0 0 []

theorem jsmnParse_bare
    {json : Bytes}
    (hSmall : json.length < 2 ^ 31) :
    jsmnParse json = bareParse json := by
  have hFirst : 0 + json.length < 2 ^ 31 := by omega
  exact jsmnLoop_bare maxJsonTokenExpected hFirst 0 rfl

end Shadow

end TrustOnboard

------------------------------------------------------------
-- Strings That Are Passed Over
------------------------------------------------------------

namespace TrustOnboard

namespace Shadow

/-
  Where the scanner of strings is behind a text, unless it
  has met the end of the string or an error there.
-/
def StringMode.behind :
    StringMode → Bytes → Option StringMode
  | mode, [] => some mode
  | mode, c :: rest =>
      match mode.read c with
      | .goesOn mode => mode.behind rest
      | _ => none

/-
  A text of which the parser takes no character for the end
  of a string: no quote stands alone, and every backslash
  begins an escape.
-/
def isScannable (text : Bytes) : Bool :=
  StringMode.text.behind text = some .text

variable {mode mode' : StringMode}
variable {text : Bytes}

/- The scanner passes over such a text. -/
theorem scanString_behind
    (hBehind : mode.behind text = some mode')
    (rest : Bytes)
    (k : Nat) :
    scanString mode (text ++ rest) k =
      scanString mode' rest (k + text.length) := by
  induction text generalizing mode k with
  | nil =>
      cases hBehind
      rfl
  | cons c text ih =>
      unfold StringMode.behind at hBehind
      rw [List.cons_append, scanString]
      cases hRead : mode.read c with
      | closes =>
          rw [hRead] at hBehind
          cases hBehind
      | invalid =>
          rw [hRead] at hBehind
          cases hBehind
      | goesOn next =>
          rw [hRead] at hBehind
          dsimp only
          rw [ih hBehind, List.length_cons, Nat.add_assoc,
            Nat.add_comm 1]

theorem behind_append
    (hBehind : mode.behind text = some mode')
    (rest : Bytes) :
    mode.behind (text ++ rest) = mode'.behind rest := by
  induction text generalizing mode with
  | nil =>
      cases hBehind
      rfl
  | cons c text ih =>
      unfold StringMode.behind at hBehind
      rw [List.cons_append, StringMode.behind]
      cases hRead : mode.read c with
      | closes =>
          rw [hRead] at hBehind
          cases hBehind
      | invalid =>
          rw [hRead] at hBehind
          cases hBehind
      | goesOn next =>
          rw [hRead] at hBehind
          exact ih hBehind

/- The digits of a number are no matter. -/
theorem behind_plain
    (hPlain : ∀ b ∈ text, b ≠ 34 ∧ b ≠ 92) :
    StringMode.text.behind text = some .text := by
  induction text with
  | nil => rfl
  | cons c text ih =>
      rcases hPlain c List.mem_cons_self with
        ⟨hQuote, hBackslash⟩
      have hRead : StringMode.text.read c = .goesOn .text := by
        rw [StringMode.read, if_neg hQuote,
          if_neg hBackslash]
      unfold StringMode.behind
      rw [hRead]
      exact
        ih (fun b hMem => hPlain b (List.mem_cons_of_mem c hMem))

end Shadow

end TrustOnboard

------------------------------------------------------------
-- What Stays
------------------------------------------------------------

namespace TrustOnboard

namespace Shadow

/- The last element with a property has it. -/
theorem lastIndex_some
    {α : Type}
    {p : α → Bool}
    {xs : List α}
    {i : Nat}
    (hLast : lastIndex p xs = some i) :
    ∃ x, xs[i]? = some x ∧ p x = true := by
  induction xs generalizing i with
  | nil => cases hLast
  | cons y ys ih =>
      unfold lastIndex at hLast
      cases hRest : lastIndex p ys with
      | some j =>
          rw [hRest] at hLast
          cases hLast
          rcases ih hRest with ⟨x, hGet, hHere⟩
          exact ⟨x, hGet, hHere⟩
      | none =>
          rw [hRest] at hLast
          dsimp only at hLast
          split at hLast
          · rename_i hHere
            cases hLast
            exact ⟨y, rfl, hHere⟩
          · cases hLast

/- Tokens that have ended stay as they are. -/
def KeepsEnded (ts ts' : List JsmnTok) : Prop :=
  ∀ (i : Nat) (tok : JsmnTok),
    ts[i]? = some tok → tok.isOpen = false →
      ts'[i]? = some tok

namespace KeepsEnded

variable {ts ts' ts'' : List JsmnTok}

theorem refl :
    KeepsEnded ts ts :=
  fun _ _ hGet _ => hGet

theorem trans
    (hFirst : KeepsEnded ts ts')
    (hSecond : KeepsEnded ts' ts'') :
    KeepsEnded ts ts'' :=
  fun i tok hGet hEnded =>
    hSecond i tok (hFirst i tok hGet hEnded) hEnded

theorem append
    (new : List JsmnTok) :
    KeepsEnded ts (ts ++ new) := by
  intro i tok hGet _
  rw [List.getElem?_append_left
    (List.getElem?_eq_some_iff.mp hGet).1, hGet]

end KeepsEnded

variable {numTokens pos : Nat}
variable {ts : List JsmnTok}

theorem bareOpen_keeps
    (type : JsmnType) :
    KeepsEnded ts (bareOpen numTokens pos type ts).1 := by
  unfold bareOpen
  split
  · exact KeepsEnded.refl
  · exact KeepsEnded.append _

theorem bareFill_keeps
    (tok : JsmnTok)
    (skipped : Nat) :
    KeepsEnded ts (bareFill numTokens tok skipped ts).1 := by
  unfold bareFill
  split
  · exact KeepsEnded.refl
  · exact KeepsEnded.append _

theorem bareClose_keeps
    (type : JsmnType) :
    KeepsEnded ts (bareClose pos type ts).1 := by
  unfold bareClose
  cases hLast : lastIndex JsmnTok.isOpen ts with
  | none => exact KeepsEnded.refl
  | some i =>
      dsimp only
      cases ts[i]? with
      | none => exact KeepsEnded.refl
      | some tok =>
          dsimp only
          split
          · exact KeepsEnded.refl
          · intro j other hGet hEnded
            rcases lastIndex_some hLast with
              ⟨opened, hOpened, hIsOpen⟩
            have hNe : i ≠ j := by
              rintro rfl
              rw [hGet] at hOpened
              cases hOpened
              rw [hEnded] at hIsOpen
              cases hIsOpen
            rw [List.getElem?_set_ne hNe, hGet]

theorem bareStep_keeps
    (numTokens pos : Nat)
    (ts : List JsmnTok)
    (c : UInt8)
    (rest : Bytes) :
    KeepsEnded ts (bareStep numTokens pos c rest ts).1 := by
  unfold bareStep
  split
  · exact bareOpen_keeps .object
  split
  · exact bareOpen_keeps .array
  split
  · exact bareClose_keeps .object
  split
  · exact bareClose_keeps .array
  split
  · split
    · exact KeepsEnded.refl
    · exact bareFill_keeps _ _
  split
  · exact KeepsEnded.refl
  split
  · exact KeepsEnded.refl
  split
  · exact KeepsEnded.refl
  · split
    · exact KeepsEnded.refl
    · exact bareFill_keeps _ _

/-
  The result of a run is an error or the number of tokens,
  and the tokens that had ended are among them.
-/
theorem bareLoop_keeps
    (numTokens : Nat)
    (text : Bytes)
    (pos skipped : Nat)
    (ts : List JsmnTok) :
    ((bareLoop numTokens text pos skipped ts).1 < 0 ∨
        (bareLoop numTokens text pos skipped ts).1 =
          (bareLoop numTokens text pos skipped ts).2.length) ∧
      KeepsEnded ts
        (bareLoop numTokens text pos skipped ts).2 := by
  have hNegative : ∀ e : JsmnError, e.code < 0 := by
    intro e
    cases e <;> decide
  induction text generalizing pos skipped ts with
  | nil =>
      unfold bareLoop
      split
      · exact ⟨.inl (hNegative .part), KeepsEnded.refl⟩
      · exact ⟨.inr rfl, KeepsEnded.refl⟩
  | cons c rest ih =>
      cases skipped with
      | succ skipped =>
          unfold bareLoop
          exact ih (pos + 1) skipped ts
      | zero =>
          have hHere :=
            bareStep_keeps numTokens pos ts c rest
          unfold bareLoop
          cases hStep : bareStep numTokens pos c rest ts with
          | mk ts' result =>
              rw [hStep] at hHere
              cases result with
              | error e => exact ⟨.inl (hNegative e), hHere⟩
              | ok k =>
                  have hRest := ih (pos + 1) k ts'
                  exact ⟨hRest.1, hHere.trans hRest.2⟩

/- The characters a token has taken with it. -/
theorem bareLoop_skip
    (numTokens : Nat)
    (done rest : Bytes)
    (pos : Nat)
    (ts : List JsmnTok) :
    bareLoop numTokens (done ++ rest) pos done.length ts =
      bareLoop numTokens rest (pos + done.length) 0 ts := by
  induction done generalizing pos with
  | nil => rfl
  | cons c done ih =>
      show
        bareLoop numTokens (done ++ rest) (pos + 1)
          done.length ts = _
      rw [ih, List.length_cons, Nat.add_assoc, Nat.add_comm 1]

/- A round without an error. -/
theorem bareLoop_ok
    {c : UInt8}
    {rest : Bytes}
    {ts' : List JsmnTok}
    {k : Nat}
    (hStep : bareStep numTokens pos c rest ts = (ts', .ok k)) :
    bareLoop numTokens (c :: rest) pos 0 ts =
      bareLoop numTokens rest (pos + 1) k ts' := by
  rw [bareLoop, hStep]

end Shadow

end TrustOnboard
