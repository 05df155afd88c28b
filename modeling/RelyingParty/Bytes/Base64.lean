import RelyingParty.Text.Digits

/-!
# Base64

The standard alphabet with padding. Decoding takes only the canonical form: padding up to whole
groups of four symbols, and no unused bits set in the last symbol. The last group is the only one
that may hold padding, and it is read after all others.
-/

namespace RelyingParty.Bytes.Base64
set_option autoImplicit false

/-- Why a text is not canonical base64. -/
inductive Fault where
  | symbol (byte : UInt8) (offset : Nat)
  | length (symbols : Nat)
  | padding
  | lastSymbol (byte : UInt8) (offset : Nat)
deriving DecidableEq

/-- The wording of a fault. -/
def Fault.message : Fault → String
  | .symbol byte offset =>
    "Invalid symbol " ++ Text.decimal byte.toNat ++ ", offset " ++ Text.decimal offset ++ "."
  | .length symbols => "Invalid input length: " ++ Text.decimal symbols
  | .padding => "Invalid padding"
  | .lastSymbol byte offset =>
    "Invalid last symbol " ++ Text.decimal byte.toNat ++ ", offset " ++ Text.decimal offset ++ "."

/-- The padding byte, an equals sign. -/
def pad : UInt8 := 61

/-- The six bits that a symbol stands for. -/
def value? (b : UInt8) : Option Nat :=
  let n := b.toNat
  if 65 ≤ n ∧ n ≤ 90 then some (n - 65)
  else if 97 ≤ n ∧ n ≤ 122 then some (n - 71)
  else if 48 ≤ n ∧ n ≤ 57 then some (n + 4)
  else if n = 43 then some 62
  else if n = 47 then some 63
  else none

/-- The symbol of six bits. -/
def symbol (v : Nat) : UInt8 :=
  if v < 26 then UInt8.ofNat (v + 65)
  else if v < 52 then UInt8.ofNat (v + 71)
  else if v < 62 then UInt8.ofNat (v - 4)
  else if v = 62 then 43
  else 47

/-- The symbols that stand for a byte string. -/
def encode : List UInt8 → List UInt8
  | [] => []
  | [a] => [symbol (a.toNat / 4), symbol (a.toNat % 4 * 16), pad, pad]
  | [a, b] =>
    [symbol (a.toNat / 4), symbol (a.toNat % 4 * 16 + b.toNat / 16), symbol (b.toNat % 16 * 4), pad]
  | a :: b :: c :: rest =>
    symbol (a.toNat / 4) :: symbol (a.toNat % 4 * 16 + b.toNat / 16) ::
      symbol (b.toNat % 16 * 4 + c.toNat / 64) :: symbol (c.toNat % 64) :: encode rest

/-- The base64 text of a byte string. -/
def text (bytes : List UInt8) : String :=
  String.ofList ((encode bytes).map fun b => Char.ofNat b.toNat)

/-- The values of symbols from `offset` on; each has to be in the alphabet. -/
def values (offset : Nat) : List UInt8 → Except Fault (List Nat)
  | [] => .ok []
  | b :: rest =>
    match value? b with
    | none => .error (.symbol b offset)
    | some v => (values (offset + 1) rest).map (v :: ·)

/-- The bytes of four symbols at a time. -/
def bytesOfValues : List Nat → List UInt8
  | a :: b :: c :: d :: rest =>
    UInt8.ofNat (a * 4 + b / 16) :: UInt8.ofNat (b % 16 * 16 + c / 4) ::
      UInt8.ofNat (c % 4 * 64 + d) :: bytesOfValues rest
  | _ => []

/-- Whether only padding is left; a symbol after padding is a fault of the padding. -/
def checkPadding (firstPad : Nat) : List UInt8 → Except Fault Unit
  | [] => .ok ()
  | b :: rest => if b = pad then checkPadding firstPad rest else .error (.symbol pad firstPad)

/-- The values of the symbols in the last group, `seen` of which came before, up to its padding. -/
def lastValues (start seen : Nat) : List UInt8 → Except Fault (List Nat)
  | [] => .ok []
  | b :: rest =>
    if b = pad then
      if seen < 2 then .error (.symbol b (start + seen))
      else (checkPadding (start + seen) rest).map fun _ => []
    else
      match value? b with
      | none => .error (.symbol b (start + seen))
      | some v => (lastValues start (seen + 1) rest).map (v :: ·)

/-- The bytes of the symbols in the last group, when they leave no bit unused. -/
def lastBytes? : List Nat → Option (List UInt8)
  | [a, b] => if b % 16 = 0 then some [UInt8.ofNat (a * 4 + b / 16)] else none
  | [a, b, c] =>
    if c % 4 = 0 then some [UInt8.ofNat (a * 4 + b / 16), UInt8.ofNat (b % 16 * 16 + c / 4)]
    else none
  | vs => some (bytesOfValues vs)

/-- The bytes of the last group of a text, which starts at `start`. -/
def decodeLast (start : Nat) (group : List UInt8) : Except Fault (List UInt8) := do
  let vs ← lastValues start 0 group
  if vs.length < 2 ∧ group ≠ [] then throw (.length (start + vs.length))
  if group.length % 4 ≠ 0 then throw .padding
  match lastBytes? vs with
  | some bytes => return bytes
  | none => throw (.lastSymbol (group.getD (vs.length - 1) 0) (start + vs.length - 1))

/-- Whether a byte is neither padding nor in the alphabet. -/
def isForeign (b : UInt8) : Bool :=
  b != pad && (value? b).isNone

/-- The length of the last group of a text of `n` bytes. -/
def lastLength (n : Nat) : Nat :=
  if n % 4 = 0 then min n 4 else n % 4

/-- The bytes that canonical base64 stands for. A foreign byte that stands alone after whole groups is
found first. -/
def decode (input : List UInt8) : Except Fault (List UInt8) := do
  let n := input.length
  if n % 4 = 1 then
    match input.getLast? with
    | some b => if isForeign b then throw (.symbol b (n - 1))
    | none => pure ()
  let start := n - lastLength n
  let vs ← values 0 (input.take start)
  let last ← decodeLast start (input.drop start)
  return bytesOfValues vs ++ last

/-- The bytes that a base64 text stands for. -/
def ofText (s : String) : Except Fault (List UInt8) :=
  decode s.toUTF8.toList

end RelyingParty.Bytes.Base64
