import TenantCloud.Data.Dict
import TenantCloud.Text.Blank
import TenantCloud.Text.Digits

/-!
# Resource quantities

A quantity is a decimal number with a suffix that scales it: `4Gi`, `500m`, `1e3`. A text is taken
apart (`parts?`), and its value in thousandths, cut off toward zero, is computed from the parts in
128 bits; a text that is no quantity or does not fit has none.

Four operations of the computation are not guarded against results that their words do not hold.
What becomes of those depends on the build: higher bits are dropped (`Words.wrapping`), or the
reading stops (`Words.checked`). There is one reading for both, `Words.milli`. The passes use that
of a build which drops bits: `milli?`, the whole number of mebibytes in a quantity of bytes
(`mebibytes?`), and the comparison of two maps of quantities by value (`sameLimits`).
-/

set_option autoImplicit false

namespace TenantCloud.Quantity

/-- What a suffix does to the number in front of it: the number is multiplied by `factor` and by
ten to the power of `exponent`. -/
structure Scale where
  factor : Nat
  exponent : Int
  deriving DecidableEq

/-- An exponent in 32 signed bits: an optional sign and digits. -/
def exponent? (cs : List Char) : Option Int :=
  (Text.Digits.readSigned? cs).filter fun n => -Int.pow 2 31 ≤ n ∧ n < Int.pow 2 31

/-- Binary suffixes, decimal suffixes, and exponents. -/
def scale? (suffix : List Char) : Option Scale :=
  match suffix with
  | [] => some ⟨1, 0⟩
  | ['K', 'i'] => some ⟨Nat.pow 2 10, 0⟩
  | ['M', 'i'] => some ⟨Nat.pow 2 20, 0⟩
  | ['G', 'i'] => some ⟨Nat.pow 2 30, 0⟩
  | ['T', 'i'] => some ⟨Nat.pow 2 40, 0⟩
  | ['P', 'i'] => some ⟨Nat.pow 2 50, 0⟩
  | ['E', 'i'] => some ⟨Nat.pow 2 60, 0⟩
  | ['n'] => some ⟨1, -9⟩
  | ['u'] => some ⟨1, -6⟩
  | ['m'] => some ⟨1, -3⟩
  | ['k'] => some ⟨1, 3⟩
  | ['M'] => some ⟨1, 6⟩
  | ['G'] => some ⟨1, 9⟩
  | ['T'] => some ⟨1, 12⟩
  | ['P'] => some ⟨1, 15⟩
  | ['E'] => some ⟨1, 18⟩
  | 'e' :: cs => (exponent? cs).map (⟨1, ·⟩)
  | 'E' :: cs => (exponent? cs).map (⟨1, ·⟩)
  | _ => none

/-! ## Arithmetic in 128 bits -/

/-- The largest number that is computed with. -/
def maxMagnitude : Nat := Nat.pow 2 127 - 1

/-- A number that is small enough to compute with. -/
def fit? (n : Nat) : Option Nat := if n ≤ maxMagnitude then some n else none

/-- The largest power of ten that fits has this exponent. -/
def maxPower : Nat := 38

/-- A power of ten that fits. -/
def powerOfTen? (k : Nat) : Option Nat := if k ≤ maxPower then some (Nat.pow 10 k) else none

/-! ## The parts of a text -/

def isSign (c : Char) : Bool := c == '+' || c == '-'

/-- Characters of the number; the suffix starts at the first other one. -/
def isNumeric (c : Char) : Bool := Text.Digits.isDigit c || c == '.' || isSign c

/-- The digits in front of the first point and those behind it. -/
def halves (cs : List Char) : List Char × List Char :=
  (cs.takeWhile (· ≠ '.'), (cs.dropWhile (· ≠ '.')).drop 1)

/-- What the value of a text is computed from. -/
structure Parts where
  negative : Bool
  mantissa : Nat
  /-- How many digits of the mantissa are behind the point. -/
  places : Nat
  scale : Scale
  deriving DecidableEq

def parts? (raw : String) : Option Parts := do
  let cs := Text.trimChars raw.toList
  let number := cs.takeWhile isNumeric
  guard (!number.isEmpty)
  let s ← scale? (cs.dropWhile isNumeric)
  let (whole, frac) := halves (number.dropWhile isSign)
  let mantissa ← (Text.Digits.read? (whole ++ frac)).bind fit?
  return ⟨decide (number.head? = some '-'), mantissa, frac.length, s⟩

/-! ## Words -/

/-- The operations whose results nothing guards. -/
inductive Operation
  /-- The exponent of the scale and three. -/
  | sum
  /-- That sum less the digits behind the point. -/
  | difference
  /-- The opposite of a power that divides. -/
  | opposite
  /-- The opposite of a magnitude. -/
  | negation
  deriving DecidableEq

/-- How many bits the word of a result has beside its sign. -/
def Operation.bits : Operation → Nat
  | .negation => 127
  | _ => 31

/-- What a build says that stops at an operation. -/
def Operation.message : Operation → String
  | .sum => "attempt to add with overflow"
  | .difference => "attempt to subtract with overflow"
  | .opposite | .negation => "attempt to negate with overflow"

/-- What a build makes of the result of an operation. -/
structure Words (m : Type → Type) where
  keep : Operation → Int → m Int

/-- Higher bits are dropped. -/
def Words.wrapping : Words Id where
  keep o n := n.bmod (Nat.pow 2 (o.bits + 1))

/-- A result that its word does not hold ends the reading. -/
def Words.checked : Words (Except Operation) where
  keep o n := if -Int.pow 2 o.bits ≤ n ∧ n < Int.pow 2 o.bits then .ok n else .error o

/-- A whole number in 32 signed bits, as a count is cast to them: higher bits are dropped. -/
def wrap32 (n : Int) : Int := n.bmod (Nat.pow 2 32)

/-! ## Reading -/

/-- Bytes in a mebibyte. -/
def mebibyte : Int := Int.pow 2 20

/-- The whole mebibytes in thousandths of a byte, when these are not negative and those fit 64
bits. -/
def inMebibytes? (n : Int) : Option Int := do
  guard (0 ≤ n)
  let mb := n / 1000 / mebibyte
  guard (mb < Int.pow 2 63)
  return mb

namespace Words

variable {m : Type → Type} [Monad m] (words : Words m)

/-- The thousandths that a mantissa stands for under a scale, when the last `places` digits of the
mantissa are behind the point. -/
def scaled (mantissa places : Nat) (s : Scale) : m (Option Nat) := do
  let sum ← words.keep .sum (s.exponent + 3)
  let power ← words.keep .difference (sum - wrap32 places)
  if 0 ≤ power then
    return (powerOfTen? power.toNat).bind fun p =>
      (fit? (mantissa * p)).bind fun n => fit? (n * s.factor)
  else
    match fit? (mantissa * s.factor) with
    | none => return none
    | some n =>
      let opposite ← words.keep .opposite (-power)
      return (powerOfTen? opposite.natAbs).map (n / ·)

/-- A magnitude with the sign of the text. -/
def signed (p : Parts) (n : Nat) : m Int :=
  if p.negative then words.keep .negation (-n) else pure n

/-- The value of a quantity in thousandths, cut off toward zero. -/
def milli (raw : String) : m (Option Int) :=
  match parts? raw with
  | none => return none
  | some p => do
    match ← words.scaled p.mantissa p.places p.scale with
    | none => return none
    | some n => return some (← words.signed p n)

def mebibytes (raw : String) : m (Option Int) :=
  return (← words.milli raw).bind inMebibytes?

/-- Two texts for one quantity: of equal value where both have one, else the same text. -/
def same (a b : String) : m Bool := do
  match ← words.milli a, ← words.milli b with
  | some x, some y => return x == y
  | _, _ => return a == b

/-- Two maps of quantities with the same keys and, at each, the same quantity. -/
def sameLimits (a b : Dict String String) : m Bool :=
  if a.size == b.size then
    a.toList.allM fun e => (b.get? e.1).elim (pure false) (words.same e.2)
  else
    return false

end Words

/-! ## Reading in a build that drops bits -/

/-- The value of a quantity in thousandths, cut off toward zero. -/
def milli? (raw : String) : Option Int := Id.run (Words.wrapping.milli raw)

/-- The whole mebibytes in a quantity of bytes, when it is not negative and they fit 64 bits. -/
def mebibytes? (raw : String) : Option Int := Id.run (Words.wrapping.mebibytes raw)

/-- Two texts for one quantity: of equal value where both have one, else the same text. -/
def same (a b : String) : Bool := Id.run (Words.wrapping.same a b)

/-- Two maps of quantities with the same keys and, at each, the same quantity. -/
def sameLimits (a b : Dict String String) : Bool := Id.run (Words.wrapping.sameLimits a b)

end TenantCloud.Quantity
