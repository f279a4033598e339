/-!
# Binary floating point

`Binary.nearest` is the number of 53 significant binary digits that lies nearest, an even last digit
winning a tie; no digit stands for less than `2 ^ minExponent`. `scaled?` is such a number for a
whole number times a power of ten. `digits` are the fewest decimal digits that read back as the same
number, and of those the nearest.
-/

set_option autoImplicit false

namespace TenantCloud.Binary

/-- How many significant binary digits there are. -/
def precision : Nat := 53

/-- The least power of two that a digit can stand for. -/
def minExponent : Int := -1074

/-- The first number that is too large. -/
def limit : Rat := (Nat.pow 2 1024 : Nat)

/-- The nearest whole number, the even one of two. -/
def roundEven (x : Rat) : Int :=
  let n := x.floor
  let rest := x - n
  if rest < 1 / 2 then n else if 1 / 2 < rest then n + 1 else if n % 2 = 0 then n else n + 1

/-- A power of a base. -/
def power (base : Nat) (e : Int) : Rat :=
  if 0 ≤ e then (Nat.pow base e.toNat : Nat) else 1 / (Nat.pow base (-e).toNat : Nat)

/-- The exponent of the highest binary digit of a positive number. -/
def leading (x : Rat) : Int :=
  let k : Int := Nat.log2 x.num.toNat - Nat.log2 x.den
  if x < power 2 k then k - 1 else k

/-- The nearest number of 53 significant binary digits, zero for a negative one. -/
def nearest (x : Rat) : Rat :=
  if x ≤ 0 then 0
  else
    let unit := power 2 (max (leading x - (precision - 1 : Nat)) minExponent)
    roundEven (x / unit) * unit

/-! ## From decimal digits -/

/-- The largest power of ten that is a number of its own. -/
def maxDecimal : Nat := 308

/-- The largest powers of ten are divided by first. -/
def divide (x : Rat) (e : Nat) : Rat :=
  if x = 0 then 0
  else if e ≤ maxDecimal then nearest (x / nearest (power 10 e))
  else divide (nearest (x / nearest (power 10 maxDecimal))) (e - maxDecimal)
  termination_by e
  decreasing_by simp only [maxDecimal] at *; omega

/-- A whole number times a power of ten, if it is not too large. Each of the two is rounded, and so
is the result. -/
def scaled? (n : Nat) (e : Int) : Option Rat :=
  if n = 0 then some 0
  else if e < 0 then some (divide (nearest n) (-e).toNat)
  else
    let x := nearest (nearest n * nearest (power 10 e))
    if e ≤ maxDecimal ∧ x < limit then some x else none

/-! ## To decimal digits -/

/-- The exponent of the highest decimal digit of a positive number. -/
def leadingDecimal (x : Rat) : Int :=
  let whole (y : Rat) : Int := (Nat.toDigits 10 y.floor.toNat).length - 1
  if 1 ≤ x then whole x
  else
    let k := whole (1 / x)
    if 1 / x = power 10 k then -k else -(k + 1)

/-- Some count of decimal digits of a positive number, with the power of ten of the last of them:
of the two neighbours that have so many digits, the nearer one that reads back, an even one winning
a tie. -/
def digitsOf? (count : Nat) (x : Rat) : Option (Nat × Int) :=
  let e := leadingDecimal x - (count - 1 : Nat)
  let unit := power 10 e
  let low := (x / unit).floor.toNat
  let first := (roundEven (x / unit)).toNat
  let second := if first = low then low + 1 else low
  ([first, second].find? fun m : Nat => nearest (m * unit) = x).map (·, e)

/-- How many decimal digits tell every number from its neighbours. -/
def maxDigits : Nat := 17

/-- The fewest decimal digits that read back as a number, with the power of ten of the last. -/
def digits (x : Rat) : Nat × Int :=
  let counts := (List.range maxDigits).map (· + 1)
  let (m, e) := (counts.findSome? fun count => digitsOf? count x).getD (0, 0)
  let zeros := ((Nat.toDigits 10 m).reverse.takeWhile (· = '0')).length
  (m / Nat.pow 10 zeros, e + zeros)

end TenantCloud.Binary
