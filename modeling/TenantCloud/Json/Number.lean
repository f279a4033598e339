import TenantCloud.Data.Binary
import TenantCloud.Text.Digits

/-!
# Numbers in JSON text

`Number.literal?` is the text by which a number with a fraction or an exponent is written again: the
shortest digits of the binary number that it stands for, positional where the point is not far off.
-/

set_option autoImplicit false

namespace TenantCloud.Json.Number

open TenantCloud.Text

/-- The digits that count and the power of ten of the last of them, while a text is read. -/
structure Significand where
  value : Nat := 0
  exponent : Int := 0
  deriving DecidableEq

namespace Significand

/-- There is room for one more digit: 64 bits hold the number. -/
def admits (s : Significand) (c : Char) : Bool := s.value * 10 + Digits.digitValue c < Nat.pow 2 64

/-- One more digit that counts. -/
def push (s : Significand) (c : Char) : Significand :=
  { s with value := s.value * 10 + Digits.digitValue c }

/-- Digits in front of the point. Once one does not fit, all that follow only scale. -/
def addWhole (s : Significand) : List Char → Significand
  | [] => s
  | c :: cs =>
    if s.admits c then (s.push c).addWhole cs
    else { s with exponent := s.exponent + (c :: cs).length }

/-- Digits behind the point. Once one does not fit, all that follow are dropped. -/
def addFraction (s : Significand) : List Char → Significand
  | [] => s
  | c :: cs =>
    if s.admits c then { s.push c with exponent := s.exponent - 1 }.addFraction cs else s

end Significand

/-- The binary number that some digits stand for, if there is one. -/
def value? (whole fraction : List Char) (exponent : Int) : Option Rat :=
  let s := (({} : Significand).addWhole whole).addFraction fraction
  Binary.scaled? s.value (s.exponent + exponent)

/-! ## Writing -/

/-- The point is written behind so many digits at most. -/
def maxWhole : Int := 16

/-- The point is written in front of so many zeros at most. -/
def maxZeros : Int := 4

def zeros (n : Int) : List Char := List.replicate n.toNat '0'

/-- Digits with a power of ten, in positional notation if the point is not far off. -/
def layout (ds : List Char) (e : Int) : List Char :=
  let point := ds.length + e
  if 0 ≤ e ∧ point ≤ maxWhole then ds ++ zeros e ++ ['.', '0']
  else if 0 < point ∧ point ≤ maxWhole then ds.take point.toNat ++ '.' :: ds.drop point.toNat
  else if -maxZeros ≤ point ∧ point ≤ 0 then '0' :: '.' :: (zeros (-point) ++ ds)
  else
    let fraction := if ds.length ≤ 1 then [] else '.' :: ds.drop 1
    ds.take 1 ++ fraction ++ 'e' :: (toString (point - 1)).toList

/-- The text of a binary number that is not negative. -/
def render (x : Rat) : List Char :=
  if x = 0 then ['0', '.', '0']
  else
    let (m, e) := Binary.digits x
    layout (Nat.toDigits 10 m) e

/-- How some digits are written again, if they stand for a binary number. -/
def literal? (minus : Bool) (whole fraction : List Char) (exponent : Int) : Option String :=
  (value? whole fraction exponent).map fun x =>
    String.ofList ((if minus then ['-'] else []) ++ render x)

end TenantCloud.Json.Number
