import TenantCloud.Text.Utf8

/-!
# Form encoding

How a text stands in the parameters of a path: a blank is a plus, letters, digits and four marks
stand for themselves, and any other octet is a percent sign and two hexadecimal digits. `decode`
leaves a percent sign alone that no two such digits follow.
-/

set_option autoImplicit false

namespace TenantCloud.Text.Form

/-- Octets that stand for themselves. -/
def isPlain (b : Nat) : Bool :=
  let c := Char.ofNat b
  b < 0x80 && (c.isAlphanum || c = '*' || c = '-' || c = '.' || c = '_')

/-- A hexadecimal digit in upper case. -/
def hexDigit (n : Nat) : Char := (Nat.digitChar (n % 16)).toUpper

def encodeOctet (b : Nat) : List Char :=
  if b = 0x20 then ['+']
  else if isPlain b then [Char.ofNat b]
  else ['%', hexDigit (b / 16), hexDigit b]

/-- A text as it stands in a parameter. -/
def encode (s : String) : String := String.ofList ((Utf8.octets s).flatMap encodeOctet)

/-- The value of the octet of a hexadecimal digit. -/
def hexValue? (b : Nat) : Option Nat :=
  if 0x30 ≤ b ∧ b ≤ 0x39 then some (b - 0x30)
  else if 0x41 ≤ b ∧ b ≤ 0x46 then some (b - 0x41 + 10)
  else if 0x61 ≤ b ∧ b ≤ 0x66 then some (b - 0x61 + 10)
  else none

/-- The octet that the two behind a percent sign stand for. -/
def escaped? (a b : Nat) : Option Nat := do return (← hexValue? a) * 16 + (← hexValue? b)

def decodeOctets : List Nat → List Nat
  | [] => []
  | 0x2B :: rest => 0x20 :: decodeOctets rest
  | 0x25 :: a :: b :: rest =>
    match escaped? a b with
    | some c => c :: decodeOctets rest
    | none => 0x25 :: decodeOctets (a :: b :: rest)
  | b :: rest => b :: decodeOctets rest

/-- The text that stands in a parameter. -/
def decode (s : String) : String := Utf8.text (decodeOctets (Utf8.octets s))

end TenantCloud.Text.Form
