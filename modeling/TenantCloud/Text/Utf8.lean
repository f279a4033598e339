/-!
# Text from octets

`Utf8.text` reads octets as UTF-8 and puts U+FFFD for what is none: one for each octet that cannot
begin a character, and one for each beginning of a character that does not go on.
-/

set_option autoImplicit false

namespace TenantCloud.Text.Utf8

/-- A character that has begun. -/
structure Pending where
  /-- How many octets are still to come. -/
  owed : Nat
  /-- The least and the greatest value of the next one. -/
  low : Nat := 0x80
  high : Nat := 0xBF
  /-- The digits so far. -/
  value : Nat

/-- What stands for octets that make no character. -/
def replacement : Char := '\ufffd'

/-- What the first octet of a character makes. -/
def first (b : Nat) : List Char × Option Pending :=
  if b < 0x80 then ([Char.ofNat b], none)
  else if 0xC2 ≤ b ∧ b ≤ 0xDF then ([], some { owed := 1, value := b % 0x20 })
  else if 0xE0 ≤ b ∧ b ≤ 0xEF then
    ([], some {
      owed := 2, low := if b = 0xE0 then 0xA0 else 0x80
      high := if b = 0xED then 0x9F else 0xBF, value := b % 0x10 })
  else if 0xF0 ≤ b ∧ b ≤ 0xF4 then
    ([], some {
      owed := 3, low := if b = 0xF0 then 0x90 else 0x80
      high := if b = 0xF4 then 0x8F else 0xBF, value := b % 0x08 })
  else ([replacement], none)

/-- What one more octet makes. -/
def step (pending : Option Pending) (b : Nat) : List Char × Option Pending :=
  match pending with
  | none => first b
  | some p =>
    if p.low ≤ b ∧ b ≤ p.high then
      let value := p.value * 0x40 + b % 0x40
      if p.owed ≤ 1 then ([Char.ofNat value], none)
      else ([], some { owed := p.owed - 1, value })
    else
      let (cs, next) := first b
      (replacement :: cs, next)

/-- The characters that octets make after a beginning. -/
def chars : Option Pending → List Nat → List Char
  | none, [] => []
  | some _, [] => [replacement]
  | pending, b :: rest =>
    let (cs, next) := step pending b
    cs ++ chars next rest

/-- The text that octets make. -/
def text (octets : List Nat) : String := String.ofList (chars none octets)

/-- The octets of a text. -/
def octets (s : String) : List Nat := s.toUTF8.toList.map UInt8.toNat

end TenantCloud.Text.Utf8
