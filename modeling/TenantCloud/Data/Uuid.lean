/-!
# Identities

A `Uuid` is 128 bits. `render` writes the canonical text, lower-case hexadecimal digits in groups
of 8, 4, 4, 4 and 12 joined by hyphens. `parse?` reads that form with digits in any case, bare
(without hyphens), in braces, or behind `urn:uuid:` in any case, and nothing else.
-/

set_option autoImplicit false

namespace TenantCloud

/-- A 128-bit identity. -/
structure Uuid where
  bits : BitVec 128
  deriving DecidableEq, Inhabited

namespace Uuid

/-- The identity whose bits are the binary digits of `n`. -/
def ofNat (n : Nat) : Uuid := ⟨BitVec.ofNat 128 n⟩

/-- All bits zero. -/
def nil : Uuid := ofNat 0

/-- The value of a hexadecimal digit of either case. -/
def hexValue? (c : Char) : Option Nat :=
  if '0' ≤ c && c ≤ '9' then some (c.toNat - '0'.toNat)
  else if 'a' ≤ c && c ≤ 'f' then some (c.toNat - 'a'.toNat + 10)
  else if 'A' ≤ c && c ≤ 'F' then some (c.toNat - 'A'.toNat + 10)
  else none

/-- The number that hexadecimal digits spell. -/
def readHex? (cs : List Char) : Option Nat :=
  cs.foldlM (fun acc c => (hexValue? c).map (acc * 16 + ·)) 0

/-- Lengths of the groups of the canonical text. -/
def groups : List Nat := [8, 4, 4, 4, 12]

/-- The digits of groups of the given lengths, joined by hyphens. -/
def ungroup? : List Nat → List Char → Option (List Char)
  | [], _ => none
  | [n], cs => if cs.length = n then some cs else none
  | n :: ns, cs =>
    match cs.drop n with
    | '-' :: rest => (ungroup? ns rest).map (cs.take n ++ ·)
    | _ => none

/-- Digits put into groups of the given lengths, joined by hyphens. -/
def group : List Nat → List Char → List Char
  | [], _ => []
  | [_], cs => cs
  | n :: ns, cs => cs.take n ++ '-' :: group ns (cs.drop n)

/-- The bare form: 32 digits. -/
def ofBare? (cs : List Char) : Option Uuid :=
  if cs.length = 32 then (readHex? cs).map ofNat else none

/-- The hyphenated form. -/
def ofHyphenated? (cs : List Char) : Option Uuid := (ungroup? groups cs).bind ofBare?

/-- Reads each of the four accepted forms. -/
def parse? (s : String) : Option Uuid :=
  let cs := s.toList
  match cs.length with
  | 32 => ofBare? cs
  | 36 => ofHyphenated? cs
  | 38 =>
    if cs.head? = some '{' && cs.getLast? = some '}' then ofHyphenated? (cs.tail.dropLast) else none
  | 45 =>
    if (cs.take 9).map Char.toLower = "urn:uuid:".toList then ofHyphenated? (cs.drop 9) else none
  | _ => none

/-- The 32 lower-case hexadecimal digits. -/
def digits (u : Uuid) : List Char :=
  let ds := Nat.toDigits 16 u.bits.toNat
  List.replicate (32 - ds.length) '0' ++ ds

/-- The canonical text. -/
def render (u : Uuid) : String := String.ofList (group groups u.digits)

instance : ToString Uuid := ⟨render⟩

end Uuid

end TenantCloud
