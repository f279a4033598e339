/-!
# Decimal digits

`value` is the number that a list of decimal digits spells, `read?` accepts exactly the non-empty
lists of ASCII digits, and `readSigned?` allows one sign in front. `padded` writes a number with
at least a given count of digits.
-/

set_option autoImplicit false

namespace TenantCloud.Text.Digits

/-- One of the ten ASCII digits. -/
def isDigit (c : Char) : Bool := '0' ≤ c && c ≤ '9'

/-- What one digit adds. -/
def digitValue (c : Char) : Nat := c.toNat - '0'.toNat

/-- The number that the digits spell, most significant first. -/
def value (cs : List Char) : Nat := cs.foldl (fun acc c => acc * 10 + digitValue c) 0

/-- A non-empty list of digits as a number. -/
def read? (cs : List Char) : Option Nat :=
  if cs.isEmpty || !cs.all isDigit then none else some (value cs)

/-- One optional sign and at least one digit. -/
def readSigned? : List Char → Option Int
  | '+' :: cs => (read? cs).map Int.ofNat
  | '-' :: cs => (read? cs).map fun n => -Int.ofNat n
  | cs => (read? cs).map Int.ofNat

/-- Decimal digits of `n`, with zeros in front up to `width` digits. -/
def padded (width n : Nat) : String :=
  let ds := Nat.toDigits 10 n
  String.ofList (List.replicate (width - ds.length) '0' ++ ds)

theorem value_append_singleton (cs : List Char) (c : Char) :
    value (cs ++ [c]) = value cs * 10 + digitValue c := by simp [value]

theorem value_cons_foldl (cs : List Char) (acc : Nat) :
    cs.foldl (fun acc c => acc * 10 + digitValue c) acc =
      acc * Nat.pow 10 cs.length + value cs := by
  induction cs generalizing acc with
  | nil => simp [value]
  | cons c cs ih =>
    have hc : value (c :: cs) = digitValue c * Nat.pow 10 cs.length + value cs := by
      have := ih (0 * 10 + digitValue c)
      simpa [value] using this
    have hpow : Nat.pow 10 (cs.length + 1) = Nat.pow 10 cs.length * 10 := rfl
    rw [List.foldl_cons, ih, hc, List.length_cons, hpow, Nat.add_mul, Nat.mul_assoc,
      Nat.mul_comm 10, Nat.add_assoc]

theorem value_append (as bs : List Char) :
    value (as ++ bs) = value as * Nat.pow 10 bs.length + value bs := by
  rw [value, List.foldl_append, value_cons_foldl]; rfl

theorem digitValue_lt {c : Char} (h : isDigit c = true) : digitValue c < 10 := by
  simp only [isDigit, Bool.and_eq_true, decide_eq_true_eq, Char.le_def] at h
  simp only [digitValue]
  have h2 := h.2
  have : c.toNat ≤ '9'.toNat := h2
  have e : '9'.toNat = 57 := rfl
  have e' : '0'.toNat = 48 := rfl
  omega

theorem value_lt {cs : List Char} (h : cs.all isDigit = true) : value cs < Nat.pow 10 cs.length := by
  induction cs with
  | nil => simp [value]
  | cons c cs ih =>
    simp only [List.all_cons, Bool.and_eq_true] at h
    have hc := digitValue_lt h.1
    have := ih h.2
    have hpow : Nat.pow 10 (cs.length + 1) = Nat.pow 10 cs.length * 10 := rfl
    rw [value, List.foldl_cons, value_cons_foldl, List.length_cons, hpow,
      Nat.zero_mul, Nat.zero_add]
    have : digitValue c * Nat.pow 10 cs.length ≤ 9 * Nat.pow 10 cs.length :=
      Nat.mul_le_mul_right _ (by omega)
    omega

end TenantCloud.Text.Digits
