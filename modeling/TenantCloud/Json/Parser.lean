import TenantCloud.Json.Basic
import TenantCloud.Json.Number

/-!
# Reading JSON text

`Json.outline?` reads one value with blanks around it; each step gives what it read and what is left
of the text. It refuses control characters in strings, superfluous zeros in front of a number, and a
comma before a closing bracket. What has the form of a value but cannot be held is `broken`: a
string with half of a surrogate pair, a number beyond all floats, and brackets inside 127 others.
`Json.parse?` reads a value that is whole. A number without fraction and exponent is an `int` where
it fits 64 bits; minus zero does not.
-/

set_option autoImplicit false

namespace TenantCloud.Json

/-- Drop leading blanks; JSON has four. -/
def skipBlanks (cs : List Char) : List Char :=
  cs.dropWhile fun c => c == ' ' || c == '\n' || c == '\t' || c == '\r'

/-- Take the characters of `word` off the front. -/
def word? (word : List Char) (v : Json) (cs : List Char) : Option (Json × List Char) :=
  if word.isPrefixOf cs then some (v, cs.drop word.length) else none

/-! ## Strings -/

/-- The value of a hexadecimal digit of either case. -/
def hexValue? (c : Char) : Option Nat :=
  if '0' ≤ c && c ≤ '9' then some (c.toNat - '0'.toNat)
  else if 'a' ≤ c && c ≤ 'f' then some (c.toNat - 'a'.toNat + 10)
  else if 'A' ≤ c && c ≤ 'F' then some (c.toNat - 'A'.toNat + 10)
  else none

/-- Four hexadecimal digits. -/
def hex4? : List Char → Option (Nat × List Char)
  | a :: b :: c :: d :: rest => do
    let a ← hexValue? a
    let b ← hexValue? b
    let c ← hexValue? c
    let d ← hexValue? d
    some (((a * 16 + b) * 16 + c) * 16 + d, rest)
  | _ => none

/-- What follows the `u` of an escape: one unit, or two that form a pair. A unit that needs another
one beside it and has none makes no character. -/
def unicodeEscape? (cs : List Char) : Option (Option Char × List Char) := do
  let (n, rest) ← hex4? cs
  if n < 0xD800 ∨ 0xE000 ≤ n then return (some (Char.ofNat n), rest)
  let pair : Option (Nat × List Char) := match rest with
    | '\\' :: 'u' :: rest => hex4? rest
    | _ => none
  match pair with
  | some (m, after) =>
    if n < 0xDC00 ∧ 0xDC00 ≤ m ∧ m < 0xE000 then
      return (some (Char.ofNat (0x10000 + (n - 0xD800) * 0x400 + (m - 0xDC00))), after)
    else return (none, rest)
  | none => return (none, rest)

/-- What follows a backslash. -/
def escape? : List Char → Option (Option Char × List Char)
  | 'u' :: rest => unicodeEscape? rest
  | '"' :: rest => some ('"', rest)
  | '\\' :: rest => some ('\\', rest)
  | '/' :: rest => some ('/', rest)
  | 'b' :: rest => some ('\x08', rest)
  | 'f' :: rest => some ('\x0c', rest)
  | 'n' :: rest => some ('\n', rest)
  | 'r' :: rest => some ('\r', rest)
  | 't' :: rest => some ('\t', rest)
  | _ => none

/-- The rest of a string after its opening quote, no string where a part of it makes no character;
`fuel` bounds its characters, and `acc` holds those in front, the last one first. -/
def stringRest? : (fuel : Nat) → (acc : Option (List Char)) → List Char →
    Option (Option String × List Char)
  | 0, _, _ => none
  | _ + 1, _, [] => none
  | _ + 1, acc, '"' :: rest => some (acc.map fun cs => String.ofList cs.reverse, rest)
  | fuel + 1, acc, '\\' :: rest => do
    let (c, rest) ← escape? rest
    stringRest? fuel (acc.bind fun cs => c.map (· :: cs)) rest
  | fuel + 1, acc, c :: rest =>
    if c.toNat < 0x20 then none else stringRest? fuel (acc.map (c :: ·)) rest

/-- A string, its opening quote included; `size` bounds its characters. -/
def string? (size : Nat) : List Char → Option (Option String × List Char)
  | '"' :: rest => stringRest? size (some []) rest
  | _ => none

/-! ## Numbers -/

/-- Digits that may not start with a superfluous zero. -/
def wholePart? (cs : List Char) : Option (List Char × List Char) :=
  let ds := cs.takeWhile Text.Digits.isDigit
  match ds with
  | [] => none
  | '0' :: _ :: _ => none
  | ds => some (ds, cs.drop ds.length)

/-- A point and digits, if there is a point. -/
def fractionPart? : List Char → Option (List Char × List Char)
  | '.' :: cs =>
    let ds := cs.takeWhile Text.Digits.isDigit
    if ds.isEmpty then none else some ('.' :: ds, cs.drop ds.length)
  | cs => some ([], cs)

/-- An exponent, if there is one. -/
def exponentPart? : List Char → Option (List Char × List Char)
  | c :: cs =>
    if c = 'e' ∨ c = 'E' then
      let (sign, cs) := match cs with
        | '+' :: cs => (['+'], cs)
        | '-' :: cs => (['-'], cs)
        | cs => ([], cs)
      let ds := cs.takeWhile Text.Digits.isDigit
      if ds.isEmpty then none else some (c :: sign ++ ds, cs.drop ds.length)
    else some ([], c :: cs)
  | [] => some ([], [])

/-- A number. -/
def number? (cs : List Char) : Option (Json × List Char) := do
  let (minus, cs) := match cs with
    | '-' :: cs => (true, cs)
    | cs => (false, cs)
  let (whole, cs) ← wholePart? cs
  let (frac, cs) ← fractionPart? cs
  let (ex, cs) ← exponentPart? cs
  let n := Text.Digits.value whole
  let scale := (Text.Digits.readSigned? (ex.drop 1)).getD 0
  let real := (Number.literal? minus whole (frac.drop 1) scale).elim Json.broken .real
  let j :=
    if !frac.isEmpty || !ex.isEmpty then real
    else if minus then (if n = 0 ∨ Nat.pow 2 63 < n then real else .int (-Int.ofNat n))
    else if n < Nat.pow 2 64 then .int (Int.ofNat n)
    else real
  return (j, cs)

/-- A value without brackets; `size` bounds its characters. -/
def scalar? (size : Nat) (cs : List Char) : Option (Json × List Char) :=
  match cs with
  | 'n' :: _ => word? "null".toList .null cs
  | 't' :: _ => word? "true".toList (.bool true) cs
  | 'f' :: _ => word? "false".toList (.bool false) cs
  | '"' :: _ => (string? size cs).map fun r => (r.1.elim .broken .str, r.2)
  | _ => number? cs

/-! ## Brackets nested too deep -/

/-- What is expected next. -/
inductive Expected
  | value
  /-- A value, or the end of an array that has just begun. -/
  | firstItem
  | name
  /-- A name, or the end of an object that has just begun. -/
  | firstName
  /-- A comma or a closing bracket. -/
  | separator

/-- Pass over values inside brackets that are open, the innermost first, where `true` stands for a
brace; `size` bounds the characters, and `fuel` the steps. -/
def skip? (size : Nat) :
    (fuel : Nat) → Expected → (opened : List Bool) → List Char → Option (List Char)
  | 0, _, _, _ => none
  | _ + 1, _, [], cs => some cs
  | fuel + 1, e, brace :: outer, cs =>
    match e, skipBlanks cs with
    | .separator, ',' :: cs => skip? size fuel (if brace then .name else .value) (brace :: outer) cs
    | .separator, ']' :: cs | .firstItem, ']' :: cs =>
      if brace then none else skip? size fuel .separator outer cs
    | .separator, '}' :: cs | .firstName, '}' :: cs =>
      if brace then skip? size fuel .separator outer cs else none
    | .separator, _ => none
    | .name, cs | .firstName, cs => do
      let (_, cs) ← string? size cs
      match skipBlanks cs with
      | ':' :: cs => skip? size fuel .value (brace :: outer) cs
      | _ => none
    | _, '[' :: cs => skip? size fuel .firstItem (false :: brace :: outer) cs
    | _, '{' :: cs => skip? size fuel .firstName (true :: brace :: outer) cs
    | _, cs => do
      let (_, cs) ← scalar? size cs
      skip? size fuel .separator (brace :: outer) cs

/-! ## Values -/

/-- Items up to the closing bracket; `fuel` bounds their count. -/
def itemsRest? (value? : List Char → Option (Json × List Char)) :
    (fuel : Nat) → List Json → List Char → Option (List Json × List Char)
  | 0, _, _ => none
  | fuel + 1, acc, cs => do
    let (j, cs) ← value? cs
    match skipBlanks cs with
    | ',' :: cs => itemsRest? value? fuel (j :: acc) (skipBlanks cs)
    | ']' :: cs => some ((j :: acc).reverse, cs)
    | _ => none

/-- Members up to the closing brace, none where a name cannot be held; `size` bounds their names,
and `fuel` their count. -/
def membersRest? (size : Nat) (value? : List Char → Option (Json × List Char)) :
    (fuel : Nat) → Option Members → List Char → Option (Option Members × List Char)
  | 0, _, _ => none
  | fuel + 1, acc, cs => do
    let (name, cs) ← string? size cs
    match skipBlanks cs with
    | ':' :: cs =>
      let (j, cs) ← value? (skipBlanks cs)
      let acc := acc.bind fun ms => name.map fun k => (k, j) :: ms
      match skipBlanks cs with
      | ',' :: cs => membersRest? size value? fuel acc (skipBlanks cs)
      | '}' :: cs => some (acc.map List.reverse, cs)
      | _ => none
    | _ => none

/-- A value without blanks in front, in which `depth` brackets can be open at once; `size` bounds
its characters. -/
def value? (size : Nat) : (depth : Nat) → List Char → Option (Json × List Char)
  | 0, cs =>
    match cs with
    | '[' :: cs => (skip? size (3 * size + 2) .firstItem [false] cs).map (.broken, ·)
    | '{' :: cs => (skip? size (3 * size + 2) .firstName [true] cs).map (.broken, ·)
    | cs => scalar? size cs
  | depth + 1, cs =>
    match cs with
    | '[' :: cs =>
      match skipBlanks cs with
      | ']' :: cs => some (.arr [], cs)
      | cs => (itemsRest? (value? size depth) size [] cs).map fun r => (.arr r.1, r.2)
    | '{' :: cs =>
      match skipBlanks cs with
      | '}' :: cs => some (.obj [], cs)
      | cs =>
        (membersRest? size (value? size depth) size (some []) cs).map fun r =>
          (r.1.elim .broken .obj, r.2)
    | cs => scalar? size cs

/-- How many brackets can be open at once around what is held. -/
def maxDepth : Nat := 127

/-- A text that has the form of one value, parts of which may be broken. -/
def outline? (s : String) : Option Json := do
  let (j, rest) ← value? (s.length + 1) maxDepth (skipBlanks s.toList)
  if (skipBlanks rest).isEmpty then some j else none

/-- A text that holds one value. -/
def parse? (s : String) : Option Json := (outline? s).filter isWhole

end TenantCloud.Json
