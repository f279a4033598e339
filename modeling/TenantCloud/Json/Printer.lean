import TenantCloud.Json.Basic
import TenantCloud.Text.Digits

/-!
# JSON text, compact

`Json.compress` writes a value without blanks. In strings, the quote, the backslash and control
characters are escaped, the five that have one by their short escape; all else stands for itself.
What is broken is written as `null`.
-/

set_option autoImplicit false

namespace TenantCloud.Json

/-- A hexadecimal digit in lower case. -/
def hexDigit (n : Nat) : Char := Nat.digitChar (n % 16)

/-- A character inside a string. -/
def escapeChar (c : Char) : List Char :=
  match c with
  | '"' => ['\\', '"']
  | '\\' => ['\\', '\\']
  | '\n' => ['\\', 'n']
  | '\r' => ['\\', 'r']
  | '\t' => ['\\', 't']
  | '\x08' => ['\\', 'b']
  | '\x0c' => ['\\', 'f']
  | c =>
    if c.toNat < 0x20 then ['\\', 'u', '0', '0', hexDigit (c.toNat / 16), hexDigit c.toNat]
    else [c]

/-- A string in quotes. -/
def quote (s : String) : String :=
  "\"" ++ String.ofList (s.toList.flatMap escapeChar) ++ "\""

mutual

/-- The text of a value, without blanks. -/
def compress : Json → String
  | .null | .broken => "null"
  | .bool b => if b then "true" else "false"
  | .int n => toString n
  | .real l => l
  | .str s => quote s
  | .arr items => "[" ++ ",".intercalate (compressItems items) ++ "]"
  | .obj ms => "\x7b" ++ ",".intercalate (compressMembers ms) ++ "\x7d"

def compressItems : List Json → List String
  | [] => []
  | j :: rest => compress j :: compressItems rest

def compressMembers : Members → List String
  | [] => []
  | (k, v) :: rest => (quote k ++ ":" ++ compress v) :: compressMembers rest

end

end TenantCloud.Json
