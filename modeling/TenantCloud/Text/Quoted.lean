import TenantCloud.Text.Visible

/-!
# Quoted text for messages

`quoted` writes a text so that a message can hold it on one line: in quotes, with the quote and the
backslash escaped, line breaks and tabs as short escapes, and every character that is not visible
as its code point in hexadecimal digits.
-/

set_option autoImplicit false

namespace TenantCloud.Text

/-- A character inside quotes. -/
def quotedChar (c : Char) : List Char :=
  match c with
  | '"' => ['\\', '"']
  | '\\' => ['\\', '\\']
  | '\n' => ['\\', 'n']
  | '\r' => ['\\', 'r']
  | '\t' => ['\\', 't']
  | '\x00' => ['\\', '0']
  | c =>
    if isVisible c then [c]
    else ['\\', 'u', '\x7b'] ++ Nat.toDigits 16 c.toNat ++ ['\x7d']

/-- A text in quotes. -/
def quoted (s : String) : String :=
  "\"" ++ String.ofList (s.toList.flatMap quotedChar) ++ "\""

end TenantCloud.Text
