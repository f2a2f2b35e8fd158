import PidOne.Text.Visible

/-!
# Quoted text

Text between double quotes, for people who debug. The common control characters, the quote and the
backslash have short escapes; every other character that is not visible is written by its number;
the rest stands for itself.
-/

namespace PidOne.Text

/-- The hexadecimal digits of a number, lower case, without leading zeros. -/
def hex (n : Nat) : String := String.ofList (Nat.toDigits 16 n)

def quotedChar (c : Char) : String :=
  match c with
  | '\x00' => "\\0"
  | '\t' => "\\t"
  | '\n' => "\\n"
  | '\r' => "\\r"
  | '"' => "\\\""
  | '\\' => "\\\\"
  | c => if isVisible c then String.singleton c else "\\u\x7b" ++ hex c.toNat ++ "\x7d"

def quoted (text : String) : String :=
  "\"" ++ text.foldl (fun written c => written ++ quotedChar c) "" ++ "\""

end PidOne.Text
