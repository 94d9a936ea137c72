import LocalCluster.Text.Veiled

/-!
# Quoted text

A text between double quotes in which every character can be told apart: quotes, backslashes and
line controls are escaped, and characters that a reader could not see are written by number.

* `quoteChar`: how one character is written.
* `quote`: a whole text.
-/

namespace LocalCluster.Text

/-- The lower-case hexadecimal digits of a number. -/
def hexDigits (n : Nat) : List Char := Nat.toDigits 16 n

/-- A character written by number. -/
def byNumber (c : Char) : List Char := '\\' :: 'u' :: '\x7b' :: hexDigits c.toNat ++ ['\x7d']

/-- One character between the quotes. -/
def quoteChar (c : Char) : List Char :=
  match c with
  | '\x00' => ['\\', '0']
  | '\t' => ['\\', 't']
  | '\r' => ['\\', 'r']
  | '\n' => ['\\', 'n']
  | '\\' => ['\\', '\\']
  | '"' => ['\\', '"']
  | c =>
    if c.toNat < 0x20 || c.toNat == 0x7F then byNumber c
    else if c.toNat < 0x7F then [c]
    else if isVeiled c then byNumber c
    else [c]

/-- The characters between the quotes. -/
def quoteChars (cs : List Char) : List Char := cs.flatMap quoteChar

/-- A text in double quotes. -/
def quote (s : String) : String := String.ofList ('"' :: quoteChars s.toList ++ ['"'])

end LocalCluster.Text
