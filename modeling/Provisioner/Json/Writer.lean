import Provisioner.Decimal.Shortest
import Provisioner.Json.Basic

/-!
# Writing JSON

Two layouts of one grammar: compact, with nothing between the tokens, and indented, with every
element and member on a line of its own. Characters outside ASCII stand for themselves.
-/

namespace Provisioner.Json

/-- Floating numbers are written plainly while the decimal point falls among or near their digits,
and with a signed exponent otherwise. -/
def floatFormat : Decimal.FloatFormat := ⟨-5, 16, "+"⟩

def writeNumber : Number → String
  | .int n => toString n
  | .float x => floatFormat.write x

/-- A lower-case hexadecimal digit. -/
def hexDigit (n : Nat) : Char := Nat.digitChar (n % 16)

/-- One character inside quotes: the quote, the backslash and the controls are escaped. -/
def writeChar (c : Char) : String :=
  match c with
  | '"' => "\\\""
  | '\\' => "\\\\"
  | '\n' => "\\n"
  | '\r' => "\\r"
  | '\t' => "\\t"
  | '\x08' => "\\b"
  | '\x0c' => "\\f"
  | c =>
    if c.toNat < 0x20 then
      "\\u00" ++ String.ofList [hexDigit (c.toNat / 16), hexDigit c.toNat]
    else c.toString

def writeText (s : String) : String :=
  s.toList.foldl (fun out c => out ++ writeChar c) "\"" ++ "\""

mutual

/-- The value with nothing between its tokens. -/
def compact : Json → String
  | .null => "null"
  | .bool b => if b then "true" else "false"
  | .num n => writeNumber n
  | .str s => writeText s
  | .arr xs => "[" ++ compactElements xs ++ "]"
  | .obj xs => "\x7b" ++ compactMembers xs ++ "\x7d"

def compactElements : List Json → String
  | [] => ""
  | [x] => compact x
  | x :: xs => compact x ++ "," ++ compactElements xs

def compactMembers : List (String × Json) → String
  | [] => ""
  | [(k, x)] => writeText k ++ ":" ++ compact x
  | (k, x) :: xs => writeText k ++ ":" ++ compact x ++ "," ++ compactMembers xs

end

/-- A line break and the spaces that open a line at some depth. -/
def lineAt (depth : Nat) : String := "\n" ++ String.ofList (List.replicate (2 * depth) ' ')

mutual

/-- The value with each element and member on a line of its own, indented by its depth. -/
def indented (depth : Nat) : Json → String
  | .arr [] => "[]"
  | .obj [] => "\x7b\x7d"
  | .arr xs => "[" ++ indentedElements (depth + 1) xs ++ lineAt depth ++ "]"
  | .obj xs => "\x7b" ++ indentedMembers (depth + 1) xs ++ lineAt depth ++ "\x7d"
  | .null => "null"
  | .bool b => if b then "true" else "false"
  | .num n => writeNumber n
  | .str s => writeText s

def indentedElements (depth : Nat) : List Json → String
  | [] => ""
  | [x] => lineAt depth ++ indented depth x
  | x :: xs => lineAt depth ++ indented depth x ++ "," ++ indentedElements depth xs

def indentedMembers (depth : Nat) : List (String × Json) → String
  | [] => ""
  | [(k, x)] => lineAt depth ++ writeText k ++ ": " ++ indented depth x
  | (k, x) :: xs =>
    lineAt depth ++ writeText k ++ ": " ++ indented depth x ++ "," ++ indentedMembers depth xs

end

/-- The indented layout of a whole document. -/
def pretty (v : Json) : String := indented 0 v

end Provisioner.Json
