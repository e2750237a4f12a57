/-! `parseInt` on decimal and hexadecimal text. -/

namespace Js

/-- A space of any kind or a line terminator. -/
def isWhitespace (c : Char) : Bool :=
  c.isWhitespace || (0x2000 ≤ c.toNat && c.toNat ≤ 0x200A) ||
    c.toNat ∈ [0xB, 0xC, 0xA0, 0x1680, 0x2028, 0x2029, 0x202F, 0x205F, 0x3000, 0xFEFF]

def hexDigit? (c : Char) : Option Nat :=
  if c.isDigit then some (c.toNat - 48)
  else if 'a' ≤ c ∧ c ≤ 'f' then some (c.toNat - 87)
  else if 'A' ≤ c ∧ c ≤ 'F' then some (c.toNat - 55)
  else none

/-- The value of the longest prefix of digits of base `radix`: `none` without a first digit. -/
def parseDigits (radix : Nat) (acc : Option Nat) : List Char → Option Nat
  | [] => acc
  | c :: rest =>
    match hexDigit? c with
    | some d => if d < radix then parseDigits radix (some (acc.getD 0 * radix + d)) rest else acc
    | none => acc

/-- `parseInt` without a sign. -/
def parseNatural : List Char → Option Nat
  | '0' :: 'x' :: rest => parseDigits 16 none rest
  | '0' :: 'X' :: rest => parseDigits 16 none rest
  | digits => parseDigits 10 none digits

/-- `parseInt(text)`, with `none` for `NaN`. -/
def parseInt (text : String) : Option Int :=
  match text.toList.dropWhile isWhitespace with
  | '-' :: rest => (parseNatural rest).map fun n => -(n : Int)
  | '+' :: rest => (parseNatural rest).map fun n => (n : Int)
  | rest => (parseNatural rest).map fun n => (n : Int)

example : parseInt " -12px" = some (-12) := by decide
example : parseInt "0x1F" = some 31 := by decide
example : parseInt "px" = none := by decide

end Js
