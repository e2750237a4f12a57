/-! Percent-encoding of characters, as the URL standard writes it, and `decodeURIComponent`, as the
language standard reads it.  Texts are lists of characters. -/

namespace Url

/-- A digit of the upper-case hexadecimal form of a byte. -/
def hexDigit (n : Nat) : Char := if n < 10 then Char.ofNat (48 + n) else Char.ofNat (55 + n)

def hexValue (c : Char) : Option Nat :=
  if '0' ≤ c ∧ c ≤ '9' then some (c.toNat - 48)
  else if 'A' ≤ c ∧ c ≤ 'F' then some (c.toNat - 55)
  else if 'a' ≤ c ∧ c ≤ 'f' then some (c.toNat - 87)
  else none

def encodeByte (b : UInt8) : List Char := ['%', hexDigit (b.toNat / 16), hexDigit (b.toNat % 16)]

def encodeChar (c : Char) : List Char := (String.utf8EncodeChar c).flatMap encodeByte

/-- Percent-encodes the characters of the set `p`. -/
def encode (p : Char → Bool) (l : List Char) : List Char :=
  l.flatMap fun c => if p c then encodeChar c else [c]

/-- The bytes of the escapes that the text begins with. -/
def leadingOctets : List Char → List UInt8
  | '%' :: a :: b :: rest =>
    match hexValue a, hexValue b with
    | some x, some y => UInt8.ofNat (16 * x + y) :: leadingOctets rest
    | _, _ => []
  | _ => []

/-- `decodeURIComponent` after the next `skip` characters, which belong to an escape that is already
decoded.  There is no result when an escape is malformed or the bytes are not UTF-8. -/
def decodeFrom (skip : Nat) : List Char → Option (List Char)
  | [] => some []
  | c :: rest =>
    match skip with
    | skip + 1 => decodeFrom skip rest
    | 0 =>
      if c = '%' then
        match (leadingOctets (c :: rest)).toByteArray.utf8DecodeChar? 0 with
        | some d => (decodeFrom (3 * d.utf8Size - 1) rest).map (d :: ·)
        | none => none
      else (decodeFrom 0 rest).map (c :: ·)

def decodeURIComponent (l : List Char) : Option (List Char) := decodeFrom 0 l

end Url
