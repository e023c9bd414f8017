/-!
Bytes in base 64, four characters for three bytes. Characters of no digit are skipped, and what
follows complete padding is ignored.
-/
namespace TypeGuards.Encoding.Base64

def digit? (c : Char) : Option Nat :=
  let n := c.toNat
  if 'A' ≤ c && c ≤ 'Z' then some (n - 65)
  else if 'a' ≤ c && c ≤ 'z' then some (n - 71)
  else if c.isDigit then some (n + 4)
  else if c = '+' then some 62
  else if c = '/' then some 63
  else none

/-- The bytes of a group of four digits, or of the digits before padding. -/
def groupBytes : List Nat → List UInt8
  | [a, b] => [(a * 4 + b / 16).toUInt8]
  | [a, b, c] => [(a * 4 + b / 16).toUInt8, (b * 16 + c / 4).toUInt8]
  | [a, b, c, d] =>
      [(a * 4 + b / 16).toUInt8, (b * 16 + c / 4).toUInt8, (c * 64 + d).toUInt8]
  | _ => []

def decodeFrom (group : List Nat) (padding : Nat) : List Char → Option (List UInt8)
  | [] => if group = [] then some [] else none
  | c :: rest =>
      if c = '=' then
        if group.length < 2 then decodeFrom group padding rest
        else if 4 ≤ group.length + (padding + 1) then some (groupBytes group)
        else decodeFrom group (padding + 1) rest
      else
        match digit? c with
        | none => decodeFrom group padding rest
        | some d =>
            let group := group ++ [d]
            if group.length = 4 then (decodeFrom [] 0 rest).map (groupBytes group ++ ·)
            else decodeFrom group 0 rest

def decode (text : List Char) : Option (List UInt8) := decodeFrom [] 0 text

end TypeGuards.Encoding.Base64
