import TypeGuards.Encoding.Error
/-!
UTF-16 with a mark of the byte order in front. Writing puts the low byte first.
-/
namespace TypeGuards.Encoding.Utf16

inductive Order where
  | lowFirst
  | highFirst
deriving DecidableEq, Repr, Inhabited

namespace Order

def name : Order → String
  | lowFirst => "utf-16-le"
  | highFirst => "utf-16-be"

def unit : Order → UInt8 → UInt8 → Nat
  | lowFirst, a, b => b.toNat * 256 + a.toNat
  | highFirst, a, b => a.toNat * 256 + b.toNat

end Order

def mark : Nat := 0xfeff

def isHigh (u : Nat) : Bool := 0xd800 ≤ u && u < 0xdc00

def isLow (u : Nat) : Bool := 0xdc00 ≤ u && u < 0xe000

def unitBytes (u : Nat) : List UInt8 := [u.toUInt8, (u / 256).toUInt8]

def encodeChar (c : Char) : List UInt8 :=
  let n := c.toNat
  if n < 0x10000 then unitBytes n
  else unitBytes (0xd800 + (n - 0x10000) / 1024) ++ unitBytes (0xdc00 + (n - 0x10000) % 1024)

def encode (text : List Char) : List UInt8 := unitBytes mark ++ text.flatMap encodeChar

/-- Decodes bytes of which the first is at a position; `done` holds the characters before, reversed. -/
def decodeFrom (order : Order) (position : Nat) (done : List Char) :
    List UInt8 → Except DecodeError (List Char)
  | [] => .ok done.reverse
  | [a] => .error { codec := order.name, bytes := [a], position, reason := "truncated data" }
  | a :: b :: rest =>
      let u := order.unit a b
      if isLow u then
        .error { codec := order.name, bytes := [a, b], position, reason := "illegal encoding" }
      else if isHigh u then
        match rest with
        | c :: d :: rest =>
            let v := order.unit c d
            if isLow v then
              let n := 0x10000 + (u - 0xd800) * 1024 + (v - 0xdc00)
              decodeFrom order (position + 4) (Char.ofNat n :: done) rest
            else
              .error { codec := order.name, bytes := [a, b], position
                       reason := "illegal UTF-16 surrogate" }
        | rest =>
            .error { codec := order.name, bytes := a :: b :: rest, position
                     reason := "unexpected end of data" }
      else decodeFrom order (position + 2) (Char.ofNat u :: done) rest

inductive Reading where
  | text (chars : List Char)
  | undecodable (e : DecodeError)
  | unmarked
deriving DecidableEq, Repr, Inhabited

def reading : Except DecodeError (List Char) → Reading
  | .ok chars => .text chars
  | .error e => .undecodable e

/-- Bytes without a mark are first checked with the low byte first. -/
def decode (bytes : List UInt8) : Reading :=
  match bytes with
  | a :: b :: rest =>
      if Order.lowFirst.unit a b = mark then reading (decodeFrom .lowFirst 2 [] rest)
      else if Order.highFirst.unit a b = mark then reading (decodeFrom .highFirst 2 [] rest)
      else
        match decodeFrom .lowFirst 0 [] bytes with
        | .ok _ => .unmarked
        | .error e => .undecodable e
  | bytes => reading (decodeFrom .lowFirst 0 [] bytes)

end TypeGuards.Encoding.Utf16
