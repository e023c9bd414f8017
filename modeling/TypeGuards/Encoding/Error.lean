/-!
Why bytes cannot be read as text, or a text cannot be written as bytes.
-/
namespace TypeGuards.Encoding

/-- Hexadecimal digits of a number, at least as many as asked for. -/
def hexadecimal (width n : Nat) : String :=
  let digits := Nat.toDigits 16 n
  String.ofList (List.replicate (width - digits.length) '0' ++ digits)

structure DecodeError where
  codec : String
  bytes : List UInt8
  position : Nat
  reason : String
deriving DecidableEq, Repr, Inhabited

def DecodeError.message (e : DecodeError) : String :=
  match e.bytes with
  | [b] =>
      let byte := hexadecimal 2 b.toNat
      s!"'{e.codec}' codec can't decode byte 0x{byte} in position {e.position}: {e.reason}"
  | bs =>
      let last := e.position + bs.length - 1
      s!"'{e.codec}' codec can't decode bytes in position {e.position}-{last}: {e.reason}"

structure EncodeError where
  codec : String
  chars : List Char
  position : Nat
  reason : String
deriving DecidableEq, Repr, Inhabited

/-- The number of a character, in two, four or eight digits. -/
def escapedChar (c : Char) : String :=
  let n := c.toNat
  if n < 0x100 then "\\x" ++ hexadecimal 2 n
  else if n < 0x10000 then "\\u" ++ hexadecimal 4 n
  else "\\U" ++ hexadecimal 8 n

def EncodeError.message (e : EncodeError) : String :=
  match e.chars with
  | [c] =>
      let char := escapedChar c
      s!"'{e.codec}' codec can't encode character '{char}' in position {e.position}: {e.reason}"
  | cs =>
      let last := e.position + cs.length - 1
      s!"'{e.codec}' codec can't encode characters in position {e.position}-{last}: {e.reason}"

end TypeGuards.Encoding
