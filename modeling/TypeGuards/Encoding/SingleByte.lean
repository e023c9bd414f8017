import TypeGuards.Encoding.Error
/-!
Encodings in which every character takes one byte.
-/
namespace TypeGuards.Encoding

structure SingleByte where
  name : String
  toChar? : UInt8 → Option Char
  ofChar? : Char → Option UInt8
  /-- What is wrong with a byte or a character that has no counterpart. -/
  reason : String

namespace SingleByte

def decodeFrom (e : SingleByte) (position : Nat) (done : List Char) :
    List UInt8 → Except DecodeError (List Char)
  | [] => .ok done.reverse
  | b :: rest =>
      match e.toChar? b with
      | some c => e.decodeFrom (position + 1) (c :: done) rest
      | none => .error { codec := e.name, bytes := [b], position, reason := e.reason }

def decode (e : SingleByte) (bytes : List UInt8) : Except DecodeError (List Char) :=
  e.decodeFrom 0 [] bytes

/-- An error holds all characters without a byte up to the next that has one. -/
def encodeFrom (e : SingleByte) (position : Nat) (done : List UInt8) :
    List Char → Except EncodeError (List UInt8)
  | [] => .ok done.reverse
  | c :: rest =>
      match e.ofChar? c with
      | some b => e.encodeFrom (position + 1) (b :: done) rest
      | none =>
          let chars := c :: rest.takeWhile fun c => (e.ofChar? c).isNone
          .error { codec := e.name, chars, position, reason := e.reason }

def encode (e : SingleByte) (text : List Char) : Except EncodeError (List UInt8) := e.encodeFrom 0 [] text

def below (name : String) (bound : Nat) : SingleByte :=
  { name
    toChar? := fun b => if b.toNat < bound then some (Char.ofNat b.toNat) else none
    ofChar? := fun c => if c.toNat < bound then some c.toNat.toUInt8 else none
    reason := s!"ordinal not in range({bound})" }

def ascii : SingleByte := below "ascii" 128

def latin1 : SingleByte := below "latin-1" 256

/-- The characters of the bytes from 0x80 to 0x9f in code page 1252; zero where there is none. -/
def westernHigh : List Nat :=
  [0x20ac, 0, 0x201a, 0x0192, 0x201e, 0x2026, 0x2020, 0x2021, 0x02c6, 0x2030, 0x0160, 0x2039, 0x0152,
   0, 0x017d, 0, 0, 0x2018, 0x2019, 0x201c, 0x201d, 0x2022, 0x2013, 0x2014, 0x02dc, 0x2122, 0x0161,
   0x203a, 0x0153, 0, 0x017e, 0x0178]

def western : SingleByte :=
  { name := "charmap"
    toChar? := fun b =>
      let n := b.toNat
      if n < 0x80 || 0xa0 ≤ n then some (Char.ofNat n)
      else
        match westernHigh.getD (n - 0x80) 0 with
        | 0 => none
        | code => some (Char.ofNat code)
    ofChar? := fun c =>
      let n := c.toNat
      if n < 0x80 || (0xa0 ≤ n && n < 0x100) then some n.toUInt8
      else (westernHigh.findIdx? (· = n)).bind fun i => if n = 0 then none else some (0x80 + i).toUInt8
    reason := "character maps to <undefined>" }

end SingleByte

end TypeGuards.Encoding
