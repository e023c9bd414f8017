import TypeGuards.Encoding.Error
/-!
UTF-8. Decoding refuses overlong forms, surrogates and numbers beyond the last character, and says
which bytes are at fault.
-/
namespace TypeGuards.Encoding.Utf8

def encodeChar (c : Char) : List UInt8 :=
  let n := c.toNat
  let tail (shift : Nat) : UInt8 := (0x80 + n / shift % 64).toUInt8
  if n < 0x80 then [n.toUInt8]
  else if n < 0x800 then [(0xc0 + n / 64).toUInt8, tail 1]
  else if n < 0x10000 then [(0xe0 + n / 4096).toUInt8, tail 64, tail 1]
  else [(0xf0 + n / 262144).toUInt8, tail 4096, tail 64, tail 1]

def encode (text : List Char) : List UInt8 := text.flatMap encodeChar

def isContinuation (b : UInt8) : Bool := 0x80 ≤ b && b ≤ 0xbf

def secondRange (first : UInt8) : UInt8 × UInt8 :=
  if first = 0xe0 then (0xa0, 0xbf)
  else if first = 0xed then (0x80, 0x9f)
  else if first = 0xf0 then (0x90, 0xbf)
  else if first = 0xf4 then (0x80, 0x8f)
  else (0x80, 0xbf)

def isSecond (first b : UInt8) : Bool := (secondRange first).1 ≤ b && b ≤ (secondRange first).2

def compose (first : Nat) (rest : List UInt8) : Char :=
  Char.ofNat (rest.foldl (fun n b => n * 64 + b.toNat % 64) first)

/-- Decodes bytes of which the first is at a position; `done` holds the characters before, reversed. -/
def decodeFrom (position : Nat) (done : List Char) : List UInt8 → Except DecodeError (List Char)
  | [] => .ok done.reverse
  | a :: rest =>
      let fault (count : Nat) (reason : String) : Except DecodeError (List Char) :=
        .error { codec := "utf-8", bytes := (a :: rest).take count, position, reason }
      let cut (count : Nat) := fault count "unexpected end of data"
      let wrong (count : Nat) := fault count "invalid continuation byte"
      if a < 0x80 then decodeFrom (position + 1) (Char.ofNat a.toNat :: done) rest
      else if a < 0xc2 || 0xf4 < a then fault 1 "invalid start byte"
      else
        match rest with
        | [] => cut 1
        | b :: rest =>
            if !isSecond a b then wrong 1
            else if a < 0xe0 then
              decodeFrom (position + 2) (compose (a.toNat - 0xc0) [b] :: done) rest
            else
              match rest with
              | [] => cut 2
              | c :: rest =>
                  if !isContinuation c then wrong 2
                  else if a < 0xf0 then
                    decodeFrom (position + 3) (compose (a.toNat - 0xe0) [b, c] :: done) rest
                  else
                    match rest with
                    | [] => cut 3
                    | d :: rest =>
                        if !isContinuation d then wrong 3
                        else decodeFrom (position + 4)
                          (compose (a.toNat - 0xf0) [b, c, d] :: done) rest

def decode (bytes : List UInt8) : Except DecodeError (List Char) := decodeFrom 0 [] bytes

end TypeGuards.Encoding.Utf8
