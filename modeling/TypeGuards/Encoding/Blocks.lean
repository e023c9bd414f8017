import TypeGuards.Encoding.Utf8
/-!
UTF-8 that comes in blocks. A character that a block cuts is kept for the next block, and the
position of an error counts from the first byte kept.
-/
namespace TypeGuards.Encoding.Blocks

def blockSize : Nat := 8192

/-- The reason of an error that more bytes may mend. -/
def cutReason : String := "unexpected end of data"

/-- Decodes blocks after bytes kept from those before; `done` holds the text of those. -/
def decodeFrom (fuel : Nat) (kept : List UInt8) (done : List Char) (bytes : List UInt8) :
    Except DecodeError (List Char) :=
  match fuel with
  | 0 => .ok done
  | fuel + 1 =>
      let block := kept ++ bytes.take blockSize
      let rest := bytes.drop blockSize
      match Utf8.decode block with
      | .ok chars => if rest = [] then .ok (done ++ chars) else decodeFrom fuel [] (done ++ chars) rest
      | .error e =>
          if e.reason ≠ cutReason then .error e
          else if bytes = [] then .error e
          else
            match Utf8.decode (block.take e.position) with
            | .ok chars => decodeFrom fuel (block.drop e.position) (done ++ chars) rest
            | .error e => .error e

def decode (bytes : List UInt8) : Except DecodeError (List Char) :=
  decodeFrom (bytes.length / blockSize + 2) [] [] bytes

end TypeGuards.Encoding.Blocks
