/-
# Reading UTF-8 in blocks

A text that is read block by block is given out block by block: what stands in front of
the first block that cannot be decoded has been seen by then.  A character that is cut
off by the end of a block is read with the next one, and offsets count from the first
byte that is decoded together with a block.
-/

import DeclSearch.Text.Utf8

namespace DeclSearch
namespace Text
namespace Blocks

/-- The number of bytes in a block. -/
def size : Nat := 8192

/-- A text as far as it could be read, and what ended it if not the end of the bytes. -/
structure Reading where
  text : List Char
  fault : Option Utf8.Fault
  deriving Repr, DecidableEq

/-- The characters of one block and the bytes of a character that it cuts off. -/
def readBlock (offset : Nat) (done : List Char) :
    List Utf8.Piece → Except Utf8.Fault (List Char × Bytes)
  | [] => .ok (done.reverse, [])
  | .scalar c :: rest => readBlock (offset + c.utf8Size) (c :: done) rest
  | .broken bytes .truncated :: _ => .ok (done.reverse, bytes)
  | .broken bytes reason :: _ => .error ⟨offset, bytes, reason⟩

/-- Reads blocks behind the texts already read (last one first); `carry` is what the block
before has cut off. -/
def readOnto (done : List (List Char)) (carry : Bytes) : List Bytes → Reading
  | [] => ⟨done.reverse.flatten, if carry.isEmpty then none else some ⟨0, carry, .truncated⟩⟩
  | block :: rest =>
    match readBlock 0 [] (Utf8.pieces (carry ++ block)) with
    | .ok (text, carry) => readOnto (text :: done) carry rest
    | .error fault => ⟨done.reverse.flatten, some fault⟩

/-- Bytes cut into blocks, of which there are at most `count`. -/
def cut : (count : Nat) → Bytes → List Bytes
  | 0, _ => []
  | count + 1, bytes => if bytes.isEmpty then [] else bytes.take size :: cut count (bytes.drop size)

/-- Reads bytes block by block. -/
def read (bytes : Bytes) : Reading := readOnto [] [] (cut (bytes.length / size + 1) bytes)

end Blocks
end Text
end DeclSearch
