/-
# Reading UTF-8

Bytes are read into pieces: a scalar value, or a run of bytes that is none.  A broken
run is as long as it still was the start of some scalar value, and at least one byte, so
a stray byte never swallows the character that follows it.  Two readings are built on
the pieces: `decodeLossy` shows each broken run as `U+FFFD`, and `decode` stops at the
first one and says where it is and why.
-/

namespace DeclSearch
namespace Text

/-- The content of a file. -/
abbrev Bytes := List UInt8

namespace Utf8

/-- Why a run of bytes is no scalar value. -/
inductive Reason where
  | badStart
  | badContinuation
  | truncated
  deriving Repr, DecidableEq

/-- A scalar value, or a run of bytes that is none. -/
inductive Piece where
  | scalar (c : Char)
  | broken (bytes : Bytes) (reason : Reason)
  deriving Repr, DecidableEq

/-- The bytes of a scalar value that is not complete: the bytes read (last one first),
how many are still needed, the bounds of the next one, and the bits so far. -/
structure Pending where
  read : Bytes
  needed : Nat
  low : Nat
  high : Nat
  bits : Nat
  deriving Repr, DecidableEq

/-- The pieces read so far (last one first) and the scalar value being read. -/
structure Reader where
  pieces : List Piece
  pending : Option Pending
  deriving Repr, DecidableEq

/-- Reads a byte that starts a piece. -/
def Reader.start (done : List Piece) (b : UInt8) : Reader :=
  let n := b.toNat
  let wait (needed low high bits : Nat) : Reader := ⟨done, some ⟨[b], needed, low, high, bits⟩⟩
  if n < 0x80 then ⟨.scalar (Char.ofNat n) :: done, none⟩
  else if n < 0xC2 then ⟨.broken [b] .badStart :: done, none⟩
  else if n < 0xE0 then wait 1 0x80 0xBF (n - 0xC0)
  else if n = 0xE0 then wait 2 0xA0 0xBF 0
  else if n = 0xED then wait 2 0x80 0x9F 0xD
  else if n < 0xF0 then wait 2 0x80 0xBF (n - 0xE0)
  else if n = 0xF0 then wait 3 0x90 0xBF 0
  else if n < 0xF4 then wait 3 0x80 0xBF (n - 0xF0)
  else if n = 0xF4 then wait 3 0x80 0x8F 4
  else ⟨.broken [b] .badStart :: done, none⟩

/-- Reads one byte. -/
def Reader.step (r : Reader) (b : UInt8) : Reader :=
  match r.pending with
  | none => Reader.start r.pieces b
  | some p =>
    let n := b.toNat
    if p.low ≤ n ∧ n ≤ p.high then
      let bits := p.bits * 64 + (n - 0x80)
      if p.needed ≤ 1 then ⟨.scalar (Char.ofNat bits) :: r.pieces, none⟩
      else ⟨r.pieces, some ⟨b :: p.read, p.needed - 1, 0x80, 0xBF, bits⟩⟩
    else Reader.start (.broken p.read.reverse .badContinuation :: r.pieces) b

/-- The pieces once the bytes have ended. -/
def Reader.finish (r : Reader) : List Piece :=
  (match r.pending with
    | none => r.pieces
    | some p => .broken p.read.reverse .truncated :: r.pieces).reverse

/-- The pieces of a run of bytes. -/
def pieces (bytes : Bytes) : List Piece := (bytes.foldl Reader.step ⟨[], none⟩).finish

/-- The character that stands for a piece when nothing may fail. -/
def Piece.shown : Piece → Char
  | .scalar c => c
  | .broken _ _ => Char.ofNat 0xFFFD

/-- The characters of a run of bytes, each broken run shown as `U+FFFD`. -/
def decodeLossy (bytes : Bytes) : List Char := (pieces bytes).map Piece.shown

/-- The first broken run of a text: its offset, its bytes and the reason. -/
structure Fault where
  offset : Nat
  bytes : Bytes
  reason : Reason
  deriving Repr, DecidableEq

/-- Collects the scalar values of the pieces behind those already read (last one
first), `offset` bytes into the text. -/
def collect (offset : Nat) (done : List Char) : List Piece → Except Fault (List Char)
  | [] => .ok done.reverse
  | .scalar c :: rest => collect (offset + c.utf8Size) (c :: done) rest
  | .broken bytes reason :: _ => .error ⟨offset, bytes, reason⟩

/-- The characters of a run of bytes, or the first place where it is not UTF-8. -/
def decode (bytes : Bytes) : Except Fault (List Char) := collect 0 [] (pieces bytes)

/-- The wording of a reason. -/
def Reason.text : Reason → String
  | .badStart => "invalid start byte"
  | .badContinuation => "invalid continuation byte"
  | .truncated => "unexpected end of data"

/-- The two hexadecimal digits of a byte. -/
def hexByte (b : UInt8) : String :=
  String.ofList [Nat.digitChar (b.toNat / 16), Nat.digitChar (b.toNat % 16)]

/-- The wording of a fault. -/
def Fault.message (f : Fault) : String :=
  match f.bytes with
  | [b] =>
    "'utf-8' codec can't decode byte 0x" ++ hexByte b ++ " in position " ++ toString f.offset ++
      ": " ++ f.reason.text
  | bytes =>
    "'utf-8' codec can't decode bytes in position " ++ toString f.offset ++ "-" ++
      toString (f.offset + bytes.length - 1) ++ ": " ++ f.reason.text

/-- The byte-order mark. -/
def mark : Bytes := [0xEF, 0xBB, 0xBF]

/-- The bytes behind a byte-order mark, if there is one in front. -/
def dropMark : Bytes → Bytes
  | 0xEF :: 0xBB :: 0xBF :: rest => rest
  | bytes => bytes

/-- The bytes of a list of characters. -/
def encode (cs : List Char) : Bytes := cs.flatMap String.utf8EncodeChar

end Utf8

end Text
end DeclSearch
