/-
Digests: the BLAKE2b function with 32 bytes of output and no key.

A text is cut into blocks of sixteen words.  Each block is mixed into eight words of state in twelve
rounds; a round mixes the columns and then the diagonals of a square of sixteen words.

The theorems use nothing of it but that it is a function of the text.
-/
import Trellis.Text.Quoted

namespace Trellis.Digest

/-- The words that the state begins with. -/
def seed : Array UInt64 := #[
  0x6a09e667f3bcc908, 0xbb67ae8584caa73b, 0x3c6ef372fe94f82b, 0xa54ff53a5f1d36f1,
  0x510e527fade682d1, 0x9b05688c2b3e6c1f, 0x1f83d9abfb41bd6b, 0x5be0cd19137e2179]

/-- The order in which the rounds use the words of a block. -/
def schedule : Array (Array Nat) := #[
  #[0, 1, 2, 3, 4, 5, 6, 7, 8, 9, 10, 11, 12, 13, 14, 15],
  #[14, 10, 4, 8, 9, 15, 13, 6, 1, 12, 0, 2, 11, 7, 5, 3],
  #[11, 8, 12, 0, 5, 2, 15, 13, 10, 14, 3, 6, 7, 1, 9, 4],
  #[7, 9, 3, 1, 13, 12, 11, 14, 2, 6, 5, 10, 4, 0, 15, 8],
  #[9, 0, 5, 7, 2, 4, 10, 15, 14, 1, 11, 12, 6, 8, 3, 13],
  #[2, 12, 6, 10, 0, 11, 8, 3, 4, 13, 7, 5, 15, 14, 1, 9],
  #[12, 5, 1, 15, 14, 13, 4, 10, 0, 7, 6, 3, 9, 2, 8, 11],
  #[13, 11, 7, 14, 12, 1, 3, 9, 5, 0, 15, 4, 8, 6, 2, 10],
  #[6, 15, 14, 9, 11, 3, 0, 8, 12, 2, 13, 7, 1, 4, 10, 5],
  #[10, 2, 8, 4, 7, 6, 1, 5, 15, 11, 9, 14, 3, 12, 13, 0]]

/-- The four words that one step mixes: first the columns, then the diagonals. -/
def quads : List (Nat × Nat × Nat × Nat) := [
  (0, 4, 8, 12), (1, 5, 9, 13), (2, 6, 10, 14), (3, 7, 11, 15),
  (0, 5, 10, 15), (1, 6, 11, 12), (2, 7, 8, 13), (3, 4, 9, 14)]

/-- A word turned to the right. -/
def turn (x : UInt64) (n : UInt64) : UInt64 := (x >>> n) ||| (x <<< (64 - n))

/-- A word by its position. -/
def at_ (v : Array UInt64) (i : Nat) : UInt64 := v.getD i 0

/-- Mixes two words of a block into four words of the square. -/
def mix (v : Array UInt64) (q : Nat × Nat × Nat × Nat) (x y : UInt64) : Array UInt64 :=
  let (i, j, k, l) := q
  let a := at_ v i + at_ v j + x
  let d := turn (at_ v l ^^^ a) 32
  let c := at_ v k + d
  let b := turn (at_ v j ^^^ c) 24
  let a := a + b + y
  let d := turn (d ^^^ a) 16
  let c := c + d
  let b := turn (b ^^^ c) 63
  (((v.setIfInBounds i a).setIfInBounds j b).setIfInBounds k c).setIfInBounds l d

/-- One round over a block. -/
def round (block : Array UInt64) (v : Array UInt64) (r : Nat) : Array UInt64 :=
  let order := schedule.getD (r % 10) #[]
  quads.zipIdx.foldl
    (fun v (q, k) =>
      mix v q (at_ block (order.getD (2 * k) 0)) (at_ block (order.getD (2 * k + 1) 0))) v

/-- Mixes a block into the state.  `count` bytes have been read with it, and `last` marks the last
block. -/
def compress (h block : Array UInt64) (count : Nat) (last : Bool) : Array UInt64 :=
  let v := h ++ seed
  let v := v.setIfInBounds 12 (at_ v 12 ^^^ count.toUInt64)
  let v := if last then v.setIfInBounds 14 (at_ v 14 ^^^ 0xffffffffffffffff) else v
  let v := (List.range 12).foldl (round block) v
  h.mapIdx fun i x => x ^^^ at_ v i ^^^ at_ v (i + 8)

/-- A word from bytes, the lowest first. -/
def wordOf (bytes : List UInt8) : UInt64 :=
  bytes.foldr (fun b acc => acc * 256 + b.toUInt64) 0

/-- The sixteen words of a block; bytes that are missing are zero. -/
def blockOf (bytes : List UInt8) : Array UInt64 :=
  ((List.range 16).map fun i => wordOf ((bytes.drop (8 * i)).take 8)).toArray

/-- Mixes all blocks into the state; `n` bounds their number. -/
def absorb : Nat → Array UInt64 → Nat → List UInt8 → Array UInt64
  | 0, h, _, _ => h
  | n + 1, h, count, bytes =>
    if bytes.length ≤ 128 then compress h (blockOf bytes) (count + bytes.length) true
    else absorb n (compress h (blockOf (bytes.take 128)) (count + 128) false) (count + 128)
      (bytes.drop 128)

/-- The bytes of a word, the lowest first. -/
def bytesOf (x : UInt64) : List UInt8 :=
  (List.range 8).map fun i => (x >>> (8 * i).toUInt64).toUInt8

/-- The digest of bytes. -/
def ofBytes (bytes : List UInt8) : List UInt8 :=
  let start := seed.setIfInBounds 0 (at_ seed 0 ^^^ 0x01010020)
  ((absorb (bytes.length / 128 + 1) start 0 bytes).toList.take 4).flatMap bytesOf

/-- The digest of a text, in hexadecimal digits. -/
def ofText (s : String) : String :=
  String.ofList ((ofBytes s.toUTF8.toList).flatMap fun b => Text.hexDigits 2 b.toNat)

end Trellis.Digest
