import MorrowindScript.Bytes

/-!
# The BLAKE2b hash

BLAKE2b with a digest of 32 bytes and without a key. The message is cut into blocks of 128 bytes, the
last one filled up with zeros; each block is mixed into eight 64-bit words, together with the number
of bytes read so far.

* `Blake2b.compress`: mixes one block into the state.
* `Blake2b.digest`: the digest of a message.
-/

namespace MorrowindScript.Blake2b

open Bytes

/-- The words the state starts from. -/
def initial : Vector UInt64 8 :=
  #v[0x6A09E667F3BCC908, 0xBB67AE8584CAA73B, 0x3C6EF372FE94F82B, 0xA54FF53A5F1D36F1,
    0x510E527FADE682D1, 0x9B05688C2B3E6C1F, 0x1F83D9ABFB41BD6B, 0x5BE0CD19137E2179]

/-- The order in which the words of a block enter each round. -/
def schedule : List (Vector (Fin 16) 16) :=
  [#v[0, 1, 2, 3, 4, 5, 6, 7, 8, 9, 10, 11, 12, 13, 14, 15],
    #v[14, 10, 4, 8, 9, 15, 13, 6, 1, 12, 0, 2, 11, 7, 5, 3],
    #v[11, 8, 12, 0, 5, 2, 15, 13, 10, 14, 3, 6, 7, 1, 9, 4],
    #v[7, 9, 3, 1, 13, 12, 11, 14, 2, 6, 5, 10, 4, 0, 15, 8],
    #v[9, 0, 5, 7, 2, 4, 10, 15, 14, 1, 11, 12, 6, 8, 3, 13],
    #v[2, 12, 6, 10, 0, 11, 8, 3, 4, 13, 7, 5, 15, 14, 1, 9],
    #v[12, 5, 1, 15, 14, 13, 4, 10, 0, 7, 6, 3, 9, 2, 8, 11],
    #v[13, 11, 7, 14, 12, 1, 3, 9, 5, 0, 15, 4, 8, 6, 2, 10],
    #v[6, 15, 14, 9, 11, 3, 0, 8, 12, 2, 13, 7, 1, 4, 10, 5],
    #v[10, 2, 8, 4, 7, 6, 1, 5, 15, 11, 9, 14, 3, 12, 13, 0],
    #v[0, 1, 2, 3, 4, 5, 6, 7, 8, 9, 10, 11, 12, 13, 14, 15],
    #v[14, 10, 4, 8, 9, 15, 13, 6, 1, 12, 0, 2, 11, 7, 5, 3]]

/-- The number of bytes in a block. -/
def blockSize : Nat := 128

/-- The number of bytes in a digest. -/
def digestSize : Nat := 32

/-- A word turned right by `n` bits. -/
def rotateRight (w n : UInt64) : UInt64 :=
  (w >>> n) ||| (w <<< (64 - n))

/-- Mixes two words of a block into four words of the working vector. -/
def mix (a b c d : Fin 16) (x y : UInt64) (v : Vector UInt64 16) : Vector UInt64 16 :=
  let v := v.set a (v[a] + v[b] + x)
  let v := v.set d (rotateRight (v[d] ^^^ v[a]) 32)
  let v := v.set c (v[c] + v[d])
  let v := v.set b (rotateRight (v[b] ^^^ v[c]) 24)
  let v := v.set a (v[a] + v[b] + y)
  let v := v.set d (rotateRight (v[d] ^^^ v[a]) 16)
  let v := v.set c (v[c] + v[d])
  v.set b (rotateRight (v[b] ^^^ v[c]) 63)

/-- One round: the columns of the working vector, then its diagonals. -/
def round (m : Vector UInt64 16) (v : Vector UInt64 16) (s : Vector (Fin 16) 16) :
    Vector UInt64 16 :=
  let word (i : Fin 16) : UInt64 := m[s[i]]
  let v := mix 0 4 8 12 (word 0) (word 1) v
  let v := mix 1 5 9 13 (word 2) (word 3) v
  let v := mix 2 6 10 14 (word 4) (word 5) v
  let v := mix 3 7 11 15 (word 6) (word 7) v
  let v := mix 0 5 10 15 (word 8) (word 9) v
  let v := mix 1 6 11 12 (word 10) (word 11) v
  let v := mix 2 7 8 13 (word 12) (word 13) v
  mix 3 4 9 14 (word 14) (word 15) v

/-- The words of a block; bytes that are missing at the end are zero. -/
def blockWords (block : Bytes) : Vector UInt64 16 :=
  Vector.ofFn fun i => UInt64.ofNat (ofLittleEndian ((block.drop (8 * i.val)).take 8))

/-- Mixes a block into the state; `count` bytes of the message end with it, and `last` says whether
it is the last block. -/
def compress (h : Vector UInt64 8) (block : Bytes) (count : Nat) (last : Bool) :
    Vector UInt64 8 :=
  let start : Vector UInt64 16 := h ++ initial
  let start := start.set 12 (start[12] ^^^ UInt64.ofNat count)
  let start := start.set 13 (start[13] ^^^ UInt64.ofNat (count >>> 64))
  let start := if last then start.set 14 (~~~ start[14]) else start
  let v := schedule.foldl (round (blockWords block)) start
  Vector.ofFn fun i => h[i] ^^^ v[i.val] ^^^ v[i.val + 8]

/-- Mixes the rest of a message into the state, after `count` bytes of it. -/
def absorb (h : Vector UInt64 8) (count : Nat) (rest : Bytes) : Vector UInt64 8 :=
  if rest.length ≤ blockSize then compress h rest (count + rest.length) true
  else
    absorb (compress h (rest.take blockSize) (count + blockSize) false) (count + blockSize)
      (rest.drop blockSize)
termination_by rest.length
decreasing_by simp only [List.length_drop, blockSize] at *; omega

/-- The state before the first block: the length of the digest and the form of the tree are mixed
into the first word. -/
def start : Vector UInt64 8 :=
  initial.set 0 (initial[0] ^^^ (0x01010000 ||| UInt64.ofNat digestSize))

/-- The digest of a message. -/
def digest (message : Bytes) : Bytes :=
  ((absorb start 0 message).toList.flatMap fun w => littleEndian 8 w.toNat).take digestSize

end MorrowindScript.Blake2b
