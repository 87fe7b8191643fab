import Spurfire.Lib.Wire
import Mathlib.Data.Vector.Basic

/-!
# SHA-256

The FIPS 180-4 compression function and its padding, as an executable reference.  The message
schedule is kept newest word first, so that each round reads fixed positions.
-/

namespace Sha256

open Wire (beBytes)

def INITIAL : List UInt32 :=
  [0x6a09e667, 0xbb67ae85, 0x3c6ef372, 0xa54ff53a, 0x510e527f, 0x9b05688c, 0x1f83d9ab, 0x5be0cd19]

def K : List UInt32 :=
  [0x428a2f98, 0x71374491, 0xb5c0fbcf, 0xe9b5dba5, 0x3956c25b, 0x59f111f1, 0x923f82a4, 0xab1c5ed5,
   0xd807aa98, 0x12835b01, 0x243185be, 0x550c7dc3, 0x72be5d74, 0x80deb1fe, 0x9bdc06a7, 0xc19bf174,
   0xe49b69c1, 0xefbe4786, 0x0fc19dc6, 0x240ca1cc, 0x2de92c6f, 0x4a7484aa, 0x5cb0a9dc, 0x76f988da,
   0x983e5152, 0xa831c66d, 0xb00327c8, 0xbf597fc7, 0xc6e00bf3, 0xd5a79147, 0x06ca6351, 0x14292967,
   0x27b70a85, 0x2e1b2138, 0x4d2c6dfc, 0x53380d13, 0x650a7354, 0x766a0abb, 0x81c2c92e, 0x92722c85,
   0xa2bfe8a1, 0xa81a664b, 0xc24b8b70, 0xc76c51a3, 0xd192e819, 0xd6990624, 0xf40e3585, 0x106aa070,
   0x19a4c116, 0x1e376c08, 0x2748774c, 0x34b0bcb5, 0x391c0cb3, 0x4ed8aa4a, 0x5b9cca4f, 0x682e6ff3,
   0x748f82ee, 0x78a5636f, 0x84c87814, 0x8cc70208, 0x90befffa, 0xa4506ceb, 0xbef9a3f7, 0xc67178f2]

def rotateRight (x n : UInt32) : UInt32 := (x >>> n) ||| (x <<< (32 - n))

/-- The message followed by `0x80`, zeros up to 56 modulo 64, and the bit length. -/
def pad (input : List UInt8) : List UInt8 :=
  input ++ 0x80 :: (List.replicate ((119 - input.length % 64) % 64) 0
    ++ beBytes 8 (input.length * 8 % 2 ^ 64))

/-- Big-endian words of a block, newest first. -/
def words : List UInt8 → List UInt32 → List UInt32
  | b₀ :: b₁ :: b₂ :: b₃ :: rest, acc =>
    words rest ((b₀.toUInt32 <<< 24 ||| b₁.toUInt32 <<< 16 ||| b₂.toUInt32 <<< 8 ||| b₃.toUInt32)
      :: acc)
  | _, acc => acc

/-- Extends the schedule, newest word first, by `n` words. -/
def extend : ℕ → List UInt32 → List UInt32
  | 0, ws => ws
  | n + 1, ws =>
    let w15 := ws.getD 14 0
    let w2 := ws.getD 1 0
    let s0 := rotateRight w15 7 ^^^ rotateRight w15 18 ^^^ (w15 >>> 3)
    let s1 := rotateRight w2 17 ^^^ rotateRight w2 19 ^^^ (w2 >>> 10)
    extend n ((ws.getD 15 0 + s0 + ws.getD 6 0 + s1) :: ws)

structure Registers where
  a : UInt32
  b : UInt32
  c : UInt32
  d : UInt32
  e : UInt32
  f : UInt32
  g : UInt32
  h : UInt32

def round (r : Registers) (k w : UInt32) : Registers :=
  let sum1 := rotateRight r.e 6 ^^^ rotateRight r.e 11 ^^^ rotateRight r.e 25
  let choose := (r.e &&& r.f) ^^^ (~~~r.e &&& r.g)
  let temporary1 := r.h + sum1 + choose + k + w
  let sum0 := rotateRight r.a 2 ^^^ rotateRight r.a 13 ^^^ rotateRight r.a 22
  let majority := (r.a &&& r.b) ^^^ (r.a &&& r.c) ^^^ (r.b &&& r.c)
  ⟨temporary1 + (sum0 + majority), r.a, r.b, r.c, r.d + temporary1, r.e, r.f, r.g⟩

def compress (state : List UInt32) (block : List UInt8) : List UInt32 :=
  let schedule := (extend 48 (words block [])).reverse
  let start : Registers := ⟨state.getD 0 0, state.getD 1 0, state.getD 2 0, state.getD 3 0,
    state.getD 4 0, state.getD 5 0, state.getD 6 0, state.getD 7 0⟩
  let r := (K.zip schedule).foldl (fun r kw => round r kw.1 kw.2) start
  List.zipWith (· + ·) state [r.a, r.b, r.c, r.d, r.e, r.f, r.g, r.h]

def compressBlocks : ℕ → List UInt32 → List UInt8 → List UInt32
  | 0, state, _ => state
  | n + 1, state, bytes => compressBlocks n (compress state (bytes.take 64)) (bytes.drop 64)

def digest (input : List UInt8) : Vector UInt8 32 :=
  let padded := pad input
  let state := compressBlocks (padded.length / 64) INITIAL padded
  Vector.ofFn fun i => (state.flatMap fun word => beBytes 4 word.toNat).getD i 0

end Sha256
