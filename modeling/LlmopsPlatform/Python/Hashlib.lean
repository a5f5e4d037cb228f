import Mathlib.Algebra.Order.Ring.Nat

/-!
# SHA-256

The function `hashlib.sha256` on bytes, and the number that its hexadecimal digest
denotes. Words of 32 bits are natural numbers, and every addition of words is reduced
modulo `2 ^ 32`.
-/

set_option autoImplicit false

namespace Python.Sha256

/-- The constants of the 64 rounds. -/
def roundConstants : List Nat :=
  [0x428a2f98, 0x71374491, 0xb5c0fbcf, 0xe9b5dba5, 0x3956c25b, 0x59f111f1, 0x923f82a4, 0xab1c5ed5,
    0xd807aa98, 0x12835b01, 0x243185be, 0x550c7dc3, 0x72be5d74, 0x80deb1fe, 0x9bdc06a7, 0xc19bf174,
    0xe49b69c1, 0xefbe4786, 0x0fc19dc6, 0x240ca1cc, 0x2de92c6f, 0x4a7484aa, 0x5cb0a9dc, 0x76f988da,
    0x983e5152, 0xa831c66d, 0xb00327c8, 0xbf597fc7, 0xc6e00bf3, 0xd5a79147, 0x06ca6351, 0x14292967,
    0x27b70a85, 0x2e1b2138, 0x4d2c6dfc, 0x53380d13, 0x650a7354, 0x766a0abb, 0x81c2c92e, 0x92722c85,
    0xa2bfe8a1, 0xa81a664b, 0xc24b8b70, 0xc76c51a3, 0xd192e819, 0xd6990624, 0xf40e3585, 0x106aa070,
    0x19a4c116, 0x1e376c08, 0x2748774c, 0x34b0bcb5, 0x391c0cb3, 0x4ed8aa4a, 0x5b9cca4f, 0x682e6ff3,
    0x748f82ee, 0x78a5636f, 0x84c87814, 0x8cc70208, 0x90befffa, 0xa4506ceb, 0xbef9a3f7, 0xc67178f2]

/-- The eight words of the state. -/
structure Registers where
  a : Nat
  b : Nat
  c : Nat
  d : Nat
  e : Nat
  f : Nat
  g : Nat
  h : Nat

def initialHash : Registers where
  a := 0x6a09e667
  b := 0xbb67ae85
  c := 0x3c6ef372
  d := 0xa54ff53a
  e := 0x510e527f
  f := 0x9b05688c
  g := 0x1f83d9ab
  h := 0x5be0cd19

def addWords (first second : Nat) : Nat := (first + second) % 2 ^ 32

def rotateRight (count word : Nat) : Nat := word >>> count ||| (word <<< (32 - count)) % 2 ^ 32

/-- The message, a one bit, zeros, and the length in bits as eight bytes: a multiple of
64 bytes. -/
def padding (message : List Nat) : List Nat :=
  let zeros := (119 - message.length % 64) % 64
  message ++ 0x80 :: List.replicate zeros 0 ++
    (List.range 8).map fun index => (8 * message.length) >>> (56 - 8 * index) % 256

/-- The first pieces of a given size. -/
def pieces (size : Nat) : Nat → List Nat → List (List Nat)
  | 0, _ => []
  | count + 1, items => items.take size :: pieces size count (items.drop size)

/-- The number whose digits in some base are given. -/
def ofDigits (base : Nat) (digits : List Nat) : Nat :=
  digits.foldl (fun number digit => number * base + digit) 0

/-- Extend the message schedule by some words. The newest word is the first one. -/
def extendSchedule : Nat → List Nat → List Nat
  | 0, words => words
  | count + 1, words =>
      let second := words.getD 1 0
      let fifteenth := words.getD 14 0
      let s1 := rotateRight 17 second ^^^ rotateRight 19 second ^^^ second >>> 10
      let s0 := rotateRight 7 fifteenth ^^^ rotateRight 18 fifteenth ^^^ fifteenth >>> 3
      let next := (s1 + words.getD 6 0 + s0 + words.getD 15 0) % 2 ^ 32
      extendSchedule count (next :: words)

/-- One round, with its constant and its word of the schedule. -/
def round (state : Registers) : Nat × Nat → Registers
  | (constant, word) =>
      let ⟨a, b, c, d, e, f, g, h⟩ := state
      let s1 := rotateRight 6 e ^^^ rotateRight 11 e ^^^ rotateRight 25 e
      let choice := (e &&& f) ^^^ ((2 ^ 32 - 1 - e) &&& g)
      let first := (h + s1 + choice + constant + word) % 2 ^ 32
      let s0 := rotateRight 2 a ^^^ rotateRight 13 a ^^^ rotateRight 22 a
      let majority := (a &&& b) ^^^ (a &&& c) ^^^ (b &&& c)
      ⟨(first + s0 + majority) % 2 ^ 32, a, b, c, addWords d first, e, f, g⟩

/-- Process one block of 64 bytes. -/
def compress (state : Registers) (block : List Nat) : Registers :=
  let words := (extendSchedule 48 ((pieces 4 16 block).map (ofDigits 256)).reverse).reverse
  let final := (roundConstants.zip words).foldl round state
  { a := addWords state.a final.a
    b := addWords state.b final.b
    c := addWords state.c final.c
    d := addWords state.d final.d
    e := addWords state.e final.e
    f := addWords state.f final.f
    g := addWords state.g final.g
    h := addWords state.h final.h }

/-- `int(hashlib.sha256(message).hexdigest(), 16)`. -/
def digestNumber (message : List Nat) : Nat :=
  let padded := padding message
  let final := (pieces 64 (padded.length / 64) padded).foldl compress initialHash
  ofDigits (2 ^ 32) [final.a, final.b, final.c, final.d, final.e, final.f, final.g, final.h]

/-- `text.encode()`. -/
def encode (text : String) : List Nat :=
  (text.toList.flatMap String.utf8EncodeChar).map UInt8.toNat

/-- The digest of the message `abc` that the standard gives as an example. -/
example : digestNumber (encode "abc") =
    0xba7816bf8f01cfea414140de5dae2223b00361a396177a9cb410ff61f20015ad := by
  decide +kernel

end Python.Sha256
