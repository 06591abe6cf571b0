/-!
# SHA-256

The digest of a byte sequence: padding to whole blocks, then one compression a block. The message
schedule is a window of sixteen words that moves along with the rounds, so that a round needs
nothing but its constant, the registers and the window.
-/

namespace FactoryBundler.Encoding.Sha256

/-- The eight registers. -/
structure Registers where
  a : UInt32
  b : UInt32
  c : UInt32
  d : UInt32
  e : UInt32
  f : UInt32
  g : UInt32
  h : UInt32
deriving Repr, DecidableEq

/-- The registers before the first block. -/
def Registers.start : Registers :=
  ⟨0x6a09e667, 0xbb67ae85, 0x3c6ef372, 0xa54ff53a,
    0x510e527f, 0x9b05688c, 0x1f83d9ab, 0x5be0cd19⟩

/-- Register by register sums. -/
def Registers.add (x y : Registers) : Registers :=
  ⟨x.a + y.a, x.b + y.b, x.c + y.c, x.d + y.d, x.e + y.e, x.f + y.f, x.g + y.g, x.h + y.h⟩

/-- The registers in order. -/
def Registers.words (r : Registers) : List UInt32 :=
  [r.a, r.b, r.c, r.d, r.e, r.f, r.g, r.h]

/-- The constants of the rounds. -/
def constants : List UInt32 := [
  0x428a2f98, 0x71374491, 0xb5c0fbcf, 0xe9b5dba5, 0x3956c25b, 0x59f111f1, 0x923f82a4, 0xab1c5ed5,
  0xd807aa98, 0x12835b01, 0x243185be, 0x550c7dc3, 0x72be5d74, 0x80deb1fe, 0x9bdc06a7, 0xc19bf174,
  0xe49b69c1, 0xefbe4786, 0x0fc19dc6, 0x240ca1cc, 0x2de92c6f, 0x4a7484aa, 0x5cb0a9dc, 0x76f988da,
  0x983e5152, 0xa831c66d, 0xb00327c8, 0xbf597fc7, 0xc6e00bf3, 0xd5a79147, 0x06ca6351, 0x14292967,
  0x27b70a85, 0x2e1b2138, 0x4d2c6dfc, 0x53380d13, 0x650a7354, 0x766a0abb, 0x81c2c92e, 0x92722c85,
  0xa2bfe8a1, 0xa81a664b, 0xc24b8b70, 0xc76c51a3, 0xd192e819, 0xd6990624, 0xf40e3585, 0x106aa070,
  0x19a4c116, 0x1e376c08, 0x2748774c, 0x34b0bcb5, 0x391c0cb3, 0x4ed8aa4a, 0x5b9cca4f, 0x682e6ff3,
  0x748f82ee, 0x78a5636f, 0x84c87814, 0x8cc70208, 0x90befffa, 0xa4506ceb, 0xbef9a3f7, 0xc67178f2]

/-- Rotation to the right by fewer than 32 places. -/
def rotate (x places : UInt32) : UInt32 :=
  (x >>> places) ||| (x <<< (32 - places))

/-- The schedule's mixing of a word fifteen places back. -/
def mixFar (x : UInt32) : UInt32 :=
  rotate x 7 ^^^ rotate x 18 ^^^ (x >>> 3)

/-- The schedule's mixing of a word two places back. -/
def mixNear (x : UInt32) : UInt32 :=
  rotate x 17 ^^^ rotate x 19 ^^^ (x >>> 10)

/-- Move the window by one word. -/
def slide (window : List UInt32) : List UInt32 :=
  window.drop 1 ++
    [mixNear (window.getD 14 0) + window.getD 9 0 + mixFar (window.getD 1 0) + window.getD 0 0]

/-- One round. -/
def round (r : Registers) (constant word : UInt32) : Registers :=
  let choice := (r.e &&& r.f) ^^^ (~~~r.e &&& r.g)
  let majority := (r.a &&& r.b) ^^^ (r.a &&& r.c) ^^^ (r.b &&& r.c)
  let t₁ := r.h + (rotate r.e 6 ^^^ rotate r.e 11 ^^^ rotate r.e 25) + choice + constant + word
  let t₂ := (rotate r.a 2 ^^^ rotate r.a 13 ^^^ rotate r.a 22) + majority
  ⟨t₁ + t₂, r.a, r.b, r.c, r.d + t₁, r.e, r.f, r.g⟩

/-- The rounds for the constants, the window moving along. -/
def rounds (registers : Registers) (window : List UInt32) : List UInt32 → Registers
  | [] => registers
  | constant :: more =>
    rounds (round registers constant (window.getD 0 0)) (slide window) more

/-- Words of four bytes, the highest byte first. -/
def wordsOf : List UInt8 → List UInt32
  | a :: b :: c :: d :: rest =>
    ((a.toUInt32 <<< 24) ||| (b.toUInt32 <<< 16) ||| (c.toUInt32 <<< 8) ||| d.toUInt32) ::
      wordsOf rest
  | _ => []

/-- The bytes of a word, the highest first. -/
def bytesOf (word : UInt32) : List UInt8 :=
  [(word >>> 24).toUInt8, (word >>> 16).toUInt8, (word >>> 8).toUInt8, word.toUInt8]

/-- Take in one block of 64 bytes. -/
def compress (registers : Registers) (block : List UInt8) : Registers :=
  registers.add (rounds registers (wordsOf block) constants)

/-- A number as 64 bits, the highest byte first. -/
def lengthBytes (bits : Nat) : List UInt8 :=
  [56, 48, 40, 32, 24, 16, 8, 0].map fun (shift : Nat) => (bits >>> shift).toUInt8

/-- The message, a one bit, zeros, and the length in bits, filling whole blocks. -/
def pad (message : List UInt8) : List UInt8 :=
  message ++ [0x80] ++ List.replicate ((119 - message.length % 64) % 64) 0 ++
    lengthBytes (8 * message.length)

/-- Take in all blocks of a padded message. -/
def absorb (registers : Registers) (padded : List UInt8) : Registers :=
  match padded with
  | [] => registers
  | b :: rest => absorb (compress registers ((b :: rest).take 64)) ((b :: rest).drop 64)
termination_by padded.length
decreasing_by simp only [List.length_drop, List.length_cons]; omega

/-- The 32 bytes of the digest. -/
def digest (message : List UInt8) : List UInt8 :=
  (absorb .start (pad message)).words.flatMap bytesOf

/-- Two lower-case hexadecimal digits a byte. -/
def hexChars (bytes : List UInt8) : List Char :=
  bytes.flatMap fun b => [Nat.digitChar (b.toNat / 16), Nat.digitChar (b.toNat % 16)]

/-- The digest as text. -/
def hex (message : List UInt8) : String :=
  String.ofList (hexChars (digest message))

end FactoryBundler.Encoding.Sha256
