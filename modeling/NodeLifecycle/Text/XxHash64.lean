/-!
# The 64-bit xxHash of a byte list

The bytes are cut into little-endian words.  Four lanes absorb four words at a time; what is left
is absorbed one word at a time, then as at most one half word, then byte by byte.  All arithmetic
is modulo `2 ^ 64`, and every function recurses on the list it consumes.
-/

namespace NodeLifecycle
namespace XxHash64

/-! ## Words and mixing steps -/

def prime1 : UInt64 := 0x9E3779B185EBCA87

def prime2 : UInt64 := 0xC2B2AE3D27D4EB4F

def prime3 : UInt64 := 0x165667B19E3779F9

def prime4 : UInt64 := 0x85EBCA77C2B2AE63

def prime5 : UInt64 := 0x27D4EB2F165667C5

/-- Rotation towards the high bits, for amounts strictly between 0 and 64. -/
def rotateLeft (word amount : UInt64) : UInt64 :=
  (word <<< amount) ||| (word >>> (64 - amount))

/-- The little-endian value of at most eight bytes. -/
def wordOfBytes (bytes : List UInt8) : UInt64 :=
  bytes.foldr (fun byte word => (word <<< 8) ||| byte.toUInt64) 0

/-- The full words at the front of a byte list, and the fewer than eight bytes after them. -/
def wordsOfBytes : List UInt8 → List UInt64 × List UInt8
  | a :: b :: c :: d :: e :: f :: g :: h :: rest =>
      let (words, tail) := wordsOfBytes rest
      (wordOfBytes [a, b, c, d, e, f, g, h] :: words, tail)
  | tail => ([], tail)

/-- One lane takes in one word. -/
def absorb (lane word : UInt64) : UInt64 :=
  rotateLeft (lane + word * prime2) 31 * prime1

/-! ## Lanes -/

/-- The four running values of the striped phase. -/
structure Lanes where
  /-- Takes the words at positions 0, 4, 8, … -/
  first : UInt64
  /-- Takes the words at positions 1, 5, 9, … -/
  second : UInt64
  /-- Takes the words at positions 2, 6, 10, … -/
  third : UInt64
  /-- Takes the words at positions 3, 7, 11, … -/
  fourth : UInt64
deriving DecidableEq

namespace Lanes

/-- The lanes before any word is absorbed. -/
def ofSeed (seed : UInt64) : Lanes where
  first := seed + prime1 + prime2
  second := seed + prime2
  third := seed
  fourth := seed - prime1

/-- Absorb stripes of four words, and return the fewer than four words that are left. -/
def absorbStripes : Lanes → List UInt64 → Lanes × List UInt64
  | lanes, a :: b :: c :: d :: rest =>
      absorbStripes
        { first := absorb lanes.first a
          second := absorb lanes.second b
          third := absorb lanes.third c
          fourth := absorb lanes.fourth d } rest
  | lanes, rest => (lanes, rest)

/-- Fold one lane into the accumulated hash. -/
def mergeLane (hash lane : UInt64) : UInt64 :=
  (hash ^^^ absorb 0 lane) * prime1 + prime4

/-- The single hash value that the four lanes stand for. -/
def converge (lanes : Lanes) : UInt64 :=
  [lanes.first, lanes.second, lanes.third, lanes.fourth].foldl mergeLane
    (rotateLeft lanes.first 1 + rotateLeft lanes.second 7 + rotateLeft lanes.third 12 +
      rotateLeft lanes.fourth 18)

end Lanes

/-! ## The tail and the final mix -/

/-- A word that belongs to no stripe. -/
def absorbWord (hash word : UInt64) : UInt64 :=
  rotateLeft (hash ^^^ absorb 0 word) 27 * prime1 + prime4

/-- A byte that belongs to no word. -/
def absorbByte (hash : UInt64) (byte : UInt8) : UInt64 :=
  rotateLeft (hash ^^^ byte.toUInt64 * prime5) 11 * prime1

/-- Spread every bit over the whole word. -/
def avalanche (hash : UInt64) : UInt64 :=
  let mixed := (hash ^^^ (hash >>> 33)) * prime2
  let mixed := (mixed ^^^ (mixed >>> 29)) * prime3
  mixed ^^^ (mixed >>> 32)

/-- Absorb the last single bytes, then mix once more. -/
def finishBytes (hash : UInt64) : List UInt8 → UInt64
  | [] => avalanche hash
  | byte :: rest => finishBytes (absorbByte hash byte) rest

/-- Absorb the fewer than eight bytes after the last full word: a half word if there is one, then
the single bytes. -/
def finishTail (hash : UInt64) : List UInt8 → UInt64
  | a :: b :: c :: d :: rest =>
      finishBytes
        (rotateLeft (hash ^^^ wordOfBytes [a, b, c, d] * prime1) 23 * prime2 + prime3) rest
  | bytes => finishBytes hash bytes

/-- The 64-bit xxHash of a byte list under a seed. -/
def hash (seed : UInt64) (bytes : List UInt8) : UInt64 :=
  let (words, tail) := wordsOfBytes bytes
  let (lanes, words) := (Lanes.ofSeed seed).absorbStripes words
  let start := if bytes.length < 32 then seed + prime5 else lanes.converge
  finishTail (words.foldl absorbWord (start + bytes.length.toUInt64)) tail

end XxHash64
end NodeLifecycle
