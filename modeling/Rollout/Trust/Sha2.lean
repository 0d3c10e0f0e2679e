import Rollout.Trust.Der

/-!
The two hash functions with words of 32 and of 64 bits. Their constants are the first bits of the
fractional parts of roots of the first primes: cube roots for the rounds, square roots for the
start.
-/
namespace Rollout.Sha2
open Der

def rootOf (k n bits : Nat) : Nat :=
  (List.range bits).reverse.foldl
    (fun r i => if Nat.pow (r + Nat.pow 2 i) k ≤ n then r + Nat.pow 2 i else r) 0

def isPrime (n : Nat) : Bool :=
  2 ≤ n && (List.range n).all fun d => d < 2 || n % d != 0

def firstPrimes (count : Nat) : List Nat :=
  ((List.range 420).filter isPrime).take count

/-- One of the two functions: the size of a word in bits, the number of rounds, and by how many
places words are turned. -/
structure Variant where
  width : Nat
  rounds : Nat
  sum0 : Nat × Nat × Nat
  sum1 : Nat × Nat × Nat
  mix0 : Nat × Nat × Nat
  mix1 : Nat × Nat × Nat

namespace Variant

def sha256 : Variant := ⟨32, 64, (2, 13, 22), (6, 11, 25), (7, 18, 3), (17, 19, 10)⟩

def sha512 : Variant := ⟨64, 80, (28, 34, 39), (14, 18, 41), (1, 8, 7), (19, 61, 6)⟩

variable (v : Variant)

def modulus : Nat := Nat.pow 2 v.width

def fraction (k p : Nat) : Nat :=
  rootOf k (p * Nat.pow 2 (k * v.width)) (v.width + 5) % v.modulus

def roundConstants : List Nat :=
  (firstPrimes v.rounds).map (v.fraction 3)

def start : List Nat :=
  (firstPrimes 8).map (v.fraction 2)

def turn (places x : Nat) : Nat :=
  x / Nat.pow 2 places + x % Nat.pow 2 places * Nat.pow 2 (v.width - places)

def turns (p : Nat × Nat × Nat) (x : Nat) : Nat :=
  v.turn p.1 x ^^^ v.turn p.2.1 x ^^^ v.turn p.2.2 x

def mix (p : Nat × Nat × Nat) (x : Nat) : Nat :=
  v.turn p.1 x ^^^ v.turn p.2.1 x ^^^ x / Nat.pow 2 p.2.2

def wrap (x : Nat) : Nat := x % v.modulus

def schedule (block : List Nat) : List Nat :=
  (List.range (v.rounds - 16)).foldl
    (fun ws _ => v.wrap (v.mix v.mix1 (ws.getD 1 0) + ws.getD 6 0 + v.mix v.mix0 (ws.getD 14 0) +
      ws.getD 15 0) :: ws)
    block.reverse

def round (constant word : Nat) : List Nat → List Nat
  | [a, b, c, d, e, f, g, h] =>
    let t1 := h + v.turns v.sum1 e + ((e &&& f) ^^^ ((v.modulus - 1 - e) &&& g)) + constant + word
    let t2 := v.turns v.sum0 a + ((a &&& b) ^^^ (a &&& c) ^^^ (b &&& c))
    [v.wrap (t1 + t2), a, b, c, v.wrap (d + t1), e, f, g]
  | state => state

def compress (constants state block : List Nat) : List Nat :=
  let after := (constants.zip (v.schedule block).reverse).foldl (fun s p => v.round p.1 p.2 s) state
  (state.zip after).map fun p => v.wrap (p.1 + p.2)

def bytesOf (count n : Nat) : List UInt8 :=
  let bytes := bytesOfNat n
  List.replicate (count - bytes.length) 0 ++ bytes

def pad (message : List UInt8) : List UInt8 :=
  let size := 2 * v.width
  let used := message.length + 1 + v.width / 4
  message ++ 0x80 ::
    (List.replicate ((size - used % size) % size) 0 ++ bytesOf (v.width / 4) (message.length * 8))

def chunks {α : Type} (size : Nat) : Nat → List α → List (List α)
  | 0, _ => []
  | bound + 1, xs =>
    if size = 0 || xs.length < size then [] else xs.take size :: chunks size bound (xs.drop size)

def blocks (message : List UInt8) : List (List Nat) :=
  let bytes := v.pad message
  let words := (chunks (v.width / 8) bytes.length bytes).map natOfBytes
  chunks 16 words.length words

def hash (message : List UInt8) : List UInt8 :=
  let constants := v.roundConstants
  ((v.blocks message).foldl (v.compress constants) v.start).flatMap (bytesOf (v.width / 8))

end Variant

def sha256 (message : List UInt8) : List UInt8 := Variant.sha256.hash message

def sha512 (message : List UInt8) : List UInt8 := Variant.sha512.hash message

end Rollout.Sha2
