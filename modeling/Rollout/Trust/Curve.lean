import Rollout.Trust.Der
import Rollout.Trust.Modulo
import Rollout.Trust.Sha2

/-!
The curves on which keys are points: two of the form `y² = x³ - 3x + b`, and the twisted one whose
keys are derived from a seed. A public key is the point that the private number takes the base point
to.
-/
namespace Rollout
open Der

/-- A curve of the form `y² = x³ - 3x + b` modulo the prime `p`, with a base point of order
`n`. -/
structure Curve where
  size : Nat
  id : List UInt8
  p : Nat
  b : Nat
  n : Nat
  baseX : Nat
  baseY : Nat

namespace Curve
open Modulo

def p256 : Curve where
  size := 32
  id := objectIdBody [1, 2, 840, 10045, 3, 1, 7]
  p := 0xffffffff00000001000000000000000000000000ffffffffffffffffffffffff
  b := 0x5ac635d8aa3a93e7b3ebbd55769886bc651d06b0cc53b0f63bce3c3e27d2604b
  n := 0xffffffff00000000ffffffffffffffffbce6faada7179e84f3b9cac2fc632551
  baseX := 0x6b17d1f2e12c4247f8bce6e563a440f277037d812deb33a0f4a13945d898c296
  baseY := 0x4fe342e2fe1a7f9b8ee7eb4a7c0f9e162bce33576b315ececbb6406837bf51f5

def p384 : Curve where
  size := 48
  id := objectIdBody [1, 3, 132, 0, 34]
  p :=
    0xfffffffffffffffffffffffffffffffffffffffffffffffffffffffffffffffeffffffff0000000000000000ffffffff
  b :=
    0xb3312fa7e23ee7e4988e056be3f82d19181d9c6efe8141120314088f5013875ac656398d8a2ed19d2a85c8edd3ec2aef
  n :=
    0xffffffffffffffffffffffffffffffffffffffffffffffffc7634d81f4372ddf581a0db248b0a77aecec196accc52973
  baseX :=
    0xaa87ca22be8b05378eb1c71ef320ad746e1d3b628ba79b9859f741e082542a385502f25dbf55296c3a545e3872760ab7
  baseY :=
    0x3617de4a96262c6f5d9e98bf9292dc29f8f41dbd289a147ce9da3113b5f0b8c00a60b1ce1d7e819d7a431d7c90ea0e5f

/-- A point in projective coordinates: `x / z²` and `y / z³`, or no finite point where `z` is
zero. -/
structure Point where
  x : Nat
  y : Nat
  z : Nat

variable (c : Curve)

def infinity : Point := ⟨1, 1, 0⟩

def base : Point := ⟨c.baseX, c.baseY, 1⟩

def double (q : Point) : Point :=
  let m (a b : Nat) : Nat := a * b % c.p
  let zz := m q.z q.z
  let yy := m q.y q.y
  let s := 4 * m q.x yy % c.p
  let t := 3 * m (sub c.p q.x zz) (q.x + zz) % c.p
  let x := sub c.p (m t t) (2 * s)
  ⟨x, sub c.p (m t (sub c.p s x)) (8 * m yy yy), 2 * m q.y q.z % c.p⟩

def add (q r : Point) : Point :=
  if q.z = 0 then r
  else if r.z = 0 then q
  else
    let m (a b : Nat) : Nat := a * b % c.p
    let qq := m q.z q.z
    let rr := m r.z r.z
    let u := m q.x rr
    let h := sub c.p (m r.x qq) u
    let v := m q.y (m r.z rr)
    let t := sub c.p (m r.y (m q.z qq)) v
    if h = 0 then if t = 0 then double c q else infinity
    else
      let hh := m h h
      let hhh := m h hh
      let w := m u hh
      let x := sub c.p (sub c.p (m t t) hhh) (2 * w)
      ⟨x, sub c.p (m t (sub c.p w x)) (m v hhh), m h (m q.z r.z)⟩

def coordinates? (q : Point) : Option (Nat × Nat) :=
  if q.z = 0 then none
  else
    let i := inverse c.p q.z
    let ii := i * i % c.p
    some (q.x * ii % c.p, q.y * (ii * i % c.p) % c.p)

def publicPoint? (d : Nat) : Option (Nat × Nat) :=
  if 1 ≤ d ∧ d < c.n then coordinates? c (fold (double c) (add c) infinity (base c) d) else none

def coordinateBytes (n : Nat) : List UInt8 :=
  Sha2.Variant.bytesOf c.size n

def pointBytes (q : Nat × Nat) : List UInt8 :=
  4 :: (coordinateBytes c q.1 ++ coordinateBytes c q.2)

def shortPointBytes (q : Nat × Nat) : List UInt8 :=
  (if q.2 % 2 = 0 then 2 else 3) :: coordinateBytes c q.1

def sign (d once : Nat) (hash : List UInt8) : List UInt8 :=
  match publicPoint? c once with
  | none => []
  | some (x, _) =>
    let r := x % c.n
    let s := inverse c.n once * (natOfBytes (hash.take c.size) + r * d) % c.n
    write .sequence (writeInteger r ++ writeInteger s)

end Curve

/-! The twisted curve `-x² + y² = 1 + d x² y²` modulo `2 ^ 255 - 19`. -/
namespace Edwards
open Modulo

def p : Nat := Nat.pow 2 255 - 19

def d : Nat := sub p 0 (121665 * inverse p 121666 % p)

/-- A point in extended coordinates: `x / z`, `y / z` and `x y / z`. -/
structure Point where
  x : Nat
  y : Nat
  z : Nat
  t : Nat

def neutral : Point := ⟨0, 1, 1, 0⟩

def base : Point :=
  let x := 15112221349535400772501151409588531511454012693041857206046113283949847762202
  let y := 46316835694926478169428394003475163141307993866256225615783033603165251855960
  ⟨x, y, 1, x * y % p⟩

def add (factor : Nat) (q r : Point) : Point :=
  let m (a b : Nat) : Nat := a * b % p
  let a := m (sub p q.y q.x) (sub p r.y r.x)
  let b := m (q.y + q.x) (r.y + r.x)
  let c := m (m q.t factor) r.t
  let e := 2 * m q.z r.z % p
  let s := sub p b a
  let u := sub p e c
  let v := e + c
  let w := b + a
  ⟨m s u, m v w, m u v, m s w⟩

def natOfReversed (bytes : List UInt8) : Nat := natOfBytes bytes.reverse

def scalar (seed : List UInt8) : Nat :=
  let n := natOfReversed ((Sha2.sha512 seed).take 32)
  n % Nat.pow 2 254 / 8 * 8 + Nat.pow 2 254

def publicKey (seed : List UInt8) : List UInt8 :=
  let factor := 2 * d
  let q := fold (fun r => add factor r r) (add factor) neutral base (scalar seed)
  let i := inverse p q.z
  let x := q.x * i % p
  let y := q.y * i % p
  (Sha2.Variant.bytesOf 32 (y + x % 2 * Nat.pow 2 255)).reverse

end Edwards
end Rollout
