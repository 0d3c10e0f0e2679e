/-! Arithmetic modulo a number, with exponents and scalars taken bit by bit. -/
namespace Rollout.Modulo

def bits (n : Nat) : List Bool :=
  if n = 0 then [] else bits (n / 2) ++ [n % 2 == 1]
termination_by n
decreasing_by omega

def fold {α : Type} (double : α → α) (add : α → α → α) (zero a : α) (n : Nat) : α :=
  (bits n).foldl (fun acc b => if b then add (double acc) a else double acc) zero

def sub (m a b : Nat) : Nat :=
  (a + (m - b % m)) % m

def pow (m a n : Nat) : Nat :=
  fold (fun x => x * x % m) (fun x y => x * y % m) (1 % m) (a % m) n

def inverse (p a : Nat) : Nat :=
  pow p a (p - 2)

end Rollout.Modulo
