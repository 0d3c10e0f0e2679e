import Rollout.Ranked
import Rollout.Version.Basic

/-!
Two orders of versions. Precedence leaves build data out of account and ranks a release above its
pre-releases; the full order decides by build data where precedence is equal.
-/
namespace Rollout

def Identifier.cmp : Identifier → Identifier → Ordering
  | .number m, .number n => compare m n
  | .number _, .word _ => .lt
  | .word _, .number _ => .gt
  | .word s, .word t => Ranked.cmp s t

def Identifier.cmpAll : List Identifier → List Identifier → Ordering
  | [], [] => .eq
  | [], _ :: _ => .lt
  | _ :: _, [] => .gt
  | i :: is, j :: js => (i.cmp j).then (cmpAll is js)

namespace Version

def cmpPre : List Identifier → List Identifier → Ordering
  | [], [] => .eq
  | [], _ :: _ => .gt
  | _ :: _, [] => .lt
  | i :: is, j :: js => Identifier.cmpAll (i :: is) (j :: js)

def precedence (a b : Version) : Ordering :=
  (compare a.major b.major).then <| (compare a.minor b.minor).then <|
    (compare a.patch b.patch).then <| cmpPre a.pre b.pre

def cmp (a b : Version) : Ordering :=
  (precedence a b).then (Identifier.cmpAll a.build b.build)

instance : Ord Version := ⟨cmp⟩

def sort (vs : List Version) : List Version :=
  vs.mergeSort fun a b => cmp a b != .gt

end Version
end Rollout
