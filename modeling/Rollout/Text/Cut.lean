/-!
Cutting a list of characters at the first place where something stands, and at every place where a
character stands. Main statement: the pieces, joined again by what was cut out, are the whole.
-/
namespace Rollout.Text

def cutAt? (c : Char) : List Char → Option (List Char × List Char)
  | [] => none
  | x :: xs => if x = c then some ([], xs) else (cutAt? c xs).map fun p => (x :: p.1, p.2)

def cutOn? (mark : List Char) : List Char → Option (List Char × List Char)
  | [] => if mark = [] then some ([], []) else none
  | x :: xs =>
    if mark.isPrefixOf (x :: xs) then some ([], (x :: xs).drop mark.length)
    else (cutOn? mark xs).map fun p => (x :: p.1, p.2)

def pieces (c : Char) : List Char → List (List Char)
  | [] => [[]]
  | x :: xs =>
    if x = c then [] :: pieces c xs
    else match pieces c xs with
      | [] => [[x]]
      | p :: ps => (x :: p) :: ps

def joinWith (c : Char) : List (List Char) → List Char
  | [] => []
  | [p] => p
  | p :: q :: ps => p ++ c :: joinWith c (q :: ps)

theorem cutAt?_eq_some {c : Char} {s a b : List Char} (h : cutAt? c s = some (a, b)) :
    s = a ++ c :: b ∧ c ∉ a := by
  induction s generalizing a with
  | nil => simp [cutAt?] at h
  | cons x xs ih =>
    by_cases hx : x = c
    · simp only [cutAt?, hx, ↓reduceIte, Option.some.injEq, Prod.mk.injEq] at h
      obtain ⟨rfl, rfl⟩ := h
      simp [hx]
    · simp only [cutAt?, hx, ↓reduceIte, Option.map_eq_some_iff, Prod.mk.injEq] at h
      obtain ⟨p, hp, rfl, rfl⟩ := h
      have := ih hp
      simp only [List.cons_append, List.mem_cons, not_or]
      exact ⟨by rw [← this.1], fun e => hx e.symm, this.2⟩

theorem cutAt?_eq_none_iff {c : Char} {s : List Char} : cutAt? c s = none ↔ c ∉ s := by
  induction s with
  | nil => simp [cutAt?]
  | cons x xs ih =>
    by_cases hx : x = c
    · simp [cutAt?, hx]
    · simp [cutAt?, hx, ih, Ne.symm hx]

theorem pieces_ne_nil (c : Char) (s : List Char) : pieces c s ≠ [] := by
  induction s with
  | nil => simp [pieces]
  | cons x xs ih =>
    by_cases hx : x = c
    · simp [pieces, hx]
    · cases h : pieces c xs with
      | nil => exact absurd h ih
      | cons p ps => simp [pieces, hx, h]

theorem joinWith_pieces (c : Char) (s : List Char) : joinWith c (pieces c s) = s := by
  induction s with
  | nil => rfl
  | cons x xs ih =>
    cases h : pieces c xs with
    | nil => exact absurd h (pieces_ne_nil c xs)
    | cons p ps =>
      rw [h] at ih
      by_cases hx : x = c
      · subst hx; simp [pieces, h, joinWith, ih]
      · cases ps with
        | nil => simp_all [pieces, joinWith]
        | cons q qs => simp_all [pieces, joinWith]

end Rollout.Text
