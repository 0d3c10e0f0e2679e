import Rollout.Ranked

/-!
Tables whose entries stand in the order of their keys, each key once, so two tables with the same
entries are the same. Keys are of any type with a strict order in which two different keys can be
told apart. Main statement: a table is the table of its entries.
-/
namespace Rollout

open Ranked

structure Table (κ : Type) [Ranked κ] (α : Type) where
  entries : List (κ × α)
  sorted : entries.Pairwise fun a b => below a.1 b.1 = true

namespace Table
variable {κ α β : Type} [Ranked κ]

theorem ext {d e : Table κ α} (h : d.entries = e.entries) : d = e := by
  cases d; cases e; simp_all

instance [DecidableEq κ] [DecidableEq α] : DecidableEq (Table κ α) := fun d e =>
  if h : d.entries = e.entries then isTrue (ext h) else isFalse fun he => h (he ▸ rfl)

instance [Repr κ] [Repr α] : Repr (Table κ α) := ⟨fun d n => reprPrec d.entries n⟩

def empty : Table κ α := ⟨[], .nil⟩

instance : EmptyCollection (Table κ α) := ⟨empty⟩
instance : Inhabited (Table κ α) := ⟨empty⟩

def isEmpty (d : Table κ α) : Bool := d.entries.isEmpty

def size (d : Table κ α) : Nat := d.entries.length

def get? [DecidableEq κ] (d : Table κ α) (key : κ) : Option α :=
  (d.entries.find? fun e => decide (e.1 = key)).map (·.2)

def contains [DecidableEq κ] (d : Table κ α) (key : κ) : Bool :=
  (d.get? key).isSome

def insertEntry (key : κ) (value : α) : List (κ × α) → List (κ × α)
  | [] => [(key, value)]
  | (k, v) :: es =>
    if below key k then (key, value) :: (k, v) :: es
    else if below k key then (k, v) :: insertEntry key value es
    else (key, value) :: es

theorem fst_of_mem_insertEntry {key : κ} {value : α} {es : List (κ × α)} {e : κ × α}
    (h : e ∈ insertEntry key value es) : e.1 = key ∨ e ∈ es := by
  induction es with
  | nil => simp_all [insertEntry]
  | cons x xs ih =>
    simp only [insertEntry] at h
    split at h
    · rcases List.mem_cons.1 h with rfl | h
      · exact .inl rfl
      · exact .inr h
    · split at h
      · rcases List.mem_cons.1 h with rfl | h
        · exact .inr (List.mem_cons_self ..)
        · exact (ih h).imp_right (List.mem_cons_of_mem _)
      · rcases List.mem_cons.1 h with rfl | h
        · exact .inl rfl
        · exact .inr (List.mem_cons_of_mem _ h)

theorem sorted_insertEntry {key : κ} {value : α} {es : List (κ × α)}
    (h : es.Pairwise fun a b => below a.1 b.1 = true) :
    (insertEntry key value es).Pairwise fun a b => below a.1 b.1 = true := by
  induction es with
  | nil => simp [insertEntry]
  | cons x xs ih =>
    rw [List.pairwise_cons] at h
    simp only [insertEntry]
    split
    · next hlt =>
      refine List.pairwise_cons.2 ⟨fun y hy => ?_, List.pairwise_cons.2 h⟩
      rcases List.mem_cons.1 hy with rfl | hy
      · exact hlt
      · exact below_trans hlt (h.1 y hy)
    · next hlt =>
      split
      · next hgt =>
        refine List.pairwise_cons.2 ⟨fun y hy => ?_, ih h.2⟩
        rcases fst_of_mem_insertEntry hy with e | hy
        · rw [e]; exact hgt
        · exact h.1 y hy
      · next hgt =>
        have e : key = x.1 :=
          eq_of_not_below (Bool.not_eq_true _ ▸ hlt) (Bool.not_eq_true _ ▸ hgt)
        exact List.pairwise_cons.2 ⟨fun y hy => e ▸ h.1 y hy, h.2⟩

def insert (d : Table κ α) (key : κ) (value : α) : Table κ α :=
  ⟨insertEntry key value d.entries, sorted_insertEntry d.sorted⟩

def ofList (es : List (κ × α)) : Table κ α :=
  -- of two entries with the same key the last one stays
  es.foldl (fun d e => d.insert e.1 e.2) ∅

def keys (d : Table κ α) : List κ := d.entries.map (·.1)

def includes [DecidableEq κ] [BEq α] (d e : Table κ α) : Bool :=
  e.entries.all fun x => d.get? x.1 == some x.2

theorem insertEntry_of_below {key : κ} {value : α} {es : List (κ × α)}
    (h : ∀ e ∈ es, below e.1 key = true) : insertEntry key value es = es ++ [(key, value)] := by
  induction es with
  | nil => rfl
  | cons x xs ih =>
    have hx : below x.1 key = true := h x (List.mem_cons_self ..)
    have hn : below key x.1 = false := (Bool.eq_false_or_eq_true _).resolve_left fun e => by
      have := below_trans hx e; rw [not_below_self] at this; exact absurd this (by decide)
    simp only [insertEntry]
    rw [if_neg (by simp [hn]), if_pos hx, ih fun e he => h e (List.mem_cons_of_mem _ he),
      List.cons_append]

theorem find?_insertEntry [DecidableEq κ] (key other : κ) (value : α) (es : List (κ × α)) :
    (insertEntry key value es).find? (fun e => decide (e.1 = other)) =
      if key = other then some (key, value) else es.find? fun e => decide (e.1 = other) := by
  induction es with
  | nil => by_cases h : key = other <;> simp [insertEntry, h]
  | cons x xs ih =>
    simp only [insertEntry]
    split
    · by_cases h : key = other <;> simp [h]
    · next hlt =>
      split
      · next hgt =>
        by_cases h : key = other
        · have hne : x.1 ≠ other := h ▸ ne_of_below hgt
          rw [List.find?_cons, ih]
          simp [hne, h]
        · simp [List.find?_cons, ih, h]
      · next hgt =>
        have e : key = x.1 :=
          eq_of_not_below (Bool.not_eq_true _ ▸ hlt) (Bool.not_eq_true _ ▸ hgt)
        by_cases h : key = other
        · simp [h]
        · have hne : x.1 ≠ other := e ▸ h
          simp [h, hne]

theorem get?_insert [DecidableEq κ] (d : Table κ α) (key other : κ) (value : α) :
    (d.insert key value).get? other = if key = other then some value else d.get? other := by
  simp only [get?, insert, find?_insertEntry]
  split <;> rfl

theorem contains_insert [DecidableEq κ] (d : Table κ α) (key other : κ) (value : α) :
    (d.insert key value).contains other = (decide (key = other) || d.contains other) := by
  simp only [contains, get?_insert]
  split <;> simp_all

def erase [DecidableEq κ] (d : Table κ α) (key : κ) : Table κ α :=
  ⟨d.entries.filter fun e => decide (e.1 ≠ key), d.sorted.filter _⟩

theorem get?_erase [DecidableEq κ] (d : Table κ α) (key other : κ) :
    (d.erase key).get? other = if key = other then none else d.get? other := by
  simp only [get?, erase, List.find?_filter]
  split
  · next h =>
    have hnone :
        (d.entries.find? fun e =>
          decide (decide (e.1 ≠ key) = true ∧ decide (e.1 = other) = true)) = none := by
      rw [List.find?_eq_none]
      intro e _
      simp [h]
    rw [hnone]
    rfl
  · next h =>
    have hsame :
        (fun e : κ × α => decide (decide (e.1 ≠ key) = true ∧ decide (e.1 = other) = true)) =
        fun e => decide (e.1 = other) := by
      funext e
      by_cases he : e.1 = other <;> simp [he, Ne.symm h]
    rw [hsame]

def modify [DecidableEq κ] (d : Table κ α) (key : κ) (f : α → α) : Table κ α :=
  match d.get? key with
  | none => d
  | some value => d.insert key (f value)

theorem get?_modify [DecidableEq κ] (d : Table κ α) (key other : κ) (f : α → α) :
    (d.modify key f).get? other = if key = other then (d.get? other).map f else d.get? other := by
  unfold modify
  split
  · next hnone =>
    by_cases h : key = other
    · rw [if_pos h, ← h, hnone]
      rfl
    · rw [if_neg h]
  · next value hsome =>
    rw [get?_insert]
    by_cases h : key = other
    · rw [if_pos h, if_pos h, ← h, hsome]
      rfl
    · rw [if_neg h, if_neg h]

theorem ofList_entries (d : Table κ α) : ofList d.entries = d := by
  have key : ∀ (es : List (κ × α)) (acc : Table κ α),
      (acc.entries ++ es).Pairwise (fun a b => below a.1 b.1 = true) →
      (es.foldl (fun d e => d.insert e.1 e.2) acc).entries = acc.entries ++ es := by
    intro es
    induction es with
    | nil => simp
    | cons x xs ih =>
      intro acc h
      have hlt : ∀ e ∈ acc.entries, below e.1 x.1 = true := fun e he =>
        (List.pairwise_append.1 h).2.2 e he x (List.mem_cons_self ..)
      have hins : (acc.insert x.1 x.2).entries = acc.entries ++ [x] := insertEntry_of_below hlt
      rw [List.foldl_cons, ih _ (by rw [hins]; simpa using h), hins]
      simp
  have hd := key d.entries ⟨[], .nil⟩ (by simpa using d.sorted)
  exact ext (by simpa [ofList, EmptyCollection.emptyCollection, empty] using hd)

end Table

abbrev Dict (α : Type) := Table String α

end Rollout
