import Rollout.Json.Record

/-!
What the reading of a record depends on. A strict slot looks at nothing but what is given for it, by
its name or at its place, so documents that give the same for all slots of a record are read the
same. Of two records side by side each is therefore read as it is read alone.
-/
namespace Rollout

namespace Fields

def given (place : Nat) (name : String) : Fields → List Json
  | named members => valuesOf name members
  | placed items => items[place]?.toList

def Agree (x y : Fields) : Nat → List String → Prop
  | _, [] => True
  | place, name :: names => x.given place name = y.given place name ∧ Agree x y (place + 1) names

end Fields

variable {α β : Type}

/-- The slot looks at nothing but what is given for it. -/
def Slot.IsLocal (s : Slot α) : Prop :=
  ∀ place x y, Fields.given place s.name x = Fields.given place s.name y →
    s.read place x = s.read place y

def Codec.decodeOne (c : Codec α) (fallback : Option α) : List Json → Option α
  | [] => fallback
  | [j] => c.decode j
  | _ => none

theorem Slot.read_strict (name : String) (c : Codec α) (fallback : Option α)
    (write : α → Option Json) (place : Nat) (x : Fields) :
    (strict name c fallback write).read place x = c.decodeOne fallback (x.given place name) := by
  cases x with
  | named members => rfl
  | placed items =>
    simp only [strict, Fields.given]
    cases items[place]? <;> rfl

theorem Slot.IsLocal.strict {name : String} {c : Codec α} {fallback : Option α}
    {write : α → Option Json} : (Slot.strict name c fallback write).IsLocal := by
  intro place x y h
  have hgiven : x.given place name = y.given place name := h
  rw [read_strict, read_strict, hgiven]

/-- The record looks at nothing but what is given for its names. -/
def Record.IsLocal (r : Record α) : Prop :=
  ∀ place x y, Fields.Agree x y place r.names → r.read place x = r.read place y

namespace Record.IsLocal

theorem one {s : Slot α} (h : s.IsLocal) : (Record.one s).IsLocal := by
  intro place x y hagree
  exact h place x y hagree.1

theorem and {s : Slot α} {r : Record β} (hs : s.IsLocal) (hr : r.IsLocal) :
    (Record.and s r).IsLocal := by
  intro place x y hagree
  obtain ⟨hfirst, hrest⟩ := hagree
  show (do return (← s.read place x, ← r.read (place + 1) x)) =
    do return (← s.read place y, ← r.read (place + 1) y)
  rw [hs place x y hfirst, hr (place + 1) x y hrest]

theorem imap {r : Record α} (h : r.IsLocal) (build : α → β) (parts : β → α) :
    (r.imap build parts).IsLocal := by
  intro place x y hagree
  exact congrArg (Option.map build) (h place x y hagree)

end Record.IsLocal

namespace Record

def Alike (r : Record α) (j k : Json) : Prop :=
  ∃ x y, Fields.ofJson? r.names.length j = some x ∧ Fields.ofJson? r.names.length k = some y ∧
    x.Agree y 0 r.names

theorem Alike.decode_eq {r : Record α} {j k : Json} (h : r.Alike j k) (hlocal : r.IsLocal) :
    r.codec.decode j = r.codec.decode k := by
  obtain ⟨x, y, hx, hy, hagree⟩ := h
  show (Fields.ofJson? r.names.length j).bind (r.read 0) =
    (Fields.ofJson? r.names.length k).bind (r.read 0)
  rw [hx, hy]
  exact hlocal 0 x y hagree

/-- What is read of two records side by side is what is read of each of them alone. -/
theorem decode_of_beside {own : Record α} {inner : Record β} {j : Json} {a : α} {b : β}
    (h : (own.beside inner).decode j = some (a, b)) :
    own.codec.decode j = some a ∧ inner.codec.decode j = some b := by
  cases j with
  | obj members =>
    obtain ⟨x, hx, hread⟩ := Option.bind_eq_some_iff.1 h
    obtain ⟨-, hread⟩ := Option.ite_none_right_eq_some.1 hread
    obtain ⟨a', ha, hread⟩ := Option.bind_eq_some_iff.1 hread
    obtain ⟨b', hb, hpair⟩ := Option.bind_eq_some_iff.1 hread
    obtain ⟨rfl, rfl⟩ := Prod.mk.inj (Option.some.inj hpair)
    exact ⟨Option.bind_eq_some_iff.2 ⟨x, hx, ha⟩, Option.bind_eq_some_iff.2 ⟨x, hx, hb⟩⟩
  | _ => exact nomatch h

end Record
end Rollout
