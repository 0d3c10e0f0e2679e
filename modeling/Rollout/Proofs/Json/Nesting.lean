import Rollout.Proofs.Json.Keeping

/-!
How deep the documents nest that codecs write. What stands inside a flattened record is read in
full, so it must be sound and must not nest too deep. The bound passes from slots to records and
from codecs to what is built of them.
-/
namespace Rollout

namespace Json

/-- The document can be read in full, and arrays and objects stand at most `n` deep in it. -/
structure Fits (n : Nat) (j : Json) : Prop where
  sound : j.isSound = true
  depth_le : j.depth ≤ n

theorem Fits.isReadable {n around : Nat} {j : Json} (h : j.Fits n) (hn : n + around < 128) :
    j.isReadable around = true := by
  have hdepth : j.depth + around < 128 :=
    Nat.lt_of_le_of_lt (Nat.add_le_add_right h.depth_le around) hn
  unfold Json.isReadable
  rw [h.sound, decide_eq_true hdepth]
  rfl

theorem fits_text (n : Nat) (s : String) : (text s).Fits n := ⟨rfl, Nat.zero_le n⟩

theorem fits_bool (n : Nat) (b : Bool) : (bool b).Fits n := ⟨rfl, Nat.zero_le n⟩

theorem fits_arr {n : Nat} {items : List Json} (h : ∀ j ∈ items, j.Fits n) :
    (arr items).Fits (n + 1) := by
  have hitems : isSound.areSound items = true ∧ depth.depthOfItems items ≤ n := by
    induction items with
    | nil => exact ⟨rfl, Nat.zero_le n⟩
    | cons j js ih =>
      obtain ⟨hsound, hdepth⟩ := ih fun k hk => h k (List.mem_cons_of_mem _ hk)
      have hj : j.Fits n := h j (List.mem_cons_self ..)
      refine ⟨?_, Nat.max_le.2 ⟨hj.depth_le, hdepth⟩⟩
      rw [isSound.areSound, hj.sound, hsound]
      rfl
  refine ⟨hitems.1, ?_⟩
  rw [depth, Nat.add_comm]
  exact Nat.succ_le_succ hitems.2

theorem fits_object {n : Nat} {members : List (String × Json)}
    (h : ∀ m ∈ members, m.2.Fits n) : (object members).Fits (n + 1) := by
  have hmembers : isSound.membersAreSound (members.map fun m => (some m.1, m.2)) = true ∧
      depth.depthOfMembers (members.map fun m => (some m.1, m.2)) ≤ n := by
    induction members with
    | nil => exact ⟨rfl, Nat.zero_le n⟩
    | cons m ms ih =>
      obtain ⟨hsound, hdepth⟩ := ih fun k hk => h k (List.mem_cons_of_mem _ hk)
      have hm : m.2.Fits n := h m (List.mem_cons_self ..)
      refine ⟨?_, Nat.max_le.2 ⟨hm.depth_le, hdepth⟩⟩
      rw [List.map_cons, isSound.membersAreSound, hm.sound, hsound]
      rfl
  refine ⟨hmembers.1, ?_⟩
  unfold object
  rw [depth, Nat.add_comm]
  exact Nat.succ_le_succ hmembers.2

end Json

variable {α β : Type} {name : String} {n : Nat}

def Codec.Nests (n : Nat) (c : Codec α) : Prop :=
  ∀ a, (c.encode a).Fits n

namespace Codec.Nests
variable {c : Codec α}

theorem string : Codec.string.Nests n := fun s => Json.fits_text n s

theorem bool : Codec.bool.Nests n := fun b => Json.fits_bool n b

theorem list (h : c.Nests n) : c.list.Nests (n + 1) := by
  intro as
  apply Json.fits_arr
  intro j hj
  obtain ⟨a, -, rfl⟩ := List.mem_map.1 hj
  exact h a

theorem dict (h : c.Nests n) : c.dict.Nests (n + 1) := by
  intro d
  apply Json.fits_object
  intro m hm
  obtain ⟨e, -, rfl⟩ := List.mem_map.1 hm
  exact h e.2

end Codec.Nests

def Slot.Nests (n : Nat) (s : Slot α) : Prop :=
  ∀ a, ∀ j ∈ s.write a, j.Fits n

namespace Slot.Nests
variable {c : Codec α}

theorem required (h : c.Nests n) : (Slot.required name c).Nests n := by
  intro a j hj
  obtain rfl := Option.some.inj hj
  exact h a

theorem plainly {default : α} (h : c.Nests n) : (Slot.plain name c default).Nests n := by
  intro a j hj
  obtain rfl := Option.some.inj hj
  exact h a

theorem omitting [DecidableEq α] {default : α} (h : c.Nests n) :
    (Slot.omitting default name c).Nests n := by
  intro a j hj
  obtain ⟨-, hj⟩ := Option.ite_none_left_eq_some.1 hj
  obtain rfl := Option.some.inj hj
  exact h a

theorem optional (h : c.Nests n) : (Slot.optional name c).Nests n := by
  intro o j hj
  obtain ⟨a, -, rfl⟩ := Option.map_eq_some_iff.1 hj
  exact h a

theorem list (h : c.Nests n) : (Slot.list name c).Nests (n + 1) := by
  intro as j hj
  obtain ⟨-, hj⟩ := Option.ite_none_left_eq_some.1 hj
  obtain rfl := Option.some.inj hj
  exact h.list as

theorem dict (h : c.Nests n) : (Slot.dict name c).Nests (n + 1) := by
  intro d j hj
  obtain ⟨-, hj⟩ := Option.ite_none_left_eq_some.1 hj
  obtain rfl := Option.some.inj hj
  exact h.dict d

theorem flag : (Slot.flag name).Nests n := omitting .bool

theorem word : (Slot.word name).Nests n := omitting .string

end Slot.Nests

def Record.Nests (n : Nat) (r : Record α) : Prop :=
  ∀ a, ∀ m ∈ r.write a, m.2.Fits n

namespace Record.Nests

theorem empty : Record.empty.Nests n := fun _ _ hm => nomatch hm

theorem one {s : Slot α} (h : s.Nests n) : (Record.one s).Nests n :=
  fun a _ hm => h a _ (mem_writeSlot hm).2

theorem and {s : Slot α} {r : Record β} (hs : s.Nests n) (hr : r.Nests n) :
    (Record.and s r).Nests n := by
  intro p m hm
  rcases List.mem_append.1 hm with hm | hm
  · exact hs p.1 _ (mem_writeSlot hm).2
  · exact hr p.2 m hm

theorem imap {r : Record α} (h : r.Nests n) (build : α → β) (parts : β → α) :
    (r.imap build parts).Nests n :=
  fun b => h (parts b)

theorem codec {r : Record α} (h : r.Nests n) : r.codec.Nests (n + 1) :=
  fun a => Json.fits_object (h a)

end Record.Nests

/-- Two records side by side keep what each of them keeps, if no name stands in both. Each finds
under its names what it has written itself, and what the inner one writes can be read in full. -/
theorem Record.Keeps.beside {own : Record α} {inner : Record β} {a : α} {b : β}
    (ha : own.Keeps a) (hb : inner.Keeps b) (hnodup : (inner.names ++ own.names).Nodup)
    (hnests : inner.Nests n) (hn : n + 1 < 128) : (own.beside inner).Keeps (a, b) := by
  obtain ⟨hinner, hown, hdisjoint⟩ := List.nodup_append.1 hnodup
  have hfields : Fields.ofJson? 0 (.obj (Fields.keyed (inner.write b ++ own.write a))) =
      some (.named (Fields.keyed (inner.write b ++ own.write a))) :=
    Fields.ofJson?_object 0 _
  have hreadable : (Fields.keyed (inner.write b ++ own.write a)).all
      (fun m => (m.1.any fun k => own.names.contains k) || m.2.isReadable 1) = true := by
    rw [List.all_eq_true]
    intro m hm
    obtain ⟨w, hw, rfl⟩ := List.mem_map.1 hm
    rcases List.mem_append.1 hw with hw | hw
    · have hfits : w.2.isReadable 1 = true := (hnests b w hw).isReadable hn
      rw [hfits, Bool.or_true]
    · have hname : w.1 ∈ own.names := ha.named w hw
      simp [hname]
  have hreadOwn : own.read 0 (.named (Fields.keyed (inner.write b ++ own.write a))) = some a := by
    apply ha.read_write hown
    intro name hname
    have hother : ∀ m ∈ inner.write b, m.1 ≠ name :=
      fun m hm => hdisjoint m.1 (hb.named m hm) name hname
    rw [Fields.valuesOf_keyed_append, Fields.valuesOf_keyed_eq_nil hother, List.nil_append]
  have hreadInner :
      inner.read 0 (.named (Fields.keyed (inner.write b ++ own.write a))) = some b := by
    apply hb.read_write hinner
    intro name hname
    have hother : ∀ m ∈ own.write a, m.1 ≠ name :=
      fun m hm => (hdisjoint name hname m.1 (ha.named m hm)).symm
    rw [Fields.valuesOf_keyed_append, Fields.valuesOf_keyed_eq_nil hother, List.append_nil]
  refine ⟨?_, ?_, ?_⟩
  · show (do
      let fields ← Fields.ofJson? 0 (.obj (Fields.keyed (inner.write b ++ own.write a)))
      if (Fields.keyed (inner.write b ++ own.write a)).all
          (fun m => (m.1.any fun k => own.names.contains k) || m.2.isReadable 1) then
        return (← own.read 0 fields, ← inner.read 0 fields)
      else none) = some (a, b)
    rw [hfields, Option.bind_eq_bind, Option.bind_some, if_pos hreadable, hreadOwn, hreadInner]
    rfl
  · show (Json.obj (Fields.keyed (inner.write b ++ own.write a))).isPlain = true
    rw [Json.isPlain_obj, Fields.keyed, List.all_map, List.all_eq_true]
    intro m hm
    rcases List.mem_append.1 hm with hm | hm
    · exact hb.plain m hm
    · exact ha.plain m hm
  · intro hnull
    cases hnull

end Rollout
