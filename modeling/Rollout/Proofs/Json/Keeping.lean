import Rollout.Json.Record
import Rollout.Proofs.Json.Reading

/-!
Values that are read back from what is written of them. The law holds of a value rather than of a
codec, so it also covers codecs that keep some of their values only. It passes from slots to
records, and from codecs to all that is built of them.
-/
namespace Rollout

/-- The value is read back from its document, which is not `null` and has nothing unread in it. -/
structure Codec.Keeps {α : Type} (c : Codec α) (a : α) : Prop where
  decode_encode : c.decode (c.encode a) = some a
  plain : (c.encode a).isPlain = true
  ne_null : c.encode a ≠ .null

namespace Codec.Keeps
variable {α β : Type} {c : Codec α}

theorem string (s : String) : Codec.string.Keeps s := ⟨rfl, rfl, nofun⟩

theorem bool (b : Bool) : Codec.bool.Keeps b := ⟨rfl, rfl, nofun⟩

theorem intBetween {least most n : Int} (h : least ≤ n ∧ n ≤ most) :
    (Codec.intBetween least most).Keeps n where
  decode_encode := if_pos h
  plain := rfl
  ne_null := nofun

theorem int32 (i : Int32) : Codec.int32.Keeps i where
  decode_encode := by
    have hread := intBetween ⟨i.minValue_le_toInt, i.toInt_le⟩
    show ((Codec.intBetween Int32.minValue.toInt Int32.maxValue.toInt).decode
      (.int i.toInt)).map Int32.ofInt = some i
    exact (congrArg (Option.map Int32.ofInt) hread.decode_encode).trans
      (congrArg some i.ofInt_toInt)
  plain := rfl
  ne_null := nofun

theorem decode_optional {j : Json} (h : j ≠ .null) :
    c.optional.decode j = (c.decode j).map some := by
  cases j with
  | null => exact absurd rfl h
  | _ => rfl

theorem optional {a : α} (h : c.Keeps a) : c.optional.Keeps (some a) where
  decode_encode := by
    have hdecode : c.optional.decode (c.encode a) = (c.decode (c.encode a)).map some :=
      decode_optional h.ne_null
    rw [h.decode_encode] at hdecode
    exact hdecode
  plain := h.plain
  ne_null := h.ne_null

theorem mapM_map_eq_some {as : List α} {write : α → β} {read : β → Option α}
    (h : ∀ a ∈ as, read (write a) = some a) : (as.map write).mapM read = some as := by
  induction as with
  | nil => rfl
  | cons a as ih =>
    have hhead : read (write a) = some a := h a (List.mem_cons_self ..)
    have htail : (as.map write).mapM read = some as :=
      ih fun b hb => h b (List.mem_cons_of_mem _ hb)
    rw [List.map_cons, List.mapM_cons, hhead, htail]
    rfl

theorem list {as : List α} (h : ∀ a ∈ as, c.Keeps a) : c.list.Keeps as where
  decode_encode := mapM_map_eq_some fun a ha => (h a ha).decode_encode
  plain := by
    unfold Codec.list
    rw [Json.isPlain_arr, List.all_map, List.all_eq_true]
    intro a ha
    exact (h a ha).plain
  ne_null := nofun

theorem dict {d : Dict α} (h : ∀ e ∈ d.entries, c.Keeps e.2) : c.dict.Keeps d where
  decode_encode := by
    have hentry : ∀ e ∈ d.entries, c.decodeEntry (some e.1, c.encode e.2) = some e := by
      intro e he
      rw [decodeEntry, (h e he).decode_encode]
      rfl
    have hdecode : c.dict.decode (c.dict.encode d) =
        ((d.entries.map fun e => (some e.1, c.encode e.2)).mapM c.decodeEntry).map
          Table.ofList := by
      simp [Codec.dict, Json.object, Function.comp_def]
    rw [hdecode, mapM_map_eq_some hentry, Option.map_some, Table.ofList_entries]
  plain := by
    change (Json.obj ((d.entries.map fun e => (e.1, c.encode e.2)).map fun m =>
      (some m.1, m.2))).isPlain = true
    rw [Json.isPlain_obj, List.map_map, List.all_map, List.all_eq_true]
    intro e he
    exact (h e he).plain
  ne_null := nofun

theorem imap {build : α → β} {parts : β → α} {b : β} (h : c.Keeps (parts b))
    (hbuild : build (parts b) = b) : (c.imap build parts).Keeps b where
  decode_encode := by
    show (c.decode (c.encode (parts b))).map build = some b
    rw [h.decode_encode, Option.map_some, hbuild]
  plain := h.plain
  ne_null := h.ne_null

theorem ofText?_toText {a : α} (h : c.Keeps a) : c.ofText? (c.toText a) = some a := by
  unfold ofText? toText
  rw [Json.ofText?_toText h.plain, Option.bind_some, h.decode_encode]

end Codec.Keeps

namespace Fields

def keyed (written : List (String × Json)) : List (Option String × Json) :=
  written.map fun m => (some m.1, m.2)

theorem ofJson?_object (count : Nat) (written : List (String × Json)) :
    ofJson? count (.object written) = some (.named (keyed written)) :=
  if_pos (by simp)

theorem valuesOf_keyed_append (name : String) (ms ns : List (String × Json)) :
    valuesOf name (keyed (ms ++ ns)) = valuesOf name (keyed ms) ++ valuesOf name (keyed ns) := by
  unfold valuesOf keyed
  rw [List.map_append, List.filter_append, List.map_append]

theorem valuesOf_eq_nil {name : String} {ms : List (Option String × Json)}
    (h : some name ∉ ms.map (·.1)) : valuesOf name ms = [] := by
  unfold valuesOf
  rw [List.map_eq_nil_iff, List.filter_eq_nil_iff]
  intro m hm he
  exact h (beq_iff_eq.1 he ▸ List.mem_map_of_mem hm)

theorem valuesOf_keyed_eq_nil {name : String} {ms : List (String × Json)}
    (h : ∀ m ∈ ms, m.1 ≠ name) : valuesOf name (keyed ms) = [] := by
  apply valuesOf_eq_nil
  rw [keyed, List.map_map, List.mem_map]
  rintro ⟨m, hm, he⟩
  exact h m hm (Option.some.inj he)

end Fields

structure Slot.Keeps {α : Type} (s : Slot α) (a : α) : Prop where
  read_write : ∀ place members, Fields.valuesOf s.name members = (s.write a).toList →
    s.read place (.named members) = some a
  plain : ∀ j ∈ s.write a, j.isPlain = true

namespace Slot.Keeps
variable {α : Type} {name : String} {c : Codec α}

theorem strict_left_out {fallback : Option α} {write : α → Option Json} {a : α}
    (hw : write a = none) (hf : fallback = some a) :
    (Slot.strict name c fallback write).Keeps a where
  read_write place members h := by
    have hnil : Fields.valuesOf name members = [] := by
      rw [show (Slot.strict name c fallback write).write a = none from hw] at h
      exact h
    simp only [Slot.strict, hnil, hf]
  plain j hj := by
    have hnone : none = some j := hw.symm.trans hj
    exact nomatch hnone

theorem strict_written {fallback : Option α} {write : α → Option Json} {a : α} {j : Json}
    (hw : write a = some j) (hd : c.decode j = some a) (hp : j.isPlain = true) :
    (Slot.strict name c fallback write).Keeps a where
  read_write place members h := by
    have hone : Fields.valuesOf name members = [j] := by
      rw [show (Slot.strict name c fallback write).write a = some j from hw] at h
      exact h
    simp only [Slot.strict, hone, hd]
  plain k hk := by
    obtain rfl := Option.some.inj (hw.symm.trans hk)
    exact hp

theorem required {a : α} (h : c.Keeps a) : (Slot.required name c).Keeps a :=
  strict_written rfl h.decode_encode h.plain

theorem plainly {default a : α} (h : c.Keeps a) : (Slot.plain name c default).Keeps a :=
  strict_written rfl h.decode_encode h.plain

theorem omitting [DecidableEq α] {default a : α} (h : c.Keeps a) :
    (Slot.omitting default name c).Keeps a := by
  by_cases ha : a = default
  · exact strict_left_out (if_pos ha) (congrArg some ha.symm)
  · exact strict_written (if_neg ha) h.decode_encode h.plain

theorem optional {o : Option α} (h : ∀ a ∈ o, c.Keeps a) : (Slot.optional name c).Keeps o := by
  cases o with
  | none => exact strict_left_out rfl rfl
  | some a => exact strict_written rfl (h a rfl).optional.decode_encode (h a rfl).plain

theorem list {as : List α} (h : ∀ a ∈ as, c.Keeps a) : (Slot.list name c).Keeps as := by
  cases as with
  | nil => exact strict_left_out rfl rfl
  | cons a as =>
    exact strict_written rfl (Codec.Keeps.list h).decode_encode (Codec.Keeps.list h).plain

theorem listOrNull {fallback : Option (List α)} {as : List α} (h : ∀ a ∈ as, c.Keeps a) :
    (Slot.listOrNull name c fallback).Keeps as := by
  have hread : (c.list.optional.decode (c.list.encode as)).map (·.getD []) = some as :=
    congrArg (Option.map (·.getD [])) (Codec.Keeps.list h).optional.decode_encode
  exact strict_written rfl hread (Codec.Keeps.list h).plain

theorem dict {d : Dict α} (h : ∀ e ∈ d.entries, c.Keeps e.2) : (Slot.dict name c).Keeps d := by
  by_cases hd : d.isEmpty = true
  · have hempty : (∅ : Dict α) = d := (Table.ext (List.isEmpty_iff.1 hd)).symm
    exact strict_left_out (if_pos hd) (congrArg some hempty)
  · exact strict_written (if_neg hd) (Codec.Keeps.dict h).decode_encode (Codec.Keeps.dict h).plain

theorem lenient {o : Option α} (h : ∀ a ∈ o, c.Keeps a) : (Slot.lenient name c).Keeps o where
  read_write place members hm := by
    change (do return (← (Fields.valuesOf name members).mapM c.optional.decode).getLast?.join) =
      some o
    rw [show Fields.valuesOf name members = (o.map c.encode).toList from hm]
    cases o with
    | none => rfl
    | some a =>
      have hread : c.optional.decode (c.encode a) = some (some a) :=
        (h a rfl).optional.decode_encode
      rw [Option.map_some, Option.toList_some, List.mapM_cons, hread]
      rfl
  plain j hj := by
    obtain ⟨a, ha, rfl⟩ := Option.map_eq_some_iff.1 hj
    exact (h a ha).plain

theorem lenientPlain {default a : α} (h : c.Keeps a) :
    (Slot.lenientPlain name c default).Keeps a where
  read_write place members hm := by
    have hread : (Slot.lenient name c).read place (.named members) = some (some a) :=
      (lenient fun b hb => Option.some.inj hb ▸ h).read_write place members hm
    change ((Slot.lenient name c).read place (.named members)).map (·.getD default) = some a
    rw [hread]
    rfl
  plain j hj := Option.some.inj hj ▸ h.plain

theorem fixed (name text : String) : (Slot.fixed name text).Keeps () where
  read_write place members hm := by
    change (do
      let found ← (Fields.valuesOf name members).mapM Codec.string.decode
      if found.all (· == text) then some () else none) = some ()
    rw [show Fields.valuesOf name members = [.text text] from hm]
    exact if_pos (by simp)
  plain j hj := Option.some.inj hj ▸ rfl

theorem optionalString (o : Option String) : (Slot.optional name .string).Keeps o :=
  optional fun s _ => .string s

theorem stringList (as : List String) : (Slot.list name .string).Keeps as :=
  list fun s _ => .string s

theorem stringDict (d : Dict String) : (Slot.dict name .string).Keeps d :=
  dict fun e _ => .string e.2

theorem lenientString (o : Option String) : (Slot.lenient name .string).Keeps o :=
  lenient fun s _ => .string s

theorem lenientDict (o : Option (Dict String)) : (Slot.lenient name (.dict .string)).Keeps o :=
  lenient fun _ _ => .dict fun e _ => .string e.2

theorem flag (b : Bool) : (Slot.flag name).Keeps b := omitting (.bool b)

theorem word (s : String) : (Slot.word name).Keeps s := omitting (.string s)

end Slot.Keeps

structure Record.Keeps {α : Type} (r : Record α) (a : α) : Prop where
  read_write : r.names.Nodup → ∀ place members,
    (∀ name ∈ r.names, Fields.valuesOf name members =
      Fields.valuesOf name (Fields.keyed (r.write a))) → r.read place (.named members) = some a
  named : ∀ m ∈ r.write a, m.1 ∈ r.names
  plain : ∀ m ∈ r.write a, m.2.isPlain = true

namespace Record
variable {α β : Type}

theorem mem_writeSlot {s : Slot α} {a : α} {m : String × Json} (h : m ∈ writeSlot s a) :
    m.1 = s.name ∧ m.2 ∈ s.write a := by
  rw [writeSlot] at h
  cases hw : s.write a with
  | none =>
    rw [hw] at h
    exact nomatch h
  | some j =>
    rw [hw] at h
    obtain rfl := List.mem_singleton.1 h
    exact ⟨rfl, rfl⟩

theorem valuesOf_writeSlot (s : Slot α) (a : α) :
    Fields.valuesOf s.name (Fields.keyed (writeSlot s a)) = (s.write a).toList := by
  rw [writeSlot]
  cases s.write a <;> simp [Fields.valuesOf, Fields.keyed]

namespace Keeps

theorem empty : Record.empty.Keeps () := ⟨fun _ _ _ _ => rfl, nofun, nofun⟩

theorem one {s : Slot α} {a : α} (h : s.Keeps a) : (Record.one s).Keeps a where
  read_write _ place members hm := by
    have hvalues : Fields.valuesOf s.name members = (s.write a).toList :=
      (hm s.name (List.mem_singleton_self _)).trans (valuesOf_writeSlot s a)
    exact h.read_write place members hvalues
  named _ hm := (mem_writeSlot hm).1 ▸ List.mem_singleton_self _
  plain _ hm := h.plain _ (mem_writeSlot hm).2

theorem and {s : Slot α} {r : Record β} {a : α} {b : β} (hs : s.Keeps a) (hr : r.Keeps b) :
    (Record.and s r).Keeps (a, b) where
  read_write hnodup place members hm := by
    obtain ⟨hnew, hnodup⟩ := List.nodup_cons.1 hnodup
    -- the names are different, so neither part sees what the other has written
    have hother : ∀ m ∈ r.write b, m.1 ≠ s.name := fun m hw e => hnew (e ▸ hr.named m hw)
    have hslot : Fields.valuesOf s.name members = (s.write a).toList := by
      rw [hm s.name (List.mem_cons_self ..)]
      show Fields.valuesOf s.name (Fields.keyed (writeSlot s a ++ r.write b)) = _
      rw [Fields.valuesOf_keyed_append, valuesOf_writeSlot, Fields.valuesOf_keyed_eq_nil hother,
        List.append_nil]
    have hrest : ∀ name ∈ r.names,
        Fields.valuesOf name members = Fields.valuesOf name (Fields.keyed (r.write b)) := by
      intro name hname
      have hown : ∀ m ∈ writeSlot s a, m.1 ≠ name :=
        fun m hw e => hnew ((mem_writeSlot hw).1.symm.trans e ▸ hname)
      rw [hm name (List.mem_cons_of_mem _ hname)]
      show Fields.valuesOf name (Fields.keyed (writeSlot s a ++ r.write b)) = _
      rw [Fields.valuesOf_keyed_append, Fields.valuesOf_keyed_eq_nil hown, List.nil_append]
    change
      (do return (← s.read place (.named members), ← r.read (place + 1) (.named members))) =
        some (a, b)
    rw [hs.read_write place members hslot, hr.read_write hnodup (place + 1) members hrest]
    rfl
  named m hm := by
    rcases List.mem_append.1 hm with hm | hm
    · exact (mem_writeSlot hm).1 ▸ List.mem_cons_self ..
    · exact List.mem_cons_of_mem _ (hr.named m hm)
  plain m hm := by
    rcases List.mem_append.1 hm with hm | hm
    · exact hs.plain _ (mem_writeSlot hm).2
    · exact hr.plain m hm

theorem imap {r : Record α} {build : α → β} {parts : β → α} {b : β}
    (h : r.Keeps (parts b)) (hbuild : build (parts b) = b) : (r.imap build parts).Keeps b where
  read_write hnodup place members hm := by
    have hread : r.read place (.named members) = some (parts b) :=
      h.read_write hnodup place members hm
    show (r.read place (.named members)).map build = some b
    rw [hread, Option.map_some, hbuild]
  named := h.named
  plain := h.plain

theorem codec {r : Record α} {a : α} (h : r.Keeps a) (hnodup : r.names.Nodup) :
    r.codec.Keeps a where
  decode_encode := by
    change (Fields.ofJson? r.names.length (.object (r.write a))).bind (r.read 0) = some a
    rw [Fields.ofJson?_object]
    exact h.read_write hnodup 0 _ fun _ _ => rfl
  plain := by
    change (Json.obj (Fields.keyed (r.write a))).isPlain = true
    rw [Json.isPlain_obj, Fields.keyed, List.all_map, List.all_eq_true]
    intro m hm
    exact h.plain m hm
  ne_null := nofun

theorem namedCodec {r : Record α} {a : α} (h : r.Keeps a) (hnodup : r.names.Nodup) :
    r.namedCodec.Keeps a where
  decode_encode := by
    change (Fields.ofJson? 0 (.object (r.write a))).bind (r.read 0) = some a
    rw [Fields.ofJson?_object]
    exact h.read_write hnodup 0 _ fun _ _ => rfl
  plain := (h.codec hnodup).plain
  ne_null := nofun

end Keeps
end Record
end Rollout
