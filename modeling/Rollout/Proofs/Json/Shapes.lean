import Rollout.Proofs.Json.Agreement
import Rollout.Proofs.Json.Keeping
import Rollout.Proofs.Tables

/-!
What may be changed in a document without changing what is read from it. A shape says which records,
lists and dictionaries stand where in a document, and so which names a record asks for and what an
absent field stands for. Main statement: a codec of a shape reads the same before and after a
change; the law passes from the parts of a codec to the whole.
-/
namespace Rollout

/-- What a codec looks for at one place of a document, as far as it is made of records, lists and
dictionaries. -/
inductive Shape
  | text
  | flag
  | optional (inner : Shape)
  | list (item : Shape)
  | dict (value : Shape)
  | record (fields : List (String × Shape))

namespace Shape

def absent? : Shape → Option Json
  | flag => some (.bool false)
  | optional _ => some .null
  | list _ => some (.arr [])
  | dict _ => some (.obj [])
  | text | record _ => none

/-- One change of a document that shows in nothing that is read. At its own place an object may have
its members in another order, and a record may be given members of other names, or absent fields, or
anything else under another name. Further inside, what stands for an item, an entry or a field may
be changed in its turn. -/
inductive Rewrites : Shape → Json → Json → Prop
  | permute {s : Shape} {ms ms' : List (Option String × Json)} : ms.Perm ms' →
      (ms.map (·.1)).Nodup → Rewrites s (.obj ms) (.obj ms')
  | unknown {fields : List (String × Shape)} {before after : List (Option String × Json)}
      {name : String} {j : Json} : name ∉ fields.map (·.1) →
      Rewrites (.record fields) (.obj (before ++ after)) (.obj (before ++ (some name, j) :: after))
  | skipped {fields : List (String × Shape)} {before after : List (Option String × Json)}
      {name : String} {j j' : Json} : name ∉ fields.map (·.1) →
      Rewrites (.record fields) (.obj (before ++ (some name, j) :: after))
        (.obj (before ++ (some name, j') :: after))
  | absent {fields : List (String × Shape)} {before after : List (Option String × Json)}
      {name : String} {s : Shape} {j : Json} :
      (name, s) ∈ fields → some name ∉ (before ++ after).map (·.1) → s.absent? = some j →
      Rewrites (.record fields) (.obj (before ++ after)) (.obj (before ++ (some name, j) :: after))
  | optional {s : Shape} {j j' : Json} : Rewrites s j j' → Rewrites (.optional s) j j'
  | item {s : Shape} {before after : List Json} {j j' : Json} : Rewrites s j j' →
      Rewrites (.list s) (.arr (before ++ j :: after)) (.arr (before ++ j' :: after))
  | entry {s : Shape} {before after : List (Option String × Json)} {key : Option String}
      {j j' : Json} : Rewrites s j j' →
      Rewrites (.dict s) (.obj (before ++ (key, j) :: after)) (.obj (before ++ (key, j') :: after))
  | member {fields : List (String × Shape)} {before after : List (Option String × Json)}
      {name : String} {s : Shape} {j j' : Json} : (name, s) ∈ fields → Rewrites s j j' →
      Rewrites (.record fields) (.obj (before ++ (some name, j) :: after))
        (.obj (before ++ (some name, j') :: after))
  | placed {fields : List (String × Shape)} {before after : List Json} {name : String} {s : Shape}
      {j j' : Json} : fields[before.length]? = some (name, s) → Rewrites s j j' →
      Rewrites (.record fields) (.arr (before ++ j :: after)) (.arr (before ++ j' :: after))

theorem Rewrites.ne_null {s : Shape} {j j' : Json} (h : s.Rewrites j j') :
    j ≠ .null ∧ j' ≠ .null := by
  induction h with
  | optional _ ih => exact ih
  | _ => exact ⟨nofun, nofun⟩

/-- What is given for a field before and after a change: the same, or nothing and what stands for
nothing, or one of the values is changed. -/
inductive Given (s : Shape) : List Json → List Json → Prop
  | same (js : List Json) : Given s js js
  | absent {j : Json} : s.absent? = some j → Given s [] [j]
  | changed {before after : List Json} {j j' : Json} : s.Rewrites j j' →
      Given s (before ++ j :: after) (before ++ j' :: after)

end Shape

variable {α β : Type}

structure Codec.HasShape (s : Shape) (c : Codec α) : Prop where
  decode_eq : ∀ {j j' : Json}, s.Rewrites j j' → c.decode j = c.decode j'

theorem mapM_replace {f : α → Option β} {x y : α} (h : f x = f y) (before after : List α) :
    (before ++ x :: after).mapM f = (before ++ y :: after).mapM f := by
  rw [List.mapM_append, List.mapM_append, List.mapM_cons, List.mapM_cons, h]

theorem mapM_perm (f : α → Option β) {l l' : List α} (h : l.Perm l') :
    Option.Rel List.Perm (l.mapM f) (l'.mapM f) := by
  induction h with
  | nil => exact .some .nil
  | cons a _ ih =>
    rw [List.mapM_cons, List.mapM_cons]
    cases f a with
    | none => exact .none
    | some b =>
      revert ih
      generalize List.mapM f _ = bs, List.mapM f _ = bs'
      rintro (hperm | _)
      · exact .some (hperm.cons b)
      · exact .none
  | swap x y l =>
    simp only [List.mapM_cons]
    cases f x with
    | none => cases f y <;> exact .none
    | some a =>
      cases f y with
      | none => exact .none
      | some b =>
        cases l.mapM f with
        | none => exact .none
        | some bs => exact .some (.swap ..)
  | trans _ _ ih ih' =>
    revert ih ih'
    generalize List.mapM f _ = bs, List.mapM f _ = bs', List.mapM f _ = bs''
    rintro (hperm | _) (hperm' | _)
    · exact .some (hperm.trans hperm')
    · exact .none

namespace Codec
variable {c : Codec α}

theorem keys_of_decodeEntry {ms : List (Option String × Json)} {es : List (String × α)}
    (h : ms.mapM c.decodeEntry = some es) : es.map (fun e => some e.1) = ms.map (·.1) := by
  induction ms generalizing es with
  | nil =>
    obtain rfl := Option.some.inj h
    rfl
  | cons m ms ih =>
    rw [List.mapM_cons] at h
    obtain ⟨e, he, h⟩ := Option.bind_eq_some_iff.1 h
    obtain ⟨rest, hrest, h⟩ := Option.bind_eq_some_iff.1 h
    obtain rfl := Option.some.inj h
    obtain ⟨key, hkey, he⟩ := Option.bind_eq_some_iff.1 he
    obtain ⟨a, -, he⟩ := Option.bind_eq_some_iff.1 he
    obtain rfl := Option.some.inj he
    rw [List.map_cons, List.map_cons, ih hrest, hkey]

theorem decode_dict_perm {ms ms' : List (Option String × Json)} (hperm : ms.Perm ms')
    (hnodup : (ms.map (·.1)).Nodup) : c.dict.decode (.obj ms) = c.dict.decode (.obj ms') := by
  show (ms.mapM c.decodeEntry).map Table.ofList = (ms'.mapM c.decodeEntry).map Table.ofList
  have hrel : Option.Rel List.Perm (ms.mapM c.decodeEntry) (ms'.mapM c.decodeEntry) :=
    mapM_perm c.decodeEntry hperm
  generalize hes : ms.mapM c.decodeEntry = es, hes' : ms'.mapM c.decodeEntry = es' at hrel ⊢
  rcases hrel with hentries | _
  · rw [← keys_of_decodeEntry hes] at hnodup
    have hkeys := List.Nodup.of_map some (by rwa [List.map_map])
    rw [Option.map_some, Option.map_some, Table.ofList_eq_of_perm hentries hkeys]
  · rfl

namespace HasShape
variable {s : Shape}

theorem decode_eq_of_eqvGen (h : c.HasShape s) {j j' : Json}
    (hchanges : Relation.EqvGen s.Rewrites j j') : c.decode j = c.decode j' :=
  congrArg (Quot.lift c.decode fun _ _ => h.decode_eq) (Quot.eqvGen_sound hchanges)

theorem string : Codec.string.HasShape .text where
  decode_eq h := by
    cases h
    rfl

theorem bool : Codec.bool.HasShape .flag where
  decode_eq h := by
    cases h
    rfl

theorem optional (h : c.HasShape s) : c.optional.HasShape (.optional s) where
  decode_eq {j j'} hrewrites := by
    have hinner : c.decode j = c.decode j' := by
      cases hrewrites with
      | permute hperm hnodup => exact h.decode_eq (.permute hperm hnodup)
      | optional hrewrites => exact h.decode_eq hrewrites
    rw [Keeps.decode_optional hrewrites.ne_null.1, Keeps.decode_optional hrewrites.ne_null.2,
      hinner]

theorem list (h : c.HasShape s) : c.list.HasShape (.list s) where
  decode_eq hrewrites := by
    cases hrewrites with
    | permute => rfl
    | item hitem => exact mapM_replace (h.decode_eq hitem) _ _

theorem dict (h : c.HasShape s) : c.dict.HasShape (.dict s) where
  decode_eq hrewrites := by
    cases hrewrites with
    | permute hperm hnodup => exact decode_dict_perm hperm hnodup
    | @entry _ before after key j j' hentry =>
      have hread : c.decodeEntry (key, j) = c.decodeEntry (key, j') := by
        unfold decodeEntry
        rw [h.decode_eq hentry]
      exact congrArg (Option.map Table.ofList) (mapM_replace hread _ _)

theorem decodeOne_eq (h : c.HasShape s) {fallback : Option α}
    (habsent : ∀ j, s.absent? = some j → c.decode j = fallback) {js js' : List Json}
    (hgiven : s.Given js js') : c.decodeOne fallback js = c.decodeOne fallback js' := by
  cases hgiven with
  | same => rfl
  | absent hj => exact (habsent _ hj).symm
  | @changed before after j j' hrewrites =>
    -- Only where it is the one value of the field is it looked at.
    cases before with
    | nil =>
      cases after with
      | nil => exact h.decode_eq hrewrites
      | cons => rfl
    | cons k before =>
      cases before <;> rfl

end HasShape
end Codec

namespace Fields

def Match (fields : List (String × Shape)) (place : Nat) (x y : Fields) : Prop :=
  ∀ i name s, fields[i]? = some (name, s) →
    Shape.Given s (x.given (place + i) name) (y.given (place + i) name)

theorem Match.head {name : String} {s : Shape} {fields : List (String × Shape)} {place : Nat}
    {x y : Fields} (h : Match ((name, s) :: fields) place x y) :
    s.Given (x.given place name) (y.given place name) :=
  h 0 name s rfl

theorem Match.tail {field : String × Shape} {fields : List (String × Shape)} {place : Nat}
    {x y : Fields} (h : Match (field :: fields) place x y) : Match fields (place + 1) x y := by
  intro i name s hi
  have hgiven := h (i + 1) name s hi
  rwa [show place + (i + 1) = place + 1 + i by omega] at hgiven

section ValuesOf
variable {name other : String} {ms ms' : List (Option String × Json)}

theorem valuesOf_insert (before after : List (Option String × Json)) (name : String) (j : Json) :
    valuesOf name (before ++ (some name, j) :: after) = valuesOf name before ++ j ::
      valuesOf name after := by
  simp [valuesOf]

theorem valuesOf_insert_of_ne (h : other ≠ name) (before after : List (Option String × Json))
    (j : Json) :
    valuesOf name (before ++ (some other, j) :: after) = valuesOf name (before ++ after) := by
  simp [valuesOf, h]

theorem valuesOf_perm (name : String) (h : ms.Perm ms') (hnodup : (ms.map (·.1)).Nodup) :
    valuesOf name ms = valuesOf name ms' := by
  have hperm : (valuesOf name ms).Perm (valuesOf name ms') := (h.filter _).map _
  have hshort : (valuesOf name ms).length ≤ 1 := by
    have hcount : (ms.map (·.1)).count (some name) ≤ 1 := List.nodup_iff_count_le_one.1 hnodup _
    simpa [valuesOf, List.count_eq_countP, List.countP_map, ← List.countP_eq_length_filter,
      Function.comp_def] using hcount
  cases hvalues : valuesOf name ms with
  | nil =>
    rw [hvalues] at hperm
    exact hperm.nil_eq
  | cons j js =>
    rw [hvalues, List.length_cons] at hshort
    obtain rfl : js = [] := List.eq_nil_of_length_eq_zero (by omega)
    rw [hvalues] at hperm
    exact List.singleton_perm.1 hperm

theorem valuesOf_zip {names : List String} (hnodup : names.Nodup) {i : Nat}
    (hi : names[i]? = some name) (items : List Json) :
    valuesOf name (keyed (names.zip items)) = items[i]?.toList := by
  induction names generalizing i items with
  | nil => exact nomatch hi
  | cons n names ih =>
    obtain ⟨hn, hnodup⟩ := List.nodup_cons.1 hnodup
    cases items with
    | nil => rfl
    | cons k items =>
      cases i with
      | zero =>
        obtain rfl := Option.some.inj hi
        have hrest : valuesOf n (keyed (names.zip items)) = [] :=
          valuesOf_keyed_eq_nil fun m hm e => hn (e ▸ (List.of_mem_zip hm).1)
        exact (valuesOf_insert [] (keyed (names.zip items)) n k).trans (congrArg (k :: ·) hrest)
      | succ i =>
        have hne : n ≠ name := fun e => hn (e ▸ List.mem_of_getElem? hi)
        rw [List.getElem?_cons_succ, ← ih hnodup hi items]
        exact valuesOf_insert_of_ne hne [] _ k

end ValuesOf

section Rewrites
variable {fields : List (String × Shape)} {count : Nat}

theorem match_named {ms ms' : List (Option String × Json)}
    (hkeys : (ms.all fun m => m.1.isSome) = ms'.all fun m => m.1.isSome)
    (h : ∀ name s, (name, s) ∈ fields → s.Given (valuesOf name ms) (valuesOf name ms')) :
    Option.Rel (Match fields 0) (ofJson? count (.obj ms)) (ofJson? count (.obj ms')) := by
  show Option.Rel _ (if (ms.all fun m => m.1.isSome) = true then _ else _)
    (if (ms'.all fun m => m.1.isSome) = true then _ else _)
  rw [hkeys]
  split
  · exact .some fun i name s hi => h name s (List.mem_of_getElem? hi)
  · exact .none

theorem match_placed {items items' : List Json} (hlength : items.length = items'.length)
    (h : ∀ (i : Nat) name s, fields[i]? = some (name, s) →
      Shape.Given s items[i]?.toList items'[i]?.toList) :
    Option.Rel (Match fields 0) (ofJson? count (.arr items)) (ofJson? count (.arr items')) := by
  show Option.Rel _ (if items.length ≤ count then _ else _)
    (if items'.length ≤ count then _ else _)
  rw [hlength]
  split
  · refine .some fun i name s hi => ?_
    rw [Nat.zero_add]
    exact h i name s hi
  · exact .none

theorem shape_unique (hnodup : (fields.map (·.1)).Nodup) {name : String} {s t : Shape}
    (hs : (name, s) ∈ fields) (ht : (name, t) ∈ fields) : s = t :=
  (Prod.mk.inj (List.inj_on_of_nodup_map hnodup hs ht rfl)).2

theorem match_named_at (hnodup : (fields.map (·.1)).Nodup) {name : String} {s : Shape}
    (hfield : (name, s) ∈ fields) {ms ms' : List (Option String × Json)}
    (hkeys : (ms.all fun m => m.1.isSome) = ms'.all fun m => m.1.isSome)
    (hown : s.Given (valuesOf name ms) (valuesOf name ms'))
    (hothers : ∀ other, name ≠ other → valuesOf other ms = valuesOf other ms') :
    Option.Rel (Match fields 0) (ofJson? count (.obj ms)) (ofJson? count (.obj ms')) := by
  refine match_named hkeys fun other t hother => ?_
  by_cases he : name = other
  · subst he
    obtain rfl := shape_unique hnodup hfield hother
    exact hown
  · rw [hothers other he]
    exact .same _

theorem match_of_rewrites (hnodup : (fields.map (·.1)).Nodup) {j j' : Json}
    (h : (Shape.record fields).Rewrites j j') :
    Option.Rel (Match fields 0) (ofJson? count j) (ofJson? count j') := by
  cases h with
  | @permute _ ms ms' hperm hkeys =>
    refine match_named (hperm.all_eq) fun name s _ => ?_
    rw [valuesOf_perm name hperm hkeys]
    exact .same _
  | @unknown _ before after name j hname =>
    refine match_named (by simp) fun other s hother => ?_
    have hne : name ≠ other := fun e => hname (e ▸ List.mem_map_of_mem hother)
    rw [valuesOf_insert_of_ne hne]
    exact .same _
  | @skipped _ before after name j j' hname =>
    refine match_named (by simp) fun other s hother => ?_
    have hne : name ≠ other := fun e => hname (e ▸ List.mem_map_of_mem hother)
    rw [valuesOf_insert_of_ne hne, valuesOf_insert_of_ne hne]
    exact .same _
  | @absent _ before after name s j hfield hname habsent =>
    refine match_named_at hnodup hfield (by simp) ?_ fun other hne =>
      (valuesOf_insert_of_ne hne before after j).symm
    have hnone : valuesOf name (before ++ after) = [] := valuesOf_eq_nil hname
    rw [List.map_append, List.mem_append, not_or] at hname
    rw [hnone, valuesOf_insert, valuesOf_eq_nil hname.1, valuesOf_eq_nil hname.2]
    exact .absent habsent
  | @member _ before after name s j j' hfield hrewrites =>
    refine match_named_at hnodup hfield (by simp) ?_ fun other hne => ?_
    · rw [valuesOf_insert, valuesOf_insert]
      exact .changed hrewrites
    · rw [valuesOf_insert_of_ne hne, valuesOf_insert_of_ne hne]
  | @placed _ before after name s j j' hfield hrewrites =>
    refine match_placed (by simp) fun i other t hother => ?_
    by_cases he : i = before.length
    · subst he
      obtain rfl := (Prod.mk.inj (Option.some.inj (hfield.symm.trans hother))).2
      have hat : ∀ k, (before ++ k :: after)[before.length]? = some k := by simp
      rw [hat, hat]
      exact @Shape.Given.changed s [] [] j j' hrewrites
    · have hsame : (before ++ j :: after)[i]? = (before ++ j' :: after)[i]? := by
        simp only [List.getElem?_append, List.getElem?_cons]
        grind
      rw [hsame]
      exact .same _

end Rewrites
end Fields

structure Slot.HasShape (name : String) (s : Shape) (slot : Slot α) : Prop where
  name_eq : slot.name = name
  read_eq : ∀ place x y, Shape.Given s (Fields.given place name x) (Fields.given place name y) →
    slot.read place x = slot.read place y

namespace Slot.HasShape
variable {name : String} {s : Shape} {c : Codec α}

theorem strict {fallback : Option α} {write : α → Option Json} (h : c.HasShape s)
    (habsent : ∀ j, s.absent? = some j → c.decode j = fallback) :
    (Slot.strict name c fallback write).HasShape name s where
  name_eq := rfl
  read_eq place x y hgiven := by
    rw [read_strict, read_strict]
    exact h.decodeOne_eq habsent hgiven

theorem word : (Slot.word name).HasShape name .text := strict .string nofun

theorem flag : (Slot.flag name).HasShape name .flag := by
  refine strict .bool ?_
  rintro j ⟨⟩
  rfl

theorem optional (h : c.HasShape s) : (Slot.optional name c).HasShape name (.optional s) := by
  refine strict h.optional ?_
  rintro j ⟨⟩
  rfl

theorem list (h : c.HasShape s) : (Slot.list name c).HasShape name (.list s) := by
  refine strict h.list ?_
  rintro j ⟨⟩
  rfl

theorem dict (h : c.HasShape s) : (Slot.dict name c).HasShape name (.dict s) := by
  refine strict h.dict ?_
  rintro j ⟨⟩
  rfl

theorem optionalString : (Slot.optional name .string).HasShape name (.optional .text) :=
  optional .string

theorem stringList : (Slot.list name .string).HasShape name (.list .text) := list .string

theorem stringDict : (Slot.dict name .string).HasShape name (.dict .text) := dict .string

end Slot.HasShape

structure Record.HasShape (fields : List (String × Shape)) (r : Record α) : Prop where
  names_eq : r.names = fields.map (·.1)
  read_eq : ∀ place x y, Fields.Match fields place x y → r.read place x = r.read place y

namespace Record.HasShape
variable {name : String} {s : Shape} {fields : List (String × Shape)}

theorem one {slot : Slot α} (h : slot.HasShape name s) :
    (Record.one slot).HasShape [(name, s)] where
  names_eq := congrArg (fun n => [n]) h.name_eq
  read_eq place x y hmatch := h.read_eq place x y hmatch.head

theorem and {slot : Slot α} {r : Record β} (hs : slot.HasShape name s) (hr : r.HasShape fields) :
    (Record.and slot r).HasShape ((name, s) :: fields) where
  names_eq := by
    show slot.name :: r.names = _
    rw [hs.name_eq, hr.names_eq, List.map_cons]
  read_eq place x y hmatch := by
    show (do return (← slot.read place x, ← r.read (place + 1) x)) =
      do return (← slot.read place y, ← r.read (place + 1) y)
    rw [hs.read_eq place x y hmatch.head, hr.read_eq (place + 1) x y hmatch.tail]

theorem imap {r : Record α} (h : r.HasShape fields) (build : α → β) (parts : β → α) :
    (r.imap build parts).HasShape fields where
  names_eq := h.names_eq
  read_eq place x y hmatch := congrArg (Option.map build) (h.read_eq place x y hmatch)

theorem codec {r : Record α} (h : r.HasShape fields) (hnodup : (fields.map (·.1)).Nodup) :
    r.codec.HasShape (.record fields) := by
  refine ⟨fun {j j'} hrewrites => ?_⟩
  have hfields :
      Option.Rel (Fields.Match fields 0) (Fields.ofJson? r.names.length j)
        (Fields.ofJson? r.names.length j') :=
    Fields.match_of_rewrites hnodup hrewrites
  show (Fields.ofJson? r.names.length j).bind (r.read 0) =
    (Fields.ofJson? r.names.length j').bind (r.read 0)
  revert hfields
  generalize Fields.ofJson? r.names.length j = x, Fields.ofJson? r.names.length j' = y
  rintro (hmatch | _)
  · exact h.read_eq 0 _ _ hmatch
  · rfl

theorem decode_arr {r : Record α} (h : r.HasShape fields) (hnodup : r.names.Nodup)
    {items : List Json} (hlength : items.length ≤ r.names.length) :
    r.codec.decode (.arr items) = r.codec.decode (.object (r.names.zip items)) := by
  have hplaced : Fields.ofJson? r.names.length (.arr items) = some (.placed items) := if_pos hlength
  have hnamed : Fields.ofJson? r.names.length (.object (r.names.zip items)) =
      some (.named (Fields.keyed (r.names.zip items))) := if_pos (by simp)
  show (Fields.ofJson? r.names.length (.arr items)).bind (r.read 0) =
    (Fields.ofJson? r.names.length (.object (r.names.zip items))).bind (r.read 0)
  rw [hplaced, hnamed]
  apply h.read_eq
  intro i name s hi
  have hname : r.names[i]? = some name := by rw [h.names_eq, List.getElem?_map, hi, Option.map_some]
  show Shape.Given s items[0 + i]?.toList (Fields.valuesOf name (Fields.keyed (r.names.zip items)))
  rw [Nat.zero_add, Fields.valuesOf_zip hnodup hname]
  exact .same _

end Record.HasShape

end Rollout
