import Rollout.Store.Basic

/-!
Stores that grow: whatever is stored at first is stored later as well, and is the same. Creating an
object is all that ever changes a store, and it touches nothing that is there.
-/
namespace Rollout.Store
variable {s s' s'' : Store}

def GrowsTo (s s' : Store) : Prop :=
  ∀ id stored, s.objects.get? id = some stored → s'.objects.get? id = some stored

theorem GrowsTo.refl (s : Store) : s.GrowsTo s := fun _ _ h => h

theorem GrowsTo.trans (h : s.GrowsTo s') (h' : s'.GrowsTo s'') : s.GrowsTo s'' :=
  fun id stored hstored => h' id stored (h id stored hstored)

theorem GrowsTo.get? (h : s.GrowsTo s') {kind : ObjectKind} {namespaceName name : String}
    {o : kind.Object} (ho : s.get? kind namespaceName name = some o) :
    s'.get? kind namespaceName name = some o := by
  unfold Store.get? at ho ⊢
  obtain ⟨stored, hstored, hkind⟩ := Option.bind_eq_some_iff.1 ho
  rw [h _ _ hstored]
  exact hkind

theorem GrowsTo.contains (h : s.GrowsTo s') {id : ObjectId} (hs : s.objects.contains id = true) :
    s'.objects.contains id = true := by
  unfold Table.contains at hs ⊢
  obtain ⟨stored, hstored⟩ := Option.isSome_iff_exists.1 hs
  rw [h _ _ hstored]
  rfl

def newId (kind : ObjectKind) (namespaceName : String) (object : kind.Object) : ObjectId :=
  idOf kind namespaceName (kind.metadata object).nameOrEmpty

def stamped (kind : ObjectKind) (namespaceName : String) (object : kind.Object) : kind.Object :=
  kind.withMetadata object
    { kind.metadata object with
      namespaceName := some namespaceName
      uid := some ("uid-" ++ (kind.metadata object).nameOrEmpty) }

variable {kind : ObjectKind} {namespaceName : String} {object created : kind.Object}

theorem create?_eq (s : Store) (kind : ObjectKind) (namespaceName : String) (object : kind.Object) :
    s.create? kind namespaceName object =
      if s.objects.contains (newId kind namespaceName object) then none
      else some (stamped kind namespaceName object,
        ⟨s.objects.insert (newId kind namespaceName object)
          ⟨kind, stamped kind namespaceName object⟩⟩) :=
  rfl

theorem create?_eq_some_iff :
    s.create? kind namespaceName object = some (created, s') ↔
      s.objects.contains (newId kind namespaceName object) = false ∧
        created = stamped kind namespaceName object ∧
        s' = ⟨s.objects.insert (newId kind namespaceName object) ⟨kind, created⟩⟩ := by
  rw [create?_eq]
  split
  · next h => simp [h]
  · next h =>
    simp only [Bool.not_eq_true] at h
    simp only [h, Option.some.injEq, Prod.mk.injEq, true_and]
    constructor
    · rintro ⟨rfl, rfl⟩
      exact ⟨rfl, rfl⟩
    · rintro ⟨rfl, rfl⟩
      exact ⟨rfl, rfl⟩

theorem growsTo_of_create? (h : s.create? kind namespaceName object = some (created, s')) :
    s.GrowsTo s' := by
  obtain ⟨hfree, -, rfl⟩ := create?_eq_some_iff.1 h
  intro id stored hstored
  -- the new object went where nothing was, so it is not in the place of this one
  have hne : newId kind namespaceName object ≠ id := by
    rintro rfl
    unfold Table.contains at hfree
    rw [hstored] at hfree
    exact Bool.false_ne_true hfree.symm
  rw [Table.get?_insert, if_neg hne]
  exact hstored

theorem get?_of_create? (h : s.create? kind namespaceName object = some (created, s')) :
    s'.get? kind namespaceName (kind.metadata object).nameOrEmpty = some created := by
  obtain ⟨-, -, rfl⟩ := create?_eq_some_iff.1 h
  show ((s.objects.insert (newId kind namespaceName object) ⟨kind, created⟩).get?
    (newId kind namespaceName object)).bind (Stored.as? kind) = some created
  rw [Table.get?_insert, if_pos rfl]
  show Stored.as? kind ⟨kind, created⟩ = some created
  unfold Stored.as?
  rw [dif_pos rfl]

theorem contains_of_create? (h : s.create? kind namespaceName object = some (created, s'))
    (id : ObjectId) :
    s'.objects.contains id =
      (decide (newId kind namespaceName object = id) || s.objects.contains id) := by
  obtain ⟨-, -, rfl⟩ := create?_eq_some_iff.1 h
  exact Table.contains_insert ..

end Rollout.Store
