import Rollout.Proofs.Store.Events
import Rollout.Proofs.Store.Growth
import Rollout.Store.Servers

/-!
Events and the store at one of the places: what an event may do to it, and what a history of events
leaves in it. An event can create an object and do nothing else, and between the events others may
put in more. So what a history has found or created is there to its end, and what it has not found
was not there at its beginning.
-/
namespace Rollout
variable {Place : Type}

def Event.AgreesWith (place : Place) (s : Store) : Event Place → Prop
  | .answered p (.get kind namespaceName name) (.ok (some found)) =>
    p = place → s.get? kind namespaceName name = some found
  | .answered p (.create kind namespaceName object) (.ok created) =>
    p = place → created = Store.stamped kind namespaceName object ∧
      s.get? kind namespaceName (kind.metadata object).nameOrEmpty = some created
  | _ => True

theorem Store.GrowsTo.agreesWith {s s' : Store} (h : s.GrowsTo s') {place : Place} {e : Event Place}
    (he : e.AgreesWith place s) : e.AgreesWith place s' := by
  unfold Event.AgreesWith at he ⊢
  split
  · exact fun hp => h.get? (he hp)
  · exact fun hp => ⟨(he hp).1, h.get? (he hp).2⟩
  · trivial

variable [DecidableEq Place]

def Event.creates (place : Place) (id : ObjectId) : Event Place → Bool
  | .answered p (.create kind namespaceName object) (.ok _) =>
    decide (p = place) && decide (Store.newId kind namespaceName object = id)
  | _ => false

namespace Store

/-- What a store may answer a call, and what it is then. A call that fails has had no effect. -/
def Answers (s : Store) : (call : Call) → Except Failure call.Answer → Store → Prop
  | _, .error _, s' => s' = s
  | .get kind namespaceName name, .ok found, s' => found = s.get? kind namespaceName name ∧ s' = s
  | .list kind namespaceName labels, .ok found, s' =>
    found = s.list kind namespaceName labels ∧ s' = s
  | .create kind namespaceName object, .ok created, s' =>
    s.create? kind namespaceName object = some (created, s')

def Allows (place : Place) (s : Store) : Event Place → Store → Prop
  | .answered p call answer, s' => if p = place then s.Answers call answer s' else s' = s
  | .made .., s' => s' = s

variable {place : Place} {s s' s'' : Store} {e : Event Place} {id : ObjectId}

theorem answers_error {call : Call} {f : Failure} (h : s.Answers call (.error f) s') : s' = s := by
  cases call <;> exact h

theorem allows_here {call : Call} {answer : Except Failure call.Answer} :
    s.Allows place (.answered place call answer) s' ↔ s.Answers call answer s' := by
  simp only [Allows, if_true]

theorem allows_elsewhere {p : Place} (hp : p ≠ place) {call : Call}
    {answer : Except Failure call.Answer} :
    s.Allows place (.answered p call answer) s' ↔ s' = s := by
  simp only [Allows, if_neg hp]

theorem Allows.eq_or_created (h : s.Allows place e s') :
    (s' = s ∧ ∀ id, e.creates place id = false) ∨
      ∃ kind namespaceName object created,
        e = .answered place (.create kind namespaceName object) (.ok created) ∧
        s.create? kind namespaceName object = some (created, s') := by
  rcases e with ⟨p, call, answer⟩ | ⟨commonName, outcome⟩
  · by_cases hp : p = place
    · subst hp
      rw [allows_here] at h
      cases answer with
      | error f => exact .inl ⟨answers_error h, fun _ => by cases call <;> rfl⟩
      | ok answer =>
        cases call with
        | get => exact .inl ⟨h.2, fun _ => rfl⟩
        | list => exact .inl ⟨h.2, fun _ => rfl⟩
        | create kind namespaceName object =>
          exact .inr ⟨kind, namespaceName, object, answer, rfl, h⟩
    · refine .inl ⟨(allows_elsewhere hp).1 h, fun _ => ?_⟩
      cases call with
      | get => rfl
      | list => rfl
      | create => cases answer <;> simp [Event.creates, hp]
  · exact .inl ⟨h, fun _ => rfl⟩

theorem Allows.growsTo (h : s.Allows place e s') : s.GrowsTo s' := by
  rcases h.eq_or_created with ⟨rfl, -⟩ | ⟨_, _, _, _, -, hcreate⟩
  · exact .refl _
  · exact growsTo_of_create? hcreate

theorem Allows.eq_of_not_creates (h : s.Allows place e s')
    (he : ∀ id, e.creates place id = false) : s' = s := by
  rcases h.eq_or_created with ⟨rfl, -⟩ | ⟨kind, namespaceName, object, _, rfl, -⟩
  · rfl
  · have htrue := he (newId kind namespaceName object)
    simp [Event.creates] at htrue

theorem Allows.contains_of_creates (h : s.Allows place e s') (he : e.creates place id = true) :
    s.objects.contains id = false ∧ s'.objects.contains id = true := by
  rcases h.eq_or_created with ⟨-, hnot⟩ | ⟨kind, namespaceName, object, created,
    rfl, hcreate⟩
  · rw [hnot] at he
    exact absurd he Bool.false_ne_true
  · obtain rfl : newId kind namespaceName object = id := by simpa [Event.creates] using he
    refine ⟨(create?_eq_some_iff.1 hcreate).1, ?_⟩
    rw [contains_of_create? hcreate, decide_eq_true rfl, Bool.true_or]

theorem Allows.agreesWith (h : s.Allows place e s') : e.AgreesWith place s' := by
  rcases e with ⟨p, call, f | answer⟩ | _
  · cases call <;> trivial
  · cases call with
    | get kind namespaceName name =>
      cases answer with
      | none => trivial
      | some found =>
        rintro rfl
        obtain ⟨hfound, rfl⟩ := allows_here.1 h
        exact hfound.symm
    | list => trivial
    | create kind namespaceName object =>
      rintro rfl
      have hcreate := allows_here.1 h
      exact ⟨(create?_eq_some_iff.1 hcreate).2.1, get?_of_create? hcreate⟩
  · trivial

/-- These events can lead from the store to another one, with whatever others may have put in
meanwhile. -/
inductive Evolves (place : Place) (s : Store) : List (Event Place) → Store → Prop
  | start : Evolves place s [] s
  | event {es : List (Event Place)} {s' s'' : Store} {e : Event Place} (h : Evolves place s es s')
      (he : s'.Allows place e s'') : Evolves place s (es ++ [e]) s''
  | others {es : List (Event Place)} {s' s'' : Store} (h : Evolves place s es s')
      (hs : s'.GrowsTo s'') : Evolves place s es s''

variable {es es' : List (Event Place)}

theorem Evolves.append (h : s.Evolves place es s') (h' : s'.Evolves place es' s'') :
    s.Evolves place (es ++ es') s'' := by
  induction h' with
  | start => rwa [List.append_nil]
  | event _ he ih =>
    rw [← List.append_assoc]
    exact ih.event he
  | others _ hs ih => exact ih.others hs

theorem Evolves.growsTo (h : s.Evolves place es s') : s.GrowsTo s' := by
  induction h with
  | start => exact .refl s
  | event _ he ih => exact ih.trans he.growsTo
  | others _ hs ih => exact ih.trans hs

theorem Evolves.agreesWith (h : s.Evolves place es s') : ∀ e ∈ es, e.AgreesWith place s' := by
  induction h with
  | start => simp
  | event _ he ih =>
    intro e hmem
    rcases List.mem_append.1 hmem with hmem | hmem
    · exact he.growsTo.agreesWith (ih e hmem)
    · obtain rfl := List.mem_singleton.1 hmem
      exact he.agreesWith
  | others _ hs ih => exact fun e hmem => hs.agreesWith (ih e hmem)

theorem Evolves.get?_eq_none (h : s.Evolves place es s') {kind : ObjectKind}
    {namespaceName name : String}
    (hmem : .answered place (.get kind namespaceName name) (.ok none) ∈ es) :
    s.get? kind namespaceName name = none := by
  induction h with
  | start => exact absurd hmem (by simp)
  | @event es t t' e h he ih =>
    rcases List.mem_append.1 hmem with hmem | hmem
    · exact ih hmem
    · obtain rfl := List.mem_singleton.1 hmem
      -- whatever had been there at the beginning would have been found
      obtain ⟨hnone, -⟩ := allows_here.1 he
      cases hget : s.get? kind namespaceName name with
      | none => rfl
      | some o => exact nomatch hnone.trans (h.growsTo.get? hget)
  | others _ _ ih => exact ih hmem

theorem Evolves.countP_creates_add (h : s.Evolves place es s') (id : ObjectId) :
    es.countP (·.creates place id) + (s.objects.contains id).toNat ≤
      (s'.objects.contains id).toNat := by
  have hmono {t t' : Store} (ht : t.GrowsTo t') :
      (t.objects.contains id).toNat ≤ (t'.objects.contains id).toNat := by
    cases hc : t.objects.contains id with
    | false => simp
    | true => exact Nat.le_of_eq (by rw [ht.contains hc])
  induction h with
  | start => simp
  | @event es t t' e _ he ih =>
    rw [List.countP_append, List.countP_singleton]
    cases hcreates : e.creates place id with
    | false =>
      have hle := hmono he.growsTo
      simp only [Bool.false_eq_true, if_false]
      omega
    | true =>
      -- the place was free until now, so nothing has been created there before
      obtain ⟨hbefore, hafter⟩ := he.contains_of_creates hcreates
      rw [hbefore] at ih
      rw [hafter]
      simp only [if_true, Bool.toNat_true, Bool.toNat_false] at ih ⊢
      omega
  | others _ hs ih => exact Nat.le_trans ih (hmono hs)

theorem Evolves.countP_creates_le (h : s.Evolves place es s') (id : ObjectId) :
    es.countP (·.creates place id) ≤ 1 := by
  have hle := h.countP_creates_add id
  have hone : (s'.objects.contains id).toNat ≤ 1 := Bool.toNat_le _
  omega

end Store

/-- Surroundings that keep the store at a place in a part of their state. -/
def Surroundings.Keeps {σ : Type} (env : Surroundings Place σ) (place : Place)
    (view : σ → Store) : Prop :=
  ∀ s e s', env.Happens s e s' → (view s).Allows place e (view s')

namespace Surroundings.Keeps
variable {σ α : Type} {env : Surroundings Place σ} {place : Place} {view : σ → Store}

theorem evolves_run (h : env.Keeps place view) (t : Plan Place α) (s : σ) :
    (view s).Evolves place (t.events env s) (view (t.run env s).2) := by
  refine Plan.run_preserves (fun es s' => (view s).Evolves place es (view s')) ?_ t [] s .start
  intro es s' e s'' hes he
  exact hes.event (h s' e s'' he)

theorem run_eq_of_not_creates (h : env.Keeps place view) (t : Plan Place α) (s : σ)
    (hnone : ∀ e ∈ t.events env s, ∀ id, e.creates place id = false) :
    view (t.run env s).2 = view s := by
  refine Plan.run_preserves (fun es s' => (∀ e ∈ es, ∀ id, e.creates place id = false) →
    view s' = view s)
    ?_ t [] s (fun _ => rfl) hnone
  intro es s' e s'' hes he hnone
  rw [(h s' e s'' he).eq_of_not_creates (hnone e (by simp))]
  exact hes fun e' he' => hnone e' (List.mem_append_left _ he')

end Surroundings.Keeps

namespace Server

theorem answers_answer (server : Server) (call : Call) :
    server.store.Answers call (server.answer call).1 (server.answer call).2.store := by
  cases call with
  | get kind namespaceName name =>
    unfold answer reading
    cases server.readRefusal with
    | none => exact ⟨rfl, rfl⟩
    | some code => rfl
  | list kind namespaceName labels =>
    unfold answer reading
    cases server.readRefusal with
    | none => exact ⟨rfl, rfl⟩
    | some code => rfl
  | create kind namespaceName object =>
    unfold answer
    cases server.createRefusal with
    | some code => rfl
    | none =>
      cases hcreate : server.store.create? kind namespaceName object with
      | none => simp only [hcreate]; rfl
      | some created => simp only [hcreate]; exact hcreate

end Server

theorem Servers.keeps_surroundings (make : Nat → String → Except KeyPairError KeyPair)
    (place : Rollout.Place) : (surroundings make).Keeps place fun s => (s.server place).store := by
  intro s e s' h
  cases h with
  | answered p call =>
    have hserver (q : Rollout.Place) : (s.record p call).server q = s.server q := by cases q <;> rfl
    by_cases hp : p = place
    · subst hp
      show (s.server p).store.Allows p _
        (((s.record p call).withServer p ((s.server p).answer call).2).server p).store
      rw [server_withServer, Store.allows_here]
      exact (s.server p).answers_answer call
    · show (s.server place).store.Allows place _
        (((s.record p call).withServer p ((s.server p).answer call).2).server place).store
      rw [server_withServer_of_ne _ _ hp, hserver, Store.allows_elsewhere hp]
  | made commonName =>
    show (((generate make commonName s).2).server place).store = (s.server place).store
    unfold generate
    cases make s.made.length commonName <;> cases place <;> rfl

end Rollout
