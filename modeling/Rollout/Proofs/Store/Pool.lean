import Mathlib.Logic.Relation
import Rollout.Proofs.Store.History

/-!
Plans that take turns at one store. A caller goes on by one event at a time, in any order, and
between any two events others may put more into the store. Each caller alone follows its plan, and
the events of all of them are one history of the store.
-/
namespace Rollout
variable {ι Place α : Type}

/-- The store that callers share, what each of them has left to do, and what has happened to
whom. -/
structure Pool (ι Place α : Type) where
  store : Store
  plans : ι → Plan Place α
  history : List (ι × Event Place)

namespace Pool

def start (store : Store) (plans : ι → Plan Place α) : Pool ι Place α :=
  ⟨store, plans, []⟩

def events (p : Pool ι Place α) : List (Event Place) := p.history.map (·.2)

structure Grows (p q : Pool ι Place α) : Prop where
  plans_eq : q.plans = p.plans
  growsTo : p.store.GrowsTo q.store
  history_eq : q.history = p.history

section Log
variable [DecidableEq ι]

def log (p : Pool ι Place α) (i : ι) : List (Event Place) :=
  (p.history.filter (·.1 = i)).map (·.2)

theorem mem_events_of_mem_log {p : Pool ι Place α} {i : ι} {e : Event Place}
    (h : e ∈ p.log i) : e ∈ p.events := by
  obtain ⟨x, hx, rfl⟩ := List.mem_map.1 h
  exact List.mem_map_of_mem (List.mem_filter.1 hx).1

theorem Grows.log_eq {p q : Pool ι Place α} (h : p.Grows q) (i : ι) : q.log i = p.log i := by
  unfold log
  rw [h.history_eq]

def advance (p : Pool ι Place α) (i : ι) (es : List (Event Place)) (t : Plan Place α)
    (store : Store) : Pool ι Place α where
  store
  plans j := if j = i then t else p.plans j
  history := p.history ++ es.map (i, ·)

theorem advance_nil {p : Pool ι Place α} {i : ι} : p.advance i [] (p.plans i) p.store = p := by
  have hplans : (fun j => if j = i then p.plans i else p.plans j) = p.plans := by
    funext j
    by_cases hj : j = i
    · rw [if_pos hj, hj]
    · rw [if_neg hj]
  unfold advance
  rw [hplans, List.map_nil, List.append_nil]

theorem advance_advance {p : Pool ι Place α} {i : ι} {es es' : List (Event Place)}
    {t t' : Plan Place α} {store store' : Store} :
    (p.advance i es t store).advance i es' t' store' = p.advance i (es ++ es') t' store' := by
  have hplans : (fun j => if j = i then t' else if j = i then t else p.plans j) =
      fun j => if j = i then t' else p.plans j := by
    funext j
    by_cases hj : j = i
    · rw [if_pos hj, if_pos hj]
    · rw [if_neg hj, if_neg hj, if_neg hj]
  unfold advance
  rw [hplans, List.append_assoc, List.map_append]

end Log

variable [DecidableEq Place] {place : Place} {law : Store → Event Place → Prop}

/-- A caller goes on by an event that the store and the law allow. -/
structure Moves (place : Place) (law : Store → Event Place → Prop) (i : ι) (e : Event Place)
    (p q : Pool ι Place α) : Prop where
  takes : (p.plans i).Takes e (q.plans i)
  others_stay : ∀ j, j ≠ i → q.plans j = p.plans j
  allows : p.store.Allows place e q.store
  lawful : law p.store e
  history_eq : q.history = p.history ++ [(i, e)]

inductive Step (place : Place) (law : Store → Event Place → Prop) (p q : Pool ι Place α) :
    Prop
  | moves (i : ι) (e : Event Place) (h : Moves place law i e p q)
  | grows (h : p.Grows q)

def Reaches (place : Place) (law : Store → Event Place → Prop) :
    Pool ι Place α → Pool ι Place α → Prop :=
  Relation.ReflTransGen (Step place law)

variable {p q : Pool ι Place α} {i : ι} {e : Event Place}

theorem growsTo_of_reaches (h : Reaches place law p q) : p.store.GrowsTo q.store := by
  induction h with
  | refl => exact .refl _
  | tail _ hstep ih =>
    cases hstep with
    | moves _ _ hmoves => exact ih.trans hmoves.allows.growsTo
    | grows hgrows => exact ih.trans hgrows.growsTo

theorem evolves_of_reaches {store : Store} {plans : ι → Plan Place α}
    (h : Reaches place law (start store plans) p) : store.Evolves place p.events p.store := by
  induction h with
  | refl => exact .start
  | tail _ hstep ih =>
    cases hstep with
    | moves i e hmoves =>
      unfold events at ih ⊢
      rw [hmoves.history_eq, List.map_append]
      exact ih.event hmoves.allows
    | grows hgrows =>
      unfold events at ih ⊢
      rw [hgrows.history_eq]
      exact ih.others hgrows.growsTo

theorem lawful_of_reaches {store : Store} {plans : ι → Plan Place α}
    (h : Reaches place law (start store plans) p) : ∀ e ∈ p.events, ∃ s, law s e := by
  induction h with
  | refl => exact fun e he => absurd he (by simp [start, events])
  | tail _ hstep ih =>
    intro e he
    unfold events at ih he
    cases hstep with
    | moves i e' hmoves =>
      rw [hmoves.history_eq, List.map_append] at he
      rcases List.mem_append.1 he with he | he
      · exact ih e he
      · obtain rfl := List.mem_singleton.1 he
        exact ⟨_, hmoves.lawful⟩
    | grows hgrows =>
      rw [hgrows.history_eq] at he
      exact ih e he

variable [DecidableEq ι]

theorem Moves.log_self (h : Moves place law i e p q) : q.log i = p.log i ++ [e] := by
  unfold log
  rw [h.history_eq, List.filter_append, List.map_append]
  simp

theorem Moves.log_other (h : Moves place law i e p q) {j : ι} (hj : j ≠ i) :
    q.log j = p.log j := by
  unfold log
  rw [h.history_eq, List.filter_append, List.map_append]
  simp [hj.symm]

theorem follows_step {t : Plan Place α} {i : ι} (hstep : Step place law p q)
    (h : t.Follows (p.log i) (p.plans i)) : t.Follows (q.log i) (q.plans i) := by
  cases hstep with
  | moves j e hmoves =>
    by_cases hj : i = j
    · subst hj
      rw [hmoves.log_self]
      exact h.on hmoves.takes
    · rw [hmoves.log_other hj, hmoves.others_stay i hj]
      exact h
  | grows hgrows =>
    rw [hgrows.log_eq, hgrows.plans_eq]
    exact h

theorem follows_of_reaches {store : Store} {plans : ι → Plan Place α}
    (h : Reaches place law (start store plans) p) (i : ι) :
    (plans i).Follows (p.log i) (p.plans i) := by
  induction h with
  | refl => exact .here
  | tail _ hstep ih => exact follows_step hstep ih

theorem stays_done (h : Reaches place law p q) {result : α} (hdone : p.plans i = .done result) :
    q.plans i = .done result ∧ q.log i = p.log i := by
  induction h with
  | refl => exact ⟨hdone, rfl⟩
  | tail _ hstep ih =>
    obtain ⟨hplan, hlog⟩ := ih
    cases hstep with
    | moves j e hmoves =>
      -- a plan that is done takes no event, so it was somebody else who moved
      have hj : i ≠ j := by
        rintro rfl
        have htakes := hmoves.takes
        rw [hplan] at htakes
        exact Plan.not_takes_done htakes
      rw [hmoves.others_stay i hj, hmoves.log_other hj]
      exact ⟨hplan, hlog⟩
    | grows hgrows =>
      rw [hgrows.plans_eq, hgrows.log_eq]
      exact ⟨hplan, hlog⟩

theorem moves_advance {t : Plan Place α} {store : Store} (htakes : (p.plans i).Takes e t)
    (hallows : p.store.Allows place e store) (hlaw : law p.store e) :
    Moves place law i e p (p.advance i [e] t store) := by
  refine ⟨?_, ?_, hallows, hlaw, rfl⟩
  · show (p.plans i).Takes e (if i = i then t else p.plans i)
    rw [if_pos rfl]
    exact htakes
  · intro j hj
    exact if_neg hj

theorem reaches_advance {es : List (Event Place)} {t : Plan Place α} (h : (p.plans i).Follows es t)
    (hquiet : ∀ e ∈ es, p.store.Allows place e p.store ∧ law p.store e) :
    Reaches place law p (p.advance i es t p.store) := by
  induction h with
  | here =>
    rw [advance_nil]
    exact .refl
  | @on es u v e _ he ih =>
    obtain ⟨hallows, hlaw⟩ := hquiet e (by simp)
    have hjoin :
        p.advance i (es ++ [e]) v p.store = (p.advance i es u p.store).advance i [e] v p.store :=
      advance_advance.symm
    rw [hjoin]
    -- the events so far have left the store as it was, so the last one meets it as the first one
    -- did
    refine (ih fun e' he' => hquiet e' (List.mem_append_left _ he')).tail (.moves i e ?_)
    refine moves_advance ?_ hallows hlaw
    show (if i = i then u else p.plans i).Takes e v
    rw [if_pos rfl]
    exact he

section Run
variable {σ : Type} {env : Surroundings Place σ} {view : σ → Store}
  {t u : Plan Place α} {s s' : σ}

theorem reaches_event (hkeeps : env.Keeps place view)
    (hlaw : ∀ s e s', env.Happens s e s' → law (view s) e) (hplan : p.plans i = t)
    (hstore : p.store = view s) (htakes : t.Takes e u) (he : env.Happens s e s') :
    Reaches place law p (p.advance i [e] u (view s')) := by
  refine .single (.moves i e (moves_advance ?_ ?_ ?_))
  · rw [hplan]
    exact htakes
  · rw [hstore]
    exact hkeeps _ _ _ he
  · rw [hstore]
    exact hlaw _ _ _ he

/-- A plan that is run while nobody else moves is one of the ways that the pool can go. -/
theorem reaches_run (hkeeps : env.Keeps place view)
    (hlaw : ∀ s e s', env.Happens s e s' → law (view s) e) (hplan : p.plans i = t)
    (hstore : p.store = view s) :
    Reaches place law p
      (p.advance i (t.events env s) (.done (t.run env s).1) (view (t.run env s).2)) := by
  induction t generalizing p s with
  | done result =>
    show Reaches place law p (p.advance i [] (.done result) (view s))
    rw [← hplan, ← hstore, advance_nil]
    exact .refl
  | ask asked call next ih =>
    have hfirst :=
      reaches_event hkeeps hlaw hplan hstore (.answered asked call next _) (.answered asked call)
    refine hfirst.trans ?_
    let h := env.service asked call s
    let after := p.advance i [.answered asked call h.answer] (next h.answer) (view h.finished)
    have hrest := ih h.answer (p := after) (if_pos rfl) rfl
    rw [advance_advance] at hrest
    exact hrest
  | generate commonName next ih =>
    have hfirst :=
      reaches_event hkeeps hlaw hplan hstore (.made commonName next _) (.made commonName)
    refine hfirst.trans ?_
    let h := env.generate commonName s
    let after := p.advance i [.made commonName h.1] (next h.1) (view h.2)
    have hrest := ih h.1 (p := after) (if_pos rfl) rfl
    rw [advance_advance] at hrest
    exact hrest

end Run

end Pool
end Rollout
