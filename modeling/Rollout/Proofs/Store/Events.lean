import Rollout.Store.Call

/-!
Plans one event at a time. `Takes` is one event, `Follows` any number of them, whoever answers;
`Plan.run` follows the events that its surroundings let happen. What holds of a plan along every
such way holds of every run, and also where several plans take turns.
-/
namespace Rollout

inductive Event (Place : Type)
  | answered (place : Place) (call : Call) (answer : Except Failure call.Answer)
  | made (commonName : String) (outcome : Except KeyPairError KeyPair)

namespace Event
variable {Place : Type}

def isCreation : Event Place → Bool
  | answered _ (.create ..) _ => true
  | _ => false

def isMade : Event Place → Bool
  | made .. => true
  | _ => false

def isRead (e : Event Place) : Bool := !e.isCreation && !e.isMade

end Event

namespace Plan
variable {Place α σ : Type}

inductive Takes : Plan Place α → Event Place → Plan Place α → Prop
  | answered (place : Place) (call : Call) (next : Except Failure call.Answer → Plan Place α)
      (answer : Except Failure call.Answer) :
        Takes (.ask place call next) (.answered place call answer) (next answer)
  | made (commonName : String) (next : Except KeyPairError KeyPair → Plan Place α)
      (outcome : Except KeyPairError KeyPair) :
        Takes (.generate commonName next) (.made commonName outcome) (next outcome)

theorem not_takes_done {result : α} {e : Event Place} {t : Plan Place α} :
    ¬ (done result).Takes e t := nofun

theorem takes_ask {place : Place} {call : Call}
    {next : Except Failure call.Answer → Plan Place α} {e : Event Place} {t : Plan Place α}
    (h : (ask place call next).Takes e t) :
    ∃ answer, e = .answered place call answer ∧ t = next answer := by
  cases h with
  | answered => exact ⟨_, rfl, rfl⟩

theorem takes_generate {commonName : String} {next : Except KeyPairError KeyPair → Plan Place α}
    {e : Event Place} {t : Plan Place α} (h : (generate commonName next).Takes e t) :
    ∃ outcome, e = .made commonName outcome ∧ t = next outcome := by
  cases h with
  | made => exact ⟨_, rfl, rfl⟩

inductive Follows (t : Plan Place α) : List (Event Place) → Plan Place α → Prop
  | here : Follows t [] t
  | on {es : List (Event Place)} {u v : Plan Place α} {e : Event Place} (h : Follows t es u)
      (he : u.Takes e v) : Follows t (es ++ [e]) v

theorem Follows.cons {t u v : Plan Place α} {e : Event Place} {es : List (Event Place)}
    (h : t.Takes e u) (hes : u.Follows es v) : t.Follows (e :: es) v := by
  induction hes with
  | here => exact Follows.here.on h
  | on _ he ih => exact ih.on he

theorem Follows.eq_of_done {result : α} {es : List (Event Place)} {t : Plan Place α}
    (h : (done result).Follows es t) : es = [] ∧ t = done result := by
  induction h with
  | here => exact ⟨rfl, rfl⟩
  | on _ he ih =>
    rw [ih.2] at he
    exact absurd he not_takes_done

theorem Follows.cut {t v : Plan Place α} {before after : List (Event Place)} {e : Event Place}
    (h : t.Follows (before ++ e :: after) v) :
    ∃ u u', t.Follows before u ∧ u.Takes e u' ∧ u'.Follows after v := by
  generalize hes : before ++ e :: after = es at h
  induction h generalizing after with
  | here => exact absurd hes (by simp)
  | @on es u v e' h he ih =>
    -- the cut is at the last event, or inside the way that leads up to it
    rcases List.eq_nil_or_concat after with rfl | ⟨after, last, rfl⟩
    · obtain ⟨rfl, hlast⟩ := List.append_inj' hes rfl
      obtain rfl : e = e' := List.head_eq_of_cons_eq hlast
      exact ⟨u, v, h, he, .here⟩
    · have hsplit : (before ++ e :: after) ++ [last] = es ++ [e'] := by simpa using hes
      obtain ⟨hfront, hlast⟩ := List.append_inj' hsplit rfl
      obtain rfl : last = e' := List.head_eq_of_cons_eq hlast
      obtain ⟨w, w', hbefore, hcut, hafter⟩ := ih hfront
      refine ⟨w, w', hbefore, hcut, ?_⟩
      rw [List.concat_eq_append]
      exact hafter.on he

theorem Follows.eq_of_nil {t u : Plan Place α} (h : t.Follows [] u) : u = t := by
  generalize hes : [] = es at h
  cases h with
  | here => rfl
  | on => exact absurd hes (by simp)

theorem Follows.takes_of_cons {t v : Plan Place α} {e : Event Place} {es : List (Event Place)}
    (h : t.Follows (e :: es) v) : ∃ u, t.Takes e u ∧ u.Follows es v := by
  have hnil : t.Follows ([] ++ e :: es) v := h
  obtain ⟨u, u', hu, he, hes⟩ := hnil.cut
  obtain rfl := hu.eq_of_nil
  exact ⟨u', he, hes⟩

def events (env : Surroundings Place σ) : Plan Place α → σ → List (Event Place)
  | done _, _ => []
  | ask place call next, s =>
    let h := env.service place call s
    .answered place call h.answer :: events env (next h.answer) h.finished
  | generate commonName next, s =>
    let (outcome, s) := env.generate commonName s
    .made commonName outcome :: events env (next outcome) s

theorem events_andThen {β : Type} (env : Surroundings Place σ) (t : Plan Place α)
    (next : α → Plan Place β) (s : σ) :
    (t.andThen next).events env s = t.events env s ++
      (next (t.run env s).1).events env (t.run env s).2 := by
  induction t generalizing s with
  | done result => rfl
  | ask place call k ih => simp only [andThen, events, run, ih, List.cons_append]
  | generate commonName k ih => simp only [andThen, events, run, ih, List.cons_append]

theorem follows_run (env : Surroundings Place σ) (t : Plan Place α) (s : σ) :
    t.Follows (t.events env s) (done (t.run env s).1) := by
  induction t generalizing s with
  | done result => exact .here
  | ask place call next ih => exact .cons (.answered place call next _) (ih _ _)
  | generate commonName next ih => exact .cons (.made commonName next _) (ih _ _)

end Plan

inductive Surroundings.Happens {Place σ : Type} (env : Surroundings Place σ) (s : σ) :
    Event Place → σ → Prop
  | answered (place : Place) (call : Call) :
      Happens env s (.answered place call (env.service place call s).answer)
        (env.service place call s).finished
  | made (commonName : String) :
      Happens env s (.made commonName (env.generate commonName s).1) (env.generate commonName s).2

/-- What each event preserves, a run preserves, whatever has happened before. -/
theorem Plan.run_preserves {Place α σ : Type} {env : Surroundings Place σ}
    (P : List (Event Place) → σ → Prop)
    (hstep : ∀ es s e s', P es s → env.Happens s e s' → P (es ++ [e]) s') (t : Plan Place α)
    (es : List (Event Place)) (s : σ) (h : P es s) : P (es ++ t.events env s) (t.run env s).2 := by
  induction t generalizing es s with
  | done result => simpa [events, run] using h
  | ask place call next ih =>
    have h' := ih (env.service place call s).answer _ _ (hstep _ _ _ _ h (.answered place call))
    rw [List.append_assoc] at h'
    exact h'
  | generate commonName next ih =>
    have h' := ih (env.generate commonName s).1 _ _ (hstep _ _ _ _ h (.made commonName))
    rw [List.append_assoc] at h'
    exact h'

end Rollout
