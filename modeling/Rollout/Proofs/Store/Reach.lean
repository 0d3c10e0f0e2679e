import Rollout.Proofs.Store.Events
import Rollout.Proofs.Store.Growth
import Rollout.Store.Servers

/-!
What calls are about. A plan that touches one object of the managing cluster and of its copy goes
the same way on any two groups of servers that agree about this object, whatever else they hold.
-/
namespace Rollout

def Call.Reaches (id : ObjectId) : Call → Prop
  | .get kind namespaceName name => id = Store.idOf kind namespaceName name
  | .list kind namespaceName _ => id.1 = kind.kind.name ∧ id.2.1 = namespaceName
  | .create kind namespaceName object => id = Store.newId kind namespaceName object

def Call.IsAbout (call : Call) (id : ObjectId) : Prop := ∀ id', call.Reaches id' ↔ id' = id

namespace Call
variable {kind : ObjectKind} {namespaceName : String}

theorem isAbout_get (name : String) :
    (get kind namespaceName name).IsAbout (Store.idOf kind namespaceName name) := fun _ => .rfl

theorem isAbout_create (object : kind.Object) :
    (create kind namespaceName object).IsAbout (Store.newId kind namespaceName object) :=
  fun _ => .rfl

theorem not_isAbout_list (labels : Dict String) (id : ObjectId) :
    ¬ (list kind namespaceName labels).IsAbout id := by
  intro h
  have hone := (h (Store.idOf kind namespaceName "a")).1 ⟨rfl, rfl⟩
  have hother := (h (Store.idOf kind namespaceName "b")).1 ⟨rfl, rfl⟩
  have hname : "a" = "b" := congrArg (·.2.2) (hone.trans hother.symm)
  exact absurd hname (by decide)

end Call

namespace Plan
variable {α : Type} {id : ObjectId}

/-- Whoever answers, all that is asked of the managing cluster and of its copy is about one
object. -/
def TouchesOnly (id : ObjectId) (t : Plan Place α) : Prop :=
  ∀ es u, t.Follows es u → ∀ place call answer, .answered place call answer ∈ es →
    place ≠ .workload → call.IsAbout id

variable {t : Plan Place α}

theorem touchesOnly_of_takes
    (h : ∀ e u, t.Takes e u →
      (∀ place call answer, e = .answered place call answer → place ≠ .workload →
        call.IsAbout id) ∧ u.TouchesOnly id) :
    t.TouchesOnly id := by
  intro es v hes place call answer hmem hplace
  cases es with
  | nil => exact absurd hmem List.not_mem_nil
  | cons e es =>
    obtain ⟨u, he, hes⟩ := hes.takes_of_cons
    obtain ⟨habout, hrest⟩ := h e u he
    rcases List.mem_cons.1 hmem with hhead | htail
    · exact habout place call answer hhead.symm hplace
    · exact hrest es v hes place call answer htail hplace

theorem touchesOnly_done (result : α) : (done result).TouchesOnly id :=
  touchesOnly_of_takes fun _ _ he => absurd he not_takes_done

theorem touchesOnly_ask {place : Place} {call : Call}
    {next : Except Failure call.Answer → Plan Place α}
    (hcall : place ≠ .workload → call.IsAbout id)
    (hnext : ∀ answer, (next answer).TouchesOnly id) : (ask place call next).TouchesOnly id := by
  apply touchesOnly_of_takes
  intro e u he
  obtain ⟨answer, rfl, rfl⟩ := takes_ask he
  refine ⟨?_, hnext answer⟩
  intro place' call' answer' heq hplace
  cases heq
  exact hcall hplace

theorem touchesOnly_generate {commonName : String}
    {next : Except KeyPairError KeyPair → Plan Place α}
    (hnext : ∀ outcome, (next outcome).TouchesOnly id) :
    (generate commonName next).TouchesOnly id := by
  apply touchesOnly_of_takes
  intro e u he
  obtain ⟨outcome, rfl, rfl⟩ := takes_generate he
  refine ⟨?_, hnext outcome⟩
  intro _ _ _ heq
  exact nomatch heq

theorem TouchesOnly.takes {u : Plan Place α} {e : Event Place} (h : t.TouchesOnly id)
    (he : t.Takes e u) : u.TouchesOnly id := by
  intro es v hes place call answer hmem
  exact h (e :: es) v (.cons he hes) place call answer (List.mem_cons_of_mem _ hmem)

theorem TouchesOnly.isAbout {place : Place} {call : Call}
    {next : Except Failure call.Answer → Plan Place α} (h : (ask place call next).TouchesOnly id)
    (answer : Except Failure call.Answer) (hplace : place ≠ .workload) : call.IsAbout id :=
  h _ _ (.cons (.answered place call next answer) .here) _ _ answer (List.mem_cons_self ..) hplace

end Plan

/-- Servers that refuse the same calls, and agree about one object. -/
structure Server.AgreesAt (id : ObjectId) (s t : Server) : Prop where
  reading : s.readRefusal = t.readRefusal
  creating : s.createRefusal = t.createRefusal
  holds : s.store.objects.get? id = t.store.objects.get? id

theorem Server.AgreesAt.answer {id : ObjectId} {s t : Server} (h : s.AgreesAt id t) {call : Call}
    (hcall : call.IsAbout id) :
    (s.answer call).1 = (t.answer call).1 ∧ (s.answer call).2.AgreesAt id (t.answer call).2 := by
  cases call with
  | get kind namespaceName name =>
    obtain rfl := (hcall _).1 (Eq.refl (Store.idOf kind namespaceName name))
    refine ⟨?_, h⟩
    show s.reading (s.store.get? kind namespaceName name) =
      t.reading (t.store.get? kind namespaceName name)
    unfold Server.reading Store.get?
    rw [h.reading, h.holds]
  | list => exact absurd hcall (Call.not_isAbout_list _ _)
  | create kind namespaceName object =>
    obtain rfl := (hcall _).1 (Eq.refl (Store.newId kind namespaceName object))
    have htaken : s.store.objects.contains (Store.newId kind namespaceName object) =
        t.store.objects.contains (Store.newId kind namespaceName object) := by
      unfold Table.contains
      rw [h.holds]
    unfold Server.answer
    rw [h.creating]
    cases t.createRefusal with
    | some code => exact ⟨rfl, h⟩
    | none =>
      dsimp only
      rw [Store.create?_eq, Store.create?_eq, htaken]
      cases t.store.objects.contains (Store.newId kind namespaceName object) with
      | true => exact ⟨rfl, h⟩
      | false =>
        refine ⟨rfl, h.reading, rfl, ?_⟩
        simp only [Bool.false_eq_true, if_false]
        rw [Table.get?_insert, Table.get?_insert, if_pos rfl, if_pos rfl]

namespace Servers

/-- Servers that differ at most in what the managing cluster and its copy hold besides one
object. -/
structure AgreesAt (id : ObjectId) (s t : Servers) : Prop where
  workload : s.workload = t.workload
  elsewhere : ∀ place, place ≠ .workload → (s.server place).AgreesAt id (t.server place)
  made : s.made = t.made

def putAt (s : Servers) (place : Place) (id : ObjectId) (stored : Stored) : Servers :=
  s.withServer place { s.server place with
    store := ⟨(s.server place).store.objects.insert id stored⟩ }

variable {id : ObjectId} {s t : Servers}

theorem AgreesAt.withServer (h : s.AgreesAt id t) {place : Place} {server server' : Server}
    (hworkload : place = .workload → server = server')
    (helsewhere : place ≠ .workload → server.AgreesAt id server') :
    (s.withServer place server).AgreesAt id (t.withServer place server') where
  workload := by
    cases place with
    | management => exact h.workload
    | secretCache => exact h.workload
    | workload => exact hworkload rfl
  elsewhere p hp := by
    by_cases hsame : place = p
    · subst hsame
      rw [server_withServer, server_withServer]
      exact helsewhere hp
    · rw [server_withServer_of_ne _ _ hsame, server_withServer_of_ne _ _ hsame]
      exact h.elsewhere p hp
  made := by cases place <;> exact h.made

theorem AgreesAt.record (h : s.AgreesAt id t) (place : Place) (call : Call) :
    (s.record place call).AgreesAt id (t.record place call) where
  workload := h.workload
  elsewhere p hp := by cases p <;> exact h.elsewhere _ hp
  made := h.made

theorem finished_service (place : Place) (call : Call) (s : Servers) :
    (service place call s).finished =
      (s.record place call).withServer place ((s.server place).answer call).2 :=
  rfl

theorem AgreesAt.service (h : s.AgreesAt id t) {place : Place} {call : Call}
    (hcall : place ≠ .workload → call.IsAbout id) :
    (service place call s).answer = (service place call t).answer ∧
      (service place call s).finished.AgreesAt id (service place call t).finished := by
  rw [finished_service, finished_service]
  by_cases hplace : place = .workload
  · subst hplace
    have hserver : s.server .workload = t.server .workload := h.workload
    refine ⟨congrArg (fun server => (server.answer call).1) hserver,
      (h.record _ call).withServer ?_ ?_⟩
    · exact fun _ => congrArg (fun server => (server.answer call).2) hserver
    · exact fun hne => absurd rfl hne
  · obtain ⟨hanswer, hafter⟩ := (h.elsewhere place hplace).answer (hcall hplace)
    exact ⟨hanswer, (h.record _ call).withServer (fun heq => absurd heq hplace) fun _ => hafter⟩

theorem AgreesAt.generate (h : s.AgreesAt id t)
    (make : Nat → String → Except KeyPairError KeyPair) (commonName : String) :
    (generate make commonName s).1 = (generate make commonName t).1 ∧
      (generate make commonName s).2.AgreesAt id (generate make commonName t).2 := by
  unfold Servers.generate
  rw [h.made]
  cases make t.made.length commonName with
  | error fault => exact ⟨rfl, h⟩
  | ok pair =>
    exact ⟨rfl, h.workload, fun p hp => by cases p <;> exact h.elsewhere _ hp, rfl⟩

theorem agreesAt_putAt (s : Servers) {place : Place} (hplace : place ≠ .workload)
    {id other : ObjectId} (hother : other ≠ id) (stored : Stored) :
    (s.putAt place other stored).AgreesAt id s := by
  have hself : s.AgreesAt id s := ⟨rfl, fun _ _ => ⟨rfl, rfl, rfl⟩, rfl⟩
  have hserver :
      Server.AgreesAt id { s.server place with
        store := ⟨(s.server place).store.objects.insert other stored⟩ }
      (s.server place) := ⟨rfl, rfl, by rw [Table.get?_insert, if_neg hother]⟩
  have hput : s.withServer place (s.server place) = s := by cases place <;> rfl
  have h : (s.putAt place other stored).AgreesAt id (s.withServer place (s.server place)) :=
    hself.withServer (fun heq => absurd heq hplace) fun _ => hserver
  rwa [hput] at h

end Servers

namespace Plan
variable {α : Type} {id : ObjectId} {t : Plan Place α}

theorem TouchesOnly.run_eq (h : t.TouchesOnly id)
    (make : Nat → String → Except KeyPairError KeyPair) {s s' : Servers}
    (hs : s.AgreesAt id s') :
    (t.run (Servers.surroundings make) s).1 = (t.run (Servers.surroundings make) s').1 := by
  induction t generalizing s s' with
  | done result => rfl
  | ask place call next ih =>
    obtain ⟨hanswer, hfinished⟩ :=
      hs.service fun hplace => h.isAbout (Servers.service place call s).answer hplace
    have hrest :=
      ih _ (h.takes (.answered place call next (Servers.service place call s).answer)) hfinished
    rw [hanswer] at hrest
    exact (congrArg (fun answer => ((next answer).run _ _).1) hanswer).trans hrest
  | generate commonName next ih =>
    obtain ⟨hmade, hfinished⟩ := hs.generate make commonName
    have hrest :=
      ih _ (h.takes (.made commonName next (Servers.generate make commonName s).1)) hfinished
    rw [hmade] at hrest
    exact (congrArg (fun outcome => ((next outcome).run _ _).1) hmade).trans hrest

/-- What is put elsewhere, in the managing cluster or in its copy, makes no difference. -/
theorem TouchesOnly.run_putAt (h : t.TouchesOnly id)
    (make : Nat → String → Except KeyPairError KeyPair) (s : Servers) {place : Place}
    (hplace : place ≠ .workload) {other : ObjectId} (hother : other ≠ id) (stored : Stored) :
    (t.run (Servers.surroundings make) (s.putAt place other stored)).1 =
      (t.run (Servers.surroundings make) s).1 :=
  h.run_eq make (s.agreesAt_putAt hplace hother stored)

end Plan
end Rollout
