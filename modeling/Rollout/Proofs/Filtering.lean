import Rollout.Filter

/-!
Running a filter. The verdict is what the filter says as a formula, and the tests that are made are,
from left to right, those that every filter in front of them lets be reached. Runs one after the
other follow the laws of a monoid.
-/
namespace Rollout.Filter
variable {Label α : Type}

@[elab_as_elim]
theorem induct {motive : Filter Label α → Prop}
    (test : ∀ label holds, motive (.test label holds))
    (all : ∀ fs, (∀ f ∈ fs, motive f) → motive (.all fs))
    (not : ∀ f, motive f → motive (.not f)) (f : Filter Label α) : motive f :=
  @Filter.rec Label α motive (fun fs => ∀ f ∈ fs, motive f) test all not nofun
    (fun _ _ hf hfs => List.forall_mem_cons.2 ⟨hf, hfs⟩) f

def followedBy (x y : Bool × List Label) : Bool × List Label :=
  if x.1 then (y.1, x.2 ++ y.2) else x

theorem fst_followedBy (x y : Bool × List Label) : (followedBy x y).1 = (x.1 && y.1) := by
  obtain ⟨verdict, made⟩ := x
  cases verdict <;> rfl

theorem snd_followedBy (x y : Bool × List Label) :
    (followedBy x y).2 = x.2 ++ if x.1 then y.2 else [] := by
  obtain ⟨verdict, made⟩ := x
  cases verdict <;> simp [followedBy]

theorem start_followedBy (x : Bool × List Label) : followedBy (true, []) x = x := rfl

theorem followedBy_start (x : Bool × List Label) : followedBy x (true, []) = x := by
  obtain ⟨verdict, made⟩ := x
  cases verdict <;> simp [followedBy]

theorem followedBy_assoc (x y z : Bool × List Label) :
    followedBy (followedBy x y) z = followedBy x (followedBy y z) := by
  obtain ⟨verdict, made⟩ := x
  obtain ⟨verdict', made'⟩ := y
  cases verdict <;> cases verdict' <;> simp [followedBy]

theorem run_all (a : α) (fs : List (Filter Label α)) : run a (all fs) = runAll a fs := by
  rw [run]

theorem run_not (a : α) (f : Filter Label α) : run a (not f) = (!(run a f).1, (run a f).2) := by
  rw [run]

theorem runAll_cons (a : α) (f : Filter Label α) (fs : List (Filter Label α)) :
    runAll a (f :: fs) = followedBy (run a f) (runAll a fs) := by
  rw [runAll]
  obtain ⟨verdict, made⟩ := run a f
  cases verdict <;> rfl

theorem runAll_append (a : α) (fs gs : List (Filter Label α)) :
    runAll a (fs ++ gs) = followedBy (runAll a fs) (runAll a gs) := by
  induction fs with
  | nil => rw [List.nil_append, runAll, start_followedBy]
  | cons f fs ih => rw [List.cons_append, runAll_cons, runAll_cons, ih, followedBy_assoc]

@[simp] theorem accepts_test (label : Label) (holds : α → Bool) (a : α) :
    (test label holds).accepts a = holds a := by
  simp [accepts, run]

@[simp] theorem accepts_not (f : Filter Label α) (a : α) : (not f).accepts a = !f.accepts a := by
  rw [accepts, run_not, accepts]

@[simp] theorem accepts_all (fs : List (Filter Label α)) (a : α) :
    (all fs).accepts a = fs.all (·.accepts a) := by
  rw [accepts, run_all]
  induction fs with
  | nil => rfl
  | cons f fs ih => rw [runAll_cons, fst_followedBy, ih, List.all_cons, accepts]

mutual

def value (a : α) : Filter Label α → Bool
  | test _ holds => holds a
  | all fs => valueOfAll a fs
  | not f => !value a f

def valueOfAll (a : α) : List (Filter Label α) → Bool
  | [] => true
  | f :: fs => value a f && valueOfAll a fs

end

theorem value_all (a : α) (fs : List (Filter Label α)) : value a (all fs) = fs.all (value a) := by
  rw [value]
  induction fs with
  | nil => rfl
  | cons f fs ih => rw [valueOfAll, List.all_cons, ih]

theorem accepts_eq_value (f : Filter Label α) (a : α) : f.accepts a = value a f := by
  induction f using induct with
  | test label holds => rw [accepts_test, value]
  | all fs ih =>
    rw [accepts_all, value_all, Bool.eq_iff_iff, List.all_eq_true, List.all_eq_true]
    exact forall₂_congr fun f hf => by rw [ih f hf]
  | not f ih => rw [accepts_not, value, ih]

theorem tests_all (a : α) (fs : List (Filter Label α)) :
    (run a (all fs)).2 = (fs.take (fs.findIdx (fun f => !value a f) + 1)).flatMap fun f =>
      (run a f).2 := by
  rw [run_all]
  induction fs with
  | nil => rfl
  | cons f fs ih =>
    rw [runAll_cons, snd_followedBy, List.findIdx_cons, ← accepts_eq_value, accepts, ih]
    cases (run a f).1 <;> simp

/-- A test where it stands in a filter, with what stands in front of it: the filters to its left in
the conjunctions around it. -/
structure Occurrence (Label α : Type) where
  label : Label
  front : List (Filter Label α)

namespace Occurrence

def behind (f : Filter Label α) (o : Occurrence Label α) : Occurrence Label α :=
  { o with front := f :: o.front }

def isReached (a : α) (o : Occurrence Label α) : Bool :=
  o.front.all (value a)

end Occurrence

mutual

def occurrences : Filter Label α → List (Occurrence Label α)
  | test label _ => [⟨label, []⟩]
  | all fs => occurrencesInAll fs
  | not f => occurrences f

def occurrencesInAll : List (Filter Label α) → List (Occurrence Label α)
  | [] => []
  | f :: fs => occurrences f ++ (occurrencesInAll fs).map (.behind f)

end

def reached (a : α) (os : List (Occurrence Label α)) : List Label :=
  (os.filter (·.isReached a)).map (·.label)

theorem reached_append (a : α) (os os' : List (Occurrence Label α)) :
    reached a (os ++ os') = reached a os ++ reached a os' := by
  unfold reached
  rw [List.filter_append, List.map_append]

theorem reached_behind (a : α) (f : Filter Label α) (os : List (Occurrence Label α)) :
    reached a (os.map (.behind f)) = if value a f then reached a os else [] := by
  have hreached : (fun o => Occurrence.isReached a o) ∘ Occurrence.behind f = fun o =>
      value a f && o.isReached a := by
    funext o
    exact List.all_cons
  unfold reached
  rw [List.filter_map, List.map_map, hreached]
  cases value a f <;> simp [Function.comp_def, Occurrence.behind]

/-- The tests that are made are those that are reached, in their order. -/
theorem tests_eq_reached (f : Filter Label α) (a : α) :
    (run a f).2 = reached a f.occurrences := by
  induction f using induct with
  | test label holds => rw [run, occurrences]; rfl
  | not f ih => rw [run_not, occurrences, ih]
  | all fs ih =>
    rw [run_all, occurrences]
    induction fs with
    | nil => rfl
    | cons f fs ihs =>
      have hf : (run a f).2 = reached a f.occurrences := ih f (List.mem_cons_self ..)
      have hfs : (runAll a fs).2 = reached a (occurrencesInAll fs) :=
        ihs fun g hg => ih g (List.mem_cons_of_mem _ hg)
      rw [runAll_cons, snd_followedBy, hf, hfs, occurrencesInAll, reached_append, reached_behind,
        ← accepts_eq_value, accepts]

end Rollout.Filter
