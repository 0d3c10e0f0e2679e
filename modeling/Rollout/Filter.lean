/-!
Filters: tests with labels, combined by conjunction and negation. A conjunction stops at the first
test that fails. Running a filter gives its verdict and the labels of the tests that were made, in
their order.
-/
namespace Rollout

inductive Filter (Label α : Type)
  | test (label : Label) (holds : α → Bool)
  | all (filters : List (Filter Label α))
  | not (filter : Filter Label α)

namespace Filter
variable {Label α : Type}

mutual

def run (a : α) : Filter Label α → Bool × List Label
  | test label holds => (holds a, [label])
  | all filters => runAll a filters
  | not filter =>
    let (verdict, made) := run a filter
    (!verdict, made)

/-- The filters one after the other, up to and with the first that fails. -/
def runAll (a : α) : List (Filter Label α) → Bool × List Label
  | [] => (true, [])
  | f :: fs =>
    let (verdict, made) := run a f
    if verdict then
      let (others, madeToo) := runAll a fs
      (others, made ++ madeToo)
    else (false, made)

end

def accepts (f : Filter Label α) (a : α) : Bool :=
  (f.run a).1

def select (filters : List (Filter Label α)) (items : List α) : List α × List Label :=
  (items.filter (all filters).accepts, items.flatMap fun a => ((all filters).run a).2)

end Filter
end Rollout
