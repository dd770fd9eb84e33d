import Courier.Proofs.Runs
/-
The run that an act has in a world when nothing else happens there: its steps
are those that the world answers (`World.runs_steps`), and the steps of acts
that follow one another follow one another (`World.steps_bind`).
-/
namespace Courier

namespace World

variable {α β : Type}

/-- What happens when an act is run in a world. -/
def steps (w : World) : Act α → Trace
  | .done _ => []
  | .perform e next => ⟨e, (w.answer e).1⟩ :: (w.answer e).2.steps (next (w.answer e).1)

theorem runs_steps (w : World) (act : Act α) : act.Runs (w.steps act) (w.run act).1 := by
  induction act generalizing w with
  | done a => exact .start
  | perform e next ih => exact .perform (ih _ _)

theorem steps_bind (w : World) (act : Act α) (f : α → Act β) :
    w.steps (act.bind f) = w.steps act ++ (w.run act).2.steps (f (w.run act).1) := by
  induction act generalizing w with
  | done a => rfl
  | perform e next ih => simp only [Act.bind, steps, run, ih, List.cons_append]

end World

end Courier
