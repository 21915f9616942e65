/-!
# What cannot be avoided

A goal is inevitable when every way of going on comes to it after finitely many
steps, and none gets stuck before.  A number that each step makes smaller is enough.
-/

namespace AtLeastOnce

inductive Inevitably {α : Type} (step : α → α → Prop) (goal : α → Prop) :
    α → Prop where
  | now {here : α} (met : goal here) : Inevitably step goal here
  | later {here : α} (moves : ∃ next, step here next)
      (all : ∀ next, step here next → Inevitably step goal next) :
      Inevitably step goal here

namespace Inevitably

variable {α : Type} {step : α → α → Prop} {goal weaker : α → Prop} {here : α}

/-- While the goal is not met there is a step, and each of them leads to the goal
or to where less is left. -/
theorem of_measure (keeps : α → Prop) (left : α → Nat)
    (moves : ∀ {here}, keeps here → ¬ goal here → ∃ next, step here next)
    (fewer : ∀ {here next}, keeps here → ¬ goal here → step here next →
      goal next ∨ keeps next ∧ left next < left here)
    (kept : keeps here) : Inevitably step goal here := by
  induction size : left here using Nat.strongRecOn generalizing here with
  | ind size induction =>
      by_cases met : goal here
      · exact .now met
      · refine .later (moves kept met) ?_
        intro next stepped
        rcases fewer kept met stepped with reached | ⟨still, smaller⟩
        · exact .now reached
        · rw [size] at smaller
          exact induction (left next) smaller still rfl

/-- Until the goal is met, what each step keeps is still there. -/
theorem imp_of_kept (keeps : α → Prop)
    (next : ∀ {here next}, keeps here → ¬ weaker here → step here next → keeps next)
    (met : ∀ {here}, keeps here → goal here → weaker here)
    (inevitable : Inevitably step goal here) (kept : keeps here) :
    Inevitably step weaker here := by
  induction inevitable with
  | now reached => exact .now (met kept reached)
  | @later here moves _ induction =>
      by_cases already : weaker here
      · exact .now already
      · refine .later moves ?_
        intro following stepped
        exact induction following stepped (next kept already stepped)

end Inevitably

end AtLeastOnce
