import LlmopsPlatform.Foundations.TransitionSystem
import Mathlib.Data.List.Basic

/-!
# Ranks bound the steps of a kind

If every step of a kind takes a rank down and no other step raises it, then a run has at
most as many steps of that kind as the rank goes down (`Run.count_add_rank_le`). If the
steps of one kind add what those of another kind have to use up, the first bound the
second.
-/

set_option autoImplicit false

namespace Foundations.TransitionSystem

variable {State Label : Type*} {system : TransitionSystem State Label}

namespace Run

variable {start finish : State} {transitions : List (Transition State Label)}

/-- **Ranks bound steps.** The steps of a run that lower the rank are no more than the
rank has room for. -/
theorem count_add_rank_le (holds : State → Prop) (rank : State → ℕ) (counted : Label → Bool)
    (keeps : ∀ before label after, holds before → system.next before label = some after →
      holds after)
    (lowers : ∀ before label after, holds before → system.next before label = some after →
      counted label → rank after < rank before)
    (never_raises : ∀ before label after, holds before → system.next before label = some after →
      rank after ≤ rank before)
    (base : holds start) (run : system.Run start transitions finish) :
    holds finish ∧
      transitions.countP (fun step => counted step.label) + rank finish ≤ rank start := by
  induction run with
  | nil => simpa using base
  | @snoc earlierTransitions before after label earlier step ih =>
      obtain ⟨atEnd, bound⟩ := ih
      refine ⟨keeps before label after atEnd step, ?_⟩
      have raises := never_raises before label after atEnd step
      rw [List.countP_append, List.countP_singleton]
      by_cases isCounted : counted label
      · have lower := lowers before label after atEnd step isCounted
        rw [if_pos isCounted]
        omega
      · rw [if_neg isCounted]
        omega

end Run

end Foundations.TransitionSystem
