import Mathlib.Data.List.Forall2

/-!
# Agreeing outcomes

Two computations that may stop for a reason agree when both stop for the same
reason or both succeed with related results. Agreement passes through whatever
is done with the results.
-/

namespace Monkey

/-- Two outcomes agree: both succeed with related results, or both stop for the
same reason. -/
inductive SameOutcome {ε α β : Type} (related : α -> β -> Prop) :
    Except ε α -> Except ε β -> Prop
  | ok {result : α} {other : β} :
      related result other -> SameOutcome related (.ok result) (.ok other)
  | error (reason : ε) : SameOutcome related (.error reason) (.error reason)

namespace SameOutcome

variable {ε ε' α β γ δ : Type} {related : α -> β -> Prop}

theorem imp
    {implied : α -> β -> Prop}
    {left : Except ε α}
    {right : Except ε β}
    (outcome : SameOutcome related left right)
    (weaker : ∀ result other, related result other -> implied result other) :
    SameOutcome implied left right := by
  cases outcome with
  | ok connected => exact .ok (weaker _ _ connected)
  | error reason => exact .error reason

theorem map
    {mapped : γ -> δ -> Prop}
    {left : Except ε α}
    {right : Except ε β}
    (outcome : SameOutcome related left right)
    {leftMap : α -> γ}
    {rightMap : β -> δ}
    (implied : ∀ result other,
      related result other -> mapped (leftMap result) (rightMap other)) :
    SameOutcome mapped (left.map leftMap) (right.map rightMap) := by
  cases outcome with
  | ok connected => exact .ok (implied _ _ connected)
  | error reason => exact .error reason

theorem mapError
    {left : Except ε α}
    {right : Except ε β}
    (outcome : SameOutcome related left right)
    (translate : ε -> ε') :
    SameOutcome related (left.mapError translate)
      (right.mapError translate) := by
  cases outcome with
  | ok connected => exact .ok connected
  | error reason => exact .error (translate reason)

theorem bind
    {final : γ -> δ -> Prop}
    {left : Except ε α}
    {right : Except ε β}
    (outcome : SameOutcome related left right)
    {next : α -> Except ε γ}
    {otherNext : β -> Except ε δ}
    (rest : ∀ result other,
      related result other ->
        SameOutcome final (next result) (otherNext other)) :
    SameOutcome final (left >>= next) (right >>= otherNext) := by
  cases outcome with
  | ok connected => exact rest _ _ connected
  | error reason => exact .error reason

/-- A loop over two lists stops in both for the same reason, or collects related
results. -/
theorem mapM
    {given : γ -> δ -> Prop}
    {accept : γ -> Except ε α}
    {otherAccept : δ -> Except ε β}
    (each : ∀ item other,
      given item other ->
        SameOutcome related (accept item) (otherAccept other))
    {items : List γ}
    {others : List δ}
    (connected : List.Forall₂ given items others) :
    SameOutcome (List.Forall₂ related) (items.mapM accept)
      (others.mapM otherAccept) := by
  induction connected with
  | nil => exact .ok .nil
  | cons headConnected _ inductionHypothesis =>
      rw [List.mapM_cons, List.mapM_cons]
      refine (each _ _ headConnected).bind fun _ _ resultConnected => ?_
      refine inductionHypothesis.bind fun _ _ tailConnected => ?_
      exact .ok (.cons resultConnected tailConnected)

end SameOutcome

/-! ## Related lists -/

/-- What stands on the left has a partner on the right. -/
theorem exists_right_of_forall₂
    {α β : Type}
    {related : α -> β -> Prop}
    {left : List α}
    {right : List β}
    (connected : List.Forall₂ related left right)
    {item : α}
    (member : item ∈ left) :
    ∃ other ∈ right, related item other := by
  induction connected with
  | nil => cases member
  | @cons head other _ _ headConnected _ inductionHypothesis =>
      rcases List.mem_cons.mp member with rfl | inTail
      · exact ⟨other, List.mem_cons_self, headConnected⟩
      · obtain ⟨partner, partnerMember, itemConnected⟩ :=
          inductionHypothesis inTail
        exact ⟨partner, List.mem_cons_of_mem _ partnerMember, itemConnected⟩

theorem forall_left_of_forall₂
    {α β : Type}
    {related : α -> β -> Prop}
    {property : α -> Prop}
    {left : List α}
    {right : List β}
    (connected : List.Forall₂ related left right)
    (implied : ∀ item other, related item other -> property item) :
    ∀ item ∈ left, property item := by
  intro item member
  obtain ⟨other, _, itemConnected⟩ := exists_right_of_forall₂ connected member
  exact implied item other itemConnected

theorem forall_right_of_forall₂
    {α β : Type}
    {related : α -> β -> Prop}
    {property : β -> Prop}
    {left : List α}
    {right : List β}
    (connected : List.Forall₂ related left right)
    (implied : ∀ item other, related item other -> property other) :
    ∀ other ∈ right, property other := by
  have flipped : List.Forall₂ (flip related) right left := connected.flip
  exact forall_left_of_forall₂ flipped fun other item => implied item other

end Monkey
