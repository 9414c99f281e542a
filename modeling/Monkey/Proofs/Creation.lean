import Monkey.Session.Step

/-!
# Creation of closures

Only the literal of a closure creates one; every other closure of a program is a
copy of one that was created, perhaps under other parameter names. The closures
that a step creates, in order, are read off what the step computes when every
key is computed anew.
-/

namespace Monkey

variable [Embedding] [HostFunctions]

open Session

/-! ## Descent -/

/-- A closure comes from another one by copying it and replacing the parameters
of the copy, any number of times. -/
inductive Closure.DescendsFrom : Closure -> Closure -> Prop
  | copy (original : Closure) : DescendsFrom original original
  | withParams {function original : Closure} (params : List String) :
      DescendsFrom function original ->
        DescendsFrom (function.withParams params) original

omit [HostFunctions] in
/-- A descendant differs from its origin in its parameters and in nothing
else. -/
theorem Closure.DescendsFrom.eq_withParams
    {function original : Closure}
    (descends : function.DescendsFrom original) :
    function = original.withParams function.params := by
  induction descends with
  | copy original => rfl
  | @withParams function _ params _ inductionHypothesis =>
      rw [inductionHypothesis]
      rfl

/-! ## Literals -/

/-- The session that a computation leaves, unless it stops at an unbound name. -/
def Session.reached {α : Type}
    (session : Session Recompute)
    (computation : Evaluation Recompute α) : Option (Session Recompute) :=
  match computation.run.run session with
  | (.ok _, session) => some session
  | (.error _, _) => none

/-- The closure that a computation returns, if it returns one. -/
def Session.closureFrom
    (session : Session Recompute)
    (computation : Evaluation Recompute Value) : List Closure :=
  match computation.run.run session with
  | (.ok (.closure function), _) => [function]
  | _ => []

namespace Literal

mutual

/-- The closures that building the value of a literal creates. -/
def created : Literal -> Session Recompute -> List Closure
  | .closure params body environment, session =>
      session.closureFrom (Literal.closure params body environment).eval
  | .array items, session => createdAll items session
  | .hash pairs, session => createdPairs pairs session
  | .set elements, session => createdAll elements session
  | .returned value, session => value.created session
  | _, _ => []

/-- The closures that building the values of some literals creates. -/
def createdAll : List Literal -> Session Recompute -> List Closure
  | [], _ => []
  | literal :: rest, session =>
      literal.created session ++
        (session.reached literal.eval).elim []
          fun session => createdAll rest session

/-- The closures that building the values of some pairs of literals creates. -/
def createdPairs : List (Literal × Literal) -> Session Recompute -> List Closure
  | [], _ => []
  | (key, value) :: rest, session =>
      key.created session ++
        (session.reached key.eval).elim [] fun session =>
          value.created session ++
            (session.reached value.eval).elim []
              fun session => createdPairs rest session

end

end Literal

/-! ## Steps -/

/-- The literals that an expression builds, in order. -/
def Expression.literals : Expression -> List Literal
  | .literal value | .unwrap value | .assign _ _ value
  | .withParams value _ => [value]
  | .call _ arguments => arguments
  | .apply callee arguments => callee :: arguments
  | .lookup .. | .resolve .. => []
  | .withElement left right | .union left right
  | .hashGet left right => [left, right]

/-- The closures that evaluating an expression creates. An assignment finds its
environment before it builds a value. -/
def Expression.created : Expression -> Session Recompute -> List Closure
  | .assign environment _ value, session =>
      (session.reached (environmentNamed environment)).elim []
        (Literal.createdAll [value])
  | expression, session => Literal.createdAll expression.literals session

/-- The literals that an observation builds, in order. -/
def Observation.literals : Observation -> List Literal
  | .contains left right | .equal left right => [left, right]
  | .display value | .debug value | .key value | .cached value => [value]
  | .captured | .reset | .environment _ | .sameEnvironment .. => []

/-- The closures that finding or creating an environment creates. -/
def Origin.created : Origin -> Session Recompute -> List Closure
  | .captured closure, session => closure.created session
  | .new, _ | .enclosed _, _ => []

namespace Step

/-- The closures that a step creates. -/
def created : Step -> Session Recompute -> List Closure
  | .evaluate expression _, session => expression.created session
  | .observe observation, session =>
      Literal.createdAll observation.literals session
  | .openEnvironment origin _, session => origin.created session

/-- The closures that some steps create, in order. -/
def createdAll : List Step -> Session Recompute -> List Closure
  | [], _ => []
  | step :: rest, session =>
      step.created session ++
        (session.reached step.run).elim [] fun session =>
          createdAll rest session

end Step
end Monkey
