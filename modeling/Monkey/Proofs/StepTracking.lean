import Monkey.Proofs.Tracking

/-!
# Steps with and without a memo

Every step of a session, carried out with a memo, tracks the same step with every
key computed anew, and so does every list of steps. The proofs follow the
evaluation of literals, expressions, observations and origins part by part.
-/

namespace Monkey

variable [Embedding] [HostFunctions]

open Session

variable {now : Ledger} {session : Session Recompute}

/-! ## Literals -/

-- The recursion follows the evaluator: a literal, a list of literals, a list of
-- pairs of literals.
mutual

/-- Building the value of a literal. -/
theorem Literal.tracked_eval
    {now : Ledger}
    {session : Session Recompute}
    (describes : now.Describes session)
    (literal : Literal) :
    Tracked now session literal.eval literal.eval (literal.events session)
      (Shared Ledger.Covers) := by
  match literal with
  | .null => exact .pure describes ⟨rfl, .null⟩
  | .bool value => exact .pure describes ⟨rfl, .atom trivial⟩
  | .int value => exact .pure describes ⟨rfl, .atom trivial⟩
  | .text content =>
      refine (tracked_newText describes content).bind_shared_silent ?_
      intro _ _ _ text _ describes known
      exact .pure describes ⟨rfl, .atom known⟩
  | .array items =>
      refine (Literal.tracked_evalAll describes items).bind_shared_silent ?_
      intro _ _ _ values _ describes covered
      exact .pure describes ⟨rfl, .array covered⟩
  | .hash pairs =>
      refine (Literal.tracked_evalPairs describes pairs).bind_shared ?_
      intro _ _ _ pairs _ describes covered
      exact tracked_ofPairs describes covered
  | .set elements =>
      refine (Literal.tracked_evalAll describes elements).bind_shared ?_
      intro _ _ _ elements _ describes covered
      exact tracked_ofElements describes covered
  | .returned value =>
      refine (Literal.tracked_eval describes value).bind_shared_silent ?_
      intro _ _ _ value _ describes covered
      exact .pure describes ⟨rfl, .returned covered⟩
  | .failure reason => exact .pure describes ⟨rfl, .failure reason⟩
  | .builtin name =>
      unfold Literal.eval
      split
      next value found =>
        obtain ⟨builtin, _, rfl⟩ := Option.map_eq_some_iff.mp found
        exact .pure describes ⟨rfl, .builtin builtin⟩
      next => exact .throw describes _
  | .native name => exact .pure describes ⟨rfl, .builtin _⟩
  | .closure params body none =>
      refine (tracked_newScope describes).bind_shared_silent ?_
      intro _ _ _ scope _ describes _
      refine (tracked_newClosure describes params body _).bind_shared_silent ?_
      intro _ _ _ closure _ describes _
      exact .pure describes ⟨rfl, .closure _⟩
  | .closure params body (some environment) =>
      have named := tracked_environmentNamed describes environment
      refine named.bind_shared_silent ?_
      intro _ _ _ scope _ describes _
      refine (tracked_newClosure describes params body _).bind_shared_silent ?_
      intro _ _ _ closure _ describes _
      exact .pure describes ⟨rfl, .closure _⟩
  | .ref name => exact tracked_valueNamed describes name

/-- Building the values of some literals. -/
theorem Literal.tracked_evalAll
    {now : Ledger}
    {session : Session Recompute}
    (describes : now.Describes session)
    (literals : List Literal) :
    Tracked now session (Literal.evalAll literals) (Literal.evalAll literals)
      (Literal.eventsAll literals session) (Shared Ledger.CoversItems) := by
  match literals with
  | [] => exact .pure describes ⟨rfl, List.forall_mem_nil _⟩
  | literal :: rest =>
      refine (Literal.tracked_eval describes literal).bind_shared ?_
      intro _ _ _ value _ describes covered
      refine (Literal.tracked_evalAll describes rest).bind_shared_silent ?_
      intro _ _ _ values grows describes restCovered
      exact .pure describes ⟨rfl, List.forall_mem_cons.mpr
        ⟨grows.covers covered, restCovered⟩⟩

/-- Building the values of some pairs of literals. -/
theorem Literal.tracked_evalPairs
    {now : Ledger}
    {session : Session Recompute}
    (describes : now.Describes session)
    (pairs : List (Literal × Literal)) :
    Tracked now session (Literal.evalPairs pairs) (Literal.evalPairs pairs)
      (Literal.eventsPairs pairs session) (Shared Ledger.CoversPairs) := by
  match pairs with
  | [] => exact .pure describes ⟨rfl, List.forall_mem_nil _⟩
  | (key, value) :: rest =>
      refine (Literal.tracked_eval describes key).bind_shared ?_
      intro _ _ _ key _ describes keyCovered
      refine (Literal.tracked_eval describes value).bind_shared ?_
      intro _ _ _ value grows describes valueCovered
      have keyCovered := grows.covers keyCovered
      refine (Literal.tracked_evalPairs describes rest).bind_shared_silent ?_
      intro _ _ _ values grows describes restCovered
      exact .pure describes ⟨rfl, List.forall_mem_cons.mpr
        ⟨⟨grows.covers keyCovered, grows.covers valueCovered⟩, restCovered⟩⟩

end

/-! ## Expressions -/

/-- Evaluating an expression. -/
theorem Expression.tracked_eval
    (describes : now.Describes session)
    (expression : Expression) :
    Tracked now session expression.eval expression.eval
      (expression.events session) (Shared Ledger.CoversOutcome) := by
  cases expression with
  | literal value =>
      refine (Literal.tracked_eval describes value).bind_shared_silent ?_
      intro _ _ _ value _ describes covered
      exact .pure describes ⟨rfl, yields_ok covered⟩
  | call name arguments =>
      refine (Literal.tracked_evalAll describes arguments).bind_shared ?_
      intro _ _ _ arguments _ describes covered
      refine (tracked_preludeCall describes name covered).bind_shared_silent ?_
      intro _ _ _ found _ describes covered
      exact .pure describes ⟨rfl, yields_ofOption covered⟩
  | apply callee arguments =>
      refine (Literal.tracked_eval describes callee).bind_shared ?_
      intro _ _ _ callee _ describes _
      refine (Literal.tracked_evalAll describes arguments).bind_shared ?_
      intro _ _ _ arguments _ describes covered
      cases callee with
      | builtin builtin =>
          refine (tracked_call describes covered).bind_shared_silent ?_
          intro _ _ _ value _ describes covered
          exact .pure describes ⟨rfl, yields_ok covered⟩
      | _ => exact .pure describes ⟨rfl, yields_error _⟩
  | unwrap value =>
      refine (Literal.tracked_eval describes value).bind_shared_silent ?_
      intro _ _ _ value _ describes covered
      exact .pure describes ⟨rfl,
        yields_ok ((Ledger.hereditary_covers _).unwrapReturn covered)⟩
  | assign environment name value =>
      refine (tracked_environmentNamed describes environment).bind_shared ?_
      intro _ _ _ id _ describes _
      refine (Literal.tracked_eval describes value).bind_shared ?_
      intro _ _ _ value _ describes covered
      have bound := tracked_bindInScope describes covered id name
      refine (bound.bind_shared_silent ?_).unasked rfl
      intro _ _ _ _ grows describes _
      exact .pure describes
        ⟨rfl, yields_ok (grows.covers covered)⟩
  | lookup environment name =>
      refine (tracked_environmentNamed describes environment).bind_shared ?_
      intro _ _ _ id _ describes _
      refine .bind_get (.unasked (.pure describes ⟨rfl, ?_⟩) rfl)
      exact yields_ofOption fun value found =>
        describes.scopes.lookup found
  | resolve environment name =>
      refine (tracked_environmentNamed describes environment).bind_shared ?_
      intro _ _ _ id _ describes _
      refine .bind_get (.unasked (.pure describes ⟨rfl, ?_⟩) rfl)
      exact yields_ofOption fun value found =>
        covers_resolve describes.scopes found
  | withParams closure params =>
      refine (Literal.tracked_eval describes closure).bind_shared_silent ?_
      intro _ _ _ closure _ describes _
      cases closure with
      | closure closure =>
          exact .pure describes ⟨rfl, yields_ok (.closure _)⟩
      | _ => exact .pure describes ⟨rfl, yields_error _⟩
  | withElement collection element =>
      refine (Literal.tracked_eval describes collection).bind_shared ?_
      intro _ _ _ collection _ describes covered
      refine (Literal.tracked_eval describes element).bind_shared ?_
      intro _ _ _ element grows describes elementCovered
      have covered := grows.covers covered
      cases collection with
      | set members =>
          refine (tracked_withElement describes covered
            elementCovered).bind_shared_silent ?_
          intro _ _ _ outcome _ describes covered
          cases outcome with
          | ok extended =>
              exact .pure describes ⟨rfl,
                yields_ok (covered extended rfl)⟩
          | error rejected =>
              exact .pure describes ⟨rfl, yields_error _⟩
      | _ => exact .pure describes ⟨rfl, yields_error _⟩
  | union left right =>
      refine (Literal.tracked_eval describes left).bind_shared ?_
      intro _ _ _ left _ describes leftCovered
      refine (Literal.tracked_eval describes right).bind_shared ?_
      intro _ _ _ right grows describes rightCovered
      have leftCovered := grows.covers leftCovered
      cases left with
      | set left =>
          cases right with
          | set right =>
              refine Tracked.unasked (.pure describes ⟨rfl, ?_⟩) rfl
              exact yields_ok (leftCovered.union rightCovered)
          | _ => exact .pure describes ⟨rfl, yields_error _⟩
      | _ => exact .pure describes ⟨rfl, yields_error _⟩
  | hashGet collection key =>
      refine (Literal.tracked_eval describes collection).bind_shared ?_
      intro _ _ _ collection _ describes covered
      refine (Literal.tracked_eval describes key).bind_shared ?_
      intro _ _ _ key grows describes keyCovered
      have covered := grows.covers covered
      cases collection with
      | hash pairs =>
          have looked := tracked_hashLookup describes covered keyCovered
          refine looked.bind_shared_silent ?_
          intro _ _ _ found _ describes covered
          exact .pure describes ⟨rfl, yields_ofOption covered⟩
      | _ => exact .pure describes ⟨rfl, yields_error _⟩

/-! ## Observations -/

/-- Two answers are the same, or both say whether a key is remembered. -/
inductive Answer.Agrees : Answer -> Answer -> Prop
  | same (answer : Answer) : Agrees answer answer
  | cached (remembered other : Bool) :
      Agrees (.cached remembered) (.cached other)

/-- Two answers agree, and a value that they give is covered. -/
def AnswersAgree (ledger : Ledger) (answer other : Answer) : Prop :=
  answer.Agrees other ∧
    ∀ value, answer = .value value -> ledger.Covers value

omit [HostFunctions] in
/-- An answer without a value is the same on both sides. -/
theorem answersAgree_same
    {ledger : Ledger}
    {answer : Answer}
    (noValue : ∀ value, answer ≠ .value value) :
    AnswersAgree ledger answer answer :=
  ⟨.same answer, fun value isValue => absurd isValue (noValue value)⟩

/-- Making an observation. Only what a memo remembers can be told apart. -/
theorem Observation.tracked_observe
    (describes : now.Describes session)
    (observation : Observation) :
    Tracked now session observation.observe observation.observe
      (observation.events session) AnswersAgree := by
  cases observation with
  | contains collection element =>
      refine (Literal.tracked_eval describes collection).bind_shared ?_
      intro _ _ _ collection _ describes _
      refine (Literal.tracked_eval describes element).bind_shared ?_
      intro _ _ _ element _ describes covered
      cases collection with
      | set members =>
          have queried := tracked_contains describes members covered
          refine queried.bind_shared_silent ?_
          intro _ _ _ present _ describes _
          exact .pure describes (answersAgree_same nofun)
      | _ => exact .pure describes (answersAgree_same nofun)
  | display value =>
      refine (Literal.tracked_eval describes value).bind_shared ?_
      intro _ _ _ value _ describes _
      exact Tracked.unasked (.pure describes (answersAgree_same nofun)) rfl
  | debug value =>
      refine (Literal.tracked_eval describes value).bind_shared ?_
      intro _ _ _ value _ describes _
      exact Tracked.unasked (.pure describes (answersAgree_same nofun)) rfl
  | key value =>
      refine (Literal.tracked_eval describes value).bind_shared ?_
      intro _ _ _ value _ describes covered
      refine (tracked_requestKey? describes covered).bind_shared_silent ?_
      intro _ _ _ key _ describes _
      exact .pure describes (answersAgree_same nofun)
  | cached text =>
      refine (Literal.tracked_eval describes text).bind_shared_silent ?_
      intro _ _ _ value _ describes _
      cases value with
      | atom atom =>
          cases atom with
          | text text =>
              -- The one answer that reads the memo. Nothing depends on it.
              exact .bind_get (.pure describes ⟨.cached _ _, nofun⟩)
          | _ => exact .pure describes (answersAgree_same nofun)
      | _ => exact .pure describes (answersAgree_same nofun)
  | equal left right =>
      refine (Literal.tracked_eval describes left).bind_shared ?_
      intro _ _ _ left _ describes _
      refine (Literal.tracked_eval describes right).bind_shared ?_
      intro _ _ _ right _ describes _
      exact Tracked.unasked (.pure describes (answersAgree_same nofun)) rfl
  | captured =>
      exact .bind_get (.pure describes (answersAgree_same nofun))
  | reset =>
      have updated : Tracked now session
          (modify fun session => { session with sink := session.sink.reset })
          (modify fun session => { session with sink := session.sink.reset })
          [] (Shared fun _ _ => True) :=
        .update ⟨describes.cells_eq, describes.values, describes.scopes⟩ rfl
      refine updated.bind_silent ?_
      intro _ _ _ _ _ _ describes _
      exact .bind_get (.pure describes (answersAgree_same nofun))
  | environment name =>
      refine (tracked_environmentNamed describes name).bind_shared_silent ?_
      intro _ _ _ id _ describes _
      exact .bind_get (.pure describes (answersAgree_same nofun))
  | sameEnvironment left right =>
      refine (tracked_environmentNamed describes left).bind_shared_silent ?_
      intro _ _ _ left _ describes _
      refine (tracked_environmentNamed describes right).bind_shared_silent ?_
      intro _ _ _ right _ describes _
      exact .pure describes (answersAgree_same nofun)

/-! ## Steps -/

/-- Finding or creating an environment. -/
theorem Origin.tracked_scope
    (describes : now.Describes session)
    (origin : Origin) :
    Tracked now session origin.scope origin.scope (origin.events session)
      (Shared fun _ _ => True) := by
  cases origin with
  | new =>
      refine (tracked_newScope describes).bind_shared_silent ?_
      intro _ _ _ id _ describes _
      exact .pure describes ⟨rfl, trivial⟩
  | enclosed outer =>
      refine (tracked_environmentNamed describes outer).bind_shared_silent ?_
      intro _ _ _ outer _ describes _
      refine (tracked_encloseScope describes outer).bind_shared_silent ?_
      intro _ _ _ id _ describes _
      exact .pure describes ⟨rfl, trivial⟩
  | captured closure =>
      refine (Literal.tracked_eval describes closure).bind_shared_silent ?_
      intro _ _ _ closure _ describes _
      cases closure <;> exact .pure describes ⟨rfl, trivial⟩

namespace Step

/-- Carrying out a step. -/
theorem tracked_run
    (describes : now.Describes session)
    (step : Step) :
    Tracked now session step.run step.run (step.events session)
      AnswersAgree := by
  cases step with
  | evaluate expression name =>
      refine (expression.tracked_eval describes).bind_shared_silent ?_
      intro _ _ _ outcome _ describes covered
      cases outcome with
      | error reason => exact .pure describes (answersAgree_same nofun)
      | ok value =>
          have covered := covered value rfl
          cases name with
          | none =>
              refine .pure describes ⟨.same _, ?_⟩
              rintro _ ⟨⟩
              exact covered
          | some name =>
              have named := tracked_nameValue describes covered name
              refine named.bind_shared_silent ?_
              intro _ _ _ _ grows describes _
              refine .pure describes ⟨.same _, ?_⟩
              rintro _ ⟨⟩
              exact grows.covers covered
  | observe observation => exact observation.tracked_observe describes
  | openEnvironment origin name =>
      refine (origin.tracked_scope describes).bind_shared_silent ?_
      intro _ _ _ outcome _ describes _
      cases outcome with
      | error reason => exact .pure describes (answersAgree_same nofun)
      | ok id =>
          have named := tracked_nameEnvironment describes name id
          refine named.bind_shared_silent ?_
          intro _ _ _ _ _ describes _
          exact .bind_get (.pure describes (answersAgree_same nofun))

omit [HostFunctions] in
/-- Answers that agree do so still when the ledger grew. -/
theorem answersAgree_grows
    {later : Ledger}
    {texts : List Text}
    (grows : now.Grows texts later)
    {answer other : Answer}
    (agree : AnswersAgree now answer other) :
    AnswersAgree later answer other :=
  ⟨agree.1, fun value isValue => grows.covers (agree.2 value isValue)⟩

/-- Carrying out some steps: the events of the steps, one after the other, say
what a memo remembers in the end. -/
theorem tracked_runAll
    (describes : now.Describes session)
    (steps : List Step) :
    Tracked now session (runAll steps) (runAll steps) (eventsAll steps session)
      (fun ledger => List.Forall₂ (AnswersAgree ledger)) := by
  induction steps generalizing now session with
  | nil => exact .pure describes .nil
  | cons step rest inductionHypothesis =>
      refine (step.tracked_run describes).bind fun _ describes agree => ?_
      refine (inductionHypothesis describes).bind_silent
        fun grows describes restAgree => ?_
      exact .pure describes (.cons (answersAgree_grows grows agree) restAgree)

end Step
end Monkey
