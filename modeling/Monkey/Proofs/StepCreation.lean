import Monkey.Proofs.Vouching

/-!
# Steps and the closures that they create

Every step of a session creates the closures that `Step.created` lists, and with
those created before they vouch for what the step leaves and answers. The proofs
follow the evaluation of literals, expressions, observations and origins part by
part.
-/

namespace Monkey

variable [Embedding]

open Session

variable {created : List Closure} {session : Session Recompute}

/-! ## Operations of a session -/

/-- What an operation returns is of no concern. -/
abbrev anyResult {α : Type} : List Closure -> α -> Prop :=
  fun _ _ => True

/-- Every value of a list is vouched for. -/
def VouchedItems (created : List Closure) (values : List Value) : Prop :=
  ∀ value ∈ values, value.Vouched created

/-- Both values of every pair of a list are vouched for. -/
def VouchedPairs (created : List Closure) (pairs : List (Value × Value)) :
    Prop :=
  ∀ pair ∈ pairs, pair.1.Vouched created ∧ pair.2.Vouched created

/-- If an outcome is a value, it is vouched for. -/
def VouchedOutcome {ε : Type}
    (created : List Closure)
    (outcome : Except ε Value) : Prop :=
  Yields (Value.Vouched created) outcome

/-- A new closure is the one that is created. -/
theorem creates_newClosure
    (vouched : session.VouchedBy created)
    (params : List String)
    (body : Body)
    (scope : ScopeId) :
    Creates created session (newClosure params body scope)
      [⟨params, body, session.codes, scope⟩]
      fun later function => (Value.closure function).Vouched later := by
  refine ⟨vouched.create params body scope, ?_⟩
  rintro _ ⟨⟩
  exact .closure (List.mem_append_right _ (List.mem_singleton.mpr rfl))
    (.copy _)

theorem creates_newText
    (vouched : session.VouchedBy created)
    (content : String) :
    Creates created session (newText content) [] anyResult :=
  .quiet (vouched.unchanged rfl rfl rfl) fun _ _ => trivial

theorem creates_newScope (vouched : session.VouchedBy created) :
    Creates created session newScope [] anyResult :=
  .quiet ⟨vouched.codes_eq, vouched.code_eq, vouched.values,
    vouched.scopes.create⟩ fun _ _ => trivial

theorem creates_encloseScope
    (vouched : session.VouchedBy created)
    (outer : ScopeId) :
    Creates created session (encloseScope outer) [] anyResult :=
  .quiet ⟨vouched.codes_eq, vouched.code_eq, vouched.values,
    vouched.scopes.enclose outer⟩ fun _ _ => trivial

theorem creates_valueNamed
    (vouched : session.VouchedBy created)
    (name : String) :
    Creates created session (valueNamed name) []
      fun later value => value.Vouched later := by
  refine .bind_get ?_
  cases found : session.values.get? name with
  | none => exact .throw vouched _
  | some value => exact .pure vouched (vouched.values name value found)

theorem creates_environmentNamed
    (vouched : session.VouchedBy created)
    (name : String) :
    Creates created session (environmentNamed name) [] anyResult := by
  refine .bind_get ?_
  cases session.environments.get? name with
  | none => exact .throw vouched _
  | some id => exact .pure vouched trivial

theorem run_environmentNamed
    (session : Session Recompute)
    (name : String) :
    (environmentNamed name : Evaluation Recompute ScopeId).run.run session =
      ((session.environments.get? name).elim (.error (.environment name)) .ok,
        session) := by
  have ran : (get : Evaluation Recompute (Session Recompute)).run.run session =
      pure (.ok session, session) := rfl
  unfold environmentNamed
  rw [ExceptT.run_bind, StateT.run_bind, ran, pure_bind]
  dsimp only
  cases session.environments.get? name <;> rfl

theorem creates_nameValue
    (vouched : session.VouchedBy created)
    {value : Value}
    (valueVouched : value.Vouched created)
    (name : String) :
    Creates created session (nameValue name value) [] anyResult :=
  .update ⟨vouched.codes_eq, vouched.code_eq,
    vouched.values.insert valueVouched name, vouched.scopes⟩

theorem creates_nameEnvironment
    (vouched : session.VouchedBy created)
    (name : String)
    (id : ScopeId) :
    Creates created session (nameEnvironment name id) [] anyResult :=
  .update (vouched.unchanged rfl rfl rfl)

theorem creates_bindInScope
    (vouched : session.VouchedBy created)
    {value : Value}
    (valueVouched : value.Vouched created)
    (id : ScopeId)
    (name : String) :
    Creates created session (bindInScope id name value) [] anyResult :=
  .update ⟨vouched.codes_eq, vouched.code_eq, vouched.values,
    vouched.scopes.bind valueVouched id name⟩

/-! ## Operations over values -/

theorem creates_ofPairs
    (vouched : session.VouchedBy created)
    {pairs : List (Value × Value)}
    (pairsVouched : VouchedPairs created pairs) :
    Creates created session (perform (Value.ofPairs pairs)) []
      fun later value => value.Vouched later := by
  rw [Value.ofPairs_eq]
  have asks := asks_ofPairs (σ := Session Recompute)
    fun pair (_ : pair ∈ pairs) => pair.1.known_univ
  exact .perform vouched (asks.map _)
    (.ofPairs fun pair member => (pairsVouched pair member).2)

theorem creates_ofElements
    (vouched : session.VouchedBy created)
    (elements : List Value) :
    Creates created session (perform (Value.ofElements elements)) []
      fun later value => value.Vouched later := by
  rw [Value.ofElements, Filing.toValue_set]
  have asks := asks_ofElements (σ := Session Recompute)
    fun element (_ : element ∈ elements) => element.known_univ
  exact .perform vouched (asks.map _) (.ofElements elements)

section Calls

variable [HostFunctions]

/-- Calling a builtin. -/
theorem creates_call
    (vouched : session.VouchedBy created)
    {builtin : Builtin}
    {arguments : List Value}
    (argumentsVouched : VouchedItems created arguments) :
    Creates created session (perform (builtin.call arguments)) []
      fun later value => value.Vouched later := by
  by_cases output : builtin.operation = .puts
  · obtain ⟨name, _⟩ := builtin
    cases output
    refine .quiet ?_ ?_
    · rw [run_perform_puts]
      exact vouched.unchanged rfl rfl rfl
    · rw [run_perform_puts]
      rintro _ ⟨⟩
      exact .null
  · obtain ⟨answer, asks, inherits⟩ := exists_asks_call output
      fun argument (_ : argument ∈ arguments) => argument.known_univ
    refine .perform vouched (asks _) ?_
    refine inherits (Value.Vouched.hereditary created) argumentsVouched ?_
    rintro extended ⟨_, members, element, rfl, added⟩
    exact (argumentsVouched _ List.mem_cons_self).extended added

/-- If there is a value, it is vouched for. -/
def VouchedFound (created : List Closure) (found : Option Value) : Prop :=
  ∀ value, found = some value -> value.Vouched created

/-- Calling a builtin by name. -/
theorem creates_preludeCall
    (vouched : session.VouchedBy created)
    (name : String)
    {arguments : List Value}
    (argumentsVouched : VouchedItems created arguments) :
    Creates created session (perform (Prelude.call name arguments)) []
      VouchedFound := by
  unfold Prelude.call
  cases Prelude.get? name with
  | none => exact .pure vouched nofun
  | some builtin =>
      rw [perform_map]
      refine (creates_call vouched argumentsVouched).bind_quiet ?_
      intro _ _ value _ vouched valueVouched
      refine .pure vouched ?_
      rintro _ ⟨⟩
      exact valueVouched

end Calls

theorem creates_withElement
    (vouched : session.VouchedBy created)
    {members : MemberSet}
    (membersVouched : (Value.set members).Vouched created)
    (element : Value) :
    Creates created session
      (perform (MemberSet.withElement members element).run) []
      fun later outcome => ∀ extended, outcome = .ok extended ->
        (Value.set extended).Vouched later :=
  .perform vouched (asks_withElement members element.known_univ)
    fun _ added => membersVouched.extended added

theorem creates_hashLookup
    (vouched : session.VouchedBy created)
    {pairs : Hash}
    (pairsVouched : (Value.hash pairs).Vouched created)
    (key : Value) :
    Creates created session (perform (Hash.lookup pairs key)) []
      VouchedFound := by
  refine .perform vouched (asks_lookup pairs key.known_univ) ?_
  intro value found
  obtain ⟨_, _, found⟩ := Option.bind_eq_some_iff.mp found
  exact (Value.Vouched.hereditary created).get? pairsVouched found

theorem creates_contains
    (vouched : session.VouchedBy created)
    (members : MemberSet)
    (element : Value) :
    Creates created session (perform (MemberSet.contains members element)) []
      anyResult :=
  .perform vouched (asks_contains members element.known_univ) trivial

theorem creates_requestKey?
    (vouched : session.VouchedBy created)
    (value : Value) :
    Creates created session (perform value.requestKey?) [] anyResult :=
  .perform vouched (asks_requestKey? value.known_univ) trivial

/-! ## Literals -/

variable [HostFunctions]

/-- The literal of a closure creates the closure that it stands for, unless it
names an environment that is not there. -/
theorem Literal.creates_closure
    (vouched : session.VouchedBy created)
    (params : List String)
    (body : Body)
    (environment : Option String) :
    Creates created session (Literal.closure params body environment).eval
      (session.closureFrom (Literal.closure params body environment).eval)
      fun later value => value.Vouched later := by
  have creates {after : Session Recompute}
      (afterVouched : after.VouchedBy created)
      (scope : ScopeId) :=
    (creates_newClosure afterVouched params body scope).bind_quiet
      fun _ _ vouched closureVouched => .pure vouched closureVouched
  cases environment with
  | none =>
      have scopesVouched : Session.VouchedBy
          { session with scopes := session.scopes.create.2 } created :=
        ⟨vouched.codes_eq, vouched.code_eq, vouched.values,
          vouched.scopes.create⟩
      exact .bind_ran rfl (creates scopesVouched _)
  | some environment =>
      have named := run_environmentNamed session environment
      rw [Literal.eval, closureFrom, ExceptT.run_bind, StateT.run_bind, named]
      cases found : session.environments.get? environment with
      | none =>
          rw [found] at named
          refine .quiet ?_ ?_ <;>
            rw [ExceptT.run_bind, StateT.run_bind, named]
          · exact vouched
          · intro value failed
            cases failed
      | some id =>
          rw [found] at named
          exact .bind_ran named (creates vouched id)

-- The recursion follows the evaluator: a literal, a list of literals, a list of
-- pairs of literals.
mutual

/-- Building the value of a literal. -/
theorem Literal.creates_eval
    {created : List Closure}
    {session : Session Recompute}
    (vouched : session.VouchedBy created)
    (literal : Literal) :
    Creates created session literal.eval (literal.created session)
      fun later value => value.Vouched later := by
  match literal with
  | .null => exact .pure vouched .null
  | .bool value => exact .pure vouched (.atom _)
  | .int value => exact .pure vouched (.atom _)
  | .text content =>
      refine (creates_newText vouched content).bind_quiet ?_
      intro _ _ text _ vouched _
      exact .pure vouched (.atom _)
  | .array items =>
      refine (Literal.creates_evalAll vouched items).bind_quiet ?_
      intro _ _ values _ vouched valuesVouched
      exact .pure vouched (.array valuesVouched)
  | .hash pairs =>
      refine (Literal.creates_evalPairs vouched pairs).bind_quiet ?_
      intro _ _ pairs _ vouched pairsVouched
      exact creates_ofPairs vouched pairsVouched
  | .set elements =>
      refine (Literal.creates_evalAll vouched elements).bind_quiet ?_
      intro _ _ elements _ vouched _
      exact creates_ofElements vouched elements
  | .returned value =>
      refine (Literal.creates_eval vouched value).bind_quiet ?_
      intro _ _ value _ vouched valueVouched
      exact .pure vouched (.returned valueVouched)
  | .failure reason => exact .pure vouched (.failure reason)
  | .builtin name =>
      unfold Literal.eval
      split
      next value found =>
        obtain ⟨builtin, _, rfl⟩ := Option.map_eq_some_iff.mp found
        exact .pure vouched (.builtin builtin)
      next => exact .throw vouched _
  | .native name => exact .pure vouched (.builtin _)
  | .closure params body environment =>
      exact Literal.creates_closure vouched params body environment
  | .ref name => exact creates_valueNamed vouched name

/-- Building the values of some literals. -/
theorem Literal.creates_evalAll
    {created : List Closure}
    {session : Session Recompute}
    (vouched : session.VouchedBy created)
    (literals : List Literal) :
    Creates created session (Literal.evalAll literals)
      (Literal.createdAll literals session) VouchedItems := by
  match literals with
  | [] => exact .pure vouched (List.forall_mem_nil _)
  | literal :: rest =>
      refine (Literal.creates_eval vouched literal).bind ?_
      intro _ _ value _ vouched valueVouched
      refine (Literal.creates_evalAll vouched rest).bind_quiet ?_
      intro _ _ values grows vouched valuesVouched
      exact .pure vouched (List.forall_mem_cons.mpr
        ⟨valueVouched.grows grows, valuesVouched⟩)

/-- Building the values of some pairs of literals. -/
theorem Literal.creates_evalPairs
    {created : List Closure}
    {session : Session Recompute}
    (vouched : session.VouchedBy created)
    (pairs : List (Literal × Literal)) :
    Creates created session (Literal.evalPairs pairs)
      (Literal.createdPairs pairs session) VouchedPairs := by
  match pairs with
  | [] => exact .pure vouched (List.forall_mem_nil _)
  | (key, value) :: rest =>
      refine (Literal.creates_eval vouched key).bind ?_
      intro _ _ key _ vouched keyVouched
      refine (Literal.creates_eval vouched value).bind ?_
      intro _ _ value grows vouched valueVouched
      have keyVouched := keyVouched.grows grows
      refine (Literal.creates_evalPairs vouched rest).bind_quiet ?_
      intro _ _ values grows vouched restVouched
      exact .pure vouched (List.forall_mem_cons.mpr
        ⟨⟨keyVouched.grows grows, valueVouched.grows grows⟩, restVouched⟩)

end

/-! ## Expressions -/

/-- Evaluating an expression. -/
theorem Expression.creates_eval
    (vouched : session.VouchedBy created)
    (expression : Expression) :
    Creates created session expression.eval (expression.created session)
      VouchedOutcome := by
  cases expression with
  | literal value =>
      refine (Literal.creates_eval vouched value).bind ?_
      intro _ _ value _ vouched valueVouched
      exact .pure vouched (yields_ok valueVouched)
  | call name arguments =>
      refine (Literal.creates_evalAll vouched arguments).bind_quiet ?_
      intro _ _ arguments _ vouched argumentsVouched
      refine (creates_preludeCall vouched name argumentsVouched).bind_quiet ?_
      intro _ _ found _ vouched foundVouched
      exact .pure vouched (yields_ofOption foundVouched)
  | apply callee arguments =>
      refine (Literal.creates_eval vouched callee).bind ?_
      intro _ _ callee _ vouched _
      refine (Literal.creates_evalAll vouched arguments).bind_quiet ?_
      intro _ _ arguments _ vouched argumentsVouched
      cases callee with
      | builtin builtin =>
          refine (creates_call vouched argumentsVouched).bind_quiet ?_
          intro _ _ value _ vouched valueVouched
          exact .pure vouched (yields_ok valueVouched)
      | _ => exact .pure vouched (yields_error _)
  | unwrap value =>
      refine (Literal.creates_eval vouched value).bind ?_
      intro later _ value _ vouched valueVouched
      exact .pure vouched (yields_ok
        ((Value.Vouched.hereditary later).unwrapReturn valueVouched))
  | assign environment name value =>
      refine (creates_environmentNamed vouched environment).bind ?_
      intro _ _ id _ vouched _
      refine (Literal.creates_eval vouched value).bind ?_
      intro _ _ value _ vouched valueVouched
      refine (creates_bindInScope vouched valueVouched id name).bind_quiet ?_
      intro _ _ _ grows vouched _
      exact .pure vouched (yields_ok (valueVouched.grows grows))
  | lookup environment name =>
      refine (creates_environmentNamed vouched environment).bind_quiet ?_
      intro _ _ id _ vouched _
      refine .bind_get (.pure vouched (yields_ofOption ?_))
      exact fun value found => vouched.scopes.lookup found
  | resolve environment name =>
      refine (creates_environmentNamed vouched environment).bind_quiet ?_
      intro _ _ id _ vouched _
      refine .bind_get (.pure vouched (yields_ofOption ?_))
      exact fun value found => vouched.scopes.resolve
        (fun _ function _ => .builtin function) found
  | withParams closure params =>
      refine (Literal.creates_eval vouched closure).bind ?_
      intro _ _ closure _ vouched closureVouched
      cases closureVouched with
      | closure member descends =>
          exact .pure vouched
            (yields_ok (.closure member (descends.withParams params)))
      | _ => exact .pure vouched (yields_error _)
  | withElement collection element =>
      refine (Literal.creates_eval vouched collection).bind ?_
      intro _ _ collection _ vouched collectionVouched
      refine (Literal.creates_eval vouched element).bind ?_
      intro _ _ element grows vouched _
      have collectionVouched := collectionVouched.grows grows
      cases collection with
      | set members =>
          have adds := creates_withElement vouched collectionVouched element
          refine adds.bind_quiet ?_
          intro _ _ outcome _ vouched extendedVouched
          cases outcome with
          | ok extended =>
              exact .pure vouched (yields_ok (extendedVouched extended rfl))
          | error rejected => exact .pure vouched (yields_error _)
      | _ => exact .pure vouched (yields_error _)
  | union left right =>
      refine (Literal.creates_eval vouched left).bind ?_
      intro _ _ left _ vouched leftVouched
      refine (Literal.creates_eval vouched right).bind ?_
      intro later _ right grows vouched rightVouched
      have leftVouched := leftVouched.grows grows
      cases left with
      | set left =>
          cases right with
          | set right =>
              exact .pure vouched (yields_ok
                ((Value.Vouched.hereditary later).union leftVouched
                  rightVouched))
          | _ => exact .pure vouched (yields_error _)
      | _ => exact .pure vouched (yields_error _)
  | hashGet collection key =>
      refine (Literal.creates_eval vouched collection).bind ?_
      intro _ _ collection _ vouched collectionVouched
      refine (Literal.creates_eval vouched key).bind ?_
      intro _ _ key grows vouched _
      have collectionVouched := collectionVouched.grows grows
      cases collection with
      | hash pairs =>
          refine (creates_hashLookup vouched collectionVouched
            key).bind_quiet ?_
          intro _ _ found _ vouched foundVouched
          exact .pure vouched (yields_ofOption foundVouched)
      | _ => exact .pure vouched (yields_error _)

/-! ## Observations -/

/-- A value that an answer gives is vouched for. -/
def VouchedAnswer (created : List Closure) (answer : Answer) : Prop :=
  ∀ value, answer = .value value -> value.Vouched created

/-- Making an observation. It gives no value. -/
theorem Observation.creates_observe
    (vouched : session.VouchedBy created)
    (observation : Observation) :
    Creates created session observation.observe
      (Literal.createdAll observation.literals session) VouchedAnswer := by
  cases observation with
  | contains collection element =>
      refine (Literal.creates_eval vouched collection).bind ?_
      intro _ _ collection _ vouched _
      refine (Literal.creates_eval vouched element).bind ?_
      intro _ _ element _ vouched _
      cases collection with
      | set members =>
          refine (creates_contains vouched members element).bind_quiet ?_
          intro _ _ present _ vouched _
          exact .pure vouched nofun
      | _ => exact .pure vouched nofun
  | display value =>
      refine (Literal.creates_eval vouched value).bind ?_
      intro _ _ value _ vouched _
      exact .pure vouched nofun
  | debug value =>
      refine (Literal.creates_eval vouched value).bind ?_
      intro _ _ value _ vouched _
      exact .pure vouched nofun
  | key value =>
      refine (Literal.creates_eval vouched value).bind ?_
      intro _ _ value _ vouched _
      refine (creates_requestKey? vouched value).bind_quiet ?_
      intro _ _ key _ vouched _
      exact .pure vouched nofun
  | cached text =>
      refine (Literal.creates_eval vouched text).bind ?_
      intro _ _ value _ vouched _
      cases value with
      | atom atom =>
          cases atom with
          | text text => exact .bind_get (.pure vouched nofun)
          | _ => exact .pure vouched nofun
      | _ => exact .pure vouched nofun
  | equal left right =>
      refine (Literal.creates_eval vouched left).bind ?_
      intro _ _ left _ vouched _
      refine (Literal.creates_eval vouched right).bind ?_
      intro _ _ right _ vouched _
      exact .pure vouched nofun
  | captured => exact .bind_get (.pure vouched nofun)
  | reset =>
      have resets : Creates created session
          (modify fun session => { session with sink := session.sink.reset })
          [] anyResult :=
        .update (vouched.unchanged rfl rfl rfl)
      refine resets.bind_quiet ?_
      intro _ _ _ _ vouched _
      exact .bind_get (.pure vouched nofun)
  | environment name =>
      refine (creates_environmentNamed vouched name).bind_quiet ?_
      intro _ _ id _ vouched _
      exact .bind_get (.pure vouched nofun)
  | sameEnvironment left right =>
      refine (creates_environmentNamed vouched left).bind_quiet ?_
      intro _ _ left _ vouched _
      refine (creates_environmentNamed vouched right).bind_quiet ?_
      intro _ _ right _ vouched _
      exact .pure vouched nofun

/-! ## Steps -/

/-- Finding or creating an environment. -/
theorem Origin.creates_scope
    (vouched : session.VouchedBy created)
    (origin : Origin) :
    Creates created session origin.scope (origin.created session)
      anyResult := by
  cases origin with
  | new =>
      refine (creates_newScope vouched).bind_quiet ?_
      intro _ _ id _ vouched _
      exact .pure vouched trivial
  | enclosed outer =>
      refine (creates_environmentNamed vouched outer).bind_quiet ?_
      intro _ _ outer _ vouched _
      refine (creates_encloseScope vouched outer).bind_quiet ?_
      intro _ _ id _ vouched _
      exact .pure vouched trivial
  | captured closure =>
      refine (Literal.creates_eval vouched closure).bind_quiet ?_
      intro _ _ closure _ vouched _
      cases closure <;> exact .pure vouched trivial

namespace Step

/-- Carrying out a step. -/
theorem creates_run
    (vouched : session.VouchedBy created)
    (step : Step) :
    Creates created session step.run (step.created session) VouchedAnswer := by
  cases step with
  | evaluate expression name =>
      refine (expression.creates_eval vouched).bind_quiet ?_
      intro _ _ outcome _ vouched outcomeVouched
      cases outcome with
      | error reason => exact .pure vouched nofun
      | ok value =>
          have valueVouched := outcomeVouched value rfl
          cases name with
          | none =>
              refine .pure vouched ?_
              rintro _ ⟨⟩
              exact valueVouched
          | some name =>
              have names := creates_nameValue vouched valueVouched name
              refine names.bind_quiet ?_
              intro _ _ _ grows vouched _
              refine .pure vouched ?_
              rintro _ ⟨⟩
              exact valueVouched.grows grows
  | observe observation => exact observation.creates_observe vouched
  | openEnvironment origin name =>
      refine (origin.creates_scope vouched).bind_quiet ?_
      intro _ _ outcome _ vouched _
      cases outcome with
      | error reason => exact .pure vouched nofun
      | ok id =>
          refine (creates_nameEnvironment vouched name id).bind_quiet ?_
          intro _ _ _ _ vouched _
          exact .bind_get (.pure vouched nofun)

/-- Carrying out some steps: the closures that the steps create, one step after
the other, vouch for what is held in the end. -/
theorem creates_runAll
    (vouched : session.VouchedBy created)
    (steps : List Step) :
    Creates created session (runAll steps) (createdAll steps session)
      fun later answers => ∀ answer ∈ answers, VouchedAnswer later answer := by
  induction steps generalizing created session with
  | nil => exact .pure vouched (List.forall_mem_nil _)
  | cons step rest inductionHypothesis =>
      refine (step.creates_run vouched).bind ?_
      intro _ _ answer _ vouched answerVouched
      refine (inductionHypothesis vouched).bind_quiet ?_
      intro _ _ answers grows vouched answersVouched
      refine .pure vouched (List.forall_mem_cons.mpr ⟨?_, answersVouched⟩)
      exact fun value isValue => (answerVouched value isValue).grows grows

end Step
end Monkey
