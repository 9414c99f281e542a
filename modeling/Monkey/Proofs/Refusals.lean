import Monkey.Proofs.Congruence
import Monkey.Proofs.Lines
import Monkey.Proofs.Scopes

/-!
# What builtins refuse

A builtin of the prelude refuses arguments for one of three reasons: there are
too few or too many of them, one that it inspects is of a kind that it does not
accept, or what it is to push onto a set has no key. The reasons count in this
order, and `Builtin.refusal?` computes the failure that a program then sees.
Everything else is answered; a failure among the answers was data before.
-/

namespace Monkey

section

variable [Embedding]

/-- What a program sees of an outcome. -/
def Value.ofOutcome : Except Fault Value -> Value
  | .ok value => value
  | .error fault => .ofFault fault

namespace Operation

/-! ## What operations accept -/

/-- The name of an operation of the library, under which programs know it. -/
def ownName? : Operation -> Option String
  | .len => some "len"
  | .first => some "first"
  | .last => some "last"
  | .rest => some "rest"
  | .push => some "push"
  | .union => some "union"
  | .puts => some "puts"
  | .host _ => none

/-- How many arguments an operation wants, if their number matters. -/
def arity? : Operation -> Option Nat
  | .len | .first | .last | .rest => some 1
  | .push | .union => some 2
  | .puts | .host _ => none

/-- The kinds that an operation accepts, for each argument that it inspects. -/
def acceptedKinds : Operation -> List (List Kind)
  | .len => [[.string, .array, .hash, .set]]
  | .first | .last | .rest => [[.array]]
  | .push => [[.array, .set]]
  | .union => [[.set], [.set]]
  | .puts | .host _ => []

/-- What is said about an argument that an operation does not accept. -/
def complaint : Operation -> String
  | .len => "not supported"
  | .first | .last | .rest => "must be ARRAY"
  | .push => "must be ARRAY or SET"
  | .union => "must be SET"
  | .puts | .host _ => ""

/-- The kind of the first argument that is inspected and not accepted. -/
def unacceptedKind? (operation : Operation) (arguments : List Value) :
    Option Kind :=
  ((operation.acceptedKinds.zip (arguments.map Value.kind)).find?
    fun (accepted, kind) => !accepted.contains kind).map Prod.snd

/-- The failure that an operation takes out of an end of an array. -/
def storedFailure? : Operation -> List Value -> Option Failure
  | .first, [.array items] => items.head?.bind Value.asFailure?
  | .last, [.array items] => items.getLast?.bind Value.asFailure?
  | _, _ => none

end Operation

namespace Builtin

/-! ## Reasons to refuse -/

/-- The refusal of too few or too many arguments. -/
def wrongCount? (builtin : Builtin) (arguments : List Value) :
    Option Failure :=
  (builtin.operation.arity?.filter (arguments.length != ·)).map fun want =>
    ⟨.arity, "wrong number of arguments. got=" ++
      toString arguments.length ++ ", want=" ++ toString want⟩

/-- The refusal of the first argument of a kind that is not accepted. -/
def wrongKind? (builtin : Builtin) (arguments : List Value) :
    Option Failure :=
  (builtin.operation.unacceptedKind? arguments).map fun kind =>
    ⟨.type, "argument to `" ++ builtin.name ++ "` " ++
      builtin.operation.complaint ++ ", got " ++ kind.name⟩

/-- The refusal of a value without a key that is to be pushed onto a set. -/
def wrongElement? (builtin : Builtin) (arguments : List Value) :
    Option Failure :=
  match builtin.operation, arguments with
  | .push, [.set _, element] =>
      if element.kind.isHashable then none
      else some ⟨.unsupported, "unusable as hash key: " ++ element.kind.name⟩
  | _, _ => none

/-- The failure by which a builtin refuses some arguments. -/
def refusal? (builtin : Builtin) (arguments : List Value) : Option Failure :=
  (builtin.wrongCount? arguments).or
    ((builtin.wrongKind? arguments).or (builtin.wrongElement? arguments))

/-- The failure that reports the fault of an outcome. -/
def reported? : Except Fault Value -> Option Failure
  | .ok _ => none
  | .error fault => some fault.failure

/-- An outcome is an error exactly for the reason to refuse, and it is a failure
without an error exactly when that failure was stored. -/
structure Fits
    (builtin : Builtin)
    (arguments : List Value)
    (outcome : Except Fault Value) : Prop where
  reported : reported? outcome = builtin.refusal? arguments
  stored :
    outcome.toOption.bind Value.asFailure? =
      builtin.operation.storedFailure? arguments

namespace Fits

variable {builtin : Builtin} {arguments : List Value}
variable {outcome : Except Fault Value}

/-- What fits is an error exactly when it is refused. -/
theorem error_iff
    (fits : builtin.Fits arguments outcome)
    (reason : Failure) :
    (∃ fault, outcome = .error fault ∧ fault.failure = reason) ↔
      builtin.refusal? arguments = some reason := by
  rw [← fits.reported]
  cases outcome <;> simp [reported?]

/-- What fits is a failure without an error exactly when that was stored. -/
theorem ok_failure_iff
    (fits : builtin.Fits arguments outcome)
    (reason : Failure) :
    outcome = .ok (.failure reason) ↔
      builtin.operation.storedFailure? arguments = some reason := by
  rw [← fits.stored]
  cases outcome with
  | error => simp [Except.toOption]
  | ok value => cases value <;> simp [Except.toOption, Value.asFailure?]

end Fits

/-! ## Every builtin fits -/

theorem fits_wrongArgumentCount
    {builtin : Builtin}
    {want : Nat}
    (wants : builtin.operation.arity? = some want)
    {arguments : List Value}
    (wrong : arguments.length ≠ want) :
    Fits builtin arguments
      (.error (.wrongArgumentCount arguments.length want)) where
  reported := by
    have refused : builtin.wrongCount? arguments =
        some (Fault.wrongArgumentCount arguments.length want).failure := by
      rw [wrongCount?, wants, Option.filter_some_pos (by simpa using wrong)]
      rfl
    rw [refusal?, refused, Option.some_or, reported?]
  stored := by
    -- A failure is only taken out of one array, which is the right number.
    unfold Operation.storedFailure?
    split
    next operationEq =>
      rw [operationEq] at wants
      cases wants
      exact absurd rfl wrong
    next operationEq =>
      rw [operationEq] at wants
      cases wants
      exact absurd rfl wrong
    next => rfl

/-- A builtin that wants one argument and counts first fits when it does so for
one argument. -/
theorem fits_of_arity_one
    {builtin : Builtin}
    (wants : builtin.operation.arity? = some 1)
    {answer : List Value -> Except Fault Value}
    (wrongCount : ∀ arguments, arguments.length ≠ 1 ->
      answer arguments = .error (.wrongArgumentCount arguments.length 1))
    (one : ∀ value, builtin.Fits [value] (answer [value]))
    (arguments : List Value) :
    builtin.Fits arguments (answer arguments) := by
  by_cases counted : arguments.length = 1
  · obtain ⟨value, rfl⟩ := List.length_eq_one_iff.mp counted
    exact one value
  · rw [wrongCount arguments counted]
    exact fits_wrongArgumentCount wants counted

theorem fits_len :
    ∀ arguments, Fits ⟨"len", .len⟩ arguments (len arguments) := by
  apply fits_of_arity_one rfl len_of_length_ne
  intro value
  cases value with
  | atom value => cases value <;> exact ⟨rfl, rfl⟩
  | _ => exact ⟨rfl, rfl⟩

theorem fits_first :
    ∀ arguments, Fits ⟨"first", .first⟩ arguments (first arguments) := by
  apply fits_of_arity_one rfl first_of_length_ne
  intro value
  cases value with
  | array items => cases items <;> exact ⟨rfl, rfl⟩
  | atom value => cases value <;> exact ⟨rfl, rfl⟩
  | _ => exact ⟨rfl, rfl⟩

theorem fits_last :
    ∀ arguments, Fits ⟨"last", .last⟩ arguments (last arguments) := by
  apply fits_of_arity_one rfl last_of_length_ne
  intro value
  cases value with
  | array items =>
      refine ⟨rfl, ?_⟩
      change (items.getLast?.getD .null).asFailure? =
        items.getLast?.bind Value.asFailure?
      cases items.getLast? <;> rfl
  | atom value => cases value <;> exact ⟨rfl, rfl⟩
  | _ => exact ⟨rfl, rfl⟩

theorem fits_rest :
    ∀ arguments, Fits ⟨"rest", .rest⟩ arguments (rest arguments) := by
  apply fits_of_arity_one rfl rest_of_length_ne
  intro value
  cases value with
  | array items => cases items <;> exact ⟨rfl, rfl⟩
  | atom value => cases value <;> exact ⟨rfl, rfl⟩
  | _ => exact ⟨rfl, rfl⟩

theorem fits_union (arguments : List Value) :
    Fits ⟨"union", .union⟩ arguments (union arguments) := by
  by_cases two : arguments.length = 2
  · obtain ⟨left, right, rfl⟩ := List.length_eq_two.mp two
    cases left with
    | set =>
        cases right with
        | atom value => cases value <;> exact ⟨rfl, rfl⟩
        | _ => exact ⟨rfl, rfl⟩
    | atom value => cases value <;> exact ⟨rfl, rfl⟩
    | _ => exact ⟨rfl, rfl⟩
  · rw [union_of_length_ne arguments two]
    exact fits_wrongArgumentCount rfl two

section State

variable {σ : Type} [KeySource σ]

/-- Whatever the key source answers, only the kind of what is pushed onto a set
decides whether it is refused. -/
theorem fits_push (arguments : List Value) (state : σ) :
    Fits ⟨"push", .push⟩ arguments
      ((push arguments : ExceptT Fault (StateM σ) Value).run.run state).1 := by
  by_cases two : arguments.length = 2
  · obtain ⟨collection, element, rfl⟩ := List.length_eq_two.mp two
    cases collection with
    | set =>
        cases element with
        | atom value => cases value <;> exact ⟨rfl, rfl⟩
        | _ => exact ⟨rfl, rfl⟩
    | atom value => cases value <;> exact ⟨rfl, rfl⟩
    | _ => exact ⟨rfl, rfl⟩
  · rw [push_of_length_ne arguments two]
    exact fits_wrongArgumentCount rfl two

omit [KeySource σ] in
/-- An operation that needs no state has its outcome in every state. -/
theorem fits_liftExcept
    {builtin : Builtin}
    {arguments : List Value}
    {outcome : Except Fault Value}
    (fits : builtin.Fits arguments outcome)
    (state : σ) :
    builtin.Fits arguments
      ((liftExcept outcome : ExceptT Fault (StateM σ) Value).run.run
        state).1 := by
  cases outcome <;> exact fits

omit [KeySource σ] in
/-- Output answers with null. -/
theorem fst_run_puts
    [LineSink σ]
    (arguments : List Value)
    (state : σ) :
    ((puts arguments).run state).1 = .null :=
  congrArg Prod.fst (run_puts_eq arguments state)

/-- Every builtin of the prelude fits. -/
theorem fits_perform
    [LineSink σ]
    [HostCalls σ]
    {name : String}
    {builtin : Builtin}
    (found : Prelude.get? name = some builtin)
    (arguments : List Value)
    (state : σ) :
    builtin.Fits arguments
      ((builtin.operation.perform arguments :
        ExceptT Fault (StateM σ) Value).run.run state).1 := by
  have member := Prelude.mem_operations_of_get? found
  obtain ⟨operation, _, rfl⟩ := Option.map_eq_some_iff.mp found
  simp only [Prelude.operations, List.mem_cons, Prod.mk.injEq,
    List.not_mem_nil, or_false] at member
  rcases member with ⟨rfl, rfl⟩ | ⟨rfl, rfl⟩ | ⟨rfl, rfl⟩ | ⟨rfl, rfl⟩ |
    ⟨rfl, rfl⟩ | ⟨rfl, rfl⟩ | ⟨rfl, rfl⟩
  · exact fits_liftExcept (fits_len arguments) state
  · exact fits_liftExcept (fits_first arguments) state
  · exact fits_liftExcept (fits_last arguments) state
  · exact fits_liftExcept (fits_rest arguments) state
  · exact fits_push arguments state
  · exact fits_liftExcept (fits_union arguments) state
  · refine ⟨rfl, ?_⟩
    change ((puts arguments).run state).1.asFailure? = none
    rw [fst_run_puts]
    rfl

omit [KeySource σ] in
/-- What the prelude files under a name is the operation with that name. -/
theorem ownName?_of_get?
    {name : String}
    {builtin : Builtin}
    (found : Prelude.get? name = some builtin) :
    builtin.operation.ownName? = some name := by
  have owns : ∀ entry ∈ Prelude.operations,
      entry.2.ownName? = some entry.1 := by
    simp [Prelude.operations, Operation.ownName?]
  exact owns _ (Prelude.mem_operations_of_get? found)

/-- Calling a builtin shows a program the outcome of its operation. -/
theorem fst_run_call
    [LineSink σ]
    [HostCalls σ]
    (builtin : Builtin)
    (arguments : List Value)
    (state : σ) :
    ((builtin.call arguments).run state).1 =
      Value.ofOutcome ((builtin.operation.perform arguments :
        ExceptT Fault (StateM σ) Value).run.run state).1 := by
  unfold call
  rw [StateT.run_bind]
  obtain ⟨outcome, after⟩ := (builtin.operation.perform arguments :
    ExceptT Fault (StateM σ) Value).run.run state
  cases outcome <;> rfl

end State

/-- No builtin raises an error of the kind that programs raise. -/
theorem category_ne_custom_of_refusal?
    {builtin : Builtin}
    {arguments : List Value}
    {reason : Failure}
    (refused : builtin.refusal? arguments = some reason) :
    reason.category ≠ .custom := by
  rw [refusal?, Option.or_eq_some_iff, Option.or_eq_some_iff] at refused
  rcases refused with counted | ⟨_, unaccepted | ⟨_, unusable⟩⟩
  · obtain ⟨want, _, rfl⟩ := Option.map_eq_some_iff.mp counted
    exact nofun
  · obtain ⟨kind, _, rfl⟩ := Option.map_eq_some_iff.mp unaccepted
    exact nofun
  · unfold wrongElement? at unusable
    split at unusable
    next =>
      split at unusable
      next => cases unusable
      next =>
        cases unusable
        exact nofun
    next => cases unusable

end Builtin

/-! ## The prelude -/

/-- Every call of a builtin of the prelude is answered, whatever the arguments
are, what the key source remembers and where lines go, and the builtin performs the
operation that has its name. The outcome is an error exactly when the builtin has a
reason to refuse the arguments, and then it is the first one: their number; the kind
of the first argument that is inspected and not accepted; the kind of a value without
a key that is to be pushed onto a set. An outcome that is no error is a failure
exactly when the failure was taken out of an end of an array. -/
theorem prelude_refuses_exactly
    (σ : Type)
    [KeySource σ]
    [LineSink σ]
    [HostCalls σ]
    {name : String}
    {builtin : Builtin}
    (found : Prelude.get? name = some builtin)
    (arguments : List Value)
    (state : σ) :
    ∃ outcome : Except Fault Value,
      ((builtin.operation.perform arguments :
        ExceptT Fault (StateM σ) Value).run.run state).1 = outcome ∧
      ((Prelude.call name arguments : StateM σ (Option Value)).run state).1 =
        some (Value.ofOutcome outcome) ∧
      builtin.name = name ∧ builtin.operation.ownName? = some name ∧
      (∀ reason, (∃ fault, outcome = .error fault ∧ fault.failure = reason) ↔
        builtin.refusal? arguments = some reason) ∧
      (∀ reason, outcome = .ok (.failure reason) ↔
        builtin.operation.storedFailure? arguments = some reason) ∧
      (∀ reason, builtin.refusal? arguments = some reason ->
        reason.category ≠ .custom) ∧
      (name = "puts" -> outcome = .ok .null) := by
  have fits := Builtin.fits_perform found arguments state
  have nameEq : builtin.name = name := by
    obtain ⟨operation, _, rfl⟩ := Option.map_eq_some_iff.mp found
    rfl
  refine ⟨_, rfl, ?_, nameEq, Builtin.ownName?_of_get? found, fits.error_iff,
    fits.ok_failure_iff, fun _ => Builtin.category_ne_custom_of_refusal?, ?_⟩
  · unfold Prelude.call
    rw [found]
    exact congrArg some (Builtin.fst_run_call builtin arguments state)
  · rintro rfl
    obtain rfl : ⟨"puts", .puts⟩ = builtin := Option.some.inj found
    exact congrArg Except.ok (Builtin.fst_run_puts arguments state)

end

/-- A call with two wrong arguments names the first one, a wrong number counts
before a wrong kind, what has no key is not pushed, and a failure in an array is
answered and not raised. -/
theorem prelude_refuses_first_reason :
    let session : Session Memo := { keys := {}, scopes := .empty }
    let stored : Failure := ⟨.custom, "raised"⟩
    ((Prelude.call "union" [.int 1, .null]).run session).1 =
        some (.failure
          ⟨.type, "argument to `union` must be SET, got INTEGER"⟩) ∧
      ((Prelude.call "push" [.null]).run session).1 =
        some (.failure
          ⟨.arity, "wrong number of arguments. got=1, want=2"⟩) ∧
      ((Prelude.call "push" [.set Table.empty, .array []]).run session).1 =
        some (.failure ⟨.unsupported, "unusable as hash key: ARRAY"⟩) ∧
      ((Prelude.call "first" [.array [.failure stored]]).run session).1 =
        some (.failure stored) := by
  intro session stored
  have refusedCall {name : String} {builtin : Builtin}
      (found : Prelude.get? name = some builtin)
      {arguments : List Value} {reason : Failure}
      (refusal : builtin.refusal? arguments = some reason) :
      ((Prelude.call name arguments).run session).1 =
        some (.failure reason) := by
    obtain ⟨outcome, _, called, _, _, refused, _⟩ :=
      prelude_refuses_exactly (Session Memo) found arguments session
    obtain ⟨fault, rfl, rfl⟩ := (refused reason).mpr refusal
    exact called
  have unionFound : Prelude.get? "union" = some ⟨"union", .union⟩ := rfl
  have pushFound : Prelude.get? "push" = some ⟨"push", .push⟩ := rfl
  have firstFound : Prelude.get? "first" = some ⟨"first", .first⟩ := rfl
  refine ⟨refusedCall unionFound rfl, refusedCall pushFound rfl,
    refusedCall pushFound rfl, ?_⟩
  obtain ⟨outcome, _, called, _, _, _, taken, _⟩ :=
    prelude_refuses_exactly (Session Memo) firstFound
      [.array [.failure stored]] session
  obtain rfl := (taken stored).mpr rfl
  exact called

end Monkey
