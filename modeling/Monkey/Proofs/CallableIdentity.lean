import Monkey.Proofs.Provenance

/-!
# Identity of callables

Equality of callables reads less than calling them does: builtins are compared
by name and closures by body and scope. A call of a builtin reads the operation and
not the name. The name determines the operation as long as the builtin comes from
the prelude, where every name occurs once; a native function may be given any name.
The body and the scope of a closure determine everything but its parameters, which a
copy may replace.
-/

namespace Monkey

section

variable [Embedding]

open Session

/-! ## Builtins -/

namespace Builtin

theorem beq_iff (left right : Builtin) :
    (left == right) = true ↔ left.name = right.name := by
  change (left.name == right.name) = true ↔ _
  exact beq_iff_eq

/-- Equal builtins are the same if the prelude has both. -/
theorem eq_of_beq
    {left right : Builtin}
    (equal : (left == right) = true)
    (leftFound : Prelude.get? left.name = some left)
    (rightFound : Prelude.get? right.name = some right) :
    left = right := by
  rw [(beq_iff left right).mp equal, rightFound] at leftFound
  exact (Option.some.inj leftFound).symm

section Calls

variable {σ : Type} [KeySource σ] [LineSink σ] [HostCalls σ]

/-- What a builtin does when it is called does not depend on its name. -/
theorem call_eq_of_operation_eq
    {left right : Builtin}
    (sameOperation : left.operation = right.operation)
    (arguments : List Value) :
    (left.call arguments : StateM σ Value) = right.call arguments := by
  unfold call
  rw [sameOperation]

/-- Calling a native function through a builtin is calling it: the answer and
everything that it does to the state are its own. -/
theorem call_eq_of_host
    {builtin : Builtin}
    {function : HostFunction}
    (native : builtin.operation = .host function)
    (arguments : List Value) :
    (builtin.call arguments : StateM σ Value) =
      HostCalls.call function arguments := by
  have performed : (builtin.operation.perform arguments :
      ExceptT Fault (StateM σ) Value).run =
        Except.ok <$> HostCalls.call function arguments := by
    rw [native]
    rfl
  unfold call
  rw [performed, bind_map_left]
  exact bind_pure _

end Calls

end Builtin

/-! ## Callables -/

variable [HostFunctions]

/-- Equal callables are interchangeable as far as their names or their bodies go.
Builtins of the prelude that are equal are the same, and so are their calls in every
state, the answers and what is written. Whatever their names are, builtins of one
operation make the same calls in every state, and if they were made of one native
function the calls are those of the function, which may do to the state what it
likes. Equal closures of a run have one body and one scope, and they are the same
closure, parameters included, as long as neither had its parameters replaced. -/
theorem equal_callables_are_interchangeable
    (sink : Sink)
    (steps : List Step) :
    let run : Run Memo := Step.runFrom (.start {} sink) steps
    let created := Step.createdAll steps (.start {} sink)
    (∀ (σ : Type) [KeySource σ] [LineSink σ] [HostCalls σ],
      ∀ left right : Builtin,
        ((left == right) = true ->
          Prelude.get? left.name = some left ->
          Prelude.get? right.name = some right ->
            left = right ∧ ∀ arguments,
              (left.call arguments : StateM σ Value) = right.call arguments) ∧
        (left.operation = right.operation -> ∀ arguments,
          (left.call arguments : StateM σ Value) = right.call arguments) ∧
        ∀ function, left.operation = .host function ->
          right.operation = .host function -> ∀ arguments,
            (left.call arguments : StateM σ Value) =
                HostCalls.call function arguments ∧
              (right.call arguments : StateM σ Value) =
                HostCalls.call function arguments) ∧
    ∀ function other : Closure,
      run.Holds (.closure function) -> run.Holds (.closure other) ->
        (function == other) = true ->
          function.body = other.body ∧ function.scope = other.scope ∧
          (function ∈ created -> other ∈ created -> function = other) := by
  intro run created
  refine ⟨?_, ?_⟩
  case refine_1 =>
    intro σ _ _ _ left right
    refine ⟨?_, Builtin.call_eq_of_operation_eq, ?_⟩
    · intro equal leftFound rightFound
      obtain rfl := Builtin.eq_of_beq equal leftFound rightFound
      exact ⟨rfl, fun _ => rfl⟩
    · intro function leftNative rightNative arguments
      exact ⟨Builtin.call_eq_of_host leftNative arguments,
        Builtin.call_eq_of_host rightNative arguments⟩
  case refine_2 =>
    intro function other held otherHeld equal
    obtain ⟨sameCode, sameScope⟩ := (Closure.beq_iff _ _).mp equal
    have eq := Closure.eq_withParams_of_code_eq held otherHeld sameCode
    refine ⟨by rw [eq]; rfl, sameScope, ?_⟩
    intro member otherMember
    obtain ⟨place, found⟩ := List.mem_iff_getElem?.mp member
    obtain ⟨otherPlace, otherFound⟩ := List.mem_iff_getElem?.mp otherMember
    -- Created closures of one code were created at one place.
    have samePlace : place = otherPlace := by
      rw [← Step.code_of_createdAll found, ← Step.code_of_createdAll otherFound]
      exact sameCode
    rw [samePlace, otherFound] at found
    exact (Option.some.inj found).symm

end

/-- A builtin of the prelude that was found twice, two names of one native function,
which counts its calls among the created bodies of a session, and a closure with a
copy under another parameter name. -/
theorem equal_callables_are_interchangeable_of_copies :
    let steps : List Step :=
      [.evaluate (.literal (.builtin "puts")) (some "print"),
        .evaluate (.literal (.closure ["x"] (.int 1) none)) (some "function"),
        .evaluate (.withParams (.ref "function") ["y"]) (some "renamed")]
    let run : Run Memo := Step.runFrom (.start {} .discard) steps
    let _counting : HostCalls (Session Memo) :=
      ⟨fun _ _ session => (.ofCount session.codes,
        { session with codes := session.codes + 1 })⟩
    let print : Builtin := ⟨"puts", .puts⟩
    let count : Builtin := ⟨"count", .host .countArguments⟩
    let tally : Builtin := ⟨"tally", .host .countArguments⟩
    let function : Closure := ⟨["x"], .int 1, 0, 0⟩
    let renamed : Closure := ⟨["y"], .int 1, 0, 0⟩
    (∃ found, Prelude.get? "puts" = some found ∧ (found == print) = true ∧
      found = print ∧
      ∀ arguments, (found.call arguments : StateM (Session Memo) Value) =
        print.call arguments) ∧
      (∀ session : Session Memo,
        (count.call []).run session = (tally.call []).run session ∧
        (count.call []).run session = (.ofCount session.codes,
          { session with codes := session.codes + 1 })) ∧
      run.Holds (.closure function) ∧ run.Holds (.closure renamed) ∧
      (function == renamed) = true ∧ function.body = renamed.body ∧
      function.scope = renamed.scope ∧ function.params ≠ renamed.params := by
  intro steps run _counting print count tally function renamed
  have functionHeld : run.Holds (.closure function) :=
    @Run.Holds.named _ _ run "function" _ rfl
  have renamedHeld : run.Holds (.closure renamed) :=
    @Run.Holds.named _ _ run "renamed" _ rfl
  obtain ⟨builtins, closures⟩ :=
    equal_callables_are_interchangeable .discard steps
  have printFound : Prelude.get? print.name = some print := rfl
  obtain ⟨samePrint, sameCalls⟩ :=
    (builtins (Session Memo) print print).1 rfl printFound printFound
  obtain ⟨-, sameCount, native⟩ := builtins (Session Memo) count tally
  obtain ⟨sameBody, sameScope, _⟩ :=
    closures function renamed functionHeld renamedHeld rfl
  refine ⟨⟨print, printFound, rfl, samePrint, sameCalls⟩, ?_, functionHeld,
    renamedHeld, rfl, sameBody, sameScope, by decide⟩
  intro session
  refine ⟨by rw [sameCount rfl], ?_⟩
  rw [(native .countArguments rfl rfl []).1]
  rfl

/-- Equality of names does not decide what builtins answer: the host may give a
native function the name of a builtin of the prelude. Two calls of one builtin in a
row need not answer the same, since a native function may count them. Equality of
closures does not decide their parameters, since a copy may name them otherwise. -/
theorem not_equal_callables_are_interchangeable :
    (¬∀ left right : Builtin, (left == right) = true ->
      ∀ (session : Session Memo) (arguments : List Value),
        (((left.call arguments).run session).1 ==
          ((right.call arguments).run session).1) = true) ∧
      (¬∀ (σ : Type) [KeySource σ] [LineSink σ] [HostCalls σ],
        ∀ left right : Builtin, (left == right) = true ->
          left.operation = right.operation ->
            ∀ (state : σ) (arguments : List Value),
              let (answer, later) := (left.call arguments).run state
              (answer == ((right.call arguments).run later).1) = true) ∧
      ¬∀ (sink : Sink) (steps : List Step) (function other : Closure),
        let run : Run Memo := Step.runFrom (.start {} sink) steps
        run.Holds (.closure function) -> run.Holds (.closure other) ->
          (function == other) = true -> function.params = other.params := by
  refine ⟨?_, ?_, ?_⟩
  · intro interchangeable
    have answers := interchangeable ⟨"len", .len⟩
      ⟨"len", .host .countArguments⟩ rfl (.start {} .discard) [.array []]
    revert answers
    decide
  · intro interchangeable
    let counting : HostCalls (Session Memo) :=
      ⟨fun _ _ session => (.ofCount session.codes,
        { session with codes := session.codes + 1 })⟩
    let count : Builtin := ⟨"count", .host .countArguments⟩
    have answers : ((Value.ofCount 0) == .ofCount 1) = true :=
      interchangeable (Session Memo) count count rfl rfl (.start {} .discard) []
    revert answers
    decide
  · intro sameParams
    let steps : List Step :=
      [.evaluate (.literal (.closure ["x"] (.int 1) none)) (some "function"),
        .evaluate (.withParams (.ref "function") ["y"]) (some "renamed")]
    let run : Run Memo := Step.runFrom (.start {} .discard) steps
    have functionHeld : run.Holds (.closure ⟨["x"], .int 1, 0, 0⟩) :=
      @Run.Holds.named _ _ run "function" _ rfl
    have renamedHeld : run.Holds (.closure ⟨["y"], .int 1, 0, 0⟩) :=
      @Run.Holds.named _ _ run "renamed" _ rfl
    have same := sameParams .discard steps _ _ functionHeld renamedHeld rfl
    revert same
    decide

end Monkey
