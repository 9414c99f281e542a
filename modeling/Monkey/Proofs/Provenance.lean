import Monkey.Proofs.Memoization
import Monkey.Proofs.StepCreation

/-!
# Provenance of closures

Equality of closures tells where they come from. Whatever way a closure takes
through a run, copied, given other parameter names, stored in arrays, hashes,
return wrappers and scopes and taken out again, it descends from exactly one of
the closures that the run created, and two closures are equal just when they
descend from the same one.
-/

namespace Monkey

section

variable [Embedding] [HostFunctions]

open Session

/-! ## What a run holds -/

omit [HostFunctions] in
/-- Nothing is created yet, and nothing is held. -/
theorem Session.vouchedBy_start (sink : Sink) :
    VouchedBy (.start {} sink) [] where
  codes_eq := rfl
  code_eq := nofun
  values := nofun
  scopes := nofun

/-- The closures that a run creates vouch for everything that it holds, also with
a memo. -/
theorem Run.Holds.vouched
    {sink : Sink}
    {steps : List Step}
    {value : Value}
    (held : Run.Holds (Step.runFrom (.start ({} : Memo) sink) steps) value) :
    value.Vouched (Step.createdAll steps (.start {} sink)) := by
  obtain ⟨ledger, _, accounts⟩ := (Ledger.Accounts.start sink).runFrom steps
  obtain ⟨vouched, answersVouched⟩ :=
    Step.creates_runAll (vouchedBy_start sink) steps
  rw [List.nil_append] at vouched answersVouched
  induction held with
  | named found =>
      rw [accounts.session_eq] at found
      exact vouched.values _ _ found
  | bound scopeFound found =>
      rw [accounts.session_eq] at scopeFound
      exact vouched.scopes _ _ scopeFound _ _ found
  | @answered given value answersEq member =>
      have agree := accounts.answers
      rw [answersEq] at agree
      cases answered : (Step.runFrom (.start {} sink) steps :
          Run Recompute).1 with
      | error reason =>
          rw [answered] at agree
          cases agree
      | ok others =>
          rw [answered] at agree
          cases agree with
          | ok connected =>
              obtain ⟨other, otherMember, same, _⟩ :=
                exists_right_of_forall₂ connected member
              cases same with
              | same => exact answersVouched _ answered _ otherMember _ rfl
  | part _ inside inductionHypothesis => exact inductionHypothesis.within inside

/-- A created closure has the code of its place. -/
theorem Step.code_of_createdAll
    {sink : Sink}
    {steps : List Step}
    {place : Nat}
    {original : Closure}
    (found : (createdAll steps (.start {} sink))[place]? = some original) :
    original.code = place := by
  obtain ⟨vouched, _⟩ := creates_runAll (vouchedBy_start sink) steps
  rw [List.nil_append] at vouched
  exact vouched.code_eq place original found

/-! ## Descent in a run -/

namespace Closure

omit [HostFunctions] in
theorem beq_iff (left right : Closure) :
    (left == right) = true ↔
      left.code = right.code ∧ left.scope = right.scope := by
  change (left.code == right.code && left.scope == right.scope) = true ↔ _
  rw [Bool.and_eq_true, beq_iff_eq, beq_iff_eq]

/-- A closure descends from the one that a call created, the calls being counted
from zero. -/
def DescendsFromCall
    (function : Closure)
    (created : List Closure)
    (call : Nat) : Prop :=
  ∃ original, created[call]? = some original ∧ function.DescendsFrom original

variable {sink : Sink} {steps : List Step} {function other : Closure}

/-- The code of a closure says from which call it descends. -/
theorem DescendsFromCall.code_eq
    {call : Nat}
    (descends : function.DescendsFromCall
      (Step.createdAll steps (.start {} sink)) call) :
    function.code = call := by
  obtain ⟨original, found, descends⟩ := descends
  rw [descends.eq_withParams]
  change original.code = call
  exact Step.code_of_createdAll found

/-- A held closure descends from the call that its code says. -/
theorem descendsFromCall_code
    (held : Run.Holds (Step.runFrom (.start ({} : Memo) sink) steps)
      (.closure function)) :
    function.DescendsFromCall (Step.createdAll steps (.start {} sink))
      function.code := by
  cases held.vouched with
  | @closure _ original member descends =>
      obtain ⟨place, found⟩ := List.mem_iff_getElem?.mp member
      have descendsFrom : function.DescendsFromCall _ place :=
        ⟨original, found, descends⟩
      rw [descendsFrom.code_eq]
      exact descendsFrom

omit [HostFunctions] in
/-- Closures that descend from one call differ in their parameters and in nothing
else. -/
theorem DescendsFromCall.eq_withParams
    {created : List Closure}
    {call : Nat}
    (descends : function.DescendsFromCall created call)
    (otherDescends : other.DescendsFromCall created call) :
    function = other.withParams function.params := by
  obtain ⟨original, found, descends⟩ := descends
  obtain ⟨otherOriginal, otherFound, otherDescends⟩ := otherDescends
  obtain rfl : original = otherOriginal :=
    Option.some.inj (found.symm.trans otherFound)
  rw [otherDescends.eq_withParams]
  exact descends.eq_withParams

/-- Held closures that share an allocated body differ in their parameters and in
nothing else. -/
theorem eq_withParams_of_code_eq
    (held : Run.Holds (Step.runFrom (.start ({} : Memo) sink) steps)
      (.closure function))
    (otherHeld : Run.Holds (Step.runFrom (.start ({} : Memo) sink) steps)
      (.closure other))
    (sameCode : function.code = other.code) :
    function = other.withParams function.params := by
  have otherDescends := descendsFromCall_code otherHeld
  rw [← sameCode] at otherDescends
  exact (descendsFromCall_code held).eq_withParams otherDescends

end Closure

/-! ## Equality is provenance -/

/-- Equality of closures is provenance. Every closure that a run holds descends
from exactly one of the calls that created closures, and two of them are equal
just when they descend from the same call; closures of different calls are never
equal, whatever parameters, body and scope the calls were given. Closures that
share an allocated body share the scope and the content of the body, so that
comparing scopes decides nothing. -/
theorem closure_equality_is_provenance (sink : Sink) (steps : List Step) :
    let run : Run Memo := Step.runFrom (.start {} sink) steps
    let created := Step.createdAll steps (.start {} sink)
    (∀ function, run.Holds (.closure function) ->
      ∃! call, function.DescendsFromCall created call) ∧
    (∀ function other,
      run.Holds (.closure function) -> run.Holds (.closure other) ->
        ((function == other) = true ↔
          ∃ call, function.DescendsFromCall created call ∧
            other.DescendsFromCall created call)) ∧
    (∀ call otherCall : Nat, call ≠ otherCall ->
      ∀ function other : Closure, function.DescendsFromCall created call ->
        other.DescendsFromCall created otherCall ->
          (function == other) = false) ∧
    ∀ function other,
      run.Holds (.closure function) -> run.Holds (.closure other) ->
        (function == other) = (function.code == other.code) ∧
        (function.code = other.code ->
          function.scope = other.scope ∧ function.body = other.body) := by
  intro run created
  refine ⟨?_, ?_, ?_, ?_⟩
  case refine_1 =>
    intro function held
    refine ⟨function.code, Closure.descendsFromCall_code held, ?_⟩
    intro call descends
    exact descends.code_eq.symm
  case refine_2 =>
    intro function other held otherHeld
    rw [Closure.beq_iff]
    constructor
    · rintro ⟨sameCode, _⟩
      refine ⟨function.code, Closure.descendsFromCall_code held, ?_⟩
      rw [sameCode]
      exact Closure.descendsFromCall_code otherHeld
    · rintro ⟨call, descends, otherDescends⟩
      have eq := descends.eq_withParams otherDescends
      rw [eq]
      exact ⟨rfl, rfl⟩
  case refine_3 =>
    intro call otherCall different function other descends otherDescends
    refine Bool.eq_false_iff.mpr fun equal => different ?_
    rw [← descends.code_eq, ← otherDescends.code_eq]
    exact ((Closure.beq_iff _ _).mp equal).1
  case refine_4 =>
    intro function other held otherHeld
    refine ⟨?_, ?_⟩
    · rw [Bool.eq_iff_iff, Closure.beq_iff, beq_iff_eq]
      refine and_iff_left_of_imp fun sameCode => ?_
      rw [Closure.eq_withParams_of_code_eq held otherHeld sameCode]
      rfl
    · intro sameCode
      rw [Closure.eq_withParams_of_code_eq held otherHeld sameCode]
      exact ⟨rfl, rfl⟩

end

/-- Two closures over one scope with the same parameters and body, and a copy of
the first that went through an array, a return wrapper and a hash and then got
another parameter name. -/
theorem closure_equality_is_provenance_of_stored_copy :
    let steps : List Step :=
      [.openEnvironment .new "scope",
        .evaluate (.literal (.closure ["x"] (.text "x") (some "scope")))
          (some "first"),
        .evaluate (.literal (.closure ["x"] (.text "x") (some "scope")))
          (some "second"),
        .evaluate (.call "last" [.array [.ref "second", .ref "first"]])
          (some "item"),
        .evaluate (.unwrap (.returned (.ref "item"))) (some "unwrapped"),
        .evaluate (.hashGet (.hash [(.int 0, .ref "unwrapped")]) (.int 0))
          (some "found"),
        .evaluate (.withParams (.ref "found") ["y"]) (some "copy")]
    let run : Run Memo := Step.runFrom (.start {} .discard) steps
    let created := Step.createdAll steps (.start {} .discard)
    let first : Closure := ⟨["x"], .text "x", 0, 0⟩
    let second : Closure := ⟨["x"], .text "x", 1, 0⟩
    let copy : Closure := ⟨["y"], .text "x", 0, 0⟩
    created = [first, second] ∧
      run.Holds (.closure first) ∧ run.Holds (.closure second) ∧
      run.Holds (.closure copy) ∧
      (first == copy) = true ∧ (first == second) = false ∧
      (second == copy) = false ∧
      ∃! call, copy.DescendsFromCall created call := by
  intro steps run created first second copy
  have firstHeld : run.Holds (.closure first) :=
    @Run.Holds.named _ _ run "first" _ rfl
  have secondHeld : run.Holds (.closure second) :=
    @Run.Holds.named _ _ run "second" _ rfl
  have copyHeld : run.Holds (.closure copy) :=
    @Run.Holds.named _ _ run "copy" _ rfl
  have firstDescends : first.DescendsFromCall created 0 :=
    ⟨first, rfl, .copy first⟩
  have secondDescends : second.DescendsFromCall created 1 :=
    ⟨second, rfl, .copy second⟩
  have copyDescends : copy.DescendsFromCall created 0 :=
    ⟨first, rfl, .withParams ["y"] (.copy first)⟩
  obtain ⟨unique, equalIff, apart, _⟩ :=
    closure_equality_is_provenance .discard steps
  exact ⟨rfl, firstHeld, secondHeld, copyHeld,
    (equalIff first copy firstHeld copyHeld).mpr
      ⟨0, firstDescends, copyDescends⟩,
    apart 0 1 Nat.zero_ne_one first second firstDescends secondDescends,
    apart 1 0 Nat.one_ne_zero second copy secondDescends copyDescends,
    unique copy copyHeld⟩

end Monkey
