import Monkey.Proofs.Creation
import Monkey.Proofs.Tracking
import Monkey.Proofs.WellFormed

/-!
# Vouching for values

The closures that a run created vouch for what it holds: every closure in a held
value descends from one of them, and every collection in it is filed. A created
closure has its place in the order of creation as the identity of its body, so
descent can be read off a closure. `Creates` states of one computation which
closures it creates and that they vouch for what it returns; it passes from the
parts of a computation to the whole.
-/

namespace Monkey

variable [Embedding]

open Session

/-! ## Vouched values -/

/-- Created closures vouch for a value: the closures in it descend from them, and the
collections in it are filed. -/
inductive Value.Vouched (created : List Closure) : Value -> Prop
  | atom (value : Atom) : Vouched created (.atom value)
  | null : Vouched created .null
  | returned {value : Value} :
      Vouched created value -> Vouched created (.returned value)
  | failure (reason : Failure) : Vouched created (.failure reason)
  | closure {function original : Closure} :
      original ∈ created -> function.DescendsFrom original ->
        Vouched created (.closure function)
  | builtin (function : Builtin) : Vouched created (.builtin function)
  | array {items : List Value} :
      (∀ item ∈ items, Vouched created item) -> Vouched created (.array items)
  | hash {pairs : Hash} :
      Filed Prod.fst pairs ->
        (∀ entry ∈ pairs.entries, Vouched created entry.2.2) ->
          Vouched created (.hash pairs)
  | set {members : MemberSet} :
      Filed id members -> Vouched created (.set members)

namespace Value.Vouched

variable {created later : List Closure} {value part : Value}

/-- More created closures vouch for more. -/
theorem grows
    (vouched : value.Vouched created)
    (contained : created ⊆ later) :
    value.Vouched later := by
  induction vouched with
  | atom value => exact .atom value
  | null => exact .null
  | returned _ inductionHypothesis => exact .returned inductionHypothesis
  | failure reason => exact .failure reason
  | closure member descends => exact .closure (contained member) descends
  | builtin function => exact .builtin function
  | array _ inductionHypothesis => exact .array inductionHypothesis
  | hash filed _ inductionHypothesis => exact .hash filed inductionHypothesis
  | set filed => exact .set filed

theorem wellFormed (vouched : value.Vouched created) : value.WellFormed := by
  induction vouched with
  | atom | null | failure | closure | builtin => trivial
  | returned _ inductionHypothesis => exact inductionHypothesis
  | array _ inductionHypothesis =>
      exact (wellFormed_array _).mpr inductionHypothesis
  | hash filed _ inductionHypothesis =>
      exact (wellFormed_hash _).mpr ⟨filed, inductionHypothesis⟩
  | set filed => exact filed

/-- A vouched value has vouched parts. -/
theorem within
    (vouched : value.Vouched created)
    (inside : part.Within value) :
    part.Vouched created := by
  induction inside with
  | whole => exact vouched
  | returned _ inductionHypothesis =>
      cases vouched with
      | returned valueVouched => exact inductionHypothesis valueVouched
  | item member _ inductionHypothesis =>
      cases vouched with
      | array itemsVouched => exact inductionHypothesis (itemsVouched _ member)
  | key _ _ inductionHypothesis => exact inductionHypothesis (.atom _)
  | value member _ inductionHypothesis =>
      cases vouched with
      | hash _ values => exact inductionHypothesis (values _ member)
  | member _ _ inductionHypothesis => exact inductionHypothesis (.atom _)

theorem hereditary (created : List Closure) :
    Hereditary (Vouched created) where
  int _ := .atom _
  bool _ := .atom _
  null := .null
  failure := .failure
  returned_iff _ := ⟨fun | .returned vouched => vouched, .returned⟩
  array_iff _ := ⟨fun | .array vouched => vouched, .array⟩
  hash_values := fun | .hash _ values => values
  union leftVouched rightVouched := by
    cases leftVouched with
    | set leftFiled =>
        cases rightVouched with
        | set rightFiled => exact .set (leftFiled.merge rightFiled)

/-! ## Building collections -/

/-- A hash of vouched values, or the failure that rejects a key. -/
theorem ofPairs
    {pairs : List (Value × Value)}
    (vouched : ∀ pair ∈ pairs, pair.2.Vouched created) :
    (Value.ofFiling (((pairs.mapM Value.toEntry).map
      (Table.empty.fileAll Prod.fst)).map Value.hash)).Vouched created := by
  cases accepted : pairs.mapM Value.toEntry with
  | error rejected => exact .failure _
  | ok entries =>
      obtain rfl := (mapM_eq_ok_iff Value.toEntry_eq_ok_iff_ofEntry _ _).mp
        accepted
      refine .hash ((filed_empty _).fileAll entries) fun entry member => ?_
      rcases Table.mem_of_mem_fileAll member with filed | old
      · exact vouched _ (List.mem_map_of_mem filed)
      · cases old

/-- A set of elements, or the failure that rejects one. -/
theorem ofElements (elements : List Value) :
    (Value.ofBuilt ((elements.mapM Value.toAtom).map
      (Table.empty.fileAll id))).Vouched created := by
  cases elements.mapM Value.toAtom with
  | error rejected => exact .failure _
  | ok atoms => exact .set ((filed_empty _).fileAll atoms)

/-- A set with one more element. -/
theorem extended
    {members extended : MemberSet}
    {element : Value}
    (vouched : (Value.set members).Vouched created)
    (added : element.toAtom.map (members.file id) = .ok extended) :
    (Value.set extended).Vouched created := by
  cases vouched with
  | set filed =>
      cases element with
      | atom atom =>
          cases added
          exact .set (filed.insert rfl)
      | _ => cases added

end Value.Vouched

/-! ## Vouched sessions -/

/-- The closures that a run created so far are those that have a code, each has
the code of its place, and they vouch for everything that the session holds. -/
structure Session.VouchedBy
    (session : Session Recompute)
    (created : List Closure) : Prop where
  codes_eq : session.codes = created.length
  code_eq :
    ∀ (place : Nat) (original : Closure),
      created[place]? = some original -> original.code = place
  values : session.values.AllHold (Value.Vouched created)
  scopes : session.scopes.AllHold (Value.Vouched created)

namespace Session.VouchedBy

variable {session : Session Recompute} {created : List Closure}

/-- A session in which neither the codes nor the held values changed. -/
theorem unchanged
    (vouched : session.VouchedBy created)
    {after : Session Recompute}
    (codes_eq : after.codes = session.codes)
    (values_eq : after.values = session.values)
    (scopes_eq : after.scopes = session.scopes) :
    after.VouchedBy created where
  codes_eq := codes_eq.trans vouched.codes_eq
  code_eq := vouched.code_eq
  values := values_eq ▸ vouched.values
  scopes := scopes_eq ▸ vouched.scopes

/-- A new closure gets the next code. -/
theorem create
    (vouched : session.VouchedBy created)
    (params : List String)
    (body : Body)
    (scope : ScopeId) :
    VouchedBy { session with codes := session.codes + 1 }
      (created ++ [⟨params, body, session.codes, scope⟩]) where
  codes_eq := by
    rw [List.length_append, List.length_singleton, ← vouched.codes_eq]
  code_eq := by
    intro place original found
    rw [List.getElem?_append] at found
    split at found
    next => exact vouched.code_eq place original found
    next notBefore =>
      rw [List.getElem?_singleton] at found
      split at found
      next last =>
        cases found
        have atEnd : place = created.length := by omega
        exact vouched.codes_eq.trans atEnd.symm
      next => cases found
  values := fun name value found =>
    (vouched.values name value found).grows (List.subset_append_left _ _)
  scopes := fun id scope scopeFound name value found =>
    (vouched.scopes id scope scopeFound name value found).grows
      (List.subset_append_left _ _)

end Session.VouchedBy

/-! ## Computations that create closures -/

section Rules

variable {α β : Type} {created more : List Closure}
variable {session : Session Recompute}
variable {computation : Evaluation Recompute α}
variable {next : α -> Evaluation Recompute β}
variable {vouch : List Closure -> α -> Prop} {final : List Closure -> β -> Prop}

/-- A computation creates some closures: with those created before they vouch for
the session that it leaves and for what it returns. -/
def Creates
    (created : List Closure)
    (session : Session Recompute)
    (computation : Evaluation Recompute α)
    (more : List Closure)
    (vouch : List Closure -> α -> Prop) : Prop :=
  (computation.run.run session).2.VouchedBy (created ++ more) ∧
    ∀ result, (computation.run.run session).1 = .ok result ->
      vouch (created ++ more) result

namespace Creates

/-- A computation that creates no closure. -/
theorem quiet
    (vouched : (computation.run.run session).2.VouchedBy created)
    (returns : ∀ result, (computation.run.run session).1 = .ok result ->
      vouch created result) :
    Creates created session computation [] vouch := by
  unfold Creates
  rw [List.append_nil]
  exact ⟨vouched, returns⟩

theorem pure
    (vouched : session.VouchedBy created)
    {result : α}
    (returns : vouch created result) :
    Creates created session (Pure.pure result) [] vouch := by
  refine quiet vouched ?_
  rintro _ ⟨⟩
  exact returns

theorem throw
    (vouched : session.VouchedBy created)
    (reason : Unbound) :
    Creates created session (throw reason) [] vouch :=
  quiet vouched nofun

theorem bind
    {rest : Session Recompute -> List Closure}
    (first : Creates created session computation more vouch)
    (restCreates : ∀ {later session} result,
      created ⊆ later -> Session.VouchedBy session later ->
        vouch later result ->
          Creates later session (next result) (rest session) final) :
    Creates created session (computation >>= next)
      (more ++ (session.reached computation).elim [] rest) final := by
  obtain ⟨vouched, returns⟩ := first
  unfold Creates
  rw [ExceptT.run_bind, StateT.run_bind, reached, ← List.append_assoc]
  generalize computation.run.run session = ran at *
  obtain ⟨outcome, reached⟩ := ran
  cases outcome with
  | ok result =>
      exact restCreates result (List.subset_append_left _ _) vouched
        (returns result rfl)
  | error reason =>
      refine ⟨?_, nofun⟩
      rw [Option.elim_none, List.append_nil]
      exact vouched

/-- What comes after a computation may create no closure. -/
theorem bind_quiet
    (first : Creates created session computation more vouch)
    (rest : ∀ {later session} result,
      created ⊆ later -> Session.VouchedBy session later ->
        vouch later result -> Creates later session (next result) [] final) :
    Creates created session (computation >>= next) more final := by
  have both : Creates created session (computation >>= next)
      (more ++ (session.reached computation).elim [] fun _ => []) final :=
    first.bind rest
  have nothing : (session.reached computation).elim [] (fun _ => []) =
      ([] : List Closure) := by
    cases session.reached computation <;> rfl
  rwa [nothing, List.append_nil] at both

/-- A computation whose result is known leads to what comes after it. -/
theorem bind_ran
    {result : α}
    {after : Session Recompute}
    (ran : computation.run.run session = (.ok result, after))
    (rest : Creates created after (next result) more final) :
    Creates created session (computation >>= next) more final := by
  unfold Creates
  rw [ExceptT.run_bind, StateT.run_bind, ran]
  exact rest

/-- Reading the session. -/
theorem bind_get
    {next : Session Recompute -> Evaluation Recompute β}
    (rest : Creates created session (next session) more final) :
    Creates created session (MonadState.get >>= next) more final :=
  rest

/-- A change of the session. -/
theorem update
    {change : Session Recompute -> Session Recompute}
    (vouched : (change session).VouchedBy created) :
    Creates created session (modify change) [] fun _ _ => True :=
  quiet vouched fun _ _ => trivial

/-- A computation over keys changes nothing that a session holds. -/
theorem perform
    {computation : StateM (Session Recompute) α}
    {known : Set Text}
    {texts : List Text}
    {answer : α}
    (vouched : session.VouchedBy created)
    (asks : Asks known computation texts answer)
    (returns : vouch created answer) :
    Creates created session (Session.perform computation) [] vouch := by
  have ran := run_perform asks session trivial
  refine quiet ?_ ?_
  · rw [ran, askAll_eq]
    exact vouched.unchanged rfl rfl rfl
  · rw [ran]
    rintro _ ⟨⟩
    exact returns

end Creates

end Rules

end Monkey
