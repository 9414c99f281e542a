import Monkey.Proofs.Lines
import Monkey.Proofs.Outcome
import Monkey.Proofs.Requests

/-!
# Tracking a run

A run with a memo and the run that computes every key anew go through the same
sessions but for the memo, and what the memo remembers is what the events of the
run asked for. `Tracked` states this of one computation and keeps a ledger of it;
it holds of the operations of a session and passes from the parts of a
computation to the whole.
-/

namespace Monkey

variable [Embedding]

open Session

/-! ## Tracked computations -/

/-- Both runs hold one result, and the ledger covers it. -/
def Shared {α : Type}
    (covers : Ledger -> α -> Prop)
    (ledger : Ledger)
    (result other : α) : Prop :=
  result = other ∧ covers ledger other

section Rules

variable {α β : Type} {now later : Ledger} {session : Session Recompute}
variable {computation : Evaluation Memo α} {plain : Evaluation Recompute α}
variable {next : α -> Evaluation Memo β} {plainNext : α -> Evaluation Recompute β}
variable {events : List Event} {covers : Ledger -> α -> Prop}
variable {related : Ledger -> α -> α -> Prop} {final : Ledger -> β -> β -> Prop}

/-- A computation with a memo tracks the one without: a later ledger, grown by
what the events asked for, describes the session that both leave and its memo,
and both have related results or stop at the same name. -/
def Tracked
    (now : Ledger)
    (session : Session Recompute)
    (computation : Evaluation Memo α)
    (plain : Evaluation Recompute α)
    (events : List Event)
    (related : Ledger -> α -> α -> Prop) : Prop :=
  ∃ later, now.Grows (events.flatMap Event.requested) later ∧
    later.Describes (plain.run.run session).2 ∧
    (computation.run.run (session.remembering now)).2 =
      (plain.run.run session).2.remembering later ∧
    SameOutcome (related later)
      (computation.run.run (session.remembering now)).1
      (plain.run.run session).1

namespace Tracked

/-- A computation that asks for nothing, run on both sides. -/
theorem silent
    {result other : α}
    (grows : now.Grows [] later)
    (describes : later.Describes (plain.run.run session).2)
    (run_eq : computation.run.run (session.remembering now) =
      (.ok result, (plain.run.run session).2.remembering now))
    (plain_eq : (plain.run.run session).1 = .ok other)
    (connected : related later result other) :
    Tracked now session computation plain [] related := by
  have sameMemo : later.memo = now.memo := grows.memo_eq
  refine ⟨later, grows, describes, ?_, ?_⟩
  · rw [run_eq, remembering, remembering, sameMemo]
  · rw [run_eq, plain_eq]
    exact .ok connected

theorem pure
    {result other : α}
    (describes : now.Describes session)
    (connected : related now result other) :
    Tracked now session (Pure.pure result) (Pure.pure other) [] related :=
  silent (.refl now) describes rfl rfl connected

theorem throw
    (describes : now.Describes session)
    (reason : Unbound) :
    Tracked now session (throw reason) (throw reason) [] related :=
  ⟨now, .refl now, describes, rfl, .error reason⟩

theorem bind
    {more : α -> Session Recompute -> List Event}
    (first : Tracked now session computation plain events related)
    (rest : ∀ {texts later session result other},
      now.Grows texts later -> later.Describes session ->
        related later result other ->
          Tracked later session (next result) (plainNext other)
            (more other session) final) :
    Tracked now session (computation >>= next) (plain >>= plainNext)
      (events ++ session.after plain more) final := by
  obtain ⟨middle, grows, describes, sameSession, outcome⟩ := first
  unfold Tracked
  rw [List.flatMap_append, ExceptT.run_bind, ExceptT.run_bind,
    StateT.run_bind, StateT.run_bind, after]
  generalize computation.run.run (session.remembering now) = ran at *
  generalize plain.run.run session = plainRan at *
  obtain ⟨result, reached⟩ := ran
  obtain ⟨other, plainReached⟩ := plainRan
  cases sameSession
  -- Both runs go on from what the first part left, or both stop there.
  cases outcome with
  | ok connected =>
      obtain ⟨later, laterGrows, rest⟩ := rest grows describes connected
      exact ⟨later, grows.trans laterGrows, rest⟩
  | error reason =>
      exact ⟨middle, grows.trans (.refl middle), describes, rfl, .error reason⟩

/-- What comes after a computation may be without events. -/
theorem bind_silent
    (first : Tracked now session computation plain events related)
    (rest : ∀ {texts later session result other},
      now.Grows texts later -> later.Describes session ->
        related later result other ->
          Tracked later session (next result) (plainNext other) [] final) :
    Tracked now session (computation >>= next) (plain >>= plainNext) events
      final := by
  have both : Tracked now session (computation >>= next) (plain >>= plainNext)
      (events ++ session.after plain fun _ _ => []) final :=
    first.bind rest
  have nothing : session.after plain (fun _ _ => []) = [] := by
    unfold after
    split <;> rfl
  rwa [nothing, List.append_nil] at both

/-- Events that ask for nothing may be added to a computation without events. -/
theorem unasked
    (tracked : Tracked now session computation plain [] related)
    (nothing : events.flatMap Event.requested = []) :
    Tracked now session computation plain events related := by
  unfold Tracked
  rw [nothing]
  exact tracked

theorem bind_shared
    {more : α -> Session Recompute -> List Event}
    (first : Tracked now session computation plain events (Shared covers))
    (rest : ∀ {texts later session} result,
      now.Grows texts later -> later.Describes session ->
        covers later result ->
          Tracked later session (next result) (plainNext result)
            (more result session) final) :
    Tracked now session (computation >>= next) (plain >>= plainNext)
      (events ++ session.after plain more) final := by
  refine first.bind fun grows describes connected => ?_
  obtain ⟨rfl, covered⟩ := connected
  exact rest _ grows describes covered

theorem bind_shared_silent
    (first : Tracked now session computation plain events (Shared covers))
    (rest : ∀ {texts later session} result,
      now.Grows texts later -> later.Describes session ->
        covers later result ->
          Tracked later session (next result) (plainNext result) [] final) :
    Tracked now session (computation >>= next) (plain >>= plainNext) events
      final := by
  refine first.bind_silent fun grows describes connected => ?_
  obtain ⟨rfl, covered⟩ := connected
  exact rest _ grows describes covered

/-- Reading the session is reading the same session but for the memo. -/
theorem bind_get
    {next : Session Memo -> Evaluation Memo β}
    {plainNext : Session Recompute -> Evaluation Recompute β}
    (rest : Tracked now session (next (session.remembering now))
      (plainNext session) events final) :
    Tracked now session (MonadState.get >>= next) (MonadState.get >>= plainNext)
      events final :=
  rest

/-- A change of the session, made on both sides. -/
theorem update
    {change : Session Memo -> Session Memo}
    {plainChange : Session Recompute -> Session Recompute}
    (describes : now.Describes (plainChange session))
    (sameChange : change (session.remembering now) =
      (plainChange session).remembering now) :
    Tracked now session (modify change) (modify plainChange) []
      (Shared fun _ _ => True) := by
  have ran : (modify change : Evaluation Memo Unit).run.run
      (session.remembering now) = (.ok (), change (session.remembering now)) :=
    rfl
  rw [sameChange] at ran
  exact silent (.refl now) describes ran rfl ⟨rfl, trivial⟩

end Tracked

/-- Requests change what the key source of a session remembers. -/
theorem Session.askAll_eq
    {κ : Type}
    [KeySource κ]
    (texts : List Text)
    (session : Session κ) :
    askAll texts session =
      { session with keys := askAll texts session.keys } := by
  induction texts generalizing session with
  | nil => rfl
  | cons text rest inductionHypothesis =>
      rw [askAll_cons, inductionHypothesis]
      rfl

/-- What only asks for keys changes nothing else in a session. -/
theorem Session.run_perform
    {κ : Type}
    [KeySource κ]
    [LawfulKeySource κ]
    {known : Set Text}
    {computation : StateM (Session κ) α}
    {texts : List Text}
    {answer : α}
    (asks : Asks known computation texts answer)
    (session : Session κ)
    (faithful : Faithful known session) :
    (perform computation).run.run session =
      (.ok answer, askAll texts session) := by
  change (Except.ok <$> computation).run session = _
  rw [StateT.run_map, asks.run_eq session faithful]
  rfl

/-- A computation over keys that asks for what its events ask for. -/
theorem Tracked.perform
    {computation : StateM (Session Memo) α}
    {plain : StateM (Session Recompute) α}
    {texts : List Text}
    {answer : α}
    (describes : now.Describes session)
    (asks : Asks now.texts computation texts answer)
    (plainAsks : Asks now.texts plain texts answer)
    (requested : events.flatMap Event.requested = texts)
    (connected : ∀ {later : Ledger}, now.Grows texts later ->
      related later answer answer) :
    Tracked now session (perform computation) (Session.perform plain) events
      related := by
  have grows := Ledger.Grows.request now texts asks.textsKnown
  have ran := run_perform asks (session.remembering now) now.faithful_memo
  have plainRan := run_perform plainAsks session trivial
  -- Without a memory requests leave no trace.
  have unchanged : askAll texts session = session := askAll_eq texts session
  rw [unchanged] at plainRan
  refine ⟨now.request texts asks.textsKnown, ?_, ?_, ?_, ?_⟩
  · rw [requested]
    exact grows
  · rw [plainRan]
    exact describes.grows grows describes.cells_eq rfl rfl
  · rw [ran, plainRan, askAll_eq]
    exact congrArg (fun keys => { session with keys }) grows.memo_eq.symm
  · rw [ran, plainRan]
    exact .ok (connected grows)

end Rules

variable {now : Ledger} {session : Session Recompute}

/-! ## Operations of a session -/

theorem tracked_newText
    (describes : now.Describes session)
    (content : String) :
    Tracked now session (newText content) (newText content) []
      (Shared fun ledger text => text ∈ ledger.texts) := by
  have grows := Ledger.Grows.allocate now content
  refine .silent grows ?_ rfl rfl ⟨rfl, ?_⟩
  · refine describes.grows grows ?_ rfl rfl
    change session.cells + 1 = (now.contents ++ [content]).length
    rw [describes.cells_eq, List.length_append, List.length_singleton]
  · change (now.contents ++ [content])[session.cells]? = some content
    rw [describes.cells_eq]
    exact List.getElem?_concat_length

theorem tracked_newClosure
    (describes : now.Describes session)
    (params : List String)
    (body : Body)
    (scope : ScopeId) :
    Tracked now session (newClosure params body scope)
      (newClosure params body scope) [] (Shared fun _ _ => True) :=
  .silent (.refl now)
    ⟨describes.cells_eq, describes.values, describes.scopes⟩ rfl rfl
    ⟨rfl, trivial⟩

theorem tracked_newScope (describes : now.Describes session) :
    Tracked now session newScope newScope [] (Shared fun _ _ => True) :=
  .silent (.refl now)
    ⟨describes.cells_eq, describes.values, describes.scopes.create⟩ rfl rfl
    ⟨rfl, trivial⟩

theorem tracked_encloseScope
    (describes : now.Describes session)
    (outer : ScopeId) :
    Tracked now session (encloseScope outer) (encloseScope outer) []
      (Shared fun _ _ => True) :=
  .silent (.refl now)
    ⟨describes.cells_eq, describes.values, describes.scopes.enclose outer⟩
    rfl rfl ⟨rfl, trivial⟩

/-- Both runs find the same value under a name. -/
theorem tracked_valueNamed
    (describes : now.Describes session)
    (name : String) :
    Tracked now session (valueNamed name) (valueNamed name) []
      (Shared Ledger.Covers) := by
  refine .bind_get ?_
  rw [values_remembering]
  cases found : session.values.get? name with
  | none => exact .throw describes _
  | some value =>
      exact .pure describes ⟨rfl, describes.values name value found⟩

theorem tracked_environmentNamed
    (describes : now.Describes session)
    (name : String) :
    Tracked now session (environmentNamed name) (environmentNamed name) []
      (Shared fun _ _ => True) := by
  refine .bind_get ?_
  rw [environments_remembering]
  cases session.environments.get? name with
  | none => exact .throw describes _
  | some id => exact .pure describes ⟨rfl, trivial⟩

theorem tracked_nameValue
    (describes : now.Describes session)
    {value : Value}
    (covered : now.Covers value)
    (name : String) :
    Tracked now session (nameValue name value) (nameValue name value) []
      (Shared fun _ _ => True) :=
  .update ⟨describes.cells_eq, describes.values.insert covered name,
    describes.scopes⟩ rfl

theorem tracked_nameEnvironment
    (describes : now.Describes session)
    (name : String)
    (id : ScopeId) :
    Tracked now session (nameEnvironment name id) (nameEnvironment name id) []
      (Shared fun _ _ => True) :=
  .update ⟨describes.cells_eq, describes.values, describes.scopes⟩ rfl

theorem tracked_bindInScope
    (describes : now.Describes session)
    {value : Value}
    (covered : now.Covers value)
    (id : ScopeId)
    (name : String) :
    Tracked now session (bindInScope id name value) (bindInScope id name value)
      [] (Shared fun _ _ => True) :=
  .update ⟨describes.cells_eq, describes.values,
    describes.scopes.bind covered id name⟩ rfl

/-! ## Operations over values -/

/-- Building a hash asks for its keys up to the first that is not hashable. -/
theorem tracked_ofPairs
    (describes : now.Describes session)
    {pairs : List (Value × Value)}
    (covered : now.CoversPairs pairs) :
    Tracked now session (perform (Value.ofPairs pairs))
      (perform (Value.ofPairs pairs)) [.hash pairs] (Shared Ledger.Covers) := by
  rw [Value.ofPairs_eq, Value.ofPairs_eq]
  have keysKnown : ∀ pair ∈ pairs, pair.1.Known now.texts :=
    fun pair member => (covered pair member).1.known
  exact .perform describes ((asks_ofPairs keysKnown).map _)
    ((asks_ofPairs keysKnown).map _) (List.append_nil _)
    fun grows => ⟨rfl, grows.covers_ofPairs covered⟩

/-- Building a set asks for its elements up to the first that is not hashable. -/
theorem tracked_ofElements
    (describes : now.Describes session)
    {elements : List Value}
    (covered : now.CoversItems elements) :
    Tracked now session (perform (Value.ofElements elements))
      (perform (Value.ofElements elements)) [.set elements]
      (Shared Ledger.Covers) := by
  rw [Value.ofElements, Value.ofElements, Filing.toValue_set,
    Filing.toValue_set]
  exact .perform describes ((asks_ofElements covered.known).map _)
    ((asks_ofElements covered.known).map _) (List.append_nil _)
    fun grows => ⟨rfl, grows.covers_ofElements⟩

/-- If there is a value, the ledger covers it. -/
def CoversFound (ledger : Ledger) (found : Option Value) : Prop :=
  ∀ value, found = some value -> ledger.Covers value

theorem covers_resolve
    {ledger : Ledger}
    {scopes : Scopes}
    (covered : ledger.CoversScopes scopes)
    {id : ScopeId}
    {name : String}
    {value : Value}
    (found : scopes.resolve id name = some value) :
    ledger.Covers value :=
  Scopes.AllHold.resolve covered (fun _ function _ => .builtin function) found

theorem Session.perform_map
    {κ α β : Type}
    (function : α -> β)
    (computation : StateM (Session κ) α) :
    perform (function <$> computation) =
      (perform computation >>= fun result => pure (function result)) := rfl

section Calls

variable [HostFunctions]

theorem run_perform_puts
    {κ : Type}
    [KeySource κ]
    (name : String)
    (arguments : List Value)
    (session : Session κ) :
    (perform (Builtin.call ⟨name, .puts⟩ arguments)).run.run session =
      (.ok .null, { session with
        sink := takeLines (arguments.map Value.display) session.sink }) := by
  change (Except.ok ((Builtin.puts arguments).run session).1,
    ((Builtin.puts arguments).run session).2) = _
  rw [run_puts_eq, Session.takeLines_eq]

/-- Calling a builtin asks for what the event of the call says. Output asks for
nothing. -/
theorem tracked_call
    (describes : now.Describes session)
    {builtin : Builtin}
    {arguments : List Value}
    (covered : now.CoversItems arguments) :
    Tracked now session (perform (builtin.call arguments))
      (perform (builtin.call arguments)) [.call builtin arguments]
      (Shared Ledger.Covers) := by
  by_cases output : builtin.operation = .puts
  · obtain ⟨name, _⟩ := builtin
    cases output
    have sameNull : Shared Ledger.Covers now .null .null := ⟨rfl, .null⟩
    refine .silent (.refl now) ?_ ?_ ?_ sameNull
    · rw [run_perform_puts]
      exact ⟨describes.cells_eq, describes.values, describes.scopes⟩
    · rw [run_perform_puts, run_perform_puts]
      rfl
    · rw [run_perform_puts]
  · obtain ⟨answer, asks, inherits⟩ := exists_asks_call output covered.known
    refine .perform describes (asks _) (asks _) (List.append_nil _) ?_
    intro later grows
    exact ⟨rfl, inherits later.hereditary_covers (grows.coversItems covered)
      fun _ extension => grows.covers_extended covered extension⟩

/-- Calling a builtin by name. -/
theorem tracked_preludeCall
    (describes : now.Describes session)
    (name : String)
    {arguments : List Value}
    (covered : now.CoversItems arguments) :
    Tracked now session (perform (Prelude.call name arguments))
      (perform (Prelude.call name arguments))
      (match Prelude.get? name with
        | some builtin => [.call builtin arguments]
        | none => []) (Shared CoversFound) := by
  unfold Prelude.call
  cases Prelude.get? name with
  | none => exact .pure describes ⟨rfl, nofun⟩
  | some builtin =>
      rw [perform_map, perform_map]
      refine (tracked_call describes covered).bind_shared_silent ?_
      intro _ _ _ value _ describes covered
      refine .pure describes ⟨rfl, ?_⟩
      rintro _ ⟨⟩
      exact covered

end Calls

/-- Adding an element to a set. -/
theorem tracked_withElement
    (describes : now.Describes session)
    {members : MemberSet}
    {element : Value}
    (covered : now.Covers (.set members))
    (elementCovered : now.Covers element) :
    Tracked now session (perform (MemberSet.withElement members element).run)
      (perform (MemberSet.withElement members element).run)
      [.withElement members element]
      (Shared fun ledger outcome => ∀ extended,
        outcome = .ok extended -> ledger.Covers (.set extended)) :=
  .perform describes (asks_withElement members elementCovered.known)
    (asks_withElement members elementCovered.known) (List.append_nil _)
    fun grows => ⟨rfl, fun _ added => grows.covers_withElement covered added⟩

/-- Looking up a key in a hash. -/
theorem tracked_hashLookup
    (describes : now.Describes session)
    {pairs : Hash}
    {key : Value}
    (covered : now.Covers (.hash pairs))
    (keyCovered : now.Covers key) :
    Tracked now session (perform (Hash.lookup pairs key))
      (perform (Hash.lookup pairs key)) [.hashGet pairs key]
      (Shared CoversFound) := by
  refine .perform describes (asks_lookup pairs keyCovered.known)
    (asks_lookup pairs keyCovered.known) (List.append_nil _) ?_
  intro later grows
  refine ⟨rfl, fun value found => grows.covers ?_⟩
  obtain ⟨_, _, found⟩ := Option.bind_eq_some_iff.mp found
  exact now.hereditary_covers.get? covered found

/-- Querying a set for a value. -/
theorem tracked_contains
    (describes : now.Describes session)
    (members : MemberSet)
    {element : Value}
    (covered : now.Covers element) :
    Tracked now session (perform (MemberSet.contains members element))
      (perform (MemberSet.contains members element))
      [.contains members element] (Shared fun _ _ => True) :=
  .perform describes (asks_contains members covered.known)
    (asks_contains members covered.known) (List.append_nil _)
    fun _ => ⟨rfl, trivial⟩

/-- Asking for the key of a value. -/
theorem tracked_requestKey?
    (describes : now.Describes session)
    {value : Value}
    (covered : now.Covers value) :
    Tracked now session (perform value.requestKey?)
      (perform value.requestKey?) [.key value] (Shared fun _ _ => True) :=
  .perform describes (asks_requestKey? covered.known)
    (asks_requestKey? covered.known) (List.append_nil _)
    fun _ => ⟨rfl, trivial⟩

end Monkey
