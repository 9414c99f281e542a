import Monkey.Proofs.StepTracking

/-!
# What a memo remembers

A program cannot tell whether keys are remembered. Every run has the same answers
as the run that computes every key anew, except where it asks what is remembered,
and the memo of a cell is empty or the key of the content, for good. What is
remembered is exactly what the events of the run asked for; so whatever a program
holds, the texts that its hashes and sets file are remembered.
-/

namespace Monkey

section

variable [Embedding]

open Session

/-! ## Runs -/

/-- The answers of a run, or the unbound name at which it stopped, and the session
that it leaves. -/
abbrev Run (κ : Type) : Type :=
  Except Unbound (List Answer) × Session κ

/-- The session in which a run begins. -/
def Session.start {κ : Type} (keys : κ) (sink : Sink) : Session κ :=
  { keys, sink, scopes := .empty }

/-- Carry out some steps from a session. -/
def Step.runFrom [HostFunctions] {κ : Type} [KeySource κ]
    (session : Session κ)
    (steps : List Step) : Run κ :=
  (runAll steps).run.run session

/-- A run holds the values that its session names or binds in a scope, those that
it answered, and all their parts. -/
inductive Run.Holds {κ : Type} (run : Run κ) : Value -> Prop
  | named {name : String} {value : Value} :
      run.2.values.get? name = some value -> Holds run value
  | bound
      {id : ScopeId}
      {scope : Scope}
      {name : String}
      {value : Value} :
      run.2.scopes.get? id = some scope ->
        scope.bindings.get? name = some value -> Holds run value
  | answered {answers : List Answer} {value : Value} :
      run.1 = .ok answers -> .value value ∈ answers -> Holds run value
  | part {whole part : Value} :
      Holds run whole -> part.Within whole -> Holds run part

namespace Ledger

variable {ledger : Ledger} {memoized : Run Memo} {plain : Run Recompute}

/-- A ledger accounts for a run with a memo and the one without: it describes the
session that both leave and covers what they answer. -/
structure Accounts
    (ledger : Ledger)
    (memoized : Run Memo)
    (plain : Run Recompute) : Prop where
  describes : ledger.Describes plain.2
  session_eq : memoized.2 = plain.2.remembering ledger
  answers :
    SameOutcome (List.Forall₂ (AnswersAgree ledger)) memoized.1 plain.1

namespace Accounts

/-- The first session is accounted for by the empty ledger. -/
theorem start (sink : Sink) :
    Accounts .empty (.ok [], .start {} sink) (.ok [], .start {} sink) where
  describes := by
    refine ⟨rfl, ?_, ?_⟩
    · intro name value found
      cases found
    · intro id scope found
      cases found
  session_eq := rfl
  answers := .ok .nil

/-- Whatever is held is covered. -/
theorem covers
    (accounts : ledger.Accounts memoized plain)
    {value : Value}
    (held : memoized.Holds value) :
    ledger.Covers value := by
  induction held with
  | named found =>
      rw [accounts.session_eq] at found
      exact accounts.describes.values _ _ found
  | bound scopeFound found =>
      rw [accounts.session_eq] at scopeFound
      exact accounts.describes.scopes _ _ scopeFound _ _ found
  | @answered given value answersEq member =>
      have agree := accounts.answers
      rw [answersEq] at agree
      generalize plain.1 = other at agree
      cases agree with
      | ok connected =>
          have covered : ∀ answer ∈ given, ∀ value, answer = .value value ->
              ledger.Covers value :=
            forall_left_of_forall₂ connected fun _ _ agree => agree.2
          exact covered _ member value rfl
  | part _ within inductionHypothesis => exact inductionHypothesis.within within

/-- Both runs have the same answers, except where they say what is remembered. -/
theorem agree (accounts : ledger.Accounts memoized plain) :
    SameOutcome (List.Forall₂ Answer.Agrees) memoized.1 plain.1 :=
  accounts.answers.imp fun _ _ connected =>
    connected.imp fun _ _ agree => agree.1

/-- Exactly the texts asked for are remembered. -/
theorem remembers_iff
    (accounts : ledger.Accounts memoized plain)
    (text : Text) :
    KeySource.remembers memoized.2 text = true ↔
      ∃ requested ∈ ledger.requested, requested.cell = text.cell := by
  rw [accounts.session_eq]
  exact ledger.remembers_memo_iff text

/-- A text that was asked for is remembered. -/
theorem remembers_of_requested
    (accounts : ledger.Accounts memoized plain)
    {text : Text}
    (requested : ledger.Requested (.text text)) :
    KeySource.remembers memoized.2 text = true :=
  (accounts.remembers_iff text).mpr ⟨text, requested text rfl, rfl⟩

/-- The memo of an allocated cell is empty or the key of the content. -/
theorem memo_eq_none_or
    (accounts : ledger.Accounts memoized plain)
    {cell : CellId}
    {content : String}
    (allocated : ledger.contents[cell]? = some content) :
    memoized.2.keys.cells.get? cell = none ∨
      memoized.2.keys.cells.get? cell =
        some ⟨.string, Digest.ofString content⟩ := by
  rw [accounts.session_eq, keys_remembering]
  cases held : ledger.memo.cells.get? cell with
  | none => exact Or.inl rfl
  | some key =>
      have keyEq : key = Key.ofString content :=
        Memo.Faithful.remembered ledger.faithful_memo ⟨cell, content⟩ allocated
          key held
      rw [keyEq]
      exact Or.inr rfl

variable [HostFunctions]

/-- A run that goes on is accounted for by a later ledger. -/
theorem runFrom
    (accounts : ledger.Accounts memoized plain)
    (steps : List Step) :
    ∃ later : Ledger,
      ledger.Grows ((Step.eventsAll steps plain.2).flatMap Event.requested)
        later ∧
      later.Accounts (Step.runFrom memoized.2 steps)
        (Step.runFrom plain.2 steps) := by
  obtain ⟨later, grows, describes, session_eq, answers⟩ :=
    Step.tracked_runAll accounts.describes steps
  rw [← accounts.session_eq] at session_eq answers
  exact ⟨later, grows, describes, session_eq, answers⟩

/-- What is remembered stays as it is. -/
theorem get?_runFrom
    (accounts : ledger.Accounts memoized plain)
    {cell : CellId}
    {key : Key}
    (held : memoized.2.keys.cells.get? cell = some key)
    (more : List Step) :
    (Step.runFrom memoized.2 more).2.keys.cells.get? cell = some key := by
  obtain ⟨later, grows, laterAccounts⟩ := accounts.runFrom more
  rw [accounts.session_eq, keys_remembering] at held
  rw [laterAccounts.session_eq, keys_remembering, grows.memo_eq]
  exact Memo.get?_askAll_of_eq_some held _

end Accounts
end Ledger

/-! ## The memo is unobservable -/

variable [HostFunctions]

/-- The memo is unobservable. A run with a memo has the answers of the run that
computes every key anew, except where it asks what is remembered, and leaves the
same session but for the memo. Every text that it holds has a cell allocated for
its content; the memo of an allocated cell is empty or the key of the content,
and however the run goes on, a filled cell keeps its key. -/
theorem memo_is_unobservable (sink : Sink) (steps : List Step) :
    let memoized : Run Memo := Step.runFrom (.start {} sink) steps
    let plain : Run Recompute := Step.runFrom (.start {} sink) steps
    SameOutcome (List.Forall₂ Answer.Agrees) memoized.1 plain.1 ∧
      memoized.2 = { plain.2 with keys := memoized.2.keys } ∧
      (∃ contents : List String, contents.length = memoized.2.cells ∧
        (∀ text, memoized.Holds (.text text) ->
          contents[text.cell]? = some text.content) ∧
        ∀ cell content, contents[cell]? = some content ->
          memoized.2.keys.cells.get? cell = none ∨
            memoized.2.keys.cells.get? cell =
              some ⟨.string, Digest.ofString content⟩) ∧
      ∀ cell key, memoized.2.keys.cells.get? cell = some key ->
        ∀ more, (Step.runFrom memoized.2 more).2.keys.cells.get? cell =
          some key := by
  intro memoized plain
  obtain ⟨ledger, _, accounts⟩ := (Ledger.Accounts.start sink).runFrom steps
  change ledger.Accounts memoized plain at accounts
  refine ⟨accounts.agree, ?_, ⟨ledger.contents, ?_, ?_, ?_⟩, ?_⟩
  case refine_1 =>
    rw [accounts.session_eq]
    rfl
  case refine_2 =>
    rw [accounts.session_eq, cells_remembering]
    exact accounts.describes.cells_eq.symm
  case refine_3 =>
    intro text held
    exact (accounts.covers held).known
  case refine_4 =>
    intro cell content allocated
    exact accounts.memo_eq_none_or allocated
  case refine_5 =>
    intro cell key held more
    exact accounts.get?_runFrom held more

end

/-- A set is rejected for its second element, but the key of the first one was
asked for and stays. Only the question what is remembered shows it. -/
theorem memo_is_unobservable_through_rejection :
    let steps : List Step :=
      [.evaluate (.literal (.text "ab")) (some "t"),
        .observe (.cached (.ref "t")),
        .evaluate (.literal (.set [.ref "t", .null])) none,
        .observe (.cached (.ref "t"))]
    let memoized : Run Memo := Step.runFrom (.start {} .discard) steps
    let plain : Run Recompute := Step.runFrom (.start {} .discard) steps
    let rejection : Answer := .value (.failure
      ⟨.unsupported, "unusable as hash key: NULL"⟩)
    memoized.1 = .ok [.value (.text ⟨0, "ab"⟩), .cached false, rejection,
        .cached true] ∧
      plain.1 = .ok [.value (.text ⟨0, "ab"⟩), .cached false, rejection,
        .cached false] ∧
      SameOutcome (List.Forall₂ Answer.Agrees) memoized.1 plain.1 ∧
      memoized.Holds (.text ⟨0, "ab"⟩) ∧
      (∃ contents : List String, contents.length = 1 ∧
        contents[0]? = some "ab") ∧
      ∀ more, (Step.runFrom memoized.2 more).2.keys.cells.get? 0 =
        some ⟨.string, Digest.ofString "ab"⟩ := by
  intro steps memoized plain rejection
  have held : memoized.Holds (.text ⟨0, "ab"⟩) :=
    @Run.Holds.named _ _ memoized "t" _ rfl
  obtain ⟨agree, _, ⟨contents, count, allocated, _⟩, stays⟩ :=
    memo_is_unobservable .discard steps
  exact ⟨rfl, rfl, agree, held, ⟨contents, count, allocated _ held⟩,
    stays 0 _ rfl⟩

/-! ## Requests fill the memo -/

section

variable [Embedding] [HostFunctions]

/-- The memo is filled exactly by requests for keys. At every point of a run a
text is remembered just when its key was asked for in the events so far, through
any copy of the text, and this is what the run is told when it asks. So every
text is remembered that belongs to a set or keys a hash in what the run holds. -/
theorem remembers_iff_requestedIn (sink : Sink) (steps : List Step) :
    let memoized : Run Memo := Step.runFrom (.start {} sink) steps
    let plain : Run Recompute := Step.runFrom (.start {} sink) steps
    let events := Step.eventsAll steps (.start {} sink)
    (∀ text, KeySource.remembers memoized.2 text = true ↔
        RequestedIn events text) ∧
      (∀ literal text next,
        (Literal.eval literal).run.run memoized.2 = (.ok (.text text), next) ->
          ∃ remembered,
            (Observation.cached literal).observe.run.run memoized.2 =
              (.ok (.cached remembered), next) ∧
            (remembered = true ↔
              RequestedIn (events ++ literal.events plain.2) text)) ∧
      (∀ members : MemberSet, memoized.Holds (.set members) ->
        ∀ key text, (key, .text text) ∈ members.entries ->
          KeySource.remembers memoized.2 text = true) ∧
      ∀ pairs : Hash, memoized.Holds (.hash pairs) ->
        ∀ key text value, (key, .text text, value) ∈ pairs.entries ->
          KeySource.remembers memoized.2 text = true := by
  intro memoized plain events
  obtain ⟨ledger, grows, accounts⟩ := (Ledger.Accounts.start sink).runFrom steps
  change ledger.Accounts memoized plain at accounts
  have requested : ledger.requested = events.flatMap Event.requested :=
    grows.requested
  refine ⟨?_, ?_, ?_, ?_⟩
  case refine_1 =>
    intro text
    rw [accounts.remembers_iff, requestedIn_iff_mem_flatMap, requested]
  case refine_2 =>
    intro literal text next evaluated
    obtain ⟨later, laterGrows, _, session_eq, _⟩ :=
      Literal.tracked_eval accounts.describes literal
    rw [← accounts.session_eq, evaluated] at session_eq
    refine ⟨KeySource.remembers next text, ?_, ?_⟩
    · rw [Observation.observe, ExceptT.run_bind, StateT.run_bind, evaluated]
      rfl
    · rw [requestedIn_iff_mem_flatMap, List.flatMap_append, ← requested,
        ← laterGrows.requested, ← later.remembers_memo_iff]
      change next = _ at session_eq
      rw [session_eq]
      exact Iff.rfl
  case refine_3 =>
    intro members held key text member
    cases accounts.covers held with
    | set membersRequested =>
        exact accounts.remembers_of_requested (membersRequested _ member)
  case refine_4 =>
    intro pairs held key text value member
    cases accounts.covers held with
    | hash keysRequested _ =>
        exact accounts.remembers_of_requested (keysRequested _ member)

end

/-- A hash asks for its key and not for its value, and pushing the value onto an
array does not ask for it either. That the two texts have one content plays no
part. -/
theorem remembers_iff_requestedIn_of_copies :
    let steps : List Step :=
      [.evaluate (.literal (.text "k")) (some "key"),
        .evaluate (.literal (.text "k")) (some "value"),
        .evaluate (.literal (.hash [(.ref "key", .ref "value")])) (some "hash"),
        .evaluate (.call "push" [.array [], .ref "value"]) (some "array")]
    let memoized : Run Memo := Step.runFrom (.start {} .discard) steps
    let events := Step.eventsAll steps (.start {} .discard)
    let key : Text := ⟨0, "k"⟩
    let value : Text := ⟨1, "k"⟩
    let hash : Hash := ⟨[(.ofString "k", .text key, .text value)]⟩
    memoized.Holds (.hash hash) ∧
      RequestedIn events key ∧ ¬ RequestedIn events value ∧
      KeySource.remembers memoized.2 key = true ∧
      ∃ remembered,
        (Observation.cached (.ref "value")).observe.run.run memoized.2 =
          (.ok (.cached remembered), memoized.2) ∧
        remembered = false := by
  intro steps memoized events key value hash
  have held : memoized.Holds (.hash hash) :=
    @Run.Holds.named _ _ memoized "hash" _ rfl
  obtain ⟨remembers, told, _, keys⟩ := remembers_iff_requestedIn .discard steps
  have keyRemembered := keys hash held (.ofString "k") key (.text value)
    (List.mem_singleton.mpr rfl)
  have valueForgotten : ¬ RequestedIn events value := by
    rw [← remembers]
    exact Bool.false_ne_true
  refine ⟨held, (remembers key).mp keyRemembered, valueForgotten,
    keyRemembered, ?_⟩
  obtain ⟨remembered, answer, iff⟩ :=
    told (.ref "value") value memoized.2 rfl
  refine ⟨remembered, answer, ?_⟩
  change remembered = true ↔ RequestedIn (events ++ []) value at iff
  rw [List.append_nil] at iff
  exact Bool.eq_false_iff.mpr fun isRemembered =>
    valueForgotten (iff.mp isRemembered)

end Monkey
