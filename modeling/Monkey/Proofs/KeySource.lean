import Monkey.Session
import Mathlib.Data.List.Nodup
import Mathlib.Data.Set.Insert

/-!
# Lawful key sources

A key source may remember what it answered, so its answers depend on its state.
They are right as long as it is asked about the texts of one program: a cell
belongs to one content, and what the cell remembers is the key of that content.
A lawful source names the states for which this holds of a set of texts, answers
rightly in them and never leaves them. Whatever is built on top of a lawful
source then has an answer of its own, `Answers`, in which the state plays no
part. `Asks` says besides which texts are asked for, in which order, and that
nothing else happens to the state.
-/

namespace Monkey

/-! ## Known texts -/

/-- The text that an atom is, if it is one, is known. -/
def Atom.Known (known : Set Text) : Atom -> Prop
  | .text value => value ∈ known
  | _ => True

/-- The text that a value is, if it is one, is known. -/
def Value.Known [Embedding] (known : Set Text) : Value -> Prop
  | .atom value => value.Known known
  | _ => True

@[simp] theorem Atom.known_univ (atom : Atom) : atom.Known Set.univ := by
  cases atom <;> trivial

@[simp] theorem Value.known_univ [Embedding] (value : Value) :
    value.Known Set.univ := by
  cases value with
  | atom value => exact value.known_univ
  | _ => trivial

/-! ## Lawful sources -/

/-- A source whose answers about known texts are right in its faithful
states. -/
class LawfulKeySource (σ : Type) [KeySource σ] where
  /-- The states that answer rightly about a set of texts. -/
  Faithful : Set Text -> σ -> Prop
  /-- A faithful state answers with the key of the content. -/
  request_eq :
    ∀ {known : Set Text} {state : σ} {text : Text},
      Faithful known state -> text ∈ known ->
        ((KeySource.request text).run state).1 = Key.ofString text.content
  /-- Requests lead from faithful states to faithful states. -/
  request_faithful :
    ∀ {known : Set Text} {state : σ} {text : Text},
      Faithful known state -> text ∈ known ->
        Faithful known ((KeySource.request text).run state).2

export LawfulKeySource (Faithful)

/-- Without a memory every state is faithful. -/
instance : LawfulKeySource Recompute where
  Faithful _ _ := True
  request_eq _ _ := rfl
  request_faithful _ _ := trivial

/-- A memo is faithful when known texts in one cell have one content, and what
the cell remembers is the key of that content. -/
structure Memo.Faithful (known : Set Text) (memo : Memo) : Prop where
  oneContent :
    ∀ text ∈ known, ∀ other ∈ known,
      text.cell = other.cell -> text.content = other.content
  remembered :
    ∀ text ∈ known, ∀ key,
      memo.cells.get? text.cell = some key -> key = Key.ofString text.content

theorem Memo.run_request_of_remembered
    {memo : Memo}
    {text : Text}
    {key : Key}
    (held : memo.cells.get? text.cell = some key) :
    (Memo.request text).run memo = (key, memo) := by
  simp [Memo.request, held]
  rfl

theorem Memo.run_request_of_absent
    {memo : Memo}
    {text : Text}
    (empty : memo.cells.get? text.cell = none) :
    (Memo.request text).run memo =
      (Key.ofString text.content,
        { memo with
          cells := memo.cells.insert text.cell (.ofString text.content) }) := by
  simp [Memo.request, empty]
  rfl

instance : LawfulKeySource Memo where
  Faithful := Memo.Faithful
  request_eq := by
    intro known memo text faithful member
    change ((Memo.request text).run memo).1 = _
    cases held : memo.cells.get? text.cell with
    | none => rw [Memo.run_request_of_absent held]
    | some key =>
        rw [Memo.run_request_of_remembered held]
        exact faithful.remembered text member key held
  request_faithful := by
    intro known memo text faithful member
    change Memo.Faithful known ((Memo.request text).run memo).2
    cases held : memo.cells.get? text.cell with
    | some key =>
        rw [Memo.run_request_of_remembered held]
        exact faithful
    | none =>
        rw [Memo.run_request_of_absent held]
        refine ⟨faithful.oneContent, ?_⟩
        intro other otherMember key found
        rw [Table.get?_insert] at found
        split at found
        next sameCell =>
          cases found
          rw [faithful.oneContent text member other otherMember sameCell]
        next => exact faithful.remembered other otherMember key found

/-- An empty memo is faithful to texts with cells of their own. -/
theorem Memo.faithful_empty
    {known : Set Text}
    (oneContent : ∀ text ∈ known, ∀ other ∈ known,
      text.cell = other.cell -> text.content = other.content) :
    Faithful known ({} : Memo) := by
  refine ⟨oneContent, ?_⟩
  intro text _ key found
  cases found

/-- An empty memo is faithful to texts among some that lie in distinct cells. -/
theorem Memo.faithful_of_distinct_cells
    {known : Set Text}
    (texts : List Text)
    (contained : ∀ text ∈ known, text ∈ texts)
    (distinct : (texts.map Text.cell).Nodup) :
    Faithful known ({} : Memo) := by
  apply faithful_empty
  intro text textKnown other otherKnown sameCell
  exact congrArg Text.content (List.inj_on_of_nodup_map distinct
    (contained text textKnown) (contained other otherKnown) sameCell)

/-- A session is as faithful as its source. -/
instance [Embedding] {κ : Type} [KeySource κ] [LawfulKeySource κ] :
    LawfulKeySource (Session κ) where
  Faithful known session := Faithful known session.keys
  request_eq := by
    intro known session text faithful member
    change ((KeySource.request text).run session.keys).1 = _
    exact LawfulKeySource.request_eq faithful member
  request_faithful := by
    intro known session text faithful member
    change Faithful known ((KeySource.request text).run session.keys).2
    exact LawfulKeySource.request_faithful faithful member

/-! ## Requests in turn -/

section Requests

variable {σ : Type} [KeySource σ]

/-- The state after asking for the keys of some texts, one after the other. -/
def askAll (texts : List Text) (state : σ) : σ :=
  texts.foldl (fun state text => ((KeySource.request text).run state).2) state

@[simp] theorem askAll_nil (state : σ) : askAll [] state = state := rfl

theorem askAll_cons
    (text : Text)
    (rest : List Text)
    (state : σ) :
    askAll (text :: rest) state =
      askAll rest ((KeySource.request text).run state).2 := rfl

theorem askAll_append
    (front back : List Text)
    (state : σ) :
    askAll (front ++ back) state = askAll back (askAll front state) :=
  List.foldl_append

theorem faithful_askAll
    [LawfulKeySource σ]
    {known : Set Text}
    {state : σ}
    (faithful : Faithful known state)
    {texts : List Text}
    (textsKnown : ∀ text ∈ texts, text ∈ known) :
    Faithful known (askAll texts state) := by
  induction texts generalizing state with
  | nil => exact faithful
  | cons text rest inductionHypothesis =>
      obtain ⟨textKnown, restKnown⟩ := List.forall_mem_cons.mp textsKnown
      rw [askAll_cons]
      exact inductionHypothesis
        (LawfulKeySource.request_faithful faithful textKnown) restKnown

end Requests

/-! ## Answers -/

variable {σ : Type} [KeySource σ] [LawfulKeySource σ] {known : Set Text}
variable {α β : Type}

/-- From every faithful state a computation has this answer and leaves a
faithful state. -/
def Answers
    (known : Set Text)
    (computation : StateM σ α)
    (answer : α) : Prop :=
  ∀ state, Faithful known state ->
    (computation.run state).1 = answer ∧
      Faithful known (computation.run state).2

namespace Answers

theorem pure (answer : α) :
    Answers known (Pure.pure answer : StateM σ α) answer := by
  intro state faithful
  exact ⟨rfl, faithful⟩

theorem bind
    {computation : StateM σ α}
    {next : α -> StateM σ β}
    {answer : α}
    {result : β}
    (first : Answers known computation answer)
    (second : Answers known (next answer) result) :
    Answers known (computation >>= next) result := by
  intro state faithful
  obtain ⟨answerEq, middleFaithful⟩ := first state faithful
  have rest := second _ middleFaithful
  rw [← answerEq] at rest
  exact rest

theorem map
    {computation : StateM σ α}
    {answer : α}
    (first : Answers known computation answer)
    (function : α -> β) :
    Answers known (function <$> computation) (function answer) := by
  intro state faithful
  obtain ⟨answerEq, middleFaithful⟩ := first state faithful
  exact ⟨congrArg function answerEq, middleFaithful⟩

/-- Computing every key anew gives the answer. -/
theorem recompute
    {computation : StateM Recompute α}
    {answer : α}
    (answers : Answers known computation answer) :
    Recompute.answer computation = answer :=
  (answers {} trivial).1

end Answers

/-- From every faithful state a computation has this answer, and all that it
does is to ask for the keys of these texts in turn. -/
structure Asks
    (known : Set Text)
    (computation : StateM σ α)
    (texts : List Text)
    (answer : α) : Prop where
  textsKnown : ∀ text ∈ texts, text ∈ known
  run_eq :
    ∀ state, Faithful known state ->
      computation.run state = (answer, askAll texts state)

namespace Asks

theorem pure (answer : α) :
    Asks known (Pure.pure answer : StateM σ α) [] answer where
  textsKnown := List.forall_mem_nil _
  run_eq _ _ := rfl

theorem bind
    {computation : StateM σ α}
    {next : α -> StateM σ β}
    {texts more : List Text}
    {answer : α}
    {result : β}
    (first : Asks known computation texts answer)
    (second : Asks known (next answer) more result) :
    Asks known (computation >>= next) (texts ++ more) result where
  textsKnown := List.forall_mem_append.mpr
    ⟨first.textsKnown, second.textsKnown⟩
  run_eq := by
    intro state faithful
    rw [StateT.run_bind, first.run_eq state faithful, askAll_append]
    exact second.run_eq _ (faithful_askAll faithful first.textsKnown)

theorem map
    {computation : StateM σ α}
    {texts : List Text}
    {answer : α}
    (first : Asks known computation texts answer)
    (function : α -> β) :
    Asks known (function <$> computation) texts (function answer) where
  textsKnown := first.textsKnown
  run_eq := by
    intro state faithful
    rw [StateT.run_map, first.run_eq state faithful]
    rfl

/-- What comes after asking asks for nothing more. -/
theorem bind_pure
    {computation : StateM σ α}
    {next : α -> StateM σ β}
    {texts : List Text}
    {answer : α}
    {result : β}
    (first : Asks known computation texts answer)
    (second : next answer = Pure.pure result) :
    Asks known (computation >>= next) texts result := by
  have both : Asks known (computation >>= next) (texts ++ []) result :=
    first.bind (second ▸ Asks.pure result)
  rwa [List.append_nil] at both

/-- What asks for known texts has an answer. -/
theorem answers
    {computation : StateM σ α}
    {texts : List Text}
    {answer : α}
    (asks : Asks known computation texts answer) :
    Answers known computation answer := by
  intro state faithful
  rw [asks.run_eq state faithful]
  exact ⟨rfl, faithful_askAll faithful asks.textsKnown⟩

end Asks

/-! ## Answers that may be rejections -/

theorem answers_filing_bind
    {filing : Filing σ α}
    {next : α -> Filing σ β}
    {answer : α}
    {result : Except Unhashable β}
    (first : Answers known filing.run (.ok answer))
    (second : Answers known (next answer).run result) :
    Answers known (filing >>= next).run result := by
  rw [ExceptT.run_bind]
  exact first.bind second

theorem asks_filing_pure (answer : α) :
    Asks known (Pure.pure answer : Filing σ α).run [] (.ok answer) :=
  Asks.pure (Except.ok answer)

theorem asks_filing_bind
    {filing : Filing σ α}
    {next : α -> Filing σ β}
    {texts more : List Text}
    {answer : α}
    {result : Except Unhashable β}
    (first : Asks known filing.run texts (.ok answer))
    (second : Asks known (next answer).run more result) :
    Asks known (filing >>= next).run (texts ++ more) result := by
  rw [ExceptT.run_bind]
  exact first.bind second

theorem asks_filing_bind_pure
    {filing : Filing σ α}
    {next : α -> Filing σ β}
    {texts : List Text}
    {answer : α}
    {result : β}
    (first : Asks known filing.run texts (.ok answer))
    (second : next answer = Pure.pure result) :
    Asks known (filing >>= next).run texts (.ok result) := by
  rw [ExceptT.run_bind]
  exact first.bind_pure (congrArg ExceptT.run second)

theorem asks_filing_bind_error
    {filing : Filing σ α}
    {texts : List Text}
    {rejected : Unhashable}
    (first : Asks known filing.run texts (.error rejected))
    (next : α -> Filing σ β) :
    Asks known (filing >>= next).run texts (.error rejected) := by
  rw [ExceptT.run_bind]
  exact first.bind_pure rfl

variable [Embedding]

/-- What a program sees of a filing: the value, or the failure for the rejected
one. -/
def Value.ofFiling : Except Unhashable Value -> Value
  | .ok value => value
  | .error rejected => .ofFault rejected.fault

theorem Filing.toValue_eq
    {σ : Type}
    (filing : Filing σ Value) :
    filing.toValue = Value.ofFiling <$> filing.run := by
  rw [map_eq_pure_bind]
  refine congrArg (filing.run >>= ·) (funext fun result => ?_)
  cases result <;> rfl

/-! ## Keys of atoms and values -/

/-- The key of an atom is computed from its content. Asking for it asks for the
text that the atom is, if it is one. -/
theorem asks_requestKey
    {atom : Atom}
    (atomKnown : atom.Known known) :
    Asks known (atom.requestKey : StateM σ Key)
      (Value.atom atom).asText?.toList atom.key := by
  cases atom with
  | int value => exact Asks.pure _
  | bool value => exact Asks.pure _
  | text value =>
      refine ⟨List.forall_mem_singleton.mpr atomKnown, ?_⟩
      intro state faithful
      exact Prod.ext (LawfulKeySource.request_eq faithful atomKnown) rfl

/-- Only atoms have keys. -/
theorem asks_requestKey?
    {value : Value}
    (valueKnown : value.Known known) :
    Asks known (value.requestKey? : StateM σ (Option Key))
      value.asText?.toList (value.asAtom?.map Atom.key) := by
  cases value with
  | atom value => exact (asks_requestKey valueKnown).map some
  | _ => exact Asks.pure _

theorem answers_requestKey?
    {value : Value}
    (valueKnown : value.Known known) :
    Answers known (value.requestKey? : StateM σ (Option Key))
      (value.asAtom?.map Atom.key) :=
  (asks_requestKey? valueKnown).answers

/-- A value as an atom, or rejected by its kind. -/
def Value.toAtom : Value -> Except Unhashable Atom
  | .atom value => .ok value
  | other => .error ⟨other.kind⟩

theorem Value.toAtom_eq_ok_iff (value : Value) (atom : Atom) :
    value.toAtom = .ok atom ↔ value = .atom atom := by
  cases value <;> simp [toAtom]

/-- Exactly the values of hashable kinds are atoms. -/
theorem Value.exists_toAtom_eq_ok_iff (value : Value) :
    (∃ atom, value.toAtom = .ok atom) ↔ value.kind.isHashable = true := by
  rw [isHashable_kind]
  cases value <;> simp [toAtom, asAtom?]

/-- The other values are rejected with their kind. -/
theorem Value.toAtom_eq_error_iff (value : Value) (rejected : Unhashable) :
    value.toAtom = .error rejected ↔
      value.kind.isHashable = false ∧ rejected = ⟨value.kind⟩ := by
  rw [isHashable_kind]
  cases value <;> simp [toAtom, asAtom?, eq_comm]

/-- A value is filed as the atom it is, under the key of that atom, or
rejected. -/
theorem asks_filed
    {value : Value}
    (valueKnown : value.Known known) :
    Asks known (value.filed : Filing σ (Key × Atom)).run value.asText?.toList
      (value.toAtom.map fun atom => (atom.key, atom)) := by
  cases value with
  | atom value =>
      have requested : Asks known
          (liftM (value.requestKey : StateM σ Key) : Filing σ Key).run
          (Value.atom value).asText?.toList (.ok value.key) :=
        (asks_requestKey valueKnown).map Except.ok
      exact asks_filing_bind_pure requested rfl
  | _ => exact Asks.pure _

end Monkey
