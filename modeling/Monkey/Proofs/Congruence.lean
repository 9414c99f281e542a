import Monkey.Proofs.HashConstruction
import Monkey.Proofs.Outcome

/-!
# Operations respect equality

Equal values can be built apart: their hashes and sets in different orders, their
texts in cells of their own, their closures under other parameter names. No
operation but output can tell them apart. Given equal arguments, all builtins
except `puts` and all operations on hashes, sets and keys answer alike: with
equal values, with nothing on both sides, or with the same error.

`Value.Alike` says once what two equal values look like, constructor by
constructor; every operation is then compared along it.
-/

namespace Monkey

section

variable [Embedding]

/-! ## Equal values -/

namespace Value

/-- Two values are equal, as programs compare them. -/
def Equal (left right : Value) : Prop :=
  (left == right) = true

instance (left right : Value) : Decidable (left.Equal right) :=
  inferInstanceAs (Decidable ((left == right) = true))

/-- Two equal values that a program may hold. -/
structure Interchangeable (known : Set Text) (left right : Value) : Prop where
  leftWellFormed : left.WellFormed
  rightWellFormed : right.WellFormed
  leftKnown : left.Known known
  rightKnown : right.Known known
  equal : left.Equal right

/-- What two equal values look like. -/
inductive Alike : Value -> Value -> Prop
  | atom {left right : Atom} :
      (left == right) = true -> Alike (.atom left) (.atom right)
  | null : Alike .null .null
  | returned {left right : Value} :
      left.Equal right -> Alike (.returned left) (.returned right)
  | failure (reason : Failure) : Alike (.failure reason) (.failure reason)
  | closure {left right : Closure} :
      left.code = right.code -> left.scope = right.scope ->
        Alike (.closure left) (.closure right)
  | builtin {left right : Builtin} :
      left.name = right.name -> Alike (.builtin left) (.builtin right)
  | array {left right : List Value} :
      List.Forall₂ Equal left right -> Alike (.array left) (.array right)
  | hash {left right : Hash} :
      Filed Prod.fst left -> Filed Prod.fst right ->
        Matches SamePair left.get? right.get? ->
          Alike (.hash left) (.hash right)
  | set {left right : MemberSet} :
      Filed id left -> Filed id right ->
        Matches (fun member other => (member == other) = true)
          left.get? right.get? ->
          Alike (.set left) (.set right)

theorem beqItems_iff_forall₂ (left right : List Value) :
    beqItems left right = true ↔ List.Forall₂ Equal left right := by
  induction left generalizing right with
  | nil => cases right <;> simp [beqItems]
  | cons item items inductionHypothesis =>
      cases right with
      | nil => simp [beqItems]
      | cons other others =>
          rw [beqItems, Bool.and_eq_true, inductionHypothesis,
            List.forall₂_cons]
          rfl

theorem equal_array_iff (left right : List Value) :
    (Value.array left).Equal (.array right) ↔
      List.Forall₂ Equal left right :=
  beqItems_iff_forall₂ left right

theorem equal_failure (reason : Failure) :
    (Value.failure reason).Equal (.failure reason) :=
  (failure_beq_iff reason _).mpr rfl

namespace Interchangeable

variable {known : Set Text} {left right : Value}

/-- Equal values look alike. -/
theorem alike (same : Interchangeable known left right) :
    Alike left right := by
  obtain ⟨leftWellFormed, rightWellFormed, _, _, equal⟩ := same
  cases left with
  | atom atom =>
      obtain ⟨other, rfl, sameAtom⟩ := (atom_beq_iff _ _).mp equal
      exact .atom sameAtom
  | null =>
      obtain rfl := (null_beq_iff _).mp equal
      exact .null
  | returned value =>
      obtain ⟨other, rfl, sameValue⟩ := (returned_beq_iff _ _).mp equal
      exact .returned sameValue
  | failure reason =>
      obtain rfl := (failure_beq_iff _ _).mp equal
      exact .failure reason
  | closure function =>
      obtain ⟨other, rfl, sameCode, sameScope⟩ := (closure_beq_iff _ _).mp equal
      exact .closure sameCode sameScope
  | builtin function =>
      obtain ⟨other, rfl, sameName⟩ := (builtin_beq_iff _ _).mp equal
      exact .builtin sameName
  | array items =>
      obtain ⟨others, rfl, _⟩ := (array_beq_iff _ _).mp equal
      exact .array ((equal_array_iff _ _).mp equal)
  | hash pairs =>
      obtain ⟨others, rfl, _⟩ := (hash_beq_iff _ _).mp equal
      have filed := ((wellFormed_hash _).mp leftWellFormed).1
      have othersFiled := ((wellFormed_hash _).mp rightWellFormed).1
      exact .hash filed othersFiled
        ((hash_beq_hash_iff filed.1 othersFiled.1).mp equal)
  | set members =>
      obtain ⟨others, rfl, _⟩ := (set_beq_iff _ _).mp equal
      exact .set leftWellFormed rightWellFormed
        ((set_beq_set_iff leftWellFormed.1 rightWellFormed.1).mp equal)

theorem kind_eq (same : Interchangeable known left right) :
    left.kind = right.kind :=
  kind_eq_of_beq same.equal

theorem isTruthy_eq (same : Interchangeable known left right) :
    left.isTruthy = right.isTruthy := by
  cases same.alike with
  | @atom atom other sameAtom =>
      have sameKind := Atom.kind_eq_of_beq sameAtom
      cases atom <;> cases other <;> cases sameKind <;>
        simp_all [isTruthy]
  | _ => rfl

/-- Equal values are the same kind of atom under the same key, or both none. -/
theorem toAtom (same : Interchangeable known left right) :
    SameOutcome (fun atom other => (atom == other) = true) left.toAtom
      right.toAtom := by
  cases same.alike with
  | atom sameAtom => exact .ok sameAtom
  | _ => exact .error _

theorem key?_eq (same : Interchangeable known left right) :
    left.key? = right.key? := by
  cases same.alike with
  | atom sameAtom => exact congrArg some (Atom.key_eq_of_beq sameAtom)
  | _ => rfl

end Interchangeable
end Value

/-! ## Equal collections -/

namespace MemberSet

/-- Two sets are equal as values. -/
def Equal (left right : MemberSet) : Prop :=
  (Value.set left).Equal (.set right)

/-- Filed sets that match are equal. -/
theorem equal_of_matches
    {left right : MemberSet}
    (leftFiled : Filed id left)
    (rightFiled : Filed id right)
    (matched : Matches (fun member other => (member == other) = true)
      left.get? right.get?) :
    left.Equal right :=
  (Value.set_beq_set_iff leftFiled.1 rightFiled.1).mpr matched

end MemberSet

namespace Hash

/-- Two hashes are equal as values. -/
def Equal (left right : Hash) : Prop :=
  (Value.hash left).Equal (.hash right)

end Hash

namespace Value

variable {known : Set Text}

/-- Two pairs of equal values. -/
def InterchangeablePair
    (known : Set Text)
    (left right : Value × Value) : Prop :=
  Interchangeable known left.1 right.1 ∧ Interchangeable known left.2 right.2

/-- Filing equal elements into equal sets gives equal sets, or rejects the first
one without a key on both sides. -/
theorem sameOutcome_fileElements
    {left right : MemberSet}
    (leftFiled : Filed id left)
    (rightFiled : Filed id right)
    (matched : Matches (fun member other => (member == other) = true)
      left.get? right.get?)
    {elements others : List Value}
    (same : List.Forall₂ (Interchangeable known) elements others) :
    SameOutcome MemberSet.Equal
      ((elements.mapM Value.toAtom).map (left.fileAll id))
      ((others.mapM Value.toAtom).map (right.fileAll id)) := by
  have atoms := SameOutcome.mapM (fun _ _ same => same.toAtom) same
  refine atoms.map fun atoms others connected => ?_
  apply MemberSet.equal_of_matches (leftFiled.fileAll _) (rightFiled.fileAll _)
  exact Table.matches_fileAll
    (fun _ _ sameAtom => Atom.key_eq_of_beq sameAtom) matched connected

theorem InterchangeablePair.toEntry
    {left right : Value × Value}
    (same : InterchangeablePair known left right) :
    SameOutcome SamePair (Value.toEntry left) (Value.toEntry right) :=
  same.1.toAtom.map fun _ _ sameAtom => ⟨sameAtom, same.2.equal⟩

/-- Filing equal pairs gives equal hashes, or rejects the first key that is not
hashable on both sides. -/
theorem sameOutcome_filePairs
    {pairs others : List (Value × Value)}
    (same : List.Forall₂ (InterchangeablePair known) pairs others) :
    SameOutcome Hash.Equal
      ((pairs.mapM Value.toEntry).map (Table.empty.fileAll Prod.fst))
      ((others.mapM Value.toEntry).map (Table.empty.fileAll Prod.fst)) := by
  have entries := SameOutcome.mapM (fun _ _ same => same.toEntry) same
  refine entries.map fun entries others connected => ?_
  have filed (entries : List (Atom × Value)) :=
    (filed_empty Prod.fst).fileAll entries
  refine (hash_beq_hash_iff (filed _).1 (filed _).1).mpr ?_
  exact Table.matches_fileAll
    (fun _ _ samePair => Atom.key_eq_of_beq samePair.1)
    (fun _ => .none) connected

/-- The union of equal sets is equal. -/
theorem equal_union
    {left right added otherAdded : MemberSet}
    (same : Interchangeable known (.set left) (.set right))
    (addedSame : Interchangeable known (.set added) (.set otherAdded)) :
    (left.union added).Equal (right.union otherAdded) := by
  cases same.alike with
  | set leftFiled rightFiled matched =>
      cases addedSame.alike with
      | set addedFiled otherFiled addedMatched =>
          exact MemberSet.equal_of_matches (leftFiled.merge addedFiled)
            (rightFiled.merge otherFiled)
            (Table.matches_merge matched addedMatched addedFiled.1 otherFiled.1)

end Value

/-! ## Builtins -/

/-- What relates the answers of an operation on the right number of arguments
relates all its answers, when it refuses any other number by the count alone. -/
theorem related_of_length
    {given : Value -> Value -> Prop}
    {α : Type}
    {related : α -> α -> Prop}
    {operation : List Value -> α}
    {want : Nat}
    (refusal : Nat -> α)
    (refuses : ∀ arguments, arguments.length ≠ want ->
      operation arguments = refusal arguments.length)
    (reflexive : ∀ count, related (refusal count) (refusal count))
    (accepts : ∀ arguments others, List.Forall₂ given arguments others ->
      arguments.length = want ->
        related (operation arguments) (operation others))
    {arguments others : List Value}
    (same : List.Forall₂ given arguments others) :
    related (operation arguments) (operation others) := by
  by_cases count : arguments.length = want
  · exact accepts arguments others same count
  · have otherCount : others.length ≠ want := same.length_eq ▸ count
    rw [refuses arguments count, refuses others otherCount, same.length_eq]
    exact reflexive _

omit [Embedding] in
theorem exists_of_forall₂_of_length_eq_one
    {α β : Type}
    {related : α -> β -> Prop}
    {left : List α}
    {right : List β}
    (connected : List.Forall₂ related left right)
    (one : left.length = 1) :
    ∃ first other, left = [first] ∧ right = [other] ∧ related first other := by
  obtain ⟨first, rfl⟩ := List.length_eq_one_iff.mp one
  cases connected with
  | cons firstConnected rest =>
      cases rest
      exact ⟨_, _, rfl, rfl, firstConnected⟩

omit [Embedding] in
theorem exists_of_forall₂_of_length_eq_two
    {α β : Type}
    {related : α -> β -> Prop}
    {left : List α}
    {right : List β}
    (connected : List.Forall₂ related left right)
    (two : left.length = 2) :
    ∃ first second other otherSecond,
      left = [first, second] ∧ right = [other, otherSecond] ∧
        related first other ∧ related second otherSecond := by
  obtain ⟨first, second, rfl⟩ := List.length_eq_two.mp two
  cases connected with
  | cons firstConnected rest =>
      cases rest with
      | cons secondConnected rest =>
          cases rest
          exact ⟨_, _, _, _, rfl, rfl, firstConnected, secondConnected⟩

namespace Builtin

open Value (Equal Interchangeable)

variable {known : Set Text} {arguments others : List Value}

theorem len_of_length_ne
    (arguments : List Value)
    (wrong : arguments.length ≠ 1) :
    len arguments = .error (.wrongArgumentCount arguments.length 1) := by
  unfold len
  split <;> first | rfl | exact absurd rfl wrong

theorem first_of_length_ne
    (arguments : List Value)
    (wrong : arguments.length ≠ 1) :
    first arguments = .error (.wrongArgumentCount arguments.length 1) := by
  unfold first
  split <;> first | rfl | exact absurd rfl wrong

theorem last_of_length_ne
    (arguments : List Value)
    (wrong : arguments.length ≠ 1) :
    last arguments = .error (.wrongArgumentCount arguments.length 1) := by
  unfold last
  split <;> first | rfl | exact absurd rfl wrong

theorem rest_of_length_ne
    (arguments : List Value)
    (wrong : arguments.length ≠ 1) :
    rest arguments = .error (.wrongArgumentCount arguments.length 1) := by
  unfold rest
  split <;> first | rfl | exact absurd rfl wrong

theorem union_of_length_ne
    (arguments : List Value)
    (wrong : arguments.length ≠ 2) :
    union arguments = .error (.wrongArgumentCount arguments.length 2) := by
  unfold union
  split <;> first | rfl | exact absurd rfl wrong

theorem push_of_length_ne
    {σ : Type}
    [KeySource σ]
    (arguments : List Value)
    (wrong : arguments.length ≠ 2) :
    (push arguments : ExceptT Fault (StateM σ) Value).run =
      pure (.error (.wrongArgumentCount arguments.length 2)) := by
  unfold push
  split <;> first | rfl | exact absurd rfl wrong

/-- A fault that only depends on the kind of an argument is the same for equal
arguments. -/
theorem sameOutcome_error
    {value other : Value}
    (same : Interchangeable known value other)
    (fault : Kind -> Fault) :
    SameOutcome Equal (.error (fault value.kind))
      (.error (fault other.kind)) := by
  rw [same.kind_eq]
  exact .error _

theorem sameOutcome_ofCount
    {count other : Nat}
    (same : count = other) :
    SameOutcome (ε := Fault) Equal (.ok (.ofCount count))
      (.ok (.ofCount other)) := by
  rw [same]
  exact .ok (Value.beq_refl trivial)

theorem sameOutcome_len
    (same : List.Forall₂ (Interchangeable known) arguments others) :
    SameOutcome Equal (len arguments) (len others) := by
  refine related_of_length (fun count => .error (.wrongArgumentCount count 1))
    len_of_length_ne (fun _ => .error _) ?_ same
  intro arguments others same one
  obtain ⟨value, other, rfl, rfl, valueSame⟩ :=
    exists_of_forall₂_of_length_eq_one same one
  cases valueSame.alike with
  | @atom atom other sameAtom =>
      have sameKind := Atom.kind_eq_of_beq sameAtom
      cases atom <;> cases other <;> cases sameKind
      case text.text.refl text other =>
        have sameContent := (Atom.text_beq_text _ _).mp sameAtom
        exact sameOutcome_ofCount (congrArg String.utf8ByteSize sameContent)
      all_goals exact .error _
  | array items => exact sameOutcome_ofCount items.length_eq
  | hash =>
      obtain ⟨_, ⟨⟩, sameSize, _⟩ := (Value.hash_beq_iff _ _).mp valueSame.equal
      exact sameOutcome_ofCount sameSize
  | set =>
      obtain ⟨_, ⟨⟩, sameSize, _⟩ := (Value.set_beq_iff _ _).mp valueSame.equal
      exact sameOutcome_ofCount sameSize
  | _ => exact .error _

/-- Equal lists start with equal items, or both with none. -/
theorem equal_head
    {items others : List Value}
    (same : List.Forall₂ Equal items others) :
    (items.head?.getD .null).Equal (others.head?.getD .null) := by
  cases same with
  | nil => rfl
  | cons firstSame _ => exact firstSame

theorem sameOutcome_first
    (same : List.Forall₂ (Interchangeable known) arguments others) :
    SameOutcome Equal (first arguments) (first others) := by
  refine related_of_length (fun count => .error (.wrongArgumentCount count 1))
    first_of_length_ne (fun _ => .error _) ?_ same
  intro arguments others same one
  obtain ⟨value, other, rfl, rfl, valueSame⟩ :=
    exists_of_forall₂_of_length_eq_one same one
  cases valueSame.alike with
  | array items => exact .ok (equal_head items)
  | atom => exact sameOutcome_error valueSame (.argumentMustBe "first" "ARRAY")
  | _ => exact .error _

theorem sameOutcome_last
    (same : List.Forall₂ (Interchangeable known) arguments others) :
    SameOutcome Equal (last arguments) (last others) := by
  refine related_of_length (fun count => .error (.wrongArgumentCount count 1))
    last_of_length_ne (fun _ => .error _) ?_ same
  intro arguments others same one
  obtain ⟨value, other, rfl, rfl, valueSame⟩ :=
    exists_of_forall₂_of_length_eq_one same one
  cases valueSame.alike with
  | @array items others itemsSame =>
      refine .ok ?_
      rw [List.getLast?_eq_head?_reverse, List.getLast?_eq_head?_reverse]
      exact equal_head (List.forall₂_reverse_iff.mpr itemsSame)
  | atom => exact sameOutcome_error valueSame (.argumentMustBe "last" "ARRAY")
  | _ => exact .error _

theorem sameOutcome_rest
    (same : List.Forall₂ (Interchangeable known) arguments others) :
    SameOutcome Equal (rest arguments) (rest others) := by
  refine related_of_length (fun count => .error (.wrongArgumentCount count 1))
    rest_of_length_ne (fun _ => .error _) ?_ same
  intro arguments others same one
  obtain ⟨value, other, rfl, rfl, valueSame⟩ :=
    exists_of_forall₂_of_length_eq_one same one
  cases valueSame.alike with
  | array items =>
      cases items with
      | nil => exact .ok rfl
      | cons _ restSame => exact .ok ((Value.equal_array_iff _ _).mpr restSame)
  | atom => exact sameOutcome_error valueSame (.argumentMustBe "rest" "ARRAY")
  | _ => exact .error _

theorem sameOutcome_union
    (same : List.Forall₂ (Interchangeable known) arguments others) :
    SameOutcome Equal (union arguments) (union others) := by
  refine related_of_length (fun count => .error (.wrongArgumentCount count 2))
    union_of_length_ne (fun _ => .error _) ?_ same
  intro arguments others same two
  obtain ⟨left, right, other, otherRight, rfl, rfl, leftSame, rightSame⟩ :=
    exists_of_forall₂_of_length_eq_two same two
  cases leftSame.alike with
  | set =>
      cases rightSame.alike with
      | set => exact .ok (Value.equal_union leftSame rightSame)
      | atom =>
          exact sameOutcome_error rightSame (.argumentMustBe "union" "SET")
      | _ => exact .error _
  | atom => exact sameOutcome_error leftSame (.argumentMustBe "union" "SET")
  | _ => exact .error _

end Builtin

/-! ## Operations of the prelude -/

/-- The operations of the library that write no output. -/
def Operation.isQuiet : Operation -> Bool
  | .len | .first | .last | .rest | .push | .union => true
  | .puts | .host _ => false

/-- What is found under a name of the prelude was filed under it. -/
theorem Prelude.mem_operations_of_get?
    {name : String}
    {builtin : Builtin}
    (found : Prelude.get? name = some builtin) :
    (name, builtin.operation) ∈ Prelude.operations := by
  obtain ⟨operation, operationFound, rfl⟩ := Option.map_eq_some_iff.mp found
  exact Table.mem_of_find? operationFound

/-- Only one name of the prelude stands for output. -/
theorem Prelude.isQuiet_operation
    {name : String}
    {builtin : Builtin}
    (found : Prelude.get? name = some builtin)
    (notOutput : name ≠ "puts") :
    builtin.operation.isQuiet := by
  have quiet : ∀ entry ∈ Prelude.operations,
      entry.1 ≠ "puts" -> entry.2.isQuiet := by
    simp [Prelude.operations, Operation.isQuiet]
  exact quiet _ (Prelude.mem_operations_of_get? found) notOutput

/-! ## Related answers -/

section SameAnswers

open Value (Equal Interchangeable InterchangeablePair)

variable {σ : Type} [KeySource σ] [LawfulKeySource σ] {known : Set Text}

/-- Two computations have answers, and the answers are related. -/
def SameAnswers {α : Type}
    (known : Set Text)
    (related : α -> α -> Prop)
    (computation other : StateM σ α) : Prop :=
  ∃ answer otherAnswer,
    Answers known computation answer ∧ Answers known other otherAnswer ∧
      related answer otherAnswer

theorem sameAnswers_requestKey?
    {value other : Value}
    (same : Interchangeable known value other) :
    SameAnswers known Eq (value.requestKey? : StateM σ (Option Key))
      other.requestKey? :=
  ⟨_, _, answers_requestKey? same.leftKnown,
    answers_requestKey? same.rightKnown, same.key?_eq⟩

/-- Hashes of equal pairs are equal, or the same key is rejected. -/
theorem sameAnswers_ofPairs
    {pairs others : List (Value × Value)}
    (same : List.Forall₂ (InterchangeablePair known) pairs others) :
    SameAnswers known (SameOutcome Hash.Equal)
      (Hash.ofPairs pairs : Filing σ Hash).run (Hash.ofPairs others).run := by
  refine ⟨_, _, answers_ofPairs ?_, answers_ofPairs ?_,
    Value.sameOutcome_filePairs same⟩
  · exact forall_left_of_forall₂ same fun _ _ pair => pair.1.leftKnown
  · exact forall_right_of_forall₂ same fun _ _ pair => pair.1.rightKnown

/-- Equal keys are looked up in equal hashes with equal results. -/
theorem sameAnswers_lookup
    {hash other : Hash}
    {key otherKey : Value}
    (same : Interchangeable known (.hash hash) (.hash other))
    (keySame : Interchangeable known key otherKey) :
    SameAnswers known (Option.Rel Equal)
      (hash.lookup key : StateM σ (Option Value)) (other.lookup otherKey) := by
  refine ⟨_, _, answers_lookup hash keySame.leftKnown,
    answers_lookup other keySame.rightKnown, ?_⟩
  rw [keySame.key?_eq]
  cases otherKey.key? with
  | none => exact .none
  | some key =>
      cases same.alike with
      | hash _ _ matched =>
          have atKey := matched key
          rw [Option.bind_some, Option.bind_some]
          generalize hash.get? key = entry at atKey ⊢
          generalize other.get? key = otherEntry at atKey ⊢
          cases atKey with
          | none => exact .none
          | some samePair => exact .some samePair.2

/-- Sets of equal elements are equal, or the same element is rejected. -/
theorem sameAnswers_ofElements
    {elements others : List Value}
    (same : List.Forall₂ (Interchangeable known) elements others) :
    SameAnswers known (SameOutcome MemberSet.Equal)
      (MemberSet.ofElements elements : Filing σ MemberSet).run
      (MemberSet.ofElements others).run := by
  refine ⟨_, _, answers_ofElements ?_, answers_ofElements ?_,
    Value.sameOutcome_fileElements (filed_empty id) (filed_empty id)
      (fun _ => .none) same⟩
  · exact forall_left_of_forall₂ same fun _ _ element => element.leftKnown
  · exact forall_right_of_forall₂ same fun _ _ element => element.rightKnown

/-- Equal sets with one more equal element each are equal, or the element is
rejected for both. -/
theorem sameAnswers_withElement
    {members others : MemberSet}
    {element other : Value}
    (same : Interchangeable known (.set members) (.set others))
    (elementSame : Interchangeable known element other) :
    SameAnswers known (SameOutcome MemberSet.Equal)
      (members.withElement element : Filing σ MemberSet).run
      (others.withElement other).run := by
  refine ⟨_, _, answers_withElement members elementSame.leftKnown,
    answers_withElement others elementSame.rightKnown, ?_⟩
  cases same.alike with
  | set filed othersFiled matched =>
      refine elementSame.toAtom.map fun atom otherAtom sameAtom => ?_
      refine MemberSet.equal_of_matches (filed.fileAll [atom])
        (othersFiled.fileAll [otherAtom]) ?_
      exact Table.matches_fileAll
        (fun _ _ sameAtom => Atom.key_eq_of_beq sameAtom) matched
        (.cons sameAtom .nil)

/-- Whether a value belongs to a set depends on both up to equality. -/
theorem sameAnswers_contains
    {members others : MemberSet}
    {element other : Value}
    (same : Interchangeable known (.set members) (.set others))
    (elementSame : Interchangeable known element other) :
    SameAnswers known Eq (members.contains element : StateM σ Bool)
      (others.contains other) := by
  refine ⟨_, _, answers_contains members elementSame.leftKnown,
    answers_contains others elementSame.rightKnown, ?_⟩
  rw [elementSame.key?_eq]
  cases same.alike with
  | set _ _ matched =>
      cases other.key? with
      | none => rfl
      | some key => exact matched.isSome_eq key

/-! ## Builtins with requests -/

/-- Pushing equal values onto equal arrays or sets gives equal ones. -/
theorem sameAnswers_push
    {arguments others : List Value}
    (same : List.Forall₂ (Interchangeable known) arguments others) :
    SameAnswers known (SameOutcome Equal)
      (Builtin.push arguments : ExceptT Fault (StateM σ) Value).run
      (Builtin.push others : ExceptT Fault (StateM σ) Value).run := by
  refine related_of_length
    (fun count => (pure (.error (.wrongArgumentCount count 2)) :
      StateM σ (Except Fault Value)))
    Builtin.push_of_length_ne (fun _ => ?_) ?_ same
  · exact ⟨_, _, Answers.pure _, Answers.pure _, .error _⟩
  intro arguments others same two
  obtain ⟨collection, item, other, otherItem, rfl, rfl, collectionSame,
    itemSame⟩ := exists_of_forall₂_of_length_eq_two same two
  cases collectionSame.alike with
  | array items =>
      refine ⟨_, _, Answers.pure _, Answers.pure _, .ok ?_⟩
      exact (Value.equal_array_iff _ _).mpr
        (List.rel_append items (.cons itemSame.equal .nil))
  | set =>
      obtain ⟨result, otherResult, answers, otherAnswers, outcome⟩ :=
        sameAnswers_withElement (σ := σ) collectionSame itemSame
      exact ⟨_, _, answers_push_set answers, answers_push_set otherAnswers,
        (outcome.mapError _).map fun _ _ equal => equal⟩
  | atom =>
      exact ⟨_, _, Answers.pure _, Answers.pure _, Builtin.sameOutcome_error
        collectionSame (.argumentMustBe "push" "ARRAY or SET")⟩
  | _ => exact ⟨_, _, Answers.pure _, Answers.pure _, .error _⟩

theorem sameAnswers_liftExcept
    {left right : Except Fault Value}
    (outcome : SameOutcome Equal left right) :
    SameAnswers known (SameOutcome Equal)
      (liftExcept left : ExceptT Fault (StateM σ) Value).run
      (liftExcept right : ExceptT Fault (StateM σ) Value).run := by
  cases outcome with
  | ok equal => exact ⟨_, _, Answers.pure _, Answers.pure _, .ok equal⟩
  | error fault => exact ⟨_, _, Answers.pure _, Answers.pure _, .error fault⟩

section Calls

variable [LineSink σ] [HostCalls σ]

/-- Every operation of the library without output respects equality. -/
theorem sameAnswers_perform
    {operation : Operation}
    (quiet : operation.isQuiet)
    {arguments others : List Value}
    (same : List.Forall₂ (Interchangeable known) arguments others) :
    SameAnswers known (SameOutcome Equal)
      (operation.perform arguments : ExceptT Fault (StateM σ) Value).run
      (operation.perform others : ExceptT Fault (StateM σ) Value).run := by
  cases operation with
  | len => exact sameAnswers_liftExcept (Builtin.sameOutcome_len same)
  | first => exact sameAnswers_liftExcept (Builtin.sameOutcome_first same)
  | last => exact sameAnswers_liftExcept (Builtin.sameOutcome_last same)
  | rest => exact sameAnswers_liftExcept (Builtin.sameOutcome_rest same)
  | push => exact sameAnswers_push same
  | union => exact sameAnswers_liftExcept (Builtin.sameOutcome_union same)
  | puts | host => cases quiet

/-- Calling a builtin of the library without output shows a program equal values. -/
theorem sameAnswers_call
    {builtin : Builtin}
    (quiet : builtin.operation.isQuiet)
    {arguments others : List Value}
    (same : List.Forall₂ (Interchangeable known) arguments others) :
    SameAnswers known Equal (builtin.call arguments : StateM σ Value)
      (builtin.call others) := by
  obtain ⟨outcome, otherOutcome, answers, otherAnswers, agree⟩ :=
    sameAnswers_perform (σ := σ) quiet same
  cases agree with
  | ok equal =>
      exact ⟨_, _, answers.bind (Answers.pure _),
        otherAnswers.bind (Answers.pure _), equal⟩
  | error fault =>
      exact ⟨_, _, answers.bind (Answers.pure _),
        otherAnswers.bind (Answers.pure _), Value.equal_failure _⟩

/-- Calling any builtin but `puts` by name shows a program equal values. -/
theorem sameAnswers_preludeCall
    {name : String}
    (quiet : name ≠ "puts")
    {arguments others : List Value}
    (same : List.Forall₂ (Interchangeable known) arguments others) :
    SameAnswers known (Option.Rel Equal)
      (Prelude.call name arguments : StateM σ (Option Value))
      (Prelude.call name others) := by
  unfold Prelude.call
  cases found : Prelude.get? name with
  | none => exact ⟨_, _, Answers.pure _, Answers.pure _, .none⟩
  | some builtin =>
      obtain ⟨answer, otherAnswer, answers, otherAnswers, equal⟩ :=
        sameAnswers_call (σ := σ) (Prelude.isQuiet_operation found quiet) same
      exact ⟨_, _, answers.map some, otherAnswers.map some, .some equal⟩

/-! ## All operations -/

/-- Equality is a congruence. Whichever lawful source gives the keys, equal
arguments get answers that agree: from every builtin but `puts`, from building,
extending, joining and querying hashes and sets, from requests for keys, and for
the kind and the truth of a value. Agreeing means equal values, the same error,
or nothing on both sides. -/
theorem operations_respect_equality (σ : Type)
    [KeySource σ]
    [LawfulKeySource σ]
    [LineSink σ]
    [HostCalls σ]
    (known : Set Text) :
    (∀ name, name ≠ "puts" ->
      ∀ arguments others,
        List.Forall₂ (Interchangeable known) arguments others ->
          SameAnswers known (Option.Rel Equal)
            (Prelude.call name arguments : StateM σ (Option Value))
            (Prelude.call name others)) ∧
    (∀ pairs others,
      List.Forall₂ (InterchangeablePair known) pairs others ->
        SameAnswers known (SameOutcome Hash.Equal)
          (Hash.ofPairs pairs : Filing σ Hash).run
          (Hash.ofPairs others).run) ∧
    (∀ hash other : Hash, Interchangeable known (.hash hash) (.hash other) ->
      ∀ key otherKey, Interchangeable known key otherKey ->
        SameAnswers known (Option.Rel Equal)
          (Hash.lookup hash key : StateM σ (Option Value))
          (Hash.lookup other otherKey)) ∧
    (∀ elements others,
      List.Forall₂ (Interchangeable known) elements others ->
        SameAnswers known (SameOutcome MemberSet.Equal)
          (MemberSet.ofElements elements : Filing σ MemberSet).run
          (MemberSet.ofElements others).run) ∧
    (∀ members others : MemberSet,
      Interchangeable known (.set members) (.set others) ->
      (∀ element other, Interchangeable known element other ->
        SameAnswers known (SameOutcome MemberSet.Equal)
            (MemberSet.withElement members element : Filing σ MemberSet).run
            (MemberSet.withElement others other).run ∧
          SameAnswers known Eq
            (MemberSet.contains members element : StateM σ Bool)
            (MemberSet.contains others other)) ∧
      ∀ added otherAdded : MemberSet,
        Interchangeable known (.set added) (.set otherAdded) ->
          (MemberSet.union members added).Equal
            (MemberSet.union others otherAdded)) ∧
    ∀ value other, Interchangeable known value other ->
      SameAnswers known Eq (value.requestKey? : StateM σ (Option Key))
          other.requestKey? ∧
        value.kind = other.kind ∧ value.isTruthy = other.isTruthy := by
  refine ⟨?_, ?_, ?_, ?_, ?_, ?_⟩
  case refine_1 =>
    intro name quiet arguments others same
    exact sameAnswers_preludeCall quiet same
  case refine_2 =>
    intro pairs others same
    exact sameAnswers_ofPairs same
  case refine_3 =>
    intro hash other same key otherKey keySame
    exact sameAnswers_lookup same keySame
  case refine_4 =>
    intro elements others same
    exact sameAnswers_ofElements same
  case refine_5 =>
    intro members others same
    constructor
    · intro element other elementSame
      exact ⟨sameAnswers_withElement same elementSame,
        sameAnswers_contains same elementSame⟩
    · intro added otherAdded addedSame
      exact Value.equal_union same addedSame
  case refine_6 =>
    intro value other same
    exact ⟨sameAnswers_requestKey? same, same.kind_eq, same.isTruthy_eq⟩

end Calls
end SameAnswers

end

/-- Sets and hashes of one content whose texts have cells of their own, in
different orders, with one closure under two lists of parameters: looking up and
pushing give equal values, and what cannot be pushed is refused for both. -/
theorem operations_respect_equality_of_values_built_apart :
    let first : Text := ⟨0, "a"⟩
    let second : Text := ⟨1, "a"⟩
    let known : Set Text := {first, second}
    let function : Value := .closure ⟨["x"], .int 0, 0, 0⟩
    let renamed : Value := .closure ⟨["y"], .int 0, 0, 0⟩
    let members : MemberSet := Table.empty.fileAll id [.text first, .int 1]
    let others : MemberSet := Table.empty.fileAll id [.int 1, .text second]
    let hash : Hash := Table.empty.fileAll Prod.fst
      [(.text first, function), (.int 1, .set members)]
    let other : Hash := Table.empty.fileAll Prod.fst
      [(.int 1, .set others), (.text second, renamed)]
    Faithful known ({} : Memo) ∧
      Value.Interchangeable known (.hash hash) (.hash other) ∧
      SameAnswers known (Option.Rel Value.Equal)
        (Hash.lookup hash (.text second) :
          StateM (Session Memo) (Option Value))
        (Hash.lookup other (.text first)) ∧
      SameAnswers known (Option.Rel Value.Equal)
        (Prelude.call "push" [.set members, .text second] :
          StateM (Session Memo) (Option Value))
        (Prelude.call "push" [.set others, .text first]) ∧
      SameAnswers known (Option.Rel Value.Equal)
        (Prelude.call "push" [.set members, .array [function]] :
          StateM (Session Memo) (Option Value))
        (Prelude.call "push" [.set others, .array [renamed]]) := by
  intro first second known function renamed members others hash other
  have faithful : Faithful known ({} : Memo) :=
    Memo.faithful_of_distinct_cells [first, second] (by simp [known])
      (by simp [first, second])
  have membersFiled : Filed id members := (filed_empty id).fileAll _
  have othersFiled : Filed id others := (filed_empty id).fileAll _
  have setSame : Value.Interchangeable known (.set members) (.set others) :=
    ⟨membersFiled, othersFiled, trivial, trivial, by decide⟩
  have hashSame : Value.Interchangeable known (.hash hash) (.hash other) := by
    refine ⟨?_, ?_, trivial, trivial, by decide⟩
    · refine (Value.wellFormed_hash _).mpr
        ⟨(filed_empty Prod.fst).fileAll _, ?_⟩
      change ∀ entry ∈ [_, _], _
      simp [function, membersFiled]
    · refine (Value.wellFormed_hash _).mpr
        ⟨(filed_empty Prod.fst).fileAll _, ?_⟩
      change ∀ entry ∈ [_, _], _
      simp [renamed, othersFiled]
  have textSame :
      Value.Interchangeable known (.text second) (.text first) :=
    ⟨trivial, trivial, Or.inr rfl, Or.inl rfl, by decide⟩
  have arraySame :
      Value.Interchangeable known (.array [function]) (.array [renamed]) :=
    ⟨by simp [function], by simp [renamed], trivial, trivial, by decide⟩
  obtain ⟨calls, _, lookups, _⟩ :=
    operations_respect_equality (Session Memo) known
  refine ⟨faithful, hashSame, ?_, ?_, ?_⟩
  · exact lookups hash other hashSame _ _ textSame
  · exact calls "push" (by decide) _ _ (.cons setSame (.cons textSame .nil))
  · exact calls "push" (by decide) _ _ (.cons setSame (.cons arraySame .nil))

end Monkey
