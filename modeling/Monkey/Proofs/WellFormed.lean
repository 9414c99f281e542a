import Monkey.Proofs.Filing

/-!
# Well-formed values

Programs obtain hashes and sets only from the operations that build them, so
every collection inside a value they hold is filed: each entry stands under the
key of its own atom, and no key occurs twice. `Value.Built` lists the ways in
which values come about, and `Value.Built.wellFormed` derives the invariant.
-/

namespace Monkey

variable [Embedding]

namespace Value

/-! ## Induction over nested values -/

/-- A property of values holds of all of them when it passes from the parts of
a value to the value. -/
@[elab_as_elim]
theorem inductionOn
    {motive : Value -> Prop}
    (atom : ∀ value, motive (.atom value))
    (null : motive .null)
    (returned : ∀ value, motive value -> motive (.returned value))
    (failure : ∀ reason, motive (.failure reason))
    (closure : ∀ function, motive (.closure function))
    (builtin : ∀ function, motive (.builtin function))
    (array : ∀ items, (∀ item ∈ items, motive item) -> motive (.array items))
    (hash : ∀ pairs : Hash,
      (∀ entry ∈ pairs.entries, motive entry.2.2) -> motive (.hash pairs))
    (set : ∀ members, motive (.set members)) :
    ∀ value, motive value
  | .atom value => atom value
  | .null => null
  | .returned value =>
      returned value
        (inductionOn atom null returned failure closure builtin array hash set
          value)
  | .failure reason => failure reason
  | .closure function => closure function
  | .builtin function => builtin function
  | .array items =>
      array items fun item _member =>
        inductionOn atom null returned failure closure builtin array hash set
          item
  | .hash ⟨entries⟩ =>
      hash ⟨entries⟩ fun entry _member =>
        inductionOn atom null returned failure closure builtin array hash set
          entry.2.2
  | .set members => set members
  termination_by value => sizeOf value
  decreasing_by
    · simp
    · have smaller := List.sizeOf_lt_of_mem _member
      simp
      omega
    · have smaller := List.sizeOf_lt_of_mem _member
      obtain ⟨key, keyAtom, value⟩ := entry
      simp at smaller ⊢
      omega

/-! ## The invariant of each variant -/

@[simp] theorem wellFormed_atom (value : Atom) :
    (Value.atom value).WellFormed := trivial

@[simp] theorem wellFormed_null : Value.null.WellFormed := trivial

@[simp] theorem wellFormed_returned (value : Value) :
    (Value.returned value).WellFormed ↔ value.WellFormed := Iff.rfl

@[simp] theorem wellFormed_failure (reason : Failure) :
    (Value.failure reason).WellFormed := trivial

@[simp] theorem wellFormed_closure (function : Closure) :
    (Value.closure function).WellFormed := trivial

@[simp] theorem wellFormed_builtin (function : Builtin) :
    (Value.builtin function).WellFormed := trivial

@[simp] theorem wellFormed_array (items : List Value) :
    (Value.array items).WellFormed ↔ ∀ item ∈ items, item.WellFormed := by
  change ItemsWellFormed items ↔ _
  induction items with
  | nil => simp [ItemsWellFormed]
  | cons item rest inductionHypothesis =>
      simp [ItemsWellFormed, inductionHypothesis]

@[simp] theorem wellFormed_hash (pairs : Hash) :
    (Value.hash pairs).WellFormed ↔
      Filed Prod.fst pairs ∧
        ∀ entry ∈ pairs.entries, entry.2.2.WellFormed := by
  obtain ⟨entries⟩ := pairs
  change Filed Prod.fst ⟨entries⟩ ∧ PairsWellFormed entries ↔ _
  refine and_congr Iff.rfl ?_
  change _ ↔ ∀ entry ∈ entries, entry.2.2.WellFormed
  induction entries with
  | nil => simp [PairsWellFormed]
  | cons entry rest inductionHypothesis =>
      obtain ⟨key, keyAtom, value⟩ := entry
      simp [PairsWellFormed, inductionHypothesis]

@[simp] theorem wellFormed_set (members : MemberSet) :
    (Value.set members).WellFormed ↔ Filed id members := Iff.rfl

/-! ## Building values -/

/-- The values that programs can build. Hashes and sets come from the operations
that build them; what those operations answer does not depend on what a key
source remembers, so it is read off with every key computed anew. -/
inductive Built : Value -> Prop
  | atom (value : Atom) : Built (.atom value)
  | null : Built .null
  | returned {value : Value} : Built value -> Built (.returned value)
  | failure (reason : Failure) : Built (.failure reason)
  | closure (function : Closure) : Built (.closure function)
  | builtin (function : Builtin) : Built (.builtin function)
  | array {items : List Value} :
      (∀ item ∈ items, Built item) -> Built (.array items)
  /-- A hash of some pairs. -/
  | hash {pairs : List (Value × Value)} {hash : Hash} :
      (∀ pair ∈ pairs, Built pair.2) ->
        Recompute.answer (Hash.ofPairs pairs).run = .ok hash ->
          Built (.hash hash)
  /-- A set of some elements. -/
  | set {elements : List Value} {members : MemberSet} :
      Recompute.answer (MemberSet.ofElements elements).run = .ok members ->
        Built (.set members)
  /-- A set with one more element. -/
  | withElement {members extended : MemberSet} {element : Value} :
      Built (.set members) ->
        Recompute.answer (members.withElement element).run = .ok extended ->
          Built (.set extended)
  /-- The union of two sets. -/
  | union {left right : MemberSet} :
      Built (.set left) -> Built (.set right) ->
        Built (.set (MemberSet.union left right))

/-- A hash of some pairs is filed, and it holds only values of the pairs. -/
theorem filed_ofPairs
    {pairs : List (Value × Value)}
    {hash : Hash}
    (built : Recompute.answer (Hash.ofPairs pairs).run = .ok hash) :
    Filed Prod.fst hash ∧
      ∀ entry ∈ hash.entries, ∃ pair ∈ pairs, pair.2 = entry.2.2 := by
  have answers := answers_ofPairs (σ := Recompute)
    fun pair (_ : pair ∈ pairs) => pair.1.known_univ
  rw [answers.recompute] at built
  cases accepted : pairs.mapM Value.toEntry with
  | error rejected =>
      rw [accepted] at built
      cases built
  | ok entries =>
      rw [accepted] at built
      cases built
      refine ⟨(filed_empty _).fileAll entries, ?_⟩
      intro entry member
      rcases Table.mem_of_mem_fileAll member with filed | old
      · obtain ⟨pair, pairMember, toEntry⟩ :=
          exists_mem_of_mapM_eq_ok accepted filed
        exact ⟨pair, pairMember, ((toEntry_eq_ok_iff _ _).mp toEntry).2⟩
      · cases old

/-- A set of some elements is filed. -/
theorem filed_ofElements
    {elements : List Value}
    {members : MemberSet}
    (built : Recompute.answer (MemberSet.ofElements elements).run =
      .ok members) :
    Filed id members := by
  have answers := answers_ofElements (σ := Recompute)
    fun element (_ : element ∈ elements) => element.known_univ
  rw [answers.recompute] at built
  cases accepted : elements.mapM Value.toAtom with
  | error rejected =>
      rw [accepted] at built
      cases built
  | ok atoms =>
      rw [accepted] at built
      cases built
      exact (filed_empty _).fileAll atoms

/-- A filed set with one more element is filed. -/
theorem filed_withElement
    {members extended : MemberSet}
    {element : Value}
    (filed : Filed id members)
    (built : Recompute.answer (members.withElement element).run =
      .ok extended) :
    Filed id extended := by
  have answers := answers_withElement (σ := Recompute) members
    element.known_univ
  rw [answers.recompute] at built
  cases accepted : element.toAtom with
  | error rejected =>
      rw [accepted] at built
      cases built
  | ok atom =>
      rw [accepted] at built
      cases built
      exact filed.insert rfl

/-- Whatever programs build is well formed. -/
theorem Built.wellFormed
    {value : Value}
    (built : Built value) :
    value.WellFormed := by
  induction built with
  | atom | null | failure | closure | builtin => trivial
  | returned _ inductionHypothesis => exact inductionHypothesis
  | array _ inductionHypothesis =>
      exact (wellFormed_array _).mpr inductionHypothesis
  | hash _ built inductionHypothesis =>
      obtain ⟨filed, values⟩ := filed_ofPairs built
      refine (wellFormed_hash _).mpr ⟨filed, ?_⟩
      intro entry member
      obtain ⟨pair, pairMember, sameValue⟩ := values entry member
      rw [← sameValue]
      exact inductionHypothesis pair pairMember
  | set built => exact filed_ofElements built
  | withElement _ built inductionHypothesis =>
      exact filed_withElement inductionHypothesis built
  | union _ _ leftHypothesis rightHypothesis =>
      exact leftHypothesis.merge rightHypothesis

end Value
end Monkey
