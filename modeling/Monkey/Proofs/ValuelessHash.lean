import Monkey.Proofs.Rebuilding

/-!
# Sets as hashes without values

A set files its elements as a hash files its keys. So a hash in which every
element of a list is a key with the value null says the same as the set of the
list: both are rejected for the same element, or they have one size, find the
same values and store the same atoms. The image of a set under
`Atom.withNull` is that hash, entry by entry, and filing one more atom in the
set files one more entry in the image.
-/

namespace Monkey

section

variable [Embedding]

/-! ## Null values -/

/-- A value as a key with the value null. -/
def Value.withNull (element : Value) : Value × Value :=
  (element, .null)

/-- An atom with the value null, as a hash stores it. -/
def Atom.withNull (atom : Atom) : Atom × Value :=
  (atom, .null)

/-- A hash accepts an element as a key when a set accepts it. -/
theorem Value.toEntry_withNull (element : Value) :
    Value.toEntry element.withNull = element.toAtom.map Atom.withNull := rfl

/-- Filing atoms files them with the value null. -/
theorem Table.map_withNull_fileAll
    (members : MemberSet)
    (atoms : List Atom) :
    (members.fileAll id atoms).map Atom.withNull =
      (members.map Atom.withNull).fileAll Prod.fst
        (atoms.map Atom.withNull) := by
  rw [fileAll, map_insertAll, List.map_map, fileAll, List.map_map]
  rfl

/-- A hash accepts the elements of a list as keys when a set accepts them. -/
theorem Value.mapM_toEntry_withNull (elements : List Value) :
    (elements.map withNull).mapM Value.toEntry =
      (elements.mapM toAtom).map (List.map Atom.withNull) := by
  induction elements with
  | nil => rfl
  | cons element rest inductionHypothesis =>
      rw [List.map_cons, List.mapM_cons, List.mapM_cons, inductionHypothesis,
        toEntry_withNull]
      cases element.toAtom <;> cases rest.mapM toAtom <;> rfl

/-- What filing makes of keys without values is the image of what it makes of the
elements, or the same rejection. -/
theorem Value.filed_withNull (elements : List Value) :
    ((elements.map withNull).mapM Value.toEntry).map
        (Table.empty.fileAll Prod.fst) =
      ((elements.mapM toAtom).map (Table.empty.fileAll id)).map
        (Table.map Atom.withNull) := by
  rw [mapM_toEntry_withNull]
  cases elements.mapM toAtom with
  | error rejected => rfl
  | ok atoms =>
      exact congrArg Except.ok
        (Table.map_withNull_fileAll Table.empty atoms).symm

/-! ## What the operations answer -/

section Answers

variable {σ : Type} [KeySource σ] [LawfulKeySource σ] {known : Set Text}

/-- A hash of keys without values is the image of the set of the keys, or
rejects the same key. -/
theorem answers_ofPairs_withNull
    {elements : List Value}
    (elementsKnown : ∀ element ∈ elements, element.Known known) :
    Answers known
      (Hash.ofPairs (elements.map Value.withNull) : Filing σ Hash).run
      (((elements.mapM Value.toAtom).map (Table.empty.fileAll id)).map
        (Table.map Atom.withNull)) := by
  have keysKnown : ∀ pair ∈ elements.map Value.withNull,
      pair.1.Known known := by
    intro pair member
    obtain ⟨element, elementMember, rfl⟩ := List.mem_map.mp member
    exact elementsKnown element elementMember
  rw [← Value.filed_withNull]
  exact answers_ofPairs keysKnown

/-- A value belongs to a set when lookup finds something under it in the image of
the set. -/
theorem answers_lookup_withNull
    (members : MemberSet)
    {value : Value}
    (valueKnown : value.Known known) :
    ∃ found : Option Value,
      Answers known (members.contains value : StateM σ Bool) found.isSome ∧
      Answers known
        (Hash.lookup (members.map Atom.withNull) value :
          StateM σ (Option Value)) found := by
  refine ⟨_, ?_, answers_lookup _ valueKnown⟩
  have answers := answers_contains (σ := σ) members valueKnown
  cases keyEq : value.key? with
  | none =>
      rw [keyEq] at answers
      exact answers
  | some key =>
      rw [keyEq, Option.any_some, Table.contains] at answers
      rw [Option.bind_some, Table.get?_map, Option.isSome_map,
        Option.isSome_map]
      exact answers

end Answers

/-- The image of a set lists the members of the set as its keys. -/
theorem MemberSet.perm_pairs_withNull (members : MemberSet) :
    (MemberSet.members members).Perm
      ((Hash.pairs (members.map Atom.withNull)).map Prod.fst) := by
  have listed : (members.entries.map Prod.snd).map Atom.withNull =
      (members.map Atom.withNull).entries.map Prod.snd :=
    (Table.map_snd_entries_map Atom.withNull members).symm
  have keysPerm :=
    (Hash.perm_pairs (members.map Atom.withNull)).map Prod.fst
  rw [← listed, List.map_map] at keysPerm
  refine members.perm_members.trans ?_
  simpa [Function.comp_def, Atom.withNull] using keysPerm.symm

/-! ## The agreement -/

/-- A set is a hash without values. The elements of a list make a set, and as
keys with the value null they make a hash; or both are rejected for the same
element, the first one that is not hashable. The set and the hash have the same
size. A value belongs to the set exactly when lookup in the hash finds it, and
under every key the hash stores the same atom as the set, with null; so the
members of the set are the keys that the hash lists. -/
theorem set_is_hash_without_values
    {σ : Type}
    [KeySource σ]
    [LawfulKeySource σ]
    {known : Set Text}
    {elements : List Value}
    (elementsKnown : ∀ element ∈ elements, element.Known known) :
    (∃ rejected,
      FirstUnhashable elements rejected ∧
      Answers known
        (MemberSet.ofElements elements : Filing σ MemberSet).run
        (.error rejected) ∧
      Answers known
        (Hash.ofPairs (elements.map fun element => (element, .null)) :
          Filing σ Hash).run (.error rejected)) ∨
    ∃ (members : MemberSet) (hash : Hash),
      Answers known
        (MemberSet.ofElements elements : Filing σ MemberSet).run
        (.ok members) ∧
      Answers known
        (Hash.ofPairs (elements.map fun element => (element, .null)) :
          Filing σ Hash).run (.ok hash) ∧
      members.size = hash.size ∧
      (∀ value : Value, value.Known known ->
        ∃ found : Option Value,
          Answers known (members.contains value : StateM σ Bool)
            found.isSome ∧
          Answers known (hash.lookup value : StateM σ (Option Value))
            found) ∧
      (∀ key, hash.get? key =
        (members.get? key).map fun atom => (atom, .null)) ∧
      (MemberSet.members members).Perm (hash.pairs.map Prod.fst) := by
  have setAnswer := answers_ofElements (σ := σ) elementsKnown
  have hashAnswer := answers_ofPairs_withNull (σ := σ) elementsKnown
  cases result : (elements.mapM Value.toAtom).map (Table.empty.fileAll id) with
  | error rejected =>
      left
      rw [result] at setAnswer hashAnswer
      have first :=
        (MemberSet.fileAll_eq_error_iff Table.empty elements rejected).mp result
      exact ⟨rejected, first, setAnswer, hashAnswer⟩
  | ok members =>
      right
      rw [result] at setAnswer hashAnswer
      refine ⟨members, members.map Atom.withNull, setAnswer, hashAnswer,
        (Table.size_map _ _).symm, ?_, Table.get?_map Atom.withNull members,
        MemberSet.perm_pairs_withNull members⟩
      intro value valueKnown
      exact answers_lookup_withNull members valueKnown

end

/-- Two texts that share a digest are one member and one key, and in both places
the later one stays; an array among the elements is what both reject. -/
theorem set_is_hash_without_values_of_colliding_texts :
    let first : Text := ⟨0, "7mohtcOFVz"⟩
    let second : Text := ⟨1, "c1E51sSEyx"⟩
    let known : Set Text := {first, second}
    let elements : List Value := [.text first, .bool true, .text second]
    let refused : List Value := [.text first, .array [], .null]
    Faithful known ({} : Memo) ∧
      (∃ (members : MemberSet) (hash : Hash),
        Answers known
          (MemberSet.ofElements elements :
            Filing (Session Memo) MemberSet).run (.ok members) ∧
        Answers known
          (Hash.ofPairs (elements.map fun element => (element, .null)) :
            Filing (Session Memo) Hash).run (.ok hash) ∧
        hash.size = 2 ∧
        hash.get? (.ofString "7mohtcOFVz") = some (.text second, .null)) ∧
      Answers known
        (Hash.ofPairs (refused.map fun element => (element, .null)) :
          Filing (Session Memo) Hash).run (.error ⟨.array⟩) := by
  intro first second known elements refused
  have firstKnown : (Value.text first).Known known := Or.inl rfl
  have secondKnown : (Value.text second).Known known := Or.inr rfl
  have faithful : Faithful known ({} : Memo) :=
    Memo.faithful_of_distinct_cells [first, second] (by simp [known])
      (by simp [first, second])
  let session : Session Memo := { keys := {} }
  have elementsKnown : ∀ element ∈ elements, element.Known known := by
    simpa [elements] using ⟨firstKnown, trivial, secondKnown⟩
  have refusedKnown : ∀ element ∈ refused, element.Known known := by
    simpa [refused, Value.Known] using firstKnown
  refine ⟨faithful, ?_, ?_⟩
  · rcases set_is_hash_without_values (σ := Session Memo) elementsKnown with
      ⟨rejected, first, _⟩ |
        ⟨members, hash, setAnswer, hashAnswer, size, _, sameAtoms, _⟩
    case inl =>
      have stopped := (Value.mapM_toAtom_eq_error_iff _ _).mpr first
      cases stopped
    case inr =>
      have built := (setAnswer session faithful).1
      cases built
      exact ⟨_, hash, setAnswer, hashAnswer, size.symm, sameAtoms _⟩
  · rcases set_is_hash_without_values (σ := Session Memo) refusedKnown with
      ⟨rejected, first, _, hashAnswer⟩ | ⟨members, _, setAnswer, _⟩
    case inl =>
      have stopped := (Value.mapM_toAtom_eq_error_iff _ _).mpr first
      cases stopped
      exact hashAnswer
    case inr =>
      cases (setAnswer session faithful).1

end Monkey
