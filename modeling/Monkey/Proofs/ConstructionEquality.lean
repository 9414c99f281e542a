import Monkey.Proofs.Congruence
import Monkey.Proofs.Rebuilding
import Mathlib.Data.Set.List

/-!
# Equal constructions

When do two lists of pairs build equal hashes, and two lists of elements equal
sets? Of all items under one key only the last one counts, so the lists are
compared key by key: the last items under the key must both be missing, or be
equal. Where every key comes once the order does not matter, and an item may be
repeated wherever it stays the last one under its key.
-/

namespace Monkey

section

variable [Embedding]

/-! ## The last item under a key -/

section LastUnder

variable {α β : Type} {subject : β -> Value}

/-- The last item of a list whose subject has a key. -/
def lastUnder?
    (subject : β -> Value)
    (items : List β)
    (key : Key) : Option β :=
  items.reverse.find? fun item => (subject item).key? == some key

/-- The last item comes from the later list, or else from the earlier one. -/
theorem lastUnder?_append
    (front back : List β)
    (key : Key) :
    lastUnder? subject (front ++ back) key =
      (lastUnder? subject back key).or (lastUnder? subject front key) := by
  simp only [lastUnder?, List.reverse_append, List.find?_append]

theorem lastUnder?_singleton_of_eq
    {item : β}
    {key : Key}
    (keyEq : (subject item).key? = some key) :
    lastUnder? subject [item] key = some item := by
  simp [lastUnder?, keyEq]

theorem lastUnder?_singleton_of_ne
    {item : β}
    {key : Key}
    (keyNe : (subject item).key? ≠ some key) :
    lastUnder? subject [item] key = none := by
  simp [lastUnder?, keyNe]

theorem lastUnder?_isSome_of_mem
    {items : List β}
    {item : β}
    {key : Key}
    (member : item ∈ items)
    (keyEq : (subject item).key? = some key) :
    (lastUnder? subject items key).isSome := by
  simp only [lastUnder?, List.find?_isSome, List.mem_reverse]
  exact ⟨item, member, by simp [keyEq]⟩

/-- The last item under a key is in the list and has the key. -/
theorem mem_of_lastUnder?
    {items : List β}
    {item : β}
    {key : Key}
    (last : lastUnder? subject items key = some item) :
    item ∈ items ∧ (subject item).key? = some key := by
  have member := List.mem_of_find?_eq_some last
  have keyEq := List.find?_some last
  exact ⟨List.mem_reverse.mp member, by simpa using keyEq⟩

/-- Where no two items share a key, each item is the last one under its own. -/
theorem lastUnder?_eq_some_iff
    {items : List β}
    (unique : ∀ item ∈ items, ∀ other ∈ items,
      (subject item).key? = (subject other).key? -> item = other)
    (key : Key)
    (item : β) :
    lastUnder? subject items key = some item ↔
      item ∈ items ∧ (subject item).key? = some key := by
  constructor
  · exact mem_of_lastUnder?
  · rintro ⟨member, keyEq⟩
    obtain ⟨last, found⟩ :=
      Option.isSome_iff_exists.mp (lastUnder?_isSome_of_mem member keyEq)
    obtain ⟨lastMember, lastKey⟩ := mem_of_lastUnder? found
    rw [found, unique item member last lastMember (keyEq.trans lastKey.symm)]

/-- A table that is filed from the start holds the last entry under each key. -/
theorem map_get?_fileAll_empty
    {atom : α -> Atom}
    {image : α -> β}
    (keyEq : ∀ entry, (subject (image entry)).key? = some (atom entry).key)
    (entries : List α)
    (key : Key) :
    ((Table.empty.fileAll atom entries).get? key).map image =
      lastUnder? subject (entries.map image) key := by
  -- From the last entry backwards: under its key it replaces all before it.
  induction entries using List.reverseRecOn with
  | nil => rfl
  | append_singleton front entry inductionHypothesis =>
      have filedLast : Table.empty.fileAll atom (front ++ [entry]) =
          (Table.empty.fileAll atom front).insert (atom entry).key entry :=
        Table.fileAll_append atom Table.empty front [entry]
      rw [filedLast, Table.get?_insert, List.map_append, List.map_singleton,
        lastUnder?_append]
      by_cases same : (atom entry).key = key
      · rw [if_pos same, lastUnder?_singleton_of_eq (by rw [keyEq, same])]
        rfl
      · rw [if_neg same, lastUnder?_singleton_of_ne (by simp [keyEq, same]),
          inductionHypothesis, Option.none_or]

/-! ## Lists that say the same -/

/-- The last items of two lists are both missing under a key, or related. -/
def SameLast
    (subject : β -> Value)
    (related : β -> β -> Prop)
    (items others : List β) : Prop :=
  Matches related (lastUnder? subject items) (lastUnder? subject others)

/-- A list says the same as another one: where every key comes once, in any order
and any number of times; and with an item once more where it comes again later
or already was the last one under its key. -/
inductive Restates (subject : β -> Value) : List β -> List β -> Prop
  | reorder {items others : List β} :
      (items.map fun item => (subject item).key?).Nodup ->
        (∀ item, item ∈ others ↔ item ∈ items) ->
          Restates subject items others
  | repeatEarlier {front back : List β} {item : β} :
      item ∈ back -> Restates subject (front ++ back) (front ++ item :: back)
  | repeatLast {front back : List β} {item : β} {key : Key} :
      (subject item).key? = some key ->
        lastUnder? subject front key = some item ->
          Restates subject (front ++ back) (front ++ item :: back)

/-- One more item changes nothing under a key that comes again later, or under
which it already was the last item. -/
theorem lastUnder?_insert_of_later
    {front back : List β}
    {item : β}
    {key : Key}
    (later : (subject item).key? = some key ->
      (lastUnder? subject back key).isSome ∨
        lastUnder? subject front key = some item) :
    lastUnder? subject (front ++ item :: back) key =
      lastUnder? subject (front ++ back) key := by
  rw [← List.singleton_append, lastUnder?_append, lastUnder?_append,
    lastUnder?_append front back]
  by_cases keyEq : (subject item).key? = some key
  · rw [lastUnder?_singleton_of_eq keyEq]
    rcases later keyEq with present | last
    · obtain ⟨found, foundEq⟩ := Option.isSome_iff_exists.mp present
      simp [foundEq]
    · rw [last, Option.or_assoc, Option.some_or]
  · rw [lastUnder?_singleton_of_ne keyEq, Option.or_none]

/-- A list that says the same has the same last items. -/
theorem Restates.lastUnder?_eq
    {items others : List β}
    (restates : Restates subject items others)
    (key : Key) :
    lastUnder? subject others key = lastUnder? subject items key := by
  cases restates with
  | reorder nodup sameItems =>
      -- Repetition gives no second item under a key, so membership decides.
      have unique : ∀ item ∈ items, ∀ other ∈ items,
          (subject item).key? = (subject other).key? -> item = other :=
        fun _ member _ otherMember =>
          List.inj_on_of_nodup_map nodup member otherMember
      have otherUnique : ∀ item ∈ others, ∀ other ∈ others,
          (subject item).key? = (subject other).key? -> item = other :=
        fun item member other otherMember =>
          unique item ((sameItems item).mp member) other
            ((sameItems other).mp otherMember)
      ext item
      rw [lastUnder?_eq_some_iff otherUnique, lastUnder?_eq_some_iff unique,
        sameItems]
  | repeatEarlier member =>
      apply lastUnder?_insert_of_later
      intro keyEq
      exact Or.inl (lastUnder?_isSome_of_mem member keyEq)
  | repeatLast itemKey last =>
      apply lastUnder?_insert_of_later
      intro keyEq
      obtain rfl := Option.some.inj (itemKey.symm.trans keyEq)
      exact Or.inr last

theorem Restates.sameLast
    {related : β -> β -> Prop}
    {items others : List β}
    (restates : Restates subject items others)
    (reflexive : ∀ item ∈ items, related item item) :
    SameLast subject related items others := by
  have sameLookup : lastUnder? subject others = lastUnder? subject items :=
    funext restates.lastUnder?_eq
  rw [SameLast, sameLookup]
  apply Matches.refl
  intro key item last
  exact reflexive item (mem_of_lastUnder? last).1

end LastUnder

/-! ## Filed entries and atoms -/

/-- Two pairs have equal keys and equal values. -/
def Value.EqualPair (pair other : Value × Value) : Prop :=
  pair.1.Equal other.1 ∧ pair.2.Equal other.2

/-- Hashes of entries are equal when the entries have the same last pairs. -/
theorem Hash.equal_fileAll_iff (entries others : List (Atom × Value)) :
    Hash.Equal (Table.empty.fileAll Prod.fst entries)
        (Table.empty.fileAll Prod.fst others) ↔
      SameLast Prod.fst Value.EqualPair (entries.map Value.ofEntry)
        (others.map Value.ofEntry) := by
  have filed (entries : List (Atom × Value)) :=
    (filed_empty Prod.fst).fileAll entries
  have lookup (entries : List (Atom × Value)) :=
    funext (map_get?_fileAll_empty Value.key?_ofEntry entries)
  rw [SameLast, ← lookup, ← lookup, Matches.map_iff]
  exact Value.hash_beq_hash_iff (filed entries).1 (filed others).1

/-- Sets of atoms are equal when the atoms have the same last elements. -/
theorem MemberSet.equal_fileAll_iff (atoms others : List Atom) :
    MemberSet.Equal (Table.empty.fileAll id atoms)
        (Table.empty.fileAll id others) ↔
      SameLast id Value.Equal (atoms.map .atom) (others.map .atom) := by
  have filed (atoms : List Atom) := (filed_empty id).fileAll atoms
  have lookup (atoms : List Atom) :
      (fun key => ((Table.empty.fileAll id atoms).get? key).map Value.atom) =
        lastUnder? id (atoms.map .atom) :=
    funext (map_get?_fileAll_empty (fun _ => rfl) atoms)
  rw [SameLast, ← lookup, ← lookup, Matches.map_iff]
  exact Value.set_beq_set_iff (filed atoms).1 (filed others).1

/-! ## What the operations answer -/

/-- Values of hashable kinds are atoms. -/
theorem Value.exists_eq_atom
    {value : Value}
    (hashable : value.kind.isHashable = true) :
    ∃ atom, value = .atom atom := by
  obtain ⟨atom, accepted⟩ := (exists_toAtom_eq_ok_iff value).mpr hashable
  exact ⟨atom, (toAtom_eq_ok_iff value atom).mp accepted⟩

omit [Embedding] in
/-- A list of images is the image of a list. -/
theorem exists_eq_map
    {α β : Type}
    {image : α -> β}
    {items : List β}
    (images : ∀ item ∈ items, ∃ entry, image entry = item) :
    ∃ entries : List α, entries.map image = items := by
  have inRange : items ∈ Set.range (List.map image) := by
    rw [Set.range_list_map]
    exact images
  exact inRange

section Answers

variable {σ : Type} [KeySource σ] [LawfulKeySource σ] {known : Set Text}

/-- Pairs with hashable keys are entries, and their hash holds them. -/
theorem answers_ofPairs_hashable
    {pairs : List (Value × Value)}
    (pairsKnown : ∀ pair ∈ pairs,
      pair.1.kind.isHashable = true ∧ pair.1.Known known) :
    ∃ entries : List (Atom × Value), entries.map Value.ofEntry = pairs ∧
      Answers known (Hash.ofPairs pairs : Filing σ Hash).run
        (.ok (Table.empty.fileAll Prod.fst entries)) := by
  have images : ∀ pair ∈ pairs, ∃ entry, Value.ofEntry entry = pair := by
    intro pair member
    obtain ⟨atom, atomEq⟩ := Value.exists_eq_atom (pairsKnown pair member).1
    exact ⟨(atom, pair.2), Prod.ext atomEq.symm rfl⟩
  obtain ⟨entries, rfl⟩ := exists_eq_map images
  refine ⟨entries, rfl, answers_ofPairs_entries ?_⟩
  intro entry member
  exact (pairsKnown _ (List.mem_map_of_mem member)).2

/-- Hashable elements are atoms, and their set holds them. -/
theorem answers_ofElements_hashable
    {elements : List Value}
    (elementsKnown : ∀ element ∈ elements,
      element.kind.isHashable = true ∧ element.Known known) :
    ∃ atoms : List Atom, atoms.map .atom = elements ∧
      Answers known (MemberSet.ofElements elements : Filing σ MemberSet).run
        (.ok (Table.empty.fileAll id atoms)) := by
  have images : ∀ element ∈ elements, ∃ atom, Value.atom atom = element := by
    intro element member
    obtain ⟨atom, atomEq⟩ :=
      Value.exists_eq_atom (elementsKnown element member).1
    exact ⟨atom, atomEq.symm⟩
  obtain ⟨atoms, rfl⟩ := exists_eq_map images
  refine ⟨atoms, rfl, answers_ofElements_atoms ?_⟩
  intro atom member
  exact (elementsKnown _ (List.mem_map_of_mem member)).2

end Answers

/-! ## Equal hashes and equal sets -/

/-- Two lists of pairs with hashable keys build equal hashes exactly when under
every key their last pairs are both missing, or have equal keys and equal values;
and two lists of hashable elements build equal sets exactly when under every key
their last elements are both missing, or equal. So a list that says the same as
another one builds an equal collection: one whose keys are distinct may be
permuted and its items repeated at will, and in any list an item may be repeated
wherever it stays the last one under its key. -/
theorem constructions_equal_iff_same_last
    (σ : Type)
    [KeySource σ]
    [LawfulKeySource σ]
    (known : Set Text) :
    (∀ pairs others : List (Value × Value),
      (∀ pair ∈ pairs ++ others,
        pair.1.kind.isHashable = true ∧ pair.1.Known known) ->
        ∃ left right : Hash,
          Answers known (Hash.ofPairs pairs : Filing σ Hash).run (.ok left) ∧
          Answers known (Hash.ofPairs others : Filing σ Hash).run
            (.ok right) ∧
          (left.Equal right ↔
            SameLast Prod.fst Value.EqualPair pairs others) ∧
          ((∀ pair ∈ pairs, pair.2.Built) ->
            Restates Prod.fst pairs others -> left.Equal right)) ∧
    (∀ elements others : List Value,
      (∀ element ∈ elements ++ others,
        element.kind.isHashable = true ∧ element.Known known) ->
        ∃ left right : MemberSet,
          Answers known
            (MemberSet.ofElements elements : Filing σ MemberSet).run
            (.ok left) ∧
          Answers known
            (MemberSet.ofElements others : Filing σ MemberSet).run
            (.ok right) ∧
          (left.Equal right ↔ SameLast id Value.Equal elements others) ∧
          (Restates id elements others -> left.Equal right)) := by
  refine ⟨?_, ?_⟩
  · intro pairs others allKnown
    obtain ⟨pairsKnown, othersKnown⟩ := List.forall_mem_append.mp allKnown
    obtain ⟨entries, rfl, answer⟩ :=
      answers_ofPairs_hashable (σ := σ) pairsKnown
    obtain ⟨otherEntries, rfl, otherAnswer⟩ :=
      answers_ofPairs_hashable (σ := σ) othersKnown
    have equalIff := Hash.equal_fileAll_iff entries otherEntries
    refine ⟨_, _, answer, otherAnswer, equalIff, ?_⟩
    intro built restates
    apply equalIff.mpr
    apply restates.sameLast
    intro pair member
    obtain ⟨entry, _, rfl⟩ := List.mem_map.mp member
    exact ⟨entry.1.beq_refl, Value.beq_refl (built _ member).wellFormed⟩
  · intro elements others allKnown
    obtain ⟨elementsKnown, othersKnown⟩ := List.forall_mem_append.mp allKnown
    obtain ⟨atoms, rfl, answer⟩ :=
      answers_ofElements_hashable (σ := σ) elementsKnown
    obtain ⟨otherAtoms, rfl, otherAnswer⟩ :=
      answers_ofElements_hashable (σ := σ) othersKnown
    have equalIff := MemberSet.equal_fileAll_iff atoms otherAtoms
    refine ⟨_, _, answer, otherAnswer, equalIff, ?_⟩
    intro restates
    apply equalIff.mpr
    apply restates.sameLast
    intro element member
    obtain ⟨atom, _, rfl⟩ := List.mem_map.mp member
    exact atom.beq_refl

end

/-- Pairs of distinct keys in another order, one of them twice, build an equal
hash. Two texts that share a digest build sets that are not equal, for another
one of them is the last. -/
theorem constructions_equal_of_permuted_pairs :
    let first : Text := ⟨0, "7mohtcOFVz"⟩
    let second : Text := ⟨1, "c1E51sSEyx"⟩
    let known : Set Text := {first, second}
    let pairs : List (Value × Value) :=
      [(.text first, .array []), (.bool true, .null)]
    let others : List (Value × Value) :=
      [(.bool true, .null), (.text first, .array []), (.bool true, .null)]
    Faithful known ({} : Memo) ∧
      (∃ left right : Hash,
        Answers known
          (Hash.ofPairs pairs : Filing (Session Memo) Hash).run (.ok left) ∧
        Answers known
          (Hash.ofPairs others : Filing (Session Memo) Hash).run
          (.ok right) ∧
        left.Equal right) ∧
      ∃ left right : MemberSet,
        Answers known
          (MemberSet.ofElements [.text first, .text second] :
            Filing (Session Memo) MemberSet).run (.ok left) ∧
        Answers known
          (MemberSet.ofElements [.text second, .text first] :
            Filing (Session Memo) MemberSet).run (.ok right) ∧
        ¬ left.Equal right := by
  intro first second known pairs others
  have firstKnown : (Value.text first).Known known := Or.inl rfl
  have secondKnown : (Value.text second).Known known := Or.inr rfl
  have boolKnown : (Value.bool true).Known known := trivial
  have faithful : Faithful known ({} : Memo) :=
    Memo.faithful_of_distinct_cells [first, second] (by simp [known])
      (by simp [first, second])
  obtain ⟨hashes, sets⟩ :=
    constructions_equal_iff_same_last (Session Memo) known
  refine ⟨faithful, ?_, ?_⟩
  · obtain ⟨left, right, answer, otherAnswer, _, equal⟩ :=
      hashes pairs others (by
        simp [pairs, others, firstKnown, boolKnown, Value.kind, Atom.kind,
          Kind.isHashable])
    refine ⟨left, right, answer, otherAnswer, equal ?_ (.reorder ?_ ?_)⟩
    · simpa [pairs] using ⟨.array (by simp), .null⟩
    · decide
    · intro pair
      simp only [pairs, others, List.mem_cons, List.not_mem_nil, or_false]
      tauto
  · obtain ⟨left, right, answer, otherAnswer, equalIff, _⟩ :=
      sets [.text first, .text second] [.text second, .text first] (by
        simp [firstKnown, secondKnown, Value.kind, Atom.kind, Kind.isHashable])
    refine ⟨left, right, answer, otherAnswer, ?_⟩
    rw [equalIff]
    intro sameLast
    have atKey := sameLast (.ofString "7mohtcOFVz")
    have last : lastUnder? id [Value.text first, .text second]
        (.ofString "7mohtcOFVz") = some (.text second) := rfl
    have otherLast : lastUnder? id [Value.text second, .text first]
        (.ofString "7mohtcOFVz") = some (.text first) := rfl
    rw [last, otherLast] at atKey
    cases atKey with
    | some equal => exact absurd equal (by decide)

end Monkey
