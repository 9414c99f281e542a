import Monkey.Proofs.SetConstruction
import Mathlib.Data.List.Dedup

/-!
# Building a hash

A hash is built from a list of pairs by filing one after the other. Either all
keys are hashable, and then the hash associates each key with the last pair that
came under it, or building stops at the first key that is not hashable and
reports its kind. Lookup, size and listing of the hash can all be read off the
list of pairs, whichever lawful source gives the keys.
-/

namespace Monkey

section

variable [Embedding]

/-! ## What a list of pairs says -/

/-- The key of a value computed from its content. Only atoms have one. -/
def Value.key? (value : Value) : Option Key :=
  value.asAtom?.map Atom.key

theorem Value.key?_eq_none_iff (value : Value) :
    value.key? = none ↔ value.kind.isHashable = false := by
  rw [isHashable_kind]
  cases value <;> simp [key?, asAtom?]

/-- A pair is the last one in a list that comes under a key. -/
def LastPair
    (pairs : List (Value × Value))
    (key : Key)
    (pair : Value × Value) : Prop :=
  ∃ earlier later, pairs = earlier ++ pair :: later ∧
    pair.1.key? = some key ∧ ∀ other ∈ later, other.1.key? ≠ some key

/-- The distinct keys of a list of pairs. -/
def distinctKeys (pairs : List (Value × Value)) : List Key :=
  (pairs.filterMap fun pair => pair.1.key?).dedup

theorem mem_distinctKeys
    (pairs : List (Value × Value))
    (key : Key) :
    key ∈ distinctKeys pairs ↔ ∃ pair ∈ pairs, pair.1.key? = some key := by
  simp only [distinctKeys, List.mem_dedup, List.mem_filterMap]

/-! ## Pairs of atoms -/

/-- A pair of an atom and a value as a pair of values. -/
def Value.ofEntry (entry : Atom × Value) : Value × Value :=
  (.atom entry.1, entry.2)

theorem Value.ofEntry_injective : Function.Injective Value.ofEntry := by
  intro left right equal
  injection equal with atomEq valueEq
  injection atomEq with atomEq
  exact Prod.ext atomEq valueEq

@[simp] theorem Value.key?_ofEntry (entry : Atom × Value) :
    (Value.ofEntry entry).1.key? = some entry.1.key := rfl

theorem Value.toEntry_eq_ok_iff_ofEntry
    (pair : Value × Value)
    (entry : Atom × Value) :
    Value.toEntry pair = .ok entry ↔ pair = Value.ofEntry entry := by
  rw [toEntry_eq_ok_iff, ofEntry, Prod.ext_iff]

/-- Pairs are rejected exactly for their keys. -/
theorem Value.mapM_toEntry_eq_error_iff
    (pairs : List (Value × Value))
    (rejected : Unhashable) :
    pairs.mapM Value.toEntry = .error rejected ↔
      FirstUnhashable (pairs.map Prod.fst) rejected := by
  rw [← mapM_toAtom_eq_error_iff]
  induction pairs with
  | nil => exact ⟨nofun, nofun⟩
  | cons pair rest inductionHypothesis =>
      rw [List.map_cons, mapM_cons_eq_error_iff, mapM_cons_eq_error_iff,
        inductionHypothesis]
      unfold toEntry
      cases pair.1.toAtom <;> simp [Except.map]

/-- In a list of pairs of atoms the last pair under a key is the last entry. -/
theorem lastPair_map_ofEntry_iff
    (entries : List (Atom × Value))
    (key : Key)
    (entry : Atom × Value) :
    LastPair (entries.map Value.ofEntry) key (Value.ofEntry entry) ↔
      LastUnder Prod.fst entries key entry := by
  constructor
  · rintro ⟨earlier, later, split, sameKey, absent⟩
    obtain ⟨front, rest, rfl, rfl, restEq⟩ := List.map_eq_append_iff.mp split
    obtain ⟨last, back, rfl, lastEq, rfl⟩ := List.map_eq_cons_iff.mp restEq
    obtain rfl := Value.ofEntry_injective lastEq
    refine ⟨front, back, rfl, Option.some.inj sameKey, ?_⟩
    intro other member otherKey
    exact absent _ (List.mem_map_of_mem member) (congrArg some otherKey)
  · rintro ⟨front, back, rfl, sameKey, absent⟩
    refine ⟨front.map Value.ofEntry, back.map Value.ofEntry, by simp,
      congrArg some sameKey, ?_⟩
    intro other member otherKey
    obtain ⟨original, originalMember, rfl⟩ := List.mem_map.mp member
    exact absent original originalMember (Option.some.inj otherKey)

/-! ## What the hash holds -/

/-- A hash associates each key of a list of pairs with the last pair under it,
and no other key. -/
structure Hash.Associates (hash : Hash) (pairs : List (Value × Value)) :
    Prop where
  filed : Filed Prod.fst hash
  get?_eq_some_iff :
    ∀ key entry, hash.get? key = some entry ↔
      LastPair pairs key (Value.ofEntry entry)
  keys_perm : hash.keys.Perm (distinctKeys pairs)

/-- Filing some entries associates their keys. -/
theorem Hash.associates_fileAll (entries : List (Atom × Value)) :
    Hash.Associates (Table.empty.fileAll Prod.fst entries)
      (entries.map Value.ofEntry) where
  filed := (filed_empty Prod.fst).fileAll entries
  get?_eq_some_iff := by
    intro key entry
    rw [lastPair_map_ofEntry_iff]
    exact Table.get?_fileAll_empty_eq_some_iff Prod.fst entries key entry
  keys_perm := by
    have nodup := ((filed_empty Prod.fst).fileAll entries).1
    refine (List.perm_ext_iff_of_nodup nodup (List.nodup_dedup _)).mpr ?_
    intro key
    change _ ↔ key ∈ distinctKeys (entries.map Value.ofEntry)
    have absent : key ∉ (Table.empty : Hash).keys := List.not_mem_nil
    rw [mem_distinctKeys, Table.fileAll, Table.mem_keys_insertAll,
      or_iff_right absent, List.map_map]
    simp only [List.mem_map, exists_exists_and_eq_and, Value.key?_ofEntry,
      Function.comp_apply, Option.some.injEq]

theorem Hash.perm_pairs (hash : Hash) :
    hash.pairs.Perm (hash.entries.map Prod.snd) :=
  perm_canonicalOrder _

namespace Hash.Associates

variable {hash : Hash} {pairs : List (Value × Value)}

/-- What is found under the key of a value is the value of the last pair under
it. -/
theorem bind_key?_eq_some_iff
    (associates : hash.Associates pairs)
    (key value : Value) :
    (key.key?.bind fun key => (hash.get? key).map Prod.snd) = some value ↔
      ∃ structural original, key.key? = some structural ∧
        LastPair pairs structural (original, value) := by
  rw [Option.bind_eq_some_iff]
  constructor
  · rintro ⟨structural, keyEq, found⟩
    obtain ⟨entry, entryFound, rfl⟩ := Option.map_eq_some_iff.mp found
    exact ⟨structural, .atom entry.1, keyEq,
      (associates.get?_eq_some_iff structural entry).mp entryFound⟩
  · rintro ⟨structural, original, keyEq, last⟩
    have originalKey : original.key? = some structural :=
      last.choose_spec.choose_spec.2.1
    cases original with
    | atom original =>
        refine ⟨structural, keyEq, Option.map_eq_some_iff.mpr
          ⟨(original, value), ?_, rfl⟩⟩
        exact (associates.get?_eq_some_iff structural _).mpr last
    | _ => cases originalKey

/-- Nothing is found for a value without a key and under a key of no pair. -/
theorem bind_key?_eq_none_iff
    (associates : hash.Associates pairs)
    (key : Value) :
    (key.key?.bind fun key => (hash.get? key).map Prod.snd) = none ↔
      key.kind.isHashable = false ∨ ∀ pair ∈ pairs, pair.1.key? ≠ key.key? := by
  rw [← Value.key?_eq_none_iff]
  cases key.key? with
  | none => simp
  | some structural =>
      rw [Option.bind_some, Option.map_eq_none_iff, Table.get?_eq_none_iff,
        associates.keys_perm.mem_iff, mem_distinctKeys]
      simp

/-- There are as many entries as distinct keys. -/
theorem size_eq (associates : hash.Associates pairs) :
    hash.size = (distinctKeys pairs).length := by
  rw [Table.size_eq_length_keys, associates.keys_perm.length_eq]

/-- Listing the hash gives one entry for each distinct key. -/
theorem keys_pairs_perm (associates : hash.Associates pairs) :
    (hash.pairs.map fun entry => entry.1.key).Perm (distinctKeys pairs) := by
  refine List.Perm.trans ?_ associates.keys_perm
  rw [← associates.filed.map_key_entries]
  exact hash.perm_pairs.map _

/-- Listing the hash gives the last pair under each key. -/
theorem lastPair_of_mem_pairs
    (associates : hash.Associates pairs)
    {entry : Atom × Value}
    (member : entry ∈ hash.pairs) :
    LastPair pairs entry.1.key (Value.ofEntry entry) := by
  exact (associates.get?_eq_some_iff _ entry).mp
    (associates.filed.get?_of_mem (hash.perm_pairs.mem_iff.mp member))

end Hash.Associates

/-! ## What the operations answer -/

variable {σ : Type} [KeySource σ] [LawfulKeySource σ] {known : Set Text}

/-- Lookup asks for the key of a value and finds what the hash holds under it. -/
theorem asks_lookup
    (hash : Hash)
    {key : Value}
    (keyKnown : key.Known known) :
    Asks known (hash.lookup key : StateM σ (Option Value)) key.asText?.toList
      (key.key?.bind fun key => (hash.get? key).map Prod.snd) := by
  refine (asks_requestKey? keyKnown).bind_pure ?_
  unfold Value.key?
  cases key.asAtom?.map Atom.key <;> rfl

theorem answers_lookup
    (hash : Hash)
    {key : Value}
    (keyKnown : key.Known known) :
    Answers known (hash.lookup key : StateM σ (Option Value))
      (key.key?.bind fun key => (hash.get? key).map Prod.snd) :=
  (asks_lookup hash keyKnown).answers

/-- A value belongs to a set when the set has its key, which is asked for. -/
theorem asks_contains
    (members : MemberSet)
    {element : Value}
    (elementKnown : element.Known known) :
    Asks known (members.contains element : StateM σ Bool)
      element.asText?.toList
      (element.key?.any (Table.contains members)) := by
  refine (asks_requestKey? elementKnown).bind_pure ?_
  unfold Value.key?
  cases element.asAtom?.map Atom.key <;> rfl

theorem answers_contains
    (members : MemberSet)
    {element : Value}
    (elementKnown : element.Known known) :
    Answers known (members.contains element : StateM σ Bool)
      (element.key?.any (Table.contains members)) :=
  (asks_contains members elementKnown).answers

omit [LawfulKeySource σ] in
/-- A program sees the hash of some pairs, or the failure for the key that is
rejected. -/
theorem Value.ofPairs_eq (pairs : List (Value × Value)) :
    (Value.ofPairs pairs : StateM σ Value) =
      (fun result => Value.ofFiling (result.map .hash)) <$>
        (Hash.ofPairs pairs : Filing σ Hash).run := by
  rw [ofPairs, Filing.toValue_eq, ExceptT.run_map, Functor.map_map]

theorem answers_valueOfPairs
    {pairs : List (Value × Value)}
    {result : Except Unhashable Hash}
    (answers : Answers known (Hash.ofPairs pairs : Filing σ Hash).run result) :
    Answers known (Value.ofPairs pairs : StateM σ Value)
      (Value.ofFiling (result.map .hash)) := by
  rw [Value.ofPairs_eq]
  exact answers.map _

/-- The pairs are associated by what filing them makes of the empty hash, or
their first key that is not hashable is rejected. -/
theorem filedPairs_spec (pairs : List (Value × Value)) :
    (∃ hash, Hash.Associates hash pairs ∧
        (∀ pair ∈ pairs, pair.1.kind.isHashable = true) ∧
        (pairs.mapM Value.toEntry).map (Table.empty.fileAll Prod.fst) =
          .ok hash) ∨
      ∃ rejected, FirstUnhashable (pairs.map Prod.fst) rejected ∧
        (pairs.mapM Value.toEntry).map (Table.empty.fileAll Prod.fst) =
          .error rejected := by
  cases accepted : pairs.mapM Value.toEntry with
  | error rejected =>
      exact Or.inr ⟨rejected,
        (Value.mapM_toEntry_eq_error_iff pairs rejected).mp accepted, rfl⟩
  | ok entries =>
      left
      obtain rfl := (mapM_eq_ok_iff Value.toEntry_eq_ok_iff_ofEntry _ _).mp
        accepted
      refine ⟨_, Hash.associates_fileAll entries, ?_, rfl⟩
      intro pair member
      obtain ⟨entry, _, rfl⟩ := List.mem_map.mp member
      obtain ⟨keyAtom, value⟩ := entry
      cases keyAtom <;> rfl

/-! ## The last pair wins -/

/-- Building a hash fails exactly when some key is not hashable, and then the
kind of the first such key is reported, to a program as a failure value. A hash
that is built answers every lookup with the value of the last pair under the key
of the value asked for, and with nothing exactly when the value has no key or no
pair has that key. Its size is the number of distinct keys, and listing it gives
one entry for each of them, the last pair under it. -/
theorem hash_holds_last_pairs
    {pairs : List (Value × Value)}
    (keysKnown : ∀ pair ∈ pairs, pair.1.Known known) :
    ∃ result,
      Answers known (Hash.ofPairs pairs : Filing σ Hash).run result ∧
      ((∃ rejected, result = .error rejected) ↔
        ∃ pair ∈ pairs, pair.1.kind.isHashable = false) ∧
      (∀ rejected, result = .error rejected ->
        FirstUnhashable (pairs.map Prod.fst) rejected ∧
        Answers known (Value.ofPairs pairs : StateM σ Value)
          (.failure ⟨.unsupported,
            "unusable as hash key: " ++ rejected.kind.name⟩)) ∧
      ∀ hash, result = .ok hash ->
        Answers known (Value.ofPairs pairs : StateM σ Value) (.hash hash) ∧
        (∀ key : Value, key.Known known ->
          ∃ found,
            Answers known (Hash.lookup hash key : StateM σ (Option Value))
              found ∧
            (∀ value, found = some value ↔
              ∃ structural original, key.key? = some structural ∧
                LastPair pairs structural (original, value)) ∧
            (found = none ↔ key.kind.isHashable = false ∨
              ∀ pair ∈ pairs, pair.1.key? ≠ key.key?)) ∧
        hash.size = (distinctKeys pairs).length ∧
        ((Hash.pairs hash).map fun entry => entry.1.key).Perm
          (distinctKeys pairs) ∧
        ∀ entry ∈ Hash.pairs hash,
          LastPair pairs entry.1.key (.atom entry.1, entry.2) := by
  have answers := answers_ofPairs (σ := σ) keysKnown
  refine ⟨_, answers, ?_⟩
  rcases filedPairs_spec pairs with
    ⟨hash, associates, hashable, accepted⟩ | ⟨rejected, first, stopped⟩
  case inl =>
    rw [accepted] at answers ⊢
    refine ⟨?_, nofun, ?_⟩
    · constructor
      · rintro ⟨rejected, noHash⟩
        cases noHash
      · rintro ⟨pair, member, notHashable⟩
        cases (hashable pair member).symm.trans notHashable
    · rintro _ ⟨⟩
      refine ⟨answers_valueOfPairs answers, ?_, associates.size_eq,
        associates.keys_pairs_perm,
        fun entry member => associates.lastPair_of_mem_pairs member⟩
      intro key keyKnown
      exact ⟨_, answers_lookup hash keyKnown,
        associates.bind_key?_eq_some_iff key,
        associates.bind_key?_eq_none_iff key⟩
  case inr =>
    rw [stopped] at answers ⊢
    refine ⟨?_, ?_, nofun⟩
    · refine ⟨fun _ => ?_, fun _ => ⟨rejected, rfl⟩⟩
      obtain ⟨front, element, back, split, _, notHashable, _⟩ := first
      have member : element ∈ pairs.map Prod.fst := by simp [split]
      obtain ⟨pair, pairMember, rfl⟩ := List.mem_map.mp member
      exact ⟨pair, pairMember, notHashable⟩
    · rintro _ ⟨⟩
      exact ⟨first, answers_valueOfPairs answers⟩

end

/-- Two texts that share a digest are one key: the later pair stays under it, and
both texts find its value. With a key that is not hashable the same pairs are
rejected, for the first such key. -/
theorem hash_holds_last_of_colliding_texts :
    let first : Text := ⟨0, "7mohtcOFVz"⟩
    let second : Text := ⟨1, "c1E51sSEyx"⟩
    let known : Set Text := {first, second}
    let pairs : List (Value × Value) :=
      [(.text first, .int 1), (.bool true, .null), (.text second, .int 2)]
    let refused : List (Value × Value) :=
      pairs ++ [(.null, .int 3), (.array [], .int 4)]
    Faithful known ({} : Memo) ∧
      (∃ hash,
        Answers known
          (Hash.ofPairs pairs : Filing (Session Memo) Hash).run (.ok hash) ∧
        hash.size = 2 ∧
        Answers known
          (Hash.lookup hash (.text first) :
            StateM (Session Memo) (Option Value)) (some (.int 2)) ∧
        Answers known
          (Hash.lookup hash (.array []) :
            StateM (Session Memo) (Option Value)) none) ∧
      Answers known
        (Value.ofPairs refused : StateM (Session Memo) Value)
        (.failure ⟨.unsupported, "unusable as hash key: NULL"⟩) := by
  intro first second known pairs refused
  have firstKnown : (Value.text first).Known known := Or.inl rfl
  have secondKnown : (Value.text second).Known known := Or.inr rfl
  have faithful : Faithful known ({} : Memo) :=
    Memo.faithful_of_distinct_cells [first, second] (by simp [known])
      (by simp [first, second])
  let session : Session Memo := { keys := {} }
  have pairsKnown : ∀ pair ∈ pairs, pair.1.Known known := by
    simpa [pairs] using ⟨firstKnown, trivial, secondKnown⟩
  have refusedKnown : ∀ pair ∈ refused, pair.1.Known known :=
    List.forall_mem_append.mpr ⟨pairsKnown, by simp [Value.Known]⟩
  refine ⟨faithful, ?_, ?_⟩
  case refine_1 =>
    obtain ⟨result, answers, fails, _, holds⟩ :=
      hash_holds_last_pairs (σ := Session Memo) pairsKnown
    cases result with
    | error rejected =>
        obtain ⟨pair, member, notHashable⟩ := fails.mp ⟨rejected, rfl⟩
        simp only [pairs, List.mem_cons, List.not_mem_nil, or_false] at member
        rcases member with rfl | rfl | rfl <;> cases notHashable
    | ok hash =>
        obtain ⟨_, lookups, size, _⟩ := holds hash rfl
        have sameKey : Key.ofString "c1E51sSEyx" = Key.ofString "7mohtcOFVz" :=
          by decide
        obtain ⟨found, foundAnswer, foundIff, _⟩ :=
          lookups (.text first) firstKnown
        obtain ⟨missing, missingAnswer, _, missingIff⟩ :=
          lookups (.array []) trivial
        obtain rfl : found = some (.int 2) := by
          refine (foundIff _).mpr ⟨_, .text second, rfl, ?_⟩
          exact ⟨[_, _], [], rfl, congrArg some sameKey, List.forall_mem_nil _⟩
        obtain rfl : missing = none := missingIff.mpr (Or.inl rfl)
        exact ⟨hash, answers, size.trans (by decide), foundAnswer,
          missingAnswer⟩
  case refine_2 =>
    obtain ⟨result, _, fails, reports, _⟩ :=
      hash_holds_last_pairs (σ := Session Memo) refusedKnown
    obtain ⟨rejected, rfl⟩ := fails.mpr ⟨(.null, .int 3), by simp [refused], rfl⟩
    obtain ⟨first, shown⟩ := reports rejected rfl
    have stopped := (Value.mapM_toAtom_eq_error_iff _ _).mpr first
    obtain rfl : ⟨.null⟩ = rejected := Except.error.inj stopped
    exact shown

end Monkey
