import Monkey.Proofs.Matching
import Monkey.Table
import Mathlib.Data.Finset.Card
import Mathlib.Data.List.Induction
import Mathlib.Data.List.Nodup
import Mathlib.Data.List.Perm.Subperm

/-!
# Tables as finite maps

A table in which no key occurs twice is a finite map: what it holds under a key
is exactly what its entries say, whatever their order. This module relates
lookup to the entries, follows both through insertion and merging, and compares
two tables. Tables match when they do so under every key; without repeated keys
it is enough to compare sizes and to look for every left entry on the right.
-/

namespace Monkey
namespace Table

variable {κ α β : Type} [DecidableEq κ]

/-! ## Association lists -/

/-- What is found under a key was listed under it. -/
theorem mem_of_find?
    {entries : List (κ × α)}
    {key : κ}
    {entry : α}
    (found : find? entries key = some entry) :
    (key, entry) ∈ entries := by
  induction entries with
  | nil => cases found
  | cons head rest inductionHypothesis =>
      obtain ⟨candidate, old⟩ := head
      by_cases same : candidate = key
      · subst same
        simp only [find?, if_true, Option.some.injEq] at found
        simp [found]
      · simp only [find?, same, if_false] at found
        exact List.mem_cons_of_mem _ (inductionHypothesis found)

/-- Among distinct keys, what is listed under a key is found under it. -/
theorem find?_of_mem
    {entries : List (κ × α)}
    {key : κ}
    {entry : α}
    (nodup : (entries.map Prod.fst).Nodup)
    (member : (key, entry) ∈ entries) :
    find? entries key = some entry := by
  induction entries with
  | nil => cases member
  | cons head rest inductionHypothesis =>
      obtain ⟨candidate, old⟩ := head
      obtain ⟨absent, restNodup⟩ := List.nodup_cons.mp nodup
      rcases List.mem_cons.mp member with equal | inRest
      · cases equal
        simp [find?]
      · have different : candidate ≠ key := by
          intro same
          subst same
          exact absent (List.mem_map.mpr ⟨_, inRest, rfl⟩)
        simp only [find?, different, if_false]
        exact inductionHypothesis restNodup inRest

/-- Nothing is found exactly under the keys that are not listed. -/
theorem find?_eq_none_iff
    (entries : List (κ × α))
    (key : κ) :
    find? entries key = none ↔ key ∉ entries.map Prod.fst := by
  induction entries with
  | nil => simp [find?]
  | cons head rest inductionHypothesis =>
      obtain ⟨candidate, old⟩ := head
      by_cases same : candidate = key
      · simp [find?, same]
      · simp [find?, same, Ne.symm same, inductionHypothesis]

/-- What is found is the first entry listed under the key. -/
theorem find?_eq_some_iff
    (entries : List (κ × α))
    (key : κ)
    (entry : α) :
    find? entries key = some entry ↔
      ∃ front back, entries = front ++ (key, entry) :: back ∧
        key ∉ front.map Prod.fst := by
  constructor
  · intro found
    induction entries with
    | nil => cases found
    | cons head rest inductionHypothesis =>
        obtain ⟨candidate, old⟩ := head
        by_cases same : candidate = key
        · subst same
          simp only [find?, if_true, Option.some.injEq] at found
          exact ⟨[], rest, by rw [found]; rfl, List.not_mem_nil⟩
        · simp only [find?, same, if_false] at found
          obtain ⟨front, back, rfl, absent⟩ := inductionHypothesis found
          refine ⟨(candidate, old) :: front, back, rfl, ?_⟩
          simpa [Ne.symm same] using absent
  · rintro ⟨front, back, rfl, absent⟩
    induction front with
    | nil => simp [find?]
    | cons head front inductionHypothesis =>
        rw [List.map_cons, List.mem_cons, not_or] at absent
        rw [List.cons_append, find?, if_neg (Ne.symm absent.1)]
        exact inductionHypothesis absent.2

/-- Among distinct keys, the order of the entries plays no part in lookup. -/
theorem find?_perm
    {left right : List (κ × α)}
    (nodup : (left.map Prod.fst).Nodup)
    (permuted : left.Perm right)
    (key : κ) :
    find? left key = find? right key := by
  cases found : find? left key with
  | none =>
      have absent := (find?_eq_none_iff left key).mp found
      symm
      apply (find?_eq_none_iff right key).mpr
      rwa [← (permuted.map Prod.fst).mem_iff]
  | some entry =>
      have rightNodup := ((permuted.map Prod.fst).nodup_iff).mp nodup
      exact (find?_of_mem rightNodup
        (permuted.mem_iff.mp (mem_of_find? found))).symm

/-- Putting an entry under a listed key keeps the keys; under another key it
adds that key at the end. -/
theorem keys_put
    (entries : List (κ × α))
    (key : κ)
    (entry : α) :
    (put entries key entry).map Prod.fst =
      if key ∈ entries.map Prod.fst then entries.map Prod.fst
      else entries.map Prod.fst ++ [key] := by
  induction entries with
  | nil => simp [put]
  | cons head rest inductionHypothesis =>
      obtain ⟨candidate, old⟩ := head
      by_cases same : candidate = key
      · simp [put, same]
      · by_cases listed : key ∈ rest.map Prod.fst <;>
          simp_all [put, Ne.symm same]

/-! ## Entries of a table -/

omit [DecidableEq κ] in
theorem size_eq_length_keys (table : Table κ α) :
    table.size = table.keys.length := by
  simp [size, keys]

/-- What a table holds under a key is one of its entries. -/
theorem mem_entries_of_get?
    {table : Table κ α}
    {key : κ}
    {entry : α}
    (found : table.get? key = some entry) :
    (key, entry) ∈ table.entries :=
  mem_of_find? found

/-- A table of distinct keys holds each of its entries. -/
theorem get?_of_mem_entries
    {table : Table κ α}
    {key : κ}
    {entry : α}
    (nodup : table.keys.Nodup)
    (member : (key, entry) ∈ table.entries) :
    table.get? key = some entry :=
  find?_of_mem nodup member

theorem get?_eq_none_iff
    (table : Table κ α)
    (key : κ) :
    table.get? key = none ↔ key ∉ table.keys :=
  find?_eq_none_iff table.entries key

omit [DecidableEq κ] in
theorem nodup_keys_empty : (empty : Table κ α).keys.Nodup :=
  List.nodup_nil

theorem mem_keys_iff
    (table : Table κ α)
    (key : κ) :
    key ∈ table.keys ↔ ∃ entry, table.get? key = some entry := by
  rw [← Option.ne_none_iff_exists', ne_eq, get?_eq_none_iff, not_not]

/-- Inserting adds a key at the end unless the table has it. -/
theorem keys_insert
    (table : Table κ α)
    (key : κ)
    (entry : α) :
    (table.insert key entry).keys =
      if key ∈ table.keys then table.keys else table.keys ++ [key] :=
  keys_put table.entries key entry

@[simp] theorem mem_keys_insert
    (table : Table κ α)
    (key other : κ)
    (entry : α) :
    other ∈ (table.insert key entry).keys ↔
      other ∈ table.keys ∨ other = key := by
  rw [keys_insert]
  split
  next present =>
    constructor
    · exact Or.inl
    · rintro (old | rfl)
      · exact old
      · exact present
  next => simp

/-- Inserting repeats no key. -/
theorem nodup_keys_insert
    {table : Table κ α}
    (nodup : table.keys.Nodup)
    (key : κ)
    (entry : α) :
    (table.insert key entry).keys.Nodup := by
  rw [keys_insert]
  split
  next => exact nodup
  next absent =>
    refine List.Nodup.append nodup (List.nodup_singleton key) ?_
    simpa using absent

theorem mem_put
    {entries : List (κ × α)}
    {key : κ}
    {entry : α}
    {held : κ × α}
    (member : held ∈ put entries key entry) :
    held = (key, entry) ∨ held ∈ entries := by
  induction entries with
  | nil => exact Or.inl (List.mem_singleton.mp member)
  | cons head rest inductionHypothesis =>
      obtain ⟨candidate, old⟩ := head
      unfold put at member
      split at member
      next =>
        rcases List.mem_cons.mp member with inserted | inRest
        · exact Or.inl inserted
        · exact Or.inr (List.mem_cons_of_mem _ inRest)
      next =>
        rcases List.mem_cons.mp member with rfl | inRest
        · exact Or.inr List.mem_cons_self
        · exact (inductionHypothesis inRest).imp_right
            (List.mem_cons_of_mem _)

/-- An entry after an insertion is the inserted one or an old one. -/
theorem mem_entries_insert
    {table : Table κ α}
    {key : κ}
    {entry : α}
    {held : κ × α}
    (member : held ∈ (table.insert key entry).entries) :
    held = (key, entry) ∨ held ∈ table.entries :=
  mem_put member

/-! ## Inserting many entries -/

/-- Insert some entries in order. -/
def insertAll (table : Table κ α) (entries : List (κ × α)) : Table κ α :=
  entries.foldl (fun table entry => table.insert entry.1 entry.2) table

@[simp] theorem insertAll_nil (table : Table κ α) :
    table.insertAll [] = table := rfl

@[simp] theorem insertAll_cons
    (table : Table κ α)
    (entry : κ × α)
    (rest : List (κ × α)) :
    table.insertAll (entry :: rest) =
      (table.insert entry.1 entry.2).insertAll rest := rfl

theorem insertAll_append
    (table : Table κ α)
    (front back : List (κ × α)) :
    table.insertAll (front ++ back) =
      (table.insertAll front).insertAll back :=
  List.foldl_append

theorem merge_eq_insertAll (left right : Table κ α) :
    left.merge right = left.insertAll right.entries := rfl

/-- After inserting many entries a key has the last of them that came under it,
or else what it had before. -/
theorem get?_insertAll
    (table : Table κ α)
    (entries : List (κ × α))
    (key : κ) :
    (table.insertAll entries).get? key =
      (find? entries.reverse key).or (table.get? key) := by
  induction entries using List.reverseRecOn with
  | nil => rfl
  | append_singleton front last inductionHypothesis =>
      rw [insertAll_append, insertAll_cons, insertAll_nil, get?_insert,
        inductionHypothesis, List.reverse_append]
      by_cases same : last.1 = key <;> simp [find?, same]

theorem nodup_keys_insertAll
    {table : Table κ α}
    (nodup : table.keys.Nodup)
    (entries : List (κ × α)) :
    (table.insertAll entries).keys.Nodup := by
  induction entries generalizing table with
  | nil => exact nodup
  | cons entry rest inductionHypothesis =>
      exact inductionHypothesis (nodup_keys_insert nodup entry.1 entry.2)

theorem mem_keys_insertAll
    (table : Table κ α)
    (entries : List (κ × α))
    (key : κ) :
    key ∈ (table.insertAll entries).keys ↔
      key ∈ table.keys ∨ key ∈ entries.map Prod.fst := by
  induction entries generalizing table with
  | nil => simp
  | cons entry rest inductionHypothesis =>
      rw [insertAll_cons, inductionHypothesis, mem_keys_insert, List.map_cons,
        List.mem_cons, or_assoc]

/-- The size of a table counts the distinct keys inserted into it. -/
theorem size_insertAll_empty (entries : List (κ × α)) :
    (empty.insertAll entries).size = (entries.map Prod.fst).toFinset.card := by
  have nodup := nodup_keys_insertAll (nodup_keys_empty (α := α)) entries
  rw [size_eq_length_keys, ← List.toFinset_card_of_nodup nodup]
  congr 1
  ext key
  rw [List.mem_toFinset, List.mem_toFinset, mem_keys_insertAll]
  exact or_iff_right List.not_mem_nil

/-- An entry after many insertions is an inserted one or an old one. -/
theorem mem_entries_insertAll
    {table : Table κ α}
    {entries : List (κ × α)}
    {entry : κ × α}
    (member : entry ∈ (table.insertAll entries).entries) :
    entry ∈ entries ∨ entry ∈ table.entries := by
  induction entries generalizing table with
  | nil => exact Or.inr member
  | cons head rest inductionHypothesis =>
      rcases inductionHypothesis member with inRest | inserted
      · exact Or.inl (List.mem_cons_of_mem _ inRest)
      · rcases mem_entries_insert inserted with equal | old
        · exact Or.inl (List.mem_cons.mpr (Or.inl equal))
        · exact Or.inr old

/-- Inserting entries of distinct keys in any order gives every key the same
entry. -/
theorem get?_insertAll_perm
    (table : Table κ α)
    {left right : List (κ × α)}
    (nodup : (left.map Prod.fst).Nodup)
    (permuted : left.Perm right)
    (key : κ) :
    (table.insertAll left).get? key = (table.insertAll right).get? key := by
  have reversed : left.reverse.Perm right.reverse :=
    (List.reverse_perm left).trans
      (permuted.trans (List.reverse_perm right).symm)
  have reversedNodup : (left.reverse.map Prod.fst).Nodup := by
    rw [List.map_reverse, List.nodup_reverse]
    exact nodup
  rw [get?_insertAll, get?_insertAll, find?_perm reversedNodup reversed]

/-- Merging looks on the right first. -/
theorem get?_merge
    (left : Table κ α)
    {right : Table κ α}
    (nodup : right.keys.Nodup)
    (key : κ) :
    (left.merge right).get? key = (right.get? key).or (left.get? key) := by
  have reversedNodup : (right.entries.reverse.map Prod.fst).Nodup := by
    rw [List.map_reverse, List.nodup_reverse]
    exact nodup
  rw [merge_eq_insertAll, get?_insertAll,
    find?_perm reversedNodup (List.reverse_perm right.entries)]
  rfl

theorem contains_iff_mem_keys
    (table : Table κ α)
    (key : κ) :
    table.contains key = true ↔ key ∈ table.keys := by
  rw [contains, Option.isSome_iff_exists, mem_keys_iff]

/-- A merged table has the keys of both tables. -/
theorem contains_merge
    (left : Table κ α)
    {right : Table κ α}
    (nodup : right.keys.Nodup)
    (key : κ) :
    (left.merge right).contains key =
      (left.contains key || right.contains key) := by
  simp only [contains, get?_merge left nodup, Option.isSome_or, Bool.or_comm]

/-- Merging adds the keys on the right that the left table does not have. -/
theorem size_merge
    {left right : Table κ α}
    (leftNodup : left.keys.Nodup)
    (rightNodup : right.keys.Nodup) :
    (left.merge right).size =
      left.size + right.keys.countP fun key => !left.contains key := by
  have addedNodup : (left.keys ++
      right.keys.filter fun key => !left.contains key).Nodup := by
    refine List.Nodup.append leftNodup (rightNodup.filter _) ?_
    intro key present added
    rw [List.mem_filter, Bool.not_eq_true', Bool.eq_false_iff, ne_eq,
      contains_iff_mem_keys] at added
    exact added.2 present
  have keysPerm : (left.merge right).keys.Perm
      (left.keys ++ right.keys.filter fun key => !left.contains key) := by
    have mergedNodup := nodup_keys_insertAll leftNodup right.entries
    apply (List.perm_ext_iff_of_nodup mergedNodup addedNodup).mpr
    intro key
    change key ∈ (left.merge right).keys ↔ _
    rw [← contains_iff_mem_keys, contains_merge left rightNodup,
      List.mem_append, List.mem_filter, ← contains_iff_mem_keys left,
      ← contains_iff_mem_keys right]
    cases left.contains key <;> simp
  rw [size_eq_length_keys, keysPerm.length_eq, List.length_append,
    ← List.countP_eq_length_filter, ← size_eq_length_keys]

/-- Merging the table that some entries make is inserting them. -/
theorem get?_merge_insertAll
    (table : Table κ α)
    (entries : List (κ × α))
    (key : κ) :
    (table.merge (empty.insertAll entries)).get? key =
      (table.insertAll entries).get? key := by
  rw [get?_merge table (nodup_keys_insertAll nodup_keys_empty entries),
    get?_insertAll, get?_insertAll, get?_empty, Option.or_none]

/-! ## Images of tables -/

omit [DecidableEq κ] in
/-- The images of what a table holds, under the same keys. -/
def map (image : α -> β) (table : Table κ α) : Table κ β :=
  ⟨table.entries.map fun entry => (entry.1, image entry.2)⟩

omit [DecidableEq κ] in
@[simp] theorem map_empty (image : α -> β) :
    (empty : Table κ α).map image = empty := rfl

omit [DecidableEq κ] in
@[simp] theorem size_map (image : α -> β) (table : Table κ α) :
    (table.map image).size = table.size :=
  List.length_map _

omit [DecidableEq κ] in
/-- What a table of images holds are the images of what the table holds. -/
theorem map_snd_entries_map (image : α -> β) (table : Table κ α) :
    (table.map image).entries.map Prod.snd =
      (table.entries.map Prod.snd).map image := by
  simp only [map, List.map_map, Function.comp_def]

/-- Looking a key up among entries made under their own keys makes the entry that
is looked up. -/
theorem find?_map_under_key
    (image : κ -> α -> β)
    (entries : List (κ × α))
    (key : κ) :
    find? (entries.map fun entry => (entry.1, image entry.1 entry.2)) key =
      (find? entries key).map (image key) := by
  induction entries with
  | nil => rfl
  | cons head rest inductionHypothesis =>
      by_cases same : head.1 = key
      · simp [find?, same]
      · simp [find?, same, inductionHypothesis]

@[simp] theorem get?_map
    (image : α -> β)
    (table : Table κ α)
    (key : κ) :
    (table.map image).get? key = (table.get? key).map image :=
  find?_map_under_key (fun _ => image) table.entries key

theorem map_put
    (image : α -> β)
    (entries : List (κ × α))
    (key : κ)
    (entry : α) :
    (put entries key entry).map (fun held => (held.1, image held.2)) =
      put (entries.map fun held => (held.1, image held.2)) key
        (image entry) := by
  induction entries with
  | nil => rfl
  | cons head rest inductionHypothesis =>
      by_cases same : head.1 = key <;> simp [put, same, inductionHypothesis]

/-- Inserting an entry inserts its image. -/
theorem map_insert
    (image : α -> β)
    (table : Table κ α)
    (key : κ)
    (entry : α) :
    (table.insert key entry).map image =
      (table.map image).insert key (image entry) :=
  congrArg Table.mk (map_put image table.entries key entry)

/-- Inserting some entries inserts their images. -/
theorem map_insertAll
    (image : α -> β)
    (table : Table κ α)
    (entries : List (κ × α)) :
    (table.insertAll entries).map image =
      (table.map image).insertAll
        (entries.map fun entry => (entry.1, image entry.2)) := by
  induction entries generalizing table with
  | nil => rfl
  | cons entry rest inductionHypothesis =>
      rw [List.map_cons, insertAll_cons, insertAll_cons, inductionHypothesis,
        map_insert]

/-! ## Comparing tables -/

/-- Every left entry has a related one on the right. -/
def CoveredBy
    (related : α -> β -> Prop)
    (left : Table κ α)
    (right : Table κ β) : Prop :=
  ∀ entry ∈ left.entries, ∃ other,
    right.get? entry.1 = some other ∧ related entry.2 other

/-- Tables that match still do so after related entries came under one key. -/
theorem matches_insert
    {related : α -> β -> Prop}
    {left : Table κ α}
    {right : Table κ β}
    (matched : Matches related left.get? right.get?)
    (key : κ)
    {entry : α}
    {other : β}
    (connected : related entry other) :
    Matches related (left.insert key entry).get?
      (right.insert key other).get? := by
  intro place
  rw [get?_insert, get?_insert]
  split
  next => exact .some connected
  next => exact matched place

/-- Merging matching tables into matching tables gives matching tables. -/
theorem matches_merge
    {related : α -> β -> Prop}
    {left added : Table κ α}
    {right otherAdded : Table κ β}
    (matched : Matches related left.get? right.get?)
    (addedMatched : Matches related added.get? otherAdded.get?)
    (nodup : added.keys.Nodup)
    (otherNodup : otherAdded.keys.Nodup) :
    Matches related (left.merge added).get? (right.merge otherAdded).get? := by
  intro key
  rw [get?_merge left nodup, get?_merge right otherNodup]
  cases found : added.get? key with
  | none =>
      rw [(addedMatched.eq_none_iff key).mp found]
      exact matched key
  | some entry =>
      obtain ⟨other, otherFound, connected⟩ := addedMatched.exists_right found
      rw [otherFound]
      exact .some connected

/-- Two tables merged in either order match exactly when what they hold under one
key is related. -/
theorem matches_merge_comm_iff
    {related : α -> α -> Prop}
    (reflexive : ∀ entry, related entry entry)
    {left right : Table κ α}
    (leftNodup : left.keys.Nodup)
    (rightNodup : right.keys.Nodup) :
    Matches related (left.merge right).get? (right.merge left).get? ↔
      ∀ key entry other,
        left.get? key = some entry -> right.get? key = some other ->
          related other entry := by
  constructor
  · intro matched key entry other found otherFound
    have atKey := matched key
    rw [get?_merge left rightNodup, get?_merge right leftNodup, found,
      otherFound] at atKey
    simpa using atKey
  · intro connected key
    rw [get?_merge left rightNodup, get?_merge right leftNodup]
    cases found : left.get? key with
    | none =>
        cases right.get? key with
        | none => exact .none
        | some other => exact .some (reflexive other)
    | some entry =>
        cases otherFound : right.get? key with
        | none => exact .some (reflexive entry)
        | some other =>
            exact .some (connected key entry other found otherFound)

/-- Matching tables have the same keys. -/
theorem keys_perm_of_matches
    {related : α -> β -> Prop}
    {left : Table κ α}
    {right : Table κ β}
    (leftNodup : left.keys.Nodup)
    (rightNodup : right.keys.Nodup)
    (matched : Matches related left.get? right.get?) :
    left.keys.Perm right.keys := by
  apply (List.perm_ext_iff_of_nodup leftNodup rightNodup).mpr
  intro key
  have absentTogether := matched.eq_none_iff key
  rw [get?_eq_none_iff, get?_eq_none_iff] at absentTogether
  exact not_iff_not.mp absentTogether

/-- Under distinct keys, a list over the entries is one over the keys. -/
theorem map_entries_eq_filterMap_keys
    {γ : Type}
    {table : Table κ α}
    (nodup : table.keys.Nodup)
    (write : κ × α -> γ) :
    table.entries.map write =
      table.keys.filterMap fun key =>
        (table.get? key).map fun entry => write (key, entry) := by
  rw [keys, List.filterMap_map, ← List.filterMap_eq_map]
  refine List.filterMap_congr ?_
  rintro ⟨key, entry⟩ member
  simp only [Function.comp_apply, get?_of_mem_entries nodup member,
    Option.map_some]

/-- Of matching tables the same is written, up to order, when it is the same for
related entries under one key. -/
theorem map_entries_perm_of_matches
    {γ : Type}
    {related : α -> β -> Prop}
    {left : Table κ α}
    {right : Table κ β}
    (leftNodup : left.keys.Nodup)
    (rightNodup : right.keys.Nodup)
    (matched : Matches related left.get? right.get?)
    {write : κ × α -> γ}
    {writeOther : κ × β -> γ}
    (sameWritten : ∀ key entry other,
      left.get? key = some entry -> right.get? key = some other ->
        related entry other -> write (key, entry) = writeOther (key, other)) :
    (left.entries.map write).Perm (right.entries.map writeOther) := by
  have sameUnder : ∀ key,
      ((left.get? key).map fun entry => write (key, entry)) =
        (right.get? key).map fun other => writeOther (key, other) :=
    matched.map_eq sameWritten
  rw [map_entries_eq_filterMap_keys leftNodup,
    map_entries_eq_filterMap_keys rightNodup, funext sameUnder]
  exact (keys_perm_of_matches leftNodup rightNodup matched).filterMap _

/-- A table covered by one of the same size shares all its keys. -/
theorem keys_perm_of_coveredBy
    {related : α -> β -> Prop}
    {left : Table κ α}
    {right : Table κ β}
    (leftNodup : left.keys.Nodup)
    (sameSize : left.size = right.size)
    (covered : CoveredBy related left right) :
    left.keys.Perm right.keys := by
  have contained : left.keys ⊆ right.keys := by
    intro key present
    obtain ⟨entry, found⟩ := (mem_keys_iff left key).mp present
    obtain ⟨other, rightFound, _⟩ := covered _ (mem_entries_of_get? found)
    exact (mem_keys_iff right key).mpr ⟨other, rightFound⟩
  -- Distinct keys inside a list that is no longer: they are all of it.
  apply (leftNodup.subperm contained).perm_of_length_le
  rw [← size_eq_length_keys, ← size_eq_length_keys, sameSize]

/-- The one-sided comparison is enough: tables of distinct keys match exactly
when their sizes agree and the left one is covered by the right one. -/
theorem matches_iff_coveredBy
    (related : α -> β -> Prop)
    {left : Table κ α}
    {right : Table κ β}
    (leftNodup : left.keys.Nodup)
    (rightNodup : right.keys.Nodup) :
    Matches related left.get? right.get? ↔
      left.size = right.size ∧ CoveredBy related left right := by
  constructor
  · intro matched
    constructor
    · rw [size_eq_length_keys, size_eq_length_keys]
      exact (keys_perm_of_matches leftNodup rightNodup matched).length_eq
    · rintro ⟨key, entry⟩ member
      exact matched.exists_right (get?_of_mem_entries leftNodup member)
  · rintro ⟨sameSize, covered⟩ key
    have keysPerm := keys_perm_of_coveredBy leftNodup sameSize covered
    cases leftValue : left.get? key with
    | none =>
        have rightAbsent : right.get? key = none := by
          rw [get?_eq_none_iff, ← keysPerm.mem_iff, ← get?_eq_none_iff]
          exact leftValue
        rw [rightAbsent]
        exact .none
    | some entry =>
        obtain ⟨other, rightValue, connected⟩ :=
          covered _ (mem_entries_of_get? leftValue)
        rw [rightValue]
        exact .some connected

/-- Coverage can be decided key by key. -/
theorem all_keys_iff_coveredBy
    {related : α -> β -> Prop}
    {left : Table κ α}
    {right : Table κ β}
    {answer : κ -> Bool}
    (nodup : left.keys.Nodup)
    (answerIff : ∀ key entry other,
      left.get? key = some entry -> right.get? key = some other ->
        (answer key = true ↔ related entry other)) :
    (left.keys.all fun key => right.contains key && answer key) = true ↔
      CoveredBy related left right := by
  simp only [List.all_eq_true, Bool.and_eq_true, contains,
    Option.isSome_iff_exists]
  constructor
  · rintro allKeys ⟨key, entry⟩ member
    have found := get?_of_mem_entries nodup member
    obtain ⟨⟨other, otherFound⟩, answered⟩ :=
      allKeys key ((mem_keys_iff left key).mpr ⟨entry, found⟩)
    exact ⟨other, otherFound,
      (answerIff key entry other found otherFound).mp answered⟩
  · intro covered key present
    obtain ⟨entry, found⟩ := (mem_keys_iff left key).mp present
    obtain ⟨other, otherFound, connected⟩ :=
      covered _ (mem_entries_of_get? found)
    exact ⟨⟨other, otherFound⟩,
      (answerIff key entry other found otherFound).mpr connected⟩

end Table
end Monkey
