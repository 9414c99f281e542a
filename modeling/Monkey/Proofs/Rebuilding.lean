import Monkey.Proofs.HashConstruction

/-!
# Rebuilding collections

What a hash or a set yields when it is listed is enough to build it again. All
of it stands under the key of its own atom, so no two of the listed entries have
one key, each is found under its own, and filing them in whatever order they are
listed makes the same collection.
-/

namespace Monkey

section

variable [Embedding]

/-! ## Equal hashes -/

/-- Two hashes are equal, and they store the same atoms and values under the
same keys. -/
def Hash.SameEntries (left right : Hash) : Prop :=
  (Value.hash left == .hash right) = true ∧
    ∀ key, left.get? key = right.get? key

theorem Hash.sameEntries_of_get?_eq
    {left right : Hash}
    (leftNodup : left.keys.Nodup)
    (rightWellFormed : (Value.hash right).WellFormed)
    (sameEntries : ∀ key, left.get? key = right.get? key) :
    left.SameEntries right := by
  have rightNodup := ((Value.wellFormed_hash right).mp rightWellFormed).1.1
  have sameLookup : left.get? = right.get? := funext sameEntries
  refine ⟨?_, sameEntries⟩
  rw [Value.hash_beq_hash_iff leftNodup rightNodup, sameLookup,
    ← Value.hash_beq_hash_iff rightNodup rightNodup]
  exact Value.beq_refl rightWellFormed

/-! ## Listings -/

omit [Embedding] in
theorem MemberSet.perm_members (members : MemberSet) :
    (MemberSet.members members).Perm (members.entries.map Prod.snd) := by
  have listed := (perm_canonicalOrder
    (members.entries.map fun entry => (entry.2, ()))).map Prod.fst
  rwa [List.map_map] at listed

/-- The members of a filed set filed anew in any order are the same members. -/
theorem MemberSet.sameMembers_of_perm
    {members : MemberSet}
    (filed : Filed id members)
    {order : List Atom}
    (permuted : order.Perm (members.entries.map Prod.snd)) :
    SameMembers (Table.empty.fileAll id order) members :=
  sameMembers_of_get?_eq ((filed_empty id).fileAll order) filed
    (Table.get?_fileAll_empty_of_perm filed permuted)

/-- The entries of a well-formed hash filed anew in any order are the same
entries. -/
theorem Hash.sameEntries_of_perm
    {hash : Hash}
    (wellFormed : (Value.hash hash).WellFormed)
    {order : List (Atom × Value)}
    (permuted : order.Perm (hash.entries.map Prod.snd)) :
    SameEntries (Table.empty.fileAll Prod.fst order) hash := by
  have filed := ((Value.wellFormed_hash hash).mp wellFormed).1
  exact sameEntries_of_get?_eq ((filed_empty Prod.fst).fileAll order).1
    wellFormed (Table.get?_fileAll_empty_of_perm filed permuted)

/-! ## What the operations answer -/

section Answers

variable {σ : Type} [KeySource σ] [LawfulKeySource σ] {known : Set Text}

/-- A hash of entries holds all of them. -/
theorem answers_ofPairs_entries
    {entries : List (Atom × Value)}
    (atomsKnown : ∀ entry ∈ entries, entry.1.Known known) :
    Answers known
      (Hash.ofPairs (entries.map Value.ofEntry) : Filing σ Hash).run
      (.ok (Table.empty.fileAll Prod.fst entries)) := by
  have keysKnown : ∀ pair ∈ entries.map Value.ofEntry,
      pair.1.Known known := by
    intro pair member
    obtain ⟨entry, entryMember, rfl⟩ := List.mem_map.mp member
    exact atomsKnown entry entryMember
  have answers := answers_ofPairs (σ := σ) keysKnown
  have accepted : (entries.map Value.ofEntry).mapM Value.toEntry =
      .ok entries :=
    (mapM_eq_ok_iff Value.toEntry_eq_ok_iff_ofEntry _ _).mpr rfl
  rw [accepted] at answers
  exact answers

/-- Programs can build the hash of any entries whose values they can build. -/
theorem Value.Built.hash_fileAll
    {entries : List (Atom × Value)}
    (built : ∀ entry ∈ entries, entry.2.Built) :
    (Value.hash (Table.empty.fileAll Prod.fst entries)).Built := by
  have answers := answers_ofPairs_entries (σ := Recompute)
    fun entry (_ : entry ∈ entries) => entry.1.known_univ
  refine .hash (fun pair member => ?_) answers.recompute
  obtain ⟨entry, listed, rfl⟩ := List.mem_map.mp member
  exact built entry listed

/-- Looking up the atom of an entry of a filed hash answers its value. -/
theorem answers_lookup_of_mem
    {hash : Hash}
    (filed : Filed Prod.fst hash)
    {entry : Atom × Value}
    (member : entry ∈ hash.entries.map Prod.snd)
    (atomKnown : entry.1.Known known) :
    Answers known (hash.lookup (.atom entry.1) : StateM σ (Option Value))
      (some entry.2) := by
  have answers : Answers known
      (hash.lookup (.atom entry.1) : StateM σ (Option Value)) _ :=
    answers_lookup hash atomKnown
  rw [Value.key?, Value.asAtom?, Option.map_some, Option.bind_some,
    filed.get?_of_mem member] at answers
  exact answers

/-- A filed set contains every atom that it holds. -/
theorem answers_contains_of_mem
    {members : MemberSet}
    (filed : Filed id members)
    {atom : Atom}
    (member : atom ∈ members.entries.map Prod.snd)
    (atomKnown : atom.Known known) :
    Answers known (members.contains (.atom atom) : StateM σ Bool) true := by
  have answers : Answers known
      (members.contains (.atom atom) : StateM σ Bool) _ :=
    answers_contains members atomKnown
  have found : members.get? atom.key = some atom := filed.get?_of_mem member
  rw [Value.key?, Value.asAtom?, Option.map_some, Option.any_some,
    Table.contains, found] at answers
  exact answers

end Answers

/-! ## Collections from their own entries -/

/-- Whatever a program builds files each atom under the atom's own key. So the
entries of a hash, in whatever order they are listed, have distinct keys, each
is found under its own, and together they build an equal hash; and the members
of a set, however it was built, have distinct keys, belong to it, and together
build an equal set. This holds for every lawful key source. -/
theorem collections_rebuild_from_entries
    (σ : Type)
    [KeySource σ]
    [LawfulKeySource σ]
    (known : Set Text) :
    (∀ hash : Hash, (Value.hash hash).Built ->
      Filed Prod.fst hash ∧
        ∀ order : List (Atom × Value), order.Perm hash.pairs ->
          (∀ entry ∈ order, entry.1.Known known) ->
            (order.map fun entry => entry.1.key).Nodup ∧
            (∀ entry ∈ order,
              Answers known
                (hash.lookup (.atom entry.1) : StateM σ (Option Value))
                (some entry.2)) ∧
            ∃ rebuilt : Hash,
              Answers known
                (Hash.ofPairs (order.map Value.ofEntry) : Filing σ Hash).run
                (.ok rebuilt) ∧
              rebuilt.SameEntries hash) ∧
    (∀ members : MemberSet, (Value.set members).Built ->
      Filed id members ∧
        ∀ order : List Atom, order.Perm (MemberSet.members members) ->
          (∀ atom ∈ order, atom.Known known) ->
            (order.map Atom.key).Nodup ∧
            (∀ atom ∈ order,
              Answers known
                (members.contains (.atom atom) : StateM σ Bool) true) ∧
            ∃ rebuilt : MemberSet,
              Answers known
                (MemberSet.ofElements (order.map .atom) :
                  Filing σ MemberSet).run (.ok rebuilt) ∧
              rebuilt.SameMembers members) := by
  refine ⟨?_, ?_⟩
  · intro hash built
    have filed := ((Value.wellFormed_hash hash).mp built.wellFormed).1
    refine ⟨filed, ?_⟩
    intro order listed atomsKnown
    have permuted := listed.trans (Hash.perm_pairs hash)
    refine ⟨filed.nodup_keys_of_perm permuted, ?_, _,
      answers_ofPairs_entries atomsKnown,
      Hash.sameEntries_of_perm built.wellFormed permuted⟩
    intro entry member
    exact answers_lookup_of_mem filed (permuted.mem_iff.mp member)
      (atomsKnown entry member)
  · intro members built
    have filed : Filed id members := built.wellFormed
    refine ⟨filed, ?_⟩
    intro order listed atomsKnown
    have permuted := listed.trans (MemberSet.perm_members members)
    refine ⟨filed.nodup_keys_of_perm permuted, ?_, _,
      answers_ofElements_atoms atomsKnown,
      MemberSet.sameMembers_of_perm filed permuted⟩
    intro atom member
    exact answers_contains_of_mem filed (permuted.mem_iff.mp member)
      (atomsKnown atom member)

end

/-- A hash in which one of two colliding texts replaced the other, and the union
of a set with one that holds a copy of its text, built again from their entries
in another order. -/
theorem collections_rebuild_after_collision :
    let first : Text := ⟨0, "7mohtcOFVz"⟩
    let second : Text := ⟨1, "c1E51sSEyx"⟩
    let copy : Text := ⟨2, "7mohtcOFVz"⟩
    let known : Set Text := {first, second, copy}
    let hash : Hash := Table.empty.fileAll Prod.fst
      [(.text first, .int 1), (.bool true, .null), (.text second, .int 2)]
    let left : MemberSet := Table.empty.fileAll id [.text first, .int 1]
    let right : MemberSet := Table.empty.fileAll id [.text copy]
    Faithful known ({} : Memo) ∧
      (Value.hash hash).Built ∧ (Value.set (left.union right)).Built ∧
      (∃ rebuilt : Hash,
        Answers known
          (Hash.ofPairs [(.bool true, .null), (.text second, .int 2)] :
            Filing (Session Memo) Hash).run (.ok rebuilt) ∧
        rebuilt.SameEntries hash) ∧
      (∃ rebuilt : MemberSet,
        Answers known
          (MemberSet.ofElements [.int 1, .text copy] :
            Filing (Session Memo) MemberSet).run (.ok rebuilt) ∧
        rebuilt.SameMembers (left.union right)) := by
  intro first second copy known hash left right
  have faithful : Faithful known ({} : Memo) :=
    Memo.faithful_of_distinct_cells [first, second, copy] (by simp [known])
      (by simp [first, second, copy])
  have secondKnown : (Atom.text second).Known known := Or.inr (Or.inl rfl)
  have copyKnown : (Atom.text copy).Known known := Or.inr (Or.inr rfl)
  have hashBuilt : (Value.hash hash).Built := by
    refine @Value.Built.hash _ [(.text first, .int 1), (.bool true, .null),
      (.text second, .int 2)] hash ?_ rfl
    simpa using ⟨.atom _, .null, .atom _⟩
  have unionBuilt : (Value.set (left.union right)).Built :=
    .union (@Value.Built.set _ [.text first, .int 1] left rfl)
      (@Value.Built.set _ [.text copy] right rfl)
  obtain ⟨hashes, sets⟩ :=
    collections_rebuild_from_entries (Session Memo) known
  refine ⟨faithful, hashBuilt, unionBuilt, ?_, ?_⟩
  · have permuted : List.Perm [(.bool true, .null), (.text second, .int 2)]
        hash.pairs :=
      (List.Perm.swap _ _ _).trans (Hash.perm_pairs hash).symm
    obtain ⟨_, _, rebuilds⟩ := (hashes hash hashBuilt).2 _ permuted
      (by simpa using ⟨trivial, secondKnown⟩)
    exact rebuilds
  · have permuted : List.Perm [.int 1, .text copy]
        (MemberSet.members (left.union right)) :=
      (List.Perm.swap _ _ _).trans
        (MemberSet.perm_members (left.union right)).symm
    obtain ⟨_, _, rebuilds⟩ := (sets _ unionBuilt).2 _ permuted
      (by simpa using ⟨trivial, copyKnown⟩)
    exact rebuilds

end Monkey
