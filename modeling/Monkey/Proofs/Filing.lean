import Monkey.Hash
import Monkey.MemberSet
import Monkey.Proofs.KeySource
import Monkey.Proofs.Table

/-!
# Filing

Hashes and sets file what they hold under the keys of atoms. `Table.fileAll`
files some entries in order, with the keys computed from their content, and
every way of building a collection comes down to it: with a lawful source,
`Hash.ofPairs` and `MemberSet.extend` answer with what `fileAll` makes of their
input, or reject it for its first value without a key; until then they ask for
the key of every text on the way. Filing keeps `Filed`, the
invariant that every entry stands under the key of its own atom and no key
occurs twice.
-/

namespace Monkey

variable {α : Type}

/-! ## Filed tables -/

/-- File one entry under the key of its atom. -/
def Table.file
    (atom : α -> Atom)
    (table : Table Key α)
    (entry : α) : Table Key α :=
  table.insert (atom entry).key entry

/-- File some entries in order. -/
def Table.fileAll
    (atom : α -> Atom)
    (table : Table Key α)
    (entries : List α) : Table Key α :=
  table.insertAll (entries.map fun entry => ((atom entry).key, entry))

theorem Table.fileAll_append
    (atom : α -> Atom)
    (table : Table Key α)
    (front back : List α) :
    table.fileAll atom (front ++ back) =
      (table.fileAll atom front).fileAll atom back := by
  simp only [fileAll, List.map_append, insertAll_append]

theorem filed_empty (atom : α -> Atom) : Filed atom Table.empty :=
  ⟨List.nodup_nil, fun _ member => nomatch member⟩

theorem Filed.insert
    {atom : α -> Atom}
    {table : Table Key α}
    (filed : Filed atom table)
    {key : Key}
    {entry : α}
    (keyEq : key = (atom entry).key) :
    Filed atom (table.insert key entry) := by
  refine ⟨Table.nodup_keys_insert filed.1 key entry, ?_⟩
  intro held member
  rcases Table.mem_entries_insert member with equal | old
  · cases equal
    exact keyEq
  · exact filed.2 held old

/-- Inserting entries that stand under their own keys keeps a table filed. -/
theorem Filed.insertAll
    {atom : α -> Atom}
    {table : Table Key α}
    (filed : Filed atom table)
    {entries : List (Key × α)}
    (keysEq : ∀ entry ∈ entries, entry.1 = (atom entry.2).key) :
    Filed atom (table.insertAll entries) := by
  refine ⟨Table.nodup_keys_insertAll filed.1 entries, ?_⟩
  intro held member
  rcases Table.mem_entries_insertAll member with inserted | old
  · exact keysEq held inserted
  · exact filed.2 held old

theorem Filed.fileAll
    {atom : α -> Atom}
    {table : Table Key α}
    (filed : Filed atom table)
    (entries : List α) :
    Filed atom (table.fileAll atom entries) := by
  apply filed.insertAll
  intro entry member
  obtain ⟨original, _, rfl⟩ := List.mem_map.mp member
  rfl

/-- The union of filed tables is filed. -/
theorem Filed.merge
    {atom : α -> Atom}
    {left right : Table Key α}
    (leftFiled : Filed atom left)
    (rightFiled : Filed atom right) :
    Filed atom (left.merge right) := by
  rw [Table.merge_eq_insertAll]
  exact leftFiled.insertAll rightFiled.2

/-- The entries of a filed table stand under the keys of their atoms. -/
theorem Filed.map_entries
    {atom : α -> Atom}
    {table : Table Key α}
    (filed : Filed atom table) :
    (table.entries.map Prod.snd).map (fun entry => ((atom entry).key, entry)) =
      table.entries := by
  rw [List.map_map]
  calc
    table.entries.map _ = table.entries.map id := by
      apply List.map_congr_left
      intro entry member
      exact Prod.ext (filed.2 entry member).symm rfl
    _ = table.entries := List.map_id _

/-- The keys of the atoms in a filed table are its keys. -/
theorem Filed.map_key_entries
    {atom : α -> Atom}
    {table : Table Key α}
    (filed : Filed atom table) :
    (table.entries.map Prod.snd).map (fun entry => (atom entry).key) =
      table.keys := by
  rw [List.map_map]
  exact List.map_congr_left fun entry member => (filed.2 entry member).symm

/-- Filing the entries of a filed table in any order merges it. -/
theorem Table.get?_fileAll_of_perm
    {atom : α -> Atom}
    (left : Table Key α)
    {right : Table Key α}
    (filed : Filed atom right)
    {order : List α}
    (permuted : order.Perm (right.entries.map Prod.snd))
    (key : Key) :
    (left.fileAll atom order).get? key = (left.merge right).get? key := by
  have entriesPerm : right.entries.Perm
      (order.map fun entry => ((atom entry).key, entry)) := by
    have mapped := permuted.map fun entry => ((atom entry).key, entry)
    rw [filed.map_entries] at mapped
    exact mapped.symm
  exact (Table.get?_insertAll_perm left filed.1 entriesPerm key).symm

/-- Filing the entries of a filed table in any order finds them again. -/
theorem Table.get?_fileAll_empty_of_perm
    {atom : α -> Atom}
    {table : Table Key α}
    (filed : Filed atom table)
    {order : List α}
    (permuted : order.Perm (table.entries.map Prod.snd))
    (key : Key) :
    (Table.empty.fileAll atom order).get? key = table.get? key := by
  rw [get?_fileAll_of_perm empty filed permuted, get?_merge empty filed.1,
    get?_empty, Option.or_none]

/-- Filing the entries of a filed table in any order meets no key twice. -/
theorem Filed.nodup_keys_of_perm
    {atom : α -> Atom}
    {table : Table Key α}
    (filed : Filed atom table)
    {order : List α}
    (permuted : order.Perm (table.entries.map Prod.snd)) :
    (order.map fun entry => (atom entry).key).Nodup := by
  have keysPerm := permuted.map fun entry => (atom entry).key
  rw [filed.map_key_entries] at keysPerm
  exact keysPerm.nodup_iff.mpr filed.1

/-- An entry of a filed table is found under the key of its atom. -/
theorem Filed.get?_of_mem
    {atom : α -> Atom}
    {table : Table Key α}
    (filed : Filed atom table)
    {entry : α}
    (member : entry ∈ table.entries.map Prod.snd) :
    table.get? (atom entry).key = some entry := by
  obtain ⟨⟨key, held⟩, heldMember, rfl⟩ := List.mem_map.mp member
  obtain rfl : key = (atom held).key := filed.2 _ heldMember
  exact Table.get?_of_mem_entries filed.1 heldMember

/-- Filing related entries into matching tables keeps them matching, when related
entries have one key. -/
theorem Table.matches_fileAll
    {atom : α -> Atom}
    {related : α -> α -> Prop}
    (sameKey : ∀ entry other,
      related entry other -> (atom entry).key = (atom other).key)
    {left right : Table Key α}
    (matched : Matches related left.get? right.get?)
    {entries others : List α}
    (connected : List.Forall₂ related entries others) :
    Matches related (left.fileAll atom entries).get?
      (right.fileAll atom others).get? := by
  induction connected generalizing left right with
  | nil => exact matched
  | @cons entry other _ _ headConnected _ inductionHypothesis =>
      have filed : Matches related (left.file atom entry).get?
          (right.file atom other).get? := by
        rw [file, file, sameKey entry other headConnected]
        exact matches_insert matched _ headConnected
      exact inductionHypothesis filed

/-- Filed tables match when their entries can be listed side by side, each next
to a related one of the same key. -/
theorem Filed.matches_of_forall₂
    {atom : α -> Atom}
    {related : α -> α -> Prop}
    (sameKey : ∀ entry other,
      related entry other -> (atom entry).key = (atom other).key)
    {left right : Table Key α}
    (leftFiled : Filed atom left)
    (rightFiled : Filed atom right)
    {order otherOrder : List α}
    (listed : order.Perm (left.entries.map Prod.snd))
    (otherListed : otherOrder.Perm (right.entries.map Prod.snd))
    (connected : List.Forall₂ related order otherOrder) :
    Matches related left.get? right.get? := by
  have matched : Matches related (Table.empty.fileAll atom order).get?
      (Table.empty.fileAll atom otherOrder).get? :=
    Table.matches_fileAll sameKey (fun _ => .none) connected
  intro key
  rw [← Table.get?_fileAll_empty_of_perm leftFiled listed,
    ← Table.get?_fileAll_empty_of_perm rightFiled otherListed]
  exact matched key

/-- An entry is the last one in a list whose atom has a key. -/
def LastUnder
    (atom : α -> Atom)
    (entries : List α)
    (key : Key)
    (entry : α) : Prop :=
  ∃ earlier later, entries = earlier ++ entry :: later ∧
    (atom entry).key = key ∧ ∀ other ∈ later, (atom other).key ≠ key

/-- Filing some entries keeps the last one under each key. -/
theorem Table.get?_fileAll_empty_eq_some_iff
    (atom : α -> Atom)
    (entries : List α)
    (key : Key)
    (entry : α) :
    (Table.empty.fileAll atom entries).get? key = some entry ↔
      LastUnder atom entries key entry := by
  unfold Table.fileAll
  rw [Table.get?_insertAll, Table.get?_empty, Option.or_none,
    Table.find?_eq_some_iff, ← List.map_reverse]
  constructor
  · rintro ⟨front, back, split, absent⟩
    obtain ⟨later, rest, reversed, rfl, restEq⟩ :=
      List.map_eq_append_iff.mp split
    obtain ⟨entry, earlier, rfl, entryEq, rfl⟩ :=
      List.map_eq_cons_iff.mp restEq
    cases entryEq
    refine ⟨earlier.reverse, later.reverse, ?_, rfl, ?_⟩
    · rw [← List.reverse_reverse entries, reversed]
      simp
    · intro other member sameKey
      apply absent
      rw [List.map_map]
      exact List.mem_map.mpr ⟨other, List.mem_reverse.mp member, sameKey⟩
  · rintro ⟨earlier, later, rfl, rfl, absent⟩
    refine ⟨later.reverse.map fun entry => ((atom entry).key, entry),
      earlier.reverse.map fun entry => ((atom entry).key, entry), by simp, ?_⟩
    intro present
    obtain ⟨other, member, sameKey⟩ := List.mem_map.mp present
    obtain ⟨original, originalMember, rfl⟩ := List.mem_map.mp member
    exact absent original (List.mem_reverse.mp originalMember) sameKey

/-- What a table holds after filing is what was filed or what it held before. -/
theorem Table.mem_of_mem_fileAll
    {atom : α -> Atom}
    {table : Table Key α}
    {entries : List α}
    {entry : Key × α}
    (member : entry ∈ (table.fileAll atom entries).entries) :
    entry.2 ∈ entries ∨ entry ∈ table.entries := by
  rcases Table.mem_entries_insertAll member with inserted | old
  · obtain ⟨original, originalMember, rfl⟩ := List.mem_map.mp inserted
    exact Or.inl originalMember
  · exact Or.inr old

/-! ## Building by filing -/

/-- A loop over a list accepts it when it accepts the first item and the rest. -/
theorem mapM_cons_eq_ok_iff
    {α β ε : Type}
    (accept : β -> Except ε α)
    (first : β)
    (rest : List β)
    (entries : List α) :
    (first :: rest).mapM accept = .ok entries ↔
      ∃ head tail, entries = head :: tail ∧ accept first = .ok head ∧
        rest.mapM accept = .ok tail := by
  rw [List.mapM_cons]
  constructor
  · intro accepted
    cases firstAccepted : accept first with
    | error rejected =>
        rw [firstAccepted] at accepted
        cases accepted
    | ok head =>
        cases restAccepted : rest.mapM accept with
        | error rejected =>
            rw [firstAccepted, restAccepted] at accepted
            cases accepted
        | ok tail =>
            rw [firstAccepted, restAccepted] at accepted
            cases accepted
            exact ⟨head, tail, rfl, rfl, rfl⟩
  · rintro ⟨head, tail, rfl, firstAccepted, restAccepted⟩
    rw [firstAccepted, restAccepted]
    rfl

/-- A loop that accepts exactly the images of entries, each for its own, accepts
exactly the lists of images. -/
theorem mapM_eq_ok_iff
    {α β ε : Type}
    {accept : β -> Except ε α}
    {image : α -> β}
    (acceptIff : ∀ item entry, accept item = .ok entry ↔ item = image entry)
    (items : List β)
    (entries : List α) :
    items.mapM accept = .ok entries ↔ items = entries.map image := by
  induction items generalizing entries with
  | nil =>
      cases entries with
      | nil => exact ⟨fun _ => rfl, fun _ => rfl⟩
      | cons => exact ⟨nofun, nofun⟩
  | cons item rest inductionHypothesis =>
      rw [mapM_cons_eq_ok_iff, eq_comm, List.map_eq_cons_iff]
      constructor
      · rintro ⟨head, tail, rfl, itemAccepted, restAccepted⟩
        exact ⟨head, tail, rfl, ((acceptIff _ _).mp itemAccepted).symm,
          ((inductionHypothesis _).mp restAccepted).symm⟩
      · rintro ⟨head, tail, rfl, rfl, restEq⟩
        exact ⟨head, tail, rfl, (acceptIff _ _).mpr rfl,
          (inductionHypothesis tail).mpr restEq.symm⟩

theorem mapM_cons_eq_error_iff
    {α β ε : Type}
    (accept : β -> Except ε α)
    (first : β)
    (rest : List β)
    (rejected : ε) :
    (first :: rest).mapM accept = .error rejected ↔
      accept first = .error rejected ∨
        ∃ head, accept first = .ok head ∧
          rest.mapM accept = .error rejected := by
  rw [List.mapM_cons]
  cases accept first with
  | error reason => simp [bind, Except.bind]
  | ok head =>
      cases rest.mapM accept <;> simp [bind, Except.bind, pure, Except.pure]

/-- A loop over a list stops at the first item that is not accepted. -/
theorem mapM_eq_error_iff
    {α β ε : Type}
    (accept : β -> Except ε α)
    (items : List β)
    (rejected : ε) :
    items.mapM accept = .error rejected ↔
      ∃ front item back, items = front ++ item :: back ∧
        (∀ earlier ∈ front, ∃ entry, accept earlier = .ok entry) ∧
        accept item = .error rejected := by
  induction items with
  | nil =>
      constructor
      · intro stopped
        cases stopped
      · rintro ⟨front, item, back, split, _⟩
        simp at split
  | cons first rest inductionHypothesis =>
      rw [mapM_cons_eq_error_iff, inductionHypothesis]
      constructor
      · rintro (stopped | ⟨head, accepted, front, item, back, rfl,
          frontAccepted, stopped⟩)
        · exact ⟨[], first, rest, rfl, List.forall_mem_nil _, stopped⟩
        · exact ⟨first :: front, item, back, rfl,
            List.forall_mem_cons.mpr ⟨⟨head, accepted⟩, frontAccepted⟩,
            stopped⟩
      · rintro ⟨front, item, back, split, frontAccepted, stopped⟩
        cases front with
        | nil =>
            cases split
            exact Or.inl stopped
        | cons head front =>
            cases split
            obtain ⟨⟨entry, accepted⟩, restAccepted⟩ :=
              List.forall_mem_cons.mp frontAccepted
            exact Or.inr ⟨entry, accepted, front, item, back, rfl,
              restAccepted, stopped⟩

/-- What a loop over a list returns comes from its items. -/
theorem exists_mem_of_mapM_eq_ok
    {α β ε : Type}
    {accept : β -> Except ε α}
    {items : List β}
    {entries : List α}
    (accepted : items.mapM accept = .ok entries)
    {entry : α}
    (member : entry ∈ entries) :
    ∃ item ∈ items, accept item = .ok entry := by
  induction items generalizing entries with
  | nil =>
      cases accepted
      cases member
  | cons first rest inductionHypothesis =>
      obtain ⟨head, tail, rfl, firstAccepted, restAccepted⟩ :=
        (mapM_cons_eq_ok_iff accept first rest entries).mp accepted
      rcases List.mem_cons.mp member with rfl | inTail
      · exact ⟨first, List.mem_cons_self, firstAccepted⟩
      · obtain ⟨item, itemMember, itemAccepted⟩ :=
          inductionHypothesis restAccepted inTail
        exact ⟨item, List.mem_cons_of_mem _ itemMember, itemAccepted⟩

variable [Embedding]

/-- Extending a set adds the elements one after the other, whatever the key
source answers. -/
theorem MemberSet.extend_eq_foldlM
    {σ : Type}
    [KeySource σ]
    (members : MemberSet)
    (elements : List Value) :
    (extend members elements : Filing σ MemberSet) =
      elements.foldlM withElement members := by
  induction elements generalizing members with
  | nil => rfl
  | cons element rest inductionHypothesis =>
      simp only [List.foldlM_cons, withElement, extend, bind_assoc, pure_bind,
        inductionHypothesis]

variable {β σ : Type} [KeySource σ] [LawfulKeySource σ] {known : Set Text}

/-- The texts whose keys are asked for when values are filed in order: those that
come before the first value that is not hashable. -/
def Value.requestedInOrder (values : List Value) : List Text :=
  (values.takeWhile fun value => value.kind.isHashable).filterMap Value.asText?

theorem Value.requestedInOrder_cons_of_hashable
    {value : Value}
    (hashable : value.kind.isHashable = true)
    (rest : List Value) :
    requestedInOrder (value :: rest) =
      value.asText?.toList ++ requestedInOrder rest := by
  simp only [requestedInOrder, List.takeWhile_cons, hashable, if_true,
    List.filterMap_cons]
  cases value.asText? <;> rfl

theorem Value.requestedInOrder_cons_of_not_hashable
    {value : Value}
    (notHashable : ¬ value.kind.isHashable = true)
    (rest : List Value) :
    requestedInOrder (value :: rest) = value.asText?.toList := by
  simp only [requestedInOrder, List.takeWhile_cons, notHashable]
  cases value with
  | atom value => cases value <;> exact absurd rfl notHashable
  | _ => rfl

/-- A loop that files one item in each step files all of them, or stops at the
first one that is rejected. It asks for the keys of the texts on the way. -/
theorem asks_foldlM
    {atom : α -> Atom}
    {subject : β -> Value}
    {accept : β -> Except Unhashable α}
    {step : Table Key α -> β -> Filing σ (Table Key α)}
    {items : List β}
    (acceptIff : ∀ item,
      (∃ entry, accept item = .ok entry) ↔
        (subject item).kind.isHashable = true)
    (asksStep : ∀ table, ∀ item ∈ items,
      Asks known (step table item).run (subject item).asText?.toList
        ((accept item).map (table.file atom)))
    (table : Table Key α) :
    Asks known (items.foldlM step table).run
      (Value.requestedInOrder (items.map subject))
      ((items.mapM accept).map (table.fileAll atom)) := by
  induction items generalizing table with
  | nil => exact asks_filing_pure _
  | cons item rest inductionHypothesis =>
      have asksRest := inductionHypothesis fun table other member =>
        asksStep table other (List.mem_cons_of_mem _ member)
      have asksItem := asksStep table item List.mem_cons_self
      rw [List.mapM_cons, List.foldlM_cons, List.map_cons]
      cases accepted : accept item with
      | error rejected =>
          have notHashable : ¬ (subject item).kind.isHashable = true := by
            rw [← acceptIff, accepted]
            exact nofun
          rw [Value.requestedInOrder_cons_of_not_hashable notHashable]
          rw [accepted] at asksItem
          exact asks_filing_bind_error asksItem _
      | ok entry =>
          rw [Value.requestedInOrder_cons_of_hashable
            ((acceptIff item).mp ⟨entry, accepted⟩)]
          rw [accepted] at asksItem
          have asksNext := asksRest (table.file atom entry)
          refine asks_filing_bind asksItem ?_
          cases mapped : rest.mapM accept <;> rw [mapped] at asksNext <;>
            exact asksNext

/-- Adding an element to a set files it. -/
theorem asks_withElement
    (members : MemberSet)
    {element : Value}
    (elementKnown : element.Known known) :
    Asks known
      (MemberSet.withElement members element : Filing σ MemberSet).run
      element.asText?.toList
      (element.toAtom.map (members.file id)) := by
  have requested := asks_filed (σ := σ) elementKnown
  cases accepted : element.toAtom <;> rw [accepted] at requested
  · exact asks_filing_bind_error requested _
  · exact asks_filing_bind_pure requested rfl

theorem answers_withElement
    (members : MemberSet)
    {element : Value}
    (elementKnown : element.Known known) :
    Answers known
      (MemberSet.withElement members element : Filing σ MemberSet).run
      (element.toAtom.map (members.file id)) :=
  (asks_withElement members elementKnown).answers

/-- Adding elements to a set one after the other files them. -/
theorem asks_foldlM_withElement
    (members : MemberSet)
    {elements : List Value}
    (elementsKnown : ∀ element ∈ elements, element.Known known) :
    Asks known
      (elements.foldlM MemberSet.withElement members : Filing σ MemberSet).run
      (Value.requestedInOrder elements)
      ((elements.mapM Value.toAtom).map (members.fileAll id)) := by
  have step (members : MemberSet) (element : Value)
      (member : element ∈ elements) :=
    asks_withElement (σ := σ) members (elementsKnown element member)
  have loop : Asks known (elements.foldlM MemberSet.withElement members).run
      (Value.requestedInOrder (elements.map id)) _ :=
    asks_foldlM Value.exists_toAtom_eq_ok_iff step members
  rwa [List.map_id] at loop

theorem answers_foldlM_withElement
    (members : MemberSet)
    {elements : List Value}
    (elementsKnown : ∀ element ∈ elements, element.Known known) :
    Answers known
      (elements.foldlM MemberSet.withElement members : Filing σ MemberSet).run
      ((elements.mapM Value.toAtom).map (members.fileAll id)) :=
  (asks_foldlM_withElement members elementsKnown).answers

/-- A set of elements is what filing them makes of the empty set. -/
theorem asks_ofElements
    {elements : List Value}
    (elementsKnown : ∀ element ∈ elements, element.Known known) :
    Asks known (MemberSet.ofElements elements : Filing σ MemberSet).run
      (Value.requestedInOrder elements)
      ((elements.mapM Value.toAtom).map (Table.empty.fileAll id)) := by
  rw [MemberSet.ofElements, MemberSet.extend_eq_foldlM]
  exact asks_foldlM_withElement Table.empty elementsKnown

theorem answers_ofElements
    {elements : List Value}
    (elementsKnown : ∀ element ∈ elements, element.Known known) :
    Answers known (MemberSet.ofElements elements : Filing σ MemberSet).run
      ((elements.mapM Value.toAtom).map (Table.empty.fileAll id)) :=
  (asks_ofElements elementsKnown).answers

/-- A pair with its first component as an atom, or rejected for it. -/
def Value.toEntry (pair : Value × Value) :
    Except Unhashable (Atom × Value) :=
  pair.1.toAtom.map fun atom => (atom, pair.2)

theorem Value.toEntry_eq_ok_iff
    (pair : Value × Value)
    (entry : Atom × Value) :
    Value.toEntry pair = .ok entry ↔
      pair.1 = .atom entry.1 ∧ pair.2 = entry.2 := by
  obtain ⟨key, value⟩ := pair
  obtain ⟨keyAtom, filedValue⟩ := entry
  cases key <;> simp [toEntry, toAtom, Except.map]

/-- Exactly the pairs with a hashable key are entries. -/
theorem Value.exists_toEntry_eq_ok_iff (pair : Value × Value) :
    (∃ entry, Value.toEntry pair = .ok entry) ↔
      pair.1.kind.isHashable = true := by
  rw [← exists_toAtom_eq_ok_iff]
  unfold toEntry
  cases pair.1.toAtom <;> simp [Except.map]

/-- Adding a pair to a hash files it. -/
theorem asks_withPair
    (hash : Hash)
    {pair : Value × Value}
    (keyKnown : pair.1.Known known) :
    Asks known (Hash.withPair hash pair : Filing σ Hash).run
      pair.1.asText?.toList
      ((Value.toEntry pair).map (hash.file Prod.fst)) := by
  have requested := asks_filed (σ := σ) keyKnown
  unfold Value.toEntry
  cases accepted : pair.1.toAtom <;> rw [accepted] at requested
  · exact asks_filing_bind_error requested _
  · exact asks_filing_bind_pure requested rfl

/-- A hash of pairs is what filing them makes of the empty hash. -/
theorem asks_ofPairs
    {pairs : List (Value × Value)}
    (keysKnown : ∀ pair ∈ pairs, pair.1.Known known) :
    Asks known (Hash.ofPairs pairs : Filing σ Hash).run
      (Value.requestedInOrder (pairs.map Prod.fst))
      ((pairs.mapM Value.toEntry).map (Table.empty.fileAll Prod.fst)) := by
  have step (hash : Hash) (pair : Value × Value) (member : pair ∈ pairs) :=
    asks_withPair (σ := σ) hash (keysKnown pair member)
  exact asks_foldlM Value.exists_toEntry_eq_ok_iff step Table.empty

theorem answers_ofPairs
    {pairs : List (Value × Value)}
    (keysKnown : ∀ pair ∈ pairs, pair.1.Known known) :
    Answers known (Hash.ofPairs pairs : Filing σ Hash).run
      ((pairs.mapM Value.toEntry).map (Table.empty.fileAll Prod.fst)) :=
  (asks_ofPairs keysKnown).answers

end Monkey
