import Monkey.Proofs.Atom
import Monkey.Proofs.WellFormed

/-!
# Equality of values is an equivalence

What equals an array is an array that matches it position by position, and what
equals a well-formed hash or set is one that matches it under every key. With
this the laws of equality pass from the parts of a value to the value.

Values in memory are compared with a shortcut: two payloads in one allocation
are equal without a look inside. `Value.Compared` collects the answers that such
comparisons give, wherever they take the shortcut, and on well-formed values
they all agree with the plain structural comparison.
-/

namespace Monkey

section

variable [Embedding]

namespace Value

/-! ## What equals a value -/

/-- Equal values have one kind. -/
theorem kind_eq_of_beq
    {left right : Value}
    (equal : (left == right) = true) :
    left.kind = right.kind := by
  cases left <;> cases right <;> first
    | rfl
    | exact Atom.kind_eq_of_beq equal
    | cases equal

theorem beq_eq_false_of_kind_ne
    {left right : Value}
    (different : left.kind ≠ right.kind) :
    (left == right) = false := by
  rw [Bool.eq_false_iff]
  intro equal
  exact different (kind_eq_of_beq equal)

theorem atom_beq_iff (atom : Atom) (right : Value) :
    (Value.atom atom == right) = true ↔
      ∃ other, right = .atom other ∧ (atom == other) = true := by
  constructor
  · intro equal
    cases right with
    | atom other => exact ⟨other, rfl, equal⟩
    | _ => cases equal
  · rintro ⟨other, rfl, equal⟩
    exact equal

theorem null_beq_iff (right : Value) :
    (Value.null == right) = true ↔ right = .null := by
  constructor
  · intro equal
    cases right with
    | null => rfl
    | _ => cases equal
  · rintro rfl
    rfl

theorem returned_beq_iff (value right : Value) :
    (Value.returned value == right) = true ↔
      ∃ other, right = .returned other ∧ (value == other) = true := by
  constructor
  · intro equal
    cases right with
    | returned other => exact ⟨other, rfl, equal⟩
    | _ => cases equal
  · rintro ⟨other, rfl, equal⟩
    exact equal

theorem failure_beq_iff (reason : Failure) (right : Value) :
    (Value.failure reason == right) = true ↔ right = .failure reason := by
  constructor
  · intro equal
    cases right with
    | failure other =>
        have sameReason : (reason == other) = true := equal
        rw [beq_iff_eq.mp sameReason]
    | _ => cases equal
  · rintro rfl
    change (reason == reason) = true
    exact beq_self_eq_true reason

theorem closure_beq_iff (function : Closure) (right : Value) :
    (Value.closure function == right) = true ↔
      ∃ other, right = .closure other ∧
        function.code = other.code ∧ function.scope = other.scope := by
  constructor
  · intro equal
    cases right with
    | closure other =>
        have same : (function.code == other.code &&
          function.scope == other.scope) = true := equal
        simp only [Bool.and_eq_true, beq_iff_eq] at same
        exact ⟨other, rfl, same⟩
    | _ => cases equal
  · rintro ⟨other, rfl, sameCode, sameScope⟩
    change (function.code == other.code &&
      function.scope == other.scope) = true
    simp [sameCode, sameScope]

theorem builtin_beq_iff (function : Builtin) (right : Value) :
    (Value.builtin function == right) = true ↔
      ∃ other, right = .builtin other ∧ function.name = other.name := by
  constructor
  · intro equal
    cases right with
    | builtin other =>
        have sameName : (function.name == other.name) = true := equal
        exact ⟨other, rfl, beq_iff_eq.mp sameName⟩
    | _ => cases equal
  · rintro ⟨other, rfl, sameName⟩
    change (function.name == other.name) = true
    simp [sameName]

theorem beq_eq_beq (left right : Value) :
    left.beq right = (left == right) := rfl

/-- Lists of items are equal when they match at every position. -/
theorem beqItems_iff (left right : List Value) :
    beqItems left right = true ↔
      Matches (fun item other => (item == other) = true)
        (fun index : Nat => left[index]?) fun index => right[index]? := by
  induction left generalizing right with
  | nil =>
      cases right with
      | nil => simpa [beqItems] using Matches.refl fun _ _ found => by simp at found
      | cons other others =>
          constructor
          · intro equal
            cases equal
          · intro matched
            have atStart := matched.eq_none_iff 0
            simp at atStart
  | cons item items inductionHypothesis =>
      cases right with
      | nil =>
          constructor
          · intro equal
            cases equal
          · intro matched
            have atStart := matched.eq_none_iff 0
            simp at atStart
      | cons other others =>
          simp only [beqItems, beq_eq_beq, Bool.and_eq_true,
            inductionHypothesis]
          constructor
          · rintro ⟨equal, matched⟩ (_ | index)
            · exact .some equal
            · exact matched index
          · intro matched
            constructor
            · have atStart := matched 0
              simpa using atStart
            · intro index
              exact matched (index + 1)

theorem array_beq_iff (items : List Value) (right : Value) :
    (Value.array items == right) = true ↔
      ∃ others, right = .array others ∧
        Matches (fun item other => (item == other) = true)
          (fun index : Nat => items[index]?) fun index => others[index]? := by
  constructor
  · intro equal
    cases right with
    | array others => exact ⟨others, rfl, (beqItems_iff items others).mp equal⟩
    | _ => cases equal
  · rintro ⟨others, rfl, matched⟩
    exact (beqItems_iff items others).mpr matched

/-- Two entries of hashes are equal when their atoms and values are. -/
def SamePair (entry other : Atom × Value) : Prop :=
  (entry.1 == other.1) = true ∧ (entry.2 == other.2) = true

theorem pairsFoundIn_iff
    (entries : List (Key × Atom × Value))
    (other : Hash) :
    pairsFoundIn entries other = true ↔
      Table.CoveredBy SamePair ⟨entries⟩ other := by
  induction entries with
  | nil => simp [pairsFoundIn, Table.CoveredBy]
  | cons entry rest inductionHypothesis =>
      obtain ⟨key, keyAtom, value⟩ := entry
      simp only [Table.CoveredBy] at inductionHypothesis
      simp only [pairsFoundIn, beq_eq_beq, Bool.and_eq_true,
        inductionHypothesis, Table.CoveredBy, List.forall_mem_cons]
      refine and_congr ?_ Iff.rfl
      cases other.get? key with
      | none => simp
      | some found => simp [SamePair]

theorem hash_beq_iff (pairs : Hash) (right : Value) :
    (Value.hash pairs == right) = true ↔
      ∃ others, right = .hash others ∧ pairs.size = others.size ∧
        Table.CoveredBy SamePair pairs others := by
  constructor
  · intro equal
    cases right with
    | hash others =>
        have same : (pairs.size == others.size &&
          pairsFoundIn pairs.entries others) = true := equal
        simp only [Bool.and_eq_true, beq_iff_eq, pairsFoundIn_iff] at same
        exact ⟨others, rfl, same⟩
    | _ => cases equal
  · rintro ⟨others, rfl, sameSize, covered⟩
    change (pairs.size == others.size &&
      pairsFoundIn pairs.entries others) = true
    simp only [Bool.and_eq_true, beq_iff_eq, pairsFoundIn_iff]
    exact ⟨sameSize, covered⟩

theorem set_beq_iff (members : MemberSet) (right : Value) :
    (Value.set members == right) = true ↔
      ∃ others, right = .set others ∧ members.size = others.size ∧
        Table.CoveredBy (fun member other => (member == other) = true)
          members others := by
  have sets (others : MemberSet) :
      MemberSet.beq members others = true ↔ members.size = others.size ∧
        Table.CoveredBy (fun member other => (member == other) = true)
          members others := by
    simp only [MemberSet.beq, Bool.and_eq_true, beq_iff_eq, List.all_eq_true]
    refine and_congr Iff.rfl (forall₂_congr fun entry _ => ?_)
    cases others.get? entry.1 <;> simp
  constructor
  · intro equal
    cases right with
    | set others => exact ⟨others, rfl, (sets others).mp equal⟩
    | _ => cases equal
  · rintro ⟨others, rfl, same⟩
    exact (sets others).mpr same

/-- Well-formed hashes are equal when they match under every key. -/
theorem hash_beq_hash_iff
    {left right : Hash}
    (leftNodup : left.keys.Nodup)
    (rightNodup : right.keys.Nodup) :
    (Value.hash left == .hash right) = true ↔
      Matches SamePair left.get? right.get? := by
  rw [hash_beq_iff, Table.matches_iff_coveredBy _ leftNodup rightNodup]
  simp

/-- Well-formed sets are equal when they match under every key. -/
theorem set_beq_set_iff
    {left right : MemberSet}
    (leftNodup : left.keys.Nodup)
    (rightNodup : right.keys.Nodup) :
    (Value.set left == .set right) = true ↔
      Matches (fun member other => (member == other) = true)
        left.get? right.get? := by
  rw [set_beq_iff, Table.matches_iff_coveredBy _ leftNodup rightNodup]
  simp

/-! ## Laws of equality -/

/-- A well-formed value equals itself. -/
theorem beq_refl
    {value : Value}
    (wellFormed : value.WellFormed) :
    (value == value) = true := by
  induction value using inductionOn with
  | atom value => exact value.beq_refl
  | null => rfl
  | returned value inductionHypothesis => exact inductionHypothesis wellFormed
  | failure reason => exact (failure_beq_iff _ _).mpr rfl
  | closure function => exact (closure_beq_iff _ _).mpr ⟨_, rfl, rfl, rfl⟩
  | builtin function => exact (builtin_beq_iff _ _).mpr ⟨_, rfl, rfl⟩
  | array items inductionHypothesis =>
      rw [wellFormed_array] at wellFormed
      refine (array_beq_iff _ _).mpr ⟨items, rfl, Matches.refl ?_⟩
      intro index item found
      have member := List.mem_of_getElem? found
      exact inductionHypothesis item member (wellFormed item member)
  | hash pairs inductionHypothesis =>
      obtain ⟨filed, valuesWellFormed⟩ := (wellFormed_hash pairs).mp wellFormed
      refine (hash_beq_hash_iff filed.1 filed.1).mpr (Matches.refl ?_)
      intro key entry found
      have member := Table.mem_entries_of_get? found
      exact ⟨entry.1.beq_refl,
        inductionHypothesis _ member (valuesWellFormed _ member)⟩
  | set members =>
      exact (set_beq_set_iff wellFormed.1 wellFormed.1).mpr
        (Matches.refl fun _ member _ => member.beq_refl)

/-- Equality of well-formed values goes both ways. -/
theorem beq_symm
    {left right : Value}
    (leftWellFormed : left.WellFormed)
    (rightWellFormed : right.WellFormed)
    (equal : (left == right) = true) :
    (right == left) = true := by
  induction left using inductionOn generalizing right with
  | atom atom =>
      obtain ⟨other, rfl, sameAtom⟩ := (atom_beq_iff _ _).mp equal
      exact Atom.beq_symm sameAtom
  | null =>
      rw [(null_beq_iff _).mp equal]
      rfl
  | returned value inductionHypothesis =>
      obtain ⟨other, rfl, sameValue⟩ := (returned_beq_iff _ _).mp equal
      exact inductionHypothesis leftWellFormed rightWellFormed sameValue
  | failure reason =>
      obtain rfl := (failure_beq_iff _ _).mp equal
      exact equal
  | closure function =>
      obtain ⟨other, rfl, sameCode, sameScope⟩ := (closure_beq_iff _ _).mp equal
      exact (closure_beq_iff _ _).mpr
        ⟨function, rfl, sameCode.symm, sameScope.symm⟩
  | builtin function =>
      obtain ⟨other, rfl, sameName⟩ := (builtin_beq_iff _ _).mp equal
      exact (builtin_beq_iff _ _).mpr ⟨function, rfl, sameName.symm⟩
  | array items inductionHypothesis =>
      obtain ⟨others, rfl, matched⟩ := (array_beq_iff _ _).mp equal
      rw [wellFormed_array] at leftWellFormed rightWellFormed
      refine (array_beq_iff _ _).mpr ⟨items, rfl, matched.symm ?_⟩
      intro index item other found otherFound sameItem
      have member := List.mem_of_getElem? found
      have otherMember := List.mem_of_getElem? otherFound
      exact inductionHypothesis item member (leftWellFormed item member)
        (rightWellFormed other otherMember) sameItem
  | hash pairs inductionHypothesis =>
      obtain ⟨others, rfl, _⟩ := (hash_beq_iff _ _).mp equal
      rw [wellFormed_hash] at leftWellFormed rightWellFormed
      obtain ⟨filed, valuesWellFormed⟩ := leftWellFormed
      obtain ⟨othersFiled, othersWellFormed⟩ := rightWellFormed
      rw [hash_beq_hash_iff filed.1 othersFiled.1] at equal
      refine (hash_beq_hash_iff othersFiled.1 filed.1).mpr (equal.symm ?_)
      intro key entry other found otherFound samePair
      have member := Table.mem_entries_of_get? found
      have otherMember := Table.mem_entries_of_get? otherFound
      exact ⟨Atom.beq_symm samePair.1,
        inductionHypothesis _ member (valuesWellFormed _ member)
          (othersWellFormed _ otherMember) samePair.2⟩
  | set members =>
      obtain ⟨others, rfl, _⟩ := (set_beq_iff _ _).mp equal
      rw [set_beq_set_iff leftWellFormed.1 rightWellFormed.1] at equal
      exact (set_beq_set_iff rightWellFormed.1 leftWellFormed.1).mpr
        (equal.symm fun _ _ _ _ _ sameMember => Atom.beq_symm sameMember)

/-- Equality of well-formed values passes through a third value. -/
theorem beq_trans
    {left middle right : Value}
    (leftWellFormed : left.WellFormed)
    (middleWellFormed : middle.WellFormed)
    (rightWellFormed : right.WellFormed)
    (first : (left == middle) = true)
    (second : (middle == right) = true) :
    (left == right) = true := by
  induction left using inductionOn generalizing middle right with
  | atom atom =>
      obtain ⟨between, rfl, firstAtom⟩ := (atom_beq_iff _ _).mp first
      obtain ⟨other, rfl, secondAtom⟩ := (atom_beq_iff _ _).mp second
      exact Atom.beq_trans firstAtom secondAtom
  | null =>
      rw [(null_beq_iff _).mp first] at second
      exact second
  | returned value inductionHypothesis =>
      obtain ⟨between, rfl, firstValue⟩ := (returned_beq_iff _ _).mp first
      obtain ⟨other, rfl, secondValue⟩ := (returned_beq_iff _ _).mp second
      rw [wellFormed_returned] at leftWellFormed middleWellFormed rightWellFormed
      exact inductionHypothesis leftWellFormed middleWellFormed
        rightWellFormed firstValue secondValue
  | failure reason =>
      rw [(failure_beq_iff _ _).mp first] at second
      exact second
  | closure function =>
      obtain ⟨between, rfl, firstCode, firstScope⟩ :=
        (closure_beq_iff _ _).mp first
      obtain ⟨other, rfl, secondCode, secondScope⟩ :=
        (closure_beq_iff _ _).mp second
      exact (closure_beq_iff _ _).mpr ⟨other, rfl,
        firstCode.trans secondCode, firstScope.trans secondScope⟩
  | builtin function =>
      obtain ⟨between, rfl, firstName⟩ := (builtin_beq_iff _ _).mp first
      obtain ⟨other, rfl, secondName⟩ := (builtin_beq_iff _ _).mp second
      exact (builtin_beq_iff _ _).mpr ⟨other, rfl, firstName.trans secondName⟩
  | array items inductionHypothesis =>
      obtain ⟨betweens, rfl, firstMatched⟩ := (array_beq_iff _ _).mp first
      obtain ⟨others, rfl, secondMatched⟩ := (array_beq_iff _ _).mp second
      rw [wellFormed_array] at leftWellFormed middleWellFormed rightWellFormed
      refine (array_beq_iff _ _).mpr
        ⟨others, rfl, firstMatched.trans secondMatched ?_⟩
      intro index item between other found betweenFound otherFound
      have member := List.mem_of_getElem? found
      have betweenMember := List.mem_of_getElem? betweenFound
      have otherMember := List.mem_of_getElem? otherFound
      exact inductionHypothesis item member (leftWellFormed item member)
        (middleWellFormed between betweenMember)
        (rightWellFormed other otherMember)
  | hash pairs inductionHypothesis =>
      obtain ⟨betweens, rfl, _⟩ := (hash_beq_iff _ _).mp first
      obtain ⟨others, rfl, _⟩ := (hash_beq_iff _ _).mp second
      rw [wellFormed_hash] at leftWellFormed middleWellFormed rightWellFormed
      obtain ⟨filed, valuesWellFormed⟩ := leftWellFormed
      obtain ⟨betweensFiled, betweensWellFormed⟩ := middleWellFormed
      obtain ⟨othersFiled, othersWellFormed⟩ := rightWellFormed
      rw [hash_beq_hash_iff filed.1 betweensFiled.1] at first
      rw [hash_beq_hash_iff betweensFiled.1 othersFiled.1] at second
      refine (hash_beq_hash_iff filed.1 othersFiled.1).mpr
        (first.trans second ?_)
      intro key entry between other found betweenFound otherFound
        firstPair secondPair
      have member := Table.mem_entries_of_get? found
      have betweenMember := Table.mem_entries_of_get? betweenFound
      have otherMember := Table.mem_entries_of_get? otherFound
      exact ⟨Atom.beq_trans firstPair.1 secondPair.1,
        inductionHypothesis _ member (valuesWellFormed _ member)
          (betweensWellFormed _ betweenMember)
          (othersWellFormed _ otherMember) firstPair.2 secondPair.2⟩
  | set members =>
      obtain ⟨betweens, rfl, _⟩ := (set_beq_iff _ _).mp first
      obtain ⟨others, rfl, _⟩ := (set_beq_iff _ _).mp second
      rw [set_beq_set_iff leftWellFormed.1 middleWellFormed.1] at first
      rw [set_beq_set_iff middleWellFormed.1 rightWellFormed.1] at second
      exact (set_beq_set_iff leftWellFormed.1 rightWellFormed.1).mpr
        (first.trans second fun _ _ _ _ _ _ _ => Atom.beq_trans)

/-! ## Shared allocations -/

/-- The answers of comparisons in memory. A comparison may stop wherever both
sides are one payload, or go by the structure of the values; whether two equal
payloads share an allocation is left open at each place. -/
inductive Compared : Value -> Value -> Bool -> Prop
  /-- Both sides are one payload. -/
  | shared (value : Value) : Compared value value true
  | atom (left right : Atom) :
      Compared (.atom left) (.atom right) (left == right)
  | returned {left right : Value} {answer : Bool} :
      Compared left right answer ->
        Compared (.returned left) (.returned right) answer
  | failure (left right : Failure) :
      Compared (.failure left) (.failure right) (left == right)
  | closure (left right : Closure) :
      Compared (.closure left) (.closure right) (left == right)
  | builtin (left right : Builtin) :
      Compared (.builtin left) (.builtin right) (left == right)
  /-- Arrays are compared item by item. -/
  | array {left right : List Value} {answer : Nat -> Bool} :
      (∀ (index : Nat) (item other : Value),
        left[index]? = some item -> right[index]? = some other ->
          Compared item other (answer index)) ->
        Compared (.array left) (.array right)
          (left.length == right.length &&
            (List.range left.length).all answer)
  /-- Hashes are compared by size, and then key by key. -/
  | hash {left right : Hash} {atomAnswer valueAnswer : Key -> Bool} :
      (∀ key entry other,
        left.get? key = some entry -> right.get? key = some other ->
          Compared (.atom entry.1) (.atom other.1) (atomAnswer key)) ->
      (∀ key entry other,
        left.get? key = some entry -> right.get? key = some other ->
          Compared entry.2 other.2 (valueAnswer key)) ->
        Compared (.hash left) (.hash right)
          (left.size == right.size && left.keys.all fun key =>
            Table.contains right key && (atomAnswer key && valueAnswer key))
  /-- Sets are compared by size, and then key by key. -/
  | set {left right : MemberSet} {answer : Key -> Bool} :
      (∀ key member other,
        left.get? key = some member -> right.get? key = some other ->
          Compared (.atom member) (.atom other) (answer key)) ->
        Compared (.set left) (.set right)
          (left.size == right.size && left.keys.all fun key =>
            Table.contains right key && answer key)
  /-- Values of different kinds are never equal. -/
  | differ {left right : Value} :
      left.kind ≠ right.kind -> Compared left right false

/-- The shortcut never changes an answer. -/
theorem Compared.eq_beq
    {left right : Value}
    {answer : Bool}
    (compared : Compared left right answer)
    (leftWellFormed : left.WellFormed)
    (rightWellFormed : right.WellFormed) :
    answer = (left == right) := by
  induction compared with
  | shared value => exact (beq_refl leftWellFormed).symm
  | atom | failure | closure | builtin => rfl
  | returned _ inductionHypothesis =>
      exact inductionHypothesis leftWellFormed rightWellFormed
  | differ different => exact (beq_eq_false_of_kind_ne different).symm
  | @array left right answer _ inductionHypothesis =>
      rw [wellFormed_array] at leftWellFormed rightWellFormed
      rw [Bool.eq_iff_iff, array_beq_iff]
      simp only [Bool.and_eq_true, beq_iff_eq, List.all_eq_true,
        List.mem_range, Value.array.injEq, exists_eq_left',
        Matches.getElem?_iff]
      refine and_congr_right fun sameLength => ?_
      have answerEq (index : Nat) (item other : Value)
          (found : left[index]? = some item)
          (otherFound : right[index]? = some other) :
          answer index = (item == other) :=
        inductionHypothesis index item other found otherFound
          (leftWellFormed item (List.mem_of_getElem? found))
          (rightWellFormed other (List.mem_of_getElem? otherFound))
      constructor
      · intro allTrue index item other found otherFound
        rw [← answerEq index item other found otherFound]
        exact allTrue index (List.getElem?_eq_some_iff.mp found).1
      · intro equal index inside
        have found := List.getElem?_eq_getElem inside
        have otherFound :=
          List.getElem?_eq_getElem (sameLength ▸ inside : index < right.length)
        rw [answerEq index _ _ found otherFound]
        exact equal index _ _ found otherFound
  | @hash left right atomAnswer valueAnswer _ _ atomHypothesis valueHypothesis =>
      rw [wellFormed_hash] at leftWellFormed rightWellFormed
      have answersPair (key : Key) (entry other : Atom × Value)
          (found : left.get? key = some entry)
          (otherFound : right.get? key = some other) :
          (atomAnswer key && valueAnswer key) = true ↔
            SamePair entry other := by
        rw [atomHypothesis key entry other found otherFound trivial trivial,
          valueHypothesis key entry other found otherFound
            (leftWellFormed.2 _ (Table.mem_entries_of_get? found))
            (rightWellFormed.2 _ (Table.mem_entries_of_get? otherFound)),
          Bool.and_eq_true]
        rfl
      rw [Bool.eq_iff_iff, hash_beq_iff, Bool.and_eq_true, beq_iff_eq,
        Table.all_keys_iff_coveredBy leftWellFormed.1.1 answersPair]
      simp
  | @set left right answer _ inductionHypothesis =>
      have answersMember (key : Key) (member other : Atom)
          (found : left.get? key = some member)
          (otherFound : right.get? key = some other) :
          answer key = true ↔ (member == other) = true := by
        rw [inductionHypothesis key member other found otherFound trivial
          trivial]
        rfl
      rw [Bool.eq_iff_iff, set_beq_iff, Bool.and_eq_true, beq_iff_eq,
        Table.all_keys_iff_coveredBy leftWellFormed.1 answersMember]
      simp

theorem Compared.beq_of_kind_ne
    {left right : Value}
    (different : left.kind ≠ right.kind) :
    Compared left right (left == right) := by
  rw [beq_eq_false_of_kind_ne different]
  exact differ different

/-- A comparison need not take the shortcut anywhere: the structural answer is
one of the answers. -/
theorem Compared.beq
    {left right : Value}
    (leftWellFormed : left.WellFormed)
    (rightWellFormed : right.WellFormed) :
    Compared left right (left == right) := by
  induction left using inductionOn generalizing right with
  | atom atom =>
      cases right with
      | atom other => exact .atom atom other
      | _ => exact beq_of_kind_ne (by cases atom <;> nofun)
  | null =>
      cases right with
      | null => exact shared .null
      | atom other => exact beq_of_kind_ne (by cases other <;> nofun)
      | _ => exact beq_of_kind_ne nofun
  | returned value inductionHypothesis =>
      cases right with
      | returned other =>
          exact returned (inductionHypothesis leftWellFormed rightWellFormed)
      | atom other => exact beq_of_kind_ne (by cases other <;> nofun)
      | _ => exact beq_of_kind_ne nofun
  | failure reason =>
      cases right with
      | failure other => exact .failure reason other
      | atom other => exact beq_of_kind_ne (by cases other <;> nofun)
      | _ => exact beq_of_kind_ne nofun
  | closure function =>
      cases right with
      | closure other => exact .closure function other
      | atom other => exact beq_of_kind_ne (by cases other <;> nofun)
      | _ => exact beq_of_kind_ne nofun
  | builtin function =>
      cases right with
      | builtin other => exact .builtin function other
      | atom other => exact beq_of_kind_ne (by cases other <;> nofun)
      | _ => exact beq_of_kind_ne nofun
  | array items inductionHypothesis =>
      cases right with
      | array others =>
          have answers (index : Nat) (item other : Value)
              (found : items[index]? = some item)
              (otherFound : others[index]? = some other) :
              Compared item other
                (answerAt (· == ·) (fun index : Nat => items[index]?)
                  (fun index => others[index]?) index) := by
            have member := List.mem_of_getElem? found
            have otherMember := List.mem_of_getElem? otherFound
            rw [answerAt_of_eq_some found otherFound]
            exact inductionHypothesis item member
              ((wellFormed_array _).mp leftWellFormed item member)
              ((wellFormed_array _).mp rightWellFormed other otherMember)
          have compared := Compared.array answers
          rw [← compared.eq_beq leftWellFormed rightWellFormed]
          exact compared
      | atom other => exact beq_of_kind_ne (by cases other <;> nofun)
      | _ => exact beq_of_kind_ne nofun
  | hash pairs inductionHypothesis =>
      cases right with
      | hash others =>
          have atomAnswers (key : Key) (entry other : Atom × Value)
              (found : pairs.get? key = some entry)
              (otherFound : others.get? key = some other) :
              Compared (.atom entry.1) (.atom other.1)
                (answerAt (fun entry other => entry.1 == other.1)
                  pairs.get? others.get? key) := by
            rw [answerAt_of_eq_some found otherFound]
            exact .atom entry.1 other.1
          have valueAnswers (key : Key) (entry other : Atom × Value)
              (found : pairs.get? key = some entry)
              (otherFound : others.get? key = some other) :
              Compared entry.2 other.2
                (answerAt (fun entry other => entry.2 == other.2)
                  pairs.get? others.get? key) := by
            have member := Table.mem_entries_of_get? found
            have otherMember := Table.mem_entries_of_get? otherFound
            rw [answerAt_of_eq_some found otherFound]
            exact inductionHypothesis _ member
              (((wellFormed_hash _).mp leftWellFormed).2 _ member)
              (((wellFormed_hash _).mp rightWellFormed).2 _ otherMember)
          have compared := Compared.hash atomAnswers valueAnswers
          rw [← compared.eq_beq leftWellFormed rightWellFormed]
          exact compared
      | atom other => exact beq_of_kind_ne (by cases other <;> nofun)
      | _ => exact beq_of_kind_ne nofun
  | set members =>
      cases right with
      | set others =>
          have answers (key : Key) (member other : Atom)
              (found : members.get? key = some member)
              (otherFound : others.get? key = some other) :
              Compared (.atom member) (.atom other)
                (answerAt (· == ·) members.get? others.get? key) := by
            rw [answerAt_of_eq_some found otherFound]
            exact .atom member other
          have compared := Compared.set answers
          rw [← compared.eq_beq leftWellFormed rightWellFormed]
          exact compared
      | atom other => exact beq_of_kind_ne (by cases other <;> nofun)
      | _ => exact beq_of_kind_ne nofun

/-! ## The equivalence -/

/-- A value that programs can build. -/
abbrev BuiltValue : Type := {value : Value // value.Built}

/-- Equality is an equivalence on everything that programs can build, and
comparisons that take the shortcut anywhere have the structural answer and no
other. -/
theorem beq_equivalence :
    Equivalence (fun left right : BuiltValue =>
        (left.val == right.val) = true) ∧
      ∀ (left right : BuiltValue) (answer : Bool),
        Compared left.val right.val answer ↔
          answer = (left.val == right.val) := by
  refine ⟨⟨?_, ?_, ?_⟩, ?_⟩
  case refine_1 =>
    intro value
    exact beq_refl value.property.wellFormed
  case refine_2 =>
    intro left right equal
    exact beq_symm left.property.wellFormed right.property.wellFormed equal
  case refine_3 =>
    intro left middle right first second
    exact beq_trans left.property.wellFormed middle.property.wellFormed
      right.property.wellFormed first second
  case refine_4 =>
    intro left right answer
    have leftWellFormed := left.property.wellFormed
    have rightWellFormed := right.property.wellFormed
    constructor
    · intro compared
      exact compared.eq_beq leftWellFormed rightWellFormed
    · rintro rfl
      exact Compared.beq leftWellFormed rightWellFormed

end Value
end

namespace Value

/-- Two nested values that were built apart: their hashes in different orders,
and one of their sets as a union. -/
theorem beq_of_values_built_apart :
    let one : Atom := .int 1
    let yes : Atom := .bool true
    let both : MemberSet := Table.empty.fileAll id [one, yes]
    let joined : MemberSet :=
      MemberSet.union (Table.empty.file id yes) (Table.empty.file id one)
    let left : Value := .array [.hash (Table.empty.fileAll Prod.fst
      [(one, .set both), (yes, .null)])]
    let right : Value := .array [.hash (Table.empty.fileAll Prod.fst
      [(yes, .null), (one, .set joined)])]
    left.Built ∧ right.Built ∧ (right == left) = true ∧
      Compared left right true := by
  intro one yes both joined left right
  have bothBuilt : (Value.set both).Built :=
    @Built.set _ [.atom one, .atom yes] both rfl
  have joinedBuilt : (Value.set joined).Built :=
    .union (@Built.set _ [.atom yes] _ rfl) (@Built.set _ [.atom one] _ rfl)
  have leftBuilt : left.Built := by
    refine .array (List.forall_mem_singleton.mpr ?_)
    refine @Built.hash _ [(.atom one, .set both), (.atom yes, .null)] _ ?_ rfl
    simpa using ⟨bothBuilt, .null⟩
  have rightBuilt : right.Built := by
    refine .array (List.forall_mem_singleton.mpr ?_)
    refine @Built.hash _ [(.atom yes, .null), (.atom one, .set joined)] _ ?_ rfl
    simpa using ⟨.null, joinedBuilt⟩
  have equal : (left == right) = true := by decide
  obtain ⟨equivalence, answers⟩ := beq_equivalence
  have reversed :=
    @equivalence.symm ⟨left, leftBuilt⟩ ⟨right, rightBuilt⟩ equal
  have answer :=
    (answers ⟨left, leftBuilt⟩ ⟨right, rightBuilt⟩ true).mpr equal.symm
  exact ⟨leftBuilt, rightBuilt, reversed, answer⟩

end Value
end Monkey
