import Monkey.Proofs.Rebuilding

/-!
# The algebra of unions

The union of two sets holds under a key what the right set holds there, or else
what the left set holds. All laws of unions follow from this: which values belong
to a union, how many members it has, that unions may be grouped at will, and that
the empty set and repetition change nothing. Only the order matters, and only
where both sets have a key with atoms that are not equal.
-/

namespace Monkey

section

variable [Embedding]

namespace MemberSet

variable {left right other : MemberSet}

/-! ## Laws of unions -/

omit [Embedding] in
/-- A union holds what the right set holds, or else what the left set holds. -/
theorem get?_union
    (left : MemberSet)
    (rightFiled : Filed id right)
    (key : Key) :
    (left.union right).get? key = (right.get? key).or (left.get? key) :=
  Table.get?_merge left rightFiled.1 key

omit [Embedding] in
theorem filed_union
    (leftFiled : Filed id left)
    (rightFiled : Filed id right) :
    Filed id (left.union right) :=
  leftFiled.merge rightFiled

/-- Unions may be grouped at will. -/
theorem sameMembers_union_assoc
    (leftFiled : Filed id left)
    (rightFiled : Filed id right)
    (otherFiled : Filed id other) :
    SameMembers ((left.union right).union other)
      (left.union (right.union other)) := by
  have frontFiled := filed_union leftFiled rightFiled
  have backFiled := filed_union rightFiled otherFiled
  apply sameMembers_of_get?_eq (filed_union frontFiled otherFiled)
    (filed_union leftFiled backFiled)
  intro key
  rw [get?_union _ otherFiled, get?_union left rightFiled,
    get?_union left backFiled, get?_union right otherFiled, Option.or_assoc]

/-- A set joined with itself stays the same. -/
theorem sameMembers_union_self (filed : Filed id left) :
    SameMembers (left.union left) left := by
  apply sameMembers_of_get?_eq (filed_union filed filed) filed
  intro key
  rw [get?_union left filed, Option.or_self]

/-- The empty set adds nothing on the left. -/
theorem sameMembers_empty_union (filed : Filed id left) :
    SameMembers (union Table.empty left) left := by
  apply sameMembers_of_get?_eq (filed_union (filed_empty id) filed) filed
  intro key
  rw [get?_union Table.empty filed, Table.get?_empty, Option.or_none]

/-- The empty set adds nothing on the right. -/
theorem sameMembers_union_empty (filed : Filed id left) :
    SameMembers (left.union Table.empty) left := by
  apply sameMembers_of_get?_eq (filed_union filed (filed_empty id)) filed
  intro key
  rw [get?_union left (filed_empty id), Table.get?_empty, Option.none_or]

/-- The order of a union matters exactly where both sets have a key. -/
theorem union_comm_iff
    (leftFiled : Filed id left)
    (rightFiled : Filed id right) :
    (Value.set (left.union right) == .set (right.union left)) = true ↔
      ∀ key atom otherAtom,
        left.get? key = some atom -> right.get? key = some otherAtom ->
          (atom == otherAtom) = true := by
  have leftFirst := filed_union leftFiled rightFiled
  have rightFirst := filed_union rightFiled leftFiled
  rw [Value.set_beq_set_iff leftFirst.1 rightFirst.1]
  refine (Table.matches_merge_comm_iff Atom.beq_refl leftFiled.1
    rightFiled.1).trans ?_
  refine forall₃_congr fun key atom otherAtom => ?_
  exact imp_congr_right fun _ => imp_congr_right fun _ =>
    ⟨Atom.beq_symm, Atom.beq_symm⟩

omit [Embedding] in
/-- A union has the members of the left set, and those members of the right set
whose keys are new. -/
theorem size_union
    (leftFiled : Filed id left)
    (rightFiled : Filed id right) :
    (left.union right).size =
      left.size + (members right).countP fun atom =>
        !Table.contains left atom.key := by
  have keysEq : right.keys = (right.entries.map Prod.snd).map Atom.key :=
    rightFiled.map_key_entries.symm
  refine (Table.size_merge leftFiled.1 rightFiled.1).trans ?_
  rw [keysEq, List.countP_map, right.perm_members.countP_eq]
  rfl

end MemberSet

/-! ## What the operations answer -/

section Answers

variable {σ : Type} [KeySource σ] [LawfulKeySource σ] {known : Set Text}

/-- A value belongs to a union when it belongs to one of the two sets. -/
theorem answers_contains_union
    {left right : MemberSet}
    (rightFiled : Filed id right)
    {element : Value}
    (elementKnown : element.Known known) :
    ∃ inLeft inRight,
      Answers known (left.contains element : StateM σ Bool) inLeft ∧
      Answers known (right.contains element : StateM σ Bool) inRight ∧
      Answers known ((left.union right).contains element : StateM σ Bool)
        (inLeft || inRight) := by
  refine ⟨_, _, answers_contains left elementKnown,
    answers_contains right elementKnown, ?_⟩
  have answers := answers_contains (σ := σ) (left.union right) elementKnown
  have inUnion : element.key?.any (Table.contains (left.union right)) =
      (element.key?.any (Table.contains left) ||
        element.key?.any (Table.contains right)) := by
    cases element.key? with
    | none => rfl
    | some key => exact Table.contains_merge left rightFiled.1 key
  rwa [inUnion] at answers

/-- The union of two sets has the members of the left one, and those of the right
one that do not belong to the left one. -/
theorem answers_size_union
    {left right : MemberSet}
    (leftFiled : Filed id left)
    (rightFiled : Filed id right)
    (membersKnown : ∀ atom ∈ MemberSet.members right, atom.Known known) :
    ∃ shared : Atom -> Bool,
      (∀ atom ∈ MemberSet.members right,
        Answers known (left.contains (.atom atom) : StateM σ Bool)
          (shared atom)) ∧
      (left.union right).size =
        left.size + (MemberSet.members right).countP fun atom =>
          !shared atom := by
  refine ⟨fun atom => Table.contains left atom.key, ?_,
    MemberSet.size_union leftFiled rightFiled⟩
  intro atom member
  exact answers_contains left (membersKnown atom member)

/-- The builtin answers the union. -/
theorem answers_call_union [LineSink σ] [HostCalls σ] (left right : MemberSet) :
    Answers known
      (Prelude.call "union" [.set left, .set right] : StateM σ (Option Value))
      (some (.set (left.union right))) :=
  Answers.pure _

end Answers

/-! ## The laws together -/

/-- The laws of unions of sets that a program builds, whichever lawful source
gives the keys. A value belongs to the union of two sets when it belongs to one
of them, and the union has the members of the left set and those of the right one
that do not belong to the left one. Unions may be grouped at will, a set joined
with itself stays the same, and the set without elements changes nothing on
either side. Joining two sets in either order gives equal sets exactly when under
each key that both of them have they hold equal atoms. -/
theorem union_laws
    (σ : Type)
    [KeySource σ]
    [LawfulKeySource σ]
    [LineSink σ]
    [HostCalls σ]
    (known : Set Text)
    {left right other : MemberSet}
    (leftBuilt : (Value.set left).Built)
    (rightBuilt : (Value.set right).Built)
    (otherBuilt : (Value.set other).Built) :
    Answers known
      (Prelude.call "union" [.set left, .set right] : StateM σ (Option Value))
      (some (.set (left.union right))) ∧
    (∀ element : Value, element.Known known ->
      ∃ inLeft inRight,
        Answers known (left.contains element : StateM σ Bool) inLeft ∧
        Answers known (right.contains element : StateM σ Bool) inRight ∧
        Answers known ((left.union right).contains element : StateM σ Bool)
          (inLeft || inRight)) ∧
    ((∀ atom ∈ MemberSet.members right, atom.Known known) ->
      ∃ shared : Atom -> Bool,
        (∀ atom ∈ MemberSet.members right,
          Answers known (left.contains (.atom atom) : StateM σ Bool)
            (shared atom)) ∧
        (left.union right).size =
          left.size + (MemberSet.members right).countP fun atom =>
            !shared atom) ∧
    MemberSet.SameMembers ((left.union right).union other)
      (left.union (right.union other)) ∧
    MemberSet.SameMembers (left.union left) left ∧
    (∃ empty : MemberSet,
      Answers known (MemberSet.ofElements [] : Filing σ MemberSet).run
        (.ok empty) ∧
      MemberSet.SameMembers (empty.union left) left ∧
      MemberSet.SameMembers (left.union empty) left) ∧
    ((Value.set (left.union right) == .set (right.union left)) = true ↔
      ∀ key atom otherAtom,
        left.get? key = some atom -> right.get? key = some otherAtom ->
          (atom == otherAtom) = true) := by
  have leftFiled : Filed id left := leftBuilt.wellFormed
  have rightFiled : Filed id right := rightBuilt.wellFormed
  have otherFiled : Filed id other := otherBuilt.wellFormed
  refine ⟨answers_call_union left right, ?_, ?_,
    MemberSet.sameMembers_union_assoc leftFiled rightFiled otherFiled,
    MemberSet.sameMembers_union_self leftFiled, ?_,
    MemberSet.union_comm_iff leftFiled rightFiled⟩
  · intro element elementKnown
    exact answers_contains_union rightFiled elementKnown
  · intro membersKnown
    exact answers_size_union leftFiled rightFiled membersKnown
  · exact ⟨Table.empty, Answers.pure _,
      MemberSet.sameMembers_empty_union leftFiled,
      MemberSet.sameMembers_union_empty leftFiled⟩

end

/-- Two texts that share a digest are one member of a union, and the order of the
union decides which one stays; a copy of a text in another cell makes no
difference. -/
theorem union_laws_of_colliding_texts :
    let first : Text := ⟨0, "7mohtcOFVz"⟩
    let second : Text := ⟨1, "c1E51sSEyx"⟩
    let copy : Text := ⟨2, "7mohtcOFVz"⟩
    let known : Set Text := {first, second, copy}
    let left : MemberSet := Table.empty.fileAll id [.text first, .int 1]
    let right : MemberSet := Table.empty.fileAll id [.bool true, .text second]
    let other : MemberSet := Table.empty.fileAll id [.text copy]
    Faithful known ({} : Memo) ∧
      Answers known
        ((left.union right).contains (.text copy) :
          StateM (Session Memo) Bool) true ∧
      (left.union right).size = 3 ∧
      ((Value.set (left.union right) == .set (right.union left)) = false) ∧
      ((Value.set (left.union other) == .set (other.union left)) = true) ∧
      MemberSet.SameMembers ((left.union right).union other)
        (left.union (right.union other)) := by
  intro first second copy known left right other
  have faithful : Faithful known ({} : Memo) :=
    Memo.faithful_of_distinct_cells [first, second, copy] (by simp [known])
      (by simp [first, second, copy])
  have secondKnown : (Atom.text second).Known known := Or.inr (Or.inl rfl)
  have copyKnown : (Value.text copy).Known known := Or.inr (Or.inr rfl)
  have leftBuilt : (Value.set left).Built :=
    @Value.Built.set _ [.text first, .int 1] left rfl
  have rightBuilt : (Value.set right).Built :=
    @Value.Built.set _ [.bool true, .text second] right rfl
  have otherBuilt : (Value.set other).Built :=
    @Value.Built.set _ [.text copy] other rfl
  let session : Session Memo := { keys := {} }
  obtain ⟨_, contains, _, assoc, _, _, commIff⟩ :=
    union_laws (Session Memo) known leftBuilt rightBuilt otherBuilt
  refine ⟨faithful, ?_, rfl, ?_, by decide, assoc⟩
  · obtain ⟨inLeft, inRight, _, inRightAnswer, answer⟩ :=
      contains (.text copy) copyKnown
    obtain rfl : true = inRight := (inRightAnswer session faithful).1
    rwa [Bool.or_true] at answer
  · rw [Bool.eq_false_iff, ne_eq, commIff]
    intro sameAtoms
    cases sameAtoms (.ofString "7mohtcOFVz") _ _ rfl rfl

end Monkey
