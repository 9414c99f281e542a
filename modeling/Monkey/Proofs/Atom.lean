import Monkey.Proofs.KeySource
import Monkey.Value.Equality

/-!
# Equality and keys of atoms

Equal atoms always share their key. The converse is what collections need in
order never to confuse two keys, and it holds for integers and booleans, whose
digest is their content. A digest of a text has 64 bits however long the text,
so it cannot determine the text: atoms share a key exactly when they are equal
or are two texts that collide, and texts that collide exist.
-/

namespace Monkey

/-! ## Equality -/

@[simp] theorem Text.beq_iff (left right : Text) :
    (left == right) = true ↔ left.content = right.content := by
  change (left.content == right.content) = true ↔ _
  exact beq_iff_eq

namespace Atom

@[simp] theorem int_beq_int (left right : Int64) :
    (Atom.int left == .int right) = true ↔ left = right := by
  change (left == right) = true ↔ _
  exact beq_iff_eq

@[simp] theorem bool_beq_bool (left right : Bool) :
    (Atom.bool left == .bool right) = true ↔ left = right := by
  change (left == right) = true ↔ _
  exact beq_iff_eq

@[simp] theorem text_beq_text (left right : Text) :
    (Atom.text left == .text right) = true ↔ left.content = right.content :=
  Text.beq_iff left right

/-- Atoms of different kinds are not equal. -/
theorem kind_eq_of_beq
    {left right : Atom}
    (equal : (left == right) = true) :
    left.kind = right.kind := by
  cases left <;> cases right <;> first | rfl | cases equal

theorem beq_refl (atom : Atom) : (atom == atom) = true := by
  cases atom <;> simp

theorem beq_symm
    {left right : Atom}
    (equal : (left == right) = true) :
    (right == left) = true := by
  have sameKind := kind_eq_of_beq equal
  cases left <;> cases right <;> cases sameKind <;> simp_all

theorem beq_trans
    {left middle right : Atom}
    (first : (left == middle) = true)
    (second : (middle == right) = true) :
    (left == right) = true := by
  have leftKind := kind_eq_of_beq first
  have rightKind := kind_eq_of_beq second
  cases left <;> cases middle <;> cases leftKind <;> cases right <;>
    cases rightKind <;> simp_all

/-! ## Keys -/

theorem kind_key (atom : Atom) : atom.key.kind = atom.kind := by
  cases atom <;> rfl

/-- Two different texts have one digest. -/
def Collides : Atom -> Atom -> Prop
  | .text left, .text right =>
      left.content ≠ right.content ∧
        Digest.ofString left.content = Digest.ofString right.content
  | _, _ => False

/-- Atoms that collide are not equal. -/
theorem Collides.not_beq
    {left right : Atom}
    (collision : left.Collides right) :
    ¬(left == right) = true := by
  cases left with
  | text left =>
      cases right with
      | text right => simpa using collision.1
      | int | bool => exact collision.elim
  | int | bool => exact collision.elim

/-- The digest of an integer determines the integer. -/
theorem ofInt_inj (left right : Int64) :
    Key.ofInt left = Key.ofInt right ↔ left = right := by
  constructor
  · intro equal
    have digests : left.toUInt64 = right.toUInt64 := congrArg Key.digest equal
    have undone := congrArg UInt64.toInt64 digests
    rwa [Int64.toInt64_toUInt64, Int64.toInt64_toUInt64] at undone
  · rintro rfl
    rfl

/-- The digest of a boolean determines the boolean. -/
theorem ofBool_inj (left right : Bool) :
    Key.ofBool left = Key.ofBool right ↔ left = right := by
  cases left <;> cases right <;> decide

theorem ofString_eq_iff (left right : String) :
    Key.ofString left = Key.ofString right ↔
      Digest.ofString left = Digest.ofString right := by
  simp [Key.ofString]

/-- Atoms share a key exactly when they are equal or collide. -/
theorem key_eq_iff (left right : Atom) :
    left.key = right.key ↔ (left == right) = true ∨ left.Collides right := by
  by_cases sameKind : left.kind = right.kind
  · cases left <;> cases right <;> cases sameKind
    case int.int.refl left right =>
      simp [key, Collides, ofInt_inj]
    case bool.bool.refl left right =>
      simp [key, Collides, ofBool_inj]
    case text.text.refl left right =>
      simp only [key, Collides, ofString_eq_iff, text_beq_text]
      by_cases equal : left.content = right.content <;> simp [equal]
  · have differentKeys : left.key ≠ right.key := by
      intro equal
      apply sameKind
      rw [← kind_key, ← kind_key, equal]
    have notEqual : ¬(left == right) = true :=
      fun equal => sameKind (kind_eq_of_beq equal)
    have noCollision : ¬left.Collides right := by
      intro collision
      cases left <;> cases right <;> first
        | exact sameKind rfl
        | exact collision
    simp [differentKeys, notEqual, noCollision]

theorem key_eq_of_beq
    {left right : Atom}
    (equal : (left == right) = true) :
    left.key = right.key :=
  (key_eq_iff left right).mpr (Or.inl equal)

end Atom

/-! ## Requested keys decide equality up to collisions -/

section

variable [Embedding] {σ : Type} [KeySource σ] [LawfulKeySource σ]

/-- The keys that a lawful source gives two atoms are equal exactly when the
atoms are equal or collide. So equality of keys decides equality of two atoms
exactly when they do not collide. -/
theorem requested_keys_eq_iff
    {known : Set Text}
    {left right : Atom}
    (leftKnown : left.Known known)
    (rightKnown : right.Known known) :
    ∃ leftKey rightKey,
      Answers known ((Value.atom left).requestKey? : StateM σ (Option Key))
        (some leftKey) ∧
      Answers known ((Value.atom right).requestKey? : StateM σ (Option Key))
        (some rightKey) ∧
      (leftKey = rightKey ↔
        (Value.atom left == .atom right) = true ∨ left.Collides right) ∧
      ((leftKey = rightKey ↔ (Value.atom left == .atom right) = true) ↔
        ¬left.Collides right) := by
  refine ⟨left.key, right.key, answers_requestKey? leftKnown,
    answers_requestKey? rightKnown, Atom.key_eq_iff left right, ?_⟩
  change (left.key = right.key ↔ (left == right) = true) ↔ _
  rw [Atom.key_eq_iff]
  constructor
  · intro decides collision
    exact collision.not_beq (decides.mp (Or.inr collision))
  · intro noCollision
    simp [noCollision]

end

/-- Two texts of one program that differ and are nevertheless given one key. -/
theorem requested_keys_of_colliding_texts :
    let left : Text := ⟨0, "7mohtcOFVz"⟩
    let right : Text := ⟨1, "c1E51sSEyx"⟩
    let known : Set Text := {left, right}
    Faithful known ({} : Memo) ∧
      (Atom.text left).Known known ∧
      (Atom.text right).Known known ∧
      ∃ leftKey rightKey,
        Answers known ((Value.text left).requestKey? : StateM Memo (Option Key))
          (some leftKey) ∧
        Answers known ((Value.text right).requestKey? : StateM Memo (Option Key))
          (some rightKey) ∧
        leftKey = rightKey ∧
        ¬(Value.text left == .text right) = true := by
  intro left right known
  have leftKnown : (Atom.text left).Known known := Or.inl rfl
  have rightKnown : (Atom.text right).Known known := Or.inr rfl
  have collision : (Atom.text left).Collides (.text right) :=
    ⟨by decide, by decide⟩
  have faithful : Faithful known ({} : Memo) :=
    Memo.faithful_of_distinct_cells [left, right] (by simp [known])
      (by simp [left, right])
  obtain ⟨leftKey, rightKey, leftAnswer, rightAnswer, keysEq, _⟩ :=
    requested_keys_eq_iff (σ := Memo) leftKnown rightKnown
  exact ⟨faithful, leftKnown, rightKnown, leftKey, rightKey, leftAnswer,
    rightAnswer, keysEq.mpr (Or.inr collision), collision.not_beq⟩

/-- Equality of keys does not decide equality of atoms. -/
theorem not_keys_eq_iff_beq :
    ¬∀ left right : Atom,
      Recompute.answer (Value.atom left).requestKey? =
          Recompute.answer (Value.atom right).requestKey? ↔
        (Value.atom left == .atom right) = true := by
  intro decides
  have sameKey :
      Recompute.answer (Value.text ⟨0, "7mohtcOFVz"⟩).requestKey? =
        Recompute.answer (Value.text ⟨1, "c1E51sSEyx"⟩).requestKey? := by
    decide
  have equal := (decides (.text ⟨0, "7mohtcOFVz"⟩)
    (.text ⟨1, "c1E51sSEyx"⟩)).mp sameKey
  revert equal
  decide

end Monkey
