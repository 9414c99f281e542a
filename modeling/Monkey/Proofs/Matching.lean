/-!
# Matching partial functions

Arrays and tables are both read through a partial function, from positions or
from keys to what stands there. Two partial functions match under a relation
when they are defined at the same places and related there. Whatever laws the
relation has pass to the matching, and it is enough that the relation has them
for what the functions hold.
-/

namespace Monkey

variable {ι α β γ : Type}

/-- Two partial functions are defined at the same places and related there. -/
def Matches
    (related : α -> β -> Prop)
    (left : ι -> Option α)
    (right : ι -> Option β) : Prop :=
  ∀ place, Option.Rel related (left place) (right place)

namespace Matches

/-- Matching functions are undefined at the same places. -/
theorem eq_none_iff
    {related : α -> β -> Prop}
    {left : ι -> Option α}
    {right : ι -> Option β}
    (matched : Matches related left right)
    (place : ι) :
    left place = none ↔ right place = none := by
  have atPlace := matched place
  generalize left place = leftValue at atPlace ⊢
  generalize right place = rightValue at atPlace ⊢
  cases atPlace <;> simp

/-- What stands on the left has its partner on the right. -/
theorem exists_right
    {related : α -> β -> Prop}
    {left : ι -> Option α}
    {right : ι -> Option β}
    (matched : Matches related left right)
    {place : ι}
    {entry : α}
    (found : left place = some entry) :
    ∃ other, right place = some other ∧ related entry other := by
  have atPlace := matched place
  rw [found] at atPlace
  generalize right place = rightValue at atPlace
  cases atPlace with
  | some connected => exact ⟨_, rfl, connected⟩

theorem isSome_eq
    {related : α -> β -> Prop}
    {left : ι -> Option α}
    {right : ι -> Option β}
    (matched : Matches related left right)
    (place : ι) :
    (left place).isSome = (right place).isSome := by
  have atPlace := matched place
  generalize left place = leftValue at atPlace ⊢
  generalize right place = rightValue at atPlace ⊢
  cases atPlace <;> rfl

/-- A function matches itself when what it holds is related to itself. -/
theorem refl
    {related : α -> α -> Prop}
    {partialMap : ι -> Option α}
    (reflexive : ∀ place entry,
      partialMap place = some entry -> related entry entry) :
    Matches related partialMap partialMap := by
  intro place
  cases value : partialMap place with
  | none => exact .none
  | some entry => exact .some (reflexive place entry value)

/-- Matching is kept by a relation that is implied where both are defined. -/
theorem imp
    {related weaker : α -> β -> Prop}
    {left : ι -> Option α}
    {right : ι -> Option β}
    (matched : Matches related left right)
    (implied : ∀ place entry other,
      left place = some entry -> right place = some other ->
        related entry other -> weaker entry other) :
    Matches weaker left right := by
  intro place
  cases leftValue : left place with
  | none =>
      rw [(matched.eq_none_iff place).mp leftValue]
      exact .none
  | some entry =>
      obtain ⟨other, rightValue, connected⟩ := matched.exists_right leftValue
      rw [rightValue]
      exact .some (implied place entry other leftValue rightValue connected)

/-- Of what matches the same is written when it is the same for related
entries. -/
theorem map_eq
    {related : α -> β -> Prop}
    {left : ι -> Option α}
    {right : ι -> Option β}
    (matched : Matches related left right)
    {write : ι -> α -> γ}
    {writeOther : ι -> β -> γ}
    (sameWritten : ∀ place entry other,
      left place = some entry -> right place = some other ->
        related entry other -> write place entry = writeOther place other)
    (place : ι) :
    (left place).map (write place) = (right place).map (writeOther place) := by
  cases found : left place with
  | none => rw [(matched.eq_none_iff place).mp found, Option.map_none,
      Option.map_none]
  | some entry =>
      obtain ⟨other, otherFound, connected⟩ := matched.exists_right found
      rw [otherFound, Option.map_some, Option.map_some,
        sameWritten place entry other found otherFound connected]

/-- Images match when the functions do under the relation of their images. -/
theorem map_iff
    {α' β' : Type}
    {related : α' -> β' -> Prop}
    {left : ι -> Option α}
    {right : ι -> Option β}
    (image : α -> α')
    (otherImage : β -> β') :
    Matches related (fun place => (left place).map image)
        (fun place => (right place).map otherImage) ↔
      Matches (fun entry other => related (image entry) (otherImage other))
        left right := by
  apply forall_congr'
  intro place
  change Option.Rel related ((left place).map image)
    ((right place).map otherImage) ↔ _
  cases left place <;> cases right place <;> simp

theorem flip
    {related : α -> β -> Prop}
    {left : ι -> Option α}
    {right : ι -> Option β}
    (matched : Matches related left right) :
    Matches (fun other entry => related entry other) right left := by
  intro place
  have atPlace := matched place
  generalize left place = leftValue at atPlace ⊢
  generalize right place = rightValue at atPlace ⊢
  cases atPlace with
  | none => exact .none
  | some connected => exact .some connected

/-- Matching turns around when the relation does. -/
theorem symm
    {related : α -> β -> Prop}
    {reversed : β -> α -> Prop}
    {left : ι -> Option α}
    {right : ι -> Option β}
    (matched : Matches related left right)
    (symmetric : ∀ place entry other,
      left place = some entry -> right place = some other ->
        related entry other -> reversed other entry) :
    Matches reversed right left :=
  matched.flip.imp fun place other entry rightValue leftValue connected =>
    symmetric place entry other leftValue rightValue connected

/-- Matching composes when the relations do. -/
theorem trans
    {first : α -> β -> Prop}
    {second : β -> γ -> Prop}
    {composed : α -> γ -> Prop}
    {left : ι -> Option α}
    {middle : ι -> Option β}
    {right : ι -> Option γ}
    (leftMatched : Matches first left middle)
    (rightMatched : Matches second middle right)
    (transitive : ∀ place entry between other,
      left place = some entry -> middle place = some between ->
        right place = some other ->
          first entry between -> second between other ->
            composed entry other) :
    Matches composed left right := by
  intro place
  cases leftValue : left place with
  | none =>
      have middleValue := (leftMatched.eq_none_iff place).mp leftValue
      rw [(rightMatched.eq_none_iff place).mp middleValue]
      exact .none
  | some entry =>
      obtain ⟨between, middleValue, leftConnected⟩ :=
        leftMatched.exists_right leftValue
      obtain ⟨other, rightValue, rightConnected⟩ :=
        rightMatched.exists_right middleValue
      rw [rightValue]
      exact .some (transitive place entry between other leftValue middleValue
        rightValue leftConnected rightConnected)

/-- Lists match at every position when they are as long as each other and
related where both have an item. -/
theorem getElem?_iff
    (related : α -> β -> Prop)
    (left : List α)
    (right : List β) :
    Matches related (fun index : Nat => left[index]?)
        (fun index => right[index]?) ↔
      left.length = right.length ∧
        ∀ (index : Nat) (item : α) (other : β),
          left[index]? = some item -> right[index]? = some other ->
            related item other := by
  constructor
  · intro matched
    have sameEnds (index : Nat) :
        left.length ≤ index ↔ right.length ≤ index := by
      have absentTogether := matched.eq_none_iff index
      simpa only [List.getElem?_eq_none_iff] using absentTogether
    constructor
    · have leftEnd := (sameEnds right.length).mpr (Nat.le_refl _)
      have rightEnd := (sameEnds left.length).mp (Nat.le_refl _)
      omega
    · intro index item other found otherFound
      obtain ⟨partner, partnerFound, connected⟩ := matched.exists_right found
      change right[index]? = some partner at partnerFound
      rw [otherFound] at partnerFound
      cases partnerFound
      exact connected
  · rintro ⟨sameLength, connected⟩ index
    change Option.Rel related left[index]? right[index]?
    by_cases inside : index < left.length
    · have rightInside : index < right.length := by omega
      rw [List.getElem?_eq_getElem inside,
        List.getElem?_eq_getElem rightInside]
      exact .some (connected index _ _ (List.getElem?_eq_getElem inside)
        (List.getElem?_eq_getElem rightInside))
    · rw [List.getElem?_eq_none (by omega), List.getElem?_eq_none (by omega)]
      exact .none

end Matches

/-- Compare what two partial functions hold at one place. -/
def answerAt
    (compare : α -> β -> Bool)
    (left : ι -> Option α)
    (right : ι -> Option β)
    (place : ι) : Bool :=
  match left place, right place with
  | some entry, some other => compare entry other
  | _, _ => false

theorem answerAt_of_eq_some
    {compare : α -> β -> Bool}
    {left : ι -> Option α}
    {right : ι -> Option β}
    {place : ι}
    {entry : α}
    {other : β}
    (found : left place = some entry)
    (otherFound : right place = some other) :
    answerAt compare left right place = compare entry other := by
  simp [answerAt, found, otherFound]

end Monkey
