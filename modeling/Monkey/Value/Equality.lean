import Monkey.Value

/-!
# Equality of values

Data is compared by structure, closures by identity and builtins by name. Two
hashes or sets are equal when they have the same number of entries and every
entry of the left one is found in the right one with an equal atom and an
equal value; the order of entries plays no part.
-/

namespace Monkey

variable [Embedding]

/-- Equality of sets: the same size, and every member on the left found on the
right. -/
def MemberSet.beq (left right : MemberSet) : Bool :=
  left.size == right.size &&
    left.entries.all fun (key, member) =>
      match right.get? key with
      | some other => member == other
      | none => false

mutual

/-- Equality of values. -/
def Value.beq : Value -> Value -> Bool
  | .atom left, .atom right => left == right
  | .null, .null => true
  | .returned left, .returned right => left.beq right
  | .failure left, .failure right => left == right
  | .closure left, .closure right => left == right
  | .builtin left, .builtin right => left == right
  | .array left, .array right => Value.beqItems left right
  | .hash ⟨left⟩, .hash right =>
      left.length == right.size && Value.pairsFoundIn left right
  | .set left, .set right => MemberSet.beq left right
  | _, _ => false

/-- Equality of arrays: item by item. -/
def Value.beqItems : List Value -> List Value -> Bool
  | [], [] => true
  | left :: lefts, right :: rights =>
      left.beq right && Value.beqItems lefts rights
  | _, _ => false

/-- Whether a hash holds an equal atom and value under every given key. -/
def Value.pairsFoundIn :
    List (Key × Atom × Value) -> Hash -> Bool
  | [], _ => true
  | (key, keyAtom, value) :: rest, other =>
      (match other.get? key with
        | some (otherKeyAtom, otherValue) =>
            keyAtom == otherKeyAtom && value.beq otherValue
        | none => false) && Value.pairsFoundIn rest other

end

instance : BEq Value := ⟨Value.beq⟩

end Monkey
