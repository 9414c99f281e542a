import Monkey.Atom
import Monkey.Callable
import Monkey.Failure
import Monkey.Table

/-!
# Values

The values that programs of the language compute with. Hashes file pairs of
an atom and a value, sets file their members, both under the key of the atom.
`Value.WellFormed` says what holds of every collection that the library builds:
each entry is filed under the key of its own atom, and no key twice.
-/

namespace Monkey

variable [Embedding]

/-- A runtime value. -/
inductive Value
  | atom (value : Atom)
  | null
  /-- A value on its way out of a function body. -/
  | returned (value : Value)
  | failure (reason : Failure)
  | closure (function : Closure)
  | builtin (function : Builtin)
  | array (items : List Value)
  | hash (pairs : Table Key (Atom × Value))
  | set (members : Table Key Atom)

/-- A hash: pairs of an atom and a value, filed under the key of the atom. -/
abbrev Hash := Table Key (Atom × Value)

/-- A set: members, each filed under its key. -/
abbrev MemberSet := Table Key Atom

namespace Value

/-- An integer as a value. -/
abbrev int (value : Int64) : Value := .atom (.int value)

/-- A boolean as a value. -/
abbrev bool (value : Bool) : Value := .atom (.bool value)

/-- A text as a value. -/
abbrev text (value : Text) : Value := .atom (.text value)

/-- The value by which a program sees a fault. -/
def ofFault (fault : Fault) : Value :=
  .failure fault.failure

/-- The kind of a value. -/
def kind : Value -> Kind
  | .atom value => value.kind
  | .null => .null
  | .returned _ => .returnValue
  | .failure _ => .error
  | .closure _ => .function
  | .builtin _ => .builtin
  | .array _ => .array
  | .hash _ => .hash
  | .set _ => .set

/-- Only `false` and `null` are not truthy. -/
def isTruthy : Value -> Bool
  | .atom (.bool value) => value
  | .null => false
  | _ => true

/-- Whether a value is a failure. -/
def isFailure : Value -> Bool
  | .failure _ => true
  | _ => false

/-- Strip one return wrapper. -/
def unwrapReturn : Value -> Value
  | .returned value => value
  | other => other

/-- The atom that a value is. -/
def asAtom? : Value -> Option Atom
  | .atom value => some value
  | _ => none

/-- The integer that a value is. -/
def asInt? : Value -> Option Int64
  | .atom (.int value) => some value
  | _ => none

/-- The boolean that a value is. -/
def asBool? : Value -> Option Bool
  | .atom (.bool value) => some value
  | _ => none

/-- The text that a value is. -/
def asText? : Value -> Option Text
  | .atom (.text value) => some value
  | _ => none

/-- The items of an array. -/
def asArray? : Value -> Option (List Value)
  | .array items => some items
  | _ => none

/-- The failure that a value is. -/
def asFailure? : Value -> Option Failure
  | .failure reason => some reason
  | _ => none

/-- A value is an atom exactly when its kind is hashable. -/
theorem isHashable_kind (value : Value) :
    value.kind.isHashable = value.asAtom?.isSome := by
  cases value with
  | atom value => cases value <;> rfl
  | _ => rfl

end Value

/-! ## Well-formed collections -/

/-- Every entry is filed under the key of its atom, and no key twice. -/
def Filed {α : Type} (atom : α -> Atom) (table : Table Key α) : Prop :=
  table.keys.Nodup ∧ ∀ entry ∈ table.entries, entry.1 = (atom entry.2).key

mutual

/-- Every collection inside a value is well formed. -/
def Value.WellFormed : Value -> Prop
  | .returned value => value.WellFormed
  | .array items => Value.ItemsWellFormed items
  | .hash ⟨pairs⟩ => Filed Prod.fst ⟨pairs⟩ ∧ Value.PairsWellFormed pairs
  | .set members => Filed id members
  | _ => True

/-- Every item of an array is well formed. -/
def Value.ItemsWellFormed : List Value -> Prop
  | [] => True
  | value :: rest => value.WellFormed ∧ Value.ItemsWellFormed rest

/-- Every value filed in a hash is well formed. -/
def Value.PairsWellFormed : List (Key × Atom × Value) -> Prop
  | [] => True
  | (_, _, value) :: rest => value.WellFormed ∧ Value.PairsWellFormed rest

end

end Monkey
