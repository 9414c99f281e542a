import Monkey.Builtin

/-!
# The prelude

Programs find builtins by name. The prelude holds seven of them, in a fixed
order, and each under its own name.
-/

namespace Monkey

variable [Embedding]

namespace Prelude

/-- The operations of the prelude under their names, in order. -/
def operations : List (String × Operation) :=
  [("len", .len), ("first", .first), ("last", .last), ("rest", .rest),
    ("push", .push), ("union", .union), ("puts", .puts)]

/-- The names of the builtins, in order. -/
def names : List String :=
  ["len", "first", "last", "rest", "push", "union", "puts"]

/-- The number of builtins in the prelude. -/
def size : Nat :=
  operations.length

/-- The builtin under a name. -/
def get? (name : String) : Option Builtin :=
  (Table.find? operations name).map (Builtin.mk name)

/-- Whether a name is that of a builtin. -/
def contains (name : String) : Bool :=
  (get? name).isSome

/-- The builtin under a name, as a value. -/
def lookup (name : String) : Option Value :=
  (get? name).map .builtin

/-- Call the builtin under a name. -/
def call {σ : Type} [KeySource σ] [LineSink σ] [HostCalls σ]
    (name : String)
    (arguments : List Value) :
    StateM σ (Option Value) :=
  match get? name with
  | some builtin => some <$> builtin.call arguments
  | none => return none

omit [Embedding] in
/-- No two builtins have the same name. -/
theorem nodup_names : names.Nodup := by
  decide

end Prelude
end Monkey
