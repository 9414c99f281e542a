import Monkey.Kind

/-!
# Failures

A failure is a runtime error that programs handle as a value: a category and a
message. The library raises failures for a fixed set of causes, and
`Fault.message` is the only place that words them.
-/

namespace Monkey

/-- The category of a failure. -/
inductive Category
  | arity
  | type
  | unsupported
  | custom
  deriving DecidableEq

namespace Category

/-- The label of a category in debug texts. -/
def label : Category -> String
  | .arity => "Arity"
  | .type => "Type"
  | .unsupported => "Unsupported"
  | .custom => "Custom"

/-- The category that debug texts call by this label. -/
def ofLabel? (text : String) : Option Category :=
  [arity, type, unsupported, custom].find? fun category =>
    category.label == text

end Category

/-- A runtime error as a value. -/
structure Failure where
  category : Category
  message : String
  deriving DecidableEq

/-- A value that was to key a hash or join a set but has no key. -/
structure Unhashable where
  kind : Kind
  deriving DecidableEq

/-- What can go wrong inside the library. -/
inductive Fault
  /-- A builtin was called with the wrong number of arguments. -/
  | wrongArgumentCount (got want : Nat)
  /-- A builtin accepts only the expected kinds. -/
  | argumentMustBe (builtin expected : String) (got : Kind)
  /-- A builtin that accepts several kinds does not accept this one. -/
  | argumentNotSupported (builtin : String) (got : Kind)
  /-- A value of this kind cannot be a key. -/
  | unusableAsKey (kind : Kind)
  /-- An error raised by a program. -/
  | custom (message : String)

namespace Fault

/-- The category under which a fault is reported. -/
def category : Fault -> Category
  | .wrongArgumentCount .. => .arity
  | .argumentMustBe .. | .argumentNotSupported .. => .type
  | .unusableAsKey _ => .unsupported
  | .custom _ => .custom

/-- The words in which a fault is reported. -/
def message : Fault -> String
  | .wrongArgumentCount got want =>
      "wrong number of arguments. got=" ++ toString got ++
        ", want=" ++ toString want
  | .argumentMustBe builtin expected got =>
      "argument to `" ++ builtin ++ "` must be " ++ expected ++
        ", got " ++ got.name
  | .argumentNotSupported builtin got =>
      "argument to `" ++ builtin ++ "` not supported, got " ++ got.name
  | .unusableAsKey kind => "unusable as hash key: " ++ kind.name
  | .custom message => message

/-- The failure that reports a fault. -/
def failure (fault : Fault) : Failure :=
  ⟨fault.category, fault.message⟩

end Fault

/-- The fault that reports an unhashable value. -/
def Unhashable.fault (rejected : Unhashable) : Fault :=
  .unusableAsKey rejected.kind

end Monkey
