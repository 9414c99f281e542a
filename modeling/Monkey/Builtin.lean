import Monkey.Hash
import Monkey.MemberSet
import Monkey.Output.Sink
import Monkey.Value.Display

/-!
# Builtins

What each builtin answers. The number of arguments is checked first, then the
kinds of the arguments from left to right; a builtin that refuses its
arguments answers with a failure value. Of the operations of the library only
`puts` writes output, and only `push` onto a set asks for a key; a native function
of the host does what the host makes it do.
-/

namespace Monkey

variable [Embedding]

/-- The greatest integer. -/
def greatestInt : Nat := Nat.pow 2 63 - 1

namespace Value

/-- A count as an integer value, at most the greatest integer. -/
def ofCount (count : Nat) : Value :=
  .int (Int64.ofNat (min count greatestInt))

end Value

namespace Builtin

variable {σ : Type}

/-- The number of bytes of a text, or of entries of an array, hash or set. -/
def len : List Value -> Except Fault Value
  | [.atom (.text text)] => return .ofCount text.size
  | [.array items] => return .ofCount items.length
  | [.hash pairs] => return .ofCount pairs.size
  | [.set members] => return .ofCount members.size
  | [other] => throw (.argumentNotSupported "len" other.kind)
  | arguments => throw (.wrongArgumentCount arguments.length 1)

/-- The first item of an array, or null if it is empty. -/
def first : List Value -> Except Fault Value
  | [.array items] => return items.head?.getD .null
  | [other] => throw (.argumentMustBe "first" "ARRAY" other.kind)
  | arguments => throw (.wrongArgumentCount arguments.length 1)

/-- The last item of an array, or null if it is empty. -/
def last : List Value -> Except Fault Value
  | [.array items] => return items.getLast?.getD .null
  | [other] => throw (.argumentMustBe "last" "ARRAY" other.kind)
  | arguments => throw (.wrongArgumentCount arguments.length 1)

/-- An array without its first item, or null if it is empty. -/
def rest : List Value -> Except Fault Value
  | [.array (_ :: tail)] => return .array tail
  | [.array []] => return .null
  | [other] => throw (.argumentMustBe "rest" "ARRAY" other.kind)
  | arguments => throw (.wrongArgumentCount arguments.length 1)

/-- An array with one more item, or a set with one more member. -/
def push [KeySource σ] : List Value -> ExceptT Fault (StateM σ) Value
  | [.array items, item] => return .array (items ++ [item])
  | [.set members, element] =>
      .set <$> (MemberSet.withElement members element).adapt Unhashable.fault
  | [other, _] => throw (.argumentMustBe "push" "ARRAY or SET" other.kind)
  | arguments => throw (.wrongArgumentCount arguments.length 2)

/-- The union of two sets. -/
def union : List Value -> Except Fault Value
  | [.set left, .set right] => return .set (MemberSet.union left right)
  | [.set _, other] => throw (.argumentMustBe "union" "SET" other.kind)
  | [other, _] => throw (.argumentMustBe "union" "SET" other.kind)
  | arguments => throw (.wrongArgumentCount arguments.length 2)

/-- Write every argument on a line of its own. -/
def puts [LineSink σ] : List Value -> StateM σ Value
  | [] => return .null
  | argument :: rest => do
      writeLine argument.display
      puts rest

end Builtin

/-- A state in which native functions of the host run. What a call does to the
state is up to the function: it may write lines, ask for keys, and change what the
host keeps there from call to call. -/
class HostCalls (σ : Type) where
  /-- Run a native function on some arguments. -/
  call : HostFunction -> List Value -> StateM σ Value

namespace Operation

variable {σ : Type} [KeySource σ] [LineSink σ] [HostCalls σ]

/-- Perform an operation on some arguments. -/
def perform (operation : Operation) (arguments : List Value) :
    ExceptT Fault (StateM σ) Value :=
  match operation with
  | .len => liftExcept (Builtin.len arguments)
  | .first => liftExcept (Builtin.first arguments)
  | .last => liftExcept (Builtin.last arguments)
  | .rest => liftExcept (Builtin.rest arguments)
  | .push => Builtin.push arguments
  | .union => liftExcept (Builtin.union arguments)
  | .puts => ExceptT.lift (Builtin.puts arguments)
  | .host function => ExceptT.lift (HostCalls.call function arguments)

end Operation

namespace Builtin

variable {σ : Type} [KeySource σ] [LineSink σ] [HostCalls σ]

/-- Call a builtin. The caller sees a fault as a failure value. -/
def call (builtin : Builtin) (arguments : List Value) : StateM σ Value := do
  match <- (builtin.operation.perform arguments).run with
  | .ok value => return value
  | .error fault => return .ofFault fault

end Builtin
end Monkey
