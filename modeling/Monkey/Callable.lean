import Monkey.Embedding

/-!
# Callables

Closures and builtins are the values a program can call. A closure pairs a
body with the scope it was created in; creating one allocates its body, and
copies of a closure share that allocation. A builtin pairs a name with the
operation it performs, which is one of the library or a native function of the
host.
-/

namespace Monkey

/-- The identity of a lexical scope. -/
abbrev ScopeId := Nat

/-- The identity of an allocated closure body. -/
abbrev CodeId := Nat

variable [Embedding]

/-- A function written in the language, with the scope that it captured. -/
structure Closure where
  params : List String
  body : Body
  code : CodeId
  scope : ScopeId

namespace Closure

/-- Closures are equal when they share the allocated body and the captured
scope; their parameters are not compared. -/
def beq (left right : Closure) : Bool :=
  left.code == right.code && left.scope == right.scope

instance : BEq Closure := ⟨beq⟩

/-- The same closure under other parameter names. -/
def withParams (closure : Closure) (params : List String) : Closure :=
  { closure with params }

end Closure

/-- What a builtin does when it is called. -/
inductive Operation
  | len
  | first
  | last
  | rest
  | push
  | union
  | puts
  /-- Run a native function of the host. -/
  | host (function : HostFunction)

/-- A native function under a name. -/
structure Builtin where
  name : String
  operation : Operation

namespace Builtin

/-- Builtins are equal when their names are. -/
def beq (left right : Builtin) : Bool :=
  left.name == right.name

instance : BEq Builtin := ⟨beq⟩

/-- The debug text of a builtin that stands alone. -/
def debug (builtin : Builtin) : String :=
  "BuiltinValue(" ++ builtin.name ++ ")"

end Builtin
end Monkey
