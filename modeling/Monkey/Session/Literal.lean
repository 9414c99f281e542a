import Monkey.Hash
import Monkey.MemberSet
import Monkey.Prelude
import Monkey.Session
import Monkey.Session.HostFunctions

/-!
# Literals

A literal describes how a step builds a value. Evaluating one allocates a cell
for every text and a body for every closure in it, builds hashes and sets
through the key source, and shares the values it refers to by name.
-/

namespace Monkey

variable [Embedding]

/-- How a value is written in a step. -/
inductive Literal
  | null
  | bool (value : Bool)
  | int (value : Int64)
  | text (content : String)
  | array (items : List Literal)
  /-- The hash of some pairs, or the failure that rejects a key. -/
  | hash (pairs : List (Literal × Literal))
  /-- The set of some elements, or the failure that rejects one. -/
  | set (elements : List Literal)
  | returned (value : Literal)
  | failure (reason : Failure)
  /-- The builtin of the prelude with a name. -/
  | builtin (name : String)
  /-- A builtin made of the native function that the host has for a name. -/
  | native (name : String)
  /-- A new closure over a named environment, or over a fresh one. -/
  | closure
      (params : List String)
      (body : Body)
      (environment : Option String)
  /-- The value with a name. -/
  | ref (name : String)

namespace Literal

open Session

variable [HostFunctions] {κ : Type} [KeySource κ]

mutual

/-- Build the value of a literal. -/
def eval : Literal -> Evaluation κ Value
  | .null => return .null
  | .bool value => return .bool value
  | .int value => return .int value
  | .text content => do return .text (<- newText content)
  | .array items => do return .array (<- evalAll items)
  | .hash pairs => do perform (Value.ofPairs (<- evalPairs pairs))
  | .set elements => do perform (Value.ofElements (<- evalAll elements))
  | .returned value => do return .returned (<- value.eval)
  | .failure reason => return .failure reason
  | .builtin name =>
      match Prelude.lookup name with
      | some value => return value
      | none => throw (.builtin name)
  | .native name => return .builtin ⟨name, .host (HostFunctions.named name)⟩
  | .closure params body none => do
      let scope <- newScope
      return .closure (<- newClosure params body scope)
  | .closure params body (some environment) => do
      let scope <- environmentNamed environment
      return .closure (<- newClosure params body scope)
  | .ref name => valueNamed name

/-- Build the values of some literals, from left to right. -/
def evalAll : List Literal -> Evaluation κ (List Value)
  | [] => return []
  | literal :: rest => do
      let value <- literal.eval
      return value :: (<- evalAll rest)

/-- Build the values of some pairs of literals, from left to right. -/
def evalPairs : List (Literal × Literal) -> Evaluation κ (List (Value × Value))
  | [] => return []
  | (key, value) :: rest => do
      let key <- key.eval
      let value <- value.eval
      return (key, value) :: (<- evalPairs rest)

end

end Literal
end Monkey
