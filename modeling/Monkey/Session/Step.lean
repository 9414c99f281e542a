import Monkey.Session.Literal
import Monkey.Value.Debug
import Monkey.Value.Equality

/-!
# Steps

A step of a session evaluates an expression and may name its value, observes
something without changing what is named, or opens an environment under a
name. Every step has an answer. A step that refuses to produce a value names
nothing, so an older meaning of the name stays.
-/

namespace Monkey

variable [Embedding]

/-- A step that produces a value. -/
inductive Expression
  | literal (value : Literal)
  /-- Call a builtin of the prelude by name. -/
  | call (name : String) (arguments : List Literal)
  /-- Call a builtin that is at hand as a value. -/
  | apply (callee : Literal) (arguments : List Literal)
  /-- Strip a return wrapper. -/
  | unwrap (value : Literal)
  /-- Bind a name in an environment. -/
  | assign (environment name : String) (value : Literal)
  /-- Look a name up in an environment. -/
  | lookup (environment name : String)
  /-- Look a name up in an environment, then among the builtins. -/
  | resolve (environment name : String)
  /-- The same closure under other parameter names. -/
  | withParams (closure : Literal) (params : List String)
  /-- A set with one more element. -/
  | withElement (collection element : Literal)
  /-- The union of two sets. -/
  | union (left right : Literal)
  /-- Look a key up in a hash. -/
  | hashGet (collection key : Literal)

/-- A step that only observes. -/
inductive Observation
  /-- Whether an element belongs to a set. -/
  | contains (collection element : Literal)
  | display (value : Literal)
  | debug (value : Literal)
  /-- The key of a value, if it has one. -/
  | key (value : Literal)
  /-- Whether the key of a text was asked for before. -/
  | cached (text : Literal)
  /-- Equality, in both directions. -/
  | equal (left right : Literal)
  /-- What the sink captured. -/
  | captured
  /-- Forget what the sink captured. -/
  | reset
  /-- Size and debug text of an environment. -/
  | environment (name : String)
  /-- Whether two names stand for the same environment. -/
  | sameEnvironment (left right : String)

/-- Where an environment comes from. -/
inductive Origin
  | new
  /-- A new environment enclosed by a named one. -/
  | enclosed (outer : String)
  /-- The environment that a closure captured. -/
  | captured (closure : Literal)

/-- One step of a session. -/
inductive Step
  | evaluate (expression : Expression) (name : Option String)
  | observe (observation : Observation)
  | openEnvironment (origin : Origin) (name : String)

/-- Why a step gives no value. -/
inductive Refusal
  /-- Nothing is there under the name or key. -/
  | absent
  /-- The step works on one kind of value and got another. -/
  | mismatch (wanted got : Kind)
  /-- The step works on two sets and got something else. -/
  | notBothSets
  /-- A value cannot be filed. -/
  | unhashable (rejected : Unhashable)

/-- The answer of a step. -/
inductive Answer
  | value (value : Value)
  | refused (reason : Refusal)
  | contains (present : Bool)
  | display (text : String)
  | debug (text : String)
  | key (key : Option Key)
  | cached (remembered : Bool)
  | equal (forward backward : Bool)
  | captured (transcript : String)
  | opened (size : Nat)
  | environment (size : Nat) (debug : String)
  | same (same : Bool)

/-! ## Expressions -/

open Session

variable [HostFunctions] {κ : Type} [KeySource κ]

/-- The value of a name: in an environment, or else among the builtins. -/
def Scopes.resolve (scopes : Scopes) (id : ScopeId) (name : String) :
    Option Value :=
  (scopes.lookup id name).or (Prelude.lookup name)

/-- An optional value, refused as absent if it is none. -/
def Refusal.ofOption : Option Value -> Except Refusal Value
  | some value => .ok value
  | none => .error .absent

namespace Expression

/-- Evaluate an expression. -/
def eval : Expression -> Evaluation κ (Except Refusal Value)
  | .literal value => do return .ok (<- value.eval)
  | .call name arguments => do
      let arguments <- Literal.evalAll arguments
      return Refusal.ofOption (<- perform (Prelude.call name arguments))
  | .apply callee arguments => do
      let callee <- callee.eval
      let arguments <- Literal.evalAll arguments
      match callee with
      | .builtin builtin => return .ok (<- perform (builtin.call arguments))
      | other => return .error (.mismatch .builtin other.kind)
  | .unwrap value => do return .ok (<- value.eval).unwrapReturn
  | .assign environment name value => do
      let id <- environmentNamed environment
      let value <- value.eval
      bindInScope id name value
      return .ok value
  | .lookup environment name => do
      let id <- environmentNamed environment
      return Refusal.ofOption ((<- get).scopes.lookup id name)
  | .resolve environment name => do
      let id <- environmentNamed environment
      return Refusal.ofOption ((<- get).scopes.resolve id name)
  | .withParams closure params => do
      match <- closure.eval with
      | .closure closure => return .ok (.closure (closure.withParams params))
      | other => return .error (.mismatch .function other.kind)
  | .withElement collection element => do
      let collection <- collection.eval
      let element <- element.eval
      match collection with
      | .set members =>
          match <- perform (MemberSet.withElement members element).run with
          | .ok members => return .ok (.set members)
          | .error rejected => return .error (.unhashable rejected)
      | other => return .error (.mismatch .set other.kind)
  | .union left right => do
      let left <- left.eval
      let right <- right.eval
      match left, right with
      | .set left, .set right => return .ok (.set (MemberSet.union left right))
      | _, _ => return .error .notBothSets
  | .hashGet collection key => do
      let collection <- collection.eval
      let key <- key.eval
      match collection with
      | .hash pairs => return Refusal.ofOption (<- perform (Hash.lookup pairs key))
      | other => return .error (.mismatch .hash other.kind)

end Expression

/-! ## Observations -/

namespace Observation

/-- Make an observation. -/
def observe : Observation -> Evaluation κ Answer
  | .contains collection element => do
      let collection <- collection.eval
      let element <- element.eval
      match collection with
      | .set members => return .contains (<- perform (MemberSet.contains members element))
      | other => return .refused (.mismatch .set other.kind)
  | .display value => do return .display (<- value.eval).display
  | .debug value => do return .debug (<- value.eval).debug
  | .key value => do
      let value <- value.eval
      return .key (<- perform value.requestKey?)
  | .cached text => do
      match <- text.eval with
      | .atom (.text text) =>
          return .cached (KeySource.remembers (<- get) text)
      | other => return .refused (.mismatch .string other.kind)
  | .equal left right => do
      let left <- left.eval
      let right <- right.eval
      return .equal (left == right) (right == left)
  | .captured => do return .captured (<- get).sink.captured
  | .reset => do
      modify fun session => { session with sink := session.sink.reset }
      return .captured (<- get).sink.captured
  | .environment name => do
      let id <- environmentNamed name
      let scope := (<- get).scopes.scope id
      return .environment scope.bindings.size scope.debug
  | .sameEnvironment left right => do
      let left <- environmentNamed left
      let right <- environmentNamed right
      return .same (left == right)

end Observation

/-! ## Environments -/

namespace Origin

/-- Find or create the environment of an origin. -/
def scope : Origin -> Evaluation κ (Except Refusal ScopeId)
  | .new => do return .ok (<- newScope)
  | .enclosed outer => do
      let outer <- environmentNamed outer
      return .ok (<- encloseScope outer)
  | .captured closure => do
      match <- closure.eval with
      | .closure closure => return .ok closure.scope
      | other => return .error (.mismatch .function other.kind)

end Origin

/-! ## Steps -/

namespace Step

/-- Carry out a step. -/
def run : Step -> Evaluation κ Answer
  | .evaluate expression name => do
      match <- expression.eval with
      | .ok value =>
          if let some name := name then nameValue name value
          return .value value
      | .error reason => return .refused reason
  | .observe observation => observation.observe
  | .openEnvironment origin name => do
      match <- origin.scope with
      | .ok id =>
          nameEnvironment name id
          return .opened ((<- get).scopes.scope id).bindings.size
      | .error reason => return .refused reason

/-- Carry out some steps in order. -/
def runAll : List Step -> Evaluation κ (List Answer)
  | [] => return []
  | step :: rest => do
      let answer <- step.run
      return answer :: (<- runAll rest)

end Step
end Monkey
