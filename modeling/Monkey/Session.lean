import Monkey.Output.Sink
import Monkey.KeySource
import Monkey.Scopes

/-!
# Sessions

A session runs a program step by step over named values and named
environments. Its state holds everything that a later step can see: what the
key source remembers, where output goes, all scopes, the names in use, and how
many text cells and closure bodies have been allocated, so that every new one
gets an identity of its own.
-/

namespace Monkey

variable [Embedding]

/-- The state of a running program. -/
structure Session (κ : Type) where
  keys : κ
  sink : Sink := .through (.capture "")
  scopes : Scopes := {}
  cells : CellId := 0
  codes : CodeId := 0
  values : Table String Value := {}
  environments : Table String ScopeId := {}

namespace Session

variable {κ : Type}

instance [KeySource κ] : KeySource (Session κ) where
  request text := do
    let session <- get
    let (key, keys) := (KeySource.request text).run session.keys
    set { session with keys }
    return key
  remembers session text := KeySource.remembers session.keys text

instance : LineSink (Session κ) where
  take line session :=
    { session with sink := LineSink.take line session.sink }

/-! ## Evaluation -/

/-- A name that a step mentions but nothing gave a meaning. -/
inductive Unbound
  | value (name : String)
  | environment (name : String)
  | builtin (name : String)

/-- A computation over the session that stops at an unbound name. -/
abbrev Evaluation (κ α : Type) := ExceptT Unbound (StateM (Session κ)) α

/-- A computation that mentions no names. -/
def perform {α : Type} (computation : StateM (Session κ) α) :
    Evaluation κ α :=
  ExceptT.lift computation

/-! ## Allocation -/

/-- Allocate the cell of a new text. -/
def newText (content : String) : Evaluation κ Text := do
  let session <- get
  set { session with cells := session.cells + 1 }
  return ⟨session.cells, content⟩

/-- Allocate the body of a new closure over a scope. -/
def newClosure (params : List String) (body : Body) (scope : ScopeId) :
    Evaluation κ Closure := do
  let session <- get
  set { session with codes := session.codes + 1 }
  return ⟨params, body, session.codes, scope⟩

/-- Create a scope without an outer one. -/
def newScope : Evaluation κ ScopeId := do
  let session <- get
  let (id, scopes) := session.scopes.create
  set { session with scopes }
  return id

/-- Create a scope enclosed by another. -/
def encloseScope (outer : ScopeId) : Evaluation κ ScopeId := do
  let session <- get
  let (id, scopes) := session.scopes.enclose outer
  set { session with scopes }
  return id

/-! ## Names -/

/-- The value with a name. -/
def valueNamed (name : String) : Evaluation κ Value := do
  match (<- get).values.get? name with
  | some value => return value
  | none => throw (.value name)

/-- The environment with a name. -/
def environmentNamed (name : String) : Evaluation κ ScopeId := do
  match (<- get).environments.get? name with
  | some id => return id
  | none => throw (.environment name)

/-- Give a value a name. -/
def nameValue (name : String) (value : Value) : Evaluation κ Unit :=
  modify fun session =>
    { session with values := session.values.insert name value }

/-- Give an environment a name. -/
def nameEnvironment (name : String) (id : ScopeId) :
    Evaluation κ Unit :=
  modify fun session =>
    { session with environments := session.environments.insert name id }

/-- Bind a name in a scope. -/
def bindInScope (id : ScopeId) (name : String) (value : Value) :
    Evaluation κ Unit :=
  modify fun session =>
    { session with scopes := session.scopes.bind id name value }

end Session
end Monkey
