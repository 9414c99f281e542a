import Monkey.Value.Debug

/-!
# Lexical scopes

A scope binds names to values and may be enclosed by an outer scope. Scopes are
shared: everyone who holds the identity of a scope sees the same bindings. A
scope is created after the one that encloses it, so the outer scope always has
the smaller identity and every chain of scopes ends.
-/

namespace Monkey

variable [Embedding]

/-- The bindings of one scope and the scope that encloses it. -/
structure Scope where
  bindings : Table String Value := {}
  outer : Option ScopeId := none

namespace Scope

/-- The bound names in ascending order. -/
def names (scope : Scope) : List String :=
  scope.bindings.keys.mergeSort fun left right => left ≤ right

/-- The debug text of a scope lists its names but not their values, which may
contain closures over the scope itself. -/
def debug (scope : Scope) : String :=
  "Env(Environment \x7b bindings: " ++ quotedList scope.names ++
    ", has_outer: " ++ (if scope.outer.isSome then "true" else "false") ++
    " \x7d)"

/-- A scope with one more binding. -/
def bind (scope : Scope) (name : String) (value : Value) : Scope :=
  { scope with bindings := scope.bindings.insert name value }

end Scope

/-- All scopes created so far; the identity of a scope is its index. -/
structure Scopes where
  scopes : Array Scope := #[]
  outer_lt :
    ∀ (id : ScopeId) (scope : Scope) (outer : ScopeId),
      scopes[id]? = some scope -> scope.outer = some outer -> outer < id := by
        simp

namespace Scopes

/-- The number of scopes. -/
def size (scopes : Scopes) : Nat :=
  scopes.scopes.size

/-- The scope with an identity. -/
def get? (scopes : Scopes) (id : ScopeId) : Option Scope :=
  scopes.scopes[id]?

/-- The scope with an identity, or an empty one if there is none. -/
def scope (scopes : Scopes) (id : ScopeId) : Scope :=
  (scopes.get? id).getD {}

/-- Create a scope without an outer one. -/
def create (scopes : Scopes) : ScopeId × Scopes :=
  (scopes.size,
    { scopes := scopes.scopes.push {}
      outer_lt := by
        intro id scope outer found enclosed
        rw [Array.getElem?_push] at found
        split at found
        · cases found
          cases enclosed
        · exact scopes.outer_lt id scope outer found enclosed })

/-- Create a scope enclosed by another. Only an existing scope encloses. -/
def enclose (scopes : Scopes) (outer : ScopeId) : ScopeId × Scopes :=
  if outerExists : outer < scopes.size then
    (scopes.size,
      { scopes := scopes.scopes.push { outer := some outer }
        outer_lt := by
          intro id scope other found enclosed
          rw [Array.getElem?_push] at found
          split at found
          next last =>
            cases found
            cases enclosed
            rw [last]
            exact outerExists
          next => exact scopes.outer_lt id scope other found enclosed })
  else scopes.create

/-- Bind a name in a scope. Scopes around and inside it keep their bindings. -/
def bind
    (scopes : Scopes)
    (id : ScopeId)
    (name : String)
    (value : Value) : Scopes where
  scopes := scopes.scopes.modify id fun scope => scope.bind name value
  outer_lt := by
    intro other scope outer found enclosed
    rw [Array.getElem?_modify] at found
    split at found
    · obtain ⟨old, oldFound, rfl⟩ := Option.map_eq_some_iff.mp found
      exact scopes.outer_lt other old outer oldFound enclosed
    · exact scopes.outer_lt other scope outer found enclosed

/-- The value of a name: its binding in the scope itself, or else its value in
the enclosing scope. -/
def lookup (scopes : Scopes) (id : ScopeId) (name : String) : Option Value :=
  match _found : scopes.scopes[id]? with
  | none => none
  | some scope =>
      match scope.bindings.get? name with
      | some value => some value
      | none =>
          match _enclosed : scope.outer with
          | none => none
          | some outer => scopes.lookup outer name
termination_by id
decreasing_by exact scopes.outer_lt id scope outer _found _enclosed

end Scopes
end Monkey
