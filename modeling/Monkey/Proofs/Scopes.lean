import Monkey.Proofs.Table
import Monkey.Scopes

/-!
# Operations on scopes

What every scope looks like after one operation, and lookup as one step along
the chain of scopes. Creating a scope leaves the others as they are; binding a
name changes the one scope it is bound in.
-/

namespace Monkey

variable [Embedding]

namespace Scopes

/-! ## Creating scopes -/

theorem outer_lt_nil
    (id : ScopeId)
    (scope : Scope)
    (outer : ScopeId)
    (found : (#[] : Array Scope)[id]? = some scope) :
    scope.outer = some outer -> outer < id :=
  nomatch found

/-- No scopes. -/
def empty : Scopes :=
  ⟨#[], outer_lt_nil⟩

@[simp] theorem create_id (scopes : Scopes) :
    scopes.create.1 = scopes.size := rfl

@[simp] theorem size_create (scopes : Scopes) :
    scopes.create.2.size = scopes.size + 1 := by
  simp [create, size]

theorem get?_create
    (scopes : Scopes)
    (id : ScopeId) :
    scopes.create.2.get? id =
      if id = scopes.size then some {} else scopes.get? id := by
  change (scopes.scopes.push {})[id]? = _
  rw [Array.getElem?_push]
  rfl

theorem enclose_id
    {scopes : Scopes}
    {outer : ScopeId}
    (outerExists : outer < scopes.size) :
    (scopes.enclose outer).1 = scopes.size := by
  unfold enclose
  rw [dif_pos outerExists]

theorem size_enclose
    {scopes : Scopes}
    {outer : ScopeId}
    (outerExists : outer < scopes.size) :
    (scopes.enclose outer).2.size = scopes.size + 1 := by
  unfold enclose
  rw [dif_pos outerExists]
  simp [size]

/-- Only the new scope is enclosed by the outer one. -/
theorem get?_enclose
    {scopes : Scopes}
    {outer : ScopeId}
    (outerExists : outer < scopes.size)
    (id : ScopeId) :
    (scopes.enclose outer).2.get? id =
      if id = scopes.size then some { outer := some outer }
      else scopes.get? id := by
  unfold enclose
  rw [dif_pos outerExists]
  change (scopes.scopes.push { outer := some outer })[id]? = _
  rw [Array.getElem?_push]
  rfl

/-! ## Binding names -/

@[simp] theorem size_bind
    (scopes : Scopes)
    (id : ScopeId)
    (name : String)
    (value : Value) :
    (scopes.bind id name value).size = scopes.size := by
  simp [bind, size]

/-- Binding a name changes no other scope. -/
theorem get?_bind
    (scopes : Scopes)
    (id other : ScopeId)
    (name : String)
    (value : Value) :
    (scopes.bind id name value).get? other =
      if id = other then
        (scopes.get? other).map fun scope => scope.bind name value
      else scopes.get? other := by
  simp only [bind, get?, Array.getElem?_modify]

/-! ## Lookup -/

/-- Lookup takes the binding of the scope itself, or else goes one step
outwards. -/
theorem lookup_eq
    (scopes : Scopes)
    (id : ScopeId)
    (name : String) :
    scopes.lookup id name = (scopes.get? id).bind fun scope =>
      (scope.bindings.get? name).or
        (scope.outer.bind fun outer => scopes.lookup outer name) := by
  rw [lookup]
  unfold get?
  split
  next missing => rw [missing]; rfl
  next scope found =>
    rw [found]
    change _ = (scope.bindings.get? name).or _
    split
    next value bound => rw [bound]; rfl
    next unbound =>
      rw [unbound, Option.none_or]
      split
      next outermost => rw [outermost]; rfl
      next outer enclosed => rw [enclosed]; rfl

end Scopes
end Monkey
