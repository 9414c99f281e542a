import Monkey.Prelude
import Monkey.Proofs.Scopes
import Monkey.Session.Step

/-!
# Hereditary properties

A program takes what it holds out of other values, out of scopes and from the
builtins that it calls. A property of values that passes from values to their
parts and back therefore stays true of everything that a program holds, as long
as it is true of what the program builds anew. This module follows such a
property through the builtins that ask for no key, through tables of names and
through scopes.
-/

namespace Monkey

variable [Embedding]

/-! ## Values -/

/-- A property passes between wrappers and what they wrap, from hashes to their
values and from sets to their union, and it holds of what builtins answer by
themselves. -/
structure Value.Hereditary (holds : Value -> Prop) : Prop where
  int (value : Int64) : holds (.int value)
  bool (value : Bool) : holds (.bool value)
  null : holds .null
  failure (reason : Failure) : holds (.failure reason)
  returned_iff (value : Value) : holds (.returned value) ↔ holds value
  array_iff (items : List Value) :
    holds (.array items) ↔ ∀ item ∈ items, holds item
  hash_values {pairs : Hash} :
    holds (.hash pairs) -> ∀ entry ∈ pairs.entries, holds entry.2.2
  union {left right : MemberSet} :
    holds (.set left) -> holds (.set right) ->
      holds (.set (MemberSet.union left right))

/-- If an outcome is a value, it has a property. -/
def Yields {ε : Type} (holds : Value -> Prop) (outcome : Except ε Value) :
    Prop :=
  ∀ value, outcome = .ok value -> holds value

section Values

variable {ε : Type} {holds : Value -> Prop} {value : Value}

theorem yields_ok (valueHolds : holds value) :
    Yields holds (.ok value : Except ε Value) := by
  rintro _ ⟨⟩
  exact valueHolds

theorem yields_error (reason : ε) : Yields holds (.error reason) :=
  nofun

/-- An optional value that has a property if there is one. -/
theorem yields_ofOption
    {found : Option Value}
    (foundHolds : ∀ value, found = some value -> holds value) :
    Yields holds (Refusal.ofOption found) := by
  cases found with
  | none => exact yields_error _
  | some value => exact yields_ok (foundHolds value rfl)

namespace Value.Hereditary

variable (hereditary : Hereditary holds)

include hereditary

theorem unwrapReturn (valueHolds : holds value) :
    holds value.unwrapReturn := by
  cases value with
  | returned value => exact (hereditary.returned_iff value).mp valueHolds
  | _ => exact valueHolds

/-- What is found in a hash has the property of the hash. -/
theorem get?
    {pairs : Hash}
    (pairsHold : holds (.hash pairs))
    {key : Key}
    (found : (pairs.get? key).map Prod.snd = some value) :
    holds value := by
  obtain ⟨entry, entryFound, rfl⟩ := Option.map_eq_some_iff.mp found
  exact hereditary.hash_values pairsHold _
    (Table.mem_entries_of_get? entryFound)

/-! ## Builtins -/

variable {arguments : List Value}

/-- The only argument of an array has the property, so its items have it. -/
theorem items
    {items : List Value}
    (argumentsHold : ∀ argument ∈ [.array items], holds argument) :
    ∀ item ∈ items, holds item :=
  (hereditary.array_iff items).mp (List.forall_mem_singleton.mp argumentsHold)

theorem len : Yields holds (Builtin.len arguments) := by
  unfold Builtin.len
  split <;> first
    | exact yields_ok (hereditary.int _)
    | exact yields_error _

theorem first (argumentsHold : ∀ argument ∈ arguments, holds argument) :
    Yields holds (Builtin.first arguments) := by
  unfold Builtin.first
  split
  next items =>
    refine yields_ok ?_
    cases items with
    | nil => exact hereditary.null
    | cons item rest =>
        exact hereditary.items argumentsHold item List.mem_cons_self
  all_goals exact yields_error _

theorem last (argumentsHold : ∀ argument ∈ arguments, holds argument) :
    Yields holds (Builtin.last arguments) := by
  unfold Builtin.last
  split
  next items =>
    refine yields_ok ?_
    cases found : items.getLast? with
    | none => exact hereditary.null
    | some item =>
        exact hereditary.items argumentsHold item
          (List.mem_of_getLast? found)
  all_goals exact yields_error _

theorem rest (argumentsHold : ∀ argument ∈ arguments, holds argument) :
    Yields holds (Builtin.rest arguments) := by
  unfold Builtin.rest
  split
  next item tail =>
    refine yields_ok ((hereditary.array_iff tail).mpr ?_)
    intro item member
    exact hereditary.items argumentsHold item (List.mem_cons_of_mem _ member)
  next => exact yields_ok hereditary.null
  all_goals exact yields_error _

theorem unionOf (argumentsHold : ∀ argument ∈ arguments, holds argument) :
    Yields holds (Builtin.union arguments) := by
  unfold Builtin.union
  split
  next left right =>
    obtain ⟨leftHolds, rightHolds⟩ := List.forall_mem_cons.mp argumentsHold
    exact yields_ok
      (hereditary.union leftHolds (List.forall_mem_singleton.mp rightHolds))
  all_goals exact yields_error _

/-- What is made of some parts has the property of the parts. -/
theorem madeOf
    {parts : List Value}
    (partsHold : ∀ part ∈ parts, holds part)
    (made : value.MadeOf parts) :
    holds value := by
  induction made with
  | part member => exact partsHold _ member
  | int value => exact hereditary.int value
  | bool value => exact hereditary.bool value
  | null => exact hereditary.null
  | failure reason => exact hereditary.failure reason
  | returned _ inductionHypothesis =>
      exact (hereditary.returned_iff _).mpr inductionHypothesis
  | array _ inductionHypothesis =>
      exact (hereditary.array_iff _).mpr inductionHypothesis

/-- An array with one more item. -/
theorem append
    {items : List Value}
    {item : Value}
    (argumentsHold : ∀ argument ∈ [.array items, item], holds argument) :
    holds (.array (items ++ [item])) := by
  obtain ⟨arrayHolds, itemHolds⟩ := List.forall_mem_cons.mp argumentsHold
  exact (hereditary.array_iff _).mpr (List.forall_mem_append.mpr
    ⟨(hereditary.array_iff items).mp arrayHolds, itemHolds⟩)

end Value.Hereditary

end Values

/-! ## Names -/

/-- Every value that a table of names holds has a property. -/
def Table.AllHold (holds : Value -> Prop) (table : Table String Value) :
    Prop :=
  ∀ name value, table.get? name = some value -> holds value

theorem Table.AllHold.insert
    {holds : Value -> Prop}
    {table : Table String Value}
    (allHold : table.AllHold holds)
    {value : Value}
    (valueHolds : holds value)
    (name : String) :
    (table.insert name value).AllHold holds := by
  intro other held found
  rw [Table.get?_insert] at found
  split at found
  next =>
    cases found
    exact valueHolds
  next => exact allHold other held found

/-! ## Scopes -/

/-- Every value bound in a scope has a property. -/
def Scopes.AllHold (holds : Value -> Prop) (scopes : Scopes) : Prop :=
  ∀ id scope, scopes.get? id = some scope -> scope.bindings.AllHold holds

namespace Scopes.AllHold

variable {holds : Value -> Prop} {scopes : Scopes}

theorem create (allHold : scopes.AllHold holds) :
    scopes.create.2.AllHold holds := by
  intro id scope found
  rw [Scopes.get?_create] at found
  split at found
  next =>
    cases found
    exact fun _ _ empty => nomatch empty
  next => exact allHold id scope found

theorem enclose
    (allHold : scopes.AllHold holds)
    (outer : ScopeId) :
    (scopes.enclose outer).2.AllHold holds := by
  by_cases outerExists : outer < scopes.size
  · intro id scope found
    rw [Scopes.get?_enclose outerExists] at found
    split at found
    next =>
      cases found
      exact fun _ _ empty => nomatch empty
    next => exact allHold id scope found
  · rw [Scopes.enclose, dif_neg outerExists]
    exact allHold.create

theorem bind
    (allHold : scopes.AllHold holds)
    {value : Value}
    (valueHolds : holds value)
    (id : ScopeId)
    (name : String) :
    (scopes.bind id name value).AllHold holds := by
  intro other scope found
  rw [Scopes.get?_bind] at found
  split at found
  next =>
    obtain ⟨old, oldFound, rfl⟩ := Option.map_eq_some_iff.mp found
    exact (allHold other old oldFound).insert valueHolds name
  next => exact allHold other scope found

/-- Lookup finds values with the property. -/
theorem lookup
    (allHold : scopes.AllHold holds)
    {id : ScopeId}
    {name : String}
    {value : Value}
    (found : scopes.lookup id name = some value) :
    holds value := by
  induction id using Nat.strongRecOn with
  | ind id inductionHypothesis =>
      rw [Scopes.lookup_eq, Option.bind_eq_some_iff] at found
      obtain ⟨scope, scopeFound, found⟩ := found
      rcases Option.or_eq_some_iff.mp found with bound | ⟨_, outside⟩
      · exact allHold id scope scopeFound name value bound
      · obtain ⟨outer, enclosed, outside⟩ := Option.bind_eq_some_iff.mp outside
        exact inductionHypothesis outer
          (scopes.outer_lt id scope outer scopeFound enclosed) outside

/-- A name that is not bound may still be that of a builtin. -/
theorem resolve
    (allHold : scopes.AllHold holds)
    (builtins : ∀ name function,
      Prelude.get? name = some function -> holds (.builtin function))
    {id : ScopeId}
    {name : String}
    {value : Value}
    (found : scopes.resolve id name = some value) :
    holds value := by
  rcases Option.or_eq_some_iff.mp found with bound | ⟨_, inPrelude⟩
  · exact allHold.lookup bound
  · obtain ⟨function, functionFound, rfl⟩ :=
      Option.map_eq_some_iff.mp inPrelude
    exact builtins name function functionFound

end Scopes.AllHold
end Monkey
