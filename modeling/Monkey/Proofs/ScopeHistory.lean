import Monkey.Proofs.Scopes

/-!
# Lookup after any history

A program reaches scopes through the handles that it obtained: each one stands
for a new scope or, as a copy, for the scope of another handle. From the list of
what the program did one can read which scope a handle stands for, which scope
encloses another and what was set in it; this is done without the heap of
scopes. `Represents` says that a heap agrees with such a history, and every
action keeps it. Lookup in the heap therefore finds what was last set in the
nearest scope around a handle.
-/

namespace Monkey

section

variable [Embedding]

namespace Scopes

/-! ## Actions -/

/-- What a program does to scopes. Handles are numbered in the order in which it
obtained them. -/
inductive Action
  | create
  | enclose (handle : Nat)
  /-- Copy a handle. -/
  | share (handle : Nat)
  | bind (handle : Nat) (name : String) (value : Value)

/-- The actions of a program, the latest one first. -/
abbrev History : Type := List Action

/-- Scopes with the handles that a program obtained on them. -/
structure Held where
  scopes : Scopes := {}
  handles : List ScopeId := []

namespace Held

/-- Do one action. It cannot be done without the handle that it goes through. -/
def act (held : Held) : Action -> Held
  | .create =>
      let (id, scopes) := held.scopes.create
      { scopes, handles := held.handles ++ [id] }
  | .enclose handle =>
      match held.handles[handle]? with
      | none => held
      | some outer =>
          let (id, scopes) := held.scopes.enclose outer
          { scopes, handles := held.handles ++ [id] }
  | .share handle =>
      match held.handles[handle]? with
      | none => held
      | some id => { held with handles := held.handles ++ [id] }
  | .bind handle name value =>
      match held.handles[handle]? with
      | none => held
      | some id => { held with scopes := held.scopes.bind id name value }

/-- What a program holds after a history. -/
def run : History -> Held
  | [] => {}
  | action :: past => (run past).act action

end Held

/-! ## What a history says -/

namespace History

/-- The number of scopes created. -/
def created : History -> Nat
  | [] => 0
  | .create :: past => created past + 1
  | .enclose _ :: past => created past + 1
  | .share _ :: past => created past
  | .bind _ _ _ :: past => created past

/-- The scope of each handle. -/
def handles : History -> List ScopeId
  | [] => []
  | .create :: past => handles past ++ [created past]
  | .enclose _ :: past => handles past ++ [created past]
  | .share handle :: past => handles past ++ (handles past)[handle]?.toList
  | .bind _ _ _ :: past => handles past

/-- Every action goes through a handle obtained before. -/
def Valid : History -> Prop
  | [] => True
  | .create :: past => Valid past
  | .enclose handle :: past => handle < (handles past).length ∧ Valid past
  | .share handle :: past => handle < (handles past).length ∧ Valid past
  | .bind handle _ _ :: past => handle < (handles past).length ∧ Valid past

/-- The scope that encloses a scope since its creation. -/
def outer? : History -> ScopeId -> Option ScopeId
  | [], _ => none
  | .create :: past, id => outer? past id
  | .enclose handle :: past, id =>
      if id = created past then (handles past)[handle]? else outer? past id
  | .share _ :: past, id => outer? past id
  | .bind _ _ _ :: past, id => outer? past id

/-- The names and values set in a scope through whatever handle, the latest one
first. -/
def sets : History -> ScopeId -> List (String × Value)
  | [], _ => []
  | .create :: past, id => sets past id
  | .enclose _ :: past, id => sets past id
  | .share _ :: past, id => sets past id
  | .bind handle name value :: past, id =>
      if (handles past)[handle]? = some id then (name, value) :: sets past id
      else sets past id

/-- The names ever set in a scope. -/
def names (history : History) (id : ScopeId) : Finset String :=
  ((history.sets id).map Prod.fst).toFinset

/-- A value is the one that a name was last set to in a scope. -/
def LastSet
    (history : History)
    (id : ScopeId)
    (name : String)
    (value : Value) : Prop :=
  ∃ later earlier, history.sets id = later ++ (name, value) :: earlier ∧
    name ∉ later.map Prod.fst

/-- A name was never set in any of some scopes. -/
def Unset (history : History) (chain : List ScopeId) (name : String) : Prop :=
  ∀ scope ∈ chain, name ∉ history.names scope

instance (history : History) (chain : List ScopeId) (name : String) :
    Decidable (history.Unset chain name) :=
  inferInstanceAs (Decidable (∀ scope ∈ chain, name ∉ history.names scope))

/-- A value is the one that a name was last set to in the first of some scopes in
which it was ever set. -/
def NearestSet
    (history : History)
    (chain : List ScopeId)
    (name : String)
    (value : Value) : Prop :=
  ∃ inner scope outer, chain = inner ++ scope :: outer ∧
    history.LastSet scope name value ∧ history.Unset inner name

/-- The scopes from one scope outwards. -/
inductive Chain (history : History) : ScopeId -> List ScopeId -> Prop
  | outermost {id : ScopeId} :
      history.outer? id = none -> Chain history id [id]
  | enclosed {id outer : ScopeId} {chain : List ScopeId} :
      history.outer? id = some outer -> Chain history outer chain ->
        Chain history id (id :: chain)

/-- A scope has one chain. -/
theorem Chain.unique
    {history : History}
    {id : ScopeId}
    {left right : List ScopeId}
    (leftChain : Chain history id left)
    (rightChain : Chain history id right) :
    left = right := by
  induction leftChain generalizing right with
  | outermost outermost =>
      cases rightChain with
      | outermost => rfl
      | enclosed enclosed => cases outermost.symm.trans enclosed
  | enclosed enclosed _ inductionHypothesis =>
      cases rightChain with
      | outermost outermost => cases enclosed.symm.trans outermost
      | enclosed rightEnclosed rest =>
          cases enclosed.symm.trans rightEnclosed
          rw [inductionHypothesis rest]

/-- The scopes from one scope outwards are those of its chain. -/
theorem Chain.iff_eq
    {history : History}
    {id : ScopeId}
    {chain : List ScopeId}
    (isChain : Chain history id chain)
    (other : List ScopeId) :
    Chain history id other ↔ other = chain := by
  constructor
  · intro otherChain
    exact otherChain.unique isChain
  · rintro rfl
    exact isChain

/-- Handles stand for scopes that were created. -/
theorem lt_created_of_handle
    {history : History}
    {handle : Nat}
    {id : ScopeId}
    (obtained : history.handles[handle]? = some id) :
    id < history.created := by
  have member := List.mem_of_getElem? obtained
  clear obtained
  induction history with
  | nil => cases member
  | cons action past inductionHypothesis =>
      cases action with
      | create | enclose =>
          simp only [handles, created, List.mem_append, List.mem_singleton]
            at member ⊢
          rcases member with old | rfl
          · exact Nat.lt_succ_of_lt (inductionHypothesis old)
          · exact Nat.lt_succ_self _
      | share shared =>
          simp only [handles, List.mem_append, Option.mem_toList] at member
          rcases member with old | copied
          · exact inductionHypothesis old
          · exact inductionHypothesis (List.mem_of_getElem? copied)
      | bind => exact inductionHypothesis member

/-- Nothing was set in a scope that is not there. -/
theorem sets_eq_nil
    {history : History}
    {id : ScopeId}
    (absent : history.created ≤ id) :
    history.sets id = [] := by
  induction history with
  | nil => rfl
  | cons action past inductionHypothesis =>
      cases action with
      | create | enclose =>
          unfold created at absent
          unfold sets
          apply inductionHypothesis
          omega
      | share => exact inductionHypothesis absent
      | bind handle name value =>
          unfold created at absent
          have notHeld : ¬(handles past)[handle]? = some id := by
            intro obtained
            have present := lt_created_of_handle obtained
            exact Nat.not_le_of_lt present absent
          rw [sets, if_neg notHeld]
          exact inductionHypothesis absent

/-- A scope that is not there is not enclosed. -/
theorem outer?_eq_none
    {history : History}
    {id : ScopeId}
    (absent : history.created ≤ id) :
    history.outer? id = none := by
  induction history with
  | nil => rfl
  | cons action past inductionHypothesis =>
      cases action with
      | create =>
          unfold created at absent
          unfold outer?
          apply inductionHypothesis
          omega
      | share | bind => exact inductionHypothesis absent
      | enclose handle =>
          unfold created at absent
          have notLast : id ≠ created past := Nat.ne_of_gt absent
          rw [outer?, if_neg notLast]
          apply inductionHypothesis
          omega

/-- The scope that a history describes. -/
def scope (history : History) (id : ScopeId) : Scope where
  bindings := Table.empty.insertAll (history.sets id).reverse
  outer := history.outer? id

/-- A name is bound to what it was last set to. -/
theorem get?_bindings_scope
    (history : History)
    (id : ScopeId)
    (name : String) :
    (history.scope id).bindings.get? name =
      Table.find? (history.sets id) name := by
  change (Table.empty.insertAll _).get? name = _
  rw [Table.get?_insertAll, List.reverse_reverse, Table.get?_empty,
    Option.or_none]

/-- The size of a scope counts the names that were set in it. -/
theorem size_bindings_scope
    (history : History)
    (id : ScopeId) :
    (history.scope id).bindings.size = (history.names id).card := by
  change (Table.empty.insertAll _).size = _
  rw [Table.size_insertAll_empty, List.map_reverse, List.toFinset_reverse]
  rfl

/-- A scope without sets and without an outer scope is new. -/
theorem scope_eq_of_created_le
    {history : History}
    {id : ScopeId}
    (absent : history.created ≤ id) :
    history.scope id = {} := by
  unfold scope
  rw [sets_eq_nil absent, outer?_eq_none absent]
  rfl

theorem scope_bind
    {past : History}
    {handle : Nat}
    {id : ScopeId}
    (obtained : past.handles[handle]? = some id)
    (name : String)
    (value : Value) :
    History.scope (.bind handle name value :: past) id =
      (past.scope id).bind name value := by
  simp only [scope, sets, obtained, if_true, List.reverse_cons,
    Table.insertAll_append]
  rfl

end History

/-! ## The heap that a history describes -/

/-- The handles and the heap are those that the history describes. -/
structure Represents (history : History) (held : Held) : Prop where
  handles_eq : held.handles = history.handles
  size_eq : held.scopes.size = history.created
  get?_eq :
    ∀ id < history.created, held.scopes.get? id = some (history.scope id)

namespace Represents

theorem create
    {past : History}
    {held : Held}
    (represents : Represents past held) :
    Represents (.create :: past) (held.act .create) where
  handles_eq := by
    change held.handles ++ [held.scopes.size] = _
    rw [represents.handles_eq, represents.size_eq]
    rfl
  size_eq := by
    change held.scopes.create.2.size = _
    rw [size_create, represents.size_eq]
    rfl
  get?_eq := by
    intro id created
    change held.scopes.create.2.get? id = _
    rw [get?_create, represents.size_eq]
    split
    next fresh =>
      have absent : past.created ≤ id := Nat.le_of_eq fresh.symm
      exact congrArg some (History.scope_eq_of_created_le absent).symm
    next old =>
      apply represents.get?_eq
      exact Nat.lt_of_le_of_ne (Nat.le_of_lt_succ created) old

theorem enclose
    {past : History}
    {held : Held}
    (represents : Represents past held)
    {handle : Nat}
    (taken : handle < past.handles.length) :
    Represents (.enclose handle :: past) (held.act (.enclose handle)) := by
  have obtained := List.getElem?_eq_getElem taken
  generalize past.handles[handle] = outer at obtained
  have outerExists : outer < held.scopes.size := by
    rw [represents.size_eq]
    exact History.lt_created_of_handle obtained
  have acted : held.act (.enclose handle) =
      { scopes := (held.scopes.enclose outer).2
        handles := held.handles ++ [(held.scopes.enclose outer).1] } := by
    simp only [Held.act, represents.handles_eq, obtained]
  rw [acted]
  constructor
  case handles_eq =>
    change held.handles ++ [(held.scopes.enclose outer).1] = _
    rw [enclose_id outerExists, represents.handles_eq, represents.size_eq]
    rfl
  case size_eq =>
    change (held.scopes.enclose outer).2.size = _
    rw [size_enclose outerExists, represents.size_eq]
    rfl
  case get?_eq =>
    intro id created
    change (held.scopes.enclose outer).2.get? id = _
    rw [get?_enclose outerExists, represents.size_eq]
    split
    next fresh =>
      simp only [History.scope, History.sets, History.outer?, fresh, if_true,
        obtained, History.sets_eq_nil (Nat.le_refl past.created)]
      rfl
    next old =>
      have earlier := Nat.lt_of_le_of_ne (Nat.le_of_lt_succ created) old
      rw [represents.get?_eq id earlier]
      simp only [History.scope, History.sets, History.outer?, old, if_false]

theorem share
    {past : History}
    {held : Held}
    (represents : Represents past held)
    {handle : Nat}
    (taken : handle < past.handles.length) :
    Represents (.share handle :: past) (held.act (.share handle)) := by
  have obtained := List.getElem?_eq_getElem taken
  generalize past.handles[handle] = id at obtained
  have acted : held.act (.share handle) =
      { held with handles := held.handles ++ [id] } := by
    simp only [Held.act, represents.handles_eq, obtained]
  rw [acted]
  constructor
  case handles_eq =>
    simp only [History.handles, represents.handles_eq, obtained,
      Option.toList_some]
  case size_eq => exact represents.size_eq
  case get?_eq => exact represents.get?_eq

theorem bind
    {past : History}
    {held : Held}
    (represents : Represents past held)
    {handle : Nat}
    (taken : handle < past.handles.length)
    (name : String)
    (value : Value) :
    Represents (.bind handle name value :: past)
      (held.act (.bind handle name value)) := by
  have obtained := List.getElem?_eq_getElem taken
  generalize past.handles[handle] = target at obtained
  have acted : held.act (.bind handle name value) =
      { held with scopes := held.scopes.bind target name value } := by
    simp only [Held.act, represents.handles_eq, obtained]
  rw [acted]
  constructor
  case handles_eq => exact represents.handles_eq
  case size_eq =>
    change (held.scopes.bind target name value).size = _
    rw [size_bind, represents.size_eq]
    rfl
  case get?_eq =>
    intro id created
    change (held.scopes.bind target name value).get? id = _
    rw [get?_bind, represents.get?_eq id created]
    split
    next same =>
      subst same
      exact congrArg some (History.scope_bind obtained name value).symm
    next other =>
      simp only [History.scope, History.sets, History.outer?, obtained,
        Option.some.injEq, other, if_false]

/-- After a valid history the heap is the one it describes. -/
theorem run
    {history : History}
    (valid : history.Valid) :
    Represents history (Held.run history) := by
  induction history with
  | nil =>
      refine ⟨rfl, rfl, ?_⟩
      intro id created
      exact absurd created (Nat.not_lt_zero id)
  | cons action past inductionHypothesis =>
      cases action with
      | create => exact (inductionHypothesis valid).create
      | enclose handle =>
          exact (inductionHypothesis valid.2).enclose valid.1
      | share handle => exact (inductionHypothesis valid.2).share valid.1
      | bind handle name value =>
          exact (inductionHypothesis valid.2).bind valid.1 name value

/-- Outer scopes were created before the scopes that they enclose. -/
theorem outer_lt
    {history : History}
    {held : Held}
    (represents : Represents history held)
    {id outer : ScopeId}
    (created : id < history.created)
    (enclosed : history.outer? id = some outer) :
    outer < id :=
  held.scopes.outer_lt id _ outer (represents.get?_eq id created) enclosed

/-- Every chain of scopes ends. -/
theorem exists_chain
    {history : History}
    {held : Held}
    (represents : Represents history held)
    (id : ScopeId)
    (created : id < history.created) :
    ∃ chain, history.Chain id chain := by
  induction id using Nat.strong_induction_on with
  | h id inductionHypothesis =>
      cases enclosed : history.outer? id with
      | none => exact ⟨[id], .outermost enclosed⟩
      | some outer =>
          have smaller := represents.outer_lt created enclosed
          obtain ⟨chain, isChain⟩ :=
            inductionHypothesis outer smaller (smaller.trans created)
          exact ⟨id :: chain, .enclosed enclosed isChain⟩

/-- Lookup follows the chain until it comes to a scope in which the name was
set. -/
theorem lookup_eq_findSome?
    {history : History}
    {held : Held}
    (represents : Represents history held)
    {id : ScopeId}
    {chain : List ScopeId}
    (isChain : history.Chain id chain)
    (created : id < history.created)
    (name : String) :
    held.scopes.lookup id name =
      chain.findSome? fun scope => Table.find? (history.sets scope) name := by
  induction isChain with
  | @outermost id outermost =>
      rw [lookup_eq, represents.get?_eq id created, Option.bind_some,
        History.get?_bindings_scope]
      change (Table.find? (history.sets id) name).or
        ((history.outer? id).bind _) = _
      rw [outermost]
      simp
  | @enclosed id outer chain enclosed _ inductionHypothesis =>
      have smaller := represents.outer_lt created enclosed
      rw [lookup_eq, represents.get?_eq id created, Option.bind_some,
        History.get?_bindings_scope]
      change (Table.find? (history.sets id) name).or
        ((history.outer? id).bind _) = _
      rw [enclosed, Option.bind_some,
        inductionHypothesis (smaller.trans created), List.findSome?_cons]
      cases Table.find? (history.sets id) name <;> rfl

end Represents

/-! ## Lookup -/

theorem History.find?_sets_eq_some_iff
    (history : History)
    (id : ScopeId)
    (name : String)
    (value : Value) :
    Table.find? (history.sets id) name = some value ↔
      history.LastSet id name value :=
  Table.find?_eq_some_iff _ _ _

theorem History.find?_sets_eq_none_iff
    (history : History)
    (id : ScopeId)
    (name : String) :
    Table.find? (history.sets id) name = none ↔ name ∉ history.names id := by
  rw [Table.find?_eq_none_iff, names, List.mem_toFinset]

namespace Represents

variable
  {history : History}
  {held : Held}
  {id : ScopeId}
  {chain : List ScopeId}

theorem lookup_eq_some_iff
    (represents : Represents history held)
    (isChain : history.Chain id chain)
    (created : id < history.created)
    (name : String)
    (value : Value) :
    held.scopes.lookup id name = some value ↔
      history.NearestSet chain name value := by
  rw [represents.lookup_eq_findSome? isChain created,
    List.findSome?_eq_some_iff]
  simp only [History.find?_sets_eq_some_iff, History.find?_sets_eq_none_iff]
  rfl

theorem lookup_eq_none_iff
    (represents : Represents history held)
    (isChain : history.Chain id chain)
    (created : id < history.created)
    (name : String) :
    held.scopes.lookup id name = none ↔ history.Unset chain name := by
  rw [represents.lookup_eq_findSome? isChain created,
    List.findSome?_eq_none_iff]
  simp only [History.find?_sets_eq_none_iff]
  rfl

end Represents

/-- After any valid history, a handle stands for the scope that the history
says, and from there one chain of scopes leads outwards. Lookup answers with the
value that the name was last set to in the nearest scope of the chain in which
it was ever set, and with nothing exactly when it was set in no scope of the
chain. The size of the scope is the number of names ever set in it. -/
theorem lookup_after_history
    {history : History}
    (valid : history.Valid)
    {handle : Nat}
    {id : ScopeId}
    (obtained : history.handles[handle]? = some id) :
    (Held.run history).handles[handle]? = some id ∧
      ∃ chain, (∀ other, history.Chain id other ↔ other = chain) ∧
        (∀ name value,
          (Held.run history).scopes.lookup id name = some value ↔
            history.NearestSet chain name value) ∧
        (∀ name,
          (Held.run history).scopes.lookup id name = none ↔
            history.Unset chain name) ∧
        ((Held.run history).scopes.scope id).bindings.size =
          (history.names id).card := by
  have represents := Represents.run valid
  have created := History.lt_created_of_handle obtained
  obtain ⟨chain, isChain⟩ := represents.exists_chain id created
  refine ⟨by rw [represents.handles_eq, obtained], chain, isChain.iff_eq,
    represents.lookup_eq_some_iff isChain created,
    represents.lookup_eq_none_iff isChain created, ?_⟩
  rw [Scopes.scope, represents.get?_eq id created, Option.getD_some]
  exact History.size_bindings_scope history id

end Scopes
end

namespace Scopes

/-- A closure is bound in the scope that it captured, and the outer scope is set
through a copied handle while the inner one is in use. -/
theorem lookup_after_interleaved_sets :
    let recursive : Value := .closure ⟨[], .int 0, 0, 0⟩
    let history : History :=
      [.bind 2 "x" (.int 3), .share 0, .bind 1 "f" .null,
        .bind 0 "f" recursive, .enclose 0, .bind 0 "x" (.int 1), .create]
    history.Valid ∧ history.handles[1]? = some 1 ∧
      (Held.run history).scopes.lookup 1 "x" = some (.int 3) ∧
      (Held.run history).scopes.lookup 1 "y" = none ∧
      ((Held.run history).scopes.scope 1).bindings.size = 1 := by
  intro recursive history
  have valid : history.Valid := by
    simp [history, History.Valid, History.handles]
  have obtained : history.handles[1]? = some 1 := rfl
  obtain ⟨_, chain, chains, found, missing, size⟩ :=
    lookup_after_history valid obtained
  obtain rfl : [1, 0] = chain :=
    (chains [1, 0]).mp (.enclosed rfl (.outermost rfl))
  refine ⟨valid, obtained, ?_, ?_, ?_⟩
  · refine (found "x" (.int 3)).mpr ⟨[1], 0, [], rfl, ?_, by decide⟩
    exact ⟨[], _, rfl, List.not_mem_nil⟩
  · exact (missing "y").mpr (by decide)
  · rw [size]
    decide

end Scopes
end Monkey
