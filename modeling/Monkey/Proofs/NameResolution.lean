import Mathlib
import Monkey.Proofs.ArrayWalk
import Monkey.Proofs.HashConstruction
import Monkey.Proofs.ScopeHistory
import Monkey.Session.Step

/-!
# Resolving names

A name stands for its nearest binding around a scope, whatever value is bound, and
else for the builtin of the prelude that has the name. A program comes by a builtin
in several ways: by asking whether there is one, by looking it up as a value, by
calling it by name, or by taking the value out of the variable, array or hash in
which it was kept. The prelude lists its names in one place and the operations under
them in another, and all these ways agree because both list the same names.
-/

namespace Monkey

section

variable [Embedding]

/-! ## The prelude -/

namespace Prelude

/-- The builtins, filed under their names one after the other. -/
def registered : Table String Builtin :=
  Table.empty.insertAll
    (operations.map fun entry => (entry.1, ⟨entry.1, entry.2⟩))

/-- The listed names are those of the operations. -/
theorem names_eq : names = operations.map Prod.fst := rfl

/-- A builtin is found under a name as it was filed. -/
theorem get?_registered (name : String) :
    registered.get? name = get? name := by
  have nodup : ((operations.map fun entry =>
      (entry.1, Builtin.mk entry.1 entry.2)).map Prod.fst).Nodup :=
    nodup_names
  rw [registered, Table.get?_insertAll, Table.get?_empty, Option.or_none,
    ← Table.find?_perm nodup (List.reverse_perm _).symm]
  exact Table.find?_map_under_key Builtin.mk operations name

theorem isSome_get?_iff (name : String) :
    (get? name).isSome ↔ name ∈ names := by
  rw [get?, Option.isSome_map, Option.isSome_iff_ne_none, ne_eq,
    Table.find?_eq_none_iff, not_not, names_eq]

theorem name_of_get?
    {name : String}
    {builtin : Builtin}
    (found : get? name = some builtin) :
    builtin.name = name := by
  obtain ⟨operation, _, rfl⟩ := Option.map_eq_some_iff.mp found
  rfl

section Calls

variable (σ : Type) [KeySource σ] [LineSink σ] [HostCalls σ]

/-- A call by name is a call of the builtin with the name. -/
theorem call_of_get?
    {name : String}
    {builtin : Builtin}
    (found : get? name = some builtin)
    (arguments : List Value) :
    (call name arguments : StateM σ (Option Value)) =
      some <$> builtin.call arguments := by
  rw [call, found]

/-- Without a builtin of the name nothing is called. -/
theorem call_of_not_mem
    {name : String}
    (absent : name ∉ names)
    (arguments : List Value) :
    (call name arguments : StateM σ (Option Value)) = pure none := by
  rw [← isSome_get?_iff, Option.not_isSome_iff_eq_none] at absent
  rw [call, absent]

/-- However the prelude is asked for a name, it has a builtin of that name exactly
when the name is listed. -/
structure PresentAlike (name : String) : Prop where
  contains_iff : contains name = true ↔ name ∈ names
  get?_iff : (get? name).isSome ↔ name ∈ names
  registered_eq : registered.get? name = get? name
  lookup_iff : (lookup name).isSome ↔ name ∈ names
  call_iff :
    ∀ (arguments : List Value) (state : σ),
      ((call name arguments).run state).1.isSome ↔ name ∈ names

theorem presentAlike (name : String) : PresentAlike σ name where
  contains_iff := isSome_get?_iff name
  get?_iff := isSome_get?_iff name
  registered_eq := get?_registered name
  lookup_iff := by
    rw [lookup, Option.isSome_map, isSome_get?_iff]
  call_iff := by
    intro arguments state
    by_cases listed : name ∈ names
    · obtain ⟨builtin, found⟩ :=
        Option.isSome_iff_exists.mp ((isSome_get?_iff name).mpr listed)
      rw [call_of_get? σ found, StateT.run_map]
      exact iff_of_true rfl listed
    · rw [call_of_not_mem σ listed]
      exact iff_of_false nofun listed

/-- A value is the builtin of a name: it carries the name, and calling it is the
same computation as calling the builtin by name, with one result and one state
afterwards, the lines that were written included. -/
def Provides (name : String) (value : Value) : Prop :=
  ∃ builtin, value = .builtin builtin ∧ builtin.name = name ∧
    ∀ arguments,
      (call name arguments : StateM σ (Option Value)) =
        some <$> builtin.call arguments

theorem provides_of_lookup
    {name : String}
    {value : Value}
    (found : lookup name = some value) :
    Provides σ name value := by
  obtain ⟨builtin, builtinFound, rfl⟩ := Option.map_eq_some_iff.mp found
  exact ⟨builtin, rfl, name_of_get? builtinFound,
    call_of_get? σ builtinFound⟩

end Calls
end Prelude

/-! ## Taking values out of collections -/

namespace Walk

variable {σ : Type} [KeySource σ] [LineSink σ] [HostCalls σ]

/-- Take an item out of an array as programs do: drop the items in front of it and
take the first of what is left. -/
def itemAt (place : Nat) (array : Value) : OptionT (StateM σ) Value := do
  let others <- dropFirsts place array
  Prelude.invoke "first" [others]

theorem itemAt_array
    {items : List Value}
    {place : Nat}
    {item : Value}
    (kept : items[place]? = some item) :
    (itemAt place (.array items) : OptionT (StateM σ) Value) = pure item := by
  have enough : place < items.length :=
    (List.getElem?_eq_some_iff.mp kept).choose
  rw [itemAt, dropFirsts_of_le enough.le, pure_bind, invoke_first,
    List.head?_drop, kept, Option.getD_some]

end Walk

/-- A hash is built of pairs whose keys are all hashable, and it gives back the
value of the last pair under a key. -/
theorem Hash.answers_lookup_of_lastPair
    {σ : Type}
    [KeySource σ]
    [LawfulKeySource σ]
    {known : Set Text}
    {pairs : List (Value × Value)}
    (keysKnown : ∀ pair ∈ pairs, pair.1.Known known)
    (hashable : ∀ pair ∈ pairs, pair.1.kind.isHashable = true)
    {key original value : Value}
    {structural : Key}
    (keyKnown : key.Known known)
    (keyEq : key.key? = some structural)
    (last : LastPair pairs structural (original, value)) :
    ∃ hash,
      Answers known (Hash.ofPairs pairs : Filing σ Hash).run (.ok hash) ∧
        Answers known (Hash.lookup hash key : StateM σ (Option Value))
          (some value) := by
  have built := answers_ofPairs (σ := σ) keysKnown
  rcases filedPairs_spec pairs with
    ⟨hash, associates, _, accepted⟩ | ⟨rejected, first, _⟩
  · have read := answers_lookup (σ := σ) hash keyKnown
    have found := (associates.bind_key?_eq_some_iff key value).mpr
      ⟨structural, original, keyEq, last⟩
    rw [accepted] at built
    rw [found] at read
    exact ⟨hash, built, read⟩
  · obtain ⟨front, element, back, split, _, notHashable, _⟩ := first
    have member : element ∈ pairs.map Prod.fst := by simp [split]
    obtain ⟨pair, pairMember, rfl⟩ := List.mem_map.mp member
    simp [hashable pair pairMember] at notHashable

/-! ## Scopes -/

namespace Scopes

/-- A name resolves to a builtin only where nothing is bound to it. -/
theorem resolve_eq_some_iff
    (scopes : Scopes)
    (id : ScopeId)
    (name : String)
    (value : Value) :
    scopes.resolve id name = some value ↔
      scopes.lookup id name = some value ∨
        scopes.lookup id name = none ∧ Prelude.lookup name = some value :=
  Option.or_eq_some_iff

theorem resolve_eq_none_iff
    (scopes : Scopes)
    (id : ScopeId)
    (name : String) :
    scopes.resolve id name = none ↔
      scopes.lookup id name = none ∧ name ∉ Prelude.names := by
  rw [resolve, Option.or_eq_none_iff, Prelude.lookup, Option.map_eq_none_iff,
    ← Prelude.isSome_get?_iff, Option.not_isSome_iff_eq_none]

end Scopes

/-! ## All routes -/

open Scopes

/-- Every route to a builtin agrees. After any valid history, a name resolves from a
handle to the value that it was last set to in the nearest scope around the handle in
which it was ever set; else to the builtin of the prelude with the name, if there is
one; and else to nothing. There is one exactly for the listed names, whether the
prelude is asked for its presence, for the builtin, for the builtin as a value or for
a call. The value found carries the name, and calling it is the same as calling by
name, for every sink and all arguments. It is the same value that is read back from
whatever variable, array or hash it was kept in. -/
theorem every_route_to_a_builtin_agrees
    (σ : Type)
    [KeySource σ]
    [LineSink σ]
    [HostCalls σ]
    [LawfulKeySource σ]
    (known : Set Text)
    {history : History}
    (valid : history.Valid)
    {handle : Nat}
    {id : ScopeId}
    (obtained : history.handles[handle]? = some id) :
    let scopes := (Held.run history).scopes
    (Held.run history).handles[handle]? = some id ∧
    (∃ chain, (∀ other, history.Chain id other ↔ other = chain) ∧
      ∀ name,
        (∀ value, scopes.resolve id name = some value ↔
          history.NearestSet chain name value ∨
            history.Unset chain name ∧ Prelude.lookup name = some value) ∧
        (scopes.resolve id name = none ↔
          history.Unset chain name ∧ name ∉ Prelude.names) ∧
        ∀ value, history.NearestSet chain name value ->
          scopes.lookup id name = some value) ∧
    ∀ name,
      Prelude.PresentAlike σ name ∧
      ∀ value, Prelude.lookup name = some value ->
        Prelude.Provides σ name value ∧
        (∀ (items : List Value) (place : Nat),
          items[place]? = some value ->
            (Walk.itemAt place (.array items) : OptionT (StateM σ) Value) =
              pure value) ∧
        ∀ (pairs : List (Value × Value)) (key original : Value)
          (structural : Key),
          (∀ pair ∈ pairs, pair.1.Known known) ->
          (∀ pair ∈ pairs, pair.1.kind.isHashable = true) ->
          key.Known known -> key.key? = some structural ->
          LastPair pairs structural (original, value) ->
            ∃ hash,
              Answers known (Hash.ofPairs pairs : Filing σ Hash).run
                (.ok hash) ∧
              Answers known (Hash.lookup hash key : StateM σ (Option Value))
                (some value) := by
  intro scopes
  have represents := Represents.run valid
  have created := History.lt_created_of_handle obtained
  obtain ⟨chain, isChain⟩ := represents.exists_chain id created
  refine ⟨by rw [represents.handles_eq, obtained],
    ⟨chain, isChain.iff_eq, ?_⟩, ?_⟩
  · intro name
    have bound := represents.lookup_eq_some_iff isChain created name
    have unbound := represents.lookup_eq_none_iff isChain created name
    refine ⟨?_, ?_, fun value => (bound value).mpr⟩
    · intro value
      rw [resolve_eq_some_iff, bound, unbound]
    · rw [resolve_eq_none_iff, unbound]
  · intro name
    refine ⟨Prelude.presentAlike σ name, ?_⟩
    intro value found
    refine ⟨Prelude.provides_of_lookup σ found, ?_, ?_⟩
    · intro items place kept
      exact Walk.itemAt_array kept
    · intro pairs key original structural keysKnown hashable keyKnown keyEq last
      exact Hash.answers_lookup_of_lastPair keysKnown hashable keyKnown keyEq
        last

end

open Scopes

/-- A variable set to null hides the builtin of its name from an inner scope, and
another variable, an array and a hash give back a builtin that was kept in them. -/
theorem every_route_to_a_builtin_agrees_where_null_is_bound :
    let puts : Value := .builtin ⟨"puts", .puts⟩
    let history : History :=
      [.bind 0 "print" puts, .enclose 0, .bind 0 "len" .null, .create]
    let scopes := (Held.run history).scopes
    let key : Text := ⟨0, "print"⟩
    let pairs : List (Value × Value) :=
      [(.text key, .null), (.bool true, .null), (.text key, puts)]
    history.Valid ∧ history.handles[1]? = some 1 ∧
      Faithful {key} ({} : Memo) ∧
      scopes.resolve 1 "len" = some .null ∧
      scopes.resolve 1 "puts" = some puts ∧
      scopes.lookup 1 "print" = some puts ∧
      scopes.resolve 1 "map" = none ∧
      Prelude.PresentAlike (Session Memo) "map" ∧
      Prelude.Provides (Session Memo) "puts" puts ∧
      (Walk.itemAt 1 (.array [.null, puts]) :
        OptionT (StateM (Session Memo)) Value) = pure puts ∧
      ∃ hash,
        Answers {key} (Hash.ofPairs pairs : Filing (Session Memo) Hash).run
          (.ok hash) ∧
        Answers {key}
          (Hash.lookup hash (.text key) : StateM (Session Memo) (Option Value))
          (some puts) := by
  intro puts history scopes key pairs
  have valid : history.Valid := by
    simp [history, History.Valid, History.handles]
  have obtained : history.handles[1]? = some 1 := rfl
  have faithful : Faithful {key} ({} : Memo) :=
    Memo.faithful_of_distinct_cells [key] (by simp) (List.nodup_singleton _)
  obtain ⟨_, ⟨chain, chains, resolved⟩, found⟩ :=
    every_route_to_a_builtin_agrees (Session Memo) {key} valid obtained
  obtain rfl : [1, 0] = chain :=
    (chains [1, 0]).mp (.enclosed rfl (.outermost rfl))
  obtain ⟨provided, items, lastPairs⟩ := (found "puts").2 puts rfl
  refine ⟨valid, obtained, faithful, ?_, ?_, ?_, ?_, (found "map").1, provided,
    items [.null, puts] 1 rfl, ?_⟩
  · refine ((resolved "len").1 .null).mpr (.inl ⟨[1], 0, [], rfl, ?_, ?_⟩)
    · exact ⟨[("print", puts)], [], rfl, by decide⟩
    · decide
  · exact ((resolved "puts").1 puts).mpr (.inr ⟨by decide, rfl⟩)
  · refine (resolved "print").2.2 puts ⟨[1], 0, [], rfl, ?_, by decide⟩
    exact ⟨[], [("len", .null)], rfl, List.not_mem_nil⟩
  · exact (resolved "map").2.1.mpr (by decide)
  · refine lastPairs pairs (.text key) (.text key) (.ofString "print") ?_ ?_ rfl
      rfl ⟨[_, _], [], rfl, rfl, List.forall_mem_nil _⟩
    · simp [pairs, Value.Known, Atom.Known]
    · simp [pairs, Value.kind, Atom.kind, Kind.isHashable]

end Monkey
