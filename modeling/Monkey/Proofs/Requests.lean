import Monkey.Proofs.Events
import Monkey.Proofs.HashConstruction
import Monkey.Proofs.Ledger
import Mathlib.Data.List.TakeWhile

/-!
# What operations ask for

Each operation over covered values asks for the keys that its event says, in this
order, and returns values that are covered once these keys were asked for. What
it returns is the same whichever lawful source gives the keys.
-/

namespace Monkey

variable [Embedding]

/-! ## Texts filed together -/

/-- All texts among hashable values are asked for. -/
theorem Value.mem_requestedInOrder
    {atoms : List Atom}
    {text : Text}
    (member : .text text ∈ atoms) :
    text ∈ requestedInOrder (atoms.map .atom) := by
  have hashable : ∀ value ∈ atoms.map Value.atom,
      value.kind.isHashable = true := by
    intro value valueMember
    obtain ⟨atom, _, rfl⟩ := List.mem_map.mp valueMember
    cases atom <;> rfl
  rw [requestedInOrder, List.takeWhile_eq_self_iff.mpr hashable]
  exact List.mem_filterMap.mpr ⟨.text text, List.mem_map_of_mem member, rfl⟩

namespace Ledger

variable {ledger now later : Ledger} {texts : List Text}

omit [Embedding] in
/-- Growing by the requests for some values makes them requested. -/
theorem Grows.requested_of_mem
    (grows : now.Grows texts later)
    {atom : Atom}
    (asked : ∀ text, atom = .text text -> text ∈ texts) :
    later.Requested atom := by
  intro text isText
  rw [grows.requested]
  exact List.mem_append_right _ (asked text isText)

/-! ## Covered collections -/

namespace Covers

variable {members added : MemberSet} {value : Value}

/-- A covered set is covered after filing atoms that were asked for. -/
theorem fileAll
    (covered : ledger.Covers (.set members))
    {atoms : List Atom}
    (requested : ∀ atom ∈ atoms, ledger.Requested atom) :
    ledger.Covers (.set (members.fileAll id atoms)) := by
  cases covered with
  | set membersRequested =>
      refine .set fun entry member => ?_
      rcases Table.mem_of_mem_fileAll member with filed | old
      · exact requested entry.2 filed
      · exact membersRequested entry old

theorem union
    (covered : ledger.Covers (.set members))
    (addedCovered : ledger.Covers (.set added)) :
    ledger.Covers (.set (members.union added)) := by
  cases covered with
  | set membersRequested =>
      cases addedCovered with
      | set addedRequested =>
          refine .set fun entry member => ?_
          rw [MemberSet.union, Table.merge_eq_insertAll] at member
          rcases Table.mem_entries_insertAll member with inserted | old
          · exact addedRequested entry inserted
          · exact membersRequested entry old

theorem empty : ledger.Covers (.set Table.empty) :=
  .set fun _ member => nomatch member

/-- A hash of atoms that were asked for and covered values is covered. -/
theorem ofEntries
    {entries : List (Atom × Value)}
    (requested : ∀ entry ∈ entries, ledger.Requested entry.1)
    (covered : ∀ entry ∈ entries, ledger.Covers entry.2) :
    ledger.Covers (.hash (Table.empty.fileAll Prod.fst entries)) := by
  have filed {entry : Key × Atom × Value}
      (member : entry ∈ (Table.empty.fileAll Prod.fst entries).entries) :
      entry.2 ∈ entries := by
    rcases Table.mem_of_mem_fileAll member with inserted | old
    · exact inserted
    · cases old
  exact .hash (fun entry member => requested _ (filed member))
    (fun entry member => covered _ (filed member))

end Covers

/-- What a ledger covers stays covered from the whole to its parts and back. -/
theorem hereditary_covers (ledger : Ledger) :
    Value.Hereditary ledger.Covers where
  int _ := .atom trivial
  bool _ := .atom trivial
  null := .null
  failure := .failure
  returned_iff _ := ⟨fun | .returned covered => covered, .returned⟩
  array_iff _ := ⟨fun | .array covered => covered, .array⟩
  hash_values := fun | .hash _ values => values
  union := .union

/-! ## Covered lists and outcomes -/

/-- Every value of a list is covered. -/
def CoversItems (ledger : Ledger) (values : List Value) : Prop :=
  ∀ value ∈ values, ledger.Covers value

/-- Both values of every pair of a list are covered. -/
def CoversPairs (ledger : Ledger) (pairs : List (Value × Value)) : Prop :=
  ∀ pair ∈ pairs, ledger.Covers pair.1 ∧ ledger.Covers pair.2

/-- If an outcome is a value, it is covered. -/
def CoversOutcome {ε : Type} (ledger : Ledger) (outcome : Except ε Value) :
    Prop :=
  ∀ value, outcome = .ok value -> ledger.Covers value

theorem Grows.coversItems
    (grows : now.Grows texts later)
    {values : List Value}
    (covered : now.CoversItems values) :
    later.CoversItems values :=
  fun value member => grows.covers (covered value member)

theorem CoversItems.known
    {values : List Value}
    (covered : ledger.CoversItems values) :
    ∀ value ∈ values, value.Known ledger.texts :=
  fun value member => (covered value member).known

/-! ## Building collections -/

/-- A set of covered elements is covered once their keys were asked for. -/
theorem Grows.covers_ofElements
    {elements : List Value}
    (grows : now.Grows (Value.requestedInOrder elements) later) :
    later.Covers (Value.ofBuilt
      ((elements.mapM Value.toAtom).map (Table.empty.fileAll id))) := by
  cases accepted : elements.mapM Value.toAtom with
  | error rejected => exact .failure _
  | ok atoms =>
      obtain rfl := (Value.mapM_toAtom_eq_ok_iff _ _).mp accepted
      refine Covers.empty.fileAll fun atom member => ?_
      apply grows.requested_of_mem
      rintro text rfl
      exact Value.mem_requestedInOrder member

/-- A set with one more element is covered once the key of that was asked for. -/
theorem Grows.covers_withElement
    {members extended : MemberSet}
    {element : Value}
    (grows : now.Grows element.asText?.toList later)
    (covered : now.Covers (.set members))
    (added : element.toAtom.map (members.file id) = .ok extended) :
    later.Covers (.set extended) := by
  cases element with
  | atom atom =>
      cases added
      change later.Covers (.set (members.fileAll id [atom]))
      refine (grows.covers covered).fileAll ?_
      refine List.forall_mem_singleton.mpr (grows.requested_of_mem ?_)
      rintro text rfl
      exact List.mem_singleton.mpr rfl
  | _ => cases added

/-- A hash of covered pairs is covered once their keys were asked for. -/
theorem Grows.covers_ofPairs
    {pairs : List (Value × Value)}
    (grows : now.Grows (Value.requestedInOrder (pairs.map Prod.fst)) later)
    (covered : now.CoversPairs pairs) :
    later.Covers (Value.ofFiling (((pairs.mapM Value.toEntry).map
      (Table.empty.fileAll Prod.fst)).map Value.hash)) := by
  cases accepted : pairs.mapM Value.toEntry with
  | error rejected => exact .failure _
  | ok entries =>
      obtain rfl := (mapM_eq_ok_iff Value.toEntry_eq_ok_iff_ofEntry _ _).mp
        accepted
      have keys : (entries.map Value.ofEntry).map Prod.fst =
          (entries.map Prod.fst).map Value.atom := by
        rw [List.map_map, List.map_map]
        rfl
      rw [keys] at grows
      refine Covers.ofEntries (fun entry member => ?_) fun entry member => ?_
      · apply grows.requested_of_mem
        intro text isText
        apply Value.mem_requestedInOrder
        exact isText ▸ List.mem_map_of_mem member
      · exact grows.covers (covered _ (List.mem_map_of_mem member)).2

end Ledger

/-! ## Calling builtins -/

theorem asks_liftExcept
    {σ : Type}
    [KeySource σ]
    [LawfulKeySource σ]
    {known : Set Text}
    (outcome : Except Fault Value) :
    Asks known (liftExcept outcome : ExceptT Fault (StateM σ) Value).run []
      outcome := by
  cases outcome <;> exact Asks.pure _

/-- An operation extends a set: it pushes a value onto it that can be filed. -/
def Operation.Extends
    (operation : Operation)
    (arguments : List Value)
    (extended : MemberSet) : Prop :=
  operation = .push ∧ ∃ (members : MemberSet) (element : Value),
    arguments = [.set members, element] ∧
      element.toAtom.map (members.file id) = .ok extended

section Calls

variable {known : Set Text} {arguments : List Value}

/-- Pushing asks for the key of what is pushed onto a set. What it returns has
every hereditary property of the arguments that extended sets have. -/
theorem exists_asks_push
    (name : String)
    (argumentsKnown : ∀ argument ∈ arguments, argument.Known known) :
    ∃ outcome,
      (∀ (σ : Type) [KeySource σ] [LawfulKeySource σ],
        Asks known
          (Builtin.push arguments : ExceptT Fault (StateM σ) Value).run
          (Event.call ⟨name, .push⟩ arguments).requested outcome) ∧
      ∀ {holds : Value -> Prop}, Value.Hereditary holds ->
        (∀ argument ∈ arguments, holds argument) ->
          (∀ extended, Operation.Extends .push arguments extended ->
            holds (.set extended)) ->
            Yields holds outcome := by
  -- Only two arguments are accepted; then the kind of the first decides.
  match arguments with
  | [] => exact ⟨_, fun _ => Asks.pure _, fun _ _ _ => yields_error _⟩
  | [value] =>
      refine ⟨.error (.wrongArgumentCount 1 2), fun _ => ?_,
        fun _ _ _ => yields_error _⟩
      cases value <;> exact Asks.pure _
  | first :: second :: third :: rest =>
      refine ⟨.error (.wrongArgumentCount (rest.length + 3) 2), fun _ => ?_,
        fun _ _ _ => yields_error _⟩
      cases first <;> exact Asks.pure _
  | [collection, item] =>
      cases collection with
      | array items =>
          exact ⟨_, fun _ => Asks.pure _, fun hereditary hold _ =>
            yields_ok (hereditary.append hold)⟩
      | set members =>
          have itemKnown : item.Known known :=
            argumentsKnown item (.tail _ (.head _))
          refine ⟨((item.toAtom.map (members.file id)).mapError
            Unhashable.fault).map .set, fun σ _ _ => ?_, ?_⟩
          · rw [Builtin.run_push_set]
            exact (asks_withElement members itemKnown).map _
          · intro holds _ _ extendedHold
            cases added : item.toAtom.map (members.file id) with
            | error rejected => exact yields_error _
            | ok extended =>
                exact yields_ok
                  (extendedHold extended ⟨rfl, members, item, rfl, added⟩)
      | _ => exact ⟨_, fun _ => Asks.pure _, fun _ _ _ => yields_error _⟩

section Sessions

variable [HostFunctions]

/-- Whichever lawful source gives the keys, an operation without output asks for
what the event of its call says. What it returns has every hereditary property
of the arguments that extended sets have. -/
theorem exists_asks_perform
    {operation : Operation}
    (quiet : operation ≠ .puts)
    (name : String)
    (argumentsKnown : ∀ argument ∈ arguments, argument.Known known) :
    ∃ outcome,
      (∀ (κ : Type) [KeySource κ] [LawfulKeySource κ],
        Asks known
          (operation.perform arguments :
            ExceptT Fault (StateM (Session κ)) Value).run
          (Event.call ⟨name, operation⟩ arguments).requested outcome) ∧
      ∀ {holds : Value -> Prop}, Value.Hereditary holds ->
        (∀ argument ∈ arguments, holds argument) ->
          (∀ extended, operation.Extends arguments extended ->
            holds (.set extended)) ->
            Yields holds outcome := by
  cases operation with
  | len =>
      exact ⟨_, fun _ => asks_liftExcept _,
        fun hereditary _ _ => hereditary.len⟩
  | first =>
      exact ⟨_, fun _ => asks_liftExcept _,
        fun hereditary hold _ => hereditary.first hold⟩
  | last =>
      exact ⟨_, fun _ => asks_liftExcept _,
        fun hereditary hold _ => hereditary.last hold⟩
  | rest =>
      exact ⟨_, fun _ => asks_liftExcept _,
        fun hereditary hold _ => hereditary.rest hold⟩
  | push =>
      obtain ⟨outcome, asks, yields⟩ := exists_asks_push name argumentsKnown
      exact ⟨outcome, fun κ => asks (Session κ), yields⟩
  | union =>
      exact ⟨_, fun _ => asks_liftExcept _,
        fun hereditary hold _ => hereditary.unionOf hold⟩
  | puts => exact absurd rfl quiet
  | host function =>
      exact ⟨_, fun _ => Asks.pure _, fun hereditary hold _ =>
        yields_ok (hereditary.madeOf hold
          (HostFunctions.answer_madeOf function arguments))⟩

/-- Calling a builtin without output does so too. -/
theorem exists_asks_call
    {builtin : Builtin}
    (quiet : builtin.operation ≠ .puts)
    (argumentsKnown : ∀ argument ∈ arguments, argument.Known known) :
    ∃ answer,
      (∀ (κ : Type) [KeySource κ] [LawfulKeySource κ],
        Asks known (builtin.call arguments : StateM (Session κ) Value)
          (Event.call builtin arguments).requested answer) ∧
      ∀ {holds : Value -> Prop}, Value.Hereditary holds ->
        (∀ argument ∈ arguments, holds argument) ->
          (∀ extended, builtin.operation.Extends arguments extended ->
            holds (.set extended)) ->
            holds answer := by
  obtain ⟨outcome, asks, yields⟩ :=
    exists_asks_perform quiet builtin.name argumentsKnown
  cases outcome with
  | ok value =>
      exact ⟨value, fun κ => (asks κ).bind_pure rfl,
        fun hereditary hold extended =>
          yields hereditary hold extended value rfl⟩
  | error fault =>
      exact ⟨.ofFault fault, fun κ => (asks κ).bind_pure rfl,
        fun hereditary _ _ => hereditary.failure _⟩

end Sessions

/-- A set that a call extends is covered once the key was asked for. -/
theorem Ledger.Grows.covers_extended
    {now later : Ledger}
    {builtin : Builtin}
    (grows : now.Grows (Event.call builtin arguments).requested later)
    (covered : now.CoversItems arguments)
    {extended : MemberSet}
    (extension : builtin.operation.Extends arguments extended) :
    later.Covers (.set extended) := by
  obtain ⟨name, operation⟩ := builtin
  obtain ⟨rfl, members, element, rfl, added⟩ := extension
  exact grows.covers_withElement (covered _ List.mem_cons_self) added

end Calls

end Monkey
