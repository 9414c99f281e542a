import Monkey.Proofs.Filing
import Monkey.Session.Step

/-!
# Events of a run

What a run does with values, one event after the other: it asks for keys, builds
and queries collections, calls builtins, compares and renders values, and binds
and looks up names. The events of a step are read off what the step computes when
every key is computed anew. `Event.requested` says for each event which texts
have their keys asked for; it is the only place that does.
-/

namespace Monkey

variable [Embedding] [HostFunctions]

/-! ## Events -/

/-- Something that a run does with values. -/
inductive Event
  | key (value : Value)
  /-- Build a hash from pairs. -/
  | hash (pairs : List (Value × Value))
  /-- Build a set from elements. -/
  | set (elements : List Value)
  | withElement (members : MemberSet) (element : Value)
  | union (left right : MemberSet)
  | contains (members : MemberSet) (element : Value)
  /-- Look a key up in a hash. -/
  | hashGet (pairs : Hash) (key : Value)
  | call (builtin : Builtin) (arguments : List Value)
  | equal (left right : Value)
  | display (value : Value)
  | debug (value : Value)
  /-- Bind a name in a scope. -/
  | bind (scope : ScopeId) (name : String) (value : Value)
  /-- Look a name up in a scope and around it. -/
  | lookup (scope : ScopeId) (name : String)

namespace Event

/-- The texts whose keys an event asks for, in order. Building a collection asks
up to the first value that is not hashable. Of the builtins only `push` asks, and
only when it pushes onto a set. -/
def requested : Event -> List Text
  | .key value => value.asText?.toList
  | .hash pairs => Value.requestedInOrder (pairs.map Prod.fst)
  | .set elements => Value.requestedInOrder elements
  | .withElement _ element => element.asText?.toList
  | .contains _ element => element.asText?.toList
  | .hashGet _ wanted => wanted.asText?.toList
  | .call ⟨_, .push⟩ [.set _, element] => element.asText?.toList
  | _ => []

end Event

/-- The key of a text was asked for in some events, through any of its copies. -/
def RequestedIn (events : List Event) (text : Text) : Prop :=
  ∃ event ∈ events, ∃ requested ∈ event.requested, requested.cell = text.cell

omit [HostFunctions] in
theorem requestedIn_iff_mem_flatMap
    (events : List Event)
    (text : Text) :
    RequestedIn events text ↔
      ∃ requested ∈ events.flatMap Event.requested,
        requested.cell = text.cell := by
  simp only [RequestedIn, List.mem_flatMap]
  constructor
  · rintro ⟨event, member, requested, asked, same⟩
    exact ⟨requested, ⟨event, member, asked⟩, same⟩
  · rintro ⟨requested, ⟨event, member, asked⟩, same⟩
    exact ⟨event, member, requested, asked, same⟩

/-! ## Events of literals -/

/-- What comes after a computation: nothing if it stops at an unbound name. -/
def Session.after {α : Type}
    (session : Session Recompute)
    (computation : Evaluation Recompute α)
    (next : α -> Session Recompute -> List Event) : List Event :=
  match computation.run.run session with
  | (.ok result, session) => next result session
  | (.error _, _) => []

namespace Literal

mutual

/-- What building the value of a literal does. -/
def events : Literal -> Session Recompute -> List Event
  | .array items, session => eventsAll items session
  | .hash pairs, session =>
      eventsPairs pairs session ++
        session.after (evalPairs pairs) fun pairs _ => [.hash pairs]
  | .set elements, session =>
      eventsAll elements session ++
        session.after (evalAll elements) fun elements _ => [.set elements]
  | .returned value, session => value.events session
  | _, _ => []

/-- What building the values of some literals does. -/
def eventsAll : List Literal -> Session Recompute -> List Event
  | [], _ => []
  | literal :: rest, session =>
      literal.events session ++
        session.after literal.eval fun _ session => eventsAll rest session

/-- What building the values of some pairs of literals does. -/
def eventsPairs : List (Literal × Literal) -> Session Recompute -> List Event
  | [], _ => []
  | (key, value) :: rest, session =>
      key.events session ++ session.after key.eval fun _ session =>
        value.events session ++ session.after value.eval fun _ session =>
          eventsPairs rest session

end

/-- What building the value of a literal does, and what is done with the
value. -/
def eventsThen
    (literal : Literal)
    (session : Session Recompute)
    (next : Value -> Session Recompute -> List Event) : List Event :=
  literal.events session ++ session.after literal.eval next

/-- What building the values of some literals does, and what is done with the
values. -/
def eventsAllThen
    (literals : List Literal)
    (session : Session Recompute)
    (next : List Value -> Session Recompute -> List Event) : List Event :=
  eventsAll literals session ++ session.after (evalAll literals) next

end Literal

/-! ## Events of steps -/

open Session

namespace Expression

/-- What evaluating an expression does. -/
def events : Expression -> Session Recompute -> List Event
  | .literal value, session => value.events session
  | .call name arguments, session =>
      Literal.eventsAllThen arguments session fun arguments _ =>
        match Prelude.get? name with
        | some builtin => [.call builtin arguments]
        | none => []
  | .apply callee arguments, session =>
      callee.eventsThen session fun callee session =>
        Literal.eventsAllThen arguments session fun arguments _ =>
          match callee with
          | .builtin builtin => [.call builtin arguments]
          | _ => []
  | .unwrap value, session => value.events session
  | .assign environment name value, session =>
      session.after (environmentNamed environment) fun scope session =>
        value.eventsThen session fun value _ => [.bind scope name value]
  | .lookup environment name, session
  | .resolve environment name, session =>
      session.after (environmentNamed environment) fun scope _ =>
        [.lookup scope name]
  | .withParams closure _, session => closure.events session
  | .withElement collection element, session =>
      collection.eventsThen session fun collection session =>
        element.eventsThen session fun element _ =>
          match collection with
          | .set members => [.withElement members element]
          | _ => []
  | .union left right, session =>
      left.eventsThen session fun left session =>
        right.eventsThen session fun right _ =>
          match left, right with
          | .set left, .set right => [.union left right]
          | _, _ => []
  | .hashGet collection key, session =>
      collection.eventsThen session fun collection session =>
        key.eventsThen session fun key _ =>
          match collection with
          | .hash pairs => [.hashGet pairs key]
          | _ => []

end Expression

namespace Observation

/-- What making an observation does. -/
def events : Observation -> Session Recompute -> List Event
  | .contains collection element, session =>
      collection.eventsThen session fun collection session =>
        element.eventsThen session fun element _ =>
          match collection with
          | .set members => [.contains members element]
          | _ => []
  | .display value, session =>
      value.eventsThen session fun value _ => [.display value]
  | .debug value, session =>
      value.eventsThen session fun value _ => [.debug value]
  | .key value, session =>
      value.eventsThen session fun value _ => [.key value]
  | .cached text, session => text.events session
  | .equal left right, session =>
      left.eventsThen session fun left session =>
        right.eventsThen session fun right _ =>
          [.equal left right, .equal right left]
  | .captured, _ | .reset, _ => []
  | .environment _, _ | .sameEnvironment _ _, _ => []

end Observation

/-- What finding or creating an environment does. -/
def Origin.events : Origin -> Session Recompute -> List Event
  | .captured closure, session => closure.events session
  | .new, _ | .enclosed _, _ => []

namespace Step

/-- What a step does. -/
def events : Step -> Session Recompute -> List Event
  | .evaluate expression _, session => expression.events session
  | .observe observation, session => observation.events session
  | .openEnvironment origin _, session => origin.events session

/-- What some steps do in order. -/
def eventsAll : List Step -> Session Recompute -> List Event
  | [], _ => []
  | step :: rest, session =>
      step.events session ++
        session.after step.run fun _ session => eventsAll rest session

end Step
end Monkey
