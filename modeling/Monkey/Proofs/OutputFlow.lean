import Monkey.Proofs.Congruence
import Monkey.Proofs.Lines
import Monkey.Proofs.Requests
import Monkey.Proofs.Scopes

/-!
# Where output flows

Builtins are handed a sink and may write lines to it, but nothing comes back from
it. A computation writes some lines when it hands exactly these to whatever sink
there is, while its result and the rest of the session are the same for every
sink. `puts` writes the texts of its arguments and every other builtin writes
nothing, so a sequence of calls writes what its calls of `puts` do, in order.
-/

namespace Monkey

section

variable [Embedding]

namespace Session

variable {κ α β : Type}

/-- A session whose output goes to another sink. -/
def withSink (session : Session κ) (sink : Sink) : Session κ :=
  { session with sink }

@[simp] theorem sink_withSink (session : Session κ) (sink : Sink) :
    (session.withSink sink).sink = sink := rfl

@[simp] theorem withSink_sink (session : Session κ) :
    session.withSink session.sink = session := rfl

@[simp] theorem withSink_withSink
    (session : Session κ)
    (sink other : Sink) :
    (session.withSink sink).withSink other = session.withSink other := rfl

/-! ## Computations that write -/

/-- A computation hands some lines to the sink of a session. What it answers and
leaves otherwise is the same for every sink. -/
def Writes
    (computation : StateM (Session κ) α)
    (lines : List String) : Prop :=
  ∀ session : Session κ, ∃ (answer : α) (after : Session κ), ∀ sink : Sink,
    computation.run (session.withSink sink) =
      (answer, after.withSink (takeLines lines sink))

namespace Writes

theorem pure (answer : α) :
    Writes (Pure.pure answer : StateM (Session κ) α) [] :=
  fun session => ⟨answer, session, fun _ => rfl⟩

theorem bind
    {computation : StateM (Session κ) α}
    {next : α -> StateM (Session κ) β}
    {lines more : List String}
    (first : Writes computation lines)
    (second : ∀ answer, Writes (next answer) more) :
    Writes (computation >>= next) (lines ++ more) := by
  intro session
  obtain ⟨answer, middle, ran⟩ := first session
  obtain ⟨result, after, ranNext⟩ := second answer middle
  refine ⟨result, after, ?_⟩
  intro sink
  rw [StateT.run_bind, ran, takeLines_append]
  exact ranNext (takeLines lines sink)

theorem map
    {computation : StateM (Session κ) α}
    {lines : List String}
    (first : Writes computation lines)
    (function : α -> β) :
    Writes (function <$> computation) lines := by
  intro session
  obtain ⟨answer, after, ran⟩ := first session
  refine ⟨function answer, after, ?_⟩
  intro sink
  rw [StateT.run_map, ran]
  rfl

/-- A loop writes what its steps write, in order. -/
theorem mapM
    {step : β -> StateM (Session κ) α}
    {lines : β -> List String}
    (each : ∀ item, Writes (step item) (lines item))
    (items : List β) :
    Writes (items.mapM step) (items.flatMap lines) := by
  induction items with
  | nil => exact pure []
  | cons item rest inductionHypothesis =>
      rw [List.mapM_cons, List.flatMap_cons]
      apply (each item).bind
      intro answer
      exact inductionHypothesis.map (answer :: ·)

/-- The sink ends up with the lines on top of what it took before. -/
theorem sink_run
    {computation : StateM (Session κ) α}
    {lines : List String}
    (writes : Writes computation lines)
    (session : Session κ) :
    (computation.run session).2.sink = takeLines lines session.sink := by
  obtain ⟨answer, after, ran⟩ := writes session
  rw [← session.withSink_sink, ran, sink_withSink, sink_withSink]

end Writes
end Session

open Session

/-! ## What builtins write -/

section Calls

variable {κ : Type} [KeySource κ]

/-- Asking for a key writes nothing. -/
theorem writes_requestKey (atom : Atom) :
    Writes (atom.requestKey : StateM (Session κ) Key) [] := by
  cases atom with
  | int value => exact .pure _
  | bool value => exact .pure _
  | text value =>
      intro session
      exact ⟨((KeySource.request value).run session.keys).1,
        { session with
          keys := ((KeySource.request value).run session.keys).2 },
        fun _ => rfl⟩

/-- Adding an element to a set writes nothing. -/
theorem writes_withElement (members : MemberSet) (element : Value) :
    Writes
      (members.withElement element : Filing (Session κ) MemberSet).run [] := by
  cases element with
  | atom atom =>
      exact (writes_requestKey atom).map fun key =>
        Except.ok (members.insert key atom)
  | _ => exact .pure _

theorem writes_push (arguments : List Value) :
    Writes
      (Builtin.push arguments : ExceptT Fault (StateM (Session κ)) Value).run
      [] := by
  unfold Builtin.push
  split
  next => exact .pure _
  next members element =>
    change Writes (Builtin.push [.set members, element]).run []
    rw [Builtin.run_push_set]
    exact (writes_withElement members element).map _
  next => exact .pure _
  next => exact .pure _

omit [KeySource κ] in
theorem writes_liftExcept (outcome : Except Fault Value) :
    Writes
      (liftExcept outcome : ExceptT Fault (StateM (Session κ)) Value).run
      [] := by
  cases outcome <;> exact .pure _

omit [KeySource κ] in
/-- Output writes one line for each argument. -/
theorem writes_puts (arguments : List Value) :
    Writes (Builtin.puts arguments : StateM (Session κ) Value)
      (arguments.map Value.display) := by
  intro session
  refine ⟨.null, session, ?_⟩
  intro sink
  rw [run_puts_eq, Session.takeLines_eq]
  rfl

variable [HostCalls (Session κ)]

/-- Operations of the library other than output write nothing, also where they
refuse their arguments. -/
theorem writes_perform
    {operation : Operation}
    (quiet : operation.isQuiet)
    (arguments : List Value) :
    Writes
      (operation.perform arguments :
        ExceptT Fault (StateM (Session κ)) Value).run [] := by
  cases operation with
  | push => exact writes_push arguments
  | puts | host => cases quiet
  | _ => exact writes_liftExcept _

/-- A builtin writes what its operation writes. -/
theorem writes_call
    {builtin : Builtin}
    {arguments : List Value}
    {lines : List String}
    (writes : Writes
      (builtin.operation.perform arguments :
        ExceptT Fault (StateM (Session κ)) Value).run lines) :
    Writes (builtin.call arguments : StateM (Session κ) Value) lines := by
  rw [← List.append_nil lines]
  apply writes.bind
  intro outcome
  cases outcome <;> exact .pure _

end Calls

/-! ## Sequences of calls -/

/-- A call of a builtin by name. -/
structure Call where
  name : String
  arguments : List Value

namespace Call

/-- Make a call. -/
def run {σ : Type} [KeySource σ] [LineSink σ] [HostCalls σ] (call : Call) :
    StateM σ (Option Value) :=
  Prelude.call call.name call.arguments

/-- Make some calls, one after the other. -/
def runAll {σ : Type} [KeySource σ] [LineSink σ] [HostCalls σ]
    (calls : List Call) :
    StateM σ (List (Option Value)) :=
  calls.mapM run

/-- The lines that a call writes: only `puts` writes any. -/
def lines (call : Call) : List String :=
  if call.name = "puts" then call.arguments.map Value.display else []

theorem lines_of_ne
    {call : Call}
    (quiet : call.name ≠ "puts") :
    call.lines = [] :=
  if_neg quiet

variable {κ : Type} [KeySource κ] [HostCalls (Session κ)]

theorem writes_run (call : Call) :
    Writes (call.run : StateM (Session κ) (Option Value)) call.lines := by
  unfold run Prelude.call
  by_cases loud : call.name = "puts"
  · rw [lines, if_pos loud, loud]
    have performed : Writes
        (Operation.puts.perform call.arguments :
          ExceptT Fault (StateM (Session κ)) Value).run
        (call.arguments.map Value.display) :=
      (writes_puts call.arguments).map Except.ok
    exact (@writes_call _ _ _ _ ⟨"puts", .puts⟩ _ _ performed).map some
  · rw [lines_of_ne loud]
    cases found : Prelude.get? call.name with
    | none => exact .pure _
    | some builtin =>
        have quiet := Prelude.isQuiet_operation found loud
        exact (writes_call (writes_perform quiet call.arguments)).map some

theorem writes_runAll (calls : List Call) :
    Writes (runAll calls : StateM (Session κ) (List (Option Value)))
      (calls.flatMap lines) :=
  Writes.mapM writes_run calls

end Call

/-- Output does not flow back. Some calls of builtins, made in one session with
either of two sinks, answer the same and leave the same session but for the sink,
whatever the sinks are and took before. Each sink takes the texts of the arguments
of `puts`, call by call and in order, and nothing else; a call of any other
builtin leaves the sink of any session as it was. -/
theorem output_never_flows_back
    {κ : Type}
    [KeySource κ]
    [HostCalls (Session κ)]
    (calls : List Call)
    (session : Session κ)
    (left right : Sink) :
    ((Call.runAll calls).run (session.withSink left)).1 =
      ((Call.runAll calls).run (session.withSink right)).1 ∧
    ((Call.runAll calls).run (session.withSink left)).2.withSink right =
      ((Call.runAll calls).run (session.withSink right)).2.withSink right ∧
    (∀ sink, ((Call.runAll calls).run (session.withSink sink)).2.sink =
      takeLines (calls.flatMap Call.lines) sink) ∧
    ∀ call : Call, call.name ≠ "puts" ->
      ∀ other : Session κ,
        ((call.run : StateM (Session κ) (Option Value)).run other).2.sink =
          other.sink := by
  have writes := Call.writes_runAll (κ := κ) calls
  refine ⟨?_, ?_, ?_, ?_⟩
  · obtain ⟨answers, after, ran⟩ := writes session
    rw [ran, ran]
  · obtain ⟨answers, after, ran⟩ := writes session
    rw [ran, ran, withSink_withSink, withSink_withSink]
  · intro sink
    exact writes.sink_run (session.withSink sink)
  · intro call quiet other
    rw [call.writes_run.sink_run, Call.lines_of_ne quiet]
    rfl

end

/-- With a transcript and with a sink that discards every line the same calls
answer the same; the transcript gets the lines of `puts` and none for the value
that is refused. -/
theorem output_never_flows_back_from_transcript :
    let calls : List Call :=
      [⟨"puts", [.int 1, .bool true]⟩, ⟨"push", [.set Table.empty, .array []]⟩,
        ⟨"puts", []⟩, ⟨"puts", [.null]⟩]
    let session : Session Memo := { keys := {}, scopes := .empty }
    let transcript : Sink := .through (.capture "before\n")
    ((Call.runAll calls).run (session.withSink transcript)).1 =
        ((Call.runAll calls).run (session.withSink .discard)).1 ∧
      ((Call.runAll calls).run (session.withSink transcript)).2.sink.captured =
        "before\n1\ntrue\nnull\n" ∧
      ((Call.run ⟨"push", [.set Table.empty, .array []]⟩ :
        StateM (Session Memo) (Option Value)).run session).2.sink.captured =
        "" := by
  intro calls session transcript
  obtain ⟨sameAnswers, _, lines, untouched⟩ :=
    output_never_flows_back calls session transcript .discard
  refine ⟨sameAnswers, ?_, ?_⟩
  · rw [lines]
    decide
  · rw [untouched ⟨"push", _⟩ (by decide)]
    rfl

end Monkey
