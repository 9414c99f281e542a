import Mathlib.Data.List.Basic
import Monkey.Builtin
import Monkey.Session

/-!
# Lines of output

Writing several lines is handing them to a sink one after the other, and printing
some arguments is writing their texts. A state that keeps a sink within it and
passes its lines on changes as the sink does.
-/

namespace Monkey

variable {σ τ : Type} [LineSink σ] [LineSink τ]

/-! ## Texts of lines -/

/-- The text of some lines, each of them ended. -/
def endLines (lines : List String) : String :=
  String.join (lines.map (· ++ "\n"))

@[simp] theorem endLines_nil : endLines [] = "" := rfl

theorem endLines_cons (line : String) (lines : List String) :
    endLines (line :: lines) = line ++ "\n" ++ endLines lines :=
  String.join_cons

theorem endLines_append (front back : List String) :
    endLines (front ++ back) = endLines front ++ endLines back := by
  rw [endLines, List.map_append, String.join_append]
  rfl

/-! ## Taking lines -/

/-- A sink that has taken some lines, one after the other. -/
def takeLines (lines : List String) (state : σ) : σ :=
  lines.foldl (fun state line => LineSink.take line state) state

theorem takeLines_append (front back : List String) (state : σ) :
    takeLines (front ++ back) state = takeLines back (takeLines front state) :=
  List.foldl_append

/-- What takes a line by passing it on to a sink takes any lines so. -/
theorem takeLines_within
    (within : σ -> τ)
    (passes : ∀ line state,
      LineSink.take line (within state) = within (LineSink.take line state))
    (lines : List String)
    (state : σ) :
    takeLines lines (within state) = within (takeLines lines state) :=
  List.foldl_hom within fun state line => passes line state

variable [Embedding]

/-- A session hands lines to its sink. -/
theorem Session.takeLines_eq
    {κ : Type}
    (lines : List String)
    (session : Session κ) :
    takeLines lines session =
      { session with sink := takeLines lines session.sink } :=
  takeLines_within (fun sink => { session with sink }) (fun _ _ => rfl) lines
    session.sink

/-! ## Printing -/

/-- Printing hands the displayed arguments to the sink, line by line, and answers
null. -/
theorem run_puts_eq (arguments : List Value) (state : σ) :
    (Builtin.puts arguments).run state =
      (.null, takeLines (arguments.map Value.display) state) := by
  induction arguments generalizing state with
  | nil => rfl
  | cons argument rest inductionHypothesis =>
      exact inductionHypothesis (LineSink.take argument.display state)

/-- Printing a list of arguments is printing its parts in turn. -/
theorem run_puts_append (front back : List Value) (state : σ) :
    (Builtin.puts (front ++ back)).run state =
      (Builtin.puts back).run ((Builtin.puts front).run state).2 := by
  rw [run_puts_eq, run_puts_eq, run_puts_eq, List.map_append, takeLines_append]

end Monkey
