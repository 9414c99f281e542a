import Monkey.Builtin

/-!
# Transcripts

A program and its host act on a printer by turns: the program writes lines, one
by one or through `puts`, and the host reads what was captured and may reset
it. A run is the list of these actions, and `Printer.transcripts` is what the
host reads along the way.
-/

namespace Monkey

variable [Embedding]

namespace Printer

/-- Something done to a printer. -/
inductive Action
  /-- Write one line. -/
  | write (line : String)
  /-- Write every argument on a line of its own. -/
  | puts (arguments : List Value)
  /-- Forget what was captured. -/
  | reset
  /-- Read what was captured. -/
  | read

/-- The printer after an action. -/
def act (printer : Printer) : Action -> Printer
  | .write line => LineSink.take line printer
  | .puts arguments => ((Builtin.puts arguments).run printer).2
  | .reset => printer.reset
  | .read => printer

/-- The printer after a run of actions. -/
def actAll (printer : Printer) (actions : List Action) : Printer :=
  actions.foldl act printer

/-- What is captured after each action of a run. -/
def transcripts (printer : Printer) : List Action -> List String
  | [] => []
  | action :: rest =>
      (printer.act action).captured :: (printer.act action).transcripts rest

/-- A run in two parts leaves the printer as the parts do in turn. -/
theorem actAll_append
    (printer : Printer)
    (front back : List Action) :
    printer.actAll (front ++ back) = (printer.actAll front).actAll back :=
  List.foldl_append

end Printer
end Monkey
