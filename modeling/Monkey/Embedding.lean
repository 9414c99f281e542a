import Monkey.Text.Quoted

/-!
# Embeddings

The library is embedded in an evaluator and a host, which bring along what it
does not know: what the bodies of closures are, and which native functions there
are besides its own. All that the library does with a body is to render it, by
code of the evaluator. It assumes of that code that rendering is pure.
-/

namespace Monkey

/-- What the library is embedded in. -/
class Embedding where
  /-- The bodies of closures. -/
  Body : Type
  /-- What the evaluator can read and change while it renders a body. -/
  World : Type
  /-- Display a body, by code of the evaluator. -/
  renderBody : Body -> StateM World String
  /-- Give the debug text of a body, by code of the evaluator. -/
  inspectBody : Body -> StateM World String
  /-- The displayed text of a body. -/
  displayBody : Body -> String
  /-- The debug text of a body. -/
  debugBody : Body -> String
  /-- Displaying is pure: the text is that of the body, in every world, and the
  world stays as it is. -/
  renderBody_pure : ∀ body, renderBody body = pure (displayBody body)
  /-- Giving debug texts is pure. -/
  inspectBody_pure : ∀ body, inspectBody body = pure (debugBody body)
  /-- The native functions of the host. -/
  HostFunction : Type

/-- The body of a closure, as the evaluator supplied it. -/
abbrev Body [Embedding] : Type := Embedding.Body

namespace Body

variable [Embedding]

/-- The displayed text of a body. -/
def display (body : Body) : String :=
  Embedding.displayBody body

/-- The debug text of a body. -/
def debug (body : Body) : String :=
  Embedding.debugBody body

end Body

/-- A native function of the host. -/
abbrev HostFunction [Embedding] : Type := Embedding.HostFunction

/-! ## A plain embedding -/

/-- A body that is a text or an integer. -/
inductive PlainBody
  | text (content : String)
  | int (value : Int64)
  deriving DecidableEq

namespace PlainBody

/-- The displayed text of a plain body. -/
def display : PlainBody -> String
  | .text content => content
  | .int value => toString value.toInt

/-- The debug text of a plain body: texts quoted, integers bare. -/
def debug : PlainBody -> String
  | .text content => quoted content
  | .int value => toString value.toInt

/-- The content of a text body. -/
def asText? : PlainBody -> Option String
  | .text content => some content
  | .int _ => none

/-- The number of an integer body. -/
def asInt? : PlainBody -> Option Int64
  | .text _ => none
  | .int value => some value

end PlainBody

/-- A native function that answers the number of its arguments. -/
inductive PlainFunction
  | countArguments
  deriving DecidableEq

/-- Plain bodies, and one native function. -/
instance plain : Embedding where
  Body := PlainBody
  World := Unit
  renderBody body := pure body.display
  inspectBody body := pure body.debug
  displayBody := PlainBody.display
  debugBody := PlainBody.debug
  renderBody_pure _ := rfl
  inspectBody_pure _ := rfl
  HostFunction := PlainFunction

end Monkey
