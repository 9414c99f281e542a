import Monkey.Value.Debug
import Monkey.Value.Display

/-!
# Rendering values

To render a value is to write its text from left to right, and the evaluator's code
runs for the body of every closure in it when its turn comes. What such code could do
besides giving a text is kept here: it may read and change what the evaluator has, so
that a text might depend on what was rendered before.
-/

namespace Monkey

variable [Embedding]

/-- A computation of the evaluator that gives a text or several. -/
abbrev Rendering (α : Type) : Type :=
  StateM Embedding.World α

/-- Render entries in the canonical order of their atoms. -/
def renderListing
    (write : Atom -> String -> String)
    (entries : List (Atom × Rendering String)) :
    Rendering (List String) :=
  (canonicalOrder entries).mapM fun entry => write entry.1 <$> entry.2

/-! ## Displayed texts -/

/-- Display a closure. -/
def Closure.render (closure : Closure) : Rendering String := do
  let body <- Embedding.renderBody closure.body
  return "fn(" ++ ",".intercalate closure.params ++ ") \x7b\n" ++ body ++
    "\n\x7d"

mutual

/-- Display a value. -/
def Value.render : Value -> Rendering String
  | .atom value => return value.display
  | .null => return "null"
  | .returned value => value.render
  | .failure reason => return "ERROR: " ++ reason.message
  | .closure function => function.render
  | .builtin _ => return "builtin function"
  | .array items => do
      let texts <- Value.renderItems items
      return "[" ++ ",".intercalate texts ++ "]"
  | .hash ⟨pairs⟩ => do
      let texts <- renderListing (fun key text => key.display ++ ": " ++ text)
        (Value.renderPairs pairs)
      return "\x7b" ++ ", ".intercalate texts ++ "\x7d"
  | .set members => return MemberSet.display members

/-- Display the items of an array, from left to right. -/
def Value.renderItems : List Value -> Rendering (List String)
  | [] => return []
  | value :: rest => do
      let text <- value.render
      return text :: (<- Value.renderItems rest)

/-- The atoms of a hash with how their values are displayed. -/
def Value.renderPairs :
    List (Key × Atom × Value) -> List (Atom × Rendering String)
  | [] => []
  | (_, keyAtom, value) :: rest =>
      (keyAtom, value.render) :: Value.renderPairs rest

end

/-! ## Debug texts -/

/-- Give the debug text of a closure. -/
def Closure.inspect (closure : Closure) : Rendering String := do
  let body <- Embedding.inspectBody closure.body
  return "FunctionValue \x7b params: " ++ quotedList closure.params ++
    ", body: " ++ body ++ ", .. \x7d"

mutual

/-- Give the debug text of a value. -/
def Value.inspect : Value -> Rendering String
  | .atom value => return value.debug
  | .null => return "Null"
  | .returned value => do return "Return(" ++ (<- value.inspect) ++ ")"
  | .failure reason => return reason.debug
  | .closure function => do return "Function(" ++ (<- function.inspect) ++ ")"
  | .builtin function => return "Builtin(" ++ function.name ++ ")"
  | .array items => do
      let texts <- Value.inspectItems items
      return "Array([" ++ ", ".intercalate texts ++ "])"
  | .hash ⟨pairs⟩ => do
      let texts <- renderListing (fun _ text => text) (Value.inspectPairs pairs)
      return "Hash(HashValue \x7b pairs: \x7b" ++ ", ".intercalate texts ++
        "\x7d \x7d)"
  | .set members => return "Set(" ++ MemberSet.debug members ++ ")"

/-- Give the debug texts of the items of an array, from left to right. -/
def Value.inspectItems : List Value -> Rendering (List String)
  | [] => return []
  | value :: rest => do
      let text <- value.inspect
      return text :: (<- Value.inspectItems rest)

/-- The atoms of a hash with how the debug texts of their entries are given. -/
def Value.inspectPairs :
    List (Key × Atom × Value) -> List (Atom × Rendering String)
  | [] => []
  | (key, keyAtom, value) :: rest =>
      (keyAtom, do
        let text <- value.inspect
        return key.debug ++ ": HashPair \x7b key: " ++ keyAtom.debug ++
          ", value: " ++ text ++ " \x7d") :: Value.inspectPairs rest

end

end Monkey
