import Monkey.Builtin
import Monkey.Session

/-!
# Native functions of a session

The host of a session offers it native functions by name. They answer with values
that are made of their arguments and leave the session as it is. What a host does
with the library besides, it does by steps of the session.
-/

namespace Monkey

section

variable [Embedding]

/-- A value is made of some parts: it is one of them, or data without texts, or a
wrapper or an array of values that are made of them. -/
inductive Value.MadeOf (parts : List Value) : Value -> Prop
  | part {value : Value} : value ∈ parts -> MadeOf parts value
  | int (value : Int64) : MadeOf parts (.int value)
  | bool (value : Bool) : MadeOf parts (.bool value)
  | null : MadeOf parts .null
  | failure (reason : Failure) : MadeOf parts (.failure reason)
  | returned {value : Value} :
      MadeOf parts value -> MadeOf parts (.returned value)
  | array {items : List Value} :
      (∀ item ∈ items, MadeOf parts item) -> MadeOf parts (.array items)

/-- The native functions that the host of a session offers. -/
class HostFunctions where
  /-- The native function with a name. -/
  named : String -> HostFunction
  /-- What a native function answers. -/
  answer : HostFunction -> List Value -> Value
  /-- Answers are made of the arguments. -/
  answer_madeOf :
    ∀ function arguments, (answer function arguments).MadeOf arguments

instance [HostFunctions] {κ : Type} : HostCalls (Session κ) where
  call function arguments := pure (HostFunctions.answer function arguments)

end

/-- The plain host offers one native function, under any name. -/
instance : HostFunctions where
  named _ := .countArguments
  answer _ arguments := .ofCount arguments.length
  answer_madeOf _ _ := .int _

end Monkey
