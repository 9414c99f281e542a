import Monkey.Value

/-!
# Displayed values

The text by which a value shows itself in the output of a program. Entries of
hashes and sets come in the canonical order of their atoms.
-/

namespace Monkey

variable [Embedding]

/-- The displayed text of a closure: its parameters, then its body on lines of
its own between braces. -/
def Closure.display (closure : Closure) : String :=
  "fn(" ++ ",".intercalate closure.params ++ ") \x7b\n" ++
    closure.body.display ++ "\n\x7d"

/-- The displayed text of a set. -/
def MemberSet.display (members : MemberSet) : String :=
  let texts := (canonicalOrder
    (members.entries.map fun entry => (entry.2, entry.2.display))).map Prod.snd
  "set(" ++ ",".intercalate texts ++ ")"

mutual

/-- The displayed text of a value. -/
def Value.display : Value -> String
  | .atom value => value.display
  | .null => "null"
  | .returned value => value.display
  | .failure reason => "ERROR: " ++ reason.message
  | .closure function => function.display
  | .builtin _ => "builtin function"
  | .array items => "[" ++ ",".intercalate (Value.displayItems items) ++ "]"
  | .hash ⟨pairs⟩ =>
      let texts := (canonicalOrder (Value.displayPairs pairs)).map
        fun pair => pair.1.display ++ ": " ++ pair.2
      "\x7b" ++ ", ".intercalate texts ++ "\x7d"
  | .set members => MemberSet.display members

/-- The displayed texts of the items of an array. -/
def Value.displayItems : List Value -> List String
  | [] => []
  | value :: rest => value.display :: Value.displayItems rest

/-- The atoms of a hash with the displayed texts of their values. -/
def Value.displayPairs :
    List (Key × Atom × Value) -> List (Atom × String)
  | [] => []
  | (_, keyAtom, value) :: rest =>
      (keyAtom, value.display) :: Value.displayPairs rest

end

end Monkey
