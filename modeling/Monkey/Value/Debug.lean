import Monkey.Value

/-!
# Debug texts of values

A text that shows how a value is built: its variant, quoted strings, the kinds
of failures, and the keys under which collections file their entries. Closures
show neither the scope they captured nor what it binds. Entries of hashes and
sets come in the canonical order of their atoms.
-/

namespace Monkey

/-- The debug text of a list of strings. -/
def quotedList (contents : List String) : String :=
  "[" ++ ", ".intercalate (contents.map quoted) ++ "]"

variable [Embedding]

/-- The debug text of a closure. -/
def Closure.debug (closure : Closure) : String :=
  "FunctionValue \x7b params: " ++ quotedList closure.params ++ ", body: " ++
    closure.body.debug ++ ", .. \x7d"

/-- The debug text of a failure. -/
def Failure.debug (reason : Failure) : String :=
  "Error(" ++ reason.category.label ++ ", " ++ quoted reason.message ++ ")"

/-- The debug text of a set. -/
def MemberSet.debug (members : MemberSet) : String :=
  let texts := (canonicalOrder
    (members.entries.map fun entry =>
      (entry.2, entry.1.debug ++ ": " ++ entry.2.debug))).map Prod.snd
  "SetValue \x7b members: \x7b" ++ ", ".intercalate texts ++ "\x7d \x7d"

mutual

/-- The debug text of a value. -/
def Value.debug : Value -> String
  | .atom value => value.debug
  | .null => "Null"
  | .returned value => "Return(" ++ value.debug ++ ")"
  | .failure reason => reason.debug
  | .closure function => "Function(" ++ function.debug ++ ")"
  | .builtin function => "Builtin(" ++ function.name ++ ")"
  | .array items =>
      "Array([" ++ ", ".intercalate (Value.debugItems items) ++ "])"
  | .hash ⟨pairs⟩ =>
      let texts := (canonicalOrder (Value.debugPairs pairs)).map Prod.snd
      "Hash(HashValue \x7b pairs: \x7b" ++ ", ".intercalate texts ++
        "\x7d \x7d)"
  | .set members => "Set(" ++ MemberSet.debug members ++ ")"

/-- The debug texts of the items of an array. -/
def Value.debugItems : List Value -> List String
  | [] => []
  | value :: rest => value.debug :: Value.debugItems rest

/-- The atoms of a hash with the debug texts of their entries. -/
def Value.debugPairs :
    List (Key × Atom × Value) -> List (Atom × String)
  | [] => []
  | (key, keyAtom, value) :: rest =>
      (keyAtom,
        key.debug ++ ": HashPair \x7b key: " ++ keyAtom.debug ++
          ", value: " ++ value.debug ++ " \x7d") :: Value.debugPairs rest

end

end Monkey
