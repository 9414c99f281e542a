/-!
# Kinds of values

Every runtime value has exactly one kind. A kind has two spellings: its name,
in capitals, appears in error messages and keys; its label appears in debug
texts.
-/

namespace Monkey

/-- The kind of a runtime value. -/
inductive Kind
  | integer
  | boolean
  | null
  | returnValue
  | error
  | function
  | string
  | builtin
  | array
  | hash
  | set
  deriving DecidableEq

namespace Kind

/-- The name of a kind in messages and keys. -/
def name : Kind -> String
  | .integer => "INTEGER"
  | .boolean => "BOOLEAN"
  | .null => "NULL"
  | .returnValue => "RETURN_VALUE"
  | .error => "ERROR"
  | .function => "FUNCTION"
  | .string => "STRING"
  | .builtin => "BUILTIN"
  | .array => "ARRAY"
  | .hash => "HASH"
  | .set => "SET"

/-- The label of a kind in debug texts. -/
def label : Kind -> String
  | .integer => "Integer"
  | .boolean => "Boolean"
  | .null => "Null"
  | .returnValue => "ReturnValue"
  | .error => "Error"
  | .function => "Function"
  | .string => "String"
  | .builtin => "Builtin"
  | .array => "Array"
  | .hash => "Hash"
  | .set => "Set"

/-- Whether values of this kind can key a hash or belong to a set. -/
def isHashable : Kind -> Bool
  | .integer | .boolean | .string => true
  | _ => false

/-- Every kind, once. -/
def all : List Kind :=
  [.integer, .boolean, .null, .returnValue, .error, .function, .string,
    .builtin, .array, .hash, .set]

theorem mem_all (kind : Kind) : kind ∈ all := by
  cases kind <;> decide

/-- The kind that debug texts call by this label. -/
def ofLabel? (text : String) : Option Kind :=
  all.find? fun kind => kind.label == text

end Kind
end Monkey
