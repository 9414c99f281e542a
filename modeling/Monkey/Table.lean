/-!
# Tables

A table associates keys with entries. Entries keep the order in which their
keys first arrived, and inserting under a key that is present replaces the
entry in place, so a table built by insertion holds each key once.
-/

namespace Monkey

/-- An association of keys with entries. -/
structure Table (κ α : Type) where
  entries : List (κ × α) := []

namespace Table

variable {κ α : Type} [DecidableEq κ]

/-- The table without entries. -/
def empty : Table κ α := {}

/-- The number of entries. -/
def size (table : Table κ α) : Nat :=
  table.entries.length

/-- The keys, in order of first arrival. -/
def keys (table : Table κ α) : List κ :=
  table.entries.map Prod.fst

/-- The entry that an association list holds first under a key. -/
def find? : List (κ × α) -> κ -> Option α
  | [], _ => none
  | (candidate, entry) :: rest, key =>
      if candidate = key then some entry else find? rest key

/-- The entry under a key. -/
def get? (table : Table κ α) (key : κ) : Option α :=
  find? table.entries key

/-- Whether a key has an entry. -/
def contains (table : Table κ α) (key : κ) : Bool :=
  (table.get? key).isSome

/-- Replace the first entry under a key, or append one if there is none. -/
def put : List (κ × α) -> κ -> α -> List (κ × α)
  | [], key, entry => [(key, entry)]
  | (candidate, old) :: rest, key, entry =>
      if candidate = key then (key, entry) :: rest
      else (candidate, old) :: put rest key entry

/-- File an entry under a key, replacing the one that was there. -/
def insert (table : Table κ α) (key : κ) (entry : α) : Table κ α :=
  ⟨put table.entries key entry⟩

/-- Insert every entry of the right table into the left one. -/
def merge (left right : Table κ α) : Table κ α :=
  right.entries.foldl (fun table entry => table.insert entry.1 entry.2) left

@[simp] theorem get?_empty (key : κ) :
    (empty : Table κ α).get? key = none := rfl

theorem find?_put
    (entries : List (κ × α))
    (key other : κ)
    (entry : α) :
    find? (put entries key entry) other =
      if key = other then some entry else find? entries other := by
  induction entries with
  | nil => rfl
  | cons head rest inductionHypothesis =>
      obtain ⟨candidate, old⟩ := head
      by_cases present : candidate = key
      · subst present
        by_cases same : candidate = other <;> simp [put, find?, same]
      · by_cases same : candidate = other
        · subst same
          simp [put, find?, present, Ne.symm present]
        · simp [put, find?, present, same, inductionHypothesis]

@[simp] theorem get?_insert
    (table : Table κ α)
    (key other : κ)
    (entry : α) :
    (table.insert key entry).get? other =
      if key = other then some entry else table.get? other :=
  find?_put table.entries key other entry

end Table
end Monkey
