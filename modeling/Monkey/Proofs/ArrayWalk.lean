import Monkey.Prelude
import Monkey.Session.HostFunctions

/-!
# Walking an array

Programs have no loop over an array. They look at its first item, go on with its
rest, and stop when its length is zero; they copy it by pushing items onto an
array one after the other. `Walk.dropFirsts` and `Walk.visit` are these loops as
programs run them, call by call. A walk ends by itself after as many steps as
the array has items, has then met all of them in order, and leaves everything
but its answer as it was.
-/

namespace Monkey

section

variable [Embedding]

variable {σ : Type} [KeySource σ] [LineSink σ] [HostCalls σ]

/-- Call a builtin of the prelude. Nothing comes of a name that it does not
have. -/
def Prelude.invoke (name : String) (arguments : List Value) :
    OptionT (StateM σ) Value :=
  OptionT.mk (call name arguments)

namespace Walk

open Prelude

/-! ## Calls on arrays -/

theorem invoke_len (items : List Value) :
    (invoke "len" [.array items] : OptionT (StateM σ) Value) =
      pure (.ofCount items.length) := rfl

theorem invoke_first (items : List Value) :
    (invoke "first" [.array items] : OptionT (StateM σ) Value) =
      pure (items.head?.getD .null) := rfl

theorem invoke_last (items : List Value) :
    (invoke "last" [.array items] : OptionT (StateM σ) Value) =
      pure (items.getLast?.getD .null) := rfl

theorem invoke_rest_cons (item : Value) (rest : List Value) :
    (invoke "rest" [.array (item :: rest)] : OptionT (StateM σ) Value) =
      pure (.array rest) := rfl

theorem invoke_push (items : List Value) (item : Value) :
    (invoke "push" [.array items, item] : OptionT (StateM σ) Value) =
      pure (.array (items ++ [item])) := rfl

/-! ## Loops over an array -/

/-- Replace an array by its rest some times. -/
def dropFirsts : (steps : Nat) -> Value -> OptionT (StateM σ) Value
  | 0, current => return current
  | steps + 1, current => do
      let rest <- invoke "rest" [current]
      dropFirsts steps rest

/-- Whether the length of a collection is positive. -/
def hasItems (current : Value) : OptionT (StateM σ) Bool := do
  let count <- invoke "len" [current]
  return count.asInt?.any (0 < ·)

/-- As long as the length of an array is positive, take its first item and go on
with its rest, for at most some rounds. The answer lists the items. -/
def visit : (rounds : Nat) -> Value -> OptionT (StateM σ) (List Value)
  | 0, _ => return []
  | rounds + 1, current => do
      if <- hasItems current then
        let item <- invoke "first" [current]
        let rest <- invoke "rest" [current]
        let items <- visit rounds rest
        return item :: items
      else return []

/-- Push some items onto an array, one after the other. -/
def pushAll (array : Value) (items : List Value) : OptionT (StateM σ) Value :=
  items.foldlM (fun array item => invoke "push" [array, item]) array

/-! ## Lengths -/

/-- Counts up to the greatest integer are exact. -/
theorem toInt_ofCount
    {count : Nat}
    (short : count ≤ greatestInt) :
    ∃ exact : Int64, Value.ofCount count = .int exact ∧
      exact.toInt = count := by
  refine ⟨_, rfl, ?_⟩
  rw [Nat.min_eq_left short]
  exact Int64.toInt_ofNat_of_lt (Nat.lt_of_le_of_lt short (by decide))

/-- Only empty arrays have no items, however long the others are. -/
theorem hasItems_array (items : List Value) :
    (hasItems (.array items) : OptionT (StateM σ) Bool) =
      pure (!items.isEmpty) := by
  have clamped : min items.length greatestInt < 2 ^ 63 :=
    Nat.lt_of_le_of_lt (Nat.min_le_right _ _) (by decide)
  have positive : decide ((0 : Int64) <
      Int64.ofNat (min items.length greatestInt)) = !items.isEmpty := by
    rw [Bool.eq_iff_iff, decide_eq_true_iff, Int64.lt_iff_toInt_lt,
      Int64.toInt_ofNat_of_lt clamped]
    cases items with
    | nil => simp
    | cons item rest =>
        have positive : 0 < min (item :: rest).length greatestInt :=
          Nat.lt_min.mpr ⟨Nat.succ_pos _, by decide⟩
        rw [Int64.toInt_zero]
        exact iff_of_true (Int.natCast_pos.mpr positive) rfl
  rw [hasItems, invoke_len, pure_bind]
  exact congrArg pure positive

/-! ## Steps and runs -/

/-- Dropping no more items than there are leaves the array of the others. -/
theorem dropFirsts_of_le
    {steps : Nat}
    {items : List Value}
    (enough : steps ≤ items.length) :
    (dropFirsts steps (.array items) : OptionT (StateM σ) Value) =
      pure (.array (items.drop steps)) := by
  induction steps generalizing items with
  | zero => rfl
  | succ steps inductionHypothesis =>
      cases items with
      | nil => cases enough
      | cons item rest =>
          rw [dropFirsts, invoke_rest_cons, pure_bind, List.drop_succ_cons]
          exact inductionHypothesis (Nat.le_of_succ_le_succ enough)

/-- Dropping one more item than there are ends in null. -/
theorem dropFirsts_succ_length (items : List Value) :
    (dropFirsts (items.length + 1) (.array items) :
      OptionT (StateM σ) Value) = pure .null := by
  induction items with
  | nil => rfl
  | cons item rest inductionHypothesis =>
      rw [List.length_cons, dropFirsts, invoke_rest_cons, pure_bind]
      exact inductionHypothesis

/-- In each round a walk takes the first item of what is left. -/
theorem visit_succ_cons
    (rounds : Nat)
    (item : Value)
    (rest : List Value) :
    (visit (rounds + 1) (.array (item :: rest)) :
      OptionT (StateM σ) (List Value)) =
      (item :: ·) <$> visit rounds (.array rest) := by
  rw [visit, hasItems_array, pure_bind, map_eq_pure_bind]
  rfl

/-- A walk that may take enough rounds meets all items, and stops. -/
theorem visit_of_le
    {rounds : Nat}
    {items : List Value}
    (enough : items.length ≤ rounds) :
    (visit rounds (.array items) : OptionT (StateM σ) (List Value)) =
      pure items := by
  induction rounds generalizing items with
  | zero =>
      obtain rfl := List.length_eq_zero_iff.mp (Nat.le_zero.mp enough)
      rfl
  | succ rounds inductionHypothesis =>
      cases items with
      | nil =>
          rw [visit, hasItems_array, pure_bind]
          rfl
      | cons item rest =>
          rw [visit_succ_cons,
            inductionHypothesis (Nat.le_of_succ_le_succ enough), map_pure]

/-- Pushing items one after the other appends them. -/
theorem pushAll_array (front items : List Value) :
    (pushAll (.array front) items : OptionT (StateM σ) Value) =
      pure (.array (front ++ items)) := by
  unfold pushAll
  induction items generalizing front with
  | nil => rw [List.foldlM_nil, List.append_nil]
  | cons item rest inductionHypothesis =>
      rw [List.foldlM_cons, invoke_push, pure_bind, inductionHypothesis,
        List.append_assoc, List.singleton_append]

/-- The last item is the first one of what is left when all others are
dropped. -/
theorem invoke_last_eq_first
    {steps : Nat}
    {items : List Value}
    (allButOne : steps + 1 = items.length) :
    (invoke "last" [.array items] : OptionT (StateM σ) Value) =
      dropFirsts steps (.array items) >>= fun final =>
        invoke "first" [final] := by
  have lastIndex : items.length - 1 = steps := by omega
  rw [dropFirsts_of_le (by omega), pure_bind, invoke_last, invoke_first,
    List.head?_drop, List.getLast?_eq_getElem?, lastIndex]

/-- What is pushed onto an array that has items stays when its first item is
dropped; of one item alone nothing else is left. -/
theorem invoke_push_rest (items : List Value) (value : Value) :
    (invoke "push" [.array items, value] >>= fun pushed =>
        invoke "rest" [pushed] : OptionT (StateM σ) Value) =
      if items.isEmpty then pure (.array [])
      else invoke "rest" [.array items] >>= fun rest =>
        invoke "push" [rest, value] := by
  rw [invoke_push, pure_bind]
  cases items with
  | nil => rfl
  | cons item rest =>
      rw [List.cons_append, invoke_rest_cons, invoke_rest_cons, pure_bind,
        invoke_push]
      rfl

/-! ## Walks are complete and end -/

/-- A walk over an array is complete and ends. The length counts its items, as
long as integers reach that far. Replacing the array by its rest gives an array
as often as there are items, and null the next time. The first items on the way,
taken while the length is positive, are the items of the array in order, however
many more rounds are allowed, and pushed one after the other onto the empty array
they make the array again. Its last item is the first one of the last array that
is not empty, or null if there is none. An array onto which a value is pushed is
longer by one, has the value as its last item, and its rest is the rest of the
array with the value pushed onto it. None of these programs changes anything. -/
theorem walk_meets_every_item
    (σ : Type)
    [KeySource σ]
    [LineSink σ]
    [HostCalls σ]
    {items : List Value}
    (short : items.length ≤ greatestInt) :
    (∃ count : Int64,
      (invoke "len" [.array items] : OptionT (StateM σ) Value) =
        pure (.int count) ∧
      count.toInt = items.length) ∧
    (∀ steps, steps ≤ items.length ->
      (dropFirsts steps (.array items) : OptionT (StateM σ) Value) =
        pure (.array (items.drop steps))) ∧
    (dropFirsts (items.length + 1) (.array items) :
      OptionT (StateM σ) Value) = pure .null ∧
    (∀ rounds, items.length ≤ rounds ->
      (visit rounds (.array items) : OptionT (StateM σ) (List Value)) =
        pure items ∧
      (visit rounds (.array items) >>= fun met => pushAll (.array []) met :
        OptionT (StateM σ) Value) = pure (.array items)) ∧
    (items = [] ->
      (invoke "last" [.array items] : OptionT (StateM σ) Value) =
        pure .null) ∧
    (∀ steps, steps + 1 = items.length ->
      (invoke "last" [.array items] : OptionT (StateM σ) Value) =
        dropFirsts steps (.array items) >>= fun final =>
          invoke "first" [final]) ∧
    ∀ value : Value,
      (items.length + 1 ≤ greatestInt -> ∃ count : Int64,
        (invoke "push" [.array items, value] >>= fun pushed =>
            invoke "len" [pushed] : OptionT (StateM σ) Value) =
          pure (.int count) ∧
        count.toInt = items.length + 1) ∧
      (invoke "push" [.array items, value] >>= fun pushed =>
          invoke "last" [pushed] : OptionT (StateM σ) Value) = pure value ∧
      (invoke "push" [.array items, value] >>= fun pushed =>
          invoke "rest" [pushed] : OptionT (StateM σ) Value) =
        if items.isEmpty then pure (.array [])
        else invoke "rest" [.array items] >>= fun rest =>
          invoke "push" [rest, value] := by
  refine ⟨?_, fun _ => dropFirsts_of_le, dropFirsts_succ_length items, ?_, ?_,
    fun _ => invoke_last_eq_first, ?_⟩
  case refine_1 =>
    obtain ⟨count, countEq, exact⟩ := toInt_ofCount short
    exact ⟨count, by rw [invoke_len, countEq], exact⟩
  case refine_2 =>
    intro rounds enough
    have met := visit_of_le (σ := σ) enough
    refine ⟨met, ?_⟩
    rw [met, pure_bind, pushAll_array, List.nil_append]
  case refine_3 =>
    rintro rfl
    rfl
  case refine_4 =>
    intro value
    refine ⟨?_, ?_, invoke_push_rest items value⟩
    · intro pushedShort
      obtain ⟨count, countEq, exact⟩ := toInt_ofCount pushedShort
      refine ⟨count, ?_, exact⟩
      rw [invoke_push, pure_bind, invoke_len, List.length_append,
        List.length_singleton, countEq]
    · rw [invoke_push, pure_bind, invoke_last, List.getLast?_concat,
        Option.getD_some]

end Walk
end

namespace Walk

open Prelude

/-- A walk over an array with null, a failure and an array as items takes none of
them for its end. -/
theorem walk_meets_null_and_failure :
    let items : List Value :=
      [.null, .failure ⟨.custom, "stored"⟩, .array [.null]]
    items.length ≤ greatestInt ∧
      (visit 7 (.array items) :
        OptionT (StateM (Session Memo)) (List Value)) = pure items ∧
      (dropFirsts 3 (.array items) :
        OptionT (StateM (Session Memo)) Value) = pure (.array []) ∧
      (dropFirsts 4 (.array items) :
        OptionT (StateM (Session Memo)) Value) = pure .null ∧
      (dropFirsts 2 (.array items) >>= fun final => invoke "first" [final] :
        OptionT (StateM (Session Memo)) Value) = pure (.array [.null]) := by
  intro items
  have short : items.length ≤ greatestInt := by decide
  obtain ⟨_, rests, ends, visits, _, last, _⟩ :=
    walk_meets_every_item (Session Memo) short
  refine ⟨short, (visits 7 (by decide)).1, rests 3 (by decide), ends, ?_⟩
  rw [← last 2 rfl]
  rfl

end Walk
end Monkey
