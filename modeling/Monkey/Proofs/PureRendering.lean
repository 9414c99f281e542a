import Monkey.Proofs.CanonicalOrder
import Monkey.Value.Render

/-!
# Rendering is pure

The evaluator's code for a body gives the text of that body and does nothing else, as
an embedding says. So does rendering a whole value, whatever closures are in it and
wherever they are: the result is the text of the value in every world of the
evaluator, and the world stays as it is.
-/

namespace Monkey

/-! ## Listings -/

/-- What entries carry besides their atoms plays no part in the canonical order. -/
theorem canonicalOrder_map
    {α β : Type}
    (change : α -> β)
    (entries : List (Atom × α)) :
    canonicalOrder (entries.map fun entry => (entry.1, change entry.2)) =
      (canonicalOrder entries).map fun entry => (entry.1, change entry.2) := by
  unfold canonicalOrder
  rw [List.map_mergeSort]
  exact fun _ _ _ _ => rfl

variable [Embedding]

/-- Entries whose texts are known are written as these texts. -/
theorem renderListing_pure
    (write : Atom -> String -> String)
    (entries : List (Atom × String)) :
    renderListing write (entries.map fun entry => (entry.1, pure entry.2)) =
      pure ((canonicalOrder entries).map fun entry =>
        write entry.1 entry.2) := by
  rw [renderListing, canonicalOrder_map]
  simp only [List.mapM_map, Function.comp_def, map_pure]
  exact List.mapM_pure

/-! ## Displayed texts -/

theorem Closure.render_eq_pure (closure : Closure) :
    closure.render = pure closure.display := by
  rw [render, Embedding.renderBody_pure, pure_bind]
  rfl

-- The recursion follows the three functions that display a value.
mutual

/-- Displaying a value is pure. -/
theorem Value.render_eq_pure (value : Value) :
    value.render = pure value.display := by
  match value with
  | .atom _ | .null | .failure _ | .builtin _ | .set _ => rfl
  | .returned value => exact value.render_eq_pure
  | .closure function => exact function.render_eq_pure
  | .array items =>
      rw [Value.render, Value.renderItems_eq_pure, pure_bind]
      rfl
  | .hash ⟨pairs⟩ =>
      rw [Value.render, Value.renderPairs_eq_map, renderListing_pure, pure_bind]
      rfl

theorem Value.renderItems_eq_pure (items : List Value) :
    Value.renderItems items = pure (Value.displayItems items) := by
  match items with
  | [] => rfl
  | value :: rest =>
      rw [Value.renderItems, value.render_eq_pure,
        Value.renderItems_eq_pure rest, pure_bind, pure_bind]
      rfl

theorem Value.renderPairs_eq_map (pairs : List (Key × Atom × Value)) :
    Value.renderPairs pairs =
      (Value.displayPairs pairs).map fun entry =>
        (entry.1, pure entry.2) := by
  match pairs with
  | [] => rfl
  | (_, keyAtom, value) :: rest =>
      rw [Value.renderPairs, value.render_eq_pure,
        Value.renderPairs_eq_map rest]
      rfl

end

/-! ## Debug texts -/

theorem Closure.inspect_eq_pure (closure : Closure) :
    closure.inspect = pure closure.debug := by
  rw [inspect, Embedding.inspectBody_pure, pure_bind]
  rfl

mutual

/-- Giving the debug text of a value is pure. -/
theorem Value.inspect_eq_pure (value : Value) :
    value.inspect = pure value.debug := by
  match value with
  | .atom _ | .null | .failure _ | .builtin _ | .set _ => rfl
  | .returned value =>
      rw [Value.inspect, value.inspect_eq_pure, pure_bind]
      rfl
  | .closure function =>
      rw [Value.inspect, function.inspect_eq_pure, pure_bind]
      rfl
  | .array items =>
      rw [Value.inspect, Value.inspectItems_eq_pure, pure_bind]
      rfl
  | .hash ⟨pairs⟩ =>
      rw [Value.inspect, Value.inspectPairs_eq_map, renderListing_pure,
        pure_bind]
      rfl

theorem Value.inspectItems_eq_pure (items : List Value) :
    Value.inspectItems items = pure (Value.debugItems items) := by
  match items with
  | [] => rfl
  | value :: rest =>
      rw [Value.inspectItems, value.inspect_eq_pure,
        Value.inspectItems_eq_pure rest, pure_bind, pure_bind]
      rfl

theorem Value.inspectPairs_eq_map (pairs : List (Key × Atom × Value)) :
    Value.inspectPairs pairs =
      (Value.debugPairs pairs).map fun entry => (entry.1, pure entry.2) := by
  match pairs with
  | [] => rfl
  | (key, keyAtom, value) :: rest =>
      rw [Value.inspectPairs, value.inspect_eq_pure, pure_bind,
        Value.inspectPairs_eq_map rest]
      rfl

end

end Monkey
