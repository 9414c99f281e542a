import Mathlib
import Monkey.Proofs.ByteOrder
import Monkey.Proofs.QuotedReading
import Monkey.Proofs.ScopeHistory

/-!
# Summaries of scopes

The debug text of a scope is made of the names bound in it and of whether another
scope encloses it. Binding a name again leaves it one name, and the names are
listed in ascending order, so the set of names determines the list. After any
history the text therefore says which names were ever set in the scope and how the
scope was created, and nothing else.
-/

namespace Monkey

/-! ## Names in order -/

/-- A set of names is determined by its names in order. -/
theorem sort_injective :
    Function.Injective fun names : Finset String => names.sort := by
  intro left right same
  rw [← left.sort_toFinset (· ≤ ·), ← right.sort_toFinset (· ≤ ·)]
  exact congrArg List.toFinset same

/-- Sorted names are in the order of their bytes. -/
theorem pairwise_utf8_sort (names : Finset String) :
    names.sort.Pairwise fun name later => utf8 name < utf8 later :=
  names.sortedLT_sort.pairwise.imp utf8_lt_utf8

/-! ## Reading the text back -/

theorem delimits_quotedList : Delimits AnyEnding ", " "]" :=
  ⟨by decide, fun _ => trivial, fun _ => trivial⟩

/-- Lists of quoted texts are alike only if they list the same texts. -/
theorem alikeOnlyIf_quotedList
    (ending : String -> Prop)
    (contents others : List String) :
    AlikeOnlyIf ending (quotedList contents) (quotedList others)
      (contents = others) := by
  have begins (content : String) : Begins "\"" (quoted content) := by
    refine ⟨String.ofList (content.toList.flatMap Quoted.escape ++ ['"']), ?_⟩
    rw [quoted, Quoted.encode, ← List.singleton_append, String.ofList_append]
  have apart : Apart "\"" "]" := by decide
  have starts (content : String) (_ : True) (rest closed : String) :
      quoted content ++ rest ≠ "]" ++ closed :=
    apart.append_ne_of_begins (begins content) (begins_self "]") rest closed
  have alike : AlikeOnlyIf ending (quotedList contents) (quotedList others)
      (List.Forall₂ Eq contents others) :=
    delimits_quotedList.alike_bracketed "[" starts (fun _ _ => trivial)
      (fun _ _ => trivial) fun content _ other _ =>
        alikeOnlyIf_quoted _ content other
  rwa [List.forall₂_eq_eq_eq] at alike

section

variable [Embedding]

/-! ## Scopes -/

namespace Scope

theorem perm_names (scope : Scope) : scope.names.Perm scope.bindings.keys :=
  List.mergeSort_perm _ _

/-- Names are listed in ascending order. -/
theorem pairwise_names (scope : Scope) : scope.names.Pairwise (· ≤ ·) := by
  have ordered : scope.names.Pairwise fun left right =>
      decide (left ≤ right) = true := by
    refine List.pairwise_mergeSort ?_ ?_ _
    · simpa using fun _ _ _ => le_trans
    · simpa using le_total
  simpa using ordered

/-- The listed names are the bound ones, sorted. -/
theorem names_eq_sort
    {scope : Scope}
    (nodup : scope.bindings.keys.Nodup) :
    scope.names = scope.bindings.keys.toFinset.sort := by
  have namesNodup := scope.perm_names.nodup_iff.mpr nodup
  rw [← List.toFinset_eq_of_perm _ _ scope.perm_names]
  exact ((List.toFinset_sort _ namesNodup).mpr scope.pairwise_names).symm

end Scope

/-- Scopes have one debug text exactly when they bind the same names and are both
enclosed or both not. -/
theorem Scope.debug_eq_iff (scope other : Scope) :
    scope.debug = other.debug ↔
      scope.names = other.names ∧ scope.outer.isSome = other.outer.isSome := by
  constructor
  · intro sameText
    unfold debug at sameText
    have flags : AlikeOnlyIf AnyEnding
        (if scope.outer.isSome then "true" else "false")
        (if other.outer.isSome then "true" else "false")
        (scope.outer.isSome = other.outer.isSome) :=
      .of_apart (fun flag : Bool => if flag then "true" else "false")
        (by decide) _ _
    have alike : AlikeOnlyIf AnyEnding scope.debug other.debug _ :=
      (((alikeOnlyIf_quotedList AnyEnding scope.names other.names).behind
        "Env(Environment \x7b bindings: ").followedBy ", has_outer: ").join
          flags |>.followedBy " \x7d)"
    exact alike.of_eq trivial sameText
  · rintro ⟨sameNames, sameOuter⟩
    unfold debug
    rw [sameNames, sameOuter]

/-! ## Scopes of a history -/

namespace Scopes
namespace History

/-- The bound names are those ever set. -/
theorem names_scope (history : History) (id : ScopeId) :
    (history.scope id).names = (history.names id).sort := by
  have nodup : (history.scope id).bindings.keys.Nodup :=
    Table.nodup_keys_insertAll Table.nodup_keys_empty _
  rw [Scope.names_eq_sort nodup]
  congr 1
  ext name
  rw [List.mem_toFinset, names, List.mem_toFinset]
  change name ∈ (Table.empty.insertAll _).keys ↔ _
  rw [Table.mem_keys_insertAll, List.map_reverse, List.mem_reverse]
  exact or_iff_right List.not_mem_nil

/-- A scope was created as one enclosed by another. -/
def CreatedEnclosed (history : History) (id : ScopeId) : Prop :=
  ∃ handle past, Action.enclose handle :: past <:+ history ∧ created past = id

theorem createdEnclosed_cons_iff
    (action : Action)
    (past : History)
    (id : ScopeId) :
    CreatedEnclosed (action :: past) id ↔
      (∃ handle, action = .enclose handle ∧ created past = id) ∨
        past.CreatedEnclosed id := by
  simp only [CreatedEnclosed, List.suffix_cons_iff, List.cons.injEq]
  constructor
  · rintro ⟨handle, past, ⟨rfl, rfl⟩ | earlier, createdEq⟩
    · exact .inl ⟨handle, rfl, createdEq⟩
    · exact .inr ⟨handle, past, earlier, createdEq⟩
  · rintro (⟨handle, rfl, createdEq⟩ | ⟨handle, earlier, within, createdEq⟩)
    · exact ⟨handle, past, .inl ⟨rfl, rfl⟩, createdEq⟩
    · exact ⟨handle, earlier, .inr within, createdEq⟩

/-- A scope is enclosed exactly when it was created so. -/
theorem isSome_outer?_iff
    {history : History}
    (valid : history.Valid)
    (id : ScopeId) :
    (history.outer? id).isSome ↔ history.CreatedEnclosed id := by
  induction history with
  | nil => simp [outer?, CreatedEnclosed]
  | cons action past inductionHypothesis =>
      rw [createdEnclosed_cons_iff]
      cases action with
      | create => simpa [outer?] using inductionHypothesis valid
      | share | bind => simpa [outer?] using inductionHypothesis valid.2
      | enclose handle =>
          by_cases last : id = created past
          · simp [outer?, last, valid.1]
          · simpa [outer?, last, Ne.symm last] using inductionHypothesis valid.2

end History

/-- A scope of the heap is the one that the history describes. -/
theorem Represents.scope_eq
    {history : History}
    {held : Held}
    (represents : Represents history held)
    {id : ScopeId}
    (created : id < history.created) :
    held.scopes.scope id = history.scope id := by
  rw [Scopes.scope, represents.get?_eq id created, Option.getD_some]

/-! ## Canonical summaries -/

/-- The debug text of a scope is a canonical summary. After any valid history, and
through any handle, it lists exactly the names ever set in the scope, each once and
in the order of their bytes, and it says whether the scope was created as one
enclosed by another. So two scopes, after one history or after two, have the same
text exactly when the same names were set in both, and both or neither were created
enclosed: the order of the sets, their repetition, the values, and what is bound
elsewhere play no part. -/
theorem debug_after_history
    {history : History}
    (valid : history.Valid)
    {handle : Nat}
    {id : ScopeId}
    (obtained : history.handles[handle]? = some id) :
    let scope := (Held.run history).scopes.scope id
    (Held.run history).handles[handle]? = some id ∧
      (∃ (names : List String) (hasOuter : Bool),
        scope.debug =
          "Env(Environment \x7b bindings: " ++ quotedList names ++
            ", has_outer: " ++ (if hasOuter then "true" else "false") ++
            " \x7d)" ∧
        (∀ name, name ∈ names ↔ name ∈ history.names id) ∧
        names.Pairwise (fun name later => utf8 name < utf8 later) ∧
        (hasOuter = true ↔ history.CreatedEnclosed id)) ∧
      ∀ {other : History}, other.Valid ->
        ∀ {otherHandle : Nat} {otherId : ScopeId},
          other.handles[otherHandle]? = some otherId ->
            (scope.debug =
                ((Held.run other).scopes.scope otherId).debug ↔
              history.names id = other.names otherId ∧
                (history.CreatedEnclosed id ↔
                  other.CreatedEnclosed otherId)) := by
  intro scope
  have represents := Represents.run valid
  have scopeEq : scope = history.scope id :=
    represents.scope_eq (History.lt_created_of_handle obtained)
  refine ⟨by rw [represents.handles_eq, obtained], ?_, ?_⟩
  · refine ⟨(history.names id).sort, (history.outer? id).isSome, ?_, ?_,
      pairwise_utf8_sort _, History.isSome_outer?_iff valid id⟩
    · rw [scopeEq, ← History.names_scope]
      rfl
    · exact fun name => Finset.mem_sort _
  · intro other otherValid otherHandle otherId otherObtained
    rw [scopeEq, (Represents.run otherValid).scope_eq
      (History.lt_created_of_handle otherObtained), Scope.debug_eq_iff,
      History.names_scope, History.names_scope, sort_injective.eq_iff,
      ← History.isSome_outer?_iff valid,
      ← History.isSome_outer?_iff otherValid, ← Bool.eq_iff_iff]
    rfl

end Scopes
end

namespace Scopes

/-- An enclosed scope in which a closure over that scope is bound and one name is set
twice has the same text as one in which the names were set in the other order and
through a copied handle, and not the text of the scope around it. -/
theorem debug_after_sets_in_another_order :
    let recursive : Value := .closure ⟨[], .int 0, 0, 1⟩
    let history : History :=
      [.bind 1 "b" .null, .bind 0 "c" (.int 2), .bind 1 "a" recursive,
        .bind 1 "b" (.int 1), .enclose 0, .create]
    let other : History :=
      [.bind 2 "b" .null, .bind 1 "a" .null, .share 1, .enclose 0, .create]
    history.Valid ∧ history.handles[1]? = some 1 ∧
      history.handles[0]? = some 0 ∧ other.Valid ∧
      other.handles[2]? = some 1 ∧
      ((Held.run history).scopes.scope 1).debug =
        ((Held.run other).scopes.scope 1).debug ∧
      ((Held.run history).scopes.scope 1).debug ≠
        ((Held.run history).scopes.scope 0).debug := by
  intro recursive history other
  have valid : history.Valid := by
    simp [history, History.Valid, History.handles]
  have otherValid : other.Valid := by
    simp [other, History.Valid, History.handles]
  have inner : history.handles[1]? = some 1 := rfl
  have outer : history.handles[0]? = some 0 := rfl
  have otherInner : other.handles[2]? = some 1 := rfl
  have enclosed : history.CreatedEnclosed 1 :=
    (History.isSome_outer?_iff valid 1).mp rfl
  have otherEnclosed : other.CreatedEnclosed 1 :=
    (History.isSome_outer?_iff otherValid 1).mp rfl
  obtain ⟨_, _, sameText⟩ := debug_after_history valid inner
  refine ⟨valid, inner, outer, otherValid, otherInner, ?_, ?_⟩
  · exact (sameText otherValid otherInner).mpr
      ⟨by decide, iff_of_true enclosed otherEnclosed⟩
  · intro equal
    have sameNames := ((sameText valid outer).mp equal).1
    revert sameNames
    decide

end Scopes
end Monkey
