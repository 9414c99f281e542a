import Monkey.Prelude
import Monkey.Proofs.Equality
import Monkey.Session.HostFunctions

/-!
# Ways to build a set

A set can be built from a list at once, one element after the other, as the
union of two sets, or by the builtin that pushes an element onto it. With a
lawful key source all of these file the same atoms in the same order, up to
differences that no lookup sees: they agree on which elements they keep, on
which element they reject, and on the failure by which a program learns of it.
-/

namespace Monkey

section

variable [Embedding]

/-! ## Equal sets -/

/-- Two sets are equal, and they store the same atoms under the same keys. -/
def MemberSet.SameMembers (left right : MemberSet) : Prop :=
  (Value.set left == .set right) = true ∧
    ∀ key, left.get? key = right.get? key

theorem MemberSet.sameMembers_of_get?_eq
    {left right : MemberSet}
    (leftFiled : Filed id left)
    (rightFiled : Filed id right)
    (sameAtoms : ∀ key, left.get? key = right.get? key) :
    left.SameMembers right := by
  refine ⟨?_, sameAtoms⟩
  have sameLookup : left.get? = right.get? := funext sameAtoms
  rw [Value.set_beq_set_iff leftFiled.1 rightFiled.1, sameLookup]
  exact Matches.refl fun _ member _ => member.beq_refl

/-! ## The atoms that are filed -/

/-- Only atoms are accepted as elements. -/
theorem Value.mapM_toAtom_eq_ok_iff
    (elements : List Value)
    (atoms : List Atom) :
    elements.mapM Value.toAtom = .ok atoms ↔ elements = atoms.map .atom :=
  mapM_eq_ok_iff toAtom_eq_ok_iff elements atoms

/-- A rejection is that of the first element without a key. -/
def FirstUnhashable (elements : List Value) (rejected : Unhashable) : Prop :=
  ∃ front element back, elements = front ++ element :: back ∧
    (∀ earlier ∈ front, earlier.kind.isHashable = true) ∧
    element.kind.isHashable = false ∧ rejected = ⟨element.kind⟩

theorem Value.mapM_toAtom_eq_error_iff
    (elements : List Value)
    (rejected : Unhashable) :
    elements.mapM Value.toAtom = .error rejected ↔
      FirstUnhashable elements rejected := by
  rw [mapM_eq_error_iff]
  simp only [exists_toAtom_eq_ok_iff, toAtom_eq_error_iff]
  rfl

/-! ## Sets of filed atoms -/

namespace MemberSet

/-- Filing two lists one after the other gives the union of what they give
apart. -/
theorem sameMembers_fileAll_append (front back : List Atom) :
    SameMembers (Table.empty.fileAll id (front ++ back))
      (union (Table.empty.fileAll id front) (Table.empty.fileAll id back)) := by
  have filed (atoms : List Atom) : Filed id (Table.empty.fileAll id atoms) :=
    (filed_empty id).fileAll atoms
  refine sameMembers_of_get?_eq (filed _) ((filed front).merge (filed back)) ?_
  intro key
  rw [Table.fileAll_append]
  exact (Table.get?_merge_insertAll _ _ key).symm

/-- Filing the members of a set in any order gives the union with it. -/
theorem sameMembers_fileAll_of_perm
    {left right : MemberSet}
    (leftFiled : Filed id left)
    (rightFiled : Filed id right)
    {order : List Atom}
    (permuted : order.Perm (right.entries.map Prod.snd)) :
    SameMembers (left.fileAll id order) (union left right) := by
  refine sameMembers_of_get?_eq (leftFiled.fileAll order)
    (leftFiled.merge rightFiled) ?_
  intro key
  exact Table.get?_fileAll_of_perm left rightFiled permuted key

end MemberSet

/-! ## What the operations answer -/

section Answers

variable {σ : Type} [KeySource σ] [LawfulKeySource σ] {known : Set Text}

/-- Adding atoms to a set one after the other files all of them. -/
theorem answers_foldlM_atoms
    (members : MemberSet)
    {atoms : List Atom}
    (atomsKnown : ∀ atom ∈ atoms, atom.Known known) :
    Answers known
      ((atoms.map Value.atom).foldlM MemberSet.withElement members :
        Filing σ MemberSet).run
      (.ok (members.fileAll id atoms)) := by
  have elementsKnown : ∀ element ∈ atoms.map Value.atom,
      element.Known known := by
    intro element member
    obtain ⟨atom, atomMember, rfl⟩ := List.mem_map.mp member
    exact atomsKnown atom atomMember
  have answers := answers_foldlM_withElement (σ := σ) members elementsKnown
  rw [(Value.mapM_toAtom_eq_ok_iff _ _).mpr rfl] at answers
  exact answers

/-- A set of atoms holds all of them. -/
theorem answers_ofElements_atoms
    {atoms : List Atom}
    (atomsKnown : ∀ atom ∈ atoms, atom.Known known) :
    Answers known
      (MemberSet.ofElements (atoms.map .atom) : Filing σ MemberSet).run
      (.ok (Table.empty.fileAll id atoms)) := by
  rw [MemberSet.ofElements, MemberSet.extend_eq_foldlM]
  exact answers_foldlM_atoms Table.empty atomsKnown

/-- What a program sees of building a set: the set, or the failure for the
rejected element. -/
def Value.ofBuilt : Except Unhashable MemberSet -> Value
  | .ok members => .set members
  | .error rejected => .ofFault rejected.fault

/-- A value reports what came of building a set: it is the set, or the failure
that names the kind of the rejected element. -/
structure Value.Reports
    (value : Value)
    (result : Except Unhashable MemberSet) : Prop where
  built : ∀ members, result = .ok members -> value = .set members
  rejected :
    ∀ rejected, result = .error rejected ->
      value = .failure ⟨.unsupported,
        "unusable as hash key: " ++ rejected.kind.name⟩

/-- What a program sees of building a set reports it. -/
theorem Value.reports_ofBuilt (result : Except Unhashable MemberSet) :
    (Value.ofBuilt result).Reports result where
  built := by
    rintro members rfl
    rfl
  rejected := by
    rintro rejected rfl
    rfl

omit [KeySource σ] [LawfulKeySource σ] in
theorem Filing.toValue_set (filing : Filing σ MemberSet) :
    Filing.toValue (Value.set <$> filing) = Value.ofBuilt <$> filing.run := by
  rw [Filing.toValue_eq, ExceptT.run_map, Functor.map_map]
  refine congrArg (· <$> filing.run) (funext fun result => ?_)
  cases result <;> rfl

theorem answers_toValue
    {filing : Filing σ MemberSet}
    {result : Except Unhashable MemberSet}
    (answers : Answers known filing.run result) :
    Answers known (Filing.toValue (Value.set <$> filing))
      (Value.ofBuilt result) := by
  rw [Filing.toValue_set]
  exact answers.map Value.ofBuilt

omit [LawfulKeySource σ] in
/-- Pushing an element onto a set is adding it. -/
theorem Builtin.run_push_set
    (members : MemberSet)
    (element : Value) :
    (push [.set members, element] : ExceptT Fault (StateM σ) Value).run =
      (fun result => (result.mapError Unhashable.fault).map Value.set) <$>
        (members.withElement element : Filing σ MemberSet).run := by
  change (Value.set <$> (members.withElement element).adapt _).run = _
  rw [ExceptT.run_map, ExceptT.run_adapt, Functor.map_map]

theorem answers_push_set
    {members : MemberSet}
    {element : Value}
    {result : Except Unhashable MemberSet}
    (answers : Answers known
      (members.withElement element : Filing σ MemberSet).run result) :
    Answers known
      (Builtin.push [.set members, element] :
        ExceptT Fault (StateM σ) Value).run
      ((result.mapError Unhashable.fault).map Value.set) := by
  rw [Builtin.run_push_set]
  exact answers.map _

/-- Pushing an element onto a set shows a program what adding it answers. -/
theorem answers_call_push
    [LineSink σ]
    [HostCalls σ]
    {members : MemberSet}
    {element : Value}
    {result : Except Unhashable MemberSet}
    (answers : Answers known
      (members.withElement element : Filing σ MemberSet).run result) :
    Answers known
      (Prelude.call "push" [.set members, element] : StateM σ (Option Value))
      (some (Value.ofBuilt result)) := by
  have called : Answers known
      (Builtin.call ⟨"push", .push⟩ [.set members, element] : StateM σ Value)
      (Value.ofBuilt result) := by
    refine (answers_push_set answers).bind ?_
    cases result <;> exact Answers.pure _
  exact called.map some

/-- One more element at the end of a list is added to the set of the list. -/
theorem answers_ofElements_snoc
    {elements : List Value}
    {members : MemberSet}
    {element : Value}
    {result : Except Unhashable MemberSet}
    (elementsAnswer : Answers known
      (MemberSet.ofElements elements : Filing σ MemberSet).run (.ok members))
    (elementAnswer : Answers known
      (members.withElement element : Filing σ MemberSet).run result) :
    Answers known
      (MemberSet.ofElements (elements ++ [element]) :
        Filing σ MemberSet).run
      result := by
  rw [MemberSet.ofElements, MemberSet.extend_eq_foldlM] at elementsAnswer ⊢
  rw [List.foldlM_append]
  refine answers_filing_bind elementsAnswer ?_
  rw [List.foldlM_cons]
  simpa only [List.foldlM_nil, bind_pure] using elementAnswer

/-- The first element without a key is the one that a set rejects. -/
theorem MemberSet.fileAll_eq_error_iff
    (members : MemberSet)
    (elements : List Value)
    (rejected : Unhashable) :
    (elements.mapM Value.toAtom).map (members.fileAll id) = .error rejected ↔
      FirstUnhashable elements rejected := by
  have unmapped : (elements.mapM Value.toAtom).map (members.fileAll id) =
        .error rejected ↔ elements.mapM Value.toAtom = .error rejected := by
    cases elements.mapM Value.toAtom <;> simp [Except.map]
  rw [unmapped, Value.mapM_toAtom_eq_error_iff]

/-- A list at once and its elements one by one are answered alike: with the last
atom under each key, or with the rejection of the first element without one. -/
theorem answers_list_and_elements
    {elements : List Value}
    (elementsKnown : ∀ element ∈ elements, element.Known known) :
    ∃ result,
      Answers known
        (MemberSet.ofElements elements : Filing σ MemberSet).run result ∧
      Answers known
        (elements.foldlM MemberSet.withElement Table.empty :
          Filing σ MemberSet).run result ∧
      (∀ rejected, result = .error rejected ↔
        FirstUnhashable elements rejected) ∧
      ∀ members, result = .ok members ->
        ∃ atoms, elements = atoms.map Value.atom ∧
          ∀ key atom, members.get? key = some atom ↔
            LastUnder id atoms key atom := by
  refine ⟨_, answers_ofElements elementsKnown,
    answers_foldlM_withElement Table.empty elementsKnown,
    MemberSet.fileAll_eq_error_iff Table.empty elements, ?_⟩
  intro members accepted
  cases atomsAccepted : elements.mapM Value.toAtom with
  | error rejected =>
      rw [atomsAccepted] at accepted
      cases accepted
  | ok atoms =>
      rw [atomsAccepted] at accepted
      cases accepted
      exact ⟨atoms, (Value.mapM_toAtom_eq_ok_iff _ _).mp atomsAccepted,
        Table.get?_fileAll_empty_eq_some_iff id atoms⟩

/-- Pushing a value onto the set of a list is answered like the list with this
value at its end. -/
theorem answers_push_and_snoc
    [LineSink σ]
    [HostCalls σ]
    {elements : List Value}
    {element : Value}
    (elementsKnown : ∀ other ∈ elements, other.Known known)
    (elementKnown : element.Known known) :
    ∃ result extended before after,
      Answers known
        (MemberSet.ofElements elements : Filing σ MemberSet).run result ∧
      Answers known
        (MemberSet.ofElements (elements ++ [element]) :
          Filing σ MemberSet).run extended ∧
      Answers known (Value.ofElements elements : StateM σ Value) before ∧
      Answers known
        (Value.ofElements (elements ++ [element]) : StateM σ Value) after ∧
      before.Reports result ∧ after.Reports extended ∧
      ∀ members, before = .set members ->
        Answers known
          (Prelude.call "push" [before, element] : StateM σ (Option Value))
          (some after) := by
  have elementsAnswer := answers_ofElements (σ := σ) elementsKnown
  cases built : (elements.mapM Value.toAtom).map (Table.empty.fileAll id) with
  | error rejected =>
      rw [built] at elementsAnswer
      have allAnswer := answers_ofElements (σ := σ)
        (List.forall_mem_append.mpr
          ⟨elementsKnown, List.forall_mem_singleton.mpr elementKnown⟩)
      refine ⟨_, _, _, _, elementsAnswer, allAnswer,
        answers_toValue elementsAnswer, answers_toValue allAnswer,
        Value.reports_ofBuilt _, Value.reports_ofBuilt _, ?_⟩
      intro members noSet
      cases noSet
  | ok members =>
      rw [built] at elementsAnswer
      have elementAnswer := answers_withElement (σ := σ) members elementKnown
      have allAnswer := answers_ofElements_snoc elementsAnswer elementAnswer
      refine ⟨_, _, _, _, elementsAnswer, allAnswer,
        answers_toValue elementsAnswer, answers_toValue allAnswer,
        Value.reports_ofBuilt _, Value.reports_ofBuilt _, ?_⟩
      intro others sameSet
      cases sameSet
      exact answers_call_push elementAnswer

end Answers

/-! ## All ways agree -/

/-- All ways of building a set agree, whichever lawful source gives the keys.
A list at once and its elements one by one give the same set of the last atoms
under each key, or the same rejection of the first element without one. Two
lists together give the union of what they give apart. The union of two sets is
what adding the members of the second to the first gives, in any order. As a value,
the set of a list reports what came of building it, and pushing a value onto it gives
what the list with this value at its end gives, also when the value is rejected. -/
theorem set_constructions_agree
    (σ : Type)
    [KeySource σ]
    [LawfulKeySource σ]
    [LineSink σ]
    [HostCalls σ]
    (known : Set Text) :
    (∀ elements : List Value, (∀ element ∈ elements, element.Known known) ->
      ∃ result,
        Answers known
          (MemberSet.ofElements elements : Filing σ MemberSet).run result ∧
        Answers known
          (elements.foldlM MemberSet.withElement Table.empty :
            Filing σ MemberSet).run result ∧
        (∀ rejected, result = .error rejected ↔
          FirstUnhashable elements rejected) ∧
        ∀ members, result = .ok members ->
          ∃ atoms, elements = atoms.map Value.atom ∧
            ∀ key atom, members.get? key = some atom ↔
              LastUnder id atoms key atom) ∧
    (∀ front back : List Atom, (∀ atom ∈ front ++ back, atom.Known known) ->
      ∃ together left right,
        Answers known
          (MemberSet.ofElements ((front ++ back).map .atom) :
            Filing σ MemberSet).run (.ok together) ∧
        Answers known
          (MemberSet.ofElements (front.map .atom) :
            Filing σ MemberSet).run (.ok left) ∧
        Answers known
          (MemberSet.ofElements (back.map .atom) :
            Filing σ MemberSet).run (.ok right) ∧
        together.SameMembers (left.union right)) ∧
    (∀ left right : MemberSet,
      (Value.set left).Built -> (Value.set right).Built ->
        ∀ order : List Atom, order.Perm (right.entries.map Prod.snd) ->
          (∀ atom ∈ order, atom.Known known) ->
            ∃ extended,
              Answers known
                ((order.map Value.atom).foldlM MemberSet.withElement left :
                  Filing σ MemberSet).run (.ok extended) ∧
              extended.SameMembers (left.union right)) ∧
    (∀ (elements : List Value) (element : Value),
      (∀ other ∈ elements ++ [element], other.Known known) ->
        ∃ result extended before after,
          Answers known
            (MemberSet.ofElements elements : Filing σ MemberSet).run result ∧
          Answers known
            (MemberSet.ofElements (elements ++ [element]) :
              Filing σ MemberSet).run extended ∧
          Answers known (Value.ofElements elements : StateM σ Value) before ∧
          Answers known
            (Value.ofElements (elements ++ [element]) : StateM σ Value)
            after ∧
          before.Reports result ∧ after.Reports extended ∧
          ∀ members, before = .set members ->
            Answers known
              (Prelude.call "push" [before, element] :
                StateM σ (Option Value))
              (some after)) := by
  refine ⟨?_, ?_, ?_, ?_⟩
  · intro elements elementsKnown
    exact answers_list_and_elements elementsKnown
  · intro front back atomsKnown
    obtain ⟨frontKnown, backKnown⟩ := List.forall_mem_append.mp atomsKnown
    exact ⟨_, _, _, answers_ofElements_atoms atomsKnown,
      answers_ofElements_atoms frontKnown, answers_ofElements_atoms backKnown,
      MemberSet.sameMembers_fileAll_append front back⟩
  · intro left right leftBuilt rightBuilt order permuted orderKnown
    exact ⟨_, answers_foldlM_atoms left orderKnown,
      MemberSet.sameMembers_fileAll_of_perm leftBuilt.wellFormed
        rightBuilt.wellFormed permuted⟩
  · intro elements element allKnown
    obtain ⟨elementsKnown, elementKnown⟩ := List.forall_mem_append.mp allKnown
    exact answers_push_and_snoc elementsKnown
      (List.forall_mem_singleton.mp elementKnown)

end

/-- Texts with one content in cells of their own: the later one stays, and a
value without a key is rejected in the same words. -/
theorem set_constructions_agree_on_one_content :
    let first : Text := ⟨0, "a"⟩
    let second : Text := ⟨1, "a"⟩
    let known : Set Text := {first, second}
    let left : MemberSet := Table.empty.fileAll id [.text first]
    let right : MemberSet := Table.empty.fileAll id [.int 1, .text second]
    let both : MemberSet :=
      Table.empty.fileAll id [.text first, .int 1, .text second]
    Faithful known ({} : Memo) ∧
      both.get? (.ofString "a") = some (.text second) ∧
      Answers known
        ([.text first, .int 1, .text second].foldlM MemberSet.withElement
          Table.empty : Filing (Session Memo) MemberSet).run (.ok both) ∧
      both.SameMembers (left.union right) ∧
      (∃ extended,
        Answers known
          ([.text second, .int 1].foldlM MemberSet.withElement left :
            Filing (Session Memo) MemberSet).run (.ok extended) ∧
        extended.SameMembers (left.union right)) ∧
      Answers known
        (Prelude.call "push" [.set left, .null] :
          StateM (Session Memo) (Option Value))
        (some (.ofFault (Unhashable.fault ⟨.null⟩))) := by
  intro first second known left right both
  have firstKnown : (Atom.text first).Known known := Or.inl rfl
  have secondKnown : (Atom.text second).Known known := Or.inr rfl
  have faithful : Faithful known ({} : Memo) :=
    Memo.faithful_of_distinct_cells [first, second] (by simp [known])
      (by simp [first, second])
  let session : Session Memo := { keys := {} }
  have leftBuilt : (Value.set left).Built :=
    @Value.Built.set _ [.text first] left rfl
  have rightBuilt : (Value.set right).Built :=
    @Value.Built.set _ [.int 1, .text second] right rfl
  obtain ⟨fromList, fromTwo, oneByOne, pushed⟩ :=
    set_constructions_agree (Session Memo) known
  refine ⟨faithful, rfl, ?_, ?_, ?_, ?_⟩
  · obtain ⟨result, listAnswer, foldAnswer, _⟩ :=
      fromList [.text first, .int 1, .text second]
        (by simpa [Value.Known] using ⟨firstKnown, trivial, secondKnown⟩)
    have resultEq : Except.ok both = result := (listAnswer session faithful).1
    rw [resultEq]
    exact foldAnswer
  · obtain ⟨together, front, back, answer, frontAnswer, backAnswer, same⟩ :=
      fromTwo [.text first] [.int 1, .text second]
        (by simpa using ⟨firstKnown, trivial, secondKnown⟩)
    have togetherEq : Except.ok both = .ok together :=
      (answer session faithful).1
    have frontEq : Except.ok left = .ok front :=
      (frontAnswer session faithful).1
    have backEq : Except.ok right = .ok back :=
      (backAnswer session faithful).1
    cases togetherEq
    cases frontEq
    cases backEq
    exact same
  · exact oneByOne left right leftBuilt rightBuilt [.text second, .int 1]
      (.swap _ _ _) (by simpa using ⟨secondKnown, trivial⟩)
  · obtain ⟨_, _, before, after, _, _, beforeAnswer, afterAnswer, _, _, push⟩ :=
      pushed [.text first] .null (by simpa [Value.Known] using firstKnown)
    have beforeEq : Value.set left = before :=
      (beforeAnswer session faithful).1
    have afterEq : Value.ofFault (Unhashable.fault ⟨.null⟩) = after :=
      (afterAnswer session faithful).1
    subst beforeEq afterEq
    exact push left rfl

end Monkey
