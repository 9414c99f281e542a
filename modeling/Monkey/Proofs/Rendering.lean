import Monkey.Proofs.CanonicalOrder
import Monkey.Proofs.Equality
import Monkey.Proofs.Lines
import Monkey.Proofs.Provenance
import Monkey.Proofs.PureRendering
import Monkey.Proofs.Rebuilding

/-!
# Rendering and equality

Equal values have one displayed text and one debug text, and rendering the one does
what rendering the other does. A hash or set is written in the canonical order of its
atoms, in which equal collections list equal atoms, however each of them was built.
Only closures can make a difference: copies of one closure are equal also under other
parameter names, so equal closures must name their parameters alike.
-/

namespace Monkey

/-! ## What is written for one atom -/

/-- What the debug text of a set shows of a member. -/
def memberDebug (atom : Atom) : String :=
  atom.key.debug ++ ": " ++ atom.debug

theorem Atom.display_eq_of_beq
    {left right : Atom}
    (equal : (left == right) = true) :
    left.display = right.display :=
  (Prod.ext_iff.mp (toLex.injective (rank_eq_of_beq equal))).2

theorem Atom.debug_eq_of_beq
    {left right : Atom}
    (equal : (left == right) = true) :
    left.debug = right.debug := by
  have sameKind := kind_eq_of_beq equal
  cases left <;> cases right <;> cases sameKind <;> simp_all [debug]

theorem memberDebug_eq_of_beq
    {left right : Atom}
    (equal : (left == right) = true) :
    memberDebug left = memberDebug right := by
  rw [memberDebug, memberDebug, Atom.key_eq_of_beq equal,
    Atom.debug_eq_of_beq equal]

section

variable [Embedding]

/-! ## What is written for one entry -/

/-- What a displayed hash shows of an entry. -/
def entryDisplay (entry : Atom × Value) : String :=
  entry.1.display ++ ": " ++ entry.2.display

/-- What the debug text of a hash shows of an entry. -/
def entryDebug (entry : Atom × Value) : String :=
  entry.1.key.debug ++ ": HashPair \x7b key: " ++ entry.1.debug ++
    ", value: " ++ entry.2.debug ++ " \x7d"

/-! ## Texts of arrays -/

namespace Value

theorem displayItems_eq_map (items : List Value) :
    displayItems items = items.map display := by
  induction items with
  | nil => rfl
  | cons item rest inductionHypothesis =>
      rw [displayItems, List.map_cons, inductionHypothesis]

theorem debugItems_eq_map (items : List Value) :
    debugItems items = items.map debug := by
  induction items with
  | nil => rfl
  | cons item rest inductionHypothesis =>
      rw [debugItems, List.map_cons, inductionHypothesis]

theorem display_array (items : List Value) :
    (Value.array items).display =
      "[" ++ ",".intercalate (items.map display) ++ "]" := by
  rw [← displayItems_eq_map]
  rfl

theorem debug_array (items : List Value) :
    (Value.array items).debug =
      "Array([" ++ ", ".intercalate (items.map debug) ++ "])" := by
  rw [← debugItems_eq_map]
  rfl

/-! ## Texts of hashes and sets -/

theorem displayPairs_eq_map (entries : List (Key × Atom × Value)) :
    displayPairs entries =
      entries.map fun entry => (entry.2.1, entry.2.2.display) := by
  induction entries with
  | nil => rfl
  | cons entry rest inductionHypothesis =>
      rw [displayPairs, List.map_cons, inductionHypothesis]

theorem debugPairs_eq_map (entries : List (Key × Atom × Value)) :
    debugPairs entries =
      entries.map fun entry => (entry.2.1,
        entry.1.debug ++ ": HashPair \x7b key: " ++ entry.2.1.debug ++
          ", value: " ++ entry.2.2.debug ++ " \x7d") := by
  induction entries with
  | nil => rfl
  | cons entry rest inductionHypothesis =>
      rw [debugPairs, List.map_cons, inductionHypothesis]

/-- A filed hash is displayed as it is listed. -/
theorem display_hash
    {hash : Hash}
    (filed : Filed Prod.fst hash) :
    (Value.hash hash).display =
      "\x7b" ++ ", ".intercalate (hash.pairs.map entryDisplay) ++ "\x7d" := by
  have listed : (canonicalOrder (displayPairs hash.entries)).map
        (fun pair => pair.1.display ++ ": " ++ pair.2) =
      hash.pairs.map entryDisplay := by
    rw [displayPairs_eq_map]
    refine map_canonicalOrder_eq ?_ (List.Perm.of_eq ?_)
    · rw [List.map_map]
      exact filed.nodup_ranks
    · rw [List.map_map, List.map_map]
      rfl
  rw [← listed]
  rfl

/-- The debug text of a filed hash lists its entries under their keys. -/
theorem debug_hash
    {hash : Hash}
    (filed : Filed Prod.fst hash) :
    (Value.hash hash).debug =
      "Hash(HashValue \x7b pairs: \x7b" ++
        ", ".intercalate (hash.pairs.map entryDebug) ++ "\x7d \x7d)" := by
  have listed : (canonicalOrder (debugPairs hash.entries)).map Prod.snd =
      hash.pairs.map entryDebug := by
    rw [debugPairs_eq_map]
    refine map_canonicalOrder_eq ?_ (List.Perm.of_eq ?_)
    · rw [List.map_map]
      exact filed.nodup_ranks
    · rw [List.map_map, List.map_map]
      refine List.map_congr_left fun entry member => ?_
      simp only [Function.comp_apply, entryDebug, filed.2 entry member]
  rw [← listed]
  rfl

end Value

omit [Embedding] in
/-- What is written of the members of a filed set in canonical order, one by
one. -/
theorem MemberSet.map_listing_eq
    {members : MemberSet}
    (filed : Filed id members)
    {text : Key × Atom -> String}
    {write : Atom -> String}
    (sameText : ∀ entry ∈ members.entries, text entry = write entry.2) :
    (canonicalOrder
        (members.entries.map fun entry => (entry.2, text entry))).map
          Prod.snd =
      (MemberSet.members members).map write := by
  rw [MemberSet.members, List.map_map]
  refine map_canonicalOrder_eq ?_ (List.Perm.of_eq ?_)
  · rw [List.map_map]
    exact filed.nodup_ranks
  · rw [List.map_map, List.map_map]
    refine List.map_congr_left fun entry member => ?_
    simp only [Function.comp_apply, sameText entry member]

/-- A filed set is displayed as it is listed. -/
theorem Value.display_set
    {members : MemberSet}
    (filed : Filed id members) :
    (Value.set members).display =
      "set(" ++ ",".intercalate
        ((MemberSet.members members).map Atom.display) ++ ")" := by
  rw [← MemberSet.map_listing_eq filed fun _ _ => rfl]
  rfl

/-- The debug text of a filed set lists its members under their keys. -/
theorem Value.debug_set
    {members : MemberSet}
    (filed : Filed id members) :
    (Value.set members).debug =
      "Set(" ++ ("SetValue \x7b members: \x7b" ++ ", ".intercalate
        ((MemberSet.members members).map memberDebug) ++ "\x7d \x7d") ++
          ")" := by
  have sameText : ∀ entry ∈ members.entries,
      entry.1.debug ++ ": " ++ entry.2.debug = memberDebug entry.2 := by
    intro entry member
    rw [memberDebug, filed.2 entry member, id_eq]
  rw [← MemberSet.map_listing_eq filed sameText]
  rfl

/-! ## Equal values -/

namespace Value

/-- Two values have one displayed text and one debug text. -/
def SameTexts (left right : Value) : Prop :=
  left.display = right.display ∧ left.debug = right.debug

/-- Rendering two values is the same computation of the evaluator, for the displayed
texts and for the debug texts. -/
def SameRendering (left right : Value) : Prop :=
  left.render = right.render ∧ left.inspect = right.inspect

/-- As rendering is pure, values with the same texts are rendered alike. -/
theorem SameTexts.sameRendering
    {left right : Value}
    (sameTexts : left.SameTexts right) :
    left.SameRendering right := by
  obtain ⟨sameDisplay, sameDebug⟩ := sameTexts
  refine ⟨?_, ?_⟩
  · rw [render_eq_pure, render_eq_pure, sameDisplay]
  · rw [inspect_eq_pure, inspect_eq_pure, sameDebug]

/-- Closures in two values that are equal have one parameter list and one
body. -/
def ClosuresAgree (left right : Value) : Prop :=
  ∀ function other : Closure,
    (Value.closure function).Within left -> (Value.closure other).Within right ->
      (function == other) = true ->
        function.params = other.params ∧ function.body = other.body

/-- The texts of a closure show its parameters and its body. -/
theorem sameTexts_closure
    {function other : Closure}
    (sameParams : function.params = other.params)
    (sameBody : function.body = other.body) :
    (Value.closure function).SameTexts (.closure other) := by
  have sameDebug : function.debug = other.debug := by
    unfold Closure.debug
    rw [sameParams, sameBody]
  refine ⟨?_, congrArg (fun text => "Function(" ++ text ++ ")") sameDebug⟩
  change function.display = other.display
  rw [Closure.display, Closure.display, sameParams, sameBody]

/-- Arrays of items with the same texts have the same texts. -/
theorem sameTexts_array
    {items others : List Value}
    (matched : Matches SameTexts (fun index : Nat => items[index]?)
      fun index => others[index]?) :
    (Value.array items).SameTexts (.array others) := by
  have sameMap (write : Value -> String)
      (sameWritten : ∀ item other,
        item.SameTexts other -> write item = write other) :
      items.map write = others.map write := by
    refine List.ext_getElem? fun index => ?_
    rw [List.getElem?_map, List.getElem?_map]
    exact matched.map_eq (fun _ item other _ _ => sameWritten item other) index
  refine ⟨?_, ?_⟩
  · rw [display_array, display_array, sameMap display fun _ _ => And.left]
  · rw [debug_array, debug_array, sameMap debug fun _ _ => And.right]

/-- Filed hashes of equal atoms and values with the same texts have the same
texts. -/
theorem sameTexts_hash
    {left right : Hash}
    (leftFiled : Filed Prod.fst left)
    (rightFiled : Filed Prod.fst right)
    (matched : Matches
      (fun entry other =>
        (entry.1 == other.1) = true ∧ entry.2.SameTexts other.2)
      left.get? right.get?) :
    (Value.hash left).SameTexts (.hash right) := by
  have sameListing (write : Atom × Value -> String)
      (sameWritten : ∀ entry other : Atom × Value,
        (entry.1 == other.1) = true ∧ entry.2.SameTexts other.2 ->
          write entry = write other) :
      left.pairs.map write = right.pairs.map write :=
    map_listing_eq_of_matches id leftFiled rightFiled matched
      (fun _ _ connected => Atom.rank_eq_of_beq connected.1) sameWritten
  refine ⟨?_, ?_⟩
  · rw [display_hash leftFiled, display_hash rightFiled,
      sameListing entryDisplay]
    rintro entry other ⟨sameAtom, sameTexts⟩
    rw [entryDisplay, entryDisplay, Atom.display_eq_of_beq sameAtom,
      sameTexts.1]
  · rw [debug_hash leftFiled, debug_hash rightFiled, sameListing entryDebug]
    rintro entry other ⟨sameAtom, sameTexts⟩
    rw [entryDebug, entryDebug, Atom.debug_eq_of_beq sameAtom,
      Atom.key_eq_of_beq sameAtom, sameTexts.2]

/-- Filed sets of equal atoms have the same texts. -/
theorem sameTexts_set
    {left right : MemberSet}
    (leftFiled : Filed id left)
    (rightFiled : Filed id right)
    (matched : Matches (fun member other => (member == other) = true)
      left.get? right.get?) :
    (Value.set left).SameTexts (.set right) := by
  have sameListing (write : Atom -> String)
      (sameWritten : ∀ member other : Atom,
        (member == other) = true -> write member = write other) :
      (MemberSet.members left).map write =
        (MemberSet.members right).map write := by
    rw [MemberSet.members, MemberSet.members, List.map_map, List.map_map]
    exact map_listing_eq_of_matches (fun atom => (atom, ())) leftFiled
      rightFiled matched (fun _ _ => Atom.rank_eq_of_beq) sameWritten
  refine ⟨?_, ?_⟩
  · rw [display_set leftFiled, display_set rightFiled,
      sameListing Atom.display fun _ _ => Atom.display_eq_of_beq]
  · rw [debug_set leftFiled, debug_set rightFiled,
      sameListing memberDebug fun _ _ => memberDebug_eq_of_beq]

/-- Equal values in which equal closures agree have the same texts. -/
theorem sameTexts_of_beq
    {left right : Value}
    (leftWellFormed : left.WellFormed)
    (rightWellFormed : right.WellFormed)
    (equal : (left == right) = true)
    (closures : left.ClosuresAgree right) :
    left.SameTexts right := by
  induction left using inductionOn generalizing right with
  | atom atom =>
      obtain ⟨other, rfl, sameAtom⟩ := (atom_beq_iff _ _).mp equal
      exact ⟨Atom.display_eq_of_beq sameAtom, Atom.debug_eq_of_beq sameAtom⟩
  | null =>
      obtain rfl := (null_beq_iff _).mp equal
      exact ⟨rfl, rfl⟩
  | returned value inductionHypothesis =>
      obtain ⟨other, rfl, sameValue⟩ := (returned_beq_iff _ _).mp equal
      have otherWellFormed : other.WellFormed := rightWellFormed
      have sameTexts := inductionHypothesis leftWellFormed otherWellFormed
        sameValue fun function closure inLeft inRight =>
          closures function closure (.returned inLeft) (.returned inRight)
      exact ⟨sameTexts.1,
        congrArg (fun text => "Return(" ++ text ++ ")") sameTexts.2⟩
  | failure reason =>
      obtain rfl := (failure_beq_iff _ _).mp equal
      exact ⟨rfl, rfl⟩
  | closure function =>
      obtain ⟨other, rfl, _⟩ := (closure_beq_iff _ _).mp equal
      obtain ⟨sameParams, sameBody⟩ := closures function other .whole .whole equal
      exact sameTexts_closure sameParams sameBody
  | builtin function =>
      obtain ⟨other, rfl, sameName⟩ := (builtin_beq_iff _ _).mp equal
      exact ⟨rfl, congrArg (fun name => "Builtin(" ++ name ++ ")") sameName⟩
  | array items inductionHypothesis =>
      obtain ⟨others, rfl, matched⟩ := (array_beq_iff _ _).mp equal
      rw [wellFormed_array] at leftWellFormed rightWellFormed
      refine sameTexts_array (matched.imp ?_)
      intro index item other found otherFound sameItem
      have member := List.mem_of_getElem? found
      have otherMember := List.mem_of_getElem? otherFound
      exact inductionHypothesis item member (leftWellFormed item member)
        (rightWellFormed other otherMember) sameItem
        fun function closure inLeft inRight =>
          closures function closure (.item member inLeft)
            (.item otherMember inRight)
  | hash pairs inductionHypothesis =>
      obtain ⟨others, rfl, _⟩ := (hash_beq_iff _ _).mp equal
      obtain ⟨leftFiled, leftValues⟩ := (wellFormed_hash _).mp leftWellFormed
      obtain ⟨rightFiled, rightValues⟩ :=
        (wellFormed_hash _).mp rightWellFormed
      have matched := (hash_beq_hash_iff leftFiled.1 rightFiled.1).mp equal
      refine sameTexts_hash leftFiled rightFiled (matched.imp ?_)
      intro key entry other found otherFound samePair
      have member := Table.mem_entries_of_get? found
      have otherMember := Table.mem_entries_of_get? otherFound
      refine ⟨samePair.1, ?_⟩
      exact inductionHypothesis _ member (leftValues _ member)
        (rightValues _ otherMember) samePair.2
        fun function closure inLeft inRight =>
          closures function closure (.value member inLeft)
            (.value otherMember inRight)
  | set members =>
      obtain ⟨others, rfl, _⟩ := (set_beq_iff _ _).mp equal
      exact sameTexts_set leftWellFormed rightWellFormed
        ((set_beq_set_iff leftWellFormed.1 rightWellFormed.1).mp equal)

end Value

/-! ## Output -/

/-- Output depends on the displayed texts of what is written. -/
theorem Builtin.puts_congr
    {σ : Type}
    [LineSink σ]
    {arguments others : List Value}
    (sameTexts : arguments.map Value.display = others.map Value.display) :
    (puts arguments : StateM σ Value) = puts others := by
  refine StateT.ext fun state => ?_
  rw [run_puts_eq, run_puts_eq, sameTexts]

/-- A value among others may be replaced by one with the same displayed text. -/
theorem Builtin.puts_replace
    {σ : Type}
    [LineSink σ]
    {left right : Value}
    (sameDisplay : left.display = right.display)
    (front back : List Value) :
    (puts (front ++ left :: back) : StateM σ Value) =
      puts (front ++ right :: back) := by
  apply puts_congr
  rw [List.map_append, List.map_append, List.map_cons, List.map_cons,
    sameDisplay]

/-! ## Rendering respects equality -/

variable [HostFunctions]

/-- Rendering respects equality. Equal values in which equal closures have one
parameter list and one body have the same displayed and debug texts; rendering the
one or the other is the same computation of the evaluator, and writing the one or the
other writes the same lines to every sink. Among the values of a run the bodies agree
by themselves, and only the parameters matter. Since the bodies of closures are
rendered by pure code, so is every value: the evaluator gets its text and is left as
it was. The entries of a hash and the members of a set are written once each, in the
order of the names of their kinds and then of their displayed texts, whatever the
order in which they were filed. -/
theorem rendering_respects_equality :
    (∀ left right : Value, left.Built -> right.Built ->
      (left == right) = true -> left.ClosuresAgree right ->
        left.SameTexts right ∧ left.SameRendering right ∧
        ∀ (σ : Type) [LineSink σ] (front back : List Value),
          (Builtin.puts (front ++ left :: back) : StateM σ Value) =
            Builtin.puts (front ++ right :: back)) ∧
    (∀ (sink : Sink) (steps : List Step) (left right : Value),
      let run : Run Memo := Step.runFrom (.start {} sink) steps
      run.Holds left -> run.Holds right -> (left == right) = true ->
        (∀ function other : Closure,
          (Value.closure function).Within left ->
            (Value.closure other).Within right ->
              (function == other) = true ->
                function.params = other.params) ->
          left.SameTexts right ∧ left.SameRendering right ∧
          ∀ (σ : Type) [LineSink σ] (front back : List Value),
            (Builtin.puts (front ++ left :: back) : StateM σ Value) =
              Builtin.puts (front ++ right :: back)) ∧
    (∀ (value : Value) (world : Embedding.World),
      value.render.run world = (value.display, world) ∧
        value.inspect.run world = (value.debug, world)) ∧
    (∀ hash : Hash, (Value.hash hash).Built ->
      hash.pairs.Perm (hash.entries.map Prod.snd) ∧
      hash.pairs.Pairwise (fun before after =>
        before.1.rank < after.1.rank) ∧
      (Value.hash hash).display =
        "\x7b" ++ ", ".intercalate (hash.pairs.map entryDisplay) ++ "\x7d" ∧
      (Value.hash hash).debug =
        "Hash(HashValue \x7b pairs: \x7b" ++
          ", ".intercalate (hash.pairs.map entryDebug) ++ "\x7d \x7d)") ∧
    ∀ members : MemberSet, (Value.set members).Built ->
      (MemberSet.members members).Perm (members.entries.map Prod.snd) ∧
      (MemberSet.members members).Pairwise (fun before after =>
        before.rank < after.rank) ∧
      (Value.set members).display =
        "set(" ++ ",".intercalate
          ((MemberSet.members members).map Atom.display) ++ ")" ∧
      (Value.set members).debug =
        "Set(" ++ ("SetValue \x7b members: \x7b" ++ ", ".intercalate
          ((MemberSet.members members).map memberDebug) ++ "\x7d \x7d") ++
            ")" := by
  refine ⟨?_, ?_, ?_, ?_, ?_⟩
  case refine_1 =>
    intro left right leftBuilt rightBuilt equal closures
    have sameTexts := Value.sameTexts_of_beq leftBuilt.wellFormed
      rightBuilt.wellFormed equal closures
    exact ⟨sameTexts, sameTexts.sameRendering,
      fun _ => Builtin.puts_replace sameTexts.1⟩
  case refine_2 =>
    intro sink steps left right run leftHeld rightHeld equal sameParams
    have closures : left.ClosuresAgree right := by
      intro function other inLeft inRight equal
      have sameCode := ((Closure.beq_iff _ _).mp equal).1
      have eq := Closure.eq_withParams_of_code_eq (leftHeld.part inLeft)
        (rightHeld.part inRight) sameCode
      refine ⟨sameParams function other inLeft inRight equal, ?_⟩
      rw [eq]
      rfl
    have sameTexts := Value.sameTexts_of_beq leftHeld.vouched.wellFormed
      rightHeld.vouched.wellFormed equal closures
    exact ⟨sameTexts, sameTexts.sameRendering,
      fun _ => Builtin.puts_replace sameTexts.1⟩
  case refine_3 =>
    intro value world
    rw [Value.render_eq_pure, Value.inspect_eq_pure]
    exact ⟨rfl, rfl⟩
  case refine_4 =>
    intro hash built
    have filed := ((Value.wellFormed_hash hash).mp built.wellFormed).1
    exact ⟨perm_canonicalOrder _, filed.pairwise_listing id,
      Value.display_hash filed, Value.debug_hash filed⟩
  case refine_5 =>
    intro members built
    have filed : Filed id members := built.wellFormed
    exact ⟨MemberSet.perm_members members,
      List.pairwise_map.mpr (filed.pairwise_listing fun atom => (atom, ())),
      Value.display_set filed, Value.debug_set filed⟩

end

/-- Two arrays with one closure and with a set that was built in two orders. -/
theorem rendering_respects_equality_of_reordered_sets :
    let steps : List Step :=
      [.evaluate (.literal (.closure ["x"] (.int 1) none)) (some "function"),
        .evaluate (.literal (.array
          [.ref "function", .set [.int 2, .bool true]])) (some "left"),
        .evaluate (.literal (.array
          [.ref "function", .set [.bool true, .int 2]])) (some "right")]
    let run : Run Memo := Step.runFrom (.start {} .discard) steps
    let function : Closure := ⟨["x"], .int 1, 0, 0⟩
    let members : MemberSet := Table.empty.fileAll id [.int 2, .bool true]
    let others : MemberSet := Table.empty.fileAll id [.bool true, .int 2]
    let left : Value := .array [.closure function, .set members]
    let right : Value := .array [.closure function, .set others]
    run.Holds left ∧ run.Holds right ∧ left.Built ∧ right.Built ∧
      (left == right) = true ∧ left.ClosuresAgree right ∧
      left.display = right.display ∧ left.debug = right.debug ∧
      left.render = right.render ∧
      left.inspect.run () = (left.debug, ()) ∧
      (Builtin.puts [left] : StateM Printer Value) = Builtin.puts [right] ∧
      (MemberSet.members members).Pairwise (fun before after =>
        before.rank < after.rank) := by
  intro steps run function members others left right
  have leftHeld : run.Holds left := @Run.Holds.named _ _ run "left" _ rfl
  have rightHeld : run.Holds right := @Run.Holds.named _ _ run "right" _ rfl
  have membersBuilt : (Value.set members).Built :=
    @Value.Built.set _ [.int 2, .bool true] members rfl
  have othersBuilt : (Value.set others).Built :=
    @Value.Built.set _ [.bool true, .int 2] others rfl
  have leftBuilt : left.Built :=
    .array (by simpa using ⟨.closure function, membersBuilt⟩)
  have rightBuilt : right.Built :=
    .array (by simpa using ⟨.closure function, othersBuilt⟩)
  have equal : (left == right) = true := by decide
  have only {inside : Closure} {set : MemberSet}
      (within : (Value.closure inside).Within
        (.array [.closure function, .set set])) :
      inside = function := by
    cases within with
    | item member inItem =>
        rcases List.mem_pair.mp member with rfl | rfl
        · cases inItem
          rfl
        · cases inItem with
          | member _ inAtom => cases inAtom
  have closures : left.ClosuresAgree right := by
    intro inside other inLeft inRight _
    rw [only inLeft, only inRight]
    exact ⟨rfl, rfl⟩
  obtain ⟨ofBuilt, ofHeld, pure, _, ofSet⟩ := rendering_respects_equality
  obtain ⟨sameTexts, sameRendering, _⟩ :=
    ofBuilt left right leftBuilt rightBuilt equal closures
  obtain ⟨_, _, sameLines⟩ := ofHeld .discard steps left right leftHeld rightHeld
    equal fun inside other inLeft inRight sameClosure =>
      (closures inside other inLeft inRight sameClosure).1
  exact ⟨leftHeld, rightHeld, leftBuilt, rightBuilt, equal, closures,
    sameTexts.1, sameTexts.2, sameRendering.1, (pure left ()).2,
    sameLines Printer [] [],
    (ofSet members membersBuilt).2.1⟩

end Monkey
