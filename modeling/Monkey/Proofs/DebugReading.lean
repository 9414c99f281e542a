import Monkey.Proofs.DisplayReading
import Monkey.Proofs.QuotedReading

/-!
# Reading debug texts

Debug texts quote their strings and name the variant of every value, so they
show of all data what it is and where it ends: no name of a variant begins with
another, and everything behind it is closed by a bracket or a quote. Collections
show the keys of their entries as well, which are read like any other part. Only
callables are not identified by their debug texts: closures do not show what
they captured, and builtins do not quote their names.
-/

namespace Monkey

/-! ## Names of variants -/

/-- How the debug texts of all values of a kind begin. -/
def Kind.heading : Kind -> String
  | .integer => "Int("
  | .boolean => "Bool("
  | .null => "Null"
  | .returnValue => "Return("
  | .error => "Error("
  | .function => "Function("
  | .string => "Str("
  | .builtin => "Builtin("
  | .array => "Array("
  | .hash => "Hash("
  | .set => "Set("

/-- No heading begins with another. -/
theorem Kind.apart_heading
    (left right : Kind)
    (different : left ≠ right) :
    Apart left.heading right.heading := by
  have apart : ∀ left ∈ all, ∀ right ∈ all,
      left ≠ right -> Apart left.heading right.heading := by decide
  exact apart left (mem_all left) right (mem_all right) different

/-- No heading is mistaken for the end of an array. -/
theorem Kind.apart_heading_close (kind : Kind) : Apart kind.heading "])" := by
  cases kind <;> decide

theorem alikeOnlyIf_kind_label (left right : Kind) :
    AlikeOnlyIf AnyEnding left.label right.label (left = right) := by
  have apart : ∀ left ∈ Kind.all, ∀ right ∈ Kind.all,
      left ≠ right -> Apart left.label right.label := by decide
  exact .of_apart Kind.label
    (fun left right => apart left left.mem_all right right.mem_all) left right

theorem alikeOnlyIf_category_label (left right : Category) :
    AlikeOnlyIf AnyEnding left.label right.label (left = right) := by
  refine .of_apart Category.label (fun left right => ?_) left right
  cases left <;> cases right <;> decide

theorem alikeOnlyIf_digest (left right : Digest) :
    AlikeOnlyIf EndsNumeral (toString left.toNat) (toString right.toNat)
      (left = right) := by
  refine (alikeOnlyIf_toString left.toNat right.toNat).imp fun sameNumber => ?_
  exact UInt64.toNat_inj.mp (Int.ofNat_inj.mp sameNumber)

/-! ## Keys, failures and lists -/

/-- Keys have like debug texts only if they are one key. -/
theorem alikeOnlyIf_debug_key (left right : Key) :
    AlikeOnlyIf AnyEnding left.debug right.debug (left = right) := by
  have alikeKind : AlikeOnlyIf AnyEnding
      ("HashKey \x7b kind: " ++ left.kind.label ++ ", value: ")
      ("HashKey \x7b kind: " ++ right.kind.label ++ ", value: ")
      (left.kind = right.kind) :=
    ((alikeOnlyIf_kind_label left.kind right.kind).behind _).followedBy _
  have alikeDigest := alikeOnlyIf_digest left.digest right.digest
  refine ((alikeKind.join alikeDigest).before
    (endsWord_append rfl rfl)).imp fun sameParts => ?_
  exact congrArg₂ Key.mk sameParts.1 sameParts.2

/-- Failures have like debug texts only if they are one failure. -/
theorem alikeOnlyIf_debug_failure (left right : Failure) :
    AlikeOnlyIf AnyEnding left.debug right.debug (left = right) := by
  have alikeCategory : AlikeOnlyIf AnyEnding
      ("Error(" ++ left.category.label ++ ", ")
      ("Error(" ++ right.category.label ++ ", ")
      (left.category = right.category) :=
    ((alikeOnlyIf_category_label _ _).behind _).followedBy _
  have alikeMessage := alikeOnlyIf_quoted AnyEnding left.message right.message
  refine ((alikeCategory.join alikeMessage).followedBy _).imp
    fun sameParts => ?_
  exact congrArg₂ Failure.mk sameParts.1 sameParts.2

theorem begins_debug_key (key : Key) : Begins "HashKey" key.debug :=
  (((Begins.append ⟨" \x7b kind: ", rfl⟩ _).append _).append _).append _

/-- Bracketed lists of debug texts are alike only if they list related items, one
by one, when no item begins like the closing bracket. -/
theorem alikeOnlyIf_debug_list
    {α : Type}
    {write heading : α -> String}
    {related : α -> α -> Prop}
    {close : String}
    (separates : Apart ", " close)
    (begins : ∀ item, Begins (heading item) (write item))
    (starts : ∀ item, Apart (heading item) close)
    (opening : String)
    {items others : List α}
    (alike : ∀ item ∈ items, ∀ other ∈ others,
      AlikeOnlyIf AnyEnding (write item) (write other) (related item other)) :
    AlikeOnlyIf AnyEnding
      (opening ++ ", ".intercalate (items.map write) ++ close)
      (opening ++ ", ".intercalate (others.map write) ++ close)
      (List.Forall₂ related items others) := by
  have delimits : Delimits AnyEnding ", " close :=
    ⟨separates, fun _ => trivial, fun _ => trivial⟩
  have startsItem (item : α) (_ : True) :
      ∀ rest closed, write item ++ rest ≠ close ++ closed :=
    (starts item).append_ne_of_begins (begins item) (begins_self close)
  exact delimits.alike_bracketed opening startsItem (fun _ _ => trivial)
    (fun _ _ => trivial) alike

section

variable [Embedding]

/-! ## Values without callables -/

/-- A value that holds neither closures nor builtins, at any depth. -/
inductive Value.CallableFree : Value -> Prop
  | atom (value : Atom) : CallableFree (.atom value)
  | null : CallableFree .null
  | returned {value : Value} :
      CallableFree value -> CallableFree (.returned value)
  | failure (reason : Failure) : CallableFree (.failure reason)
  | array {items : List Value} :
      (∀ item ∈ items, CallableFree item) -> CallableFree (.array items)
  | hash {pairs : Hash} :
      (∀ entry ∈ pairs.entries, CallableFree entry.2.2) ->
        CallableFree (.hash pairs)
  | set (members : MemberSet) : CallableFree (.set members)

/-- No part of a value without callables is a closure. -/
theorem Value.CallableFree.not_within
    {value : Value}
    (free : value.CallableFree)
    (function : Closure) :
    ¬ (Value.closure function).Within value := by
  intro within
  induction free with
  | atom | null | failure => cases within
  | returned _ inductionHypothesis =>
      cases within with
      | returned inValue => exact inductionHypothesis inValue
  | array _ inductionHypothesis =>
      cases within with
      | item member inItem => exact inductionHypothesis _ member inItem
  | hash _ inductionHypothesis =>
      cases within with
      | key _ inAtom => cases inAtom
      | value member inValue => exact inductionHypothesis _ member inValue
  | set _ =>
      cases within with
      | member _ inAtom => cases inAtom

/-- Hashes filed from pairs with values without callables are without
callables. -/
theorem Value.CallableFree.hash_fileAll
    {entries : List (Atom × Value)}
    (free : ∀ entry ∈ entries, entry.2.CallableFree) :
    (Value.hash (Table.empty.fileAll Prod.fst entries)).CallableFree := by
  refine .hash fun entry member => ?_
  rcases Table.mem_of_mem_fileAll member with filed | old
  · exact free entry.2 filed
  · cases old

/-! ## Debug texts of parts -/

/-- The debug text of a value begins with the heading of its kind. -/
theorem Value.begins_debug (value : Value) :
    Begins value.kind.heading value.debug := by
  cases value with
  | atom atom =>
      cases atom with
      | int value => exact (begins_append _ _).append _
      | bool value =>
          cases value
          · exact ⟨"false)", rfl⟩
          · exact ⟨"true)", rfl⟩
      | text value => exact (begins_append _ _).append _
  | null => exact ⟨"", rfl⟩
  | returned value => exact (begins_append _ _).append _
  | failure reason =>
      exact (((begins_append _ _).append _).append _).append _
  | closure function => exact (begins_append _ _).append _
  | builtin function => exact (begins_append _ _).append _
  | array items =>
      rw [debug_array]
      exact (Begins.append ⟨"[", rfl⟩ _).append _
  | hash pairs =>
      obtain ⟨entries⟩ := pairs
      exact (Begins.append ⟨"HashValue \x7b pairs: \x7b", rfl⟩ _).append _
  | set members => exact (begins_append _ _).append _

/-- Values have like debug texts only if they are of one kind. -/
theorem Value.alike_debug_of_kind_eq
    {left right : Value}
    {ending : String -> Prop}
    {same : Prop}
    (alike : left.kind = right.kind ->
      AlikeOnlyIf ending left.debug right.debug same) :
    AlikeOnlyIf ending left.debug right.debug same := by
  by_cases sameKind : left.kind = right.kind
  · exact alike sameKind
  · exact .of_append_ne ((Kind.apart_heading _ _ sameKind).append_ne_of_begins
      left.begins_debug right.begins_debug)

/-- Atoms have like debug texts only if they are equal. -/
theorem alikeOnlyIf_debug_atom (left right : Atom) :
    AlikeOnlyIf AnyEnding left.debug right.debug ((left == right) = true) := by
  refine @Value.alike_debug_of_kind_eq _ (.atom left) (.atom right) _ _
    fun sameKind => ?_
  cases left <;> cases right <;> cases sameKind
  case int.int.refl left right =>
    have alike := (alikeOnlyIf_display_int left right).imp
      (Atom.int_beq_int left right).mpr
    exact (alike.behind "Int(").before (endsWord_append rfl rfl)
  case bool.bool.refl left right =>
    have alike : AlikeOnlyIf AnyEnding (Atom.bool left).debug
        (Atom.bool right).debug (left = right) :=
      .of_apart (fun value => (Atom.bool value).debug) (by decide) left right
    exact alike.imp (Atom.bool_beq_bool left right).mpr
  case text.text.refl left right =>
    have alike := (alikeOnlyIf_quoted AnyEnding left.content right.content).imp
      (Atom.text_beq_text left right).mpr
    exact (alike.behind "Str(").followedBy _

/-- Members of sets have like debug texts only if they are equal. -/
theorem alikeOnlyIf_memberDebug (left right : Atom) :
    AlikeOnlyIf AnyEnding (memberDebug left) (memberDebug right)
      ((left == right) = true) :=
  (((alikeOnlyIf_debug_key left.key right.key).followedBy _).join
    (alikeOnlyIf_debug_atom left right)).imp And.right

/-- Entries of hashes have like debug texts only if they have equal atoms and
equal values, when that is true of their values. -/
theorem alikeOnlyIf_entryDebug
    {entry other : Atom × Value}
    (alikeValue : AlikeOnlyIf AnyEnding entry.2.debug other.2.debug
      ((entry.2 == other.2) = true)) :
    AlikeOnlyIf AnyEnding (entryDebug entry) (entryDebug other)
      (Value.SamePair entry other) := by
  have alikeAtom : AlikeOnlyIf AnyEnding
      (entry.1.key.debug ++ ": HashPair \x7b key: " ++ entry.1.debug)
      (other.1.key.debug ++ ": HashPair \x7b key: " ++ other.1.debug)
      ((entry.1 == other.1) = true) :=
    (((alikeOnlyIf_debug_key _ _).followedBy _).join
      (alikeOnlyIf_debug_atom _ _)).imp And.right
  exact ((alikeAtom.followedBy _).join alikeValue).followedBy " \x7d"

omit [Embedding] in
theorem begins_memberDebug (atom : Atom) : Begins "HashKey" (memberDebug atom) :=
  ((begins_debug_key atom.key).append _).append _

theorem begins_entryDebug (entry : Atom × Value) :
    Begins "HashKey" (entryDebug entry) :=
  (((((begins_debug_key entry.1.key).append _).append _).append _).append
    _).append _

/-! ## Debug texts of values -/

namespace Value

/-- Debug texts of arrays are read item by item. -/
theorem alikeOnlyIf_debug_array
    {items others : List Value}
    (alike : ∀ item ∈ items, ∀ other ∈ others,
      AlikeOnlyIf AnyEnding item.debug other.debug ((item == other) = true)) :
    AlikeOnlyIf AnyEnding (Value.array items).debug (Value.array others).debug
      ((Value.array items == .array others) = true) := by
  rw [debug_array, debug_array]
  exact (alikeOnlyIf_debug_list (by decide) begins_debug
    (fun item => item.kind.apart_heading_close) "Array([" alike).imp
      (equal_array_iff items others).mpr

/-- Debug texts of hashes are read entry by entry. -/
theorem alikeOnlyIf_debug_hash
    {left right : Hash}
    (leftFiled : Filed Prod.fst left)
    (rightFiled : Filed Prod.fst right)
    (alike : ∀ entry ∈ left.pairs, ∀ other ∈ right.pairs,
      AlikeOnlyIf AnyEnding entry.2.debug other.2.debug
        ((entry.2 == other.2) = true)) :
    AlikeOnlyIf AnyEnding (Value.hash left).debug (Value.hash right).debug
      ((Value.hash left == .hash right) = true) := by
  rw [debug_hash leftFiled, debug_hash rightFiled]
  exact (alikeOnlyIf_debug_list (by decide) begins_entryDebug
    (fun _ => by decide) _ fun entry member other otherMember =>
      alikeOnlyIf_entryDebug (alike entry member other otherMember)).imp
        (Hash.beq_of_pairs leftFiled rightFiled)

/-- Debug texts of sets are read member by member. -/
theorem alikeOnlyIf_debug_set
    {left right : MemberSet}
    (leftFiled : Filed id left)
    (rightFiled : Filed id right) :
    AlikeOnlyIf AnyEnding (Value.set left).debug (Value.set right).debug
      ((Value.set left == .set right) = true) := by
  rw [debug_set leftFiled, debug_set rightFiled]
  have separates : Apart ", " "\x7d \x7d" := by decide
  have alike := alikeOnlyIf_debug_list separates begins_memberDebug
    (fun _ => by decide) "SetValue \x7b members: \x7b"
    fun atom (_ : atom ∈ MemberSet.members left) other
      (_ : other ∈ MemberSet.members right) => alikeOnlyIf_memberDebug atom other
  exact ((alike.behind "Set(").followedBy ")").imp
    (MemberSet.beq_of_members leftFiled rightFiled)

/-- Well-formed values without callables have like debug texts only if they are
equal. -/
theorem alikeOnlyIf_debug
    {left right : Value}
    (leftWellFormed : left.WellFormed)
    (rightWellFormed : right.WellFormed)
    (leftFree : left.CallableFree)
    (rightFree : right.CallableFree) :
    AlikeOnlyIf AnyEnding left.debug right.debug ((left == right) = true) := by
  -- In every case the kinds agree, which leaves one form on the right.
  induction leftFree generalizing right with
  | atom value =>
      refine alike_debug_of_kind_eq fun sameKind => ?_
      cases rightFree with
      | atom other => exact alikeOnlyIf_debug_atom value other
      | _ => cases value <;> cases sameKind
  | null =>
      refine alike_debug_of_kind_eq fun sameKind => ?_
      cases rightFree with
      | null => exact (AlikeOnlyIf.self _).imp fun _ => rfl
      | atom other => cases other <;> cases sameKind
      | _ => cases sameKind
  | returned valueFree inductionHypothesis =>
      refine alike_debug_of_kind_eq fun sameKind => ?_
      cases rightFree with
      | returned otherFree =>
          have otherWellFormed := (wellFormed_returned _).mp rightWellFormed
          have alike :=
            inductionHypothesis leftWellFormed otherWellFormed otherFree
          exact (alike.behind "Return(").followedBy ")"
      | atom other => cases other <;> cases sameKind
      | _ => cases sameKind
  | failure reason =>
      refine alike_debug_of_kind_eq fun sameKind => ?_
      cases rightFree with
      | failure other =>
          exact (alikeOnlyIf_debug_failure reason other).imp fun sameReason =>
            (failure_beq_iff _ _).mpr (congrArg Value.failure sameReason.symm)
      | atom other => cases other <;> cases sameKind
      | _ => cases sameKind
  | array itemsFree inductionHypothesis =>
      refine alike_debug_of_kind_eq fun sameKind => ?_
      cases rightFree with
      | array othersFree =>
          rw [wellFormed_array] at leftWellFormed rightWellFormed
          refine alikeOnlyIf_debug_array ?_
          intro item member other otherMember
          exact inductionHypothesis item member (leftWellFormed item member)
            (rightWellFormed other otherMember) (othersFree other otherMember)
      | atom other => cases other <;> cases sameKind
      | _ => cases sameKind
  | hash valuesFree inductionHypothesis =>
      refine alike_debug_of_kind_eq fun sameKind => ?_
      cases rightFree with
      | hash otherValuesFree =>
          obtain ⟨leftFiled, leftValues⟩ :=
            (wellFormed_hash _).mp leftWellFormed
          obtain ⟨rightFiled, rightValues⟩ :=
            (wellFormed_hash _).mp rightWellFormed
          refine alikeOnlyIf_debug_hash leftFiled rightFiled
            (Hash.forall_mem_pairs fun entry member =>
              Hash.forall_mem_pairs fun other otherMember => ?_)
          exact inductionHypothesis entry member (leftValues entry member)
            (rightValues other otherMember) (otherValuesFree other otherMember)
      | atom other => cases other <;> cases sameKind
      | _ => cases sameKind
  | set members =>
      refine alike_debug_of_kind_eq fun sameKind => ?_
      cases rightFree with
      | set others => exact alikeOnlyIf_debug_set leftWellFormed rightWellFormed
      | atom other => cases other <;> cases sameKind
      | _ => cases sameKind

end Value

/-- The debug text of data identifies it. Of two values without closures and
builtins that programs can build, nested to any depth, the debug texts are the
same exactly when the values are equal: nothing in the quoted text of a string or a
message is mistaken for its end or for the names, brackets and separators around
it. -/
theorem debug_identifies_values_without_callables
    (left right : Value)
    (leftBuilt : left.Built)
    (rightBuilt : right.Built)
    (leftFree : left.CallableFree)
    (rightFree : right.CallableFree) :
    left.debug = right.debug ↔ (left == right) = true := by
  have leftWellFormed := leftBuilt.wellFormed
  have rightWellFormed := rightBuilt.wellFormed
  constructor
  · exact (Value.alikeOnlyIf_debug leftWellFormed rightWellFormed leftFree
      rightFree).of_eq trivial
  · intro equal
    have closures : left.ClosuresAgree right := fun function _ within =>
      absurd within (leftFree.not_within function)
    exact (Value.sameTexts_of_beq leftWellFormed rightWellFormed equal
      closures).2

end

/-- A returned hash that is built in two orders, and one in which a text spells
out what separates two texts of the others. -/
theorem debug_identifies_reordered_hashes :
    let reason : Failure := ⟨.custom, "no \"key\" \x1b"⟩
    let name : Atom := .text ⟨0, "a\\"⟩
    let pair : Value := .array [.text ⟨1, "x"⟩, .text ⟨2, "y"⟩]
    let hashOf (entries : List (Atom × Value)) : Value :=
      .returned (.hash (Table.empty.fileAll Prod.fst entries))
    let left := hashOf [(name, .failure reason), (.int 7, pair)]
    let right := hashOf [(.int 7, pair), (name, .failure reason)]
    let imitating := hashOf [(name, .failure reason),
      (.int 7, .array [.text ⟨3, "x\"), Str(\"y"⟩])]
    left.Built ∧ right.Built ∧ imitating.Built ∧
      left.CallableFree ∧ right.CallableFree ∧ imitating.CallableFree ∧
      left.debug = right.debug ∧ left.debug ≠ imitating.debug := by
  intro reason name pair hashOf left right imitating
  have textsBuilt (texts : List Text) :
      (Value.array (texts.map .text)).Built :=
    .array (by simpa using fun text _ => .atom (.text text))
  have textsFree (texts : List Text) :
      (Value.array (texts.map .text)).CallableFree :=
    .array (by simpa using fun text _ => .atom (.text text))
  have pairBuilt : pair.Built := textsBuilt [⟨1, "x"⟩, ⟨2, "y"⟩]
  have pairFree : pair.CallableFree := textsFree [⟨1, "x"⟩, ⟨2, "y"⟩]
  have leftBuilt : left.Built :=
    .returned (.hash_fileAll (by simpa using ⟨.failure reason, pairBuilt⟩))
  have leftFree : left.CallableFree :=
    .returned (.hash_fileAll (by simpa using ⟨.failure reason, pairFree⟩))
  have rightBuilt : right.Built :=
    .returned (.hash_fileAll (by simpa using ⟨pairBuilt, .failure reason⟩))
  have rightFree : right.CallableFree :=
    .returned (.hash_fileAll (by simpa using ⟨pairFree, .failure reason⟩))
  have imitatingBuilt : imitating.Built :=
    .returned (.hash_fileAll
      (by simpa using ⟨.failure reason, textsBuilt [⟨3, _⟩]⟩))
  have imitatingFree : imitating.CallableFree :=
    .returned (.hash_fileAll
      (by simpa using ⟨.failure reason, textsFree [⟨3, _⟩]⟩))
  have sameText := debug_identifies_values_without_callables left right
    leftBuilt rightBuilt leftFree rightFree
  have imitatingText := debug_identifies_values_without_callables left imitating
    leftBuilt imitatingBuilt leftFree imitatingFree
  refine ⟨leftBuilt, rightBuilt, imitatingBuilt, leftFree, rightFree,
    imitatingFree, sameText.mpr (by decide), fun same => ?_⟩
  exact absurd (imitatingText.mp same) (by decide)

end Monkey
