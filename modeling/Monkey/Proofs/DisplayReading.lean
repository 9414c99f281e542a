import Monkey.Proofs.Congruence
import Monkey.Proofs.Reading
import Monkey.Proofs.Rendering

/-!
# Reading displayed values

Texts are displayed without quotes, so a displayed value need not show where a
text inside it ends. A value without texts does: its displayed text begins with a
character that gives away its kind, numerals are followed by no character of a
numeral, and brackets and separators close everything else. So what is displayed
of such a value determines it up to equality.
-/

namespace Monkey

/-! ## First characters -/

/-- The kind of the values without texts whose displayed texts begin with a
character. -/
def Kind.ofLeading? : Char -> Option Kind
  | '[' => some .array
  | '\x7b' => some .hash
  | 's' => some .set
  | 'n' => some .null
  | 't' | 'f' => some .boolean
  | first => if isNumeral first then some .integer else none

theorem Kind.ofLeading?_of_isNumeral
    {first : Char}
    (numeral : isNumeral first = true) :
    ofLeading? first = some .integer := by
  unfold ofLeading?
  split
  case h_7 => rw [if_pos numeral]
  all_goals cases numeral

/-- The kind that the first character of a text gives away. -/
def leading? (text : String) : Option Kind :=
  text.toList.head?.bind Kind.ofLeading?

theorem leading?_append_of_head
    {text : String}
    {first : Char}
    (found : text.toList.head? = some first)
    (rest : String) :
    leading? (text ++ rest) = Kind.ofLeading? first := by
  rw [leading?, String.toList_append, List.head?_append, found,
    Option.some_or, Option.bind_some]

/-- Whatever follows, a text keeps its first character. -/
theorem leading?_append
    {text : String}
    {kind : Kind}
    (leads : leading? text = some kind)
    (rest : String) :
    leading? (text ++ rest) = some kind := by
  obtain ⟨first, found, kindFound⟩ := Option.bind_eq_some_iff.mp leads
  rw [leading?_append_of_head found, kindFound]

theorem leading?_toString (value : Int) :
    leading? (toString value) = some .integer := by
  cases spelled : (toString value).toList with
  | nil =>
      have empty := String.toList_eq_nil_iff.mp spelled
      exact absurd empty (toString_ne_empty value)
  | cons first rest =>
      rw [leading?, spelled, List.head?_cons, Option.bind_some]
      exact Kind.ofLeading?_of_isNumeral
        (isNumeral_of_mem_toString (by rw [spelled]; exact .head _))

/-- A text that gives away a kind is not mistaken for one that gives away
none. -/
theorem append_ne_of_leading?
    {text close : String}
    {kind : Kind}
    {first : Char}
    (leads : leading? text = some kind)
    (found : close.toList.head? = some first)
    (closes : Kind.ofLeading? first = none)
    (rest closed : String) :
    text ++ rest ≠ close ++ closed := by
  intro sameText
  have sameLead := leading?_append leads rest
  rw [sameText, leading?_append_of_head found, closes] at sameLead
  cases sameLead

/-! ## Numerals, booleans and brackets -/

theorem delimits_display_array : Delimits EndsNumeral "," "]" :=
  ⟨by decide, endsWord_append rfl rfl, endsWord_append rfl rfl⟩

theorem delimits_display_hash : Delimits EndsNumeral ", " "\x7d" :=
  ⟨by decide, endsWord_append rfl rfl, endsWord_append rfl rfl⟩

theorem delimits_display_set : Delimits EndsNumeral "," ")" :=
  ⟨by decide, endsWord_append rfl rfl, endsWord_append rfl rfl⟩

theorem alikeOnlyIf_display_int (left right : Int64) :
    AlikeOnlyIf EndsNumeral (Atom.int left).display (Atom.int right).display
      (left = right) :=
  (alikeOnlyIf_toString left.toInt right.toInt).imp Int64.toInt_inj.mp

theorem alikeOnlyIf_display_bool
    (ending : String -> Prop)
    (left right : Bool) :
    AlikeOnlyIf ending (Atom.bool left).display (Atom.bool right).display
      (left = right) :=
  .of_apart (fun value => (Atom.bool value).display) (by decide) left right

section

variable [Embedding]

/-! ## Values without texts -/

/-- A value made of integers, booleans, `null`, arrays, hashes and sets alone. -/
inductive Value.TextFree : Value -> Prop
  | int (value : Int64) : TextFree (.int value)
  | bool (value : Bool) : TextFree (.bool value)
  | null : TextFree .null
  | array {items : List Value} :
      (∀ item ∈ items, TextFree item) -> TextFree (.array items)
  | hash {pairs : Hash} :
      (∀ entry ∈ pairs.entries, TextFree (.atom entry.2.1)) ->
        (∀ entry ∈ pairs.entries, TextFree entry.2.2) ->
          TextFree (.hash pairs)
  | set {members : MemberSet} :
      (∀ entry ∈ members.entries, TextFree (.atom entry.2)) ->
        TextFree (.set members)

/-- Values without texts hold no closures. -/
theorem Value.TextFree.not_within
    {value : Value}
    (free : value.TextFree)
    (function : Closure) :
    ¬ (Value.closure function).Within value := by
  intro within
  induction free with
  | int | bool | null => cases within
  | array _ inductionHypothesis =>
      cases within with
      | item member inItem => exact inductionHypothesis _ member inItem
  | hash _ _ atomHypothesis valueHypothesis =>
      cases within with
      | key member inAtom => exact atomHypothesis _ member inAtom
      | value member inValue => exact valueHypothesis _ member inValue
  | set _ inductionHypothesis =>
      cases within with
      | member member inAtom => exact inductionHypothesis _ member inAtom

/-- Sets filed from atoms without texts are without texts. -/
theorem Value.TextFree.set_fileAll
    {atoms : List Atom}
    (free : ∀ atom ∈ atoms, (Value.atom atom).TextFree) :
    (Value.set (Table.empty.fileAll id atoms)).TextFree := by
  refine .set fun entry member => ?_
  rcases Table.mem_of_mem_fileAll member with filed | old
  · exact free entry.2 filed
  · cases old

/-- Hashes filed from pairs without texts are without texts. -/
theorem Value.TextFree.hash_fileAll
    {entries : List (Atom × Value)}
    (free : ∀ entry ∈ entries,
      (Value.atom entry.1).TextFree ∧ entry.2.TextFree) :
    (Value.hash (Table.empty.fileAll Prod.fst entries)).TextFree := by
  have filedFree : ∀ entry ∈ (Table.empty.fileAll Prod.fst entries).entries,
      (Value.atom entry.2.1).TextFree ∧ entry.2.2.TextFree := by
    intro entry member
    rcases Table.mem_of_mem_fileAll member with filed | old
    · exact free entry.2 filed
    · cases old
  exact .hash (fun entry member => (filedFree entry member).1)
    fun entry member => (filedFree entry member).2

/-! ## First characters of values -/

/-- The displayed text of a value without texts gives away its kind at once. -/
theorem Value.TextFree.leading?_display
    {value : Value}
    (free : value.TextFree) :
    leading? value.display = some value.kind := by
  cases free with
  | int value => exact leading?_toString value.toInt
  | bool value =>
      change leading? (Atom.bool value).display = some .boolean
      cases value <;> rfl
  | null =>
      change leading? "null" = some .null
      rfl
  | array =>
      rw [display, String.append_assoc]
      exact leading?_append rfl _
  | @hash pairs =>
      obtain ⟨entries⟩ := pairs
      rw [display, String.append_assoc]
      exact leading?_append rfl _
  | set =>
      rw [display, MemberSet.display, String.append_assoc]
      exact leading?_append rfl _

/-- Values without texts are displayed alike only if they are of one kind. -/
theorem Value.TextFree.alike_of_kind_eq
    {left right : Value}
    {ending : String -> Prop}
    {same : Prop}
    (leftFree : left.TextFree)
    (rightFree : right.TextFree)
    (alike : left.kind = right.kind ->
      AlikeOnlyIf ending left.display right.display same) :
    AlikeOnlyIf ending left.display right.display same := by
  intro rest otherRest ended otherEnded sameText
  have sameLead := leading?_append leftFree.leading?_display rest
  rw [sameText, leading?_append rightFree.leading?_display] at sameLead
  have sameKind := (Option.some.inj sameLead).symm
  exact alike sameKind rest otherRest ended otherEnded sameText

/-! ## Listings -/

/-- Entries of hashes are displayed alike only if they have equal atoms and
equal values, when that is true of their atoms and of their values. -/
theorem alikeOnlyIf_entryDisplay
    {entry other : Atom × Value}
    (alikeAtom : AlikeOnlyIf EndsNumeral entry.1.display other.1.display
      ((entry.1 == other.1) = true))
    (alikeValue : AlikeOnlyIf EndsNumeral entry.2.display other.2.display
      ((entry.2 == other.2) = true)) :
    AlikeOnlyIf EndsNumeral (entryDisplay entry) (entryDisplay other)
      (Value.SamePair entry other) := by
  have alikeFront : AlikeOnlyIf AnyEnding (entry.1.display ++ ": ")
      (other.1.display ++ ": ") ((entry.1 == other.1) = true) :=
    alikeAtom.before (endsWord_append rfl rfl)
  exact alikeFront.join alikeValue

theorem Hash.forall_mem_pairs
    {hash : Hash}
    {holds : Atom × Value -> Prop}
    (ofEntries : ∀ entry ∈ hash.entries, holds entry.2) :
    ∀ entry ∈ hash.pairs, holds entry := by
  intro entry listed
  obtain ⟨filed, member, rfl⟩ :=
    List.mem_map.mp ((perm_pairs hash).mem_iff.mp listed)
  exact ofEntries filed member

omit [Embedding] in
theorem MemberSet.forall_mem_members
    {members : MemberSet}
    {holds : Atom -> Prop}
    (ofEntries : ∀ entry ∈ members.entries, holds entry.2) :
    ∀ atom ∈ MemberSet.members members, holds atom := by
  intro atom listed
  obtain ⟨filed, member, rfl⟩ :=
    List.mem_map.mp ((perm_members members).mem_iff.mp listed)
  exact ofEntries filed member

/-- Filed hashes that list related entries are equal. -/
theorem Hash.beq_of_pairs
    {left right : Hash}
    (leftFiled : Filed Prod.fst left)
    (rightFiled : Filed Prod.fst right)
    (connected : List.Forall₂ Value.SamePair left.pairs right.pairs) :
    (Value.hash left == .hash right) = true :=
  (Value.hash_beq_hash_iff leftFiled.1 rightFiled.1).mpr
    (leftFiled.matches_of_forall₂
      (fun _ _ samePair => Atom.key_eq_of_beq samePair.1) rightFiled
      (perm_pairs left) (perm_pairs right) connected)

/-- Filed sets that list equal members are equal. -/
theorem MemberSet.beq_of_members
    {left right : MemberSet}
    (leftFiled : Filed id left)
    (rightFiled : Filed id right)
    (connected : List.Forall₂ (fun member other => (member == other) = true)
      (MemberSet.members left) (MemberSet.members right)) :
    (Value.set left == .set right) = true :=
  (Value.set_beq_set_iff leftFiled.1 rightFiled.1).mpr
    (leftFiled.matches_of_forall₂
      (fun _ _ sameAtom => Atom.key_eq_of_beq sameAtom) rightFiled
      (perm_members left) (perm_members right) connected)

/-! ## Displayed texts of values -/

namespace Value

/-- Displayed arrays are read item by item. -/
theorem alikeOnlyIf_display_array
    {ending : String -> Prop}
    {items others : List Value}
    (itemsFree : ∀ item ∈ items, item.TextFree)
    (othersFree : ∀ other ∈ others, other.TextFree)
    (alike : ∀ item ∈ items, ∀ other ∈ others,
      AlikeOnlyIf EndsNumeral item.display other.display
        ((item == other) = true)) :
    AlikeOnlyIf ending (Value.array items).display
      (Value.array others).display
      ((Value.array items == .array others) = true) := by
  rw [display_array, display_array]
  have starts (item : Value) (free : item.TextFree) :
      ∀ rest closed, item.display ++ rest ≠ "]" ++ closed :=
    append_ne_of_leading? free.leading?_display rfl rfl
  exact (delimits_display_array.alike_bracketed "[" starts itemsFree othersFree
    alike).imp (equal_array_iff items others).mpr

/-- Displayed hashes are read entry by entry. -/
theorem alikeOnlyIf_display_hash
    {ending : String -> Prop}
    {left right : Hash}
    (leftFiled : Filed Prod.fst left)
    (rightFiled : Filed Prod.fst right)
    (leftFree : ∀ entry ∈ left.pairs, (Value.atom entry.1).TextFree)
    (rightFree : ∀ entry ∈ right.pairs, (Value.atom entry.1).TextFree)
    (alike : ∀ entry ∈ left.pairs, ∀ other ∈ right.pairs,
      AlikeOnlyIf EndsNumeral (entryDisplay entry) (entryDisplay other)
        (SamePair entry other)) :
    AlikeOnlyIf ending (Value.hash left).display (Value.hash right).display
      ((Value.hash left == .hash right) = true) := by
  rw [display_hash leftFiled, display_hash rightFiled]
  have starts (entry : Atom × Value) (free : (Value.atom entry.1).TextFree)
      (rest closed : String) :
      entryDisplay entry ++ rest ≠ "\x7d" ++ closed := by
    rw [entryDisplay, String.append_assoc, String.append_assoc]
    exact append_ne_of_leading? free.leading?_display rfl rfl _ _
  exact (delimits_display_hash.alike_bracketed "\x7b" starts leftFree rightFree
    alike).imp (Hash.beq_of_pairs leftFiled rightFiled)

/-- Displayed sets are read member by member. -/
theorem alikeOnlyIf_display_set
    {ending : String -> Prop}
    {left right : MemberSet}
    (leftFiled : Filed id left)
    (rightFiled : Filed id right)
    (leftFree : ∀ atom ∈ MemberSet.members left, (Value.atom atom).TextFree)
    (rightFree : ∀ atom ∈ MemberSet.members right, (Value.atom atom).TextFree)
    (alike : ∀ atom ∈ MemberSet.members left,
      ∀ other ∈ MemberSet.members right,
        AlikeOnlyIf EndsNumeral atom.display other.display
          ((atom == other) = true)) :
    AlikeOnlyIf ending (Value.set left).display (Value.set right).display
      ((Value.set left == .set right) = true) := by
  rw [display_set leftFiled, display_set rightFiled]
  have starts (atom : Atom) (free : (Value.atom atom).TextFree) :
      ∀ rest closed, atom.display ++ rest ≠ ")" ++ closed :=
    append_ne_of_leading? free.leading?_display rfl rfl
  exact (delimits_display_set.alike_bracketed "set(" starts leftFree rightFree
    alike).imp (MemberSet.beq_of_members leftFiled rightFiled)

/-- Whatever follows them, values without texts are displayed alike only if they
are equal. -/
theorem alikeOnlyIf_display
    {left right : Value}
    (leftWellFormed : left.WellFormed)
    (rightWellFormed : right.WellFormed)
    (leftFree : left.TextFree)
    (rightFree : right.TextFree) :
    AlikeOnlyIf EndsNumeral left.display right.display
      ((left == right) = true) := by
  -- On the left by induction; the first character leaves one form on the right.
  induction leftFree generalizing right with
  | int value =>
      refine (TextFree.int value).alike_of_kind_eq rightFree fun sameKind => ?_
      cases rightFree with
      | int other =>
          exact (alikeOnlyIf_display_int value other).imp
            (Atom.int_beq_int value other).mpr
      | _ => cases sameKind
  | bool value =>
      refine (TextFree.bool value).alike_of_kind_eq rightFree fun sameKind => ?_
      cases rightFree with
      | bool other =>
          exact (alikeOnlyIf_display_bool _ value other).imp
            (Atom.bool_beq_bool value other).mpr
      | _ => cases sameKind
  | null =>
      refine TextFree.null.alike_of_kind_eq rightFree fun sameKind => ?_
      cases rightFree with
      | null => exact (AlikeOnlyIf.self _).imp fun _ => rfl
      | _ => cases sameKind
  | array itemsFree inductionHypothesis =>
      refine (TextFree.array itemsFree).alike_of_kind_eq rightFree
        fun sameKind => ?_
      cases rightFree with
      | array othersFree =>
          rw [wellFormed_array] at leftWellFormed rightWellFormed
          refine alikeOnlyIf_display_array itemsFree othersFree ?_
          intro item member other otherMember
          exact inductionHypothesis item member (leftWellFormed item member)
            (rightWellFormed other otherMember) (othersFree other otherMember)
      | _ => cases sameKind
  | hash atomsFree valuesFree atomHypothesis valueHypothesis =>
      refine (TextFree.hash atomsFree valuesFree).alike_of_kind_eq rightFree
        fun sameKind => ?_
      cases rightFree with
      | hash otherAtomsFree otherValuesFree =>
          obtain ⟨leftFiled, leftValues⟩ :=
            (wellFormed_hash _).mp leftWellFormed
          obtain ⟨rightFiled, rightValues⟩ :=
            (wellFormed_hash _).mp rightWellFormed
          refine alikeOnlyIf_display_hash leftFiled rightFiled
            (Hash.forall_mem_pairs atomsFree)
            (Hash.forall_mem_pairs otherAtomsFree)
            (Hash.forall_mem_pairs fun entry member =>
              Hash.forall_mem_pairs fun other otherMember => ?_)
          exact alikeOnlyIf_entryDisplay
            (atomHypothesis entry member (wellFormed_atom _)
              (wellFormed_atom _) (otherAtomsFree other otherMember))
            (valueHypothesis entry member (leftValues entry member)
              (rightValues other otherMember)
              (otherValuesFree other otherMember))
      | _ => cases sameKind
  | set membersFree inductionHypothesis =>
      refine (TextFree.set membersFree).alike_of_kind_eq rightFree
        fun sameKind => ?_
      cases rightFree with
      | set othersFree =>
          refine alikeOnlyIf_display_set leftWellFormed rightWellFormed
            (MemberSet.forall_mem_members membersFree)
            (MemberSet.forall_mem_members othersFree)
            (MemberSet.forall_mem_members fun entry member =>
              MemberSet.forall_mem_members fun other otherMember => ?_)
          exact inductionHypothesis entry member (wellFormed_atom _)
            (wellFormed_atom _) (othersFree other otherMember)
      | _ => cases sameKind

end Value

/-- What is displayed of a value without texts identifies it. Of two such values
that programs can build, nested to any depth, the displayed texts are the same
exactly when the values are equal: neither empty collections nor separators,
signs or keywords make different values read alike. -/
theorem display_identifies_values_without_texts
    (left right : Value)
    (leftBuilt : left.Built)
    (rightBuilt : right.Built)
    (leftFree : left.TextFree)
    (rightFree : right.TextFree) :
    left.display = right.display ↔ (left == right) = true := by
  have leftWellFormed := leftBuilt.wellFormed
  have rightWellFormed := rightBuilt.wellFormed
  constructor
  · have ended : EndsNumeral "" := nofun
    exact (Value.alikeOnlyIf_display leftWellFormed rightWellFormed leftFree
      rightFree).of_eq ended
  · intro equal
    have closures : left.ClosuresAgree right := fun function _ within =>
      absurd within (leftFree.not_within function)
    exact (Value.sameTexts_of_beq leftWellFormed rightWellFormed equal
      closures).1

end

/-- Arrays that hold a hash built in two orders, and one that nests its items
differently. -/
theorem display_identifies_reordered_hashes :
    let both : MemberSet := Table.empty.fileAll id [.int 12, .bool true]
    let pairs : Hash := Table.empty.fileAll Prod.fst
      [(.int (-1), .set both), (.bool false, .null)]
    let others : Hash := Table.empty.fileAll Prod.fst
      [(.bool false, .null), (.int (-1), .set both)]
    let left : Value := .array [.hash pairs, .array []]
    let right : Value := .array [.hash others, .array []]
    let nested : Value := .array [.hash pairs, .array [.array []]]
    left.Built ∧ right.Built ∧ nested.Built ∧
      left.TextFree ∧ right.TextFree ∧ nested.TextFree ∧
      left.display = right.display ∧ left.display ≠ nested.display := by
  intro both pairs others left right nested
  have setBuilt : (Value.set both).Built :=
    @Value.Built.set _ [.int 12, .bool true] both rfl
  have setFree : (Value.set both).TextFree :=
    .set_fileAll (by simpa using ⟨.int 12, .bool true⟩)
  have pairsBuilt : (Value.hash pairs).Built :=
    @Value.Built.hash _ [(.int (-1), .set both), (.bool false, .null)] pairs
      (by simpa using ⟨setBuilt, .null⟩) rfl
  have pairsFree : (Value.hash pairs).TextFree :=
    .hash_fileAll (by simpa using ⟨⟨.int (-1), setFree⟩, .bool false, .null⟩)
  have othersBuilt : (Value.hash others).Built :=
    @Value.Built.hash _ [(.bool false, .null), (.int (-1), .set both)] others
      (by simpa using ⟨.null, setBuilt⟩) rfl
  have othersFree : (Value.hash others).TextFree :=
    .hash_fileAll (by simpa using ⟨⟨.bool false, .null⟩, .int (-1), setFree⟩)
  have emptyBuilt : (Value.array []).Built := .array nofun
  have emptyFree : (Value.array []).TextFree := .array nofun
  have leftBuilt : left.Built :=
    .array (by simpa using ⟨pairsBuilt, emptyBuilt⟩)
  have rightBuilt : right.Built :=
    .array (by simpa using ⟨othersBuilt, emptyBuilt⟩)
  have nestedBuilt : nested.Built :=
    .array (by simpa using ⟨pairsBuilt, .array (by simpa using emptyBuilt)⟩)
  have leftFree : left.TextFree :=
    .array (by simpa using ⟨pairsFree, emptyFree⟩)
  have rightFree : right.TextFree :=
    .array (by simpa using ⟨othersFree, emptyFree⟩)
  have nestedFree : nested.TextFree :=
    .array (by simpa using ⟨pairsFree, .array (by simpa using emptyFree)⟩)
  have sameText := display_identifies_values_without_texts left right leftBuilt
    rightBuilt leftFree rightFree
  have nestedText := display_identifies_values_without_texts left nested
    leftBuilt nestedBuilt leftFree nestedFree
  refine ⟨leftBuilt, rightBuilt, nestedBuilt, leftFree, rightFree, nestedFree,
    sameText.mpr (by decide), fun same => ?_⟩
  exact absurd (nestedText.mp same) (by decide)

end Monkey
