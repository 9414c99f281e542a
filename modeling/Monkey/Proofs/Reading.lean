import Mathlib

/-!
# Reading texts back

A text identifies what it was written for when its reader can tell where each
part of it ends. So parts are compared along with whatever stands behind them:
two texts are alike when both can be continued into one and the same text. What
follows from that for two texts follows for the texts that are put together from
them, as long as a part is followed only by what shows that it has ended.
-/

namespace Monkey

/-! ## Texts that differ at once -/

/-- Neither of two texts begins with the other. -/
def Apart (text other : String) : Prop :=
  ¬ text.toList <+: other.toList ∧ ¬ other.toList <+: text.toList

instance (text other : String) : Decidable (Apart text other) :=
  inferInstanceAs (Decidable (_ ∧ _))

/-- However they go on, two texts of which neither begins with the other stay
different. -/
theorem Apart.append_ne
    {text other : String}
    (apart : Apart text other)
    (rest otherRest : String) :
    text ++ rest ≠ other ++ otherRest := by
  intro sameText
  have begins : text.toList <+: (other ++ otherRest).toList := by
    rw [← sameText, String.toList_append]
    exact List.prefix_append _ _
  have otherBegins : other.toList <+: (other ++ otherRest).toList := by
    rw [String.toList_append]
    exact List.prefix_append _ _
  rcases List.prefix_or_prefix_of_prefix begins otherBegins with within | within
  · exact apart.1 within
  · exact apart.2 within

/-- A text begins with another. -/
def Begins (heading text : String) : Prop :=
  ∃ body, text = heading ++ body

theorem begins_self (text : String) : Begins text text :=
  ⟨"", String.append_empty.symm⟩

theorem begins_append (heading body : String) :
    Begins heading (heading ++ body) :=
  ⟨body, rfl⟩

theorem Begins.append
    {heading text : String}
    (begins : Begins heading text)
    (rest : String) :
    Begins heading (text ++ rest) := by
  obtain ⟨body, rfl⟩ := begins
  exact ⟨body ++ rest, String.append_assoc ..⟩

/-- Texts that begin apart stay different however they go on. -/
theorem Apart.append_ne_of_begins
    {heading otherHeading text other : String}
    (apart : Apart heading otherHeading)
    (begins : Begins heading text)
    (otherBegins : Begins otherHeading other)
    (rest otherRest : String) :
    text ++ rest ≠ other ++ otherRest := by
  obtain ⟨body, spelled⟩ := begins.append rest
  obtain ⟨otherBody, otherSpelled⟩ := otherBegins.append otherRest
  rw [spelled, otherSpelled]
  exact apart.append_ne body otherBody

/-! ## Texts that are alike -/

/-- When two texts are continued into one and the same text, each by what
`ending` allows behind it, then `same` holds and they are continued alike. -/
def AlikeOnlyIf
    (ending : String -> Prop)
    (text other : String)
    (same : Prop) : Prop :=
  ∀ rest otherRest, ending rest -> ending otherRest ->
    text ++ rest = other ++ otherRest -> same ∧ rest = otherRest

/-- Anything may follow. -/
abbrev AnyEnding (_rest : String) : Prop := True

namespace AlikeOnlyIf

variable
  {ending anyEnding : String -> Prop}
  {text other : String}
  {same : Prop}

/-- What follows from two texts being alike follows from their being one. -/
theorem of_eq
    (alike : AlikeOnlyIf ending text other same)
    (ended : ending "")
    (sameText : text = other) :
    same :=
  (alike "" "" ended ended (by rw [sameText])).1

theorem imp
    {weaker : Prop}
    (alike : AlikeOnlyIf ending text other same)
    (implied : same -> weaker) :
    AlikeOnlyIf ending text other weaker := by
  intro rest otherRest ended otherEnded sameText
  obtain ⟨holds, sameRest⟩ := alike rest otherRest ended otherEnded sameText
  exact ⟨implied holds, sameRest⟩

/-- One text says nothing that another does not. -/
theorem self (text : String) : AlikeOnlyIf ending text text True := by
  intro rest otherRest _ _ sameText
  exact ⟨trivial, (String.append_right_inj text).mp sameText⟩

/-- Texts that differ however they go on are never alike. -/
theorem of_append_ne
    (differ : ∀ rest otherRest, text ++ rest ≠ other ++ otherRest) :
    AlikeOnlyIf ending text other same :=
  fun rest otherRest _ _ sameText => absurd sameText (differ rest otherRest)

/-- Names of which none begins with another are alike only if they name the
same. -/
theorem of_apart
    {α : Type}
    (name : α -> String)
    (apart : ∀ left right, left ≠ right -> Apart (name left) (name right))
    (left right : α) :
    AlikeOnlyIf ending (name left) (name right) (left = right) := by
  by_cases sameNamed : left = right
  · subst sameNamed
    exact (self _).imp fun _ => rfl
  · exact of_append_ne (apart left right sameNamed).append_ne

/-- Texts put together from two parts are alike only if both parts are. -/
theorem append
    {back otherBack : String}
    {sameBack : Prop}
    (alike : AlikeOnlyIf ending text other same)
    (alikeBack : AlikeOnlyIf anyEnding back otherBack sameBack)
    (ends : ∀ rest, anyEnding rest -> ending (back ++ rest))
    (otherEnds : ∀ rest, anyEnding rest -> ending (otherBack ++ rest)) :
    AlikeOnlyIf anyEnding (text ++ back) (other ++ otherBack)
      (same ∧ sameBack) := by
  intro rest otherRest ended otherEnded sameText
  rw [String.append_assoc, String.append_assoc] at sameText
  obtain ⟨holds, sameRest⟩ := alike _ _ (ends rest ended)
    (otherEnds otherRest otherEnded) sameText
  obtain ⟨backHolds, sameEnd⟩ :=
    alikeBack rest otherRest ended otherEnded sameRest
  exact ⟨⟨holds, backHolds⟩, sameEnd⟩

/-- What stands in front of both texts makes no difference. -/
theorem behind
    (alike : AlikeOnlyIf ending text other same)
    (front : String) :
    AlikeOnlyIf ending (front ++ text) (front ++ other) same := by
  intro rest otherRest ended otherEnded sameText
  rw [String.append_assoc, String.append_assoc] at sameText
  exact alike rest otherRest ended otherEnded
    ((String.append_right_inj front).mp sameText)

/-- A text that ends both of two texts leaves open what follows. -/
theorem before
    (alike : AlikeOnlyIf ending text other same)
    {back : String}
    (ends : ∀ rest, ending (back ++ rest)) :
    AlikeOnlyIf anyEnding (text ++ back) (other ++ back) same :=
  (alike.append (self back) (fun rest _ => ends rest)
    fun rest _ => ends rest).imp And.left

/-- A text that shows its own end may be followed by any other. -/
theorem join
    {back otherBack : String}
    {sameBack : Prop}
    (alike : AlikeOnlyIf AnyEnding text other same)
    (alikeBack : AlikeOnlyIf ending back otherBack sameBack) :
    AlikeOnlyIf ending (text ++ back) (other ++ otherBack)
      (same ∧ sameBack) :=
  alike.append alikeBack (fun _ _ => trivial) fun _ _ => trivial

/-- A text that shows its own end may be followed by a fixed one. -/
theorem followedBy
    (alike : AlikeOnlyIf AnyEnding text other same)
    (back : String) :
    AlikeOnlyIf ending (text ++ back) (other ++ back) same :=
  alike.before fun _ => trivial

end AlikeOnlyIf

/-! ## Words -/

/-- A text does not go on with a character of some sort. -/
def EndsWord (ofWord : Char -> Bool) (rest : String) : Prop :=
  ∀ first ∈ rest.toList.head?, ofWord first = false

/-- A text that begins with another character ends the word in front of it. -/
theorem endsWord_append
    {ofWord : Char -> Bool}
    {text : String}
    {first : Char}
    (found : text.toList.head? = some first)
    (ends : ofWord first = false)
    (rest : String) :
    EndsWord ofWord (text ++ rest) := by
  intro char begins
  rw [String.toList_append, List.head?_append, found, Option.some_or] at begins
  cases begins
  exact ends

/-- A word whose end is marked is read up to there. -/
theorem takeWhile_word
    {ofWord : Char -> Bool}
    {word rest : String}
    (spelled : ∀ char ∈ word.toList, ofWord char = true)
    (ended : EndsWord ofWord rest) :
    (word ++ rest).toList.takeWhile ofWord = word.toList := by
  rw [String.toList_append, List.takeWhile_append_of_pos spelled,
    List.append_right_eq_self]
  cases found : rest.toList with
  | nil => rfl
  | cons first others =>
      refine List.takeWhile_cons_of_neg ?_
      rw [ended first (by rw [found]; rfl)]
      decide

/-- Words are alike only if they are one word. -/
theorem alikeOnlyIf_word
    {ofWord : Char -> Bool}
    {word other : String}
    (spelled : ∀ char ∈ word.toList, ofWord char = true)
    (otherSpelled : ∀ char ∈ other.toList, ofWord char = true) :
    AlikeOnlyIf (EndsWord ofWord) word other (word = other) := by
  intro rest otherRest ended otherEnded sameText
  have sameWord : word = other := by
    rw [← String.toList_inj, ← takeWhile_word spelled ended, sameText,
      takeWhile_word otherSpelled otherEnded]
  rw [sameWord] at sameText
  exact ⟨sameWord, (String.append_right_inj other).mp sameText⟩

/-! ## Numerals -/

/-- Whether a character occurs in the numerals of integers. -/
def isNumeral (char : Char) : Bool :=
  char == '-' || char.isDigit

/-- A text does not go on with a character of a numeral. -/
abbrev EndsNumeral : String -> Prop :=
  EndsWord isNumeral

theorem isNumeral_of_mem_repr
    {value : Nat}
    {char : Char}
    (member : char ∈ value.repr.toList) :
    isNumeral char = true := by
  rw [Nat.repr, String.toList_ofList] at member
  rw [isNumeral, Nat.isDigit_of_mem_toDigits (by decide) (by decide) member,
    Bool.or_true]

theorem isNumeral_of_mem_toString
    {value : Int}
    {char : Char}
    (member : char ∈ (toString value).toList) :
    isNumeral char = true := by
  cases value with
  | ofNat value => exact isNumeral_of_mem_repr member
  | negSucc value =>
      have spelled : char ∈ ("-" ++ value.succ.repr).toList := member
      rw [String.toList_append, List.mem_append] at spelled
      rcases spelled with sign | digit
      · rw [List.mem_singleton.mp sign]
        rfl
      · exact isNumeral_of_mem_repr digit

theorem toString_ne_empty (value : Int) : toString value ≠ "" := by
  cases value with
  | ofNat value => exact Nat.repr_ne_empty
  | negSucc value =>
      intro spelled
      have signed : "-" ++ value.succ.repr = "" := spelled
      simp at signed

/-- Numerals are alike only if they stand for one integer. -/
theorem alikeOnlyIf_toString (left right : Int) :
    AlikeOnlyIf EndsNumeral (toString left) (toString right) (left = right) := by
  refine (alikeOnlyIf_word (fun _ => isNumeral_of_mem_toString)
    fun _ => isNumeral_of_mem_toString).imp fun sameText => ?_
  rw [Int.toString_eq_repr, Int.toString_eq_repr] at sameText
  exact Int.repr_injective sameText

/-! ## Lists -/

/-- The separator of a list and the text that closes it are told apart at once,
and both end the item in front of them. -/
structure Delimits
    (ending : String -> Prop)
    (separator close : String) : Prop where
  apart : Apart separator close
  endsAtSeparator : ∀ rest, ending (separator ++ rest)
  endsAtClose : ∀ rest, ending (close ++ rest)

/-- What follows the first text of a list: the others behind separators, then
the closing text. -/
def closing (separator close : String) : List String -> String
  | [] => close
  | text :: rest => separator ++ (text ++ closing separator close rest)

theorem intercalate_append_eq
    (separator close text : String)
    (rest : List String) :
    separator.intercalate (text :: rest) ++ close =
      text ++ closing separator close rest := by
  induction rest generalizing text with
  | nil => rw [String.intercalate_singleton, closing]
  | cons next rest inductionHypothesis =>
      rw [String.intercalate_cons_cons, String.append_assoc,
        String.append_assoc, inductionHypothesis, closing]

namespace Delimits

variable
  {α : Type}
  {separator close : String}
  {ending anyEnding : String -> Prop}
  {write : α -> String}
  {related : α -> α -> Prop}

theorem ending_closing
    (delimits : Delimits ending separator close)
    (texts : List String)
    (rest : String) :
    ending (closing separator close texts ++ rest) := by
  cases texts with
  | nil => exact delimits.endsAtClose rest
  | cons text texts =>
      rw [closing, String.append_assoc]
      exact delimits.endsAtSeparator _

/-- A closed list is not over where another one goes on. -/
theorem closing_cons_ne
    (delimits : Delimits ending separator close)
    (text : String)
    (texts : List String)
    (rest closed : String) :
    closing separator close (text :: texts) ++ rest ≠ close ++ closed := by
  rw [closing, String.append_assoc]
  exact delimits.apart.append_ne _ _

/-- An item in front of the rest of a list is read before that rest. -/
theorem alike_cons
    (delimits : Delimits ending separator close)
    {item other : α}
    {items others : List α}
    (alike : AlikeOnlyIf ending (write item) (write other)
      (related item other))
    (alikeRest : AlikeOnlyIf anyEnding
      (closing separator close (items.map write))
      (closing separator close (others.map write))
      (List.Forall₂ related items others)) :
    AlikeOnlyIf anyEnding
      (write item ++ closing separator close (items.map write))
      (write other ++ closing separator close (others.map write))
      (List.Forall₂ related (item :: items) (other :: others)) :=
  (alike.append alikeRest (fun rest _ => delimits.ending_closing _ rest)
    fun rest _ => delimits.ending_closing _ rest).imp
      fun both => .cons both.1 both.2

theorem alike_closing
    (delimits : Delimits ending separator close)
    {items others : List α}
    (alike : ∀ item ∈ items, ∀ other ∈ others,
      AlikeOnlyIf ending (write item) (write other) (related item other)) :
    AlikeOnlyIf anyEnding (closing separator close (items.map write))
      (closing separator close (others.map write))
      (List.Forall₂ related items others) := by
  induction items generalizing others with
  | nil =>
      cases others with
      | nil => exact (AlikeOnlyIf.self close).imp fun _ => .nil
      | cons other others =>
          exact .of_append_ne fun rest otherRest =>
            (delimits.closing_cons_ne _ _ otherRest rest).symm
  | cons item items inductionHypothesis =>
      cases others with
      | nil => exact .of_append_ne (delimits.closing_cons_ne _ _)
      | cons other others =>
          have alikeRest := inductionHypothesis
            fun item member other otherMember =>
              alike item (.tail _ member) other (.tail _ otherMember)
          exact (delimits.alike_cons (alike item (.head _) other (.head _))
            alikeRest).behind separator

/-- Lists in brackets are alike only if they list related items, one by one,
when no item is mistaken for the closing bracket. -/
theorem alike_bracketed
    (delimits : Delimits ending separator close)
    (opening : String)
    {listed : α -> Prop}
    (starts : ∀ item, listed item -> ∀ rest closed,
      write item ++ rest ≠ close ++ closed)
    {items others : List α}
    (itemsListed : ∀ item ∈ items, listed item)
    (othersListed : ∀ other ∈ others, listed other)
    (alike : ∀ item ∈ items, ∀ other ∈ others,
      AlikeOnlyIf ending (write item) (write other) (related item other)) :
    AlikeOnlyIf anyEnding
      (opening ++ separator.intercalate (items.map write) ++ close)
      (opening ++ separator.intercalate (others.map write) ++ close)
      (List.Forall₂ related items others) := by
  -- Only an empty list begins with its closing bracket.
  have nonempty {item : α} {items : List α}
      (start : listed item)
      (rest closed : String) :
      separator.intercalate ((item :: items).map write) ++ close ++ rest ≠
        separator.intercalate ([].map write) ++ close ++ closed := by
    rw [List.map_cons, intercalate_append_eq, String.append_assoc,
      List.map_nil, String.intercalate_nil, String.empty_append]
    exact starts item start _ _
  rw [String.append_assoc, String.append_assoc]
  refine AlikeOnlyIf.behind ?_ opening
  cases items with
  | nil =>
      cases others with
      | nil => exact (AlikeOnlyIf.self _).imp fun _ => .nil
      | cons other others =>
          exact .of_append_ne fun rest otherRest =>
            (nonempty (othersListed other (.head _)) otherRest rest).symm
  | cons item items =>
      cases others with
      | nil =>
          exact .of_append_ne (nonempty (itemsListed item (.head _)))
      | cons other others =>
          rw [List.map_cons, List.map_cons, intercalate_append_eq,
            intercalate_append_eq]
          exact delimits.alike_cons (alike item (.head _) other (.head _))
            (delimits.alike_closing fun item member other otherMember =>
              alike item (.tail _ member) other (.tail _ otherMember))

end Delimits

end Monkey
