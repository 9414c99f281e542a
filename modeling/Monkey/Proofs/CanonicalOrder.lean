import Mathlib
import Monkey.Proofs.Filing
import Monkey.Proofs.Atom

/-!
# The canonical order

The place of an atom in a listing depends on its rank alone: the name of its
kind, then its displayed text. A collection never holds two atoms of one rank,
because the rank determines the key. So a listing in canonical order depends on
what is listed and not on the order in which it was filed.
-/

namespace Monkey

/-! ## Ranks -/

/-- No two kinds have the same name. -/
theorem Kind.name_injective : Function.Injective Kind.name := by
  have distinct : ∀ left ∈ all, ∀ right ∈ all,
      left.name = right.name -> left = right := by decide
  intro left right sameName
  exact distinct left (mem_all left) right (mem_all right) sameName

namespace Atom

/-- The name of the kind of an atom, then its displayed text. -/
def rank (atom : Atom) : String ×ₗ String :=
  toLex (atom.kind.name, atom.display)

/-- Exactly the atoms of lower or equal rank may stand before an atom. -/
theorem precedes_eq (left right : Atom) :
    left.precedes right = decide (left.rank ≤ right.rank) := by
  rw [precedes, Bool.eq_iff_iff, decide_eq_true_iff, rank, rank,
    Prod.Lex.toLex_le_toLex]
  by_cases sameKind : left.kind = right.kind
  · rw [if_pos sameKind, decide_eq_true_iff, sameKind]
    exact ⟨fun before => Or.inr ⟨rfl, before⟩,
      Or.rec (fun less => absurd less (lt_irrefl _)) And.right⟩
  · have differentNames : left.kind.name ≠ right.kind.name :=
      fun sameName => sameKind (Kind.name_injective sameName)
    rw [if_neg sameKind, decide_eq_true_iff]
    exact ⟨fun before => Or.inl (lt_of_le_of_ne before differentNames),
      Or.rec le_of_lt fun same => absurd same.1 differentNames⟩

/-- The rank of an atom determines its key. -/
theorem key_eq_of_rank_eq
    {left right : Atom}
    (sameRank : left.rank = right.rank) :
    left.key = right.key := by
  obtain ⟨sameName, sameDisplay⟩ := Prod.ext_iff.mp (toLex.injective sameRank)
  have sameKind : left.kind = right.kind := Kind.name_injective sameName
  cases left <;> cases right <;> cases sameKind
  case int.int.refl left right =>
    change toString left.toInt = toString right.toInt at sameDisplay
    rw [Int.toString_eq_repr, Int.toString_eq_repr] at sameDisplay
    obtain rfl := Int64.toInt_inj.mp (Int.repr_injective sameDisplay)
    rfl
  case bool.bool.refl left right =>
    revert sameDisplay
    cases left <;> cases right <;> decide
  case text.text.refl left right =>
    exact congrArg Key.ofString sameDisplay

/-- Equal atoms have one rank. -/
theorem rank_eq_of_beq
    {left right : Atom}
    (equal : (left == right) = true) :
    left.rank = right.rank := by
  have sameKind := kind_eq_of_beq equal
  have sameDisplay : left.display = right.display := by
    cases left <;> cases right <;> cases sameKind <;> simp_all [display]
  rw [rank, rank, sameKind, sameDisplay]

end Atom

/-! ## Listings -/

section Listings

variable {α β γ : Type} {left : List (Atom × α)} {right : List (Atom × β)}

/-- Entries in canonical order are ordered by rank. -/
theorem pairwise_canonicalOrder (entries : List (Atom × α)) :
    (canonicalOrder entries).Pairwise fun left right =>
      left.1.rank ≤ right.1.rank := by
  have ordered : (canonicalOrder entries).Pairwise fun left right =>
      left.1.precedes right.1 = true := by
    refine List.pairwise_mergeSort ?_ ?_ entries
    · simp only [Atom.precedes_eq, decide_eq_true_eq]
      exact fun _ _ _ => le_trans
    · simp only [Atom.precedes_eq, Bool.or_eq_true, decide_eq_true_eq]
      exact fun _ _ => le_total _ _
  simpa only [Atom.precedes_eq, decide_eq_true_eq] using ordered

/-- Entries of distinct ranks are strictly ordered. -/
theorem pairwise_lt_canonicalOrder
    {entries : List (Atom × α)}
    (nodup : (entries.map fun entry => entry.1.rank).Nodup) :
    (canonicalOrder entries).Pairwise fun left right =>
      left.1.rank < right.1.rank := by
  have ranksNodup : ((canonicalOrder entries).map
      fun entry => entry.1.rank).Nodup :=
    ((perm_canonicalOrder entries).map _).nodup_iff.mpr nodup
  exact ((pairwise_canonicalOrder entries).and
    (List.pairwise_map.mp ranksNodup)).imp
      fun both => lt_of_le_of_ne both.1 both.2

/-- What is written of entries in canonical order depends on their ranks and on
what is written for each, not on the order in which they came. -/
theorem map_canonicalOrder_eq
    {write : Atom × α -> γ}
    {writeOther : Atom × β -> γ}
    (nodup : (left.map fun entry => entry.1.rank).Nodup)
    (permuted : (left.map fun entry => (entry.1.rank, write entry)).Perm
      (right.map fun entry => (entry.1.rank, writeOther entry))) :
    (canonicalOrder left).map write = (canonicalOrder right).map writeOther := by
  have listed := ((perm_canonicalOrder left).map _).trans
    (permuted.trans ((perm_canonicalOrder right).map _).symm)
  have leftOrdered : ((canonicalOrder left).map
      fun entry => (entry.1.rank, write entry)).Pairwise
        fun before after => before.1 < after.1 :=
    List.pairwise_map.mpr (pairwise_lt_canonicalOrder nodup)
  have rightOrdered : ((canonicalOrder right).map
      fun entry => (entry.1.rank, writeOther entry)).Pairwise
        fun before after => before.1 < after.1 := by
    refine List.pairwise_map.mpr (pairwise_lt_canonicalOrder ?_)
    have ranksPerm := permuted.map Prod.fst
    rw [List.map_map, List.map_map] at ranksPerm
    exact ranksPerm.nodup_iff.mp nodup
  have ranked : (canonicalOrder left).map
        (fun entry => (entry.1.rank, write entry)) =
      (canonicalOrder right).map
        (fun entry => (entry.1.rank, writeOther entry)) :=
    listed.eq_of_pairwise
      (fun _ _ _ _ before after => absurd after before.asymm)
      leftOrdered rightOrdered
  have written := congrArg (List.map Prod.snd) ranked
  rwa [List.map_map, List.map_map] at written

end Listings

/-! ## Listings of filed tables -/

section Tables

variable {α β γ : Type} {atom : α -> Atom}

/-- A filed table holds no two atoms of one rank. -/
theorem Filed.nodup_ranks
    {table : Table Key α}
    (filed : Filed atom table) :
    (table.entries.map fun entry => (atom entry.2).rank).Nodup := by
  have nodup : table.entries.Pairwise fun left right => left.1 ≠ right.1 :=
    List.pairwise_map.mp filed.1
  refine List.pairwise_map.mpr (nodup.imp_of_mem ?_)
  intro left right leftMember rightMember differentKeys sameRank
  apply differentKeys
  rw [filed.2 left leftMember, filed.2 right rightMember]
  exact Atom.key_eq_of_rank_eq sameRank

/-- The listing of a filed table is strictly ordered by rank. -/
theorem Filed.pairwise_listing
    {table : Table Key α}
    (label : α -> Atom × β)
    (filed : Filed (fun entry => (label entry).1) table) :
    (canonicalOrder (table.entries.map fun entry => label entry.2)).Pairwise
      fun before after => before.1.rank < after.1.rank := by
  refine pairwise_lt_canonicalOrder ?_
  rw [List.map_map]
  exact filed.nodup_ranks

/-- Filed tables that match up to rank and written text have one listing. -/
theorem map_listing_eq_of_matches
    {related : α -> α -> Prop}
    {left right : Table Key α}
    (label : α -> Atom × β)
    {write : Atom × β -> γ}
    (leftFiled : Filed (fun entry => (label entry).1) left)
    (rightFiled : Filed (fun entry => (label entry).1) right)
    (matched : Matches related left.get? right.get?)
    (sameRank : ∀ entry other, related entry other ->
      (label entry).1.rank = (label other).1.rank)
    (sameWritten : ∀ entry other, related entry other ->
      write (label entry) = write (label other)) :
    (canonicalOrder (left.entries.map fun entry => label entry.2)).map write =
      (canonicalOrder (right.entries.map fun entry => label entry.2)).map
        write := by
  refine map_canonicalOrder_eq ?_ ?_
  · rw [List.map_map]
    exact leftFiled.nodup_ranks
  · rw [List.map_map, List.map_map]
    refine Table.map_entries_perm_of_matches leftFiled.1 rightFiled.1 matched ?_
    intro _ entry other _ _ connected
    exact Prod.ext (sameRank entry other connected)
      (sameWritten entry other connected)

end Tables

end Monkey
