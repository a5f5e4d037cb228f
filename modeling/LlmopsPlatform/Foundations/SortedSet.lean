import LlmopsPlatform.Foundations.OrderedDict
import Mathlib.Data.Finset.Card
import Mathlib.Data.Finset.Image
import Mathlib.Order.Defs.LinearOrder

/-!
# Sets of members with scores

A set whose members each have a score, with the three operations of a sorted set that a
sliding window uses: adding a member or changing its score (`zadd`), removing the
members whose score is in a range (`zremrangebyscore`), and counting (`zcard`).

Whatever finite set of keys is present is no larger than the count
(`card_le_zcard`), and some such set is as large (`exists_card_eq_zcard`).
-/

set_option autoImplicit false

namespace Foundations

/-- A set of members with scores. -/
abbrev SortedSet (Member Score : Type*) := OrderedDict Member Score

namespace SortedSet

variable {Member Score : Type*} [DecidableEq Member]

/-- `ZADD`. -/
def zadd (set : SortedSet Member Score) (member : Member) (score : Score) :
    SortedSet Member Score :=
  OrderedDict.set set member score

/-- `ZCARD`. -/
def zcard (set : SortedSet Member Score) : Nat := set.entries.length

/-- `ZREMRANGEBYSCORE`, with both ends of the range included. -/
def zremrangebyscore [LinearOrder Score] (set : SortedSet Member Score) (low high : Score) :
    SortedSet Member Score where
  entries := set.entries.filter fun entry => ¬ (low ≤ entry.2 ∧ entry.2 ≤ high)
  keysUnique := set.keysUnique.sublist (List.filter_sublist.map _)

/-- `ZSCORE`. -/
def zscore (set : SortedSet Member Score) (member : Member) : Option Score := set.get? member

@[simp] theorem zscore_empty (member : Member) :
    zscore (OrderedDict.empty : SortedSet Member Score) member = none := rfl

theorem zscore_zadd (set : SortedSet Member Score) (member other : Member) (score : Score) :
    zscore (zadd set member score) other =
      if other = member then some score else zscore set other :=
  OrderedDict.get?_upsert set member other _

/-- A member keeps its score when a range is removed, unless its score is in the range. -/
theorem zscore_zremrangebyscore [LinearOrder Score] (set : SortedSet Member Score)
    (low high : Score) (member : Member) (score : Score) :
    zscore (zremrangebyscore set low high) member = some score ↔
      zscore set member = some score ∧ ¬ (low ≤ score ∧ score ≤ high) := by
  unfold zscore
  rw [← OrderedDict.mem_entries_iff, ← OrderedDict.mem_entries_iff]
  simp only [zremrangebyscore, List.mem_filter, decide_eq_true_eq]

/-- Members that are present are counted. -/
theorem card_le_zcard (set : SortedSet Member Score) (members : Finset Member)
    (present : ∀ member ∈ members, ∃ score, zscore set member = some score) :
    members.card ≤ zcard set := by
  have inKeys : members ⊆ (set.entries.map Prod.fst).toFinset := by
    intro member isMember
    obtain ⟨score, isScore⟩ := present member isMember
    have entry := (OrderedDict.mem_entries_iff set).mpr isScore
    exact List.mem_toFinset.mpr (List.mem_map_of_mem entry)
  calc
    members.card ≤ (set.entries.map Prod.fst).toFinset.card := Finset.card_le_card inKeys
    _ ≤ (set.entries.map Prod.fst).length := List.toFinset_card_le _
    _ = zcard set := List.length_map _

/-- What is counted is present. -/
theorem exists_card_eq_zcard (set : SortedSet Member Score) :
    ∃ members : Finset Member, members.card = zcard set ∧
      ∀ member ∈ members, ∃ score, zscore set member = some score := by
  refine ⟨(set.entries.map Prod.fst).toFinset, ?_, ?_⟩
  · rw [List.toFinset_card_of_nodup set.keysUnique, List.length_map]
    rfl
  · intro member isMember
    obtain ⟨entry, isEntry, rfl⟩ := List.mem_map.mp (List.mem_toFinset.mp isMember)
    exact ⟨entry.2, (OrderedDict.mem_entries_iff set).mp isEntry⟩

end SortedSet

end Foundations
