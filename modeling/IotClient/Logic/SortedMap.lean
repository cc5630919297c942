namespace IotClient.Logic

/-- A map as the list of its entries, in the order of their keys. -/
@[ext] structure SortedMap (κ ν : Type) [LT κ] where
  entries : List (κ × ν)
  sorted : entries.Pairwise fun first second => first.1 < second.1
  deriving DecidableEq, Repr

namespace SortedMap

variable {κ ν : Type} [LT κ]

def empty : SortedMap κ ν := ⟨[], .nil⟩

def keys (map : SortedMap κ ν) : List κ :=
  map.entries.map Prod.fst

variable [DecidableLT κ]

/-- The entry at the key becomes what `change` makes of the value there, if there is one. -/
def alterEntries (key : κ) (change : Option ν → ν) : List (κ × ν) → List (κ × ν)
  | [] => [(key, change none)]
  | (other, value) :: rest =>
      if key < other then (key, change none) :: (other, value) :: rest
      else if other < key then (other, value) :: alterEntries key change rest
      else (other, change (some value)) :: rest

theorem key_of_mem_alterEntries {key : κ} {change : Option ν → ν} {entries : List (κ × ν)} {entry : κ × ν}
    (member : entry ∈ alterEntries key change entries) : entry.1 = key ∨ entry.1 ∈ entries.map Prod.fst := by
  induction entries with
  | nil =>
      simp only [alterEntries, List.mem_singleton] at member
      exact .inl (by rw [member])
  | cons head rest continued =>
      obtain ⟨other, value⟩ := head
      simp only [alterEntries] at member
      split at member
      · rcases List.mem_cons.1 member with same | member
        · exact .inl (by rw [same])
        · exact .inr (List.mem_map_of_mem member)
      · split at member
        · rcases List.mem_cons.1 member with same | member
          · exact .inr (by simp [same])
          · exact (continued member).imp_right (List.mem_cons_of_mem _)
        · rcases List.mem_cons.1 member with same | member
          · exact .inr (by simp [same])
          · exact .inr (List.mem_cons_of_mem _ (List.mem_map_of_mem member))

section Trichotomous

variable [trichotomous : Std.Trichotomous (α := κ) (· < ·)]

theorem alterEntries_absent {key : κ} (change : Option ν → ν) {entries : List (κ × ν)}
    (absent : key ∉ entries.map Prod.fst) :
    (alterEntries key change entries).Perm ((key, change none) :: entries) := by
  induction entries with
  | nil => exact .refl _
  | cons head rest continued =>
      obtain ⟨other, value⟩ := head
      simp only [List.map_cons, List.mem_cons, not_or] at absent
      simp only [alterEntries]
      split
      next => exact .refl _
      next notBefore =>
        split
        next => exact ((continued absent.2).cons _).trans (.swap _ _ _)
        next notAfter => exact absurd (trichotomous.trichotomous _ _ notBefore notAfter) absent.1

end Trichotomous

variable [Trans (α := κ) (· < ·) (· < ·) (· < ·)]

theorem sorted_alterEntries (key : κ) (change : Option ν → ν) {entries : List (κ × ν)}
    (sorted : entries.Pairwise fun first second => first.1 < second.1) :
    (alterEntries key change entries).Pairwise fun first second => first.1 < second.1 := by
  induction entries with
  | nil => exact List.pairwise_singleton _ _
  | cons head rest continued =>
      obtain ⟨other, value⟩ := head
      obtain ⟨least, ordered⟩ := List.pairwise_cons.1 sorted
      simp only [alterEntries]
      split
      next before =>
        refine .cons ?_ sorted
        intro entry member
        rcases List.mem_cons.1 member with same | member
        · rw [same]
          exact before
        · exact Trans.trans before (least entry member)
      next =>
        split
        next after =>
          refine .cons ?_ (continued ordered)
          intro entry member
          rcases key_of_mem_alterEntries member with same | member
          · rw [same]
            exact after
          · obtain ⟨old, member, same⟩ := List.mem_map.1 member
            rw [← same]
            exact least old member
        next => exact .cons (fun entry member => least entry member) ordered

def alter (map : SortedMap κ ν) (key : κ) (change : Option ν → ν) : SortedMap κ ν :=
  ⟨alterEntries key change map.entries, sorted_alterEntries key change map.sorted⟩

def set (map : SortedMap κ ν) (key : κ) (value : ν) : SortedMap κ ν :=
  map.alter key fun _ => value

def insert (map : SortedMap κ ν) (key : κ) (value : ν) : SortedMap κ ν :=
  map.alter key fun old => old.getD value

def insertAll (map : SortedMap κ ν) (entries : List (κ × ν)) : SortedMap κ ν :=
  entries.foldl (fun map entry => map.insert entry.1 entry.2) map

/-! ## What the entries are after a change -/

section Trichotomous

variable [Std.Trichotomous (α := κ) (· < ·)]

theorem insert_absent {map : SortedMap κ ν} {key : κ} (value : ν) (absent : key ∉ map.keys) :
    (map.insert key value).entries.Perm ((key, value) :: map.entries) :=
  alterEntries_absent _ absent

end Trichotomous

variable [irreflexive : Std.Irrefl (α := κ) (· < ·)]

omit [DecidableLT κ] [Trans (α := κ) (· < ·) (· < ·) (· < ·)] in
theorem distinct (map : SortedMap κ ν) : map.keys.Nodup := by
  rw [keys, List.Nodup, List.pairwise_map]
  refine map.sorted.imp fun {first second} less same => ?_
  rw [same] at less
  exact irreflexive.irrefl _ less

theorem alterEntries_present {key : κ} {change : Option ν → ν} {entries : List (κ × ν)}
    (sorted : entries.Pairwise fun first second => first.1 < second.1) (present : key ∈ entries.map Prod.fst)
    (same : ∀ value, change (some value) = value) : alterEntries key change entries = entries := by
  induction entries with
  | nil => cases present
  | cons head rest continued =>
      obtain ⟨other, value⟩ := head
      obtain ⟨least, ordered⟩ := List.pairwise_cons.1 sorted
      rcases List.mem_cons.1 present with here | later
      · cases here
        simp only [alterEntries, irreflexive.irrefl, same, if_false]
      · have after : other < key := by
          obtain ⟨entry, member, keyed⟩ := List.mem_map.1 later
          rw [← keyed]
          exact least entry member
        have notBefore : ¬key < other := fun before => irreflexive.irrefl _ (Trans.trans before after)
        simp only [alterEntries, notBefore, after, if_true, if_false, continued ordered later]

theorem insert_present {map : SortedMap κ ν} {key : κ} (value : ν) (present : key ∈ map.keys) :
    map.insert key value = map :=
  SortedMap.ext (alterEntries_present map.sorted present fun _ => rfl)

theorem insertAll_perm [Std.Trichotomous (α := κ) (· < ·)] [DecidableEq κ] (map : SortedMap κ ν)
    {entries : List (κ × ν)} (distinct : (entries.map Prod.fst).Nodup) :
    (map.insertAll entries).entries.Perm
      (map.entries ++ entries.filter fun entry => entry.1 ∉ map.keys) := by
  induction entries generalizing map with
  | nil => simp [insertAll]
  | cons entry rest continued =>
      obtain ⟨fresh, distinct⟩ := List.nodup_cons.1 distinct
      refine (continued (map.insert entry.1 entry.2) distinct).trans ?_
      by_cases present : entry.1 ∈ map.keys
      · rw [insert_present entry.2 present, List.filter_cons_of_neg (by simp [present])]
      · have inserted := insert_absent entry.2 present
        -- the key just inserted is none of those still to come
        have same : (rest.filter fun later => later.1 ∉ (map.insert entry.1 entry.2).keys) =
            rest.filter fun later => later.1 ∉ map.keys := by
          apply List.filter_congr
          intro later member
          have other : later.1 ≠ entry.1 := fun same => fresh (same ▸ List.mem_map_of_mem member)
          have iff : later.1 ∈ (map.insert entry.1 entry.2).keys ↔ later.1 ∈ map.keys := by
            rw [keys, (inserted.map Prod.fst).mem_iff]
            simp [other, keys]
          simp [iff]
        rw [same, List.filter_cons_of_pos (by simp [present])]
        exact (inserted.append_right _).trans List.perm_middle.symm

end SortedMap

end IotClient.Logic
