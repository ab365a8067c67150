import LayerAudit.Sorted
import Mathlib.Data.List.Induction

/-! What is found under a key in a sorted list is the value that was put there last. -/

namespace LayerAudit.Sorted

variable {β : Type}

/-- Nothing is found in an empty list. -/
@[simp] theorem get?_nil (key : String) : get? key ([] : List (String × β)) = none := rfl

/-- The first entry with a key counts. -/
theorem get?_cons (key : String) (entry : String × β) (rest : List (String × β)) :
    get? key (entry :: rest) = if key = entry.1 then some entry.2 else get? key rest := by
  obtain ⟨first, value⟩ := entry
  by_cases same : key = first
  · simp [get?, same]
  · have unequal : (key == first) = false := beq_eq_false_iff_ne.mpr same
    simp [get?, List.lookup_cons, same, unequal]

/-- Putting a value under a key changes what is found there and nowhere else. -/
theorem get?_put (sought key : String) (value : β) (entries : List (String × β)) :
    get? sought (put key value entries) = if sought = key then some value else get? sought entries := by
  induction entries with
  | nil => simp [put, get?_cons]
  | cons entry rest ih =>
    unfold put
    split
    · -- The key comes before all others.
      rw [get?_cons]
    · split
      · -- The earlier entry under the key gives way.
        rename_i _ same
        rw [get?_cons, get?_cons, ← same]
        split <;> rfl
      · rename_i _ apart
        -- The value is put further on, and the first entry stays.
        rw [get?_cons, get?_cons, ih]
        by_cases first : sought = entry.1
        · have other : sought ≠ key := fun same => apart (same.symm.trans first)
          simp [first ▸ other, first]
        · simp [first]

/-- One more entry is put into the list of the others. -/
theorem ofList_concat (entries : List (String × β)) (entry : String × β) :
    ofList (entries ++ [entry]) = put entry.1 entry.2 (ofList entries) := by
  simp [ofList]

/-- The last entry with a key counts. -/
theorem get?_ofList (key : String) (entries : List (String × β)) :
    get? key (ofList entries) = get? key entries.reverse := by
  -- The induction is on the entries from their end, where each new one counts first.
  induction entries using List.reverseRecOn with
  | nil => rfl
  | append_singleton rest entry ih => rw [ofList_concat, get?_put, ih, List.reverse_concat, get?_cons]

/-- What is found is the value of an entry. -/
theorem mem_of_get? {key : String} {value : β} {entries : List (String × β)} (found : get? key entries = some value) :
    (key, value) ∈ entries := by
  induction entries with
  | nil => cases found
  | cons entry rest ih =>
    rw [get?_cons] at found
    split at found
    · rename_i same
      cases found
      simp [same]
    · exact List.mem_cons_of_mem _ (ih found)

/-- Something is found exactly if there is an entry with the key. -/
theorem get?_isSome (key : String) (entries : List (String × β)) :
    (get? key entries).isSome ↔ ∃ entry ∈ entries, entry.1 = key := by
  induction entries with
  | nil => simp
  | cons entry rest ih =>
    rw [get?_cons]
    by_cases same : key = entry.1
    · simp [same]
    · simp [same, ih, Ne.symm same]

/-- An entry of the list that holds a value put there is that value's or an older one. -/
theorem mem_put {entry : String × β} {key : String} {value : β} {entries : List (String × β)}
    (member : entry ∈ put key value entries) : entry = (key, value) ∨ entry ∈ entries := by
  induction entries with
  | nil => exact Or.inl (List.mem_singleton.mp member)
  | cons first rest ih =>
    -- The value goes before the first entry, in its place, or behind it.
    unfold put at member
    grind

/-- Every entry of the sorted list is one of the given entries. -/
theorem mem_of_mem_ofList {entry : String × β} {entries : List (String × β)} (member : entry ∈ ofList entries) :
    entry ∈ entries := by
  induction entries using List.reverseRecOn with
  | nil => cases member
  | append_singleton rest last ih =>
    rw [ofList_concat] at member
    rcases mem_put member with rfl | older
    · simp
    · exact List.mem_append_left _ (ih older)

/-! ### Keys in order -/

/-- The keys increase. -/
def Ordered (entries : List (String × β)) : Prop := entries.Pairwise fun earlier later => earlier.1 < later.1

/-- Putting a value under a key keeps the keys in order. -/
theorem Ordered.put {entries : List (String × β)} (ordered : Ordered entries) (key : String) (value : β) :
    Ordered (put key value entries) := by
  induction entries with
  | nil => exact List.pairwise_singleton _ _
  | cons entry rest ih =>
    obtain ⟨least, restOrdered⟩ := List.pairwise_cons.mp ordered
    unfold Sorted.put
    split
    · -- A key less than the first is less than all.
      rename_i before
      refine List.pairwise_cons.mpr ⟨fun other member => ?_, ordered⟩
      rcases List.mem_cons.mp member with rfl | later
      · exact before
      · exact String.lt_trans before (least other later)
    · split
      · rename_i same
        -- The same key in the same place.
        exact List.pairwise_cons.mpr ⟨fun other later => same ▸ least other later, restOrdered⟩
      · rename_i notBefore apart
        have after : entry.1 < key := by
          refine String.not_le.mp fun atMost => apart ?_
          exact String.le_antisymm atMost (String.not_lt.mp notBefore)
        refine List.pairwise_cons.mpr ⟨fun other member => ?_, ih restOrdered⟩
        -- What comes behind the first entry is the new one or an older one.
        rcases mem_put member with rfl | later
        · exact after
        · exact least other later

/-- In a list with ordered keys every entry is found under its key. -/
theorem Ordered.get?_of_mem {entries : List (String × β)} (ordered : Ordered entries) {key : String} {value : β}
    (member : (key, value) ∈ entries) : get? key entries = some value := by
  induction entries with
  | nil => cases member
  | cons entry rest ih =>
    obtain ⟨least, restOrdered⟩ := List.pairwise_cons.mp ordered
    rw [get?_cons]
    rcases List.mem_cons.mp member with rfl | later
    · exact if_pos rfl
    · have after : entry.1 < key := least (key, value) later
      have apart : key ≠ entry.1 := fun same => String.lt_irrefl key (same.symm ▸ after)
      rw [if_neg apart]
      exact ih restOrdered later

/-! ### Sets -/

/-- Adding a member to a set adds nothing else to it. -/
theorem mem_add {sought member : String} {set : List String} :
    sought ∈ add member set ↔ sought = member ∨ sought ∈ set := by
  induction set with
  | nil => simp [add]
  | cons first rest ih =>
    unfold add
    split
    · simp
    · split
      · -- The member is there already.
        rename_i _ same
        simp [same]
      · simp [ih, or_left_comm]

/-- Adding some members to a set adds nothing else to it. -/
theorem mem_addAll {sought : String} {members set : List String} :
    sought ∈ addAll members set ↔ sought ∈ members ∨ sought ∈ set := by
  unfold addAll
  induction members generalizing set with
  | nil => simp
  | cons member rest ih => simp [ih, mem_add, or_assoc, or_left_comm]

/-- The members of a set stand in increasing order. -/
def Increasing (set : List String) : Prop := set.Pairwise (· < ·)

/-- Adding a member to a set keeps the order. -/
theorem Increasing.add {set : List String} (increasing : Increasing set) (member : String) :
    Increasing (add member set) := by
  induction set with
  | nil => exact List.pairwise_singleton _ _
  | cons first rest ih =>
    obtain ⟨least, restIncreasing⟩ := List.pairwise_cons.mp increasing
    unfold Sorted.add
    split
    · -- A member before the first one is before all.
      rename_i before
      refine List.pairwise_cons.mpr ⟨fun other listed => ?_, increasing⟩
      rcases List.mem_cons.mp listed with rfl | later
      · exact before
      · exact String.lt_trans before (least other later)
    · split
      · exact increasing
      · -- The member comes further on.
        rename_i notBefore apart
        have after : first < member := by
          refine String.not_le.mp fun atMost => apart ?_
          exact String.le_antisymm atMost (String.not_lt.mp notBefore)
        refine List.pairwise_cons.mpr ⟨fun other listed => ?_, ih restIncreasing⟩
        rcases mem_add.mp listed with rfl | later
        · exact after
        · exact least other later

/-- Adding some members to a set keeps the order. -/
theorem Increasing.addAll {set : List String} (increasing : Increasing set) (members : List String) :
    Increasing (addAll members set) := by
  unfold Sorted.addAll
  induction members generalizing set with
  | nil => exact increasing
  | cons member rest ih => exact ih (increasing.add member)

end LayerAudit.Sorted
