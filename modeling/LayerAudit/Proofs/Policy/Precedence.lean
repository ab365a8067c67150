import LayerAudit.Layer
import LayerAudit.Proofs.Text
import Mathlib.Data.List.Induction
import Mathlib.Data.List.Pairwise

/-!
Of the layers whose starts begin a path, the one with the longest start is the layer of the path, of those the one with
the lowest rank, and of those the one that is listed first. Where no two layers have both start and rank in common, the
order in which they are listed does not matter.
-/

namespace LayerAudit

/-- The layer with forward slashes in its start. -/
def LayerSpec.slashed (spec : LayerSpec) : LayerSpec := { spec with start := Text.slashed spec.start }

/-- The start of a layer begins a path, the backslashes of both read as slashes. -/
def LayerSpec.Covers (spec : LayerSpec) (path : String) : Prop :=
  Text.isStartOf spec.slashed.start (Text.slashed path)

instance LayerSpec.decidableCovers (spec : LayerSpec) (path : String) : Decidable (spec.Covers path) :=
  inferInstanceAs (Decidable (_ = true))

namespace Layering

/-- Of the layers that cover a path, the one at some place of the list comes first. -/
structure LeadsAt (specs : List LayerSpec) (path : String) (place : Nat) (leader : LayerSpec) : Prop where
  listed : specs[place]? = some leader
  covers : leader.Covers path
  longest : ∀ other ∈ specs, other.Covers path → other.slashed.start.length ≤ leader.slashed.start.length
  /-- Among those with a start of this length. -/
  lowest : ∀ other ∈ specs, other.Covers path → other.slashed.start.length = leader.slashed.start.length →
    leader.rank ≤ other.rank
  /-- Among those with a start of this length and this rank. -/
  earliest : ∀ earlier other, specs[earlier]? = some other → other.Covers path →
    other.slashed.start.length = leader.slashed.start.length → other.rank = leader.rank → place ≤ earlier

/-- No two layers have the same start, slashes for backslashes, and the same rank. -/
def Apart (specs : List LayerSpec) : Prop :=
  specs.Pairwise fun one other => ¬(one.slashed.start = other.slashed.start ∧ one.rank = other.rank)

variable {specs others : List LayerSpec} {path : String} {place otherPlace : Nat} {leader other layer : LayerSpec}

/-! ### Where a search ends -/

/-- Of some layers, each with its place, the first one with the largest start wins. -/
theorem exists_first_largest {entries : List (LayerSpec × Nat)} (nonempty : entries ≠ []) :
    ∃ before winner after, entries = before ++ winner :: after ∧
      (entries.map (·.1)).foldl better none = some winner.1 ∧
      (∀ earlier ∈ before, earlier.1.start.utf8ByteSize < winner.1.start.utf8ByteSize) ∧
      ∀ later ∈ after, later.1.start.utf8ByteSize ≤ winner.1.start.utf8ByteSize := by
  -- The search takes one more layer at the end, so the induction is from the end too.
  induction entries using List.reverseRecOn with
  | nil => exact absurd rfl nonempty
  | append_singleton rest last ih =>
    rw [List.map_append, List.foldl_append]
    -- The first layer to be looked at wins against nothing.
    by_cases alone : rest = []
    · subst alone
      exact ⟨[], last, [], rfl, rfl, by simp, by simp⟩
    · obtain ⟨before, winner, after, split, found, smaller, notLarger⟩ := ih alone
      rw [found]
      -- A start that is only as large does not take over.
      by_cases stays : last.1.start.utf8ByteSize ≤ winner.1.start.utf8ByteSize
      · refine ⟨before, winner, after ++ [last], by simp [split], by simp [better, stays], smaller, ?_⟩
        intro later member
        rcases List.mem_append.mp member with early | isLast
        · exact notLarger later early
        · rw [List.mem_singleton.mp isLast]
          exact stays
      · -- The last layer takes over from one that none of the others exceeds.
        have larger : winner.1.start.utf8ByteSize < last.1.start.utf8ByteSize := Nat.not_le.mp stays
        refine ⟨rest, last, [], rfl, by simp [better, stays], ?_, by simp⟩
        intro earlier member
        rw [split] at member
        rcases List.mem_append.mp member with early | late
        · exact Nat.lt_trans (smaller earlier early) larger
        · rcases List.mem_cons.mp late with rfl | behind
          · exact larger
          · exact Nat.lt_of_le_of_lt (notLarger earlier behind) larger

/-! ### The order of a search -/

/-- Layers in the order of their ranks. -/
def rankLE (lower upper : LayerSpec) : Bool := lower.rank ≤ upper.rank

/-- The layers of a list with their places, in the order of their ranks, and of their places within a rank. -/
def ranked (specs : List LayerSpec) : List (LayerSpec × Nat) :=
  (specs.map LayerSpec.slashed).zipIdx.mergeSort (List.zipIdxLE rankLE)

/-- The layers that cover a path, in that order. -/
def contest (specs : List LayerSpec) (path : String) : List (LayerSpec × Nat) :=
  (ranked specs).filter fun entry => Text.isStartOf entry.1.start (Text.slashed path)

/-- The search for the layer of a path goes through the layers that cover it. -/
theorem layerOf?_ofSpecs (specs : List LayerSpec) (path : String) :
    (ofSpecs specs).layerOf? path = ((contest specs path).map (·.1)).foldl better none := by
  -- A layering keeps the order that the layers of one rank had.
  have layers : (ofSpecs specs).layers = (ranked specs).map (·.1) := List.mergeSort_zipIdx.symm
  rw [layerOf?, layers, List.filter_map]
  rfl

/-- Every layer that covers the path takes part, with its place. -/
theorem mem_contest {entry : LayerSpec × Nat} :
    entry ∈ contest specs path ↔ ∃ spec, specs[entry.2]? = some spec ∧ spec.slashed = entry.1 ∧ spec.Covers path := by
  -- Sorting keeps the entries, and each of them tells its place in the list.
  rw [contest, List.mem_filter, ranked, List.mem_mergeSort, List.mem_zipIdx_iff_getElem?, List.getElem?_map,
    Option.map_eq_some_iff]
  -- Among the layers that cover the path, the entry is that of a listed layer with forward slashes.
  constructor
  · rintro ⟨⟨spec, listed, same⟩, starts⟩
    exact ⟨spec, listed, same, by rwa [LayerSpec.Covers, same]⟩
  · rintro ⟨spec, listed, same, covers⟩
    exact ⟨⟨spec, listed, same⟩, by rwa [LayerSpec.Covers, same] at covers⟩

/-- No layer in the search has a higher rank than one behind it, nor the same rank and a later place. -/
theorem pairwise_contest (specs : List LayerSpec) (path : String) :
    (contest specs path).Pairwise fun one other =>
      one.1.rank ≤ other.1.rank ∧ (other.1.rank = one.1.rank → one.2 ≤ other.2) := by
  have transitive : ∀ a b c : LayerSpec, rankLE a b → rankLE b c → rankLE a c := by
    intro a b c lower upper
    simp only [rankLE, decide_eq_true_eq] at lower upper ⊢
    omega
  have total : ∀ a b : LayerSpec, rankLE a b || rankLE b a := by
    intro a b
    simp only [rankLE, Bool.or_eq_true, decide_eq_true_eq]
    omega
  -- Layers of one rank are in the order of their places, as the entries are sorted by both.
  have sorted := List.pairwise_mergeSort (List.zipIdxLE_trans transitive) (List.zipIdxLE_total total)
    (specs.map LayerSpec.slashed).zipIdx
  refine (sorted.sublist List.filter_sublist).imp fun {one other} inOrder => ?_
  simp only [List.zipIdxLE, rankLE, decide_eq_true_eq] at inOrder
  grind

/-- A layer wins where any covers the path, and the others have a smaller start or come behind it. -/
theorem exists_winner (nonempty : contest specs path ≠ []) :
    ∃ winner ∈ contest specs path, (ofSpecs specs).layerOf? path = some winner.1 ∧
      ∀ other ∈ contest specs path, other.1.start.utf8ByteSize ≤ winner.1.start.utf8ByteSize ∧
        (other.1.start.utf8ByteSize = winner.1.start.utf8ByteSize →
          winner.1.rank ≤ other.1.rank ∧ (other.1.rank = winner.1.rank → winner.2 ≤ other.2)) := by
  obtain ⟨before, winner, after, split, found, smaller, notLarger⟩ := exists_first_largest nonempty
  have sorted := pairwise_contest specs path
  rw [split] at sorted
  -- What comes behind the winner in the search has a higher rank or a later place.
  have behindWinner := (List.pairwise_cons.mp (List.pairwise_append.mp sorted).2.1).1
  refine ⟨winner, by simp [split], by rw [layerOf?_ofSpecs, found], fun other member => ?_⟩
  rw [split] at member
  rcases List.mem_append.mp member with early | late
  · -- Before the winner all starts are smaller.
    have less := smaller other early
    exact ⟨Nat.le_of_lt less, fun same => absurd same (Nat.ne_of_lt less)⟩
  · rcases List.mem_cons.mp late with rfl | behind
    · simp
    · exact ⟨notLarger other behind, fun _ => behindWinner other behind⟩

/-! ### The layer of a path -/

/-- Where a layer covers a path, one leads, and that is the layer of the path. -/
theorem exists_leadsAt (covered : ∃ spec ∈ specs, spec.Covers path) :
    ∃ place leader, LeadsAt specs path place leader ∧ (ofSpecs specs).layerOf? path = some leader.slashed := by
  have takesPart : ∀ (place : Nat) (spec : LayerSpec), specs[place]? = some spec → spec.Covers path →
      (spec.slashed, place) ∈ contest specs path :=
    fun place spec listed covers => mem_contest.mpr ⟨spec, listed, rfl, covers⟩
  -- Every layer that covers the path takes part, so that somebody wins.
  have nonempty : contest specs path ≠ [] := by
    obtain ⟨spec, member, covers⟩ := covered
    obtain ⟨place, listed⟩ := List.mem_iff_getElem?.mp member
    exact List.ne_nil_of_mem (takesPart place spec listed covers)
  obtain ⟨⟨winner, place⟩, member, found, against⟩ := exists_winner nonempty
  obtain ⟨leader, listed, rfl, covers⟩ := mem_contest.mp member
  -- Starts of one path can be compared by their lengths as well.
  have asLong : ∀ other : LayerSpec, other.Covers path →
      (other.slashed.start.length = leader.slashed.start.length →
        other.slashed.start.utf8ByteSize = leader.slashed.start.utf8ByteSize) := by
    intro other otherCovers same
    exact Nat.le_antisymm ((Text.start_length_le_iff otherCovers covers).mp (Nat.le_of_eq same))
      ((Text.start_length_le_iff covers otherCovers).mp (Nat.le_of_eq same.symm))
  refine ⟨place, leader, ⟨listed, covers, ?_, ?_, ?_⟩, found⟩
  · -- The start of the winner is the longest, since it is the largest.
    intro other otherMember otherCovers
    obtain ⟨otherPlace, otherListed⟩ := List.mem_iff_getElem?.mp otherMember
    have notLarger := (against _ (takesPart otherPlace other otherListed otherCovers)).1
    exact (Text.start_length_le_iff otherCovers covers).mpr notLarger
  · -- Those with a start as long have one as large, and the winner comes before them by rank.
    intro other otherMember otherCovers same
    obtain ⟨otherPlace, otherListed⟩ := List.mem_iff_getElem?.mp otherMember
    exact ((against _ (takesPart otherPlace other otherListed otherCovers)).2 (asLong other otherCovers same)).1
  · -- With the same rank, too, it comes before them by place.
    intro earlier other otherListed otherCovers same sameRank
    exact ((against _ (takesPart earlier other otherListed otherCovers)).2 (asLong other otherCovers same)).2 sameRank

/-- Among the same layers all that lead have starts of one length, and one rank. -/
theorem LeadsAt.level (same : ∀ spec, spec ∈ specs ↔ spec ∈ others) (leads : LeadsAt specs path place leader)
    (otherLeads : LeadsAt others path otherPlace other) :
    other.slashed.start.length = leader.slashed.start.length ∧ other.rank = leader.rank := by
  -- Each of the two is among the layers that the other one leads.
  have member : leader ∈ others := (same leader).mp (List.mem_of_getElem? leads.listed)
  have otherMember : other ∈ specs := (same other).mpr (List.mem_of_getElem? otherLeads.listed)
  have length : other.slashed.start.length = leader.slashed.start.length :=
    Nat.le_antisymm (leads.longest other otherMember otherLeads.covers) (otherLeads.longest leader member leads.covers)
  exact ⟨length, Nat.le_antisymm (otherLeads.lowest leader member leads.covers length.symm)
    (leads.lowest other otherMember otherLeads.covers length)⟩

/-- Only one place leads. -/
theorem LeadsAt.unique (leads : LeadsAt specs path place leader) (otherLeads : LeadsAt specs path otherPlace other) :
    leader = other := by
  obtain ⟨length, rank⟩ := leads.level (fun _ => Iff.rfl) otherLeads
  -- With starts of one length and one rank, none of the two places is before the other.
  have samePlace : place = otherPlace :=
    Nat.le_antisymm (leads.earliest otherPlace other otherLeads.listed otherLeads.covers length rank)
      (otherLeads.earliest place leader leads.listed leads.covers length.symm rank.symm)
  refine Option.some.inj ?_
  rw [← leads.listed, samePlace, otherLeads.listed]

/-- A path has a layer exactly if one covers it. -/
theorem layerOf?_isSome_iff :
    ((ofSpecs specs).layerOf? path).isSome ↔ ∃ spec ∈ specs, spec.Covers path := by
  constructor
  · intro found
    refine Classical.not_not.mp fun uncovered => ?_
    -- Nobody takes part in the search.
    have nobody : contest specs path = [] := by
      refine List.eq_nil_iff_forall_not_mem.mpr fun entry member => uncovered ?_
      obtain ⟨spec, listed, _, covers⟩ := mem_contest.mp member
      exact ⟨spec, List.mem_of_getElem? listed, covers⟩
    rw [layerOf?_ofSpecs, nobody] at found
    cases found
  · intro covered
    obtain ⟨place, leader, _, found⟩ := exists_leadsAt covered
    exact Option.isSome_of_eq_some found

/-- The layer of a path is the one that leads. -/
theorem layerOf?_eq_some_iff :
    (ofSpecs specs).layerOf? path = some layer ↔
      ∃ place leader, LeadsAt specs path place leader ∧ layer = leader.slashed := by
  constructor
  · intro isLayer
    have covered : ∃ spec ∈ specs, spec.Covers path := layerOf?_isSome_iff.mp (Option.isSome_of_eq_some isLayer)
    obtain ⟨place, leader, leads, found⟩ := exists_leadsAt covered
    exact ⟨place, leader, leads, Option.some.inj (isLayer.symm.trans found)⟩
  · -- The layer that leads is found, and there is only one such layer.
    rintro ⟨place, leader, leads, rfl⟩
    obtain ⟨otherPlace, other, otherLeads, found⟩ :=
      exists_leadsAt ⟨leader, List.mem_of_getElem? leads.listed, leads.covers⟩
    rw [found, leads.unique otherLeads]

/-- The layer of a path is a configured one, apart from the slashes in its start. -/
theorem exists_slashed_of_layerOf? (found : (ofSpecs specs).layerOf? path = some layer) :
    ∃ spec ∈ specs, layer = spec.slashed := by
  obtain ⟨place, leader, leads, same⟩ := layerOf?_eq_some_iff.mp found
  exact ⟨leader, List.mem_of_getElem? leads.listed, same⟩

/-- In whatever order layers are listed, the same one leads, if their starts and ranks tell them apart. -/
theorem layerOf?_perm (apart : Apart specs) (perm : specs.Perm others) (path : String) :
    (ofSpecs others).layerOf? path = (ofSpecs specs).layerOf? path := by
  by_cases covered : ∃ spec ∈ specs, spec.Covers path
  · obtain ⟨spec, member, covers⟩ := covered
    obtain ⟨place, leader, leads, found⟩ := exists_leadsAt ⟨spec, member, covers⟩
    obtain ⟨otherPlace, other, otherLeads, otherFound⟩ := exists_leadsAt ⟨spec, perm.mem_iff.mp member, covers⟩
    obtain ⟨length, rank⟩ := leads.level (fun spec => perm.mem_iff) otherLeads
    -- Two starts of one path with one length are one start.
    have start : other.slashed.start = leader.slashed.start :=
      Text.start_eq_of_size otherLeads.covers leads.covers (Nat.le_of_eq length.symm)
        ((Text.start_length_le_iff otherLeads.covers leads.covers).mp (Nat.le_of_eq length))
    -- Different layers with this start and this rank are not both listed.
    have same : other = leader := by
      refine Classical.not_not.mp fun different => ?_
      have symmetric : Std.Symm fun one other : LayerSpec =>
          ¬(one.slashed.start = other.slashed.start ∧ one.rank = other.rank) :=
        ⟨fun _ _ differ same => differ ⟨same.1.symm, same.2.symm⟩⟩
      exact List.Pairwise.forall apart (perm.mem_iff.mpr (List.mem_of_getElem? otherLeads.listed))
        (List.mem_of_getElem? leads.listed) different ⟨start, rank⟩
    rw [found, otherFound, same]
  · -- Without a layer that covers the path there is none in either list.
    have uncovered : ¬∃ spec ∈ others, spec.Covers path := by simpa [perm.mem_iff] using covered
    rw [← layerOf?_isSome_iff, Option.not_isSome_iff_eq_none] at covered uncovered
    rw [covered, uncovered]

/-- A path has a layer exactly if the start of one begins it. That is the layer with the longest such start, of those
the one with the lowest rank, and of those the one that is listed first. If no two layers share start and rank, it does
not depend on the order of the list. -/
theorem layerOf?_is_longest_lowest_earliest (specs : List LayerSpec) (path : String) :
    (((ofSpecs specs).layerOf? path).isSome ↔ ∃ spec ∈ specs, spec.Covers path) ∧
      (∀ layer, (ofSpecs specs).layerOf? path = some layer ↔
        ∃ place leader, LeadsAt specs path place leader ∧ layer = leader.slashed) ∧
      (Apart specs → ∀ others, specs.Perm others → (ofSpecs others).layerOf? path = (ofSpecs specs).layerOf? path) :=
  ⟨layerOf?_isSome_iff, fun _ => layerOf?_eq_some_iff, fun apart _ perm => layerOf?_perm apart perm path⟩

/-- A wide layer, and two within it that have one start in two spellings. -/
def nested : List LayerSpec := [⟨"wide", 0, "src/"⟩, ⟨"high", 5, "src\\x\\"⟩, ⟨"low", 1, "src/x/"⟩]

/-- Of the two inner layers the one with the lower rank is the layer of a path, in whatever order they are listed. -/
theorem layerOf?_is_longest_lowest_earliest_nested :
    Apart nested ∧ nested.Perm nested.reverse ∧ LeadsAt nested "src\\x/a.js" 2 ⟨"low", 1, "src/x/"⟩ ∧
      (ofSpecs nested.reverse).layerOf? "src\\x/a.js" = some ⟨"low", 1, "src/x/"⟩ := by
  have apart : Apart nested := by
    unfold Apart
    decide
  have perm : nested.Perm nested.reverse := (List.reverse_perm nested).symm
  have leads : LeadsAt nested "src\\x/a.js" 2 ⟨"low", 1, "src/x/"⟩ := by
    refine ⟨rfl, by decide, by decide, by decide, ?_⟩
    intro earlier other listed covers length rank
    -- Neither of the two places before it has a layer with its rank.
    match earlier with
    | 0 => cases listed; cases rank
    | 1 => cases listed; cases rank
    | place + 2 => omega
  obtain ⟨_, leader, unordered⟩ := layerOf?_is_longest_lowest_earliest nested "src\\x/a.js"
  have isLow : (⟨"low", 1, "src/x/"⟩ : LayerSpec) = LayerSpec.slashed ⟨"low", 1, "src/x/"⟩ := rfl
  refine ⟨apart, perm, leads, ?_⟩
  rw [unordered apart _ perm]
  exact (leader _).mpr ⟨2, _, leads, isLow⟩

end Layering

end LayerAudit
