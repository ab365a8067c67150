import LayerAudit.Pattern.Basic

/-!
A pattern matches in a text exactly if what it describes leads from some place of the text to another. The search keeps
sets of places, and a repetition is followed until no new place is found; that misses no match, as a text has only
finitely many places.
-/

namespace LayerAudit.Pattern

/-! ### What a pattern describes -/

/-- So many steps lead from one place to another. -/
inductive Steps (leads : Nat → Nat → Prop) : Nat → Nat → Nat → Prop
  | here (place : Nat) : Steps leads 0 place place
  | go {count start next place : Nat} (first : leads start next) (rest : Steps leads count next place) :
    Steps leads (count + 1) start place

/-- A number of repetitions is at least so many, and at most so many if there is a limit. A limit below the least number
counts as that number. -/
structure Counts (least : Nat) (most : Option Nat) (count : Nat) : Prop where
  enough : least ≤ count
  bounded : ∀ limit, most = some limit → count ≤ max least limit

/-- What a node describes leads from one place of a text to another. -/
def Node.Spans (text : Array Char) : Node → Nat → Nat → Prop
  | .empty, start, place => place = start
  | .one set, start, place => place = start + 1 ∧ ∃ c, text[start]? = some c ∧ set.contains c
  | .look condition, start, place => place = start ∧ condition.holds text start
  | .both first second, start, place => ∃ between, Spans text first start between ∧ Spans text second between place
  -- A branch leads where it leads alone, and both are tried.
  | .either first second, start, place => Spans text first start place ∨ Spans text second start place
  -- The number of repetitions is open, so that the steps of a repetition are counted.
  | .repeated part least most, start, place =>
    ∃ count, Counts least most count ∧ Steps (Spans text part) count start place

/-- A step from sets of places up to some size goes by a relation of places. -/
structure Follows (size : Nat) (step : List Nat → List Nat) (leads : Nat → Nat → Prop) : Prop where
  mem_iff : ∀ places, (∀ place ∈ places, place ≤ size) → ∀ place,
    place ∈ step places ↔ ∃ start ∈ places, leads start place
  bounded : ∀ start place, start ≤ size → leads start place → place ≤ size

variable {size count more start place : Nat} {step other : List Nat → List Nat} {leads otherLeads : Nat → Nat → Prop}
  {places found latest : List Nat}

/-! ### Steps -/

/-- Steps are taken one after the other. -/
theorem steps_add : Steps leads (count + more) start place ↔
    ∃ between, Steps leads count start between ∧ Steps leads more between place := by
  -- The early steps are taken off one by one, and the late ones stay as they are.
  induction count generalizing start with
  | zero =>
    rw [Nat.zero_add]
    refine ⟨fun steps => ⟨start, .here start, steps⟩, ?_⟩
    rintro ⟨between, none, steps⟩
    cases none
    exact steps
  | succ count ih =>
    rw [Nat.succ_add]
    constructor
    · intro steps
      cases steps with
      | go first rest =>
        obtain ⟨between, early, late⟩ := ih.mp rest
        exact ⟨between, .go first early, late⟩
    · rintro ⟨between, early, late⟩
      cases early with
      | go first rest => exact .go first (ih.mpr ⟨between, rest, late⟩)

/-- Steps stay within what each of them stays within. -/
theorem Follows.steps_le (follows : Follows size step leads) (inside : start ≤ size)
    (steps : Steps leads count start place) : place ≤ size := by
  -- Every step starts where the one before it ended.
  induction steps with
  | here => exact inside
  | go first rest ih => exact ih (follows.bounded _ _ inside first)

/-- All places found by a step are within the size. -/
theorem Follows.inside (follows : Follows size step leads) (inside : ∀ place ∈ places, place ≤ size) :
    ∀ place ∈ step places, place ≤ size := by
  intro place member
  obtain ⟨start, listed, led⟩ := (follows.mem_iff places inside place).mp member
  exact follows.bounded start place (inside start listed) led

/-- One step after another. -/
theorem Follows.both (first : Follows size step leads) (second : Follows size other otherLeads) :
    Follows size (fun places => other (step places))
      fun start place => ∃ between, leads start between ∧ otherLeads between place := by
  constructor
  · intro places inside place
    -- The second step starts from what the first one finds, and that is within the size.
    rw [second.mem_iff _ (first.inside inside)]
    constructor
    · rintro ⟨between, member, led⟩
      obtain ⟨start, listed, early⟩ := (first.mem_iff places inside between).mp member
      exact ⟨start, listed, between, early, led⟩
    · rintro ⟨start, listed, between, early, led⟩
      exact ⟨between, (first.mem_iff places inside between).mpr ⟨start, listed, early⟩, led⟩
  · rintro start place inside ⟨between, early, led⟩
    exact second.bounded between place (first.bounded start between inside early) led

/-- One step or the other. -/
theorem Follows.either (first : Follows size step leads) (second : Follows size other otherLeads) :
    Follows size (fun places => together (step places) (other places))
      fun start place => leads start place ∨ otherLeads start place := by
  constructor
  · intro places inside place
    -- A place that both steps find is kept once.
    have member : place ∈ together (step places) (other places) ↔ place ∈ step places ∨ place ∈ other places := by
      by_cases early : place ∈ step places <;> simp [together, early]
    rw [member, first.mem_iff places inside, second.mem_iff places inside]
    simp only [and_or_left, exists_or]
  · rintro start place inside (led | led)
    · exact first.bounded start place inside led
    · exact second.bounded start place inside led

/-- Exactly so many steps. -/
theorem Follows.after (each : Follows size step leads) (count : Nat) :
    Follows size (after step count) (Steps leads count) := by
  refine ⟨fun places inside place => ?_, fun start place inside steps => each.steps_le inside steps⟩
  -- The places change with every step, so the statement is about any places to start from.
  induction count generalizing places with
  | zero =>
    constructor
    · exact fun member => ⟨place, member, .here place⟩
    · rintro ⟨start, listed, steps⟩
      cases steps
      exact listed
  | succ count ih =>
    unfold Pattern.after
    split
    · -- From no place there is no step.
      rename_i nowhere
      simp [List.isEmpty_iff.mp nowhere]
    · rw [ih _ (each.inside inside)]
      constructor
      · rintro ⟨next, member, rest⟩
        obtain ⟨start, listed, first⟩ := (each.mem_iff places inside next).mp member
        exact ⟨start, listed, .go first rest⟩
      · rintro ⟨start, listed, steps⟩
        cases steps with
        | go first rest => exact ⟨_, (each.mem_iff places inside _).mpr ⟨start, listed, first⟩, rest⟩

/-! ### Steps to new places only -/

/-- A step from a place that was found leads to such a place, or to one of those found last. -/
def Borders (leads : Nat → Nat → Prop) (found latest : List Nat) : Prop :=
  ∀ start ∈ found, ∀ place, leads start place → place ∈ found ∨ place ∈ latest

/-- Steps that lead out of what was found lead on from one of the new places. -/
theorem Borders.leave {fresh : List Nat} (borders : Borders leads found fresh) (inside : start ∈ found)
    (steps : Steps leads count start place) :
    place ∈ found ∨ ∃ fewer < count, ∃ next ∈ fresh, Steps leads fewer next place := by
  -- As long as steps stay in what was found, nothing is known about them but where they are.
  induction steps with
  | here => exact Or.inl inside
  | @go count start next place first rest ih =>
    rcases borders start inside next first with old | new
    · rcases ih old with known | ⟨fewer, less, onward⟩
      · exact Or.inl known
      · exact Or.inr ⟨fewer, Nat.lt_succ_of_lt less, onward⟩
    · -- The step leaves what was found, and the rest of the steps begins at one of the new places.
      exact Or.inr ⟨count, Nat.lt_succ_self count, next, new, rest⟩

/-- The new places among those that a step finds. -/
def freshOf (step : List Nat → List Nat) (found latest : List Nat) : List Nat :=
  (step latest).filter fun place => !found.contains place

/-- One more step is taken from the new places, if there are any. -/
theorem within_succ : within step (count + 1) found latest =
    if (freshOf step found latest).isEmpty then found
    else within step count (found ++ freshOf step found latest) (freshOf step found latest) := rfl

/-- A place is new if it is found by a step, and was not found before. -/
theorem mem_freshOf : place ∈ freshOf step found latest ↔ place ∈ step latest ∧ place ∉ found := by
  simp [freshOf]

/-- What borders on the places of a step borders on the new ones among them. -/
theorem Borders.fresh (borders : Borders leads found (step latest)) :
    Borders leads found (freshOf step found latest) := by
  intro start inside place led
  -- A place that is not new was found before.
  by_cases known : place ∈ found
  · exact Or.inl known
  · exact Or.inr (mem_freshOf.mpr ⟨(borders start inside place led).resolve_left known, known⟩)

/-- With the new places, too, what was found borders on the places of the next step. -/
theorem Follows.borders_next (each : Follows size step leads)
    (inside : ∀ place ∈ freshOf step found latest, place ≤ size) (borders : Borders leads found (step latest)) :
    Borders leads (found ++ freshOf step found latest) (step (freshOf step found latest)) := by
  intro start member place led
  -- From what was found before, steps lead to the new places, and from these to what is found next.
  rcases List.mem_append.mp member with old | new
  · exact Or.inl (List.mem_append.mpr (borders.fresh start old place led))
  · exact Or.inr ((each.mem_iff _ inside place).mpr ⟨start, new, led⟩)

/-- The new places are within the size. -/
theorem Follows.inside_fresh (each : Follows size step leads) (inside : ∀ place ∈ latest, place ≤ size) :
    ∀ place ∈ freshOf step found latest, place ≤ size :=
  fun place member => each.inside inside place (mem_freshOf.mp member).1

/-- What is found within some steps was found before, or up to so many steps lead there from the places found last. -/
theorem Follows.mem_within (each : Follows size step leads) (count : Nat) (inside : ∀ place ∈ latest, place ≤ size)
    (known : latest ⊆ found) (borders : Borders leads found (step latest)) (place : Nat) :
    place ∈ within step count found latest ↔
      place ∈ found ∨ ∃ fewer ≤ count, ∃ start ∈ latest, Steps leads fewer start place := by
  -- With every step both the found and the new places change, and the border stays.
  induction count generalizing found latest with
  | zero =>
    refine ⟨Or.inl, ?_⟩
    rintro (member | ⟨fewer, none, start, listed, steps⟩)
    · exact member
    · obtain rfl := Nat.le_zero.mp none
      cases steps
      exact known listed
  | succ count ih =>
    have freshInside : ∀ place ∈ freshOf step found latest, place ≤ size := each.inside_fresh inside
    -- In both cases, steps out of what was found go by way of the new places.
    have leave : ∀ fewer start, start ∈ latest → Steps leads fewer start place →
        place ∈ found ∨ ∃ less < fewer, ∃ next ∈ freshOf step found latest, Steps leads less next place :=
      fun fewer start listed steps => borders.fresh.leave (known listed) steps
    rw [within_succ]
    split
    · -- Without new places there is no way out.
      rename_i nothing
      refine ⟨Or.inl, ?_⟩
      rintro (member | ⟨fewer, _, start, listed, steps⟩)
      · exact member
      · rcases leave fewer start listed steps with member | ⟨_, _, next, new, _⟩
        · exact member
        · simp [List.isEmpty_iff.mp nothing] at new
    · rw [ih freshInside (List.subset_append_right _ _) (each.borders_next freshInside borders), List.mem_append]
      constructor
      · -- A new place is one step away, and whatever it leads to is one step further.
        rintro ((member | new) | ⟨fewer, atMost, next, new, steps⟩)
        · exact Or.inl member
        · obtain ⟨start, listed, led⟩ := (each.mem_iff _ inside place).mp (mem_freshOf.mp new).1
          exact Or.inr ⟨1, Nat.succ_le_succ (Nat.zero_le _), start, listed, .go led (.here place)⟩
        · obtain ⟨start, listed, led⟩ := (each.mem_iff _ inside next).mp (mem_freshOf.mp new).1
          exact Or.inr ⟨fewer + 1, Nat.succ_le_succ atMost, start, listed, .go led steps⟩
      · rintro (member | ⟨fewer, atMost, start, listed, steps⟩)
        · exact Or.inl (Or.inl member)
        · rcases leave fewer start listed steps with member | ⟨less, below, next, new, rest⟩
          · exact Or.inl (Or.inl member)
          · exact Or.inr ⟨less, by omega, next, new, rest⟩

/-! ### Until nothing new is found -/

/-- The number of places up to a size that were not found. -/
def unseen (size : Nat) (found : List Nat) : Nat := ((List.range (size + 1)).filter (· ∉ found)).length

/-- A new place leaves fewer places that were not found. -/
theorem unseen_append_lt {fresh : List Nat} (member : place ∈ fresh) (inside : place ≤ size) (new : place ∉ found) :
    unseen size (found ++ fresh) < unseen size found := by
  -- What is still missing was missing before, and one place was missing only before.
  have both : (List.range (size + 1)).filter (· ∉ found ++ fresh) =
      ((List.range (size + 1)).filter (· ∉ found)).filter (· ∉ fresh) := by
    simp [List.filter_filter, Bool.and_comm]
  rw [unseen, both]
  refine List.length_filter_lt_length_iff_exists.mpr ⟨place, ?_, by simpa using member⟩
  simpa [Nat.lt_succ_iff, new] using inside

/-- With a step for each place that was not found, no step leads out of what is found at last. -/
theorem Follows.closed_within (each : Follows size step leads) (insideFound : ∀ place ∈ found, place ≤ size)
    (inside : ∀ place ∈ latest, place ≤ size) (borders : Borders leads found (step latest))
    (enough : unseen size found ≤ count) (listed : start ∈ within step count found latest) (led : leads start place) :
    place ∈ within step count found latest := by
  -- There is a step left for each place that is not found, and each of them finds one.
  induction count generalizing found latest with
  | zero =>
    -- Every place was found.
    change place ∈ found
    refine Decidable.byContradiction fun new => ?_
    have bounded := each.bounded start place (insideFound start listed) led
    -- One place less is unseen then, though none were left.
    have less := unseen_append_lt (List.mem_singleton_self place) bounded new
    omega
  | succ count ih =>
    have freshInside : ∀ place ∈ freshOf step found latest, place ≤ size := each.inside_fresh inside
    rw [within_succ] at listed ⊢
    split at listed
    · rename_i nothing
      rw [if_pos nothing]
      -- There is nothing that what was found could border on.
      have inFound := borders.fresh start listed place led
      simpa [List.isEmpty_iff.mp nothing] using inFound
    · rename_i some
      -- With a new place found, one place less is unseen, and the steps that are left are still enough.
      rw [if_neg some]
      obtain ⟨next, new⟩ := List.exists_mem_of_ne_nil _ fun none => some (List.isEmpty_iff.mpr none)
      have less := unseen_append_lt new (freshInside next new) (mem_freshOf.mp new).2
      refine ih (fun place member => ?_) freshInside (each.borders_next freshInside borders) (by omega) listed
      exact (List.mem_append.mp member).elim (insideFound place) (freshInside place)

/-- What a step finds from all that was found is what was found to border on. -/
theorem Follows.borders (each : Follows size step leads) (inside : ∀ place ∈ places, place ≤ size) :
    Borders leads places (step places) :=
  fun start listed place led => Or.inr ((each.mem_iff places inside place).mpr ⟨start, listed, led⟩)

/-- What is found within some steps from some places is what up to so many steps lead to. -/
theorem Follows.mem_within_self (each : Follows size step leads) (count : Nat)
    (inside : ∀ place ∈ places, place ≤ size) :
    place ∈ within step count places places ↔ ∃ start ∈ places, ∃ fewer ≤ count, Steps leads fewer start place := by
  rw [each.mem_within count inside (List.Subset.refl _) (each.borders inside)]
  -- Places to start from are reached in no steps.
  constructor
  · rintro (member | ⟨fewer, atMost, start, listed, steps⟩)
    · exact ⟨place, member, 0, Nat.zero_le _, .here place⟩
    · exact ⟨start, listed, fewer, atMost, steps⟩
  · rintro ⟨start, listed, fewer, atMost, steps⟩
    exact Or.inr ⟨fewer, atMost, start, listed, steps⟩

/-- With a step for each place of the text, what is found is all that any number of steps leads to. -/
theorem Follows.mem_within_all (each : Follows size step leads) (inside : ∀ place ∈ places, place ≤ size) :
    place ∈ within step (size + 1) places places ↔ ∃ start ∈ places, ∃ count, Steps leads count start place := by
  constructor
  · intro member
    obtain ⟨start, listed, fewer, _, steps⟩ := (each.mem_within_self (size + 1) inside).mp member
    exact ⟨start, listed, fewer, steps⟩
  · rintro ⟨start, listed, count, steps⟩
    have enough : unseen size places ≤ size + 1 := by
      simpa [unseen] using List.length_filter_le (· ∉ places) (List.range (size + 1))
    have first : start ∈ within step (size + 1) places places :=
      (each.mem_within_self (size + 1) inside).mpr ⟨start, listed, 0, Nat.zero_le _, .here start⟩
    clear listed
    -- From a place that is found, no step leads to one that is not.
    induction steps with
    | here => exact first
    | go led rest ih => exact ih (each.closed_within inside inside (each.borders inside) enough first led)

/-! ### Where a pattern matches -/

/-- Behind the least number of repetitions there may be as many more as the limit leaves. -/
theorem counts_add {least : Nat} {most : Option Nat} : Counts least most (least + more) ↔
    ∀ limit, most = some limit → more ≤ limit - least := by
  constructor
  · intro counts limit isLimit
    have := counts.bounded limit isLimit
    omega
  · refine fun bounded => ⟨Nat.le_add_right _ _, fun limit isLimit => ?_⟩
    have := bounded limit isLimit
    omega

/-- Of a number of steps the least number comes first, and any others behind it. -/
theorem Follows.exists_counts_iff (each : Follows size step leads) (inside : ∀ place ∈ places, place ≤ size)
    {least : Nat} {most : Option Nat} :
    (∃ start ∈ places, ∃ count, Counts least most count ∧ Steps leads count start place) ↔
      ∃ between ∈ Pattern.after step least places, ∃ more, (∀ limit, most = some limit → more ≤ limit - least) ∧
        Steps leads more between place := by
  have first := each.after least
  constructor
  · -- As there are enough steps, they can be cut behind the least number.
    rintro ⟨start, listed, count, counts, steps⟩
    obtain ⟨more, rfl⟩ := Nat.exists_eq_add_of_le counts.enough
    obtain ⟨between, early, late⟩ := steps_add.mp steps
    have member := (first.mem_iff places inside between).mpr ⟨start, listed, early⟩
    exact ⟨between, member, more, counts_add.mp counts, late⟩
  · rintro ⟨between, member, more, bounded, late⟩
    obtain ⟨start, listed, early⟩ := (first.mem_iff places inside between).mp member
    exact ⟨start, listed, least + more, counts_add.mpr bounded, steps_add.mpr ⟨between, early, late⟩⟩

/-- At least so many steps, and at most so many if there is a limit. -/
theorem Follows.repeated (each : Follows size step leads) (least : Nat) (most : Option Nat) :
    Follows size (fun places => within step (most.elim (size + 1) (· - least)) (Pattern.after step least places)
        (Pattern.after step least places))
      fun start place => ∃ count, Counts least most count ∧ Steps leads count start place := by
  constructor
  · intro places inside place
    have later := (each.after least).inside inside
    rw [each.exists_counts_iff inside]
    -- Without a limit there is a step for each place of the text, and that is as good as any number.
    cases most with
    | none => simp [each.mem_within_all later]
    | some limit => simp [each.mem_within_self _ later]
  · rintro start place inside ⟨count, _, steps⟩
    exact each.steps_le inside steps

/-- Matching a node follows what the node describes. -/
theorem follows_ends (text : Array Char) : ∀ node, Follows text.size (ends text node) (Node.Spans text node)
  -- Nothing is read, and the places stay.
  | .empty => ⟨fun places _ place => by simp [ends, Node.Spans],
      fun start place inside same => same ▸ inside⟩
  | .one set => by
    constructor
    · intro places _ place
      rw [ends, List.mem_map]
      simp only [List.mem_filter, Option.any_eq_true, Node.Spans]
      exact exists_congr fun start => ⟨fun ⟨⟨listed, here⟩, same⟩ => ⟨listed, same.symm, here⟩,
        fun ⟨listed, same, here⟩ => ⟨⟨listed, here⟩, same.symm⟩⟩
    · rintro start place _ ⟨rfl, c, here, _⟩
      -- There is a character, so the place before it is not the last one.
      obtain ⟨below, _⟩ := Array.getElem?_eq_some_iff.mp here
      exact below
  | .look condition => by
    constructor
    · intro places _ place
      simp only [ends, Node.Spans, List.mem_filter]
      refine ⟨fun ⟨listed, held⟩ => ⟨place, listed, rfl, held⟩, ?_⟩
      rintro ⟨start, listed, rfl, held⟩
      exact ⟨listed, held⟩
    · rintro start place inside ⟨rfl, _⟩
      exact inside
  | .both first second => (follows_ends text first).both (follows_ends text second)
  | .either first second => (follows_ends text first).either (follows_ends text second)
  | .repeated part least most => by
    have each := (follows_ends text part).repeated least most
    cases most <;> exact each

/-- A pattern matches in a text exactly if what it describes leads from some place of the text to another. -/
theorem matchesIn_iff {pattern : Pattern} {text : String} : pattern.matchesIn text ↔
    ∃ start place, start ≤ text.length ∧ pattern.node.Spans text.toList.toArray start place := by
  have size : text.toList.toArray.size = text.length := by simp [String.length_toList]
  have anywhere : ∀ place ∈ List.range (text.toList.toArray.size + 1), place ≤ text.toList.toArray.size :=
    fun place member => Nat.lt_succ_iff.mp (List.mem_range.mp member)
  unfold matchesIn
  -- The search begins with all places of the text.
  rw [Bool.not_eq_true', List.isEmpty_eq_false_iff_exists_mem, exists_comm]
  refine exists_congr fun place => ?_
  rw [(follows_ends _ pattern.node).mem_iff _ anywhere]
  refine exists_congr fun start => ?_
  rw [List.mem_range, Nat.lt_succ_iff, size]

end LayerAudit.Pattern
