import LayerAudit.Path
import LayerAudit.Proofs.Text

/-!
A path is a walk: from a directory, each segment leads to another one, or nowhere. Two paths have one normal form exactly
if they are the same walk from everywhere, and the normal form is such a path itself.
-/

namespace LayerAudit.Path

/-- Take a segment from a directory, which is given by the names on the way to it, innermost first. Above the outermost
directory there is nothing. -/
def step? (stack : List String) (segment : String) : Option (List String) :=
  if segment = "" ∨ segment = "." then some stack
  else if segment = ".." then stack.tail?
  else some (segment :: stack)

/-- Walk along a path from a directory. -/
def walk? (path : String) (stack : List String) : Option (List String) := (segments path).foldlM step? stack

/-- The segment is a name, so it leads down. -/
structure IsPlain (segment : String) : Prop where
  nonempty : segment ≠ ""
  notHere : segment ≠ "."
  notAbove : segment ≠ ".."

instance (segment : String) : Decidable (IsPlain segment) :=
  decidable_of_iff (segment ≠ "" ∧ segment ≠ "." ∧ segment ≠ "..")
    ⟨fun ⟨nonempty, notHere, notAbove⟩ => ⟨nonempty, notHere, notAbove⟩,
      fun isPlain => ⟨isPlain.nonempty, isPlain.notHere, isPlain.notAbove⟩⟩

/-- A walk without detours: first up, and then down along names. -/
@[ext] structure Route where
  /-- The number of directories that are left. -/
  ups : Nat
  /-- The names that are entered, innermost first. -/
  names : List String
  plain : ∀ name ∈ names, IsPlain name

variable {path other segment : String}

/-! ### Single segments -/

/-- A name is entered. -/
theorem step?_plain (isPlain : IsPlain segment) (stack : List String) :
    step? stack segment = some (segment :: stack) := by
  simp [step?, isPlain.nonempty, isPlain.notHere, isPlain.notAbove]

/-- A parent segment leaves a directory. -/
theorem step?_above (stack : List String) : step? stack ".." = stack.tail? := by simp [step?]

/-- Names are entered one after the other. -/
theorem foldlM_plain {names : List String} (plain : ∀ name ∈ names, IsPlain name) (stack : List String) :
    names.foldlM step? stack = some (names.reverse ++ stack) := by
  induction names generalizing stack with
  | nil => rfl
  | cons name rest ih =>
    -- The first name is entered, and the others are behind it, so that it comes last in the place.
    have first := plain name (List.mem_cons_self ..)
    have later := ih (fun other member => plain other (List.mem_cons_of_mem _ member)) (name :: stack)
    rw [List.foldlM_cons, step?_plain first]
    simpa using later

/-- Parent segments leave as many directories, if there are so many. -/
theorem foldlM_above (ups : Nat) (stack : List String) :
    (List.replicate ups "..").foldlM step? stack = if ups ≤ stack.length then some (stack.drop ups) else none := by
  induction ups generalizing stack with
  | zero => rfl
  | succ ups ih =>
    rw [List.replicate_succ, List.foldlM_cons, step?_above]
    cases stack with
    | nil => rfl
    | cons name outer =>
      -- The innermost directory is left first.
      show (List.replicate ups "..").foldlM step? outer = _
      rw [ih]
      simp

namespace Route

/-- The segments of a route, last first. -/
def place (route : Route) : List String := route.names ++ List.replicate route.ups ".."

/-- Where a route leads from a directory. -/
def go? (route : Route) (stack : List String) : Option (List String) :=
  if route.ups ≤ stack.length then some (route.names ++ stack.drop route.ups) else none

/-- The segments of a route lead where the route leads. -/
theorem foldlM_place (route : Route) (stack : List String) :
    route.place.reverse.foldlM step? stack = route.go? stack := by
  -- All parent segments come before all names.
  rw [place, List.reverse_append, List.reverse_replicate, List.foldlM_append, foldlM_above, go?]
  split
  · have plain : ∀ name ∈ route.names.reverse, IsPlain name := by simpa using route.plain
    simpa using foldlM_plain plain (stack.drop route.ups)
  · -- Above the outermost directory there is no way.
    rfl

/-- A segment that is put behind those of a route leads on from its end. -/
theorem go?_push {route next : Route} (longer : next.place = segment :: route.place) (stack : List String) :
    (route.go? stack).bind (step? · segment) = next.go? stack := by
  rw [← foldlM_place next, longer, List.reverse_cons, List.foldlM_append, foldlM_place]
  refine congrArg (Option.bind _) (funext fun place => ?_)
  simp

/-- One more segment makes another route, which leads where the segment leads from the end of the first. -/
theorem exists_follow (route : Route) (segment : String) :
    ∃ next : Route, follow route.place segment = next.place ∧
      ∀ stack, (route.go? stack).bind (step? · segment) = next.go? stack := by
  obtain ⟨ups, names, plain⟩ := route
  by_cases skipped : segment = "" ∨ segment = "."
  · -- An empty segment or a dot changes neither the route nor where it leads.
    exact ⟨⟨ups, names, plain⟩, by simp [follow, skipped], fun stack => by simp [step?, skipped]⟩
  by_cases above : segment = ".."
  · subst above
    cases names with
    | nil =>
      -- With no name to take back the route begins one directory higher.
      refine ⟨⟨ups + 1, [], by simp⟩, ?_, go?_push ?_⟩
      · cases ups <;> simp [follow, place, List.replicate_succ]
      · simp [place, List.replicate_succ]
    | cons name outer =>
      -- The last name is taken back.
      have notAbove : name ≠ ".." := (plain name (List.mem_cons_self ..)).notAbove
      refine ⟨⟨ups, outer, fun other member => plain other (List.mem_cons_of_mem _ member)⟩, ?_, fun stack => ?_⟩
      · simp [follow, place, notAbove]
      · simp only [go?]
        split <;> simp [step?_above]
  · -- A name makes the route longer by one.
    have isPlain : IsPlain segment := ⟨fun empty => skipped (Or.inl empty), fun here => skipped (Or.inr here), above⟩
    refine ⟨⟨ups, segment :: names, by simpa using ⟨isPlain, plain⟩⟩, ?_, go?_push ?_⟩
    · simp [follow, place, skipped, above]
    · simp [place]

/-- Segments make a route longer or shorter, and it leads where they lead from its end. -/
theorem exists_foldl_follow (route : Route) (rest : List String) :
    ∃ next : Route, rest.foldl follow route.place = next.place ∧
      ∀ stack, (route.go? stack).bind (rest.foldlM step? ·) = next.go? stack := by
  induction rest generalizing route with
  | nil => exact ⟨route, rfl, fun stack => by simp⟩
  | cons segment rest ih =>
    obtain ⟨middle, followed, leads⟩ := exists_follow route segment
    obtain ⟨next, reached, onward⟩ := ih middle
    refine ⟨next, by rw [List.foldl_cons, followed, reached], fun stack => ?_⟩
    rw [← onward, ← leads, Option.bind_assoc]
    rfl

/-- Routes that lead to the same places are the same. -/
theorem eq_of_go? {one other : Route} (same : ∀ stack, one.go? stack = other.go? stack) : one = other := by
  -- A directory that is deep enough for one of the two has to be deep enough for the other one.
  have deepEnough {first second : Route} (agree : ∀ stack, first.go? stack = second.go? stack) :
      second.ups ≤ first.ups := by
    have here := agree (List.replicate first.ups "")
    refine Nat.not_lt.mp fun deeper => ?_
    simp [go?, Nat.not_le.mpr deeper] at here
  have ups : one.ups = other.ups := Nat.le_antisymm (deepEnough fun stack => (same stack).symm) (deepEnough same)
  -- From there nothing is left of the directory, so that the names alone make the difference.
  have here := same (List.replicate one.ups "")
  have names : one.names = other.names := by simpa [go?, ups] using here
  exact Route.ext ups names

end Route

/-! ### Normal forms -/

/-- A path is a route, and the segments of its normal form are those of the route. -/
theorem exists_route (path : String) :
    ∃ route : Route, normalSegments path = route.place.reverse ∧ ∀ stack, walk? path stack = route.go? stack := by
  -- The route starts out empty, and then follows the segments of the path.
  obtain ⟨route, followed, leads⟩ := Route.exists_foldl_follow ⟨0, [], by simp⟩ (segments path)
  refine ⟨route, congrArg List.reverse followed, fun stack => ?_⟩
  rw [← leads]
  simp [Route.go?, walk?]

/-- A segment that is followed is the last one then, or is not seen. -/
theorem mem_follow {place : List String} {sought : String} (member : sought ∈ follow place segment) :
    sought ∈ place ∨ sought = segment := by
  unfold follow at member
  grind

/-- The segments of a normal form are segments of the path. -/
theorem mem_normalSegments (member : segment ∈ normalSegments path) : segment ∈ segments path := by
  -- Whatever was followed before, a segment of the place comes from there or from the segments that follow.
  have general : ∀ (rest place : List String), segment ∈ rest.foldl follow place →
      segment ∈ place ∨ segment ∈ rest := by
    intro rest
    induction rest with
    | nil => exact fun place found => Or.inl found
    | cons first rest ih =>
      intro place found
      rcases ih _ found with early | late
      · rcases mem_follow early with before | rfl
        · exact Or.inl before
        · exact Or.inr (List.mem_cons_self ..)
      · exact Or.inr (List.mem_cons_of_mem _ late)
  have found := general (segments path) [] (List.mem_reverse.mp member)
  simpa using found

/-- A segment has neither slashes nor backslashes. -/
theorem not_mem_segment (member : segment ∈ segments path) : '/' ∉ segment.toList ∧ '\\' ∉ segment.toList := by
  obtain ⟨piece, listed, rfl⟩ := List.mem_map.mp member
  rw [String.toList_ofList]
  exact ⟨Text.not_mem_of_mem_pieces listed,
    fun found => Text.not_mem_slashed path (Text.mem_of_mem_pieces listed found)⟩

/-- The segments of the normal form are those that were joined. Without any, an empty one is left. -/
theorem segments_normalize (path : String) :
    segments (normalize path) = if normalSegments path = [] then [""] else normalSegments path := by
  have plain : ∀ segment ∈ normalSegments path, '/' ∉ segment.toList ∧ '\\' ∉ segment.toList :=
    fun segment member => not_mem_segment (mem_normalSegments member)
  have noBackslash : '\\' ∉ (normalize path).toList := by
    intro found
    -- A backslash in the joined path would be in one of its segments.
    rcases Text.mem_joinWith found with between | ⟨segment, listed, inside⟩
    · exact absurd between (by decide)
    · exact (plain segment listed).2 inside
  rw [segments, Text.slashed_eq_self noBackslash, normalize]
  split
  · rename_i nothing
    rw [nothing]
    rfl
  · rename_i some
    exact Text.pieces_joinWith some fun segment member => (plain segment member).1

/-- A path and its normal form are the same walk. -/
theorem walk?_normalize (path : String) (stack : List String) : walk? (normalize path) stack = walk? path stack := by
  obtain ⟨route, normal, leads⟩ := exists_route path
  -- An empty segment leads nowhere else, so that it does no harm.
  have joined : walk? (normalize path) stack = (normalSegments path).foldlM step? stack := by
    rw [walk?, segments_normalize]
    split
    · rename_i nothing
      simp [nothing, step?]
    · rfl
  rw [joined, normal, Route.foldlM_place, leads]

/-- Paths have the same normal form exactly if they are the same walk. -/
theorem normalize_eq_iff_walk? : normalize path = normalize other ↔ ∀ stack, walk? path stack = walk? other stack := by
  constructor
  · intro same stack
    rw [← walk?_normalize path, same, walk?_normalize]
  · intro same
    -- Both paths are routes, which lead to the same places.
    obtain ⟨one, oneNormal, oneLeads⟩ := exists_route path
    obtain ⟨two, twoNormal, twoLeads⟩ := exists_route other
    have routes : one = two := Route.eq_of_go? fun stack => by rw [← oneLeads, same, twoLeads]
    rw [normalize, oneNormal, routes, ← twoNormal, normalize]

/-- The normal form of a path stands for the walk that the path is: it is the same walk, from everywhere, and paths that
are the same walk share it; so a normal form is its own normal form. -/
theorem normalize_is_canonical :
    (∀ path stack, walk? (normalize path) stack = walk? path stack) ∧
      (∀ path other, normalize path = normalize other ↔ ∀ stack, walk? path stack = walk? other stack) ∧
      ∀ path, normalize (normalize path) = normalize path :=
  ⟨walk?_normalize, fun _ _ => normalize_eq_iff_walk?, fun path => normalize_eq_iff_walk?.mpr (walk?_normalize path)⟩

end LayerAudit.Path
