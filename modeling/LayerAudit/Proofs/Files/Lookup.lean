import LayerAudit.Proofs.Files.Tree
import LayerAudit.Proofs.Text

/-!
Following a path looks at some places only, one after the other. What is found depends on nothing else, and it stays
found while directories and links stay.
-/

namespace LayerAudit

namespace FileEntry.Alike

variable {first : Option FileEntry}

/-- Only a directory is like a directory. -/
theorem of_directory {entries : List (String × FileEntry)} (alike : Alike first (some (.directory entries))) :
    ∃ others, first = some (.directory others) := by
  cases alike with
  | directory others => exact ⟨others, rfl⟩

/-- Only the same file is like a file. -/
theorem of_file {content : ByteArray} (alike : Alike first (some (.file content))) : first = some (.file content) := by
  cases alike with
  | file => rfl

/-- Only the same link is like a link. -/
theorem of_link {target : String} (alike : Alike first (some (.link target))) : first = some (.link target) := by
  cases alike with
  | link => rfl

/-- Only nothing is like nothing. -/
theorem of_nothing (alike : Alike first none) : first = none := by
  cases alike with
  | nothing => rfl

end FileEntry.Alike

/-- The place that a path leads to. -/
def Spot.place : Spot → List String
  | taken place _ => place
  | free place _ => place

namespace FileSystem

/-- Where the first segment of a link's target is looked for. -/
def startOf (here : List String) (path : String) : List String := if Text.isStartOf "/" path then [] else here

/-- Segments lead from a directory to a result, and these are the places that are looked at on the way. -/
inductive Leads (files : FileSystem) (throughLast : Bool) :
    Nat → List String → List String → List (List String) → Except FileFailure Spot → Prop
  -- No segment is left: the way ends here, if here is anything.
  | arrived {links here entry} (there : files.root.at? here = some entry) :
    Leads files throughLast links here [] [here] (.ok (.taken here entry))
  | lost {links here} (nothing : files.root.at? here = none) :
    Leads files throughLast links here [] [here] (.error .notFound)
  -- Empty segments and single dots come from doubled slashes and `./`.
  | stay {links here name rest trail result} (dot : name = "" ∨ name = ".")
    (later : Leads files throughLast links here rest trail result) :
    Leads files throughLast links here (name :: rest) trail result
  -- Above the root is the root itself.
  | up {links here rest trail result} (later : Leads files throughLast links here.dropLast rest trail result) :
    Leads files throughLast links here (".." :: rest) trail result
  | tooLong {links here name rest} (step : name ≠ "" ∧ name ≠ "." ∧ name ≠ "..")
    (long : longestName < name.utf8ByteSize) :
    Leads files throughLast links here (name :: rest) [] (.error .nameTooLong)
  -- Only slashes follow, so that an entry of the name could be made here.
  | free {links here name rest} (isName : IsName name) (nothing : files.root.at? (here ++ [name]) = none)
    (last : rest.all (· = "")) :
    Leads files throughLast links here (name :: rest) [here ++ [name]] (.ok (.free (here ++ [name]) !rest.isEmpty))
  | missing {links here name rest} (isName : IsName name) (nothing : files.root.at? (here ++ [name]) = none)
    (more : rest.all (· = "") = false) :
    Leads files throughLast links here (name :: rest) [here ++ [name]] (.error .notFound)
  | down {links here name rest entries trail result} (isName : IsName name)
    (there : files.root.at? (here ++ [name]) = some (.directory entries))
    (later : Leads files throughLast links (here ++ [name]) rest trail result) :
    Leads files throughLast links here (name :: rest) ((here ++ [name]) :: trail) result
  | file {links here name content} (isName : IsName name)
    (there : files.root.at? (here ++ [name]) = some (.file content)) :
    Leads files throughLast links here [name] [here ++ [name]] (.ok (.taken (here ++ [name]) (.file content)))
  -- A file has nothing below it, not even behind a slash.
  | blocked {links here name rest content} (isName : IsName name)
    (there : files.root.at? (here ++ [name]) = some (.file content)) (more : rest ≠ []) :
    Leads files throughLast links here (name :: rest) [here ++ [name]] (.error .notDirectory)
  -- A last link counts as an entry of its own if it is not to be followed.
  | link {links here name target} (isName : IsName name)
    (there : files.root.at? (here ++ [name]) = some (.link target)) (notThrough : throughLast = false) :
    Leads files throughLast links here [name] [here ++ [name]] (.ok (.taken (here ++ [name]) (.link target)))
  -- Another link would be one more than the system follows.
  | tooMany {here name rest target} (isName : IsName name)
    (there : files.root.at? (here ++ [name]) = some (.link target))
    (followed : (rest.isEmpty && !throughLast) = false) :
    Leads files throughLast 0 here (name :: rest) [here ++ [name]] (.error .tooManyLinks)
  -- The target is followed from the directory of the link, or from the root.
  | through {links here name rest target trail result} (isName : IsName name)
    (there : files.root.at? (here ++ [name]) = some (.link target))
    (followed : (rest.isEmpty && !throughLast) = false)
    (later : Leads files throughLast links (startOf here target) (Location.segments target ++ rest) trail result) :
    Leads files throughLast (links + 1) here (name :: rest) ((here ++ [name]) :: trail) result

variable {files before after : FileSystem} {throughLast : Bool} {links : Nat} {here place segments : List String}
  {trail : List (List String)} {result : Except FileFailure Spot}

/-- A segment that neither stays nor goes up and is not too long is a name. -/
theorem isName_of {name : String} (notDot : ¬(name = "" ∨ name = ".")) (notUp : name ≠ "..")
    (notLong : ¬longestName < name.utf8ByteSize) : IsName name where
  nonempty := fun empty => notDot (Or.inl empty)
  notHere := fun dot => notDot (Or.inr dot)
  notAbove := notUp
  short := Nat.not_lt.mp notLong

/-- Following a name looks at one place, and goes on from there. -/
theorem follow_name {name : String} (isName : IsName name) (rest : List String) :
    files.follow throughLast links here (name :: rest) =
      match files.root.at? (here ++ [name]) with
      | none => if rest.all (· = "") then .ok (.free (here ++ [name]) !rest.isEmpty) else .error .notFound
      | some (.directory _) => files.follow throughLast links (here ++ [name]) rest
      | some (.file content) =>
        if rest.isEmpty then .ok (.taken (here ++ [name]) (.file content)) else .error .notDirectory
      | some (.link target) =>
        if rest.isEmpty && !throughLast then .ok (.taken (here ++ [name]) (.link target))
        else
          match links with
          | 0 => .error .tooManyLinks
          | links + 1 =>
            files.follow throughLast links (startOf here target) (Location.segments target ++ rest) := by
  -- The first three questions that are asked about a segment are answered by its being a name.
  have notDot : ¬(name = "" ∨ name = ".") := not_or.mpr ⟨isName.nonempty, isName.notHere⟩
  rw [follow, if_neg notDot, if_neg isName.notAbove, if_neg (Nat.not_lt.mpr isName.short)]
  rfl

/-- Every path leads somewhere. -/
theorem exists_leads (files : FileSystem) (throughLast : Bool) (links : Nat) (here segments : List String) :
    ∃ trail, Leads files throughLast links here segments trail (files.follow throughLast links here segments) := by
  -- One constructor for each way in which following a path goes on or ends.
  fun_induction follow files throughLast links here segments with
  | case1 _ _ _ there => exact ⟨_, .arrived there⟩
  | case2 _ _ nothing => exact ⟨_, .lost nothing⟩
  | case3 _ _ _ _ dot ih => exact ih.imp fun _ later => .stay dot later
  | case4 _ _ _ _ ih => exact ih.imp fun _ later => .up later
  | case5 _ _ _ _ notDot notUp long =>
    exact ⟨_, .tooLong ⟨fun empty => notDot (Or.inl empty), fun dot => notDot (Or.inr dot), notUp⟩ long⟩
  | case6 _ _ _ _ notDot notUp short _ nothing last => exact ⟨_, .free (isName_of notDot notUp short) nothing last⟩
  | case7 _ _ _ _ notDot notUp short _ nothing more =>
    exact ⟨_, .missing (isName_of notDot notUp short) nothing (Bool.not_eq_true _ ▸ more)⟩
  | case8 _ _ _ _ notDot notUp short _ _ there ih =>
    obtain ⟨_, later⟩ := ih
    exact ⟨_, .down (isName_of notDot notUp short) there later⟩
  | case9 _ _ _ _ notDot notUp short _ _ there last =>
    cases List.isEmpty_iff.mp last
    exact ⟨_, .file (isName_of notDot notUp short) there⟩
  | case10 _ _ _ _ notDot notUp short _ _ there more =>
    exact ⟨_, .blocked (isName_of notDot notUp short) there fun last => more (List.isEmpty_iff.mpr last)⟩
  | case11 _ _ _ _ notDot notUp short _ _ there kept =>
    -- The link is kept if it comes last and last links are not followed.
    obtain ⟨last, notThrough⟩ := Bool.and_eq_true_iff.mp kept
    cases List.isEmpty_iff.mp last
    exact ⟨_, .link (isName_of notDot notUp short) there (Bool.not_eq_true' _ ▸ notThrough)⟩
  | case12 _ _ _ notDot notUp short _ _ there followed =>
    exact ⟨_, .tooMany (isName_of notDot notUp short) there (eq_false_of_ne_true followed)⟩
  | case13 _ _ _ notDot notUp short _ _ there followed _ ih =>
    obtain ⟨_, later⟩ := ih
    exact ⟨_, .through (isName_of notDot notUp short) there (eq_false_of_ne_true followed) later⟩

/-- Segments lead to what following them gives. -/
theorem Leads.follow_eq (leads : Leads files throughLast links here segments trail result) :
    files.follow throughLast links here segments = result := by
  induction leads with
  | arrived there => rw [follow, there]
  | lost nothing => rw [follow, nothing]
  | stay dot _ ih => rw [follow, if_pos dot, ih]
  | up _ ih => rw [follow, if_neg (by decide), if_pos rfl, ih]
  | tooLong step long => rw [follow, if_neg (not_or.mpr ⟨step.1, step.2.1⟩), if_neg step.2.2, if_pos long]
  | free isName nothing last => simp [follow_name isName, nothing, last]
  | missing isName nothing more => simp [follow_name isName, nothing, more]
  | down isName there _ ih => simp [follow_name isName, there, ih]
  | file isName there => simp [follow_name isName, there]
  | blocked isName there more => simp [follow_name isName, there, more]
  | link isName there notThrough => simp [follow_name isName, there, notThrough]
  | tooMany isName there followed => simp [follow_name isName, there, followed]
  | through isName there followed _ ih => simp [follow_name isName, there, followed, ih]

/-! ### What is found -/

/-- There is a directory at the place. -/
def HasDirectory (files : FileSystem) (place : List String) : Prop :=
  ∃ entries, files.root.at? place = some (.directory entries)

/-- The directories above a directory are there. -/
theorem HasDirectory.above {others : List String} (below : files.HasDirectory (place ++ others)) :
    files.HasDirectory place :=
  below.elim fun _ there => FileEntry.directory_of_append there

/-- The root is a directory if there is one below. -/
theorem HasDirectory.root (below : files.HasDirectory place) : files.HasDirectory [] :=
  HasDirectory.above (show files.HasDirectory ([] ++ place) from below)

/-- One step up from a directory is a directory. -/
theorem HasDirectory.dropLast (below : files.HasDirectory place) : files.HasDirectory place.dropLast := by
  obtain ⟨others, split⟩ := place.dropLast_prefix
  exact HasDirectory.above (split.symm ▸ below)

/-- A link is followed from a directory. -/
theorem HasDirectory.startOf (below : files.HasDirectory here) (target : String) :
    files.HasDirectory (FileSystem.startOf here target) := by
  unfold FileSystem.startOf
  split
  · exact below.root
  · exact below

/-- No segment of a path has a slash in it. -/
theorem not_mem_segments {path segment : String} (member : segment ∈ Location.segments path) :
    '/' ∉ segment.toList := by
  obtain ⟨piece, listed, rfl⟩ := List.mem_map.mp member
  rw [String.toList_ofList]
  exact Text.not_mem_of_mem_pieces listed

/-- The place is in a directory, where a file can have its name, and there is nothing yet or a file. -/
structure IsSlot (files : FileSystem) (place : List String) : Prop where
  inside : ∃ parent name, place = parent ++ [name] ∧ files.HasDirectory parent ∧ IsEntryName name
  plain : ∀ entry, files.root.at? place = some entry → ∃ content, entry = .file content

namespace Leads

variable {entry new : FileEntry} {slash : Bool}

/-- What segments lead to is there. -/
theorem there (leads : Leads files throughLast links here segments trail (.ok (.taken place entry))) :
    files.root.at? place = some entry := by
  generalize is : Except.ok (Spot.taken place entry) = result at leads
  induction leads with
  -- The way ends here, and it ends at what is there.
  | arrived there | file _ there | link _ there =>
    cases is
    exact there
  -- The end of the way is that of its rest.
  | stay _ _ ih | up _ ih | down _ _ _ ih | through _ _ _ _ ih => exact ih is
  | _ => cases is

/-- A free place that segments lead to is in a directory, and nothing is there. -/
theorem isSlot_free (leads : Leads files throughLast links here segments trail (.ok (.free place slash)))
    (start : files.HasDirectory here) (noSlash : ∀ segment ∈ segments, '/' ∉ segment.toList) :
    files.IsSlot place ∧ files.root.at? place = none := by
  generalize is : Except.ok (Spot.free place slash) = result at leads
  -- The way goes through directories, and each segment on it is one of a written path.
  induction leads with
  | stay _ _ ih => exact ih start (fun segment member => noSlash segment (List.mem_cons_of_mem _ member)) is
  | up _ ih => exact ih start.dropLast (fun segment member => noSlash segment (List.mem_cons_of_mem _ member)) is
  | down _ there _ ih => exact ih ⟨_, there⟩ (fun segment member => noSlash segment (List.mem_cons_of_mem _ member)) is
  | through _ _ _ _ ih =>
    -- The segments of the target are those of a path, too.
    refine ih (start.startOf _) (fun segment member => ?_) is
    rcases List.mem_append.mp member with target | rest
    · exact not_mem_segments target
    · exact noSlash segment (List.mem_cons_of_mem _ rest)
  | free isName nothing =>
    cases is
    have isEntryName := IsEntryName.mk isName (noSlash _ (List.mem_cons_self ..))
    exact ⟨⟨⟨_, _, rfl, start, isEntryName⟩, fun _ there => by simp [nothing] at there⟩, nothing⟩
  | _ => cases is

/-- Where segments lead with all links followed, they lead somewhere also if a last link is not followed. -/
theorem without_last_link (leads : Leads files true links here segments trail (.ok (.taken place entry))) :
    ∃ trail place entry, Leads files false links here segments trail (.ok (.taken place entry)) := by
  generalize is : Except.ok (Spot.taken place entry) = result at leads
  induction leads with
  | arrived there => exact ⟨_, _, _, .arrived there⟩
  | file isName there => exact ⟨_, _, _, .file isName there⟩
  | link isName there => exact ⟨_, _, _, .link isName there rfl⟩
  | stay dot _ ih =>
    obtain ⟨_, _, _, later⟩ := ih is
    exact ⟨_, _, _, .stay dot later⟩
  | up _ ih =>
    obtain ⟨_, _, _, later⟩ := ih is
    exact ⟨_, _, _, .up later⟩
  | down isName there _ ih =>
    obtain ⟨_, _, _, later⟩ := ih is
    exact ⟨_, _, _, .down isName there later⟩
  | @through _ _ _ rest _ _ _ isName there _ _ ih =>
    -- A last link is the end now, and any other one is followed still.
    cases rest with
    | nil => exact ⟨_, _, _, .link isName there rfl⟩
    | cons =>
      obtain ⟨_, _, _, later⟩ := ih is
      exact ⟨_, _, _, .through isName there rfl later⟩
  | _ => cases is

/-- Looking at a file is the end of the way: it is what segments lead to, or they ask for more. -/
theorem ends_at_file {content : ByteArray} (leads : Leads files throughLast links here segments trail result)
    (file : files.root.at? place = some (.file content)) (looked : place ∈ trail) :
    result = .ok (.taken place (.file content)) ∨ result = .error .notDirectory := by
  induction leads with
  -- The way ends at the file.
  | arrived there | file _ there =>
    cases List.mem_singleton.mp looked
    cases Option.some.inj (there.symm.trans file)
    exact Or.inl rfl
  | stay _ _ ih | up _ ih => exact ih looked
  | blocked => exact Or.inr rfl
  -- A directory or a link that is looked at is not the file.
  | down _ there _ ih | through _ there _ _ ih =>
    rcases List.mem_cons.mp looked with rfl | later
    · cases there.symm.trans file
    · exact ih later
  | tooLong => cases looked
  -- At the other ends there is something else, or nothing.
  | lost there | free _ there | missing _ there | link _ there | tooMany _ there =>
    cases List.mem_singleton.mp looked
    cases there.symm.trans file

/-- Unless segments end at a link that is not followed, they lead to the same spot when it is. -/
theorem with_last_link {spot : Spot} (leads : Leads files false links here segments trail (.ok spot))
    (noLink : ∀ place target, spot ≠ .taken place (.link target)) :
    Leads files true links here segments trail (.ok spot) := by
  generalize is : Except.ok spot = result at leads ⊢
  induction leads with
  | arrived there => exact .arrived there
  | stay dot _ ih => exact .stay dot (ih is)
  | up _ ih => exact .up (ih is)
  | free isName nothing last => exact .free isName nothing last
  | down isName there _ ih => exact .down isName there (ih is)
  | file isName there => exact .file isName there
  | link =>
    -- The only end that depends on whether a last link is followed.
    cases is
    exact absurd rfl (noLink _ _)
  | through isName there _ _ ih => exact .through isName there (by simp) (ih is)
  | _ => cases is

end Leads

/-! ### Other entries -/

/-- Directories and links stay what they are. -/
structure Keeps (before after : FileSystem) : Prop where
  directories : ∀ place, before.HasDirectory place → after.HasDirectory place
  links : ∀ place target, before.root.at? place = some (.link target) → after.root.at? place = some (.link target)

/-- What is at a spot can be what the same path leads to: a directory, or a file where the path does not ask for
more. -/
inductive Fits (files : FileSystem) : Spot → Prop
  | directory {spot} (there : files.HasDirectory spot.place) : Fits files spot
  | taken {place entry content} (there : files.root.at? place = some (.file content)) : Fits files (.taken place entry)
  | free {place slash content} (there : files.root.at? place = some (.file content)) (noSlash : slash = false) :
    Fits files (.free place slash)

/-- Something is at the spot. -/
theorem Fits.there {spot : Spot} (fits : Fits files spot) : ∃ entry, files.root.at? spot.place = some entry := by
  cases fits with
  | directory there => exact there.imp' _ fun _ there => there
  | taken there | free there => exact ⟨_, there⟩

namespace Leads

variable {entry : FileEntry} {spot : Spot}

/-- Slashes at the end do not matter for what is there. -/
theorem along_slashes (there : files.root.at? here = some entry) (slashes : segments.all (· = "")) :
    ∃ trail, Leads files throughLast links here segments trail (.ok (.taken here entry)) := by
  induction segments with
  | nil => exact ⟨_, .arrived there⟩
  | cons segment rest ih =>
    -- Slashes at the end are empty segments, at which the way stays.
    obtain ⟨empty, others⟩ := Bool.and_eq_true_iff.mp slashes
    exact (ih others).imp fun _ later => .stay (Or.inl (of_decide_eq_true empty)) later

/-- Where segments led before, they lead after an entry was put there that fits. -/
theorem onto (leads : Leads before throughLast links here segments trail (.ok spot)) (keeps : Keeps before after)
    (fits : Fits after spot) :
    ∃ trail entry, Leads after throughLast links here segments trail (.ok (.taken spot.place entry)) := by
  generalize is : Except.ok spot = result at leads
  -- Only the last place matters, as all before it are directories and links.
  induction leads with
  | arrived =>
    cases is
    obtain ⟨entry, there⟩ := fits.there
    exact ⟨_, entry, .arrived there⟩
  | stay dot _ ih =>
    obtain ⟨_, _, later⟩ := ih is
    exact ⟨_, _, .stay dot later⟩
  | up _ ih =>
    obtain ⟨_, _, later⟩ := ih is
    exact ⟨_, _, .up later⟩
  | @free _ _ _ rest isName _ last =>
    -- Something is there now, which is looked into if slashes follow.
    cases is
    cases fits with
    | directory there =>
      obtain ⟨_, found⟩ := there
      obtain ⟨_, later⟩ := along_slashes found last
      exact ⟨_, _, .down isName found later⟩
    | free there noSlash =>
      obtain rfl : rest = [] := by simpa using noSlash
      exact ⟨_, _, .file isName there⟩
  -- Directories on the way are directories still, though with other entries.
  | down isName there _ ih =>
    obtain ⟨_, kept⟩ := keeps.directories _ ⟨_, there⟩
    obtain ⟨_, _, later⟩ := ih is
    exact ⟨_, _, .down isName kept later⟩
  | file isName =>
    cases is
    cases fits with
    | directory there =>
      obtain ⟨_, found⟩ := there
      exact ⟨_, _, .down isName found (.arrived found)⟩
    | taken there => exact ⟨_, _, .file isName there⟩
  | link isName there notThrough =>
    cases is
    exact ⟨_, _, .link isName (keeps.links _ _ there) notThrough⟩
  | through isName there followed _ ih =>
    obtain ⟨_, _, later⟩ := ih is
    exact ⟨_, _, .through isName (keeps.links _ _ there) followed later⟩
  | _ => cases is

end Leads

/-- Two paths end in the same way, except for what directories hold. -/
inductive EndsAlike : Except FileFailure Spot → Except FileFailure Spot → Prop
  | failed (failure : FileFailure) : EndsAlike (.error failure) (.error failure)
  | free (place : List String) (slash : Bool) : EndsAlike (.ok (.free place slash)) (.ok (.free place slash))
  | taken {first second : FileEntry} (place : List String) (alike : FileEntry.Alike (some first) (some second)) :
    EndsAlike (.ok (.taken place first)) (.ok (.taken place second))

/-- What ends like a path to a directory leads to a directory. -/
theorem EndsAlike.of_directory {entries : List (String × FileEntry)}
    (ends : EndsAlike (.ok (.taken place (.directory entries))) result) :
    ∃ others, result = .ok (.taken place (.directory others)) := by
  cases ends with
  | taken _ alike =>
    cases alike with
    | directory _ others => exact ⟨others, rfl⟩

/-- Where all places that are looked at are alike, segments end alike. -/
theorem Leads.follow_congr (leads : Leads after throughLast links here segments trail result)
    (alike : ∀ place ∈ trail, FileEntry.Alike (before.root.at? place) (after.root.at? place)) :
    EndsAlike (before.follow throughLast links here segments) result := by
  -- Each step looks at one place, and which step comes next depends on nothing but the kind of what is there.
  induction leads with
  | @arrived _ here _ there =>
    have same := there ▸ alike _ (List.mem_singleton_self _)
    rw [follow]
    -- What is there is of the same kind in both.
    cases found : before.root.at? here with
    | none => cases found ▸ same
    | some entry => exact .taken _ (found ▸ same)
  | lost nothing =>
    have same := nothing ▸ alike _ (List.mem_singleton_self _)
    rw [follow, same.of_nothing]
    exact .failed _
  | stay dot _ ih => rw [follow, if_pos dot]; exact ih alike
  | up _ ih => rw [follow, if_neg (by decide), if_pos rfl]; exact ih alike
  | tooLong step long =>
    rw [follow, if_neg (not_or.mpr ⟨step.1, step.2.1⟩), if_neg step.2.2, if_pos long]
    exact .failed _
  | free isName nothing last =>
    have same := nothing ▸ alike _ (List.mem_singleton_self _)
    simpa [follow_name isName, same.of_nothing, last] using .free _ _
  | missing isName nothing more =>
    have same := nothing ▸ alike _ (List.mem_singleton_self _)
    simpa [follow_name isName, same.of_nothing, more] using .failed _
  | down isName there _ ih =>
    have same := there ▸ alike _ (List.mem_cons_self ..)
    obtain ⟨_, found⟩ := same.of_directory
    simpa [follow_name isName, found] using ih fun place later => alike place (List.mem_cons_of_mem _ later)
  | file isName there =>
    have same := there ▸ alike _ (List.mem_singleton_self _)
    simpa [follow_name isName, same.of_file] using .taken _ (.refl _)
  | blocked isName there more =>
    have same := there ▸ alike _ (List.mem_singleton_self _)
    simpa [follow_name isName, same.of_file, more] using .failed _
  | link isName there notThrough =>
    have same := there ▸ alike _ (List.mem_singleton_self _)
    simpa [follow_name isName, same.of_link, notThrough] using .taken _ (.refl _)
  | tooMany isName there followed =>
    have same := there ▸ alike _ (List.mem_singleton_self _)
    simpa [follow_name isName, same.of_link, followed] using .failed _
  | through isName there followed _ ih =>
    have same := there ▸ alike _ (List.mem_cons_self ..)
    simpa [follow_name isName, same.of_link, followed] using
      ih fun place later => alike place (List.mem_cons_of_mem _ later)

/-! ### Further segments -/

namespace Leads

variable {first others names : List String} {entries : List (String × FileEntry)} {content : ByteArray}

/-- Segments after those that lead to a directory are followed from there. -/
theorem append (leads : Leads files true links here first trail (.ok (.taken place (.directory entries))))
    (others : List String) :
    ∃ left, ∀ {more end_}, Leads files true left place others more end_ →
      ∃ whole, Leads files true links here (first ++ others) whole end_ := by
  generalize is : Except.ok (Spot.taken place (.directory entries)) = result at leads
  induction leads with
  | @arrived links =>
    cases is
    exact ⟨links, fun later => ⟨_, later⟩⟩
  | stay dot _ ih =>
    obtain ⟨left, go⟩ := ih is
    exact ⟨left, fun later => (go later).imp fun _ whole => .stay dot whole⟩
  | up _ ih =>
    obtain ⟨left, go⟩ := ih is
    exact ⟨left, fun later => (go later).imp fun _ whole => .up whole⟩
  | down isName there _ ih =>
    obtain ⟨left, go⟩ := ih is
    exact ⟨left, fun later => (go later).elim fun _ whole => ⟨_, .down isName there whole⟩⟩
  | through isName there _ _ ih =>
    -- The segments of the link's target come in front of those that follow.
    obtain ⟨left, go⟩ := ih is
    refine ⟨left, fun later => (go later).elim fun _ whole => ?_⟩
    rw [List.append_assoc] at whole
    exact ⟨_, .through isName there (by simp) whole⟩
  | _ => cases is

/-- A slash behind a path to a directory can be left out. -/
theorem without_slash
    (leads : Leads files true links here (first ++ [""]) trail (.ok (.taken place (.directory entries)))) :
    ∃ trail, Leads files true links here first trail (.ok (.taken place (.directory entries))) := by
  generalize is : Except.ok (Spot.taken place (.directory entries)) = result at leads
  generalize all : first ++ [""] = segments at leads
  -- The slash comes last, so every other step is one of the segments before it.
  induction leads generalizing first with
  -- A segment at which the way stays may be the slash itself, which ends it, or one in front.
  | stay dot later ih =>
    cases first with
    | nil =>
      obtain ⟨rfl, rfl⟩ := List.cons.inj all
      exact ⟨_, later⟩
    | cons =>
      obtain ⟨rfl, rest⟩ := List.cons.inj all
      exact (ih is rest).imp fun _ whole => .stay dot whole
  | up _ ih =>
    cases first with
    | nil => simp at all
    | cons =>
      obtain ⟨rfl, rest⟩ := List.cons.inj all
      exact (ih is rest).imp fun _ whole => .up whole
  | down isName there _ ih =>
    cases first with
    | nil => exact absurd (List.cons.inj all).1.symm isName.nonempty
    | cons =>
      obtain ⟨rfl, rest⟩ := List.cons.inj all
      exact (ih is rest).elim fun _ whole => ⟨_, .down isName there whole⟩
  | through isName there _ _ ih =>
    cases first with
    | nil => exact absurd (List.cons.inj all).1.symm isName.nonempty
    | cons =>
      obtain ⟨rfl, rfl⟩ := List.cons.inj all
      obtain ⟨_, whole⟩ := ih is (List.append_assoc _ _ _)
      exact ⟨_, .through isName there (by simp) whole⟩
  | _ => simp_all

/-- Names of directories lead down, and what comes after them is followed from there. -/
theorem descend (isName : ∀ name ∈ names, IsName name) (below : files.HasDirectory (here ++ names))
    (later : Leads files throughLast links (here ++ names) others trail result) :
    ∃ whole, Leads files throughLast links here (names ++ others) whole result := by
  induction names generalizing here with
  | nil =>
    rw [List.append_nil] at later
    exact ⟨trail, later⟩
  | cons name rest ih =>
    have split : here ++ name :: rest = (here ++ [name]) ++ rest := by simp
    rw [split] at below later
    -- The directory under the first name is above the one that all names lead to.
    obtain ⟨_, there⟩ := below.above
    obtain ⟨_, whole⟩ := ih (fun other member => isName other (List.mem_cons_of_mem _ member)) below later
    exact ⟨_, .down (isName name (List.mem_cons_self ..)) there whole⟩

/-- The names from a directory to a file lead to it. -/
theorem descend_file (links : Nat) (isName : ∀ name ∈ names, IsName name) (nonempty : names ≠ [])
    (there : files.root.at? (here ++ names) = some (.file content)) :
    ∃ trail, Leads files throughLast links here names trail (.ok (.taken (here ++ names) (.file content))) := by
  obtain ⟨above, last, rfl⟩ := (List.eq_nil_or_concat names).resolve_left nonempty
  rw [List.concat_eq_append] at isName there ⊢
  rw [← List.append_assoc] at there ⊢
  -- All names but the last one are those of directories.
  have isLast := isName last (List.mem_append_right _ (List.mem_singleton_self _))
  exact descend (fun name member => isName name (List.mem_append_left _ member)) (FileEntry.directory_of_at? there)
    (.file isLast there)

end Leads

end FileSystem

end LayerAudit
