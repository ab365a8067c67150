import LayerAudit.Proofs.Script.Walks
import LayerAudit.Proofs.Text
import LayerAudit.Script.Parser
import LayerAudit.Script.Repair
import Mathlib.Data.List.DropRight

/-!
When a script with damage is accepted. The bytes of the damage are weighed against those of the text between its outer
white space, and white space counts on both sides. So the verdict is the one on the other characters alone, unless the
white space tips the balance.
-/

namespace LayerAudit

namespace Text

/-- For each byte of a text, whether it belongs to ink, which is any character but white space. -/
def inkMap (text : List Char) : List Bool := text.flatMap fun c => List.replicate c.utf8Size (!isBlank c)

/-- The number of bytes of ink in a text. -/
def inkSize (text : List Char) : Nat := (inkMap text).count true

/-- The number of bytes of ink in a range of a text. -/
def inkIn (text : List Char) (span : Script.Span) : Nat := (((inkMap text).drop span.start).take span.size).count true

variable {text : List Char}

/-- Trimming leaves nothing exactly of white space. -/
theorem trim_eq_nil_iff : trim text = [] ↔ ∀ c ∈ text, isBlank c = true := by
  have kept : trim text = [] ↔ (text.dropWhile isBlank).dropWhile isBlank = [] := by
    simp only [trim, trimEnd, trimStart, List.reverse_eq_nil_iff, List.dropWhile_eq_nil_iff, List.mem_reverse]
  rw [kept, List.dropWhile_idempotent, List.dropWhile_eq_nil_iff]

/-- There is no ink in any range of white space. -/
theorem inkIn_of_blank (blank : ∀ c ∈ text, isBlank c = true) (span : Script.Span) : inkIn text span = 0 := by
  have noInk : ∀ mark ∈ inkMap text, mark = false := by
    intro mark member
    obtain ⟨c, listed, isMark⟩ := List.mem_flatMap.mp member
    -- A blank has no byte of ink.
    rw [List.eq_of_mem_replicate isMark, blank c listed]
    rfl
  refine List.count_eq_zero.mpr fun member => ?_
  exact absurd (noInk true (List.mem_of_mem_drop (List.mem_of_mem_take member))) (by decide)

end Text

namespace Script

/-- The nodes over text that was passed over, without those inside of others. -/
def errorRegions (root : Cst) : List Cst := root.outermost fun node => node.role == .error

/-- The bytes of ink inside errors. -/
def errorInk (text : List Char) (root : Cst) : Nat :=
  ((errorRegions root).map fun node => Text.inkIn text node.span).sum

/-- By how many bytes the ink inside errors exceeds the other ink. -/
def inkExcess (text : List Char) (root : Cst) : Int := 2 * errorInk text root - Text.inkSize text

/-- The bytes that damage covers, damage inside damage counted once. -/
def damageSize (root : Cst) : Nat := ((root.outermost Cst.isDamage).map fun node => node.span.size).sum

/-- By how many bytes the white space outside of damage, as far as it lies between characters of other kinds, exceeds
that inside. -/
def blankExcess (text : List Char) (root : Cst) : Int :=
  (Text.byteSize (Text.trim text) - Text.inkSize text) - 2 * (damageSize root - errorInk text root)

/-- A tree is no deeper than allowed, and no error as a whole. -/
structure Sound (root : Cst) : Prop where
  shallow : ∀ levels node, root.Below levels node → levels ≤ deepest
  isNoError : root.role ≠ .error

/-- A text has a sound tree. -/
structure Readable [Syntax] (text : List Char) (root : Cst) : Prop extends Sound root where
  isTree : Syntax.read .markup text = .tree root

variable {text : List Char} {root : Cst}

/-- Damage is tolerated up to the same number of bytes outside of it, white space counted on both sides. -/
theorem judge_permissive_iff : judge .permissive text root = .ok () ↔
    (∀ levels node, root.Below levels node → levels ≤ deepest) ∧ root.role ≠ .error ∧
      (Text.trim text = [] ∨ inkExcess text root ≤ blankExcess text root) := by
  -- The walk with the cursor counts the bytes of the outermost damage.
  have bytes : Cursor.damagedBytes 0 (Cursor.atRoot root) = damageSize root := by
    simp [Cursor.damagedBytes_eq, Cursor.atRoot, Cursor.ahead, damageSize]
  have sizes : inkExcess text root ≤ blankExcess text root ↔ 2 * damageSize root ≤ Text.byteSize (Text.trim text) := by
    unfold inkExcess blankExcess
    omega
  have nothing : Text.trim text = [] ↔ Text.byteSize (Text.trim text) = 0 :=
    ⟨fun empty => by rw [empty]; rfl, Text.eq_nil_of_byteSize⟩
  rw [sizes, nothing, ← Cursor.deeperThan_eq_false_iff]
  unfold judge
  -- The guards stand in the order of the conditions, and only the last one weighs the damage.
  cases Cursor.deeperThan deepest (Cursor.atRoot root) with
  | true => simp
  | false =>
    by_cases isError : root.role = .error
    · simp [isError]
    · have other : (root.role == .error) = false := beq_eq_false_iff_ne.mpr isError
      simp only [other, bytes, Bool.false_eq_true, if_false, Bool.and_eq_true, decide_eq_true_eq]
      split
      · -- More than half of the trimmed text is damaged, so that the last guard rejects.
        refine iff_of_false (by simp) fun tolerable => ?_
        have light := tolerable.2.2
        omega
      · -- The damage is light enough, and there is nothing else to reject.
        refine iff_of_true rfl ⟨trivial, isError, ?_⟩
        omega

/-- No ink is damaged where there is none. -/
theorem errorInk_of_blank (blank : ∀ c ∈ text, Text.isBlank c = true) (root : Cst) : errorInk text root = 0 := by
  refine List.sum_eq_zero_iff_forall_eq_nat.mpr fun size member => ?_
  obtain ⟨node, _, rfl⟩ := List.mem_map.mp member
  exact Text.inkIn_of_blank blank node.span

/-- No more than half of the ink is damaged exactly if the damaged ink does not exceed the other ink. -/
theorem inkExcess_nonpos_iff : inkExcess text root ≤ 0 ↔ 2 * errorInk text root ≤ Text.inkSize text := by
  unfold inkExcess
  omega

/-- A tree is accepted with damage exactly if it is sound and the damaged ink exceeds the other ink by no more than the
white space outside of damage exceeds that inside. So it is accepted exactly if no more than half of the ink is damaged,
unless the white space tips the balance one way or the other. -/
theorem judge_permissive_iff_balanced (text : List Char) (root : Cst) :
    let isBlank := Text.trim text = []
    let ink := inkExcess text root
    let blank := blankExcess text root
    (judge .permissive text root = .ok () ↔ Sound root ∧ (isBlank ∨ ink ≤ blank)) ∧
      ((judge .permissive text root = .ok () ↔ Sound root ∧ 2 * errorInk text root ≤ Text.inkSize text) ↔
        ¬(Sound root ∧ ¬isBlank ∧ (0 < ink ∧ ink ≤ blank ∨ blank < ink ∧ ink ≤ 0))) := by
  intro isBlank ink blank
  -- A sound tree passes the first two guards.
  have accepted : judge .permissive text root = .ok () ↔ Sound root ∧ (isBlank ∨ ink ≤ blank) := by
    rw [judge_permissive_iff]
    exact ⟨fun ⟨shallow, isNoError, balanced⟩ => ⟨⟨shallow, isNoError⟩, balanced⟩,
      fun ⟨⟨shallow, isNoError⟩, balanced⟩ => ⟨shallow, isNoError, balanced⟩⟩
  refine ⟨accepted, ?_⟩
  rw [accepted, ← inkExcess_nonpos_iff]
  by_cases sound : Sound root
  · by_cases white : isBlank
    · -- Without any ink both verdicts are good.
      have noInk : ink ≤ 0 := by
        rw [inkExcess_nonpos_iff, errorInk_of_blank (Text.trim_eq_nil_iff.mp white)]
        omega
      simp [sound, white, noInk, ink]
    · -- With ink the two verdicts differ where exactly one of the two bounds is kept.
      simp only [sound, white, true_and, false_or, not_false_eq_true]
      omega
  · -- No tree that is unsound is accepted, whichever way its ink is weighed.
    simp [sound]

section

variable [Syntax]

/-- A permissive parse gives the tree of the text, if its verdict is good. -/
theorem parsePermissive_eq_ok_iff (text : String) (root : Cst) : parsePermissive text = .ok root ↔
    Syntax.read .markup text.toList = .tree root ∧ judge .permissive text.toList root = .ok () := by
  unfold parsePermissive parse
  cases Syntax.read .markup text.toList with
  | tooDeep => simp
  | tree other =>
    simp only [Reading.tree.injEq]
    cases verdict : judge .permissive text.toList other with
    | ok =>
      refine ⟨fun same => ?_, fun ⟨same, _⟩ => by rw [same]⟩
      cases same
      exact ⟨rfl, verdict⟩
    -- If the text has this tree, then the verdict is the one that was found to be bad.
    | error reason =>
      refine iff_of_false (by simp) fun ⟨same, accepted⟩ => ?_
      rw [same, accepted] at verdict
      cases verdict

/-- A script is accepted with damage exactly if it is readable and the damaged ink exceeds the other ink by no more than
the white space outside of damage exceeds that inside. So it is accepted exactly if no more than half of the ink is
damaged, unless the white space tips the balance one way or the other. -/
theorem parsePermissive_iff_balanced (text : String) (root : Cst) :
    let readable := Readable text.toList root
    let isBlank := Text.trim text.toList = []
    let ink := inkExcess text.toList root
    let blank := blankExcess text.toList root
    (parsePermissive text = .ok root ↔ readable ∧ (isBlank ∨ ink ≤ blank)) ∧
      ((parsePermissive text = .ok root ↔ readable ∧ 2 * errorInk text.toList root ≤ Text.inkSize text.toList) ↔
        ¬(readable ∧ ¬isBlank ∧ (0 < ink ∧ ink ≤ blank ∨ blank < ink ∧ ink ≤ 0))) := by
  have balance := judge_permissive_iff_balanced text.toList root
  -- The text decides whether this is its tree, and the verdict is one on the tree.
  have split : Readable text.toList root ↔ Syntax.read .markup text.toList = .tree root ∧ Sound root :=
    ⟨fun readable => ⟨readable.isTree, readable.toSound⟩, fun ⟨isTree, sound⟩ => ⟨sound, isTree⟩⟩
  simp only [parsePermissive_eq_ok_iff, split, and_assoc]
  by_cases isTree : Syntax.read .markup text.toList = .tree root
  · simpa only [isTree, true_and] using balance
  · -- Another tree is neither the one that is read nor the one that is accepted.
    simp [isTree]

end

/-- A name, and three brackets that close nothing behind a blank: more than half of the ink is damaged, but no more than
half of the bytes. -/
theorem parsePermissive_accepts_damaged_ink :
    ∃ root, parsePermissive "a; )))" = .ok root ∧ Text.inkSize "a; )))".toList < 2 * errorInk "a; )))".toList root := by
  -- The text is parsed once, and its tree is weighed where it comes out.
  have weighed : (parsePermissive "a; )))").toOption.any (fun root =>
      decide (Text.inkSize "a; )))".toList < 2 * errorInk "a; )))".toList root)) = true := by decide +kernel
  obtain ⟨root, accepted, heavy⟩ := exists_ok_of_any weighed
  exact ⟨root, accepted, of_decide_eq_true heavy⟩

end Script

end LayerAudit
