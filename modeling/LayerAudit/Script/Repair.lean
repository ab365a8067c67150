import LayerAudit.Script.Reading

/-!
Trees for damaged texts. Among the ways to pass over parts of a text, or to assume marks that it lacks, the cheapest
one that makes the whole text readable is taken. Passing over costs by stretches, nodes, bytes and lines.
-/

namespace LayerAudit.Script

namespace Repairs

/-- The number of line ends inside a range of bytes. -/
def linesIn (span : Span) : List Char → Nat → Nat
  | [], _ => 0
  | c :: rest, n =>
    if span.stop ≤ n then 0
    else (if c == '\n' && span.start ≤ n then 1 else 0) + linesIn span rest (n + c.utf8Size)

/-- The price of some repairs of a text. -/
def cost (text : List Char) (repairs : Repairs) : Nat :=
  repairs.passed.foldl (fun price patch =>
    price + 500 + 100 * patch.lost + patch.span.size + 30 * linesIn patch.span text 0) (610 * repairs.assumed.length)

/-- The repairs with one more stretch, which takes in the stretches that it covers. -/
def pass (repairs : Repairs) (span : Span) (lost : Nat) : Repairs :=
  let (inside, outside) := repairs.passed.partition fun patch => span.start ≤ patch.span.start
  let lost := inside.foldl (fun lost patch => lost + patch.lost) lost
  { repairs with
    passed := outside ++ [⟨span, lost⟩]
    -- What is passed over later needs no marks, and none of its words is looked at.
    assumed := repairs.assumed.filter fun entry => entry.1 < span.start
    bare := repairs.bare.filter fun offset => offset < span.start }

end Repairs

/-! ### Lexemes of a damaged text -/

/-- The length of the lexeme at the front of a text, when nothing is known about its place. -/
def looseLength (s : List Char) : Nat :=
  match Lexeme.ahead s with
  -- A word, a mark, and the quote of a text count as one lexeme each.
  | .word w | .bareName w | .mark w => w.length
  | .number => max 1 (Lexeme.numberLength s)
  | .quote _ => 1
  | .hidden => 1 + Lexeme.wordLength (s.drop 1)
  | .ending => 0

/-- The ranges of the lexemes from a place on, ended by the empty range at the end of the text. -/
def looseLexemes : Nat → Place → List Span
  | 0, place => [⟨place.offset, place.offset⟩]
  | fuel + 1, place =>
    let place := Lexeme.nextLexeme place
    let n := looseLength place.rest
    -- At the end the list is closed by an empty range, so that everything can be passed over.
    if n = 0 then [⟨place.offset, place.offset⟩]
    else
      let after := place.skip n
      ⟨place.offset, after.offset⟩ :: looseLexemes fuel after

/-- The place at an offset. -/
def placeAt (offset : Nat) : List Char → Nat → Place
  | [], n => ⟨[], n⟩
  | c :: rest, n => if offset ≤ n then ⟨c :: rest, n⟩ else placeAt offset rest (n + c.utf8Size)

/-! ### The search -/

/-- How many steps back the first so many nodes are, where a list counts as two steps whatever its length. -/
def stepsBack (nodes : List Cst) : Nat :=
  (nodes.foldl (fun (count, run) node =>
    let standsAlone := node.role == .token && node.span.size != 1
    -- A token alone is a step, and so are the first two nodes of a list.
    if standsAlone then (count + 1, 0)
    else if run < 2 then (count + 1, run + 1)
    else (count, run)) (0, 0)).1

/-- The number of nodes that are lost with the given ones. -/
def lostIn (nodes : List Cst) : Nat := (nodes.filter fun node => !node.head.extra && node.span.size > 0).length

/-- A step of the search. -/
inductive Trial
  /-- Some repairs let the text be read up to an end or a snag. -/
  | repaired (repairs : Repairs) (outcome : Outcome Unit)
  /-- A mark is assumed at a snag. -/
  | assuming (repairs : Repairs) (snag : Snag)
  /-- Reading goes on at a later lexeme. -/
  | resuming (repairs : Repairs) (snag : Snag) (lexemes : List Span) (skipped : Nat)

/-- A step of the search with its price; of equal prices the lower rank goes first. -/
structure Offer where
  cost : Nat
  rank : Nat
  trial : Trial

/-- Put an offer in its place in an ordered queue, behind equal ones. -/
def enqueue (offer : Offer) : List Offer → List Offer
  | [] => [offer]
  | first :: rest =>
    -- Equal offers stay in the order in which they were made.
    if offer.cost < first.cost || (offer.cost == first.cost && offer.rank < first.rank) then
      offer :: first :: rest
    else first :: enqueue offer rest

/-- Reading got past an offset. -/
def passes (offset : Nat) (atEnd : Bool) : Outcome Unit → Bool
  | .done _ _ => true
  | .stuck snag => !atEnd && offset < snag.offset
  | .tooDeep => false

/-- The nearest place before a snag from which reading goes on at a lexeme, with the repairs that lead there and the
number of nodes that are given up. -/
def nearest? (dialect : Dialect) (text : List Char) (repairs : Repairs) (snag : Snag) (first resume : Span)
    (stop skipped : Nat) : Nat → Nat → Option (Repairs × Outcome Unit × Nat)
  | 0, _ => none
  | fuel + 1, count =>
    let given := snag.built.take count
    -- Going back farther than this does not pay.
    if count > snag.built.length || stepsBack given > 16 then none
    else
      let start := if count = 0 then first.start else ((snag.built[count - 1]?).map (·.span.start)).getD 0
      -- Something has to be given up or passed over, and the stretch must not be empty.
      if (skipped = 0 && count = 0) || stop ≤ start then
        nearest? dialect text repairs snag first resume stop skipped fuel (count + 1)
      else
        let passed := repairs.pass ⟨start, stop⟩ (lostIn given + skipped)
        -- Where nothing is passed over, the word at the snag counts as a name.
        let passed := if skipped = 0 then { passed with bare := passed.bare ++ [resume.start] } else passed
        let outcome := readWith dialect passed text
        -- The repairs count if reading gets past the lexeme where it was to go on.
        if passes resume.start (resume.size == 0) outcome then some (passed, outcome, count)
        else nearest? dialect text repairs snag first resume stop skipped fuel (count + 1)

/-- The marks that may be assumed. -/
def assumable : List String := ["name", "\x7d", ")", "]", ";"]

/-- The offers that follow from a snag. -/
def offersAt (text : List Char) (repairs : Repairs) (snag : Snag) (queue : List Offer) : List Offer :=
  let lexemes := looseLexemes (text.length + 1) (placeAt snag.offset text 0)
  let cost := repairs.cost text
  enqueue ⟨cost + 500, 0, .resuming repairs snag lexemes 0⟩ (enqueue ⟨cost + 610, 1, .assuming repairs snag⟩ queue)

/-- Look for the cheapest repairs. -/
def search (dialect : Dialect) (text : List Char) : Nat → List Offer → Option (List Cst)
  | 0, _ => none
  | _, [] => none
  | fuel + 1, offer :: queue =>
    match offer.trial with
    | .repaired repairs outcome =>
      match outcome with
      -- The whole text was read.
      | .done _ state => some state.built.reverse
      -- A new snag offers new repairs, beside those that were offered before.
      | .stuck snag => search dialect text fuel (offersAt text repairs snag queue)
      | .tooDeep => search dialect text fuel queue
    | .assuming repairs snag =>
      -- The word behind an assumed mark could be a keyword only if the mark were there.
      let isWord := match Lexeme.ahead (placeAt snag.offset text 0).rest with
        | .word _ => true
        | _ => false
      -- The first mark that leads past the snag is taken.
      let found := assumable.findSome? fun mark =>
        let assumed := { repairs with
          assumed := repairs.assumed ++ [(snag.offset, mark)]
          bare := if isWord then repairs.bare ++ [snag.offset] else repairs.bare }
        let outcome := readWith dialect assumed text
        if passes snag.offset (snag.offset == Text.byteSize text) outcome then some (assumed, outcome) else none
      match found with
      | some (assumed, outcome) =>
        search dialect text fuel (enqueue ⟨assumed.cost text, 1, .repaired assumed outcome⟩ queue)
      | none => search dialect text fuel queue
    -- The repairs for one lexeme are offered at once, and those for the next ones at a higher price.
    | .resuming repairs snag lexemes skipped =>
      match lexemes[skipped]?, lexemes.head? with
      | some resume, some first =>
        let stop := if skipped = 0 then ((snag.built.head?).map (·.span.stop)).getD 0
          else ((lexemes[skipped - 1]?).map (·.stop)).getD 0
        let queue := match nearest? dialect text repairs snag first resume stop skipped (snag.built.length + 1) 0 with
          | some (passed, outcome, count) =>
            enqueue ⟨passed.cost text, 1 + count, .repaired passed outcome⟩ queue
          | none => queue
        -- The price of going on grows with every lexeme that is skipped.
        let onward := repairs.cost text + 500 + 100 * (skipped + 1) + (resume.stop - first.start)
        search dialect text fuel (enqueue ⟨onward, 0, .resuming repairs snag lexemes (skipped + 1)⟩ queue)
      | _, _ => search dialect text fuel queue

/-- Every bracket of a text is closed, as far as that can be told without a parse. -/
def closesBrackets (text : List Char) : Bool :=
  Parse.behindBracket? (text.length + 2) 1 '(' (text ++ [')']) == some []

/-- The number of steps that the search takes at most. Longer texts get fewer of them. -/
def searchSteps (text : List Char) : Nat := min 400 (800000 / (text.length + 1))

/-- Read a text. Where nothing can be saved the root itself is damage. -/
def read (dialect : Dialect) (text : List Char) : Reading :=
  match readWith dialect {} text with
  -- Most texts are without damage.
  | .done _ state => .tree (rootOf text state.built.reverse)
  | .tooDeep =>
    -- A text with all brackets closed is refused for its depth; otherwise its depth comes from the damage.
    if closesBrackets text then .tooDeep else .tree (.mk { role := .error, span := rootSpan text } [])
  | .stuck snag =>
    match search dialect text (searchSteps text) (offersAt text {} snag []) with
    | some parts => .tree (rootOf text parts)
    -- No repairs were found, and nothing of the text is saved.
    | none => .tree (.mk { role := .error, span := rootSpan text } [])

/-- The syntax of scripts with these repairs. -/
instance : Syntax := ⟨read⟩

end LayerAudit.Script
