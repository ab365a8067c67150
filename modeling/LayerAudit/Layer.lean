import LayerAudit.Config.Basic
import LayerAudit.Text.Basic

/-! The layer of a path: of all layers whose start begins the path, the one with the longest start. -/

namespace LayerAudit

/-- The layers of a run, sorted by rank, with forward slashes in their starts. -/
structure Layering where
  layers : List LayerSpec
  deriving DecidableEq, Repr, Inhabited

namespace Layering

/-- The layering of the given layers. Layers of one rank keep their order. -/
def ofSpecs (specs : List LayerSpec) : Layering :=
  ⟨(specs.map fun spec => { spec with start := Text.slashed spec.start }).mergeSort
    fun a b => a.rank ≤ b.rank⟩

/-- The better of the best layer so far and one more: only a strictly longer start wins. -/
def better (best : Option LayerSpec) (layer : LayerSpec) : Option LayerSpec :=
  match best with
  | some b => if layer.start.utf8ByteSize ≤ b.start.utf8ByteSize then some b else some layer
  | none => some layer

/-- The layer of a path. -/
def layerOf? (layering : Layering) (path : String) : Option LayerSpec :=
  let path := Text.slashed path
  (layering.layers.filter fun layer => Text.isStartOf layer.start path).foldl better none

end Layering

end LayerAudit
