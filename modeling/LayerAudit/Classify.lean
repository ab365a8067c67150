import LayerAudit.Config.Basic
import LayerAudit.Path

/-! What a file is for: its kind and its purpose are read off its path alone. -/

namespace LayerAudit.Conventions

/-- The stem and the extension of a file name; a name that starts with its last dot has no extension. -/
def splitName (name : String) : String × String :=
  match Text.cutLast? '.' name.toList with
  | none | some ([], _) => (name, "")
  | some (stem, extension) => (String.ofList stem, String.ofList extension)

/-- A stem ends in a store suffix and is longer than it. -/
def isStoreStem (conventions : Conventions) (stem : String) : Bool :=
  conventions.storeSuffixes.any fun suffix =>
    suffix.utf8ByteSize < stem.utf8ByteSize && Text.isEndOf suffix stem

/-- The kind of a script file, by the directories above it. -/
def scriptKind (conventions : Conventions) (path stem : String) : FileKind :=
  -- A path without a directory in front counts as if it lay in one.
  let rooted := '/' :: path.toList
  if Text.occursIn "/model/".toList rooted && conventions.isStoreStem stem then .stateStore
  else if Text.occursIn "/app/router".toList rooted then .routerConfig
  else if Text.occursIn "/app/main".toList rooted then .entryPoint
  else .utility

/-- The kind of the file at a path. -/
def kindOf (conventions : Conventions) (path : String) : FileKind :=
  let path := Text.slashed path
  let (stem, extension) := splitName (Path.lastSegment path)
  match String.ofList (Text.smallLatin extension.toList) with
  | "vue" => .uiComponent
  | "css" => .styleSheet
  -- Of a script the extension says too little, so that its directories are asked, too.
  | "js" | "mjs" | "ts" => scriptKind conventions path stem
  | "json" => .staticData
  | "webp" | "jpg" | "jpeg" | "gif" | "png" | "pdf" => .binaryAsset
  | _ => .other

/-- The purpose of a file for which no convention names one. -/
def plainPurpose (path : String) : String := "Represents artifact at " ++ path

/-- The purpose of a file of some kind at a path. -/
def purposeOf (conventions : Conventions) (kind : FileKind) (path : String) : String :=
  match kind with
  | .uiComponent =>
    -- The directories lie apart by the usual settings; otherwise the first one that begins the path counts.
    if Text.isStartOf conventions.sharedUi path then "UI Primitive"
    else if Text.isStartOf conventions.features path then "Feature Implementation"
    else if Text.isStartOf conventions.pages path then "Page Layout"
    else plainPurpose path
  | .stateStore => "Business Entity State"
  | .routerConfig => "Application Routing"
  | .entryPoint => "Application Entry Point"
  | _ => plainPurpose path

end LayerAudit.Conventions
