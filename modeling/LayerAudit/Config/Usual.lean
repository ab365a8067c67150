import LayerAudit.Text.Basic

/-! The configuration document that a new project starts with. It states all usual settings. -/

namespace LayerAudit.Config

/-- The lines of the usual document. -/
def usualLines : List String :=
  ["# Adherence - Architecture Adherence Configuration",
   "",
   "[project]",
   "include = [\"src/**/*.\x7bjs,mjs,ts,vue,json,css\x7d\", \"public/data/**/*.\x7bjson,webp\x7d\"]",
   "exclude = [\"**/node_modules/**\"]",
   "source_extensions = [\"js\", \"mjs\", \"ts\", \"vue\"]",
   "",
   "[project.aliases]",
   "\"@/\" = \"src/\"",
   "",
   "[conventions]",
   "shared_ui_prefix = \"src/shared/ui/\"",
   "features_prefix = \"src/features/\"",
   "pages_prefix = \"src/pages/\"",
   "store_suffixes = [\"Store\", \".store\", \"-store\"]",
   "store_factory = \"defineStore\"",
   "store_hook_pattern = '^use[A-Z]\\w*Store$'",
   "props_macro = \"defineProps\"",
   "emits_macro = \"defineEmits\"",
   "",
   "# Layers ordered by rank: 0 is the most foundational.",
   "# A file belongs to the layer with the longest matching prefix.",
   "[[layers]]",
   "name = \"shared\"",
   "rank = 0",
   "prefix = \"src/shared/\"",
   "",
   "[[layers]]",
   "name = \"entities\"",
   "rank = 1",
   "prefix = \"src/entities/\"",
   "",
   "[[layers]]",
   "name = \"features\"",
   "rank = 2",
   "prefix = \"src/features/\"",
   "",
   "[[layers]]",
   "name = \"widgets\"",
   "rank = 3",
   "prefix = \"src/widgets/\"",
   "",
   "[[layers]]",
   "name = \"pages\"",
   "rank = 4",
   "prefix = \"src/pages/\"",
   "",
   "[[layers]]",
   "name = \"app\"",
   "rank = 5",
   "prefix = \"src/app/\"",
   "",
   "# Placement rules: the first rule matching a file's kind and purpose applies.",
   "[[placement]]",
   "file_kind = \"UIComponent\"",
   "purpose = \"UI Primitive\"",
   "pattern = '^src/shared/ui/'",
   "",
   "[[placement]]",
   "file_kind = \"UIComponent\"",
   "purpose = \"Feature Implementation\"",
   "pattern = '^src/features/[^/]+/ui/'",
   "",
   "[[placement]]",
   "file_kind = \"UIComponent\"",
   "purpose = \"Page Layout\"",
   "pattern = '^src/pages/[^/]+/ui/'",
   "",
   "[[placement]]",
   "file_kind = \"StateStore\"",
   "purpose = \"Business Entity State\"",
   "pattern = '^src/(entities|features)/[^/]+/model/'",
   "",
   "[[placement]]",
   "file_kind = \"RouterConfig\"",
   "purpose = \"Application Routing\"",
   "pattern = '^src/app/router/'",
   "",
   "[[placement]]",
   "file_kind = \"EntryPoint\"",
   "purpose = \"Application Entry Point\"",
   "pattern = '^src/app/main\\.(js|mjs|ts)$'",
   "",
   "# Layers each layer may import from. A layer may always import from itself.",
   "[dependencies]",
   "shared = [\"shared\"]",
   "entities = [\"shared\", \"entities\"]",
   "features = [\"shared\", \"entities\", \"features\"]",
   "widgets = [\"shared\", \"entities\", \"features\", \"widgets\"]",
   "pages = [\"shared\", \"entities\", \"features\", \"widgets\", \"pages\"]",
   "app = [\"shared\", \"entities\", \"features\", \"widgets\", \"pages\", \"app\"]",
   "",
   "[rules]",
   "deduplicate_dependency_violations = false",
   "",
   "[rules.severities]",
   "placement = \"warning\"",
   "dependency = \"error\"",
   "parsing = \"warning\"",
   "read = \"error\"",
   "",
   "[report]",
   "schema = \"./adherence-protocol.schema.json\"",
   "protocol = \"architecture-adherence-protocol\"",
   "version = \"1.0.0\"",
   "output = \"scripts/architecture/adherence-protocol.json\"",
   ""]

/-- The usual document. -/
def usualText : String := Text.joinWith "\n" usualLines

end LayerAudit.Config
