import ImportPolicy.Value.Basic

/-! # Layers of configuration

A layer is a mapping that is put over another one. Where both hold a mapping at a key, these are
put over each other in turn; elsewhere the upper layer wins.

* `Config.layerValue` — what a value becomes where another one lay before.
* `Config.layer` — a mapping with another one over it. -/

namespace ImportPolicy.Config

mutual

/-- A value that is put where another one may lie. -/
def layerValue (below : Option Value) : Value → Value
  | .map entries =>
    match below with
    | some (.map base) => .map (layer base entries)
    | _ => .map entries
  | v => v

/-- A mapping with the entries of another one over its own. A key keeps its place, and new keys
    come at the end. -/
def layer (base : Mapping) : List (Value × Value) → Mapping
  | [] => base
  | (key, value) :: rest => layer (base.put key (layerValue (base.get? key) value)) rest

end

@[simp] theorem layer_nil (base : Mapping) : layer base [] = base := by simp [layer]

end ImportPolicy.Config
