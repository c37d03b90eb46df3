import LayeredScene.Object.Basic
import LayeredScene.Statement.Json

/-! # Objects as JSON

The layers are an object from names to statements, in their order. -/

namespace LayeredScene

namespace Precision

def name : Precision → String
  | standard => "standard"
  | medical => "medical"

def codec : Codec Precision :=
  .choice ([standard, medical].map fun p => (p.name, p)) name

end Precision

namespace Layer

/-- Sets the statements of a layer, which is a new one at the end if there is none of this name. -/
def set (layers : List Layer) (name : String) (statements : List Statement) : List Layer :=
  match layers with
  | [] => [⟨name, statements⟩]
  | l :: ls => if l.name = name then ⟨name, statements⟩ :: ls else l :: set ls name statements

def codec : Codec (List Layer) :=
  Statement.codec.list.members [] set fun layers => layers.map fun l => (l.name, l.statements)

end Layer

namespace Object

def record : Record (String × Bool × List Layer × Nat × Precision × Unit) :=
  .cons (.required "type" .text) <|
  .cons (.required "is_layered_composite" .bool) <|
  .cons (.required "layers" Layer.codec) <|
  .cons (.required "layer_count" .count) <|
  .cons (.defaulted "precision" Precision.codec .standard) .unit

def codec : Codec Object :=
  record.codec
    (fun (objectType, isComposite, layers, layerCount, precision, _) =>
      { objectType, isComposite, layers, layerCount, precision })
    (fun o => (o.objectType, o.isComposite, o.layers, o.layerCount, o.precision, ()))

end Object

end LayeredScene
