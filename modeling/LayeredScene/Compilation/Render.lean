import LayeredScene.Compilation.Basic
import LayeredScene.Scene.Json

/-! # Compilations as text

A compilation is written as the JSON of its scenes, as the outlines of its objects, or as a summary
for people. -/

namespace LayeredScene

def Precision.title : Precision → String
  | standard => "Standard"
  | medical => "Medical"

def padRight (width : Nat) (s : String) : String :=
  s ++ String.ofList (List.replicate (width - s.length) ' ')

def padLeft (width : Nat) (s : String) : String :=
  String.ofList (List.replicate (width - s.length) ' ') ++ s

namespace Compilation

/-- The scenes as JSON: a single one by itself, any other number in a list. -/
def toJson (c : Compilation) : Json :=
  match c.objects with
  | [o] => Scene.codec.write o.scene
  | objects => .list (objects.map fun o => Scene.codec.write o.scene)

def jsonText (c : Compilation) (layout : Json.Layout) : String :=
  c.toJson.render layout

def outlineText (c : Compilation) : String :=
  "\n".intercalate (c.objects.map (·.outline))

def summarizeObject (o : Object) : String :=
  o.objectType ++ " (" ++ (if o.isComposite then "layered composite" else "object") ++ ", " ++
    o.precision.title ++ " precision): " ++ toString o.layerCount ++ " layer(s), " ++
    toString o.statementCount ++ " statement(s)\n"

/-- The number of vertices of the bodies of a layer. -/
def layerVertices (s : Scene) (l : LayerNode) : Nat :=
  (l.children.filterMap fun m => s.geometry? m.geometry).foldl
    (fun total g => total + g.vertexCount) 0

def summarizeLayer (s : Scene) (l : LayerNode) : String :=
  "  " ++ padRight 16 l.name ++ " " ++ padLeft 3 (toString l.children.length) ++ " mesh(es) " ++
    padLeft 7 (toString (layerVertices s l)) ++ " vertices" ++
    (if l.info.toggleable then "  [toggleable]" else "") ++ "\n"

/-- The objects with their layers, and the lines that were dropped. -/
def summaryText (c : Compilation) : String :=
  let objects := c.objects.map fun o =>
    summarizeObject o.object ++ String.join (o.scene.root.children.map (summarizeLayer o.scene))
  let dropped := c.dropped.map fun d => "  " ++ d.message ++ "\n"
  String.join objects ++
    if dropped.isEmpty then ""
    else toString dropped.length ++ " line(s) dropped:\n" ++ String.join dropped

end Compilation

end LayeredScene
