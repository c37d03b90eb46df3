import LayeredScene.Scene.Basic
import LayeredScene.Scene.ResourceName
import LayeredScene.Mesh.OfStatement

/-! # The scene of an object

Every statement gives one geometry, one material and one mesh node, numbered in the order of the
statements; every layer gives one layer node. -/

namespace LayeredScene

/-- The largest number of vertices that indices of 16 bits can tell apart. -/
def shortIndexLimit : Nat := 65536

/-- The type of array that indices of a mesh are kept in. -/
def indexArrayType (vertexCount : Nat) : String :=
  if vertexCount ≤ shortIndexLimit then "Uint16Array" else "Uint32Array"

def SceneGeometry.ofMesh (uuid : String) (m : Mesh) : SceneGeometry :=
  { uuid
    kind := "BufferGeometry"
    name := m.shape.keyword
    positions :=
      { itemSize := 3, kind := "Float32Array", values := m.positions, normalized := false }
    indices := { kind := indexArrayType m.vertices.length, values := m.corners } }

def SceneMaterial.ofMaterial (uuid : String) (m : Material) : SceneMaterial :=
  { uuid
    kind := "MeshStandardMaterial"
    name := m.name
    color := m.color
    roughness := m.roughness
    metalness := m.metalness
    transparent := m.isTransparent
    opacity := m.opacity }

/-- What is said of a layer, with what is known of its name. -/
def LayerInfo.ofName (layer : String) (toggleable : Bool) : LayerInfo :=
  let known := LayerKind.ofName? layer
  { layer, toggleable
    depth := known.map (·.depth)
    purpose := known.bind (·.purpose)
    color := known.bind (·.color)
    opacity := known.bind (·.opacity) }

namespace Scene

def sceneVersion : Float32 := 4.5

def maker : String := "GENE Compiler"

def geometryId (o : Object) (block ordinal : Nat) : String :=
  ResourceName.uuid ⟨o.objectType, block, "geometry", ordinal⟩

def materialId (o : Object) (block ordinal : Nat) : String :=
  ResourceName.uuid ⟨o.objectType, block, "material", ordinal⟩

def bodyNode (o : Object) (block ordinal : Nat) (s : Statement) : BodyNode :=
  { kind := "Mesh"
    name := s.label
    geometry := geometryId o block ordinal
    material := materialId o block ordinal
    transform := .placed s.position s.rotation }

/-- The meshes of statements in order, made side by side or one after the other. -/
def generateAll (statements : List Statement) (settings : Settings) :
    Except RangeOverflow (List Mesh) :=
  let make (s : Statement) := Mesh.ofStatement s settings.mesh
  if settings.output.parallel then
    let tasks := statements.map fun s => Task.spawn fun _ => make s
    tasks.mapM Task.get
  else
    statements.mapM make

/-- What has been placed: a geometry and a material for every statement, the nodes, and the meshes
that are left for what comes after. -/
structure Placed (Node : Type) where
  geometries : List SceneGeometry
  materials : List SceneMaterial
  nodes : List Node
  left : List Mesh

/-- Places statements, of which the first has a given number.  Each takes the next of the meshes;
where the meshes run out, nothing more is placed. -/
def placeStatements (o : Object) (block : Nat) : Nat → List Statement → List Mesh → Placed BodyNode
  | _, [], meshes => ⟨[], [], [], meshes⟩
  | _, _ :: _, [] => ⟨[], [], [], []⟩
  | k, s :: ss, m :: meshes =>
    let rest := placeStatements o block (k + 1) ss meshes
    { rest with
      geometries := .ofMesh (geometryId o block k) m :: rest.geometries
      materials := .ofMaterial (materialId o block k) s.material :: rest.materials
      nodes := bodyNode o block k s :: rest.nodes }

/-- Places layers, of which the first statement has a given number.  A layer takes as many of the
meshes as it places statements, and leaves the others to the layers after it. -/
def placeLayers (o : Object) (block : Nat) : Nat → List Layer → List Mesh → Placed LayerNode
  | _, [], meshes => ⟨[], [], [], meshes⟩
  | k, l :: ls, meshes =>
    let placed := placeStatements o block k l.statements meshes
    let rest := placeLayers o block (k + placed.nodes.length) ls placed.left
    let node : LayerNode :=
      { kind := "Group"
        name := l.name
        info := .ofName l.name o.isComposite
        children := placed.nodes }
    { rest with
      geometries := placed.geometries ++ rest.geometries
      materials := placed.materials ++ rest.materials
      nodes := node :: rest.nodes }

/-- The scene of the object with a given number in its source. -/
def ofObject (o : Object) (block : Nat) (settings : Settings) : Except RangeOverflow Scene := do
  let meshes ← generateAll o.statements settings
  let placed := placeLayers o block 0 o.layers meshes
  return {
    header :=
      { version := sceneVersion
        kind := "Object"
        generator := maker
        objectType := o.objectType
        anatomical := o.isComposite
        layerCount := o.layerCount
        statementCount := o.statementCount
        precision := o.precision }
    geometries := placed.geometries
    materials := placed.materials
    root := { kind := "Group", name := o.objectType, children := placed.nodes } }

end Scene

end LayeredScene
