import LayeredScene.Text.Case

/-! # Output formats -/

namespace LayeredScene

inductive OutputFormat where
  /-- The scenes as JSON. -/
  | json
  /-- The outlines of the objects. -/
  | vls
  /-- A GLB file per object. -/
  | glb
  | summary
deriving DecidableEq

namespace OutputFormat

def name : OutputFormat → String
  | json => "json"
  | vls => "vls"
  | glb => "glb"
  | summary => "summary"

def all : List OutputFormat := [json, vls, glb, summary]

/-- The format with a name, in whatever case its letters are. -/
def ofName? (s : String) : Option OutputFormat :=
  all.find? (·.name == Text.lowerAscii s)

end OutputFormat

end LayeredScene
