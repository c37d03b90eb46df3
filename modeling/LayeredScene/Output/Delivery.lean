import LayeredScene.Compilation.Render
import LayeredScene.Failure
import LayeredScene.Files.Host
import LayeredScene.Glb.Container
import LayeredScene.Output.Format

/-! # Delivering a compilation

In every format but one a compilation becomes one piece of output.  As GLB it becomes a file per
object, and several files have numbers in their names.  The pieces are settled before the first one
is written, and writing stops at the first that cannot be written. -/

namespace LayeredScene

/-- Bytes and the file they are for; without a file they are for standard output. -/
structure Delivery where
  target : Option Path
  bytes : List UInt8
deriving DecidableEq

/-- The path of the GLB file of one of several objects, which are counted from zero. -/
def Glb.filePath (out : Path) (index count : Nat) : Path :=
  if count ≤ 1 then out
  else
    let stem := (out.fileName?.map fun name => String.ofList (Path.stem name)).getD "scene"
    out.withFileName (stem ++ "-" ++ toString (index + 1) ++ ".glb")

namespace Delivery

variable {m : Type → Type} [Monad m]

def send (host : Host m) (d : Delivery) : ExceptT Failure m Unit := do
  match d.target with
  | some path =>
    unless ← host.writeFile path d.bytes do
      throw (.inaccessible path)
  | none =>
    unless ← host.print d.bytes do
      throw (.inaccessible ⟨"<stdout>"⟩)

def sendAll (host : Host m) : List Delivery → ExceptT Failure m Unit
  | [] => return
  | d :: rest => do
    d.send host
    sendAll host rest

end Delivery

namespace Compilation

def deliveries (c : Compilation) (format : OutputFormat) (out : Option Path)
    (layout : Json.Layout) : Except Failure (List Delivery) :=
  match format with
  | .json => .ok [⟨out, utf8 (c.jsonText layout ++ "\n")⟩]
  | .vls => .ok [⟨out, utf8 (c.outlineText ++ "\n")⟩]
  | .summary => .ok [⟨out, utf8 c.summaryText⟩]
  | .glb =>
    match out with
    | none => .error .noOutputPath
    | some out =>
      .ok (c.objects.zipIdx.map fun (o, k) =>
        ⟨some (Glb.filePath out k c.objects.length), Glb.ofScene o.scene⟩)

def deliver {m : Type → Type} [Monad m] (host : Host m) (c : Compilation) (format : OutputFormat)
    (out : Option Path) (layout : Json.Layout) : ExceptT Failure m Unit := do
  let pieces ← c.deliveries format out layout
  Delivery.sendAll host pieces

end Compilation

end LayeredScene
