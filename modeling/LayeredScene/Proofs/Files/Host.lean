import LayeredScene.Failure
import LayeredScene.Files.Host
import LayeredScene.Proofs.Files.Writing

/-! # Hosts and runs

What a program does to the world depends on its host.  `WritesWholeFiles` is the most that is asked
of a host, and `World.host` is one of them.  Where only what has worked matters, it is enough that
the files are there which the host reports as written (`WritesFiles`).
-/

namespace LayeredScene

/-! ## Runs that can fail -/

section

variable {α β : Type} {x : ExceptT Failure (StateM World) α} {w w' : World}

theorem run_bind_ok {a : α} (h : x.run w = (.ok a, w')) (f : α → ExceptT Failure (StateM World) β) :
    (x >>= f).run w = (f a).run w' := by
  change ExceptT.bindCont f (x.run w).1 (x.run w).2 = _
  rw [h]
  rfl

theorem run_bind_error {e : Failure} (h : x.run w = (.error e, w'))
    (f : α → ExceptT Failure (StateM World) β) : (x >>= f).run w = (.error e, w') := by
  change ExceptT.bindCont f (x.run w).1 (x.run w).2 = _
  rw [h]
  rfl

/-- Two steps work if the first one works and then the second. -/
theorem exists_of_run_bind_ok {f : α → ExceptT Failure (StateM World) β} {b : β}
    (h : (x >>= f).run w = (.ok b, w')) :
    ∃ a w₁, x.run w = (.ok a, w₁) ∧ (f a).run w₁ = (.ok b, w') := by
  cases result : x.run w with
  | mk r w₁ =>
    cases r with
    | ok a => exact ⟨a, w₁, rfl, (run_bind_ok result f).symm.trans h⟩
    | error e =>
      rw [run_bind_error result] at h
      cases h

/-- The action changes nothing, whether it works or fails. -/
def Reads (x : ExceptT Failure (StateM World) α) : Prop := ∀ w, (x.run w).2 = w

theorem Reads.run_eq (hx : Reads x) {r : Except Failure α} (result : (x.run w).1 = r) :
    x.run w = (r, w) :=
  Prod.ext result (hx w)

theorem Reads.bind {f : α → ExceptT Failure (StateM World) β} (hx : Reads x)
    (hf : ∀ a, Reads (f a)) : Reads (x >>= f) := by
  intro w
  have same := hx w
  cases result : x.run w with
  | mk r w' =>
    rw [result] at same
    obtain rfl : w' = w := same
    cases r with
    | ok a =>
      rw [run_bind_ok result]
      exact hf a w'
    | error e => rw [run_bind_error result]

theorem Reads.of_pure (r : Except Failure α) :
    Reads (ExceptT.mk (pure r) : ExceptT Failure (StateM World) α) := fun _ => rfl

theorem Reads.of_lift {x : StateM World α} (hx : ∀ w, (x w).2 = w) :
    Reads (ExceptT.lift x : ExceptT Failure (StateM World) α) := fun w => hx w

end

/-! ## Hosts -/

/-- A host that acts on a world as a file system does: reading changes nothing, and what is printed
    or written to a file arrives as a whole or not at all.  It may refuse to read, to print or to
    write for whatever reason. -/
structure Host.WritesWholeFiles (host : Host (StateM World)) : Prop where
  readFile : ∀ p w, (host.readFile p w).2 = w
  readInput : ∀ w, (host.readInput w).2 = w
  readPreferences : ∀ w, (host.readPreferences w).2 = w
  print : ∀ bytes w, host.print bytes w = (false, w) ∨
    host.print bytes w = (true, { w with screen := w.screen ++ bytes })
  writeFile : ∀ p bytes w, host.writeFile p bytes w = (false, w) ∨
    ∃ store, w.store.write p bytes = some store ∧
      host.writeFile p bytes w = (true, { w with store })

/-- A file that the host reports as written has been, and then nothing else is different.  What
    the host does when it fails is left open. -/
def Host.WritesFiles (host : Host (StateM World)) : Prop :=
  ∀ p bytes w w', host.writeFile p bytes w = (true, w') →
    ∃ store, w.store.write p bytes = some store ∧ w' = { w with store }

/-- What the host reports as written to a path is what it reads there next. -/
def Host.Remembers (host : Host (StateM World)) : Prop :=
  ∀ p bytes w w', host.writeFile p bytes w = (true, w') → (host.readFile p w').1 = some bytes

theorem Host.WritesWholeFiles.writesFiles {host : Host (StateM World)}
    (whole : host.WritesWholeFiles) : host.WritesFiles := by
  intro p bytes w w' done
  obtain refused | ⟨store, written, succeeds⟩ := whole.writeFile p bytes w
  · rw [refused] at done
    cases done
  · exact ⟨store, written, (Prod.mk.inj (succeeds.symm.trans done)).2.symm⟩

theorem World.writesWholeFiles_host : World.host.WritesWholeFiles where
  readFile _ _ := rfl
  readInput _ := rfl
  readPreferences _ := rfl
  print _ _ := .inr rfl
  writeFile p bytes w := by
    change World.writeFile p bytes w = _ ∨ ∃ store, _ ∧ World.writeFile p bytes w = _
    unfold World.writeFile
    cases w.store.write p bytes with
    | none => exact .inl rfl
    | some store => exact .inr ⟨store, rfl, rfl⟩

theorem World.remembers_host : World.host.Remembers := by
  intro p bytes w w' done
  obtain ⟨store, written, rfl⟩ := writesWholeFiles_host.writesFiles p bytes w w' done
  exact Store.read_of_write written

end LayeredScene
