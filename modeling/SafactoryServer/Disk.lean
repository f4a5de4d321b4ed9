import SafactoryServer.Backend
import SafactoryServer.Storage

/-! A shared storage on which no call fails that can succeed, and which `bind` has for itself. -/

namespace SafactoryServer

open Effect FileTree FileTree.Tree

/-- The sources of the ranges, the names that `mkdtemp` chooses, and what the file system takes as
the name of a file. -/
structure Disk where
  catalog : RealCatalog
  readYaml : String → Except Fault Value
  readBytes : String → Except Fault Bytes
  isFileBeside : String → String → Except Fault Bool
  iterdirBeside : String → Except Fault (List SourceItem)
  temporary : Files → Path → String
  takes : String → Bool

namespace Disk

variable (disk : Disk)

/-- No file stands at or above the path, and the file system takes its names. -/
def Open (s : Files) (path : Path) : Prop :=
  (∀ p, p <+: path → s p = none ∨ s p = some .dir) ∧ path.all disk.takes

/-- A file may be written at the path. -/
def Writable (s : Files) (path : Path) : Prop :=
  s path.dropLast = some .dir ∧ s path ≠ some .dir ∧ path.all disk.takes

/-- A directory may be made at the path. -/
def Makable (s : Files) (path : Path) : Prop :=
  s path.dropLast = some .dir ∧ s path = none ∧ path.all disk.takes

open Classical in
/-- What a call that changes the storage answers, and leaves: it does its work if it can. -/
noncomputable def attempts {α : Type} (can : Prop) (answer : α) (s' s : Files) :
    Except Fault α × Files :=
  if can then (.ok answer, s') else (.error .os, s)

/-- What a call answers, and leaves of the storage. -/
noncomputable def answer : (e : FileOp) → Files → FileAns e × Files
  | .request, s => (("", ""), s)
  | .catalog, s => (disk.catalog, s)
  | .readYaml source, s => (disk.readYaml source, s)
  | .readBytes source, s => (disk.readBytes source, s)
  | .isFileBeside source file, s => (disk.isFileBeside source file, s)
  | .iterdirBeside source, s => (disk.iterdirBeside source, s)
  | .exists path, s => ((s path).isSome, s)
  | .readText path, s =>
    match s path with
    | some (.file (.json document)) => (.ok document, s)
    | _ => (.error .os, s)
  | .mkdirs path existOk, s =>
    attempts (disk.Open s path ∧ (existOk = false → s path = none)) () (s.makeDirs path) s
  | .mkdir path, s => attempts (disk.Makable s path) () (s.put path .dir) s
  | .mkdtemp dir, s =>
    let path := stagingPath dir (disk.temporary s dir)
    attempts (s dir = some .dir ∧ s.under path = absent ∧ path.all disk.takes) path
      (s.put path .dir) s
  | .write path content, s => attempts (disk.Writable s path) () (s.put path (.file content)) s
  | .copytree path tree, s => attempts (disk.Makable s path) () (s.graft path tree) s
  | .replace src dst, s =>
    attempts (s src = some .dir ∧ (s.under dst = absent ∨ s.under dst = emptyDir)) ()
      (s.move src dst) s
  | .rmtree path, s => ((), s.graft path absent)

section

variable {disk : Disk} {W : Surroundings} {s s' : Files} {α : Type}

theorem attempts_pos {can : Prop} {a : α} (h : can) : attempts can a s' s = (.ok a, s') :=
  if_pos h

theorem attempts_cases {can : Prop} {a : α} {P : Except Fault α × Files → Prop}
    (hok : can → P (.ok a, s')) (herror : P (.error .os, s)) : P (attempts can a s' s) := by
  unfold attempts
  split
  · next h => exact hok h
  · exact herror

/-- Such a storage does what a shared storage may do. -/
theorem answer_performs (hcatalog : W.catalogs disk.catalog) (e : FileOp) (s : Files) :
    performs W e s (disk.answer e s).1 (disk.answer e s).2 := by
  cases e with
  | request | readYaml | readBytes | isFileBeside | iterdirBeside => rfl
  | catalog => exact ⟨hcatalog, rfl⟩
  | «exists» path => exact ⟨rfl, rfl⟩
  | readText path =>
    simp only [answer]
    split
    · next document hfile =>
      refine ⟨fun document' h => ?_, rfl⟩
      rw [hfile] at h
      cases h
      rfl
    · next hother => exact ⟨fun document h => absurd h (hother document), rfl⟩
  | mkdirs path existOk =>
    exact attempts_cases (P := fun r => performs W (.mkdirs path existOk) s r.1 r.2)
      (fun h => ⟨h.1.1, h.2, rfl⟩) fun p => .inl rfl
  | mkdir path =>
    exact attempts_cases (P := fun r => performs W (.mkdir path) s r.1 r.2)
      (fun h => ⟨h.2.1, h.1, rfl⟩) rfl
  | mkdtemp dir =>
    exact attempts_cases (P := fun r => performs W (.mkdtemp dir) s r.1 r.2)
      (fun h => ⟨⟨_, rfl⟩, h.1, h.2.1, rfl⟩) rfl
  | write path content =>
    exact attempts_cases (P := fun r => performs W (.write path content) s r.1 r.2)
      (fun h => ⟨h.1, h.2.1, rfl⟩) fun p _ => rfl
  | copytree path tree =>
    exact attempts_cases (P := fun r => performs W (.copytree path tree) s r.1 r.2)
      (fun h => ⟨h.1, h.2.1, rfl⟩) fun p _ => rfl
  | replace src dst =>
    exact attempts_cases (P := fun r => performs W (.replace src dst) s r.1 r.2)
      (fun h => ⟨h.1, h.2, rfl⟩) rfl
  | rmtree path =>
    refine ⟨fun p hp => if_neg hp, fun p => ?_, fun _ => under_graft_self⟩
    by_cases hp : path <+: p
    · exact .inr (if_pos hp)
    · exact .inl (if_neg hp)

/-- What a task does on such a storage is an execution on the shared storage. -/
theorem exec {root : Path} {jobId : String} {p : FileTask α} {r : Except BindExc α}
    (hcatalog : W.catalogs disk.catalog) (h : p.run disk.answer s = (r, s')) :
    Exec (storage root W jobId) p s r s' := by
  have hexec := Exec.ofRun (S := storage root W jobId) (answer_performs hcatalog) p s
  have hr : Program.run disk.answer p s = (r, s') := h
  rwa [hr] at hexec

end

end Disk

end SafactoryServer
