import SafactoryServer.Effect.Coupled
import SafactoryServer.FileManager

/-! The shared storage under the calls of `bind`: what each call may answer and leave, what the rest
of the world may change meanwhile, and which parts of the storage a call spares. -/

namespace SafactoryServer

open Effect FileTree FileTree.Tree

/-- What `bind` meets: the catalogs that the Range YAML may hold, and whether `shutil.rmtree`, whose
errors are ignored, removes all. -/
structure Surroundings where
  catalogs : RealCatalog → Prop
  cleans : Prop

/-- Any catalog, and nothing promised of `rmtree`. -/
def Surroundings.any : Surroundings := ⟨fun _ => True, False⟩

/-- A directory of `mkdtemp(prefix=".input-")`. -/
def stagingPath (dir : Path) (name : String) : Path := dir ++ [".input-" ++ name]

/-- What a call may answer, and leave of the storage.  A call that fails may have done a part of its
work; what is read of the sources is up to the world. -/
def performs (W : Surroundings) : (e : FileOp) → Files → FileAns e → Files → Prop
  | .catalog, s, catalog, s' => W.catalogs catalog ∧ s' = s
  | .request, s, _, s' | .readYaml _, s, _, s' | .readBytes _, s, _, s'
  | .isFileBeside _ _, s, _, s' | .iterdirBeside _, s, _, s' => s' = s
  | .exists path, s, answer, s' => answer = (s path).isSome ∧ s' = s
  | .readText path, s, answer, s' =>
    (∀ document, s path = some (.file (.json document)) → answer = .ok document) ∧ s' = s
  | .mkdirs path existOk, s, .ok _, s' =>
    (∀ p, p <+: path → s p = none ∨ s p = some .dir) ∧ (existOk = false → s path = none) ∧
      s' = s.makeDirs path
  | .mkdirs path _, s, .error _, s' =>
    ∀ p, s' p = s p ∨ s p = none ∧ p <+: path ∧ s' p = some .dir
  | .mkdir path, s, .ok _, s' => s path = none ∧ s path.dropLast = some .dir ∧ s' = s.put path .dir
  | .mkdir _, s, .error _, s' => s' = s
  | .mkdtemp dir, s, .ok path, s' =>
    (∃ name, path = stagingPath dir name) ∧ s dir = some .dir ∧ s.under path = absent ∧
      s' = s.put path .dir
  | .mkdtemp _, s, .error _, s' => s' = s
  | .write path content, s, .ok _, s' =>
    s path.dropLast = some .dir ∧ s path ≠ some .dir ∧ s' = s.put path (.file content)
  | .copytree path tree, s, .ok _, s' =>
    s path.dropLast = some .dir ∧ s path = none ∧ s' = s.graft path tree
  | .write path _, s, .error _, s' | .copytree path _, s, .error _, s' => SameOff path s s'
  | .replace src dst, s, .ok _, s' =>
    s src = some .dir ∧ (s.under dst = absent ∨ s.under dst = emptyDir) ∧ s' = s.move src dst
  | .replace _ _, s, .error _, s' => s' = s
  | .rmtree path, s, _, s' =>
    SameOff path s s' ∧ (∀ p, s' p = s p ∨ s' p = none) ∧ (W.cleans → s'.under path = absent)

/-- The storage below `root`, of which the rest of the world leaves the directory of the Job `jobId`
and the staging directories alone.  A crash loses nothing of it. -/
def storage (root : Path) (W : Surroundings) (jobId : String) : System FileOp FileAns Files where
  performs := performs W
  interferes s s' := s'.under (root ++ [jobId]) = s.under (root ++ [jobId]) ∧
    ∀ name, s'.under (stagingPath root name) = s.under (stagingPath root name)
  crashes s s' := s' = s

/-- The call changes nothing at or below `area`. -/
def Spares (area : Path) : FileOp → Prop
  | .mkdirs path _ => ¬ area <+: path
  | .mkdir path | .write path _ | .copytree path _ | .rmtree path => Apart path area
  | .mkdtemp dir => ∀ name, Apart (stagingPath dir name) area
  | .replace src dst => Apart src area ∧ Apart dst area
  | _ => True

section

variable {root : Path} {W : Surroundings} {jobId : String} {s s' : Files} {area : Path}

theorem makeDirs_under {path : Path} (h : ¬ area <+: path)
    (hp : ∀ p, s' p = s p ∨ s p = none ∧ p <+: path ∧ s' p = some .dir) :
    s'.under area = s.under area := by
  refine funext fun p => (hp (area ++ p)).resolve_right fun ⟨_, hprefix, _⟩ => h ?_
  exact (List.prefix_append area p).trans hprefix

/-- What a call spares is left as it was. -/
theorem performs_under {e : FileOp} {r : FileAns e} (h : Spares area e)
    (hp : performs W e s r s') : s'.under area = s.under area := by
  cases e with
  | request | readYaml | readBytes | isFileBeside | iterdirBeside => rw [hp]
  | catalog | «exists» | readText => rw [hp.2]
  | mkdirs path existOk =>
    cases r with
    | ok => rw [hp.2.2, under_makeDirs h]
    | error => exact makeDirs_under h hp
  | mkdir path =>
    cases r with
    | ok => rw [hp.2.2, under_put h.right]
    | error => rw [hp]
  | mkdtemp dir =>
    cases r with
    | ok path =>
      obtain ⟨⟨name, rfl⟩, -, -, rfl⟩ := hp
      exact under_put (h name).right
    | error => rw [hp]
  | write path content =>
    cases r with
    | ok => rw [hp.2.2, under_put h.right]
    | error => exact hp.under h
  | copytree path tree =>
    cases r with
    | ok => rw [hp.2.2, under_graft h]
    | error => exact hp.under h
  | replace src dst =>
    cases r with
    | ok => rw [hp.2.2, under_move h.1 h.2]
    | error => rw [hp]
  | rmtree path => exact hp.1.under h

/-- What a call does, it may do in any surroundings. -/
theorem performs_any {e : FileOp} {r : FileAns e} (h : performs W e s r s') :
    performs .any e s r s' := by
  cases e with
  | catalog => exact ⟨trivial, h.2⟩
  | rmtree path => exact ⟨h.1, h.2.1, fun hcleans => hcleans.elim⟩
  | request | readYaml | readBytes | isFileBeside | iterdirBeside | «exists» | readText | mkdir
  | mkdirs | mkdtemp | write | copytree | replace => cases r <;> exact h

/-- What is left alone while a call waits. -/
theorem waits_under (h : (storage root W jobId).Waits s s') :
    s'.under (root ++ [jobId]) = s.under (root ++ [jobId]) ∧
      ∀ name, s'.under (stagingPath root name) = s.under (stagingPath root name) := by
  induction h with
  | refl => exact ⟨rfl, fun _ => rfl⟩
  | tail _ hstep ih =>
    exact ⟨hstep.1.trans ih.1, fun name => (hstep.2 name).trans (ih.2 name)⟩

end

end SafactoryServer
