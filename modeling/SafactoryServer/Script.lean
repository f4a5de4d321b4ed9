import SafactoryServer.World
import Mathlib.Data.List.Sort

/-! Services that answer by functions, so that a pass can be run. -/

namespace SafactoryServer

open Effect

variable {P : Type}

/-- One answer to each call about something outside the control store. -/
structure Script (P : Type) where
  create : P → RJobSpec → Except PyExc String × P
  get : P → String → Except PyExc RJobSnapshot × P
  stop : P → String → Except PyExc Unit × P
  ready : P → String → String → Except PyExc Bool × P
  bind : P → String → String → Except PyExc JobFileBinding × P

namespace Script

variable (sc : Script P)

/-- The services that answer so, with a clock that never goes back. -/
def services : Services P where
  create p spec answer p' := sc.create p spec = (answer, p')
  get p rjobId answer p' := sc.get p rjobId = (answer, p')
  stop p rjobId answer p' := sc.stop p rjobId = (answer, p')
  ready p url path answer p' := sc.ready p url path = (answer, p')
  bind p jobId rangeId answer p' := sc.bind p jobId rangeId = (answer, p')
  drift _ _ := False
  tick now later := now ≤ later
  mints _ := True

/-- The answer to a call outside the control store, recorded. -/
def remote (w : World P) (e : Op) (result : Ans e × P) : Ans e × World P :=
  (result.1, { w with platform := result.2 }.record e result.1)

/-- The answer to a call and the world after it. -/
def answer : (e : Op) → World P → Ans e × World P
  | .now, w => (w.clock, w)
  | .listActive, w =>
    let rows := w.jobs.activeRows.insertionSort (·.createdAt ≤ ·.createdAt)
    (rows, w.record .listActive rows)
  | .listCleanupPending, w =>
    let rows := w.jobs.cleanupPendingRows.insertionSort (·.updatedAt ≤ ·.updatedAt)
    (rows, w.record .listCleanupPending rows)
  | .get jobId, w => (w.jobs.find jobId, w.record (.get jobId) (w.jobs.find jobId))
  | .update jobId now changes, w =>
    match w.jobs.update jobId now changes with
    | .ok (row, jobs) =>
      (.ok row, { w with jobs := jobs }.record (.update jobId now changes) (.ok row))
    | .error x => (.error x, w.record (.update jobId now changes) (.error x))
  | .addEvent event, w =>
    match w.jobs.insertEvent w.events event with
    | .ok events => (.ok (), { w with events := events }.record (.addEvent event) (.ok ()))
    | .error x => (.error x, w.record (.addEvent event) (.error x))
  | .createRJob spec, w => remote w (.createRJob spec) (sc.create w.platform spec)
  | .getRJob rjobId, w => remote w (.getRJob rjobId) (sc.get w.platform rjobId)
  | .stopRJob rjobId, w => remote w (.stopRJob rjobId) (sc.stop w.platform rjobId)
  | .ready url path, w => remote w (.ready url path) (sc.ready w.platform url path)
  | .bind jobId rangeId, w => remote w (.bind jobId rangeId) (sc.bind w.platform jobId rangeId)

theorem listed_insertionSort (rows : List ControlJob) (column : ControlJob → Int) :
    Listed rows column (rows.insertionSort (column · ≤ column ·)) := by
  have : Std.Total (fun a b : ControlJob => column a ≤ column b) := ⟨fun a b => le_total _ _⟩
  have : IsTrans ControlJob (fun a b => column a ≤ column b) := ⟨fun a b c => le_trans⟩
  exact ⟨List.perm_insertionSort _ rows, List.pairwise_insertionSort _ rows⟩

theorem performs (e : Op) (w : World P) :
    sc.services.Performs e w (sc.answer e w).1 (sc.answer e w).2 := by
  cases e with
  | now => exact ⟨rfl, rfl⟩
  | listActive | listCleanupPending => exact ⟨listed_insertionSort _ _, rfl⟩
  | get => exact ⟨rfl, rfl⟩
  | update j now changes =>
    simp only [Services.Performs, answer]
    cases w.jobs.update j now changes <;> exact ⟨rfl, rfl⟩
  | addEvent event =>
    simp only [Services.Performs, answer]
    cases w.jobs.insertEvent w.events event <;> exact ⟨rfl, rfl⟩
  | createRJob | getRJob | stopRJob | ready | bind => exact ⟨_, rfl, rfl⟩

/-- A pass and the world after it. -/
def pass (o : RealJobOrchestrator) (w : World P) : Except PyExc Unit × World P :=
  Program.run (α := Except PyExc Unit) sc.answer o.reconcileOnce w

theorem exec_pass (o : RealJobOrchestrator) (w : World P) :
    Exec sc.services.system (α := Except PyExc Unit) o.reconcileOnce w (sc.pass o w).1
      (sc.pass o w).2 :=
  Exec.ofRun (S := sc.services.system) sc.performs _ w

/-- A pass that the server has run. -/
theorem reaches_pass (o : RealJobOrchestrator) (w : World P) :
    sc.services.Reaches o Services.Uninterrupted ⟨w, none⟩
      ⟨(sc.pass o w).2, some (.done (sc.pass o w).1)⟩ :=
  .trans (.tail .refl (.start w) trivial)
    ((sc.exec_pass o w).reaches (fun _ _ _ => trivial) fun _ _ _ _ _ => trivial)

/-- The server between that pass and the next one. -/
theorem reaches_idle (o : RealJobOrchestrator) (w : World P) (h : (sc.pass o w).1 = .ok ()) :
    sc.services.Reaches o Services.Uninterrupted ⟨w, none⟩ ⟨(sc.pass o w).2, none⟩ :=
  .tail (sc.reaches_pass o w) (.finish _ h) trivial

/-- The world after a close request. -/
def closed (w : World P) (jobId : String) : World P :=
  match w.jobs.requestClose jobId w.clock with
  | .ok (_, _, jobs) => { w with jobs := jobs }
  | .error _ => w

theorem reaches_closed {o : RealJobOrchestrator} {w : World P} (jobId : String)
    {p : Option (Program Op Ans (Except PyExc Unit))} :
    sc.services.Reaches o Services.Uninterrupted ⟨w, p⟩ ⟨closed w jobId, p⟩ := by
  unfold closed
  split
  · next row transitioned jobs h => exact .tail .refl (.interference (.close h)) trivial
  · exact .refl

end Script

/-- An orchestrator with the default settings, for concrete runs. -/
def sampleOrchestrator : RealJobOrchestrator where
  settings := {}
  imagePullPolicy := "Always"
  unicode := ⟨fun _ => false, fun _ => false, fun _ => false, id⟩
  digits _ := "1.0"

/-- The server that has just accepted one Job. -/
def sampleWorld (platform : P) : World P where
  jobs := ⟨[newControlJob sampleJob 0], by decide⟩
  events := []
  clock := 0
  platform := platform
  trace := []

theorem sampleWorld_initial (sc : Script P) (platform : P) :
    sc.services.Initial (sampleWorld platform) where
  rows _ hRow := ⟨sampleJob, 0, trivial, .refl, List.mem_singleton.mp hRow⟩
  trace := rfl

/-- A platform on which every call succeeds, with a Gateway that is always ready. -/
def sampleScript : Script Unit where
  create _ spec := (.ok (spec.role ++ "-1"), ())
  get _ rjobId :=
    (.ok { rjobId := rjobId, state := .running, ready := true, address := some "10.0.0.1"
           port := some 8000 }, ())
  stop _ _ := (.ok (), ())
  ready _ _ _ := (.ok true, ())
  bind _ _ _ := (.ok sampleBinding, ())

end SafactoryServer
