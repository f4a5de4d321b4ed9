import SafactoryServer.ControlStore
import Mathlib.Logic.Relation

/-! Calls of `update` and `request_close` on one control database from any number of connections.
SQLite runs each statement atomically; between the two statements of a call any other statement may
run. -/

namespace SafactoryServer

open Relation (ReflTransGen)

/-- A call that writes a Job. -/
inductive StoreCall
  | update (jobId : String) (now : Int) (changes : Changes)
  | requestClose (jobId : String) (now : Int)

namespace StoreCall

def jobId : StoreCall → String
  | .update jobId _ _ => jobId
  | .requestClose jobId _ => jobId

def now : StoreCall → Int
  | .update _ now _ => now
  | .requestClose _ now => now

/-- The flag that the call returns if it writes. -/
def transitions : StoreCall → Bool
  | .update _ _ _ => false
  | .requestClose _ _ => true

/-- The checks of the call accept the row `current` and leave `changes` to be written. -/
def Accepts (call : StoreCall) (current : ControlJob) (changes : Changes) : Prop :=
  match call with
  | .update _ _ requested => current.guard requested = .ok changes
  | .requestClose _ _ => current.active = true ∧ changes = closeChanges

end StoreCall

/-- How far a call has come: not begun, between its statements, or ended. -/
inductive CallStage
  | called
  | selected (current : ControlJob) (changes : Changes)
  | returned (row : ControlJob) (transitioned : Bool)
  | raised (x : PyExc)

/-- The first statement of a call and the checks that follow it. -/
def StoreCall.select (t : JobTable) : StoreCall → CallStage
  | .update jobId _ changes =>
    match t.selectForUpdate jobId changes with
    | .ok (current, changes) => .selected current changes
    | .error x => .raised x
  | .requestClose jobId _ =>
    match t.find jobId with
    | none => .raised .keyError
    | some current =>
      if current.active then .selected current closeChanges else .returned current false

/-- The second statement of a call that read `current`. -/
def StoreCall.write (call : StoreCall) (t : JobTable) (current : ControlJob) (changes : Changes) :
    Except PyExc (ControlJob × JobTable) :=
  t.writeVersion call.jobId current.version (changes.write · call.now)

/-- A call on a connection of its own. -/
structure Connection where
  call : StoreCall
  stage : CallStage

/-- A committed write: the row that the checks of its call saw, the row it replaced and the row it
left. -/
structure CommittedWrite where
  call : StoreCall
  seen : ControlJob
  changes : Changes
  before : ControlJob
  after : ControlJob

/-- The database, the calls so far and the writes they committed, newest first. -/
structure Database where
  table : JobTable
  connections : List Connection
  commits : List CommittedWrite

namespace Database

/-- One statement of one call, or the start of a call.  `fail` is a call that SQLite gives up, as
when another connection holds the write lock too long. -/
inductive Step : Database → Database → Prop
  | begin (d : Database) (call : StoreCall) :
      Step d { d with connections := d.connections ++ [⟨call, .called⟩] }
  | select {d : Database} {i : Nat} {call : StoreCall} : d.connections[i]? = some ⟨call, .called⟩ →
      Step d { d with connections := d.connections.set i ⟨call, call.select d.table⟩ }
  | commit {d : Database} {i : Nat} {call : StoreCall} {current before row : ControlJob}
      {changes : Changes} {t : JobTable} :
      d.connections[i]? = some ⟨call, .selected current changes⟩ →
      d.table.find call.jobId = some before → call.write d.table current changes = .ok (row, t) →
      Step d ⟨t, d.connections.set i ⟨call, .returned row call.transitions⟩,
        ⟨call, current, changes, before, row⟩ :: d.commits⟩
  | refuse {d : Database} {i : Nat} {call : StoreCall} {current : ControlJob} {changes : Changes}
      {x : PyExc} : d.connections[i]? = some ⟨call, .selected current changes⟩ →
      call.write d.table current changes = .error x →
      Step d { d with connections := d.connections.set i ⟨call, .raised x⟩ }
  | fail {d : Database} {i : Nat} {call : StoreCall} {stage : CallStage} (name : String) :
      d.connections[i]? = some ⟨call, stage⟩ → (stage = .called ∨ ∃ c ch, stage = .selected c ch) →
      Step d { d with connections := d.connections.set i ⟨call, .raised (.other name)⟩ }

def Reaches : Database → Database → Prop := ReflTransGen Step

/-- Before any call. -/
def Initial (d : Database) : Prop := d.connections = [] ∧ d.commits = []

/-- The writes committed to one Job. -/
def writesOf (commits : List CommittedWrite) (jobId : String) : Nat :=
  commits.countP (·.call.jobId = jobId)

/-- A `request_close` of the Job that returned true. -/
def Connection.closed (jobId : String) (s : Connection) : Bool :=
  match s.stage with
  | .returned _ true => s.call.jobId = jobId
  | _ => false

/-- The `request_close` calls of the Job that returned true. -/
def closers (d : Database) (jobId : String) : Nat := d.connections.countP (Connection.closed jobId)

end Database

/-- What `n` committed writes may make of a row. -/
structure Evolves (n : Nat) (row row' : ControlJob) : Prop where
  version : row'.version = row.version + n
  identity : row'.identity = row.identity
  terminal : row.terminal = true → row'.status = row.status
  closing : row.status = .closing → row'.status = .closing ∨ row'.status = .closed

theorem Evolves.refl (row : ControlJob) : Evolves 0 row row :=
  ⟨rfl, rfl, fun _ => rfl, .inl⟩

theorem Evolves.trans {m n : Nat} {row row' row'' : ControlJob} (h : Evolves m row row')
    (h' : Evolves n row' row'') : Evolves (m + n) row row'' := by
  have hterminal : row'.terminal = true → row''.status = row'.status := h'.terminal
  refine ⟨by rw [h'.version, h.version, Nat.add_assoc], h'.identity.trans h.identity, ?_, ?_⟩
  · intro hr
    have hs := h.terminal hr
    rw [hterminal (by rw [ControlJob.terminal_iff] at *; rwa [hs]), hs]
  · intro hr
    rcases h.closing hr with hs | hs
    · exact h'.closing hs
    · exact .inr ((hterminal (by grind)).trans hs)

theorem StoreCall.Accepts.evolves {call : StoreCall} {current : ControlJob} {changes : Changes}
    (h : call.Accepts current changes) (now : Int) :
    Evolves 1 current (changes.write current now) := by
  cases call with
  | update jobId now' requested =>
    obtain ⟨hallowed, hterminal, hclosing⟩ := ControlJob.guard_ok h
    have hs : changes.status = requested.status := by
      rcases hallowed with rfl | ⟨rfl, -⟩ <;> rfl
    exact ⟨rfl, rfl, fun ht => by simpa [hs] using hterminal ht,
      fun hc => by simpa [hs] using hclosing hc⟩
  | requestClose jobId now' =>
    obtain ⟨hactive, rfl⟩ := h
    exact ⟨rfl, rfl, fun ht => by grind, fun hc => by grind⟩

namespace Database

/-- What holds between the statements of all calls: a call between its statements has checked the
row as it is, or a version of it that no longer exists; a write replaced the row that its call had
checked; after a `request_close` that returned true the Job is closing or closed. -/
structure Inv (d : Database) : Prop where
  selected {i : Nat} {call : StoreCall} {current : ControlJob} {changes : Changes} :
    d.connections[i]? = some ⟨call, .selected current changes⟩ →
    call.Accepts current changes ∧ ∃ row, d.table.find call.jobId = some row ∧
      (row = current ∨ current.version < row.version)
  commits : ∀ c ∈ d.commits, c.before = c.seen ∧ c.call.Accepts c.seen c.changes ∧
    c.after = c.changes.write c.seen c.call.now
  single (j : String) : d.closers j = 0 ∨ d.closers j = 1 ∧
    ∃ row, d.table.find j = some row ∧ (row.status = .closing ∨ row.status = .closed)

theorem Initial.inv {d : Database} (h : d.Initial) : d.Inv where
  selected hs := by simp [h.1] at hs
  commits c hc := by simp [h.2] at hc
  single j := .inl (by simp [Database.closers, h.1])

theorem select_selected {t : JobTable} {call : StoreCall} {current : ControlJob}
    {changes : Changes} (h : call.select t = .selected current changes) :
    t.find call.jobId = some current ∧ call.Accepts current changes := by
  cases call with
  | update j now requested =>
    simp only [StoreCall.select] at h
    split at h
    · next hs =>
      cases h
      exact JobTable.selectForUpdate_ok hs
    · cases h
  | requestClose j now =>
    simp only [StoreCall.select] at h
    cases hf : t.find j with
    | none => simp [hf] at h
    | some row =>
      simp only [hf] at h
      split at h
      · next ha =>
        cases h
        exact ⟨hf, ha, rfl⟩
      · cases h

theorem select_not_closed {t : JobTable} (call : StoreCall) (j : String) :
    Connection.closed j ⟨call, call.select t⟩ = false := by
  cases call with
  | update j' now requested =>
    simp only [StoreCall.select, Connection.closed]
    split <;> simp_all
    split at * <;> simp_all
  | requestClose j' now =>
    simp only [StoreCall.select, Connection.closed]
    grind

theorem closers_set {d : Database} {i : Nat} {s s' : Connection} (h : d.connections[i]? = some s)
    (hs : ∀ j, Connection.closed j s = false) (j : String) :
    (d.connections.set i s').countP (Connection.closed j) =
      d.closers j + if Connection.closed j s' then 1 else 0 := by
  obtain ⟨hi, rfl⟩ := List.getElem?_eq_some_iff.mp h
  rw [List.countP_set hi, hs j]
  simp [closers]

/-- What one statement does to the rows: nothing, or one write over the row that its call
checked. -/
theorem Inv.step_cases {d d' : Database} (hInv : d.Inv) (h : Step d d') :
    (d'.table = d.table ∧ d'.commits = d.commits) ∨
    ∃ call current changes, call.Accepts current changes ∧
      d.table.find call.jobId = some current ∧
      (∀ j, d'.table.find j =
        if j = call.jobId then some (changes.write current call.now) else d.table.find j) ∧
      d'.commits = ⟨call, current, changes, current, changes.write current call.now⟩ ::
        d.commits := by
  cases h with
  | begin | select | refuse | fail => exact .inl ⟨rfl, rfl⟩
  | @commit i call current before row changes t hs hf hw =>
    obtain ⟨hAccepts, r, hr, hcurrent⟩ := hInv.selected hs
    obtain ⟨r', hr', hv, rfl, hfind⟩ := JobTable.writeVersion_ok hw fun _ => rfl
    obtain rfl : r' = r := Option.some.inj (hr'.symm.trans hr)
    obtain rfl : before = r' := Option.some.inj (hf.symm.trans hr')
    obtain rfl : before = current := by
      rcases hcurrent with heq | hlt
      · exact heq
      · omega
    exact .inr ⟨call, before, changes, hAccepts, hf, hfind, rfl⟩

/-- One statement takes every row on by the writes it commits to it. -/
theorem Inv.step_row {d d' : Database} (hInv : d.Inv) (h : Step d d') {j : String}
    {row : ControlJob} (hf : d.table.find j = some row) :
    ∃ n row', d'.table.find j = some row' ∧ Evolves n row row' ∧
      writesOf d'.commits j = writesOf d.commits j + n := by
  rcases hInv.step_cases h with ⟨ht, hc⟩ | ⟨call, current, changes, hAccepts, hcur, hfind, hc⟩
  · exact ⟨0, row, by rw [ht, hf], .refl row, by rw [hc]; rfl⟩
  · by_cases hj : j = call.jobId
    · subst hj
      obtain rfl : row = current := Option.some.inj (hf.symm.trans hcur)
      refine ⟨1, changes.write row call.now, by simp [hfind], hAccepts.evolves _, ?_⟩
      rw [hc]
      simp [writesOf]
    · refine ⟨0, row, by simp [hfind, hj, hf], .refl row, ?_⟩
      rw [hc]
      simp [writesOf, Ne.symm hj]

theorem Inv.step_closing {d d' : Database} (hInv : d.Inv) (h : Step d d') {j : String}
    (hc : ∃ row, d.table.find j = some row ∧ (row.status = .closing ∨ row.status = .closed)) :
    ∃ row, d'.table.find j = some row ∧ (row.status = .closing ∨ row.status = .closed) := by
  obtain ⟨row, hf, hs⟩ := hc
  obtain ⟨n, row', hf', hEvolves, -⟩ := hInv.step_row h hf
  refine ⟨row', hf', ?_⟩
  rcases hs with hs | hs
  · exact hEvolves.closing hs
  · exact .inr ((hEvolves.terminal (by grind)).trans hs)

/-- A row that a call read is still there or has been written since. -/
theorem Inv.step_selected {d d' : Database} (hInv : d.Inv) (h : Step d d') {j : String}
    {current : ControlJob}
    (hc : ∃ row, d.table.find j = some row ∧ (row = current ∨ current.version < row.version)) :
    ∃ row, d'.table.find j = some row ∧ (row = current ∨ current.version < row.version) := by
  obtain ⟨row, hf, hcur⟩ := hc
  rcases hInv.step_cases h with ⟨ht, -⟩ | ⟨call, row', changes, -, hrow', hfind, -⟩
  · exact ⟨row, by rw [ht, hf], hcur⟩
  · by_cases hj : j = call.jobId
    · subst hj
      obtain rfl : row = row' := Option.some.inj (hf.symm.trans hrow')
      refine ⟨changes.write row call.now, by simp [hfind], .inr ?_⟩
      rw [Changes.write_version]
      rcases hcur with rfl | hlt
      · omega
      · omega
    · exact ⟨row, by simp [hfind, hj, hf], hcur⟩

/-- Where a call stands between its statements after a step: it stood there before, or it has just
read its row. -/
theorem Step.selected_cases {d d' : Database} (h : Step d d') {i : Nat} {call : StoreCall}
    {current : ControlJob} {changes : Changes}
    (hs : d'.connections[i]? = some ⟨call, .selected current changes⟩) :
    d.connections[i]? = some ⟨call, .selected current changes⟩ ∨
      call.select d.table = .selected current changes ∧ d'.table = d.table := by
  cases h with
  | begin call' =>
    rw [List.getElem?_append] at hs
    split at hs
    · exact .inl hs
    · cases hi : i - d.connections.length with
      | zero => simp [hi] at hs
      | succ n => simp [hi] at hs
  | select hi =>
    rw [List.getElem?_set] at hs
    split at hs
    · split at hs
      · simp only [Option.some.injEq, Connection.mk.injEq] at hs
        obtain ⟨rfl, hs⟩ := hs
        exact .inr ⟨hs, rfl⟩
      · cases hs
    · exact .inl hs
  | commit | refuse | fail =>
    rw [List.getElem?_set] at hs
    split at hs
    · split at hs <;> simp at hs
    · exact .inl hs

/-- A call that has not ended has not returned true. -/
theorem closed_of_unfinished {call : StoreCall} {stage : CallStage} (j : String)
    (h : stage = .called ∨ ∃ c ch, stage = .selected c ch) :
    Connection.closed j ⟨call, stage⟩ = false := by
  rcases h with rfl | ⟨c, ch, rfl⟩ <;> rfl

/-- A step ends at most the calls of one Job, and a `request_close` that it ends with true has just
written. -/
theorem Inv.step_closers {d d' : Database} (hInv : d.Inv) (h : Step d d') (j : String) :
    d'.closers j = d.closers j ∨ d'.closers j = d.closers j + 1 ∧
      (∃ row, d.table.find j = some row ∧ row.active = true) ∧
      ∃ row, d'.table.find j = some row ∧ row.status = .closing := by
  cases h with
  | begin call => exact .inl (by simp [Database.closers, Connection.closed])
  | select hs =>
    left
    rw [Database.closers, closers_set hs (fun _ => rfl), select_not_closed]
    rfl
  | refuse hs _ =>
    left
    rw [Database.closers, closers_set hs (fun _ => rfl)]
    rfl
  | fail name hs hstage =>
    left
    rw [Database.closers, closers_set hs fun j => closed_of_unfinished j hstage]
    rfl
  | @commit i call current before row changes t hs hf hw =>
    rw [Database.closers, closers_set hs (fun _ => rfl)]
    obtain ⟨hAccepts, r, hr, hcurrent⟩ := hInv.selected hs
    obtain ⟨r', hr', hv, rfl, hfind⟩ := JobTable.writeVersion_ok hw fun _ => rfl
    obtain rfl : r' = r := Option.some.inj (hr'.symm.trans hr)
    obtain rfl : r' = current := by
      rcases hcurrent with heq | hlt
      · exact heq
      · omega
    cases call with
    | update j' now requested => exact .inl rfl
    | requestClose j' now =>
      obtain ⟨hactive, rfl⟩ := hAccepts
      by_cases hj : j' = j
      · subst hj
        exact .inr ⟨by simp [Connection.closed, StoreCall.transitions, StoreCall.jobId],
          ⟨r', hr, hactive⟩, _, (hfind j').trans (if_pos rfl), rfl⟩
      · exact .inl (by simp [Connection.closed, StoreCall.transitions, StoreCall.jobId, hj])

theorem Inv.step {d d' : Database} (hInv : d.Inv) (h : Step d d') : d'.Inv where
  selected hs := by
    rcases h.selected_cases hs with hs | ⟨hs, ht⟩
    · obtain ⟨hAccepts, hcur⟩ := hInv.selected hs
      exact ⟨hAccepts, hInv.step_selected h hcur⟩
    · obtain ⟨hf, hAccepts⟩ := select_selected hs
      exact ⟨hAccepts, _, by rw [ht, hf], .inl rfl⟩
  commits c hc := by
    rcases hInv.step_cases h with ⟨-, heq⟩ | ⟨call, current, changes, hAccepts, -, -, heq⟩
    · exact hInv.commits c (heq ▸ hc)
    · rw [heq, List.mem_cons] at hc
      rcases hc with rfl | hc
      · exact ⟨rfl, hAccepts, rfl⟩
      · exact hInv.commits c hc
  single j := by
    rcases hInv.step_closers h j with heq | ⟨heq, ⟨row, hf, hactive⟩, row', hf', hclosing⟩
    · rw [heq]
      rcases hInv.single j with h0 | ⟨h1, hc⟩
      · exact .inl h0
      · exact .inr ⟨h1, hInv.step_closing h hc⟩
    · rcases hInv.single j with h0 | ⟨h1, row₁, hf₁, hs⟩
      · exact .inr ⟨by rw [heq, h0], row', hf', .inl hclosing⟩
      · obtain rfl : row = row₁ := Option.some.inj (hf.symm.trans hf₁)
        grind

theorem Inv.reaches {d d' : Database} (hInv : d.Inv) (h : d.Reaches d') : d'.Inv := by
  induction h with
  | refl => exact hInv
  | tail _ hStep ih => exact ih.step hStep

/-- Any number of statements takes every row on by the writes they commit to it. -/
theorem Inv.reaches_row {d d' : Database} (hInv : d.Inv) (h : d.Reaches d') {j : String}
    {row : ControlJob} (hf : d.table.find j = some row) :
    ∃ n row', d'.table.find j = some row' ∧ Evolves n row row' ∧
      writesOf d'.commits j = writesOf d.commits j + n := by
  induction h with
  | refl => exact ⟨0, row, hf, .refl row, rfl⟩
  | tail hReaches hStep ih =>
    obtain ⟨m, row', hf', hEvolves, hm⟩ := ih
    obtain ⟨n, row'', hf'', hEvolves', hn⟩ := (hInv.reaches hReaches).step_row hStep hf'
    exact ⟨m + n, row'', hf'', hEvolves.trans hEvolves', by rw [hn, hm, Nat.add_assoc]⟩

/-- A step in which a call raises writes nothing. -/
theorem Step.raised {d d' : Database} (h : Step d d') {i : Nat} {call : StoreCall} {x : PyExc}
    (hBefore : d.connections[i]? ≠ some ⟨call, .raised x⟩)
    (hAfter : d'.connections[i]? = some ⟨call, .raised x⟩) :
    d'.table = d.table ∧ d'.commits = d.commits := by
  cases h with
  | begin | select | refuse | fail => exact ⟨rfl, rfl⟩
  | commit hs hf hw =>
    rw [List.getElem?_set] at hAfter
    split at hAfter
    · split at hAfter <;> simp at hAfter
    · exact absurd hAfter hBefore

/-- Concurrent calls of `update` and `request_close`: what any further statements make of a row,
what every committed write was checked against, how many `request_close` calls of one Job return
true, and that a call that raises writes nothing. -/
theorem concurrent_calls {d₀ d d' : Database} (h₀ : d₀.Initial) (h : d₀.Reaches d)
    (h' : d.Reaches d') :
    (∀ j row, d.table.find j = some row → ∃ row', d'.table.find j = some row' ∧
      (row.terminal = true → row'.status = row.status) ∧
      (row.status = .closing → row'.status = .closing ∨ row'.status = .closed) ∧
      row'.identity = row.identity ∧
      row'.version + writesOf d.commits j = row.version + writesOf d'.commits j) ∧
    (∀ c ∈ d'.commits, c.before = c.seen ∧ c.call.Accepts c.seen c.changes ∧
      c.after = c.changes.write c.before c.call.now ∧ c.after.version = c.before.version + 1) ∧
    (∀ j, d'.closers j ≤ 1) ∧
    ∀ (d'' : Database) (i : Nat) (call : StoreCall) (x : PyExc), Step d' d'' →
      d'.connections[i]? ≠ some ⟨call, .raised x⟩ →
      d''.connections[i]? = some ⟨call, .raised x⟩ → d''.table = d'.table := by
  have hInv : d.Inv := h₀.inv.reaches h
  have hInv' : d'.Inv := hInv.reaches h'
  refine ⟨fun j row hf => ?_, fun c hc => ?_, fun j => ?_, fun d'' i call x hs hb ha => ?_⟩
  · obtain ⟨n, row', hf', hEvolves, hn⟩ := hInv.reaches_row h' hf
    refine ⟨row', hf', hEvolves.terminal, hEvolves.closing, hEvolves.identity, ?_⟩
    rw [hn, hEvolves.version]
    omega
  · obtain ⟨hseen, hAccepts, hafter⟩ := hInv'.commits c hc
    rw [hafter, hseen]
    exact ⟨rfl, hAccepts, rfl, rfl⟩
  · rcases hInv'.single j with h0 | ⟨h1, -⟩ <;> omega
  · exact (hs.raised hb ha).1

/-- A close that lands between the two statements of an update. -/
theorem concurrent_calls_race : ∃ d₀ d' : Database, d₀.Initial ∧ d₀.Reaches d' ∧
    d'.closers "job" = 1 ∧ (∃ call, d'.connections[0]? = some ⟨call, .raised .runtimeError⟩) ∧
    (∀ j row, d₀.table.find j = some row → ∃ row', d'.table.find j = some row' ∧
      row'.identity = row.identity) := by
  let row := newControlJob sampleJob 0
  let d₀ : Database := ⟨⟨[row], by decide⟩, [], []⟩
  let start : StoreCall := .update "job" 1000 { status := some .preparing }
  let close : StoreCall := .requestClose "job" 2000
  let after := row.close 2000
  let d' : Database := ⟨⟨[after], by decide⟩,
    [⟨start, .raised .runtimeError⟩, ⟨close, .returned after true⟩],
    [⟨close, row, closeChanges, row, after⟩]⟩
  have hReaches : d₀.Reaches d' :=
    .tail (.tail (.tail (.tail (.tail (.tail .refl (.begin _ start)) (.begin _ close))
      (.select (i := 0) rfl)) (.select (i := 1) rfl)) (.commit (i := 1) rfl rfl rfl))
      (.refuse (i := 0) rfl rfl)
  refine ⟨d₀, d', ⟨rfl, rfl⟩, hReaches, by decide, ⟨start, rfl⟩, fun j r hf => ?_⟩
  obtain ⟨row', hf', -, -, hid, -⟩ := (concurrent_calls ⟨rfl, rfl⟩ .refl hReaches).1 j r hf
  exact ⟨row', hf', hid⟩

end Database

end SafactoryServer
