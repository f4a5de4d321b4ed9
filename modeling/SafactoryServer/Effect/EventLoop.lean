import SafactoryServer.Effect.Run

/-! A task that runs a program again and again and sleeps between two runs, until an event is set or
a time has passed.  It clears the event before each run, so that a wake-up during a run is not
lost. -/

namespace Effect

open Relation (ReflTransGen)

variable {Op : Type} {Ans : Op → Type} {σ α β ε ρ : Type}

/-- Where the task of a loop is: not started, about to clear the event, in a run of the program,
asleep, or ended by a result after which it does not go on. -/
inductive Stage (Op : Type) (Ans : Op → Type) (ρ : Type)
  | absent
  | clearing
  | running (p : Program Op Ans ρ)
  | sleeping
  | ended (a : ρ)

/-- A state with an event and a task. -/
structure LoopState (Op : Type) (Ans : Op → Type) (σ ρ : Type) where
  state : σ
  event : Bool
  stage : Stage Op Ans ρ

/-- One step of the task or of the rest of the world, which may set the event. -/
inductive LoopStep (S : System Op Ans σ) (main : Program Op Ans ρ) (repeats : ρ → Prop) :
    LoopState Op Ans σ ρ → LoopState Op Ans σ ρ → Prop
  | start {s : σ} {event : Bool} :
      LoopStep S main repeats ⟨s, event, .absent⟩ ⟨s, true, .clearing⟩
  | clear {s : σ} {event : Bool} :
      LoopStep S main repeats ⟨s, event, .clearing⟩ ⟨s, false, .running main⟩
  | answer {e : Op} {k : Ans e → Program Op Ans ρ} {s s' : σ} {r : Ans e} {event : Bool} :
      S.performs e s r s' →
      LoopStep S main repeats ⟨s, event, .running (.call e k)⟩ ⟨s', event, .running (k r)⟩
  | sleep {s : σ} {a : ρ} {event : Bool} : repeats a →
      LoopStep S main repeats ⟨s, event, .running (.done a)⟩ ⟨s, event, .sleeping⟩
  | stop {s : σ} {a : ρ} {event : Bool} : ¬ repeats a →
      LoopStep S main repeats ⟨s, event, .running (.done a)⟩ ⟨s, event, .ended a⟩
  | wake {s : σ} : LoopStep S main repeats ⟨s, true, .sleeping⟩ ⟨s, true, .clearing⟩
  | timeout {s : σ} {event : Bool} :
      LoopStep S main repeats ⟨s, event, .sleeping⟩ ⟨s, event, .clearing⟩
  | interference {s s' : σ} {event : Bool} {stage : Stage Op Ans ρ} : S.interferes s s' →
      LoopStep S main repeats ⟨s, event, stage⟩ ⟨s', event, stage⟩
  | set {s : σ} {event : Bool} {stage : Stage Op Ans ρ} :
      LoopStep S main repeats ⟨s, event, stage⟩ ⟨s, true, stage⟩

/-- The end of the process, also after a call took effect and before its answer arrived. -/
inductive LoopCrash (S : System Op Ans σ) : LoopState Op Ans σ ρ → LoopState Op Ans σ ρ → Prop
  | crash {s s' : σ} {event : Bool} {stage : Stage Op Ans ρ} : S.crashes s s' →
      LoopCrash S ⟨s, event, stage⟩ ⟨s', false, .absent⟩
  | lost {e : Op} {k : Ans e → Program Op Ans ρ} {s s' s'' : σ} {r : Ans e} {event : Bool} :
      S.performs e s r s' → S.crashes s' s'' →
      LoopCrash S ⟨s, event, .running (.call e k)⟩ ⟨s'', false, .absent⟩

/-- A run of the process and of the processes after it. -/
abbrev LoopReaches (S : System Op Ans σ) (main : Program Op Ans ρ) (repeats : ρ → Prop) :
    LoopState Op Ans σ ρ → LoopState Op Ans σ ρ → Prop :=
  ReflTransGen fun c c' => LoopStep S main repeats c c' ∨ LoopCrash S c c'

/-- The program that a task is running. -/
def Stage.program : Stage Op Ans ρ → Option (Program Op Ans ρ)
  | .running p => some p
  | .ended a => some (.done a)
  | .absent | .clearing | .sleeping => none

/-- A loop without its event. -/
def LoopState.config (c : LoopState Op Ans σ ρ) : Config Op Ans σ ρ := ⟨c.state, c.stage.program⟩

section

variable {S : System Op Ans σ} {main : Program Op Ans ρ} {repeats : ρ → Prop}
  {c c' : LoopState Op Ans σ ρ}

/-- A step of a loop is one of the server that runs its program again and again, or none. -/
theorem LoopStep.config (h : LoopStep S main repeats c c') :
    c'.config = c.config ∨ ∃ l, Step S main repeats c.config l c'.config := by
  cases h with
  | start | stop | wake | timeout | set => exact .inl rfl
  | clear => exact .inr ⟨_, .start _⟩
  | answer hPerforms => exact .inr ⟨_, .answer hPerforms⟩
  | sleep hRepeats => exact .inr ⟨_, .finish _ hRepeats⟩
  | interference hInterferes => exact .inr ⟨_, .interference hInterferes⟩

theorem LoopCrash.config (h : LoopCrash S c c') :
    ∃ l, Step S main repeats c.config l c'.config := by
  cases h with
  | crash hCrash => exact ⟨_, .crash _ hCrash⟩
  | lost hPerforms hCrash => exact ⟨_, .lost hPerforms hCrash⟩

/-- A loop with an event refines the server that runs its program again and again. -/
theorem LoopReaches.config (h : LoopReaches S main repeats c c') :
    Reaches S main repeats (fun _ _ _ => True) c.config c'.config := by
  induction h with
  | refl => exact .refl
  | tail _ hStep ih =>
    rcases hStep with hStep | hCrash
    · rcases hStep.config with heq | ⟨l, hStep⟩
      · rwa [heq]
      · exact .tail ih hStep trivial
    · obtain ⟨l, hStep⟩ : ∃ l, Step S main repeats _ l _ := hCrash.config
      exact .tail ih hStep trivial

end

/-- A complete execution of the program is a run of the loop. -/
theorem Exec.loopReaches {S : System Op Ans σ} {p : Program Op Ans ρ} {s s' : σ} {a : ρ}
    (h : Exec S p s a s') (main : Program Op Ans ρ) (repeats : ρ → Prop) (event : Bool) :
    LoopReaches S main repeats ⟨s, event, .running p⟩ ⟨s', event, .running (.done a)⟩ := by
  induction h with
  | done a s => exact .refl
  | @call e k s s₁ s₂ t r a hw hPerforms _ ih =>
    have hAnswer : LoopReaches S main repeats ⟨s₁, event, .running (.call e k)⟩
        ⟨t, event, .running (.done a)⟩ := .head (.inl (.answer hPerforms)) ih
    clear hPerforms ih
    induction hw using ReflTransGen.head_induction_on with
    | refl => exact hAnswer
    | head hStep _ ih => exact .head (.inl (.interference hStep)) ih

/-- Whenever `p` ends in a result that `repeats`, it has called `e`. -/
def Program.Must (repeats : α → Prop) (e : Op) : Program Op Ans α → Prop
  | .done a => ¬ repeats a
  | .call e' k => e' = e ∨ ∀ r, (k r).Must repeats e

namespace Program.Must

variable {e : Op}

theorem mono {p : Program Op Ans α} {repeats repeats' : α → Prop} (h : p.Must repeats e)
    (hle : ∀ a, repeats' a → repeats a) : p.Must repeats' e := by
  induction p with
  | done a => exact fun ha => h (hle a ha)
  | call e' k ih => exact h.imp_right fun h r => ih r (h r)

/-- A sequence whose first part calls `e` before it goes on. -/
theorem bind_left {p : Program Op Ans α} {f : α → Program Op Ans β} {goes : α → Prop}
    {repeats : β → Prop} (h : p.Must goes e)
    (hf : ∀ a, ¬ goes a → (f a).Must repeats e) : (p.bind f).Must repeats e := by
  induction p with
  | done a => exact hf a h
  | call e' k ih =>
    rcases h with rfl | h
    · exact .inl rfl
    · exact .inr fun r => ih r (h r)

/-- A sequence whose second part calls `e`. -/
theorem bind_right {p : Program Op Ans α} {f : α → Program Op Ans β} {repeats : β → Prop}
    (hf : ∀ a, (f a).Must repeats e) : (p.bind f).Must repeats e := by
  induction p with
  | done a => exact hf a
  | call e' k ih => exact .inr ih

end Program.Must

/-- `Program.Must` for a task that returned. -/
abbrev Task.Must (e : Op) (p : Task Op Ans ε α) : Prop :=
  Program.Must (fun r : Except ε α => ∃ a, r = .ok a) e p

namespace Task.Must

variable {e : Op} {p : Task Op Ans ε α} {f : α → Task Op Ans ε β}

theorem error (x : ε) : Task.Must e (throw x : Task Op Ans ε α) := by
  rintro ⟨a, h⟩
  cases h

theorem ask : Task.Must e (Task.ask e : Task Op Ans ε (Ans e)) := .inl rfl

theorem left (h : Task.Must e p) : Task.Must e (p >>= f) := by
  refine Program.Must.bind_left h fun r hr => ?_
  cases r with
  | ok a => exact absurd ⟨a, rfl⟩ hr
  | error x => exact error x

theorem right (h : ∀ a, Task.Must e (f a)) : Task.Must e (p >>= f) := by
  refine Program.Must.bind_right fun r => ?_
  cases r with
  | ok a => exact h a
  | error x => exact error x

end Task.Must

/-! ### Wake-ups -/

/-- `R` holds, or the task will call `e` before it sleeps with the event cleared. -/
def LoopState.Heeds (repeats : ρ → Prop) (e : Op) (R : σ → Prop) (c : LoopState Op Ans σ ρ) :
    Prop :=
  c.event = true ∨ match c.stage with
    | .absent | .clearing | .ended _ => True
    | .running p => p.Must repeats e ∨ R c.state
    | .sleeping => R c.state

/-- What a call of `e` makes of `Q`, and every other step keeps: `R`.  A crash keeps `Q` only. -/
structure Marks (S : System Op Ans σ) (main : Program Op Ans ρ) (repeats : ρ → Prop) (e : Op)
    (permitted : LoopState Op Ans σ ρ → Prop) (Q R : σ → Prop) : Prop where
  known {c c' : LoopState Op Ans σ ρ} : permitted c → LoopStep S main repeats c c' →
    Q c.state → Q c'.state
  crash {c c' : LoopState Op Ans σ ρ} : permitted c → LoopCrash S c c' → Q c.state → Q c'.state
  kept {c c' : LoopState Op Ans σ ρ} : permitted c → LoopStep S main repeats c c' →
    Q c.state → R c.state → R c'.state
  marked {c : LoopState Op Ans σ ρ} {s' : σ} {r : Ans e} : permitted c → S.performs e c.state r s' →
    Q c.state → R s'

section

variable {S : System Op Ans σ} {main : Program Op Ans ρ} {repeats : ρ → Prop} {e : Op}
  {permitted : LoopState Op Ans σ ρ → Prop} {Q R : σ → Prop} {c c' : LoopState Op Ans σ ρ}

theorem LoopStep.heeds (hMarks : Marks S main repeats e permitted Q R)
    (hMain : main.Must repeats e) (hPermitted : permitted c) (hQ : Q c.state)
    (h : LoopStep S main repeats c c') (hHeeds : c.Heeds repeats e R) : c'.Heeds repeats e R := by
  have hStep := h
  cases h with
  | start | stop | wake => exact .inr trivial
  | set => exact .inl rfl
  | timeout => exact .inr trivial
  | clear => exact .inr (.inl hMain)
  | @answer e' k s s' r event hPerforms =>
    rcases hHeeds with hEvent | (rfl | hMust) | hR
    · exact .inl hEvent
    · exact .inr (.inr (hMarks.marked hPermitted hPerforms hQ))
    · exact .inr (.inl (hMust r))
    · exact .inr (.inr (hMarks.kept hPermitted hStep hQ hR))
  | sleep hRepeats =>
    rcases hHeeds with hEvent | hMust | hR
    · exact .inl hEvent
    · exact absurd hRepeats hMust
    · exact .inr hR
  | @interference s s' event stage hInterferes =>
    rcases hHeeds with hEvent | hHeeds
    · exact .inl hEvent
    · refine .inr ?_
      cases stage with
      | absent | clearing | ended => trivial
      | running p => exact hHeeds.imp_right fun hR => hMarks.kept hPermitted hStep hQ hR
      | sleeping => exact hMarks.kept hPermitted hStep hQ hHeeds

/-- No wake-up is lost: when the event was set in a state with `Q`, the task does not sleep with the
event cleared before a call of `e` made `R` of it. -/
theorem LoopReaches.heeds (hMarks : Marks S main repeats e permitted Q R)
    (hMain : main.Must repeats e) (hPermitted : ∀ c', LoopReaches S main repeats c c' →
      permitted c') (hQ : Q c.state) (hSet : c.event = true) (h : LoopReaches S main repeats c c') :
    Q c'.state ∧ c'.Heeds repeats e R := by
  induction h with
  | refl => exact ⟨hQ, .inl hSet⟩
  | tail hReaches hStep ih =>
    have hPermitted := hPermitted _ hReaches
    rcases hStep with hStep | hCrash
    · exact ⟨hMarks.known hPermitted hStep ih.1, hStep.heeds hMarks hMain hPermitted ih.1 ih.2⟩
    · refine ⟨hMarks.crash hPermitted hCrash ih.1, ?_⟩
      cases hCrash <;> exact .inr trivial

/-- While it sleeps with the event cleared, a loop that heeds a wake-up has marked it. -/
theorem LoopState.Heeds.sleeping (h : c.Heeds repeats e R) (hStage : c.stage = .sleeping)
    (hEvent : c.event = false) : R c.state := by
  rcases h with hSet | h
  · rw [hEvent] at hSet
    cases hSet
  · rwa [hStage] at h

end

end Effect
