import SafactoryServer.Effect.Run

/-! Systems that log the answers to the calls of a program, also of those that leave no trace in the
state: a condition on the steps of a run may then say after which answer a call is made. -/

namespace Effect

variable {Op : Type} {Ans : Op → Type} {σ α ρ : Type}

/-- An answer to a call. -/
abbrev Answered (Op : Type) (Ans : Op → Type) := (e : Op) × Ans e

/-- The system with a log of the answers since the last crash, newest first. -/
def System.logged (S : System Op Ans σ) : System Op Ans (σ × List (Answered Op Ans)) where
  performs e s r s' := S.performs e s.1 r s'.1 ∧ s'.2 = ⟨e, r⟩ :: s.2
  interferes s s' := S.interferes s.1 s'.1 ∧ s'.2 = s.2
  crashes s s' := S.crashes s.1 s'.1 ∧ s'.2 = []

variable {S : System Op Ans σ} {s s' : σ × List (Answered Op Ans)}

/-- The rest of the world answers no call. -/
theorem System.logged_waits (h : S.logged.Waits s s') : S.Waits s.1 s'.1 ∧ s'.2 = s.2 := by
  induction h with
  | refl => exact ⟨.refl, rfl⟩
  | tail _ hStep ih => exact ⟨ih.1.tail hStep.1, hStep.2.trans ih.2⟩

variable {main : Program Op Ans ρ} {repeats : ρ → Prop} {permitted : σ → Label Op Ans → σ → Prop}
  {c₀ c c' : Config Op Ans σ ρ}

/-- A step has the same effect with a log. -/
theorem Step.logged {l : Label Op Ans} (h : Step S main repeats c l c')
    (log : List (Answered Op Ans)) : ∃ log', Step S.logged main repeats
      ⟨(c.state, log), c.program⟩ l ⟨(c'.state, log'), c'.program⟩ := by
  cases h with
  | interference hStep => exact ⟨log, .interference ⟨hStep, rfl⟩⟩
  | start s => exact ⟨log, .start _⟩
  | answer hp => exact ⟨_, .answer ⟨hp, rfl⟩⟩
  | finish s hr => exact ⟨log, .finish _ hr⟩
  | crash p hc => exact ⟨[], .crash p ⟨hc, rfl⟩⟩
  | @lost e k s s' s'' r hp hc =>
    have hp' : S.logged.performs e (s, log) r (s', ⟨e, r⟩ :: log) := ⟨hp, rfl⟩
    exact ⟨[], .lost hp' ⟨hc, rfl⟩⟩

/-- Every run is a run with a log. -/
theorem Reaches.logged (h : Reaches S main repeats permitted c₀ c)
    (log : List (Answered Op Ans)) : ∃ log', Reaches S.logged main repeats
      (fun s l s' => permitted s.1 l s'.1) ⟨(c₀.state, log), c₀.program⟩
      ⟨(c.state, log'), c.program⟩ := by
  induction h with
  | refl => exact ⟨log, .refl⟩
  | tail _ hStep hPermitted ih =>
    obtain ⟨log', hReaches⟩ := ih
    obtain ⟨log'', hStep⟩ := hStep.logged log'
    exact ⟨log'', .tail hReaches hStep hPermitted⟩

/-- A run whose steps are not all permitted has a first step that is not. -/
theorem Reaches.permitted_or {Q : σ → Label Op Ans → σ → Prop}
    (h : Reaches S main repeats permitted c₀ c) : Reaches S main repeats Q c₀ c ∨
      ∃ c₁ l c₂, Reaches S main repeats Q c₀ c₁ ∧ Step S main repeats c₁ l c₂ ∧
        ¬ Q c₁.state l c₂.state := by
  induction h with
  | refl => exact .inl .refl
  | @tail c₁ c₂ l _ hStep _ ih =>
    rcases ih with hReaches | hFirst
    · by_cases hPermitted : Q c₁.state l c₂.state
      · exact .inl (.tail hReaches hStep hPermitted)
      · exact .inr ⟨c₁, l, c₂, hReaches, hStep, hPermitted⟩
    · exact .inr hFirst

/-! ### Runs that a function answers -/

/-- The answer to a call, and the state with the answer in its log. -/
def loggedAnswer (answer : (e : Op) → σ → Ans e × σ) (e : Op)
    (s : σ × List (Answered Op Ans)) : Ans e × σ × List (Answered Op Ans) :=
  ((answer e s.1).1, (answer e s.1).2, ⟨e, (answer e s.1).1⟩ :: s.2)

theorem loggedAnswer_performs {answer : (e : Op) → σ → Ans e × σ}
    (h : ∀ e s, S.performs e s (answer e s).1 (answer e s).2) (e : Op)
    (s : σ × List (Answered Op Ans)) :
    S.logged.performs e s (loggedAnswer answer e s).1 (loggedAnswer answer e s).2 :=
  ⟨h e s.1, rfl⟩

/-- Every answer that the program receives passes the test. -/
def Program.passes (answer : (e : Op) → σ → Ans e × σ) (test : σ → (e : Op) → Ans e → Bool) :
    Program Op Ans α → σ → Bool
  | .done _, _ => true
  | .call e k, s =>
    test s e (answer e s).1 && (k (answer e s).1).passes answer test (answer e s).2

/-- A program whose answers pass a test that the condition on the steps follows from. -/
theorem Reaches.ofPasses {answer : (e : Op) → σ → Ans e × σ} {test : σ → (e : Op) → Ans e → Bool}
    (h : ∀ e s, S.performs e s (answer e s).1 (answer e s).2)
    (hTest : ∀ s e r s', test s e r = true → permitted s (.answer e r) s')
    {p : Program Op Ans ρ} {s : σ} (hp : p.passes answer test s = true) :
    Reaches S main repeats permitted ⟨s, some p⟩
      ⟨(p.run answer s).2, some (.done (p.run answer s).1)⟩ := by
  induction p generalizing s with
  | done a => exact .refl
  | call e k ih =>
    obtain ⟨hCall, hRest⟩ := Bool.and_eq_true_iff.mp hp
    exact .trans (.tail .refl (.answer (h e s)) (hTest _ _ _ _ hCall)) (ih _ hRest)

end Effect
