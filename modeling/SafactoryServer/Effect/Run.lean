import SafactoryServer.Effect.Program

/-! The runs of a server that starts one program again and again and may crash at any call, the
complete executions of one program, and what a contract gives on both. -/

namespace Effect

open Relation (ReflTransGen)

variable {Op : Type} {Ans : Op → Type} {σ α β ρ : Type}

/-- `Exec S p s a s'`: `p`, started in `s`, returns `a` in `s'`. -/
inductive Exec (S : System Op Ans σ) : Program Op Ans α → σ → α → σ → Prop
  | done (a : α) (s : σ) : Exec S (.done a) s a s
  | call {e : Op} {k : Ans e → Program Op Ans α} {s s' s'' t : σ} {r : Ans e} {a : α} :
      S.Waits s s' → S.performs e s' r s'' → Exec S (k r) s'' a t → Exec S (.call e k) s a t

theorem Exec.bind_inv {S : System Op Ans σ} {p : Program Op Ans α} {f : α → Program Op Ans β}
    {s t : σ} {b : β} (h : Exec S (p.bind f) s b t) :
    ∃ a s', Exec S p s a s' ∧ Exec S (f a) s' b t := by
  induction p generalizing s with
  | done a => exact ⟨a, s, .done a s, h⟩
  | call e k ih =>
    cases h with
    | call hw hp hk =>
      obtain ⟨a, s', h1, h2⟩ := ih _ hk
      exact ⟨a, s', .call hw hp h1, h2⟩

theorem Exec.bind {S : System Op Ans σ} {p : Program Op Ans α} {f : α → Program Op Ans β}
    {s s' t : σ} {a : α} {b : β} (h : Exec S p s a s') (hf : Exec S (f a) s' b t) :
    Exec S (p.bind f) s b t := by
  induction h with
  | done a s => exact hf
  | call hw hp _ ih => exact .call hw hp (ih hf)

theorem Exec.task_ok {S : System Op Ans σ} {ε : Type} {p : Task Op Ans ε α}
    {f : α → Task Op Ans ε β} {s s' t : σ} {a : α} {r : Except ε β} (h : Exec S p s (.ok a) s')
    (hf : Exec S (f a) s' r t) : Exec S (p >>= f : Task Op Ans ε β) s r t :=
  Exec.bind h hf

theorem Exec.task_error {S : System Op Ans σ} {ε : Type} {p : Task Op Ans ε α}
    {f : α → Task Op Ans ε β} {s t : σ} {x : ε} (h : Exec S p s (.error x) t) :
    Exec S (p >>= f : Task Op Ans ε β) s (.error x) t :=
  Exec.bind h (.done _ t)

theorem Exec.task_bind_inv {S : System Op Ans σ} {ε : Type} {p : Task Op Ans ε α}
    {f : α → Task Op Ans ε β} {s t : σ} {b : β}
    (h : Exec S (p >>= f : Task Op Ans ε β) s (.ok b) t) :
    ∃ a s', Exec S p s (.ok a) s' ∧ Exec S (f a) s' (.ok b) t := by
  obtain ⟨r, s', hp, hf⟩ := Exec.bind_inv h
  cases r with
  | ok a => exact ⟨a, s', hp, hf⟩
  | error x => cases hf

/-- A sequence raised in its first part, or reached its second. -/
theorem Exec.task_inv {S : System Op Ans σ} {ε : Type} {p : Task Op Ans ε α}
    {f : α → Task Op Ans ε β} {s t : σ} {r : Except ε β}
    (h : Exec S (p >>= f : Task Op Ans ε β) s r t) :
    (∃ x, r = .error x ∧ Exec S p s (.error x) t) ∨
      ∃ a s', Exec S p s (.ok a) s' ∧ Exec S (f a) s' r t := by
  obtain ⟨r', s', hp, hf⟩ := Exec.bind_inv h
  cases r' with
  | ok a => exact .inr ⟨a, s', hp, hf⟩
  | error x =>
    cases hf
    exact .inl ⟨x, rfl, hp⟩

/-- A `try` clause returned, or its `except` clause was reached. -/
theorem Exec.tryCatch_inv {S : System Op Ans σ} {ε : Type} {p : Task Op Ans ε α}
    {f : ε → Task Op Ans ε α} {s t : σ} {r : Except ε α}
    (h : Exec S (tryCatch p f : Task Op Ans ε α) s r t) :
    (∃ a, r = .ok a ∧ Exec S p s (.ok a) t) ∨
      ∃ x s', Exec S p s (.error x) s' ∧ Exec S (f x) s' r t := by
  obtain ⟨r', s', hp, hf⟩ := Exec.bind_inv h
  cases r' with
  | ok a =>
    cases hf
    exact .inl ⟨a, rfl, hp⟩
  | error x => exact .inr ⟨x, s', hp, hf⟩

theorem Exec.ask_bind_inv {S : System Op Ans σ} {ε : Type} {e : Op}
    {f : Ans e → Task Op Ans ε α} {s t : σ} {r : Except ε α}
    (h : Exec S (Task.ask e >>= f : Task Op Ans ε α) s r t) :
    ∃ a s₁ s₂, S.Waits s s₁ ∧ S.performs e s₁ a s₂ ∧ Exec S (f a) s₂ r t := by
  cases h with
  | call hw hp hk => exact ⟨_, _, _, hw, hp, hk⟩

/-- An execution in a system that may do more. -/
theorem Exec.mono {S S' : System Op Ans σ} {p : Program Op Ans α} {s t : σ} {a : α}
    (h : Exec S p s a t) (hi : ∀ s s', S.interferes s s' → S'.interferes s s')
    (hp : ∀ e s r s', S.performs e s r s' → S'.performs e s r s') : Exec S' p s a t := by
  induction h with
  | done a s => exact .done a s
  | call hw hperform _ ih => exact .call (ReflTransGen.mono hi _ _ hw) (hp _ _ _ _ hperform) ih

/-- What every step keeps of the state, an execution keeps. -/
theorem Exec.keeps {S : System Op Ans σ} {R : σ → σ → Prop} (hrefl : ∀ s, R s s)
    (htrans : ∀ {s t u}, R s t → R t u → R s u) (hwaits : ∀ {s s'}, S.Waits s s' → R s s')
    (hperforms : ∀ {e s r s'}, S.performs e s r s' → R s s') {p : Program Op Ans α} {s t : σ}
    {a : α} (h : Exec S p s a t) : R s t := by
  induction h with
  | done a s => exact hrefl s
  | call hw hp _ ih => exact htrans (hwaits hw) (htrans (hperforms hp) ih)

/-- What a program promises under a contract that holds everywhere. -/
theorem Program.Safe.exec {S : System Op Ans σ} {C : Contract Op σ} {p : Program Op Ans α}
    {Q : α → σ → Prop} {s t : σ} {a : α} (h : p.Safe S C Q s) (hInv : ∀ s, C.inv s)
    (hexec : Exec S p s a t) : Q a t := by
  induction hexec with
  | done a s => exact h
  | call hw hp _ ih => exact ih (h.2 _ hw (hInv _) _ _ hp (hInv _))

/-- Every item of a loop had its round, and every round returned. -/
inductive Each {ι ε : Type} (S : System Op Ans σ) (f : ι → Task Op Ans ε PUnit) :
    List ι → σ → σ → Prop
  | nil (s : σ) : Each S f [] s s
  | cons {x : ι} {xs : List ι} {s s' t : σ} :
      Exec S (f x) s (.ok ⟨⟩) s' → Each S f xs s' t → Each S f (x :: xs) s t

/-- A loop that returned. -/
theorem Exec.forM_inv {ι ε : Type} {S : System Op Ans σ} {f : ι → Task Op Ans ε PUnit}
    {xs : List ι} {s t : σ} (h : Exec S (xs.forM f : Task Op Ans ε PUnit) s (.ok ⟨⟩) t) :
    Each S f xs s t := by
  induction xs generalizing s with
  | nil =>
    cases h
    exact .nil _
  | cons x xs ih =>
    obtain ⟨⟨⟩, s', hx, hxs⟩ := Exec.task_bind_inv h
    exact .cons hx (ih hxs)

theorem Each.exec {ι ε : Type} {S : System Op Ans σ} {f : ι → Task Op Ans ε PUnit} {xs : List ι}
    {s t : σ} (h : Each S f xs s t) : Exec S (xs.forM f : Task Op Ans ε PUnit) s (.ok ⟨⟩) t := by
  induction h with
  | nil s => exact .done _ s
  | cons hx _ ih => exact Exec.task_ok hx ih

/-- The value and the final state of a program whose calls `answer` answers. -/
def Program.run (answer : (e : Op) → σ → Ans e × σ) : Program Op Ans α → σ → α × σ
  | .done a, s => (a, s)
  | .call e k, s => (k (answer e s).1).run answer (answer e s).2

theorem Exec.ofRun {S : System Op Ans σ} {answer : (e : Op) → σ → Ans e × σ}
    (h : ∀ e s, S.performs e s (answer e s).1 (answer e s).2) (p : Program Op Ans α) (s : σ) :
    Exec S p s (p.run answer s).1 (p.run answer s).2 := by
  induction p generalizing s with
  | done a => exact .done a s
  | call e k ih => exact .call .refl (h e s) (ih _ _)

/-- The state of a server and the program it is running, if any. -/
structure Config (Op : Type) (Ans : Op → Type) (σ ρ : Type) where
  state : σ
  program : Option (Program Op Ans ρ)

/-- What a step of a run is: the rest of the world, the start or the end of the program, the answer
to a call, a crash, or a crash after the call took effect and before its answer arrived. -/
inductive Label (Op : Type) (Ans : Op → Type)
  | interference
  | start
  | answer (e : Op) (r : Ans e)
  | finish
  | crash
  | lost (e : Op) (r : Ans e)

/-- One step of the server that runs `main` again after each result that `repeats`. -/
inductive Step (S : System Op Ans σ) (main : Program Op Ans ρ) (repeats : ρ → Prop) :
    Config Op Ans σ ρ → Label Op Ans → Config Op Ans σ ρ → Prop
  | interference {s s' : σ} {p : Option (Program Op Ans ρ)} :
      S.interferes s s' → Step S main repeats ⟨s, p⟩ .interference ⟨s', p⟩
  | start (s : σ) : Step S main repeats ⟨s, none⟩ .start ⟨s, some main⟩
  | answer {e : Op} {k : Ans e → Program Op Ans ρ} {s s' : σ} {r : Ans e} : S.performs e s r s' →
      Step S main repeats ⟨s, some (.call e k)⟩ (.answer e r) ⟨s', some (k r)⟩
  | finish {a : ρ} (s : σ) : repeats a → Step S main repeats ⟨s, some (.done a)⟩ .finish ⟨s, none⟩
  | crash {s s' : σ} (p : Option (Program Op Ans ρ)) : S.crashes s s' →
      Step S main repeats ⟨s, p⟩ .crash ⟨s', none⟩
  | lost {e : Op} {k : Ans e → Program Op Ans ρ} {s s' s'' : σ} {r : Ans e} : S.performs e s r s' →
      S.crashes s' s'' → Step S main repeats ⟨s, some (.call e k)⟩ (.lost e r) ⟨s'', none⟩

/-- A run of the server whose steps are all `permitted`. -/
inductive Reaches (S : System Op Ans σ) (main : Program Op Ans ρ) (repeats : ρ → Prop)
    (permitted : σ → Label Op Ans → σ → Prop) (c₀ : Config Op Ans σ ρ) :
    Config Op Ans σ ρ → Prop
  | refl : Reaches S main repeats permitted c₀ c₀
  | tail {c c' : Config Op Ans σ ρ} {l : Label Op Ans} :
      Reaches S main repeats permitted c₀ c → Step S main repeats c l c' →
      permitted c.state l c'.state → Reaches S main repeats permitted c₀ c'

section

variable {S : System Op Ans σ} {main : Program Op Ans ρ} {repeats : ρ → Prop}
  {permitted permitted' : σ → Label Op Ans → σ → Prop} {c₀ c c' : Config Op Ans σ ρ}

theorem Reaches.mono (h : Reaches S main repeats permitted c₀ c)
    (hp : ∀ s l s', permitted s l s' → permitted' s l s') :
    Reaches S main repeats permitted' c₀ c := by
  induction h with
  | refl => exact .refl
  | tail _ hStep hPermitted ih => exact .tail ih hStep (hp _ _ _ hPermitted)

theorem Reaches.always (h : Reaches S main repeats permitted c₀ c) :
    Reaches S main repeats (fun _ _ _ => True) c₀ c :=
  h.mono fun _ _ _ _ => trivial

theorem Reaches.trans (h : Reaches S main repeats permitted c₀ c)
    (h' : Reaches S main repeats permitted c c') : Reaches S main repeats permitted c₀ c' := by
  induction h' with
  | refl => exact h
  | tail _ hStep hPermitted ih => exact .tail ih hStep hPermitted

/-- The step of a run at which a property of the state arises. -/
theorem Reaches.arises {Q : σ → Prop} (h : Reaches S main repeats permitted c₀ c)
    (h₀ : ¬ Q c₀.state) (hc : Q c.state) :
    ∃ c₁ l c₂, Reaches S main repeats permitted c₀ c₁ ∧ Step S main repeats c₁ l c₂ ∧
      ¬ Q c₁.state ∧ Q c₂.state := by
  induction h with
  | refl => exact absurd hc h₀
  | @tail c₁ c₂ l hReaches hStep hPermitted ih =>
    by_cases hQ : Q c₁.state
    · exact ih hQ
    · exact ⟨c₁, l, c₂, hReaches, hStep, hQ, hc⟩

/-- A run in which the program issues `e` in the state `s`. -/
def Issues (S : System Op Ans σ) (main : Program Op Ans ρ) (repeats : ρ → Prop)
    (permitted : σ → Label Op Ans → σ → Prop) (c₀ : Config Op Ans σ ρ) (s : σ) (e : Op) : Prop :=
  ∃ c l k, Reaches S main repeats permitted c₀ c ∧
    Step S main repeats c l ⟨s, some (.call e k)⟩ ∧ permitted c.state l s ∧ l ≠ .interference

/-- A call that the program waits for has been issued. -/
theorem Reaches.issued {e : Op} (h : Reaches S main repeats permitted c₀ c)
    (h₀ : c₀.program = none) (hc : ∃ k, c.program = some (.call e k)) :
    ∃ s, Issues S main repeats permitted c₀ s e := by
  induction h with
  | refl =>
    obtain ⟨k, hk⟩ := hc
    rw [h₀] at hk
    cases hk
  | @tail c₁ c₂ l hReaches hStep hPermitted ih =>
    obtain ⟨k, hk⟩ := hc
    by_cases hl : l = .interference
    · subst hl
      cases hStep with
      | interference => exact ih ⟨k, hk⟩
    · obtain ⟨s, p⟩ := c₂
      obtain rfl : p = some (.call e k) := hk
      exact ⟨s, c₁, l, k, hReaches, hStep, hPermitted, hl⟩

/-- What the rest of the world does while the program waits is a run. -/
theorem Reaches.waits {s s' : σ} {p : Option (Program Op Ans ρ)}
    (hp : ∀ s s', S.interferes s s' → permitted s .interference s') (h : S.Waits s s') :
    Reaches S main repeats permitted ⟨s, p⟩ ⟨s', p⟩ := by
  induction h with
  | refl => exact .refl
  | tail _ hStep ih => exact .tail ih (.interference hStep) (hp _ _ hStep)

/-- A complete execution of the program is a run of the server. -/
theorem Exec.reaches {p : Program Op Ans ρ} {s s' : σ} {a : ρ}
    (hi : ∀ s s', S.interferes s s' → permitted s .interference s')
    (ha : ∀ e s r s', S.performs e s r s' → permitted s (.answer e r) s') (h : Exec S p s a s') :
    Reaches S main repeats permitted ⟨s, some p⟩ ⟨s', some (.done a)⟩ := by
  induction h with
  | done a s => exact .refl
  | call hw hp _ ih =>
    exact ((Reaches.waits hi hw).trans (.tail .refl (.answer hp) (ha _ _ _ _ hp))).trans ih

end

/-- The steps that keep the invariant of a contract and leave the server idle where its `idle`
says. -/
structure Contract.Kept (S : System Op Ans σ) (C : Contract Op σ)
    (permitted : σ → Label Op Ans → σ → Prop) : Prop where
  interference {s s' : σ} : C.inv s → S.interferes s s' → permitted s .interference s' → C.inv s'
  idle {s s' : σ} : C.idle s → S.interferes s s' → permitted s .interference s' → C.idle s'
  answer {s₀ s s' : σ} {e : Op} {r : Ans e} : C.inv s₀ → C.allowed s₀ e → S.Waits s₀ s →
    C.inv s → S.performs e s r s' → permitted s (.answer e r) s' → C.inv s'
  crash {s s' : σ} : C.inv s → S.crashes s s' → permitted s .crash s' → C.inv s' ∧ C.idle s'
  lost {s₀ s s' s'' : σ} {e : Op} {r : Ans e} : C.inv s₀ → C.allowed s₀ e → S.Waits s₀ s →
    C.inv s → S.performs e s r s' → S.crashes s' s'' → permitted s (.lost e r) s'' →
    C.inv s'' ∧ C.idle s''

/-- `p` was issued, in a state that may have changed since, by a program that is safe under `C` and
ends in `Q`. -/
def Contract.Attends (S : System Op Ans σ) (C : Contract Op σ) (Q : ρ → σ → Prop) (s : σ) :
    Option (Program Op Ans ρ) → Prop
  | none => C.idle s
  | some (.done a) => ∃ s₀, Q a s₀ ∧ ReflTransGen S.interferes s₀ s
  | some (.call e k) => ∃ s₀, C.inv s₀ ∧ C.allowed s₀ e ∧ S.Waits s₀ s ∧
      ∀ s', S.Waits s₀ s' → C.inv s' → ∀ r s'', S.performs e s' r s'' → C.inv s'' →
        (k r).Safe S C Q s''

namespace Contract

variable {S : System Op Ans σ} {C : Contract Op σ} {Q : ρ → σ → Prop} {main : Program Op Ans ρ}
  {repeats : ρ → Prop} {permitted : σ → Label Op Ans → σ → Prop} {c₀ c c' : Config Op Ans σ ρ}

theorem Attends.ofSafe {p : Program Op Ans ρ} {s : σ} (hi : C.inv s) (h : p.Safe S C Q s) :
    Attends S C Q s (some p) := by
  cases p with
  | done a => exact ⟨s, h, .refl⟩
  | call e k => exact ⟨s, hi, h.1, .refl, h.2⟩

theorem Attends.step {l : Label Op Ans} (hKept : C.Kept S permitted)
    (hMain : ∀ s, C.inv s → C.idle s → main.Safe S C Q s)
    (hIdle : ∀ a s s', repeats a → Q a s → ReflTransGen S.interferes s s' → C.idle s')
    (hStep : Step S main repeats c l c') (hp : permitted c.state l c'.state)
    (hInv : C.inv c.state) (h : Attends S C Q c.state c.program) :
    C.inv c'.state ∧ Attends S C Q c'.state c'.program := by
  cases hStep with
  | @interference s s' p hInterferes =>
    refine ⟨hKept.interference hInv hInterferes hp, ?_⟩
    match p, h with
    | none, h => exact hKept.idle h hInterferes hp
    | some (.done a), ⟨s₀, hQ, hw⟩ => exact ⟨s₀, hQ, hw.tail hInterferes⟩
    | some (.call e k), ⟨s₀, hi, ha, hw, hk⟩ => exact ⟨s₀, hi, ha, hw.tail hInterferes, hk⟩
  | start s => exact ⟨hInv, .ofSafe hInv (hMain s hInv h)⟩
  | answer hPerforms =>
    obtain ⟨s₀, hi, ha, hw, hk⟩ := h
    have hInv' := hKept.answer hi ha hw hInv hPerforms hp
    exact ⟨hInv', .ofSafe hInv' (hk _ hw hInv _ _ hPerforms hInv')⟩
  | finish s hr =>
    obtain ⟨s₀, hQ, hw⟩ := h
    exact ⟨hInv, hIdle _ _ _ hr hQ hw⟩
  | crash p hCrash => exact hKept.crash hInv hCrash hp
  | lost hPerforms hCrash =>
    obtain ⟨s₀, hi, ha, hw, hk⟩ := h
    exact hKept.lost hi ha hw hInv hPerforms hCrash hp

/-- A server whose program is safe under a contract that its steps keep satisfies the contract in
every configuration it reaches. -/
theorem Attends.ofReaches (hKept : C.Kept S permitted)
    (hMain : ∀ s, C.inv s → C.idle s → main.Safe S C Q s)
    (hIdle : ∀ a s s', repeats a → Q a s → ReflTransGen S.interferes s s' → C.idle s')
    (hInv : C.inv c₀.state) (h₀ : Attends S C Q c₀.state c₀.program)
    (h : Reaches S main repeats permitted c₀ c) :
    C.inv c.state ∧ Attends S C Q c.state c.program := by
  induction h with
  | refl => exact ⟨hInv, h₀⟩
  | tail _ hStep hp ih => exact ih.2.step hKept hMain hIdle hStep hp ih.1

/-- The contract allows a call in the state in which the program issues it. -/
theorem Attends.ofIssues {s : σ} {e : Op} (hKept : C.Kept S permitted)
    (hMain : ∀ s, C.inv s → C.idle s → main.Safe S C Q s)
    (hIdle : ∀ a s s', repeats a → Q a s → ReflTransGen S.interferes s s' → C.idle s')
    (hInv : C.inv c₀.state) (h₀ : Attends S C Q c₀.state c₀.program)
    (h : Issues S main repeats permitted c₀ s e) : C.inv s ∧ C.allowed s e := by
  obtain ⟨c, l, k, hReaches, hStep, hp, hl⟩ := h
  obtain ⟨hc, hAttends⟩ := Attends.ofReaches hKept hMain hIdle hInv h₀ hReaches
  refine ⟨(hAttends.step hKept hMain hIdle hStep hp hc).1, ?_⟩
  generalize hCall : (⟨s, some (.call e k)⟩ : Config Op Ans σ ρ) = c' at hStep
  cases hStep with
  | interference => exact absurd rfl hl
  | start s' =>
    have hSafe := hMain s' hc hAttends
    obtain ⟨rfl, rfl⟩ : s = s' ∧ main = .call e k := by simpa [eq_comm] using hCall
    exact hSafe.1
  | @answer e' k' s₁ s₂ r hPerforms =>
    obtain ⟨s₀, hi, ha, hw, hk⟩ := hAttends
    obtain ⟨rfl, hk'⟩ : s = s₂ ∧ k' r = .call e k := by simpa [eq_comm] using hCall
    have hSafe := hk _ hw hc _ _ hPerforms (hKept.answer hi ha hw hc hPerforms hp)
    rw [hk'] at hSafe
    exact hSafe.1
  | finish | crash | lost => simp at hCall

/-- The contract that also keeps `J`. -/
def also (C : Contract Op σ) (J : σ → Prop) : Contract Op σ :=
  { C with inv := fun s => C.inv s ∧ J s }

/-- The steps that keep `J` as long as they keep the contract. -/
structure Preserves (S : System Op Ans σ) (C : Contract Op σ) (J : σ → Prop)
    (permitted : σ → Label Op Ans → σ → Prop) : Prop where
  interference {s s' : σ} : C.inv s → J s → S.interferes s s' → permitted s .interference s' → J s'
  answer {s₀ s s' : σ} {e : Op} {r : Ans e} : C.inv s₀ → J s₀ → C.allowed s₀ e → S.Waits s₀ s →
    C.inv s → J s → S.performs e s r s' → permitted s (.answer e r) s' → J s'
  crash {s s' : σ} : C.inv s → J s → S.crashes s s' → permitted s .crash s' → J s'
  lost {s₀ s s' s'' : σ} {e : Op} {r : Ans e} : C.inv s₀ → J s₀ → C.allowed s₀ e → S.Waits s₀ s →
    C.inv s → J s → S.performs e s r s' → S.crashes s' s'' → permitted s (.lost e r) s'' → J s''

theorem Kept.also {J : σ → Prop} (h : C.Kept S permitted) (hJ : C.Preserves S J permitted) :
    (C.also J).Kept S permitted where
  interference hi hStep hp := ⟨h.interference hi.1 hStep hp, hJ.interference hi.1 hi.2 hStep hp⟩
  idle := h.idle
  answer hi₀ ha hw hi hr hp :=
    ⟨h.answer hi₀.1 ha hw hi.1 hr hp, hJ.answer hi₀.1 hi₀.2 ha hw hi.1 hi.2 hr hp⟩
  crash hi hc hp := ⟨⟨(h.crash hi.1 hc hp).1, hJ.crash hi.1 hi.2 hc hp⟩, (h.crash hi.1 hc hp).2⟩
  lost hi₀ ha hw hi hr hc hp :=
    ⟨⟨(h.lost hi₀.1 ha hw hi.1 hr hc hp).1, hJ.lost hi₀.1 hi₀.2 ha hw hi.1 hi.2 hr hc hp⟩,
      (h.lost hi₀.1 ha hw hi.1 hr hc hp).2⟩

theorem also_safe {J : σ → Prop} {p : Program Op Ans ρ} {s : σ} (h : p.Safe S C Q s) :
    p.Safe S (C.also J) Q s := h.weaken (fun _ hi => hi.1) fun _ _ ha => ha

/-- The invariant and the postcondition of a safe program hold after a complete execution. -/
theorem ofExec {p : Program Op Ans ρ} {s s' : σ} {a : ρ}
    (hKept : C.Kept S permitted)
    (hi : ∀ s s', S.interferes s s' → permitted s .interference s')
    (ha : ∀ e s r s', S.performs e s r s' → permitted s (.answer e r) s')
    (hSafe : p.Safe S C Q s) (hInv : C.inv s) (h : Exec S p s a s') : Q a s' ∧ C.inv s' := by
  have hWaits : ∀ s s', C.inv s → ReflTransGen S.interferes s s' → C.inv s' := by
    intro s s' hInv hw
    induction hw with
    | refl => exact hInv
    | tail _ hStep ih => exact hKept.interference ih hStep (hi _ _ hStep)
  induction h with
  | done a s => exact ⟨hSafe, hInv⟩
  | call hw hp _ ih =>
    have hInv' := hWaits _ _ hInv hw
    have hInv'' := hKept.answer hInv hSafe.1 hw hInv' hp (ha _ _ _ _ hp)
    exact ih (hSafe.2 _ hw hInv' _ _ hp hInv'') hInv''

end Contract

end Effect
