import SafactoryServer.Effect.Run

/-! Runs of programs whose calls a function answers, and rules for two such runs at once: what the
two programs return and the states they end in stay related, and the first makes only allowed
calls. -/

namespace Effect

variable {Op : Type} {Ans : Op → Type} {σ ε α β γ δ : Type}

/-- The calls that a program makes, in order. -/
def Program.calls (answer : (e : Op) → σ → Ans e × σ) : Program Op Ans α → σ → List Op
  | .done _, _ => []
  | .call e k, s => e :: (k (answer e s).1).calls answer (answer e s).2

namespace Program

variable {answer : (e : Op) → σ → Ans e × σ}

theorem run_bind (p : Program Op Ans α) (f : α → Program Op Ans β) (s : σ) :
    (p.bind f).run answer s = (f (p.run answer s).1).run answer (p.run answer s).2 := by
  induction p generalizing s with
  | done a => rfl
  | call e k ih => exact ih _ _

theorem calls_bind (p : Program Op Ans α) (f : α → Program Op Ans β) (s : σ) :
    (p.bind f).calls answer s =
      p.calls answer s ++ (f (p.run answer s).1).calls answer (p.run answer s).2 := by
  induction p generalizing s with
  | done a => rfl
  | call e k ih => exact congrArg _ (ih _ _)

end Program

namespace Task

variable {answer : (e : Op) → σ → Ans e × σ}

/-- What a task returns or raises, and the state it ends in. -/
def run (answer : (e : Op) → σ → Ans e × σ) (p : Task Op Ans ε α) (s : σ) : Except ε α × σ :=
  Program.run (α := Except ε α) answer p s

/-- The calls that a task makes, in order. -/
def calls (answer : (e : Op) → σ → Ans e × σ) (p : Task Op Ans ε α) (s : σ) : List Op :=
  Program.calls (α := Except ε α) answer p s

/-- `p`, run from `s`, makes `calls` and ends with `r` in `s'`. -/
structure Runs (answer : (e : Op) → σ → Ans e × σ) (p : Task Op Ans ε α) (s : σ) (r : Except ε α)
    (s' : σ) (calls : List Op) : Prop where
  run : p.run answer s = (r, s')
  calls : p.calls answer s = calls

namespace Runs

variable {s s' s'' : σ} {calls calls' : List Op}

theorem pure (a : α) : Runs answer (pure a : Task Op Ans ε α) s (.ok a) s [] := ⟨rfl, rfl⟩

theorem throw (x : ε) : Runs answer (throw x : Task Op Ans ε α) s (.error x) s [] := ⟨rfl, rfl⟩

/-- Every task runs. -/
theorem self (p : Task Op Ans ε α) (s : σ) :
    Runs answer p s (p.run answer s).1 (p.run answer s).2 (p.calls answer s) := ⟨rfl, rfl⟩

theorem unique {p : Task Op Ans ε α} {r r' : Except ε α} (h : Runs answer p s r s' calls)
    (h' : Runs answer p s r' s'' calls') : r = r' ∧ s' = s'' ∧ calls = calls' := by
  obtain ⟨hr, hs⟩ := Prod.mk.inj (h.run.symm.trans h'.run)
  exact ⟨hr, hs, h.calls.symm.trans h'.calls⟩

theorem ask {e : Op} {r : Ans e} (h : answer e s = (r, s')) :
    Runs answer (Task.ask e : Task Op Ans ε (Ans e)) s (.ok r) s' [e] := by
  refine ⟨?_, rfl⟩
  show (Except.ok (answer e s).1, (answer e s).2) = _
  rw [h]

/-- A program whose first part has run. -/
theorem program {p : Task Op Ans ε α} {f : Except ε α → Program Op Ans (Except ε β)}
    {r : Except ε α} {r' : Except ε β} (h : Runs answer p s r s' calls)
    (hrun : (f r).run answer s' = (r', s'')) (hcalls : (f r).calls answer s' = calls') :
    Runs answer (ExceptT.mk (Program.bind p f)) s r' s'' (calls ++ calls') := by
  have hp : Program.run answer p s = (r, s') := h.run
  constructor
  · refine (Program.run_bind p f s).trans ?_
    rw [hp]
    exact hrun
  · refine (Program.calls_bind p f s).trans ?_
    rw [hp, hcalls]
    exact congrArg (· ++ calls') h.calls

theorem bind {p : Task Op Ans ε α} {f : α → Task Op Ans ε β} {a : α} {r : Except ε β}
    (h : Runs answer p s (.ok a) s' calls) (hf : Runs answer (f a) s' r s'' calls') :
    Runs answer (p >>= f) s r s'' (calls ++ calls') :=
  h.program hf.run hf.calls

theorem bind_error {p : Task Op Ans ε α} {f : α → Task Op Ans ε β} {x : ε}
    (h : Runs answer p s (.error x) s' calls) : Runs answer (p >>= f) s (.error x) s' calls := by
  have := h.program (f := ExceptT.bindCont f) rfl rfl
  rwa [show Program.calls answer (ExceptT.bindCont f (.error x)) s' = [] from rfl,
    List.append_nil] at this

theorem map {p : Task Op Ans ε α} {f : α → β} {r : Except ε α} (h : Runs answer p s r s' calls) :
    Runs answer (f <$> p) s (r.map f) s' calls := by
  have := h.program (f := fun r => .done (r.map f)) rfl rfl
  rw [Program.calls, List.append_nil] at this
  refine Eq.mp (congrArg (Runs answer · s _ s' calls) ?_) this
  refine congrArg (Program.bind p) (funext fun r => ?_)
  cases r <;> rfl

/-- A `try` clause goes on with its `except` clause, or is done. -/
def handled (f : ε → Task Op Ans ε α) : Except ε α → Program Op Ans (Except ε α)
  | .ok a => .done (.ok a)
  | .error x => f x

theorem tryCatch_error {p : Task Op Ans ε α} {f : ε → Task Op Ans ε α} {x : ε} {r : Except ε α}
    (h : Runs answer p s (.error x) s' calls) (hf : Runs answer (f x) s' r s'' calls') :
    Runs answer (tryCatch p f) s r s'' (calls ++ calls') := by
  have := h.program (f := handled f) hf.run hf.calls
  refine Eq.mp (congrArg (Runs answer · s _ s'' _) ?_) this
  refine congrArg (Program.bind p) (funext fun r => ?_)
  cases r <;> rfl

theorem tryCatch {p : Task Op Ans ε α} {f : ε → Task Op Ans ε α} {a : α}
    (h : Runs answer p s (.ok a) s' calls) : Runs answer (tryCatch p f) s (.ok a) s' calls := by
  have hcalls : (handled f (.ok a)).calls answer s' = [] := rfl
  have := h.program (f := handled f) rfl hcalls
  rw [List.append_nil] at this
  refine Eq.mp (congrArg (Runs answer · s _ s' calls) ?_) this
  refine congrArg (Program.bind p) (funext fun r => ?_)
  cases r <;> rfl

end Runs

/-- A call that returned. -/
theorem run_ask_inv {e : Op} {r : Ans e} {s s' : σ}
    (h : run answer (Task.ask e : Task Op Ans ε (Ans e)) s = (.ok r, s')) :
    answer e s = (r, s') := by
  have hr : Except.ok (answer e s).1 = (Except.ok r : Except ε (Ans e)) := congrArg Prod.fst h
  have hs : (answer e s).2 = s' := congrArg Prod.snd h
  exact Prod.ext (Except.ok.inj hr) hs

/-- A sequence that returned: its first part returned. -/
theorem run_bind_inv {p : Task Op Ans ε α} {f : α → Task Op Ans ε β} {s t : σ} {b : β}
    (h : run answer (p >>= f) s = (.ok b, t)) :
    ∃ a s', run answer p s = (.ok a, s') ∧ run answer (f a) s' = (.ok b, t) := by
  cases hp : run answer p s with
  | mk r s' =>
    cases r with
    | ok a =>
      have hp' : Runs answer p s (.ok a) s' (p.calls answer s) := ⟨hp, rfl⟩
      exact ⟨a, s', rfl, (hp'.bind (Runs.self (f a) s')).run.symm.trans h⟩
    | error x =>
      have herror := Runs.bind_error (f := f) ⟨hp, rfl⟩
      rw [herror.run] at h
      cases h

/-- A `try` clause that returned, or its `except` clause did. -/
theorem run_tryCatch_inv {p : Task Op Ans ε α} {f : ε → Task Op Ans ε α} {s t : σ} {a : α}
    (h : run answer (tryCatch p f) s = (.ok a, t)) :
    run answer p s = (.ok a, t) ∨
      ∃ x s', run answer p s = (.error x, s') ∧ run answer (f x) s' = (.ok a, t) := by
  cases hp : run answer p s with
  | mk r s' =>
    have hp' : Runs answer p s r s' (p.calls answer s) := ⟨hp, rfl⟩
    cases r with
    | ok a' => exact .inl ((hp'.tryCatch (f := f)).run.symm.trans h)
    | error x => exact .inr ⟨x, s', rfl, (hp'.tryCatch_error (Runs.self (f x) s')).run.symm.trans h⟩

end Task

/-- The program makes only calls that `P` allows, whatever they answer. -/
def Program.Asks (P : Op → Prop) : Program Op Ans α → Prop
  | .done _ => True
  | .call e k => P e ∧ ∀ r, (k r).Asks P

theorem Program.Asks.bind {P : Op → Prop} {p : Program Op Ans α} {f : α → Program Op Ans β}
    (h : p.Asks P) (hf : ∀ a, (f a).Asks P) : (p.bind f).Asks P := by
  induction p with
  | done a => exact hf a
  | call e k ih => exact ⟨h.1, fun r => ih r (h.2 r)⟩

theorem Program.Asks.mono {P Q : Op → Prop} {p : Program Op Ans α} (h : p.Asks P)
    (hPQ : ∀ e, P e → Q e) : p.Asks Q := by
  induction p with
  | done a => trivial
  | call e k ih => exact ⟨hPQ e h.1, fun r => ih r (h.2 r)⟩

/-- A view of the state that neither the calls of a program nor the rest of the world changes. -/
theorem Program.Asks.exec {τ : Type} {S : System Op Ans σ} {P : Op → Prop} {p : Program Op Ans α}
    {view : σ → τ} (h : p.Asks P) (hwaits : ∀ s s', S.Waits s s' → view s' = view s)
    (hcall : ∀ e s r s', P e → S.performs e s r s' → view s' = view s) {s s' : σ} {a : α}
    (hexec : Exec S p s a s') : view s' = view s := by
  induction hexec with
  | done a s => rfl
  | call hw hp _ ih => exact (ih (h.2 _)).trans ((hcall _ _ _ _ h.1 hp).trans (hwaits _ _ hw))

/-- A program whose calls are all allowed ends where one of its executions ends. -/
theorem Program.Asks.safe {S : System Op Ans σ} {C : Contract Op σ} {P : Op → Prop}
    {p : Program Op Ans α} (h : p.Asks P) (hP : ∀ s e, P e → C.allowed s e) (s : σ) :
    p.Safe S C (fun a s' => Exec S p s a s') s := by
  induction p generalizing s with
  | done a => exact .done a s
  | call e k ih =>
    refine ⟨hP s e h.1, fun s' hw _ r s'' hp _ => ?_⟩
    exact (ih r (h.2 r) s'').mono fun a t hexec => .call hw hp hexec

/-- `Program.Asks` for tasks. -/
def Task.Asks (P : Op → Prop) (p : Task Op Ans ε α) : Prop := Program.Asks (α := Except ε α) P p

namespace Task.Asks

variable {P : Op → Prop} {p : Task Op Ans ε α}

theorem pure (a : α) : Task.Asks P (pure a : Task Op Ans ε α) := trivial

theorem throw (x : ε) : Task.Asks P (throw x : Task Op Ans ε α) := trivial

theorem ask {e : Op} (h : P e) : Task.Asks P (Task.ask e : Task Op Ans ε (Ans e)) :=
  ⟨h, fun _ => trivial⟩

theorem bind {f : α → Task Op Ans ε β} (h : p.Asks P) (hf : ∀ a, (f a).Asks P) :
    Task.Asks P (p >>= f) := by
  refine Program.Asks.bind h fun r => ?_
  cases r with
  | ok a => exact hf a
  | error x => exact throw x

theorem map {f : α → β} (h : p.Asks P) : Task.Asks P (f <$> p) := by
  refine Program.Asks.bind h fun r => ?_
  cases r <;> trivial

theorem tryCatch {f : ε → Task Op Ans ε α} (h : p.Asks P) (hf : ∀ x, (f x).Asks P) :
    Task.Asks P (tryCatch p f) := by
  refine Program.Asks.bind h fun r => ?_
  cases r with
  | ok a => exact pure a
  | error x => exact hf x

theorem mono {Q : Op → Prop} (h : p.Asks P) (hPQ : ∀ e, P e → Q e) : p.Asks Q :=
  Program.Asks.mono h hPQ

theorem forM {ι : Type} {f : ι → Task Op Ans ε PUnit} {items : List ι}
    (h : ∀ item ∈ items, (f item).Asks P) : Task.Asks P (items.forM f) := by
  induction items with
  | nil => exact pure _
  | cons item rest ih =>
    rw [List.forall_mem_cons] at h
    exact bind h.1 fun _ => ih h.2

theorem safe {S : System Op Ans σ} {C : Contract Op σ} (h : p.Asks P)
    (hP : ∀ s e, P e → C.allowed s e) (s : σ) :
    p.Safe S C (fun a s' => Exec S p s (.ok a) s') (fun x s' => Exec S p s (.error x) s') s := by
  refine Program.Safe.mono (Program.Asks.safe h hP s) fun r s' hexec => ?_
  cases r with
  | ok a => exact hexec
  | error x => exact hexec

end Task.Asks

/-- Two programs, run from `s` and `s'`: the first makes only calls that `allowed` allows, `V`
relates the values, and `R` the states. -/
structure Program.Coupled (answer answer' : (e : Op) → σ → Ans e × σ) (allowed : Op → Prop)
    (R : σ → σ → Prop) (p : Program Op Ans α) (p' : Program Op Ans β) (V : α → β → Prop)
    (s s' : σ) : Prop where
  calls : ∀ e ∈ p.calls answer s, allowed e
  values : V (p.run answer s).1 (p'.run answer' s').1
  states : R (p.run answer s).2 (p'.run answer' s').2

section

variable {answer answer' : (e : Op) → σ → Ans e × σ} {allowed : Op → Prop} {R : σ → σ → Prop}
  {s s' : σ}

namespace Program.Coupled

theorem bind {p : Program Op Ans α} {p' : Program Op Ans β} {f : α → Program Op Ans γ}
    {f' : β → Program Op Ans δ} {V : α → β → Prop} {W : γ → δ → Prop}
    (h : p.Coupled answer answer' allowed R p' V s s')
    (hf : ∀ a b t t', V a b → R t t' → (f a).Coupled answer answer' allowed R (f' b) W t t') :
    (p.bind f).Coupled answer answer' allowed R (p'.bind f') W s s' := by
  have hrest := hf _ _ _ _ h.values h.states
  constructor
  · intro e he
    rw [Program.calls_bind] at he
    rcases List.mem_append.mp he with he | he
    · exact h.calls e he
    · exact hrest.calls e he
  · rw [Program.run_bind, Program.run_bind]
    exact hrest.values
  · rw [Program.run_bind, Program.run_bind]
    exact hrest.states

end Program.Coupled

/-- A program whose calls are all answered alike runs alike. -/
theorem Program.Coupled.self {P : Op → Prop} {p : Program Op Ans α} (h : p.Asks P)
    (hP : ∀ e, P e → allowed e ∧ ∀ t, answer e t = answer' e t) (s : σ) :
    p.Coupled answer answer' allowed (· = ·) p (· = ·) s s := by
  induction p generalizing s with
  | done a => exact ⟨fun _ he => (List.not_mem_nil he).elim, rfl, rfl⟩
  | call e k ih =>
    have hrest := ih (answer e s).1 (h.2 _) (answer e s).2
    have hstep : (Program.call e k).run answer' s =
        (k (answer e s).1).run answer' (answer e s).2 := by
      rw [(hP e h.1).2 s]
      rfl
    refine ⟨?_, ?_, ?_⟩
    · intro f hf
      rcases List.mem_cons.mp hf with rfl | hf
      · exact (hP f h.1).1
      · exact hrest.calls f hf
    · rw [hstep]
      exact hrest.values
    · rw [hstep]
      exact hrest.states

/-- Related values, or equal exceptions. -/
def Task.Both (V : α → β → Prop) : Except ε α → Except ε β → Prop
  | .ok a, .ok b => V a b
  | .error x, .error y => x = y
  | _, _ => False

theorem Task.Both.refl {V : α → α → Prop} (h : ∀ a, V a a) (r : Except ε α) : Task.Both V r r := by
  cases r with
  | ok a => exact h a
  | error x => exact rfl

theorem Task.Both.eq {r r' : Except ε α} (h : Task.Both (· = ·) r r') : r = r' := by
  match r, r', h with
  | .ok _, .ok _, rfl => rfl
  | .error _, .error _, rfl => rfl

theorem Task.Both.bind {V : α → β → Prop} {W : γ → δ → Prop} {r : Except ε α} {r' : Except ε β}
    {f : α → Except ε γ} {g : β → Except ε δ} (h : Task.Both V r r')
    (hf : ∀ a b, V a b → Task.Both W (f a) (g b)) : Task.Both W (r >>= f) (r' >>= g) := by
  match r, r', h with
  | .ok a, .ok b, hv => exact hf a b hv
  | .error _, .error _, rfl => exact rfl

theorem Task.Both.map {V : α → β → Prop} {W : γ → δ → Prop} {r : Except ε α} {r' : Except ε β}
    {f : α → γ} {g : β → δ} (h : Task.Both V r r') (hf : ∀ a b, V a b → W (f a) (g b)) :
    Task.Both W (f <$> r) (g <$> r') := by
  match r, r', h with
  | .ok a, .ok b, hv => exact hf a b hv
  | .error _, .error _, rfl => exact rfl

/-- `Program.Coupled` for tasks. -/
def Task.Coupled (answer answer' : (e : Op) → σ → Ans e × σ) (allowed : Op → Prop)
    (R : σ → σ → Prop) (p : Task Op Ans ε α) (p' : Task Op Ans ε β) (V : α → β → Prop)
    (s s' : σ) : Prop :=
  Program.Coupled (α := Except ε α) (β := Except ε β) answer answer' allowed R p p' (Task.Both V)
    s s'

namespace Task.Coupled

variable {p : Task Op Ans ε α} {p' : Task Op Ans ε β} {V : α → β → Prop}

theorem mono {W : α → β → Prop} (h : p.Coupled answer answer' allowed R p' V s s')
    (hw : ∀ a b, V a b → W a b) : p.Coupled answer answer' allowed R p' W s s' := by
  refine ⟨h.calls, ?_, h.states⟩
  have hv := h.values
  revert hv
  cases Program.run (α := Except ε α) answer p s with
  | mk r t =>
    cases Program.run (α := Except ε β) answer' p' s' with
    | mk r' t' =>
      cases r with
      | ok a =>
        cases r' with
        | ok b => exact hw a b
        | error x => exact id
      | error x =>
        cases r' with
        | ok b => exact id
        | error y => exact id

theorem pure {a : α} {b : β} (hv : V a b) (hr : R s s') :
    Task.Coupled answer answer' allowed R (pure a : Task Op Ans ε α) (pure b : Task Op Ans ε β) V
      s s' :=
  ⟨fun _ he => (List.not_mem_nil he).elim, hv, hr⟩

theorem throw (x : ε) (hr : R s s') :
    Task.Coupled answer answer' allowed R (throw x : Task Op Ans ε α)
      (throw x : Task Op Ans ε β) V s s' :=
  ⟨fun _ he => (List.not_mem_nil he).elim, rfl, hr⟩

theorem bind {f : α → Task Op Ans ε γ} {f' : β → Task Op Ans ε δ} {W : γ → δ → Prop}
    (h : p.Coupled answer answer' allowed R p' V s s')
    (hf : ∀ a b t t', V a b → R t t' → (f a).Coupled answer answer' allowed R (f' b) W t t') :
    Task.Coupled answer answer' allowed R (p >>= f) (p' >>= f') W s s' := by
  refine Program.Coupled.bind h fun r r' t t' hv hr => ?_
  match r, r', hv with
  | .ok a, .ok b, hv => exact hf a b t t' hv hr
  | .error x, .error _, rfl => exact throw x hr

theorem map {f : α → γ} {f' : β → δ} {W : γ → δ → Prop}
    (h : p.Coupled answer answer' allowed R p' (fun a b => W (f a) (f' b)) s s') :
    Task.Coupled answer answer' allowed R (f <$> p) (f' <$> p') W s s' := by
  refine Program.Coupled.bind h fun r r' t t' hv hr => ?_
  match r, r', hv with
  | .ok a, .ok b, hv => exact pure hv hr
  | .error x, .error _, rfl => exact throw x hr

theorem tryCatch {f : ε → Task Op Ans ε α} {f' : ε → Task Op Ans ε β}
    (h : p.Coupled answer answer' allowed R p' V s s')
    (hf : ∀ x t t', R t t' → (f x).Coupled answer answer' allowed R (f' x) V t t') :
    Task.Coupled answer answer' allowed R (tryCatch p f) (tryCatch p' f') V s s' := by
  refine Program.Coupled.bind h fun r r' t t' hv hr => ?_
  match r, r', hv with
  | .ok a, .ok b, hv => exact pure hv hr
  | .error x, .error _, rfl => exact hf x t t' hr

theorem self {P : Op → Prop} {p : Task Op Ans ε α} (h : p.Asks P)
    (hP : ∀ e, P e → allowed e ∧ ∀ t, answer e t = answer' e t) (s : σ) :
    p.Coupled answer answer' allowed (· = ·) p (· = ·) s s := by
  have hself := Program.Coupled.self h hP s
  refine ⟨hself.calls, ?_, hself.states⟩
  have hv := hself.values
  rw [← hv]
  exact Both.refl (fun _ => rfl) _

/-- Coupled runs with equal values and equal states. -/
theorem run_eq {p' : Task Op Ans ε α}
    (h : p.Coupled answer answer' allowed (· = ·) p' (· = ·) s s') :
    p.run answer s = p'.run answer' s' := Prod.ext h.values.eq h.states

/-- A call that never raises. -/
theorem ask {e : Op} {V : Ans e → Ans e → Prop} (ha : allowed e)
    (hv : V (answer e s).1 (answer' e s').1) (hr : R (answer e s).2 (answer' e s').2) :
    Task.Coupled answer answer' allowed R (Task.ask (ε := ε) e) (Task.ask e) V s s' :=
  ⟨by simpa [Task.ask, ExceptT.mk, Program.calls] using ha, hv, hr⟩

end Task.Coupled

end

end Effect
