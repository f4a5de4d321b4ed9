import Mathlib.Logic.Relation

/-! Programs that call operations and wait for the answers, in a state that the rest of the world
may change while they wait.  `Safe` is the weakest precondition of such a program under a contract:
an invariant of the state that holds around every call, and what the program promises when it
issues a call. -/

namespace Effect

open Relation (ReflTransGen)

/-- A program over the operations `Op`: it returns a value, or calls an operation and continues
with the answer. -/
inductive Program (Op : Type) (Ans : Op → Type) (α : Type) : Type
  | done (a : α)
  | call (e : Op) (k : Ans e → Program Op Ans α)

namespace Program

variable {Op : Type} {Ans : Op → Type} {α β : Type}

protected def bind : Program Op Ans α → (α → Program Op Ans β) → Program Op Ans β
  | .done a, f => f a
  | .call e k, f => .call e fun r => (k r).bind f

instance : Monad (Program Op Ans) where
  pure := .done
  bind := Program.bind

/-- The program that calls `e` and returns its answer. -/
def perform (e : Op) : Program Op Ans (Ans e) := .call e .done

@[simp] theorem done_bind (a : α) (f : α → Program Op Ans β) : (done a >>= f) = f a := rfl

@[simp] theorem call_bind (e : Op) (k : Ans e → Program Op Ans α) (f : α → Program Op Ans β) :
    (call e k >>= f) = call e fun r => k r >>= f := rfl

@[simp] theorem pure_eq (a : α) : (pure a : Program Op Ans α) = done a := rfl

end Program

/-- A program that returns or raises an exception. -/
abbrev Task (Op : Type) (Ans : Op → Type) (ε α : Type) := ExceptT ε (Program Op Ans) α

namespace Task

variable {Op : Type} {Ans : Op → Type} {ε α β : Type}

/-- The task that calls `e`, whose answer is never an exception. -/
def ask (e : Op) : Task Op Ans ε (Ans e) := ExceptT.mk (.call e fun r => .done (.ok r))

end Task

/-- What operations do to a state.  `performs e s r s'` says that `e`, performed in `s`, may answer
`r` and leave `s'`; `interferes` is one step of the rest of the world; `crashes` is what the state
looks like to the program that starts after a crash. -/
structure System (Op : Type) (Ans : Op → Type) (σ : Type) where
  performs : (e : Op) → σ → Ans e → σ → Prop
  interferes : σ → σ → Prop
  crashes : σ → σ → Prop

variable {Op : Type} {Ans : Op → Type} {σ ε α β : Type}

/-- What the rest of the world may do between the issue of an operation and its effect. -/
def System.Waits (S : System Op Ans σ) : σ → σ → Prop := ReflTransGen S.interferes

/-- What holds wherever a program is safe: `inv` around every call, `allowed` of the state and the
operation when a call is issued, and `idle` while no program runs. -/
structure Contract (Op : Type) (σ : Type) where
  inv : σ → Prop
  idle : σ → Prop
  allowed : σ → Op → Prop

/-- Every call that `p` issues from `s` on is allowed, and `Q` holds of its value and the state it
ends in, as long as the invariant holds around every call. -/
def Program.Safe (S : System Op Ans σ) (C : Contract Op σ) :
    Program Op Ans α → (α → σ → Prop) → σ → Prop
  | .done a, Q, s => Q a s
  | .call e k, Q, s => C.allowed s e ∧ ∀ s', S.Waits s s' → C.inv s' →
      ∀ r s'', S.performs e s' r s'' → C.inv s'' → (k r).Safe S C Q s''

namespace Program.Safe

variable {S : System Op Ans σ} {C : Contract Op σ}

theorem mono {p : Program Op Ans α} {Q Q' : α → σ → Prop} {s : σ} (h : p.Safe S C Q s)
    (hQ : ∀ a s, Q a s → Q' a s) : p.Safe S C Q' s := by
  induction p generalizing s with
  | done a => exact hQ a s h
  | call e k ih =>
    exact ⟨h.1, fun s' hw hi r s'' hp hi' => ih r (h.2 s' hw hi r s'' hp hi')⟩

/-- A contract that assumes more and promises less. -/
theorem weaken {C' : Contract Op σ} {p : Program Op Ans α} {Q : α → σ → Prop} {s : σ}
    (h : p.Safe S C Q s) (hInv : ∀ s, C'.inv s → C.inv s)
    (hAllowed : ∀ s e, C.allowed s e → C'.allowed s e) : p.Safe S C' Q s := by
  induction p generalizing s with
  | done a => exact h
  | call e k ih =>
    exact ⟨hAllowed s e h.1, fun s' hw hi r s'' hp hi' =>
      ih r (h.2 s' hw (hInv s' hi) r s'' hp (hInv s'' hi'))⟩

theorem bind {p : Program Op Ans α} {f : α → Program Op Ans β} {R : α → σ → Prop}
    {Q : β → σ → Prop} {s : σ} (h : p.Safe S C R s) (hf : ∀ a s', R a s' → (f a).Safe S C Q s') :
    (p.bind f).Safe S C Q s := by
  induction p generalizing s with
  | done a => exact hf a s h
  | call e k ih =>
    exact ⟨h.1, fun s' hw hi r s'' hp hi' => ih r (h.2 s' hw hi r s'' hp hi')⟩

end Program.Safe

/-- `Q` of the value that a task returns, `E` of the exception that it raises. -/
def Task.Ends (Q : α → σ → Prop) (E : ε → σ → Prop) : Except ε α → σ → Prop
  | .ok a => Q a
  | .error x => E x

/-- `Program.Safe` for a task. -/
def Task.Safe (S : System Op Ans σ) (C : Contract Op σ) (p : Task Op Ans ε α) (Q : α → σ → Prop)
    (E : ε → σ → Prop) (s : σ) : Prop :=
  Program.Safe S C (α := Except ε α) p (Task.Ends Q E) s

namespace Task.Safe

variable {S : System Op Ans σ} {C : Contract Op σ} {Q : α → σ → Prop} {E : ε → σ → Prop} {s : σ}

theorem mono {p : Task Op Ans ε α} {Q' : α → σ → Prop} {E' : ε → σ → Prop} (h : p.Safe S C Q E s)
    (hQ : ∀ a s, Q a s → Q' a s) (hE : ∀ x s, E x s → E' x s) : p.Safe S C Q' E' s := by
  refine Program.Safe.mono h fun r s hr => ?_
  cases r with
  | ok a => exact hQ a s hr
  | error x => exact hE x s hr

theorem pure {a : α} (h : Q a s) : Task.Safe S C (pure a) Q E s := h

theorem throw {x : ε} (h : E x s) : Task.Safe S C (throw x) Q E s := h

theorem bind {p : Task Op Ans ε β} {f : β → Task Op Ans ε α} {R : β → σ → Prop} {F : ε → σ → Prop}
    (h : p.Safe S C R F s) (hok : ∀ b s', R b s' → (f b).Safe S C Q E s')
    (herr : ∀ x s', F x s' → E x s') : Task.Safe S C (p >>= f) Q E s := by
  refine Program.Safe.bind (R := Task.Ends R F) h fun r s' hr => ?_
  cases r with
  | ok b => exact hok b s' hr
  | error x => exact herr x s' hr

theorem pure_bind {b : β} {f : β → Task Op Ans ε α} (h : (f b).Safe S C Q E s) :
    Task.Safe S C (Pure.pure b >>= f) Q E s := h

theorem map {p : Task Op Ans ε β} {f : β → α} (h : p.Safe S C (fun b s => Q (f b) s) E s) :
    Task.Safe S C (f <$> p) Q E s := by
  refine Program.Safe.bind (R := Task.Ends (fun b s => Q (f b) s) E) h fun r s' hr => ?_
  cases r with
  | ok b => exact hr
  | error x => exact hr

theorem tryCatch {p : Task Op Ans ε α} {f : ε → Task Op Ans ε α} {F : ε → σ → Prop}
    (h : p.Safe S C Q F s) (herr : ∀ x s', F x s' → (f x).Safe S C Q E s') :
    Task.Safe S C (tryCatch p f) Q E s := by
  refine Program.Safe.bind (R := Task.Ends Q F) h fun r s' hr => ?_
  cases r with
  | ok a => exact hr
  | error x => exact herr x s' hr

/-- A call that never raises. -/
theorem ask {e : Op} {R : Ans e → σ → Prop} (ha : C.allowed s e)
    (h : ∀ s', S.Waits s s' → C.inv s' → ∀ r s'', S.performs e s' r s'' → C.inv s'' → R r s'') :
    Task.Safe S C (Task.ask (ε := ε) e) R E s := ⟨ha, h⟩

/-- A loop keeps an invariant over the items still to come that one round of it keeps. -/
theorem forM {ι : Type} {f : ι → Task Op Ans ε PUnit} {xs : List ι} {I : List ι → σ → Prop}
    (hStep : ∀ x rest s, I (x :: rest) s → (f x).Safe S C (fun _ => I rest) E s) (h : I xs s) :
    Task.Safe S C (xs.forM f) (fun _ => I []) E s := by
  induction xs generalizing s with
  | nil => exact h
  | cons x rest ih => exact bind (hStep x rest s h) (fun _ _ ha => ih ha) fun _ _ hx => hx

end Task.Safe

end Effect
