import SafactoryServer.Effect.Run

/-! What a task can come to, whatever its calls are answered: a value or an exception of a certain
kind.  The rest of the world and the order of its steps then do not matter. -/

namespace Effect

variable {Op : Type} {Ans : Op → Type} {σ ε ε' α β : Type}

/-- Every value that `p` can return is one of `Q`. -/
def Program.Yields (Q : α → Prop) : Program Op Ans α → Prop
  | .done a => Q a
  | .call _ k => ∀ r, (k r).Yields Q

namespace Program.Yields

variable {Q Q' : α → Prop} {p : Program Op Ans α}

theorem mono (h : p.Yields Q) (hQ : ∀ a, Q a → Q' a) : p.Yields Q' := by
  induction p with
  | done a => exact hQ a h
  | call e k ih => exact fun r => ih r (h r)

theorem bind {f : α → Program Op Ans β} {R : β → Prop} (h : p.Yields Q)
    (hf : ∀ a, Q a → (f a).Yields R) : (p.bind f).Yields R := by
  induction p with
  | done a => exact hf a h
  | call e k ih => exact fun r => ih r (h r)

theorem exec {S : System Op Ans σ} {s t : σ} {a : α} (h : p.Yields Q) (hexec : Exec S p s a t) :
    Q a := by
  induction hexec with
  | done a s => exact h
  | call _ _ _ ih => exact ih (h _)

end Program.Yields

/-- A property of the values, and one of the exceptions. -/
def Task.Outcome (Q : α → Prop) (E : ε → Prop) : Except ε α → Prop
  | .ok a => Q a
  | .error x => E x

/-- `p` returns a value of `Q`, or raises an exception of `E`. -/
def Task.Yields (Q : α → Prop) (E : ε → Prop) (p : Task Op Ans ε α) : Prop :=
  Program.Yields (α := Except ε α) (Task.Outcome Q E) p

/-- `p` raises exceptions of `E` only. -/
abbrev Task.Raises (E : ε → Prop) (p : Task Op Ans ε α) : Prop := p.Yields (fun _ => True) E

/-- The task with its exceptions translated. -/
def Task.recast (f : ε → ε') (p : Task Op Ans ε α) : Task Op Ans ε' α :=
  ExceptT.mk (Program.bind p fun r => .done (r.mapError f))

namespace Task.Yields

variable {Q : α → Prop} {E : ε → Prop} {p : Task Op Ans ε α}

theorem pure {a : α} (h : Q a) : Task.Yields Q E (pure a : Task Op Ans ε α) := h

theorem throw {x : ε} (h : E x) : Task.Yields Q E (throw x : Task Op Ans ε α) := h

theorem ask {e : Op} {R : Ans e → Prop} (h : ∀ r, R r) :
    Task.Yields R E (Task.ask e : Task Op Ans ε (Ans e)) := h

theorem mono {Q' : α → Prop} {E' : ε → Prop} (h : p.Yields Q E) (hQ : ∀ a, Q a → Q' a)
    (hE : ∀ x, E x → E' x) : p.Yields Q' E' := by
  refine Program.Yields.mono h fun r hr => ?_
  cases r with
  | ok a => exact hQ a hr
  | error x => exact hE x hr

theorem bind {f : α → Task Op Ans ε β} {R : β → Prop} (h : p.Yields Q E)
    (hf : ∀ a, Q a → (f a).Yields R E) : (p >>= f).Yields R E := by
  refine Program.Yields.bind h fun r hr => ?_
  cases r with
  | ok a => exact hf a hr
  | error x => exact hr

theorem map {f : α → β} {R : β → Prop} (h : p.Yields Q E) (hf : ∀ a, Q a → R (f a)) :
    (f <$> p).Yields R E := by
  refine Program.Yields.bind h fun r hr => ?_
  cases r with
  | ok a => exact hf a hr
  | error x => exact hr

theorem tryCatch {F : ε → Prop} {f : ε → Task Op Ans ε α} (h : p.Yields Q F)
    (hf : ∀ x, F x → (f x).Yields Q E) : (tryCatch p f).Yields Q E := by
  refine Program.Yields.bind h fun r hr => ?_
  cases r with
  | ok a => exact hr
  | error x => exact hf x hr

theorem recast {F : ε' → Prop} {f : ε → ε'} (h : p.Yields Q E) (hf : ∀ x, E x → F (f x)) :
    (p.recast f).Yields Q F := by
  refine Program.Yields.bind h fun r hr => ?_
  cases r with
  | ok a => exact hr
  | error x => exact hf x hr

theorem seq {f : α → Task Op Ans ε β} {R : β → Prop} (h : p.Raises E)
    (hf : ∀ a, (f a).Yields R E) : (p >>= f).Yields R E := h.bind fun a _ => hf a

/-- A check that raises, before the rest. -/
theorem check {c : Prop} [Decidable c] {p : Task Op Ans ε PUnit} {f : PUnit → Task Op Ans ε β}
    {R : β → Prop} (h : p.Raises E) (hf : (f ⟨⟩).Yields R E) :
    (if c then p >>= f else f ⟨⟩).Yields R E := by
  split
  · exact h.seq fun _ => hf
  · exact hf

theorem catching {f : ε → Task Op Ans ε α} (h : p.Raises E) (hf : ∀ x, E x → (f x).Raises E) :
    (MonadExcept.tryCatch p f).Raises E := h.tryCatch hf

/-- What an execution of the task came to. -/
theorem exec {S : System Op Ans σ} {s t : σ} {r : Except ε α} (h : p.Yields Q E)
    (hexec : Exec S p s r t) : Task.Outcome Q E r := Program.Yields.exec h hexec

end Task.Yields

/-- A task with its exceptions translated has returned what the task has. -/
theorem Exec.recast_inv {S : System Op Ans σ} {p : Task Op Ans ε α} {f : ε → ε'} {s t : σ} {a : α}
    (h : Exec S (p.recast f) s (.ok a) t) : Exec S p s (.ok a) t := by
  obtain ⟨r, _, hp, hdone⟩ := Exec.bind_inv h
  cases r with
  | ok a' =>
    cases hdone
    exact hp
  | error x => cases hdone

theorem Task.Safe.recast {S : System Op Ans σ} {C : Contract Op σ} {p : Task Op Ans ε α}
    {Q : α → σ → Prop} {E : ε' → σ → Prop} {f : ε → ε'} {s : σ}
    (h : p.Safe S C Q (fun x => E (f x)) s) : (p.recast f).Safe S C Q E s := by
  refine Program.Safe.bind h fun r t hr => ?_
  cases r with
  | ok a => exact hr
  | error x => exact hr

end Effect
