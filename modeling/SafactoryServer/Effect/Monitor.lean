import SafactoryServer.Effect.Run

/-! Programs whose calls obey a monitor, which notes the answers so far and permits the next call.
Obedience is a fact about the text of a program; a run of a server that obeys a monitor keeps what
every permitted call keeps. -/

namespace Effect

variable {Op : Type} {Ans : Op → Type} {σ τ α β ε ρ : Type}

/-- What is noted of the answers, and which calls are permitted then. -/
structure Monitor (Op : Type) (Ans : Op → Type) (τ : Type) where
  init : τ
  permits : τ → Op → Prop
  note : τ → (e : Op) → Ans e → τ

/-- Every call of a program is permitted, whatever the answers are, and `Q` holds of its value and
of what is noted at its end. -/
def Program.Obeys (M : Monitor Op Ans τ) (Q : α → τ → Prop) : τ → Program Op Ans α → Prop
  | t, .done a => Q a t
  | t, .call e k => M.permits t e ∧ ∀ r, (k r).Obeys M Q (M.note t e r)

namespace Program.Obeys

variable {M : Monitor Op Ans τ} {t : τ} {Q : α → τ → Prop}

theorem mono {Q' : α → τ → Prop} {p : Program Op Ans α} (h : p.Obeys M Q t)
    (hQ : ∀ a t, Q a t → Q' a t) : p.Obeys M Q' t := by
  induction p generalizing t with
  | done a => exact hQ a t h
  | call e k ih => exact ⟨h.1, fun r => ih r (h.2 r)⟩

theorem bind {R : β → τ → Prop} {p : Program Op Ans α} {f : α → Program Op Ans β}
    (h : p.Obeys M Q t) (hf : ∀ a t, Q a t → (f a).Obeys M R t) : (p.bind f).Obeys M R t := by
  induction p generalizing t with
  | done a => exact hf a t h
  | call e k ih => exact ⟨h.1, fun r => ih r (h.2 r)⟩

end Program.Obeys

/-- `Q` of the value that a task returns. -/
def Task.Returns (Q : α → τ → Prop) : Except ε α → τ → Prop
  | .ok a => Q a
  | .error _ => fun _ => True

/-- A task whose calls are permitted after what `t` has noted, and that returns with `Q`. -/
abbrev Task.Notes (M : Monitor Op Ans τ) (t : τ) (p : Task Op Ans ε α) (Q : α → τ → Prop) : Prop :=
  Program.Obeys (α := Except ε α) M (Task.Returns Q) t p

/-- A task whose calls are permitted, whatever has been noted before. -/
def Task.Obeys (M : Monitor Op Ans τ) (p : Task Op Ans ε α) : Prop :=
  ∀ t, Task.Notes M t p fun _ _ => True

namespace Task

variable {M : Monitor Op Ans τ} {t : τ} {p : Task Op Ans ε α}

theorem Notes.bind {Q : α → τ → Prop} {R : β → τ → Prop} {f : α → Task Op Ans ε β}
    (h : Task.Notes M t p Q) (hf : ∀ a t, Q a t → Task.Notes M t (f a) R) :
    Task.Notes M t (p >>= f) R := by
  refine Program.Obeys.bind h fun r t hr => ?_
  cases r with
  | ok a => exact hf a t hr
  | error x => trivial

theorem Notes.map {Q : β → τ → Prop} {f : α → β} (h : Task.Notes M t p fun a => Q (f a)) :
    Task.Notes M t (f <$> p) Q := by
  refine Program.Obeys.bind h fun r t hr => ?_
  cases r with
  | ok a => exact hr
  | error x => trivial

theorem Notes.tryCatch {Q : α → τ → Prop} {f : ε → Task Op Ans ε α} (h : Task.Notes M t p Q)
    (hf : ∀ x t, Task.Notes M t (f x) Q) : Task.Notes M t (tryCatch p f) Q := by
  refine Program.Obeys.bind h fun r t hr => ?_
  cases r with
  | ok a => exact hr
  | error x => exact hf x t

theorem Notes.obeys {Q : τ → α → τ → Prop} (h : ∀ t, Task.Notes M t p (Q t)) : p.Obeys M :=
  fun t => (h t).mono fun r _ _ => by cases r <;> trivial

theorem Obeys.pure (a : α) : Task.Obeys M (pure a : Task Op Ans ε α) := fun _ => trivial

theorem Obeys.throw (x : ε) : Task.Obeys M (throw x : Task Op Ans ε α) := fun _ => trivial

theorem Obeys.bind {f : α → Task Op Ans ε β} (h : p.Obeys M) (hf : ∀ a, (f a).Obeys M) :
    Task.Obeys M (p >>= f) := fun t => (h t).bind fun a t _ => hf a t

theorem Obeys.map {f : α → β} (h : p.Obeys M) : Task.Obeys M (f <$> p) := fun t => (h t).map

theorem Obeys.tryCatch {f : ε → Task Op Ans ε α} (h : p.Obeys M) (hf : ∀ x, (f x).Obeys M) :
    Task.Obeys M (tryCatch p f) := fun t => (h t).tryCatch hf

theorem Obeys.forM {ι : Type} {f : ι → Task Op Ans ε PUnit} (h : ∀ x, (f x).Obeys M)
    (xs : List ι) : Task.Obeys M (xs.forM f : Task Op Ans ε PUnit) := by
  induction xs with
  | nil => exact .pure _
  | cons x xs ih => exact .bind (h x) fun _ => ih

/-- A call that is permitted, whatever has been noted before. -/
theorem Obeys.perform {e : Op} {f : Ans e → Except ε α} (h : ∀ t, M.permits t e) :
    Task.Obeys M (ExceptT.mk (Program.call e fun r => .done (f r))) :=
  fun t => ⟨h t, fun r => by
    show Task.Returns (fun _ _ => True) (f r) (M.note t e r)
    cases f r <;> trivial⟩

end Task

/-- What the steps of a server keep of what is noted and of the state, when every call is
permitted. -/
structure Monitor.Tracks (M : Monitor Op Ans τ) (S : System Op Ans σ) (main : Program Op Ans ρ)
    (repeats : ρ → Prop) (permitted : σ → Label Op Ans → σ → Prop) (c₀ : Config Op Ans σ ρ)
    (K : τ → σ → Prop) : Prop where
  forget {t : τ} {s : σ} : K t s → K M.init s
  interference {t : τ} {s s' : σ} : K t s → S.interferes s s' → permitted s .interference s' →
    K t s'
  answer {t : τ} {s s' : σ} {e : Op} {r : Ans e} {k : Ans e → Program Op Ans ρ} :
    Reaches S main repeats permitted c₀ ⟨s, some (.call e k)⟩ → S.performs e s r s' →
    permitted s (.answer e r) s' → K t s → M.permits t e → K (M.note t e r) s'
  crash {t : τ} {s s' : σ} : K t s → S.crashes s s' → K M.init s'
  lost {t : τ} {s s' s'' : σ} {e : Op} {r : Ans e} {k : Ans e → Program Op Ans ρ} :
    Reaches S main repeats permitted c₀ ⟨s, some (.call e k)⟩ → S.performs e s r s' →
    S.crashes s' s'' → permitted s (.lost e r) s'' → K t s → M.permits t e → K M.init s''

/-- A server whose program obeys a monitor keeps what the monitor tracks. -/
theorem Monitor.Tracks.ofReaches {M : Monitor Op Ans τ} {S : System Op Ans σ}
    {main : Program Op Ans ρ} {repeats : ρ → Prop} {permitted : σ → Label Op Ans → σ → Prop}
    {c₀ c : Config Op Ans σ ρ} {K : τ → σ → Prop}
    (hTracks : M.Tracks S main repeats permitted c₀ K)
    (hMain : main.Obeys M (fun _ _ => True) M.init) (hIdle : c₀.program = none)
    (h₀ : K M.init c₀.state) (h : Reaches S main repeats permitted c₀ c) :
    ∃ t, K t c.state ∧ ∀ p, c.program = some p → p.Obeys M (fun _ _ => True) t := by
  induction h with
  | refl => exact ⟨_, h₀, fun p hp => by rw [hIdle] at hp; cases hp⟩
  | tail hReaches hStep hPermitted ih =>
    obtain ⟨t, hK, hObeys⟩ := ih
    cases hStep with
    | interference hInterferes =>
      exact ⟨t, hTracks.interference hK hInterferes hPermitted, hObeys⟩
    | start s =>
      refine ⟨_, hTracks.forget hK, fun p hp => ?_⟩
      cases hp
      exact hMain
    | answer hPerforms =>
      obtain ⟨hPermits, hNext⟩ := hObeys _ rfl
      refine ⟨_, hTracks.answer hReaches hPerforms hPermitted hK hPermits, fun p hp => ?_⟩
      cases hp
      exact hNext _
    | finish s hRepeats => exact ⟨t, hK, fun p hp => by cases hp⟩
    | crash p hCrash => exact ⟨_, hTracks.crash hK hCrash, fun p hp => by cases hp⟩
    | lost hPerforms hCrash =>
      obtain ⟨hPermits, -⟩ := hObeys _ rfl
      exact ⟨_, hTracks.lost hReaches hPerforms hCrash hPermitted hK hPermits,
        fun p hp => by cases hp⟩

end Effect
