import Mathlib.Data.List.Infix

/-! Trees of files: what stands at each path, what the calls of a file system make of a tree, and
which parts of it they leave alone. -/

namespace FileTree

variable {κ ν : Type}

/-- What stands at a path. -/
inductive Node (ν : Type)
  | dir
  | file (content : ν)

/-- A tree of files, as what stands at each path, if anything does. -/
abbrev Tree (κ ν : Type) := List κ → Option (Node ν)

/-! ### Paths -/

/-- Neither path is at or below the other. -/
structure Apart (p q : List κ) : Prop where
  left : ¬ p <+: q
  right : ¬ q <+: p

namespace Apart

variable {p q r : List κ}

theorem symm (h : Apart p q) : Apart q p := ⟨h.right, h.left⟩

theorem siblings {a b : κ} (h : a ≠ b) (p : List κ) : Apart (p ++ [a]) (p ++ [b]) := by
  refine ⟨fun hp => h ?_, fun hp => h ?_⟩
  · simpa using hp.eq_of_length (by simp)
  · simpa using (hp.eq_of_length (by simp)).symm

theorem below (h : Apart p q) (r : List κ) : Apart p (q ++ r) := by
  refine ⟨fun hp => ?_, fun hq => h.right ((List.prefix_append q r).trans hq)⟩
  rcases List.prefix_or_prefix_of_prefix hp (List.prefix_append q r) with hpq | hqp
  · exact h.left hpq
  · exact h.right hqp

end Apart

/-- A path at or above `q ++ [a]` is at or above `q`, or is `q ++ [a]`. -/
theorem prefix_child {a : κ} {p q : List κ} (h : p <+: q ++ [a]) : p <+: q ∨ p = q ++ [a] := by
  rcases List.prefix_concat_iff.mp h with rfl | h
  · exact .inr rfl
  · exact .inl h

namespace Tree

/-- The tree below a path. -/
def under (t : Tree κ ν) (path : List κ) : Tree κ ν := fun p => t (path ++ p)

def absent : Tree κ ν := fun _ => none

def emptyDir : Tree κ ν
  | [] => some .dir
  | _ => none

variable [DecidableEq κ]

/-- `node` at `path`. -/
def put (t : Tree κ ν) (path : List κ) (node : Node ν) : Tree κ ν :=
  fun p => if p = path then some node else t p

/-- `u` at `path`, in place of all that was there. -/
def graft (t : Tree κ ν) (path : List κ) (u : Tree κ ν) : Tree κ ν :=
  fun p => if path <+: p then u (p.drop path.length) else t p

/-- What was at `src` is at `dst`. -/
def move (t : Tree κ ν) (src dst : List κ) : Tree κ ν :=
  (t.graft src absent).graft dst (t.under src)

/-- `path` and the directories above it, where nothing was. -/
def makeDirs (t : Tree κ ν) (path : List κ) : Tree κ ν :=
  fun p => if p <+: path then some ((t p).getD .dir) else t p

/-- The trees are the same but for what stands at or below `path`. -/
def SameOff (path : List κ) (t t' : Tree κ ν) : Prop := ∀ p, ¬ path <+: p → t' p = t p

section

variable {t t' u : Tree κ ν} {path q : List κ} {node : Node ν}

omit [DecidableEq κ] in
theorem under_append (t : Tree κ ν) (path p : List κ) :
    t.under (path ++ p) = (t.under path).under p :=
  funext fun r => congrArg t (List.append_assoc path p r)

omit [DecidableEq κ] in
theorem SameOff.under (h : SameOff path t t') (hq : Apart path q) : t'.under q = t.under q :=
  funext fun p => h (q ++ p) (hq.below p).left

theorem under_put (h : ¬ q <+: path) : (t.put path node).under q = t.under q := by
  refine funext fun p => if_neg fun hp => h ?_
  exact hp ▸ List.prefix_append q p

theorem under_put_below (p : List κ) :
    (t.put (path ++ p) node).under path = (t.under path).put p node := by
  funext r
  simp [under, put]

theorem under_graft_self : (t.graft path u).under path = u := by
  funext p
  simp [under, graft]

theorem under_graft (h : Apart path q) : (t.graft path u).under q = t.under q :=
  funext fun p => if_neg (h.below p).left

theorem under_makeDirs (h : ¬ q <+: path) : (t.makeDirs path).under q = t.under q := by
  refine funext fun p => if_neg fun hp => h ?_
  exact (List.prefix_append q p).trans hp

theorem under_move_dst {src dst : List κ} : (t.move src dst).under dst = t.under src :=
  under_graft_self

theorem under_move {src dst : List κ} (hsrc : Apart src q) (hdst : Apart dst q) :
    (t.move src dst).under q = t.under q :=
  (under_graft hdst).trans (under_graft hsrc)

end

end Tree

end FileTree
