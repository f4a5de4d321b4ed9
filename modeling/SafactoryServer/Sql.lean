import Mathlib.Data.List.Basic

/-! Filters in the literal syntax of SQL: words, symbols and single-quoted literals, in which a
doubled quote stands for a quote and nothing else is an escape.  A literal with its quotes doubled
lexes to the text it was made of, whatever the text and whatever follows. -/

namespace Sql

inductive Token
  | word (name : String)
  | symbol (c : Char)
  | literal (text : String)
deriving DecidableEq, Repr

/-- Where a lexer is: between tokens, in a word, in a literal, or behind a quote that ends the
literal unless another one follows.  The characters read are in reverse. -/
inductive Mode
  | outside
  | word (read : List Char)
  | literal (read : List Char)
  | closing (read : List Char)
deriving DecidableEq

def wordChar (c : Char) : Bool := c.isAlphanum || c = '_'

def outside (c : Char) : List Token × Mode :=
  if c.isWhitespace then ([], .outside)
  else if c = '\'' then ([], .literal [])
  else if wordChar c then ([], .word [c])
  else ([.symbol c], .outside)

/-- The token that ends before a character. -/
def ended (t : Token) (next : List Token × Mode) : List Token × Mode := (t :: next.1, next.2)

def step : Mode → Char → List Token × Mode
  | .outside, c => outside c
  | .word read, c =>
    if wordChar c then ([], .word (c :: read))
    else ended (.word (String.ofList read.reverse)) (outside c)
  | .literal read, c => if c = '\'' then ([], .closing read) else ([], .literal (c :: read))
  | .closing read, c =>
    if c = '\'' then ([], .literal (c :: read))
    else ended (.literal (String.ofList read.reverse)) (outside c)

/-- The tokens of characters and the mode behind them. -/
def steps : Mode → List Char → List Token × Mode
  | mode, [] => ([], mode)
  | mode, c :: rest =>
    let next := step mode c
    let tail := steps next.2 rest
    (next.1 ++ tail.1, tail.2)

/-- The last token; a literal without its closing quote is an error. -/
def finish : Mode → Option (List Token)
  | .outside => some []
  | .word read => some [.word (String.ofList read.reverse)]
  | .literal _ => none
  | .closing read => some [.literal (String.ofList read.reverse)]

def lex (text : String) : Option (List Token) :=
  let (tokens, mode) := steps .outside text.toList
  (finish mode).map (tokens ++ ·)

/-- Every quote doubled. -/
def doubled (text : List Char) : List Char :=
  text.flatMap fun c => if c = '\'' then ['\'', '\''] else [c]

theorem steps_append (mode : Mode) (front back : List Char) :
    steps mode (front ++ back) =
      ((steps mode front).1 ++ (steps (steps mode front).2 back).1,
        (steps (steps mode front).2 back).2) := by
  induction front generalizing mode with
  | nil => rfl
  | cons c front ih =>
    rw [List.cons_append, steps, steps, ih]
    simp [List.append_assoc]

/-- A text with its quotes doubled stays inside its literal. -/
theorem steps_doubled (read text : List Char) :
    steps (.literal read) (doubled text) = ([], .literal (text.reverse ++ read)) := by
  induction text generalizing read with
  | nil => rfl
  | cons c text ih =>
    rw [doubled, List.flatMap_cons, ← doubled, steps_append]
    by_cases hc : c = '\''
    · subst hc
      show _ = ([], Mode.literal (List.reverse ('\'' :: text) ++ read))
      rw [show steps (.literal read) (if '\'' = '\'' then ['\'', '\''] else ['\'']) =
        ([], .literal ('\'' :: read)) from rfl, ih]
      simp
    · rw [if_neg hc, show steps (.literal read) [c] = ([], .literal (c :: read)) by
        simp [steps, step, hc], ih]
      simp

/-! ### Conditions -/

/-- A conjunction of comparisons of a column with a literal. -/
def conjuncts : List Token → Option (List (String × String))
  | [.word column, .symbol '=', .literal value] => some [(column, value)]
  | .word column :: .symbol '=' :: .literal value :: .word "AND" :: rest =>
    (conjuncts rest).map ((column, value) :: ·)
  | _ => none

/-- The records of which a condition holds, given the texts of their columns. -/
def holds (condition : String) (column : String → Option String) : Bool :=
  match (lex condition).bind conjuncts with
  | none => false
  | some equations => equations.all fun (name, value) => column name = some value

end Sql
