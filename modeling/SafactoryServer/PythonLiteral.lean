import Mathlib.Data.List.Basic
import Mathlib.Tactic.IntervalCases

/-! String literals of Python, as the interpreter reads them, and the displays of lists of them.
Literals in triple quotes and the escapes that name a character are not read. -/

namespace PythonLiteral

def hexDigit? (c : Char) : Option Nat :=
  if '0' ≤ c ∧ c ≤ '9' then some (c.toNat - '0'.toNat)
  else if 'a' ≤ c ∧ c ≤ 'f' then some (c.toNat - 'a'.toNat + 10)
  else if 'A' ≤ c ∧ c ≤ 'F' then some (c.toNat - 'A'.toNat + 10)
  else none

/-- The number that the next `width` hexadecimal digits make, after the digits of `n`. -/
def hexNumber? : (width n : Nat) → List Char → Option (Nat × List Char)
  | 0, n, text => some (n, text)
  | _ + 1, _, [] => none
  | width + 1, n, c :: text => (hexDigit? c).bind fun d => hexNumber? width (16 * n + d) text

/-- The character of an escape of `width` hexadecimal digits. -/
def hexChar? (width : Nat) (text : List Char) : Option (List Char × List Char) := do
  let (n, text) ← hexNumber? width 0 text
  if n.isValidChar then some ([Char.ofNat n], text) else none

def octalDigit? (c : Char) : Option Nat :=
  if '0' ≤ c ∧ c ≤ '7' then some (c.toNat - '0'.toNat) else none

/-- The number of at most `width` octal digits, after the digits of `n`. -/
def octalNumber : (width n : Nat) → List Char → Nat × List Char
  | 0, n, text => (n, text)
  | _ + 1, n, [] => (n, [])
  | width + 1, n, c :: text =>
    match octalDigit? c with
    | some d => octalNumber width (8 * n + d) text
    | none => (n, c :: text)

/-- What an escape stands for: its text follows the backslash. -/
def escape? : List Char → Option (List Char × List Char)
  | [] => none
  | c :: text =>
    if c = '\n' then some ([], text)
    else if c = '\\' ∨ c = '\'' ∨ c = '"' then some ([c], text)
    else if c = 'a' then some ([Char.ofNat 7], text)
    else if c = 'b' then some ([Char.ofNat 8], text)
    else if c = 't' then some (['\t'], text)
    else if c = 'n' then some (['\n'], text)
    else if c = 'v' then some ([Char.ofNat 11], text)
    else if c = 'f' then some ([Char.ofNat 12], text)
    else if c = 'r' then some (['\r'], text)
    else if c = 'x' then hexChar? 2 text
    else if c = 'u' then hexChar? 4 text
    else if c = 'U' then hexChar? 8 text
    else if c = 'N' then none
    else if (octalDigit? c).isSome then
      let (n, text) := octalNumber 3 0 (c :: text)
      some ([Char.ofNat n], text)
    else some (['\\', c], text)

/-- The characters that a literal denotes after its opening quote, and what follows the literal. -/
def body (quote : Char) : (fuel : Nat) → List Char → Option (List Char × List Char)
  | 0, _ | _, [] => none
  | fuel + 1, c :: text =>
    if c = quote then some ([], text)
    else if c = '\n' then none
    else if c = '\\' then do
      let (chars, text) ← escape? text
      let (more, text) ← body quote fuel text
      return (chars ++ more, text)
    else do
      let (more, text) ← body quote fuel text
      return (c :: more, text)

/-- The literal at the beginning of a text. -/
def string? : List Char → Option (List Char × List Char)
  | [] => none
  | quote :: text =>
    if quote ≠ '\'' ∧ quote ≠ '"' then none
    else if [quote, quote].isPrefixOf text then none
    else body quote text.length text

/-- The items of a list display, after the first bracket, and what follows the last one. -/
def items? : (fuel : Nat) → List Char → Option (List (List Char) × List Char)
  | 0, _ => none
  | fuel + 1, text => do
    let (item, text) ← string? text
    match text with
    | ']' :: text => some ([item], text)
    | ',' :: ' ' :: text =>
      let (items, text) ← items? fuel text
      return (item :: items, text)
    | _ => none

example : string? "'it\\'s\\x41\\u00e9'+".toList = some ("it'sAé".toList, ['+']) := by
  decide +kernel

/-! ### A text that is written piece by piece -/

/-- `piece` stands for `chars` in a literal, whatever follows it there. -/
def Piece (quote : Char) (piece chars : List Char) : Prop :=
  ∀ text more rest fuel, body quote fuel text = some (more, rest) →
    body quote (fuel + piece.length) (piece ++ text) = some (chars ++ more, rest)

variable {quote : Char}

/-- More fuel does no harm. -/
theorem body_mono {fuel fuel' : Nat} {text : List Char} {result : List Char × List Char}
    (h : body quote fuel text = some result) (hle : fuel ≤ fuel') :
    body quote fuel' text = some result := by
  induction fuel generalizing fuel' text result with
  | zero => cases text <;> cases h
  | succ fuel ih =>
    obtain ⟨fuel', rfl⟩ : ∃ n, fuel' = n + 1 := ⟨fuel' - 1, by omega⟩
    cases text with
    | nil => cases h
    | cons c text =>
      have hRest : ∀ {text more rest}, body quote fuel text = some (more, rest) →
          body quote fuel' text = some (more, rest) := fun h => ih h (Nat.le_of_succ_le_succ hle)
      unfold body at h ⊢
      split_ifs at h ⊢ with hQuote hLine hSlash
      · exact h
      · simp only [Option.bind_eq_bind, Option.bind_eq_some_iff] at h ⊢
        obtain ⟨⟨chars, text'⟩, hEscape, ⟨more, rest⟩, hMore, heq⟩ := h
        exact ⟨_, hEscape, _, hRest hMore, heq⟩
      · simp only [Option.bind_eq_bind, Option.bind_eq_some_iff] at h ⊢
        obtain ⟨⟨more, rest⟩, hMore, heq⟩ := h
        exact ⟨_, hRest hMore, heq⟩

/-- A character that stands for itself. -/
theorem Piece.char {c : Char} (hQuote : c ≠ quote) (hLine : c ≠ '\n') (hSlash : c ≠ '\\') :
    Piece quote [c] [c] := by
  intro text more rest fuel h
  rw [List.singleton_append, List.length_singleton, body, if_neg hQuote, if_neg hLine,
    if_neg hSlash, h]
  rfl

/-- An escape. -/
theorem Piece.escape {escape chars : List Char} (hQuote : '\\' ≠ quote)
    (hEscape : ∀ text, escape? (escape ++ text) = some (chars, text)) :
    Piece quote ('\\' :: escape) chars := by
  intro text more rest fuel h
  have hMono := body_mono h (Nat.le_add_right fuel escape.length)
  rw [List.cons_append, List.length_cons, ← Nat.add_assoc, body, if_neg hQuote,
    if_neg (by decide), if_pos rfl, hEscape]
  simp only [Option.bind_eq_bind, Option.bind_some, hMono]
  rfl

/-- Pieces one after another make a literal. -/
theorem body_pieces {pieces : List (List Char × List Char)}
    (h : ∀ p ∈ pieces, Piece quote p.1 p.2) (rest : List Char) :
    body quote ((pieces.flatMap (·.1)).length + 1)
      (pieces.flatMap (·.1) ++ quote :: rest) = some (pieces.flatMap (·.2), rest) := by
  induction pieces with
  | nil => simp [body]
  | cons p pieces ih =>
    have hRest := h p List.mem_cons_self _ _ _ _ (ih fun q hq => h q (List.mem_cons_of_mem _ hq))
    rw [List.flatMap_cons, List.flatMap_cons, List.append_assoc, List.length_append]
    refine Eq.trans (congrArg (body quote · _) ?_) hRest
    omega

/-- The digits of an escape. -/
theorem hexNumber?_append {width n m : Nat} {digits text : List Char}
    (h : hexNumber? width n digits = some (m, [])) :
    hexNumber? width n (digits ++ text) = some (m, text) := by
  induction width generalizing n digits with
  | zero =>
    cases h
    rfl
  | succ width ih =>
    cases digits with
    | nil => cases h
    | cons c digits =>
      rw [hexNumber?, Option.bind_eq_some_iff] at h
      obtain ⟨d, hd, h⟩ := h
      rw [List.cons_append, hexNumber?, hd]
      exact ih h

/-- One more digit. -/
theorem hexNumber?_snoc {width n m d : Nat} {digits : List Char} {c : Char}
    (h : hexNumber? width n digits = some (m, [])) (hd : hexDigit? c = some d) :
    hexNumber? (width + 1) n (digits ++ [c]) = some (16 * m + d, []) := by
  induction width generalizing n digits with
  | zero =>
    cases h
    rw [List.nil_append, hexNumber?, hd]
    rfl
  | succ width ih =>
    cases digits with
    | nil => cases h
    | cons e digits =>
      rw [hexNumber?, Option.bind_eq_some_iff] at h
      obtain ⟨k, hk, h⟩ := h
      rw [List.cons_append, hexNumber?, hk]
      exact ih h

theorem hexDigit?_digitChar : ∀ d < 16, hexDigit? (Nat.digitChar d) = some d := by decide

/-- The escape of a character by `width` hexadecimal digits. -/
theorem hexChar?_append {width : Nat} {digits : List Char} {c : Char}
    (h : hexNumber? width 0 digits = some (c.toNat, [])) (text : List Char) :
    hexChar? width (digits ++ text) = some ([c], text) := by
  have hValid : c.toNat.isValidChar := c.valid
  rw [hexChar?, hexNumber?_append h]
  simp only [Option.bind_eq_bind, Option.bind_some, if_pos hValid, Char.ofNat_toNat]

/-- A literal whose body is made of pieces. -/
theorem string?_pieces {pieces : List (List Char × List Char)}
    (hQuote : quote = '\'' ∨ quote = '"') (h : ∀ p ∈ pieces, Piece quote p.1 p.2)
    (hFirst : ∀ p ∈ pieces, p.1.head? ≠ some quote ∧ p.1 ≠ []) {rest : List Char}
    (hRest : rest.head? ≠ some quote) :
    string? (quote :: (pieces.flatMap (·.1) ++ quote :: rest)) =
      some (pieces.flatMap (·.2), rest) := by
  have hTriple : [quote, quote].isPrefixOf (pieces.flatMap (·.1) ++ quote :: rest) = false := by
    cases pieces with
    | nil =>
      cases rest with
      | nil => simp [List.isPrefixOf]
      | cons c rest =>
        have hNe : quote ≠ c := fun heq => hRest (by rw [heq, List.head?_cons])
        simp [List.isPrefixOf, hNe]
    | cons p pieces =>
      obtain ⟨hHead, hNil⟩ := hFirst p List.mem_cons_self
      obtain ⟨c, piece, hp⟩ := List.exists_cons_of_ne_nil hNil
      have hNe : quote ≠ c := fun heq => hHead (by rw [hp, heq, List.head?_cons])
      simp [hp, List.isPrefixOf, hNe]
  have hMember : ¬ (quote ≠ '\'' ∧ quote ≠ '"') := by
    rcases hQuote with rfl | rfl <;> decide
  rw [string?, if_neg hMember, hTriple, if_neg Bool.false_ne_true]
  refine body_mono (body_pieces h rest) ?_
  rw [List.length_append, List.length_cons]
  omega

/-- A literal of characters that stand for themselves. -/
theorem string?_plain {chars rest : List Char} (hQuote : quote = '\'' ∨ quote = '"')
    (h : ∀ c ∈ chars, c ≠ quote ∧ c ≠ '\n' ∧ c ≠ '\\') (hRest : rest.head? ≠ some quote) :
    string? (quote :: (chars ++ quote :: rest)) = some (chars, rest) := by
  have hPiece : ∀ p ∈ chars.map fun c => ([c], [c]), Piece quote p.1 p.2 := by
    intro p hp
    obtain ⟨c, hc, rfl⟩ := List.mem_map.mp hp
    exact .char (h c hc).1 (h c hc).2.1 (h c hc).2.2
  have hHead : ∀ p ∈ chars.map fun c => ([c], [c]), p.1.head? ≠ some quote ∧ p.1 ≠ [] := by
    intro p hp
    obtain ⟨c, hc, rfl⟩ := List.mem_map.mp hp
    simp [(h c hc).1]
  have hPieces := string?_pieces hQuote hPiece hHead hRest
  simpa [List.flatMap_map, List.flatMap_singleton'] using hPieces

/-- The last item of a display. -/
theorem items?_last {text item rest : List Char} (h : string? text = some (item, ']' :: rest))
    (fuel : Nat) : items? (fuel + 1) text = some ([item], rest) := by
  rw [items?, h]
  rfl

/-- An item before others. -/
theorem items?_cons {text item rest after : List Char} {items : List (List Char)} {fuel : Nat}
    (h : string? text = some (item, ',' :: ' ' :: rest))
    (hItems : items? fuel rest = some (items, after)) :
    items? (fuel + 1) text = some (item :: items, after) := by
  rw [items?, h]
  simp only [Option.bind_eq_bind, Option.bind_some, hItems]
  rfl

end PythonLiteral
