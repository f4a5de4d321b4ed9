import Mathlib.Data.List.TakeWhile
import Mathlib.Logic.Function.Basic

/-! The literal fragment of the POSIX shell: texts of words, quotes, escapes, `&&` and newlines, and
the commands that they spell.  A text with an expansion, a redirection, another operator or a
comment has no reading here. -/

namespace Shell

/-- The characters of a word, each with whether it was quoted. -/
abbrev Word := List (Char × Bool)

namespace Word

/-- The word after quote removal. -/
def text (word : Word) : List Char := word.map (·.1)

def quoted (text : List Char) : Word := text.map (·, true)

def plain (text : List Char) : Word := text.map (·, false)

@[simp] theorem text_append (v w : Word) : (v ++ w : Word).text = v.text ++ w.text :=
  List.map_append

@[simp] theorem text_quoted (s : List Char) : (quoted s).text = s := by
  rw [text, quoted, List.map_map]
  exact List.map_id s

@[simp] theorem text_plain (s : List Char) : (plain s).text = s := by
  rw [text, plain, List.map_map]
  exact List.map_id s

end Word

inductive Token
  | word (word : Word)
  | andIf
  | newline

/-- The characters with a meaning of their own outside of quotes, and NUL. -/
def special : List Char :=
  ['\x00', ' ', '\t', '\n', '|', '&', ';', '<', '>', '(', ')', '$', '\x60', '\\', '"', '\'', '*',
    '?', '[', ']', '#', '~', '\x7b', '\x7d', '!', '^']

def isPlain (c : Char) : Bool := !special.contains c

/-- The word that has been read so far, if any. -/
def flush (word : Option Word) : List Token := (word.map .word).toList

mutual

/-- The tokens of a text, behind what has been read of a word. -/
def scan : Option Word → List Char → Option (List Token)
  | word, [] => some (flush word)
  | word, '\'' :: rest => scanSingle (word.getD []) rest
  | word, '"' :: rest => scanDouble (word.getD []) rest
  | word, '\\' :: '\n' :: rest => scan word rest
  | word, '\\' :: c :: rest =>
    if c = '\x00' then none else scan (some (word.getD [] ++ [(c, true)])) rest
  | word, '&' :: '&' :: rest => (flush word ++ .andIf :: ·) <$> scan none rest
  | word, c :: rest =>
    if c = ' ' || c = '\t' then (flush word ++ ·) <$> scan none rest
    else if c = '\n' then (flush word ++ .newline :: ·) <$> scan none rest
    else if isPlain c then scan (some (word.getD [] ++ [(c, false)])) rest
    else none

/-- Inside of single quotes. -/
def scanSingle : Word → List Char → Option (List Token)
  | _, [] => none
  | word, c :: rest =>
    if c = '\'' then scan (some word) rest
    else if c = '\x00' then none
    else scanSingle (word ++ [(c, true)]) rest

/-- Inside of double quotes. -/
def scanDouble : Word → List Char → Option (List Token)
  | _, [] => none
  | word, '\\' :: c :: rest =>
    if c = '\x00' then none
    else if c = '\n' then scanDouble word rest
    else if ['$', '\x60', '"', '\\'].contains c then scanDouble (word ++ [(c, true)]) rest
    else scanDouble (word ++ [('\\', true), (c, true)]) rest
  | word, c :: rest =>
    if c = '"' then scan (some word) rest
    else if c = '\x00' || c = '$' || c = '\x60' then none
    else scanDouble (word ++ [(c, true)]) rest

end

/-! ### Reading a word -/

/-- A text that spells a part of a word, wherever it stands outside of quotes. -/
def Reads (text : List Char) (word : Word) : Prop :=
  ∀ before rest, scan before (text ++ rest) = scan (some (before.getD [] ++ word)) rest

namespace Reads

variable {text text' : List Char} {word word' : Word}

theorem append (h : Reads text word) (h' : Reads text' word') :
    Reads (text ++ text') (word ++ word') := by
  intro before rest
  rw [List.append_assoc, h, h', Option.getD_some, List.append_assoc]

theorem plainChar {c : Char} (hc : isPlain c = true) : Reads [c] [(c, false)] := by
  intro before rest
  have hne : ∀ d ∈ special, c ≠ d := by
    intro d hd heq
    rw [isPlain, Bool.not_eq_true', ← Bool.not_eq_true, List.contains_iff_mem] at hc
    exact hc (heq ▸ hd)
  have hspecial : ∀ d ∈ [' ', '\t', '\n', '&', '\\', '"', '\''], c ≠ d := by
    simp only [List.forall_mem_cons]
    exact ⟨hne _ (by decide), hne _ (by decide), hne _ (by decide), hne _ (by decide),
      hne _ (by decide), hne _ (by decide), hne _ (by decide), fun _ h => nomatch h⟩
  rw [List.singleton_append, scan]
  · simp [hc, hspecial]
  all_goals simp [hspecial]

/-- Plain characters, at least one of them. -/
theorem plain (h : text.all isPlain = true) (hne : text ≠ []) : Reads text (.plain text) := by
  induction text with
  | nil => exact absurd rfl hne
  | cons c rest ih =>
    rw [List.all_cons, Bool.and_eq_true] at h
    cases rest with
    | nil => exact plainChar h.1
    | cons d rest => exact (plainChar h.1).append (ih h.2 (by simp))

end Reads

/-! ### Quoting -/

/-- A text between single quotes, with another spelling of the quotes in it. -/
def quoteWith (spelling text : List Char) : List Char :=
  '\'' :: (text.flatMap (fun c => if c = '\'' then spelling else [c]) ++ ['\''])

/-- A text that closes the quotes around it, adds a quote to the word, and opens quotes again. -/
def SpellsQuote (spelling : List Char) : Prop :=
  ∀ word rest, scanSingle word (spelling ++ rest) = scanSingle (word ++ [('\'', true)]) rest

/-- `\'"\'"\'`. -/
theorem spellsQuote_double : SpellsQuote ['\'', '"', '\'', '"', '\''] := by
  intro word rest
  simp [scanSingle, scan, scanDouble]

/-- `\'\\\'\'`. -/
theorem spellsQuote_escape : SpellsQuote ['\'', '\\', '\'', '\''] := by
  intro word rest
  simp [scanSingle, scan]

theorem quoteWith_reads {spelling text : List Char} (hspelling : SpellsQuote spelling)
    (h : '\x00' ∉ text) : Reads (quoteWith spelling text) (.quoted text) := by
  intro before rest
  have hinside : ∀ word : Word, scanSingle word
      (text.flatMap (fun c => if c = '\'' then spelling else [c]) ++ '\'' :: rest) =
        scan (some (word ++ .quoted text)) rest := by
    induction text with
    | nil =>
      intro word
      rw [List.flatMap_nil, List.nil_append, scanSingle, if_pos rfl, Word.quoted, List.map_nil,
        List.append_nil]
    | cons c text ih =>
      intro word
      rw [List.mem_cons, not_or] at h
      have hword : word ++ Word.quoted (c :: text) = word ++ [(c, true)] ++ .quoted text := by
        rw [List.append_assoc]
        rfl
      rw [List.flatMap_cons, List.append_assoc, hword]
      by_cases hc : c = '\''
      · rw [if_pos hc, hspelling, ih h.2, hc]
      · rw [if_neg hc, List.singleton_append, scanSingle, if_neg hc, if_neg (Ne.symm h.1), ih h.2]
  rw [quoteWith, List.cons_append, List.append_assoc, List.singleton_append, scan, hinside]

/-! ### Words and operators -/

/-- A text that ends the word before it, and the tokens behind that word. -/
def Ends (text : List Char) (tokens : Option (List Token)) : Prop :=
  ∀ word, scan (some word) text = (Token.word word :: ·) <$> tokens

theorem ends_nil : Ends [] (some []) := fun _ => by
  rw [scan]
  rfl

theorem ends_space (rest : List Char) : Ends (' ' :: rest) (scan none rest) := by
  intro word
  rw [scan] <;> simp [flush]

theorem ends_newline (rest : List Char) :
    Ends ('\n' :: rest) ((Token.newline :: ·) <$> scan none rest) := by
  intro word
  rw [scan, Functor.map_map] <;> simp [flush]

theorem ends_andIf (rest : List Char) :
    Ends (" && ".toList ++ rest) ((Token.andIf :: ·) <$> scan none rest) := by
  intro word
  have hblank : scan none (' ' :: rest) = scan none rest := by
    rw [scan] <;> simp [flush]
  have hspaces : " && ".toList ++ rest = ' ' :: '&' :: '&' :: ' ' :: rest := by
    rw [show " && ".toList = [' ', '&', '&', ' '] by decide]
    rfl
  have hoperator : scan none ('&' :: '&' :: ' ' :: rest) =
      (Token.andIf :: ·) <$> scan none rest := by
    rw [scan, hblank]
    rfl
  rw [hspaces, ends_space, hoperator]

/-- Words with spaces between them. -/
theorem scan_words {parts : List (List Char × Word)} {tail : List Char}
    {tokens : Option (List Token)} (hne : parts ≠ []) (h : ∀ part ∈ parts, Reads part.1 part.2)
    (htail : Ends tail tokens) :
    scan none ([' '].intercalate (parts.map (·.1)) ++ tail) =
      (parts.map (fun part => Token.word part.2) ++ ·) <$> tokens := by
  induction parts with
  | nil => exact absurd rfl hne
  | cons part rest ih =>
    obtain ⟨hpart, hrest⟩ := List.forall_mem_cons.mp h
    cases rest with
    | nil =>
      rw [List.map_singleton, List.intercalate_singleton, hpart, htail]
      rfl
    | cons next rest =>
      have hscan := ih (by simp) hrest
      rw [List.map_cons] at hscan
      rw [List.map_cons, List.map_cons, List.intercalate_cons_cons, List.append_assoc,
        List.append_assoc, hpart, List.singleton_append, ends_space, hscan, Functor.map_map]
      rfl

/-! ### Commands -/

/-- A simple command: the variables that it sets, and its name with its arguments. -/
structure Command where
  assignments : List (List Char × List Char)
  argv : List (List Char)
deriving DecidableEq

def isName (name : List Char) : Bool :=
  match name with
  | [] => false
  | c :: rest => (c.isAlpha || c == '_') && rest.all fun d => d.isAlphanum || d == '_'

/-- `name=value`, with a name and an equals sign that are not quoted. -/
def assignment? (word : Word) : Option (List Char × List Char) :=
  let name := word.takeWhile fun c => c != ('=', false)
  match word.dropWhile fun c => c != ('=', false) with
  | [] => none
  | _ :: value =>
    if name.all (!·.2) && isName (Word.text name) then some (Word.text name, Word.text value)
    else none

def Command.ofWords : List Word → Command
  | [] => ⟨[], []⟩
  | word :: rest =>
    match assignment? word with
    | some assignment =>
      { ofWords rest with assignments := assignment :: (ofWords rest).assignments }
    | none => ⟨[], (word :: rest).map Word.text⟩

def Token.isNewline : Token → Bool
  | .newline => true
  | _ => false

def Token.isAndIf : Token → Bool
  | .andIf => true
  | _ => false

def Token.word? : Token → Option Word
  | .word w => some w
  | _ => none

/-- A list of commands, each run if those before it succeed. -/
def andList (tokens : List Token) : Option (List Command) :=
  (tokens.splitOnP Token.isAndIf).mapM fun part =>
    if part.isEmpty then none else some (Command.ofWords (part.filterMap Token.word?))

/-- The lists of a script, one on each line that is not blank. -/
def parse (text : List Char) : Option (List (List Command)) := do
  let tokens ← scan none text
  ((tokens.splitOnP Token.isNewline).filter fun line => !line.isEmpty).mapM andList

/-- The values of the variables of the shell. -/
abbrev Variables := List Char → Option (List Char)

def Variables.set (env : Variables) (assignment : List Char × List Char) : Variables :=
  Function.update env assignment.1 (some assignment.2)

/-- What a script of assignments sets when it is sourced. -/
def source (script : List (List Command)) (env : Variables) : Option Variables :=
  script.flatten.foldlM (fun env command =>
    if command.argv.isEmpty then some (command.assignments.foldl Variables.set env)
    else none) env

example : parse "A='x y' B=\"q\"\\' cd '' && ls".toList =
    some [[⟨[("A".toList, "x y".toList), ("B".toList, "q'".toList)], ["cd".toList, []]⟩,
      ⟨[], ["ls".toList]⟩]] := by decide

/-! ### Scripts -/

theorem assignment?_plain {name : List Char} (hname : isName name = true) (value : Word) :
    assignment? (.plain name ++ ('=', false) :: value) = some (name, value.text) := by
  have hplain : ∀ c ∈ Word.plain name, (c != ('=', false)) = true := by
    intro c hc
    obtain ⟨d, hd, rfl⟩ := List.mem_map.mp hc
    have hne : d ≠ '=' := by
      rintro rfl
      cases name with
      | nil => cases hd
      | cons c rest =>
        rw [isName, Bool.and_eq_true, List.all_eq_true] at hname
        rcases List.mem_cons.mp hd with rfl | hd
        · exact absurd hname.1 (by decide)
        · exact absurd (hname.2 _ hd) (by decide)
    simpa using hne
  have hunquoted : (Word.plain name).all (!·.2) = true := by
    rw [Word.plain, List.all_map, List.all_eq_true]
    exact fun _ _ => rfl
  rw [assignment?, List.takeWhile_append_of_pos hplain, List.dropWhile_append_of_pos hplain,
    List.takeWhile_cons_of_neg (by simp), List.dropWhile_cons_of_neg (by simp), List.append_nil]
  simp [hunquoted, hname]

/-- A command whose name is no assignment. -/
theorem ofWords_name {name : List Char} (h : '=' ∉ name) (rest : List Word) :
    Command.ofWords (.plain name :: rest) = ⟨[], name :: rest.map Word.text⟩ := by
  have hdrop : (Word.plain name).dropWhile (fun c => c != ('=', false)) = [] := by
    rw [List.dropWhile_eq_nil_iff]
    intro c hc
    obtain ⟨d, hd, rfl⟩ := List.mem_map.mp hc
    simpa using fun heq : d = '=' => h (heq ▸ hd)
  rw [Command.ofWords, assignment?, hdrop]
  simp

/-- A script of one word on each line. -/
theorem parse_lines {lines : List (List Char × Word)} (h : ∀ line ∈ lines, Reads line.1 line.2) :
    parse (lines.flatMap fun line => line.1 ++ ['\n']) =
      some (lines.map fun line => [Command.ofWords [line.2]]) := by
  have hscan : scan none (lines.flatMap fun line => line.1 ++ ['\n']) =
      some (lines.flatMap fun line => [.word line.2, .newline]) := by
    induction lines with
    | nil => rfl
    | cons line rest ih =>
      obtain ⟨hline, hrest⟩ := List.forall_mem_cons.mp h
      rw [List.flatMap_cons, List.append_assoc, hline, List.singleton_append, ends_newline,
        ih hrest]
      rfl
  have hsplit : ((lines.flatMap fun line => [.word line.2, .newline]).splitOnP
      Token.isNewline).filter (fun line => !line.isEmpty) =
        lines.map fun line => [.word line.2] := by
    clear h hscan
    induction lines with
    | nil => rfl
    | cons line rest ih =>
      rw [List.flatMap_cons, List.cons_append, List.cons_append, List.nil_append,
        List.splitOnP_cons_eq_if_modifyHead, if_neg (by simp [Token.isNewline]),
        List.splitOnP_cons_eq_if_modifyHead, if_pos (by simp [Token.isNewline]),
        List.modifyHead_cons, List.filter_cons_of_pos (by simp), ih, List.map_cons]
  rw [parse, hscan]
  change (List.filter _ (List.splitOnP _ _)).mapM andList = _
  rw [hsplit]
  clear h hscan hsplit
  induction lines with
  | nil => rfl
  | cons line rest ih => rw [List.map_cons, List.mapM_cons, ih]; rfl

/-- A script of assignments sets what it says. -/
theorem source_assignments (assignments : List (List Char × List Char)) (env : Variables) :
    source (assignments.map fun assignment => [⟨[assignment], []⟩]) env =
      some (assignments.foldl Variables.set env) := by
  induction assignments generalizing env with
  | nil => rfl
  | cons assignment rest ih => exact ih (env.set assignment)

theorem foldl_set_of_notMem {assignments : List (List Char × List Char)} {name : List Char}
    (h : name ∉ assignments.map (·.1)) (env : Variables) :
    assignments.foldl Variables.set env name = env name := by
  induction assignments generalizing env with
  | nil => rfl
  | cons assignment rest ih =>
    rw [List.map_cons, List.mem_cons, not_or] at h
    rw [List.foldl_cons, ih h.2, Variables.set, Function.update_of_ne h.1]

theorem foldl_set_of_mem {assignments : List (List Char × List Char)} {name value : List Char}
    (hdistinct : (assignments.map (·.1)).Nodup) (h : (name, value) ∈ assignments)
    (env : Variables) : assignments.foldl Variables.set env name = some value := by
  induction assignments generalizing env with
  | nil => cases h
  | cons assignment rest ih =>
    rw [List.map_cons, List.nodup_cons] at hdistinct
    rw [List.foldl_cons]
    rcases List.mem_cons.mp h with rfl | h
    · rw [foldl_set_of_notMem hdistinct.1, Variables.set, Function.update_self]
    · exact ih hdistinct.2 h _

theorem mem_intercalate {α : Type} {sep x : α} {lists : List (List α)}
    (h : x ∈ [sep].intercalate lists) : x = sep ∨ ∃ items ∈ lists, x ∈ items := by
  induction lists with
  | nil => cases h
  | cons items rest ih =>
    cases rest with
    | nil => exact .inr ⟨items, List.mem_singleton_self _, by simpa using h⟩
    | cons next rest =>
      rw [List.intercalate_cons_cons, List.mem_append, List.mem_append, List.mem_singleton] at h
      rcases h with (h | rfl) | h
      · exact .inr ⟨items, List.mem_cons_self, h⟩
      · exact .inl rfl
      · exact (ih h).imp_right fun ⟨found, hfound, hx⟩ => ⟨found, List.mem_cons_of_mem _ hfound, hx⟩

theorem splitOnP_intercalate {α : Type} {p : α → Bool} {sep : α} (hsep : p sep = true)
    {lists : List (List α)} (hne : lists ≠ []) (h : ∀ items ∈ lists, ∀ x ∈ items, p x = false) :
    ([sep].intercalate lists).splitOnP p = lists := by
  induction lists with
  | nil => exact absurd rfl hne
  | cons items rest ih =>
    obtain ⟨hitems, hrest⟩ := List.forall_mem_cons.mp h
    cases rest with
    | nil => rw [List.intercalate_singleton, List.splitOnP_eq_singleton hitems]
    | cons next rest =>
      rw [List.intercalate_cons_cons, List.append_assoc, List.singleton_append,
        List.splitOnP_append_cons_of_forall_mem hitems sep hsep, ih (by simp) hrest]

/-- Commands on one line with `&&` between them. -/
theorem parse_andList {commands : List (List (List Char × Word))} (hne : commands ≠ [])
    (h : ∀ parts ∈ commands, parts ≠ [] ∧ ∀ part ∈ parts, Reads part.1 part.2) :
    parse (" && ".toList.intercalate
        (commands.map fun parts => [' '].intercalate (parts.map (·.1)))) =
      some [commands.map fun parts => Command.ofWords (parts.map (·.2))] := by
  let tokensOf (parts : List (List Char × Word)) : List Token :=
    parts.map fun part => .word part.2
  have hscan : scan none (" && ".toList.intercalate
      (commands.map fun parts => [' '].intercalate (parts.map (·.1)))) =
        some ([Token.andIf].intercalate (commands.map tokensOf)) := by
    induction commands with
    | nil => exact absurd rfl hne
    | cons parts rest ih =>
      obtain ⟨⟨hparts, hreads⟩, hrest⟩ := List.forall_mem_cons.mp h
      cases rest with
      | nil =>
        have hlast := scan_words hparts hreads ends_nil
        rw [List.append_nil] at hlast
        rw [List.map_singleton, List.intercalate_singleton, hlast]
        simp [tokensOf]
      | cons next rest =>
        have hnext := ih (by simp) hrest
        rw [List.map_cons] at hnext
        rw [List.map_cons, List.map_cons, List.intercalate_cons_cons, List.append_assoc,
          scan_words hparts hreads (ends_andIf _), hnext]
        simp [tokensOf, List.intercalate_cons_cons]
  have hwords : ∀ tokens ∈ commands.map tokensOf, ∀ token ∈ tokens,
      token.isAndIf = false ∧ token.isNewline = false := by
    intro tokens htokens token htoken
    obtain ⟨parts, -, rfl⟩ := List.mem_map.mp htokens
    obtain ⟨part, -, rfl⟩ := List.mem_map.mp htoken
    exact ⟨rfl, rfl⟩
  have hline : ([Token.andIf].intercalate (commands.map tokensOf)).splitOnP Token.isNewline =
      [[Token.andIf].intercalate (commands.map tokensOf)] := by
    refine List.splitOnP_eq_singleton fun token htoken => ?_
    rcases mem_intercalate htoken with rfl | ⟨tokens, htokens, htoken⟩
    · rfl
    · exact (hwords tokens htokens token htoken).2
  have hne' : [Token.andIf].intercalate (commands.map tokensOf) ≠ [] := by
    obtain ⟨parts, rest, rfl⟩ := List.exists_cons_of_ne_nil hne
    obtain ⟨part, others, rfl⟩ := List.exists_cons_of_ne_nil (h _ List.mem_cons_self).1
    cases rest <;> simp [tokensOf, List.intercalate_cons_cons]
  have hcommands : andList ([Token.andIf].intercalate (commands.map tokensOf)) =
      some (commands.map fun parts => Command.ofWords (parts.map (·.2))) := by
    rw [andList, splitOnP_intercalate rfl (by simpa using hne) fun tokens htokens token htoken =>
      (hwords tokens htokens token htoken).1]
    clear hscan hwords hline hne' hne
    induction commands with
    | nil => rfl
    | cons parts rest ih =>
      obtain ⟨⟨hparts, -⟩, hrest⟩ := List.forall_mem_cons.mp h
      have hempty : (tokensOf parts).isEmpty = false := by simpa [tokensOf] using hparts
      have htexts : (tokensOf parts).filterMap Token.word? = parts.map (·.2) := by
        rw [List.filterMap_map, ← List.filterMap_eq_map]
        rfl
      rw [List.map_cons, List.mapM_cons, ih hrest, hempty, if_neg Bool.false_ne_true, htexts]
      rfl
  rw [parse, hscan]
  change (List.filter _ (List.splitOnP _ _)).mapM andList = _
  rw [hline, List.filter_cons_of_pos (by simpa using hne'), List.filter_nil, List.mapM_cons,
    hcommands]
  rfl

end Shell
