import SafactoryServer.Regex.Shapes
import SafactoryServer.Yaml

/-! `_expand_environment`: the references to environment variables in an initialization document,
and what stands in their place. -/

namespace SafactoryServer.Expansion

open Regex

def isNameStart (c : Char) : Bool := c.isAlpha || c == '_'

def isNameChar (c : Char) : Bool := c.isAlpha || c.isDigit || c == '_'

/-- `_ENV_REFERENCE`. -/
def envReference : Pattern :=
  .seq (.lit ['$', '\x7b']) (.seq
    (.group 1 (.seq (.char isNameStart) (.many true isNameChar)))
    (.seq (.optional (.seq (.lit [':', '-']) (.group 2 (.many true (· != '\x7d')))))
      (.char (· == '\x7d'))))

/-- The strings of the interpreter, and `os.getenv`. -/
structure Environment extends Unicode where
  getenv : String → Option String

section

variable (env : Environment)

/-- `substitute`. -/
def substitute (found : Match) : Except PyExc (List Char) :=
  let name := (found.group 1).getD []
  let required : Except PyExc (List Char) :=
    match found.group 2 with
    | some default => .ok default
    | none => .error .valueError
  match env.getenv (String.ofList name) with
  | none => required
  | some result => if env.strip result = "" then required else .ok result.toList

/-- `_ENV_REFERENCE.sub(substitute, value)`. -/
def expandString (text : String) : Except PyExc String := do
  return String.ofList (← envReference.sub (substitute env) text.toList)

mutual

/-- `_expand_environment`. -/
def expandEnvironment : YamlValue → Except PyExc YamlValue
  | .dict entries => do return .dict (← expandEntries entries)
  | .list items => do return .list (← expandItems items)
  | .str text => do return .str (← expandString env text)
  | value => .ok value

def expandItems : List YamlValue → Except PyExc (List YamlValue)
  | [] => .ok []
  | item :: rest => do return (← expandEnvironment item) :: (← expandItems rest)

def expandEntries : List (YamlValue × YamlValue) → Except PyExc (List (YamlValue × YamlValue))
  | [] => .ok []
  | (key, value) :: rest => do return (key, ← expandEnvironment value) :: (← expandEntries rest)

end

/-- The exceptions that `load_initialization_config` reports. -/
def isReported (e : PyExc) : Bool :=
  [.valueError, .other "OSError", .other "UnicodeError", .other "YAMLError",
    .other "ValidationError"].contains e

/-- `load_initialization_config`, with what `yaml.safe_load` makes of the file, the resolution of
the paths, and the check of the schema. -/
def loadInitializationConfig {α : Type} (raw : Except PyExc YamlValue)
    (resolveRuntimePaths : YamlValue → Except PyExc YamlValue)
    (modelValidate : YamlValue → Except PyExc α) : Except PyExc α :=
  let config : Except PyExc α := do
    let raw ← raw
    if raw.isDict then
      let expanded ← expandEnvironment env raw
      modelValidate (← resolveRuntimePaths expanded)
    else throw .valueError
  match config with
  | .ok config => .ok config
  | .error e => if isReported e then .error .trustedConfigError else .error e

end

/-! ### The references in a text -/

/-- A character of a text, or a reference in it. -/
inductive Token
  | char (c : Char)
  | reference (name : List Char) (default : Option (List Char))
deriving DecidableEq

/-- The text of a token. -/
def Token.text : Token → List Char
  | .char c => [c]
  | .reference name none => ['$', '\x7b'] ++ name ++ ['\x7d']
  | .reference name (some default) => ['$', '\x7b'] ++ name ++ [':', '-'] ++ default ++ ['\x7d']

/-- A name is a letter or underscore and letters, digits and underscores; a default has no closing
brace. -/
structure IsReference (name : List Char) (default : Option (List Char)) : Prop where
  start : name.head?.any isNameStart = true
  chars : ∀ c ∈ name, isNameChar c = true
  default : ∀ text ∈ default, '\x7d' ∉ text

/-- A text from left to right: where a reference begins, that reference, and elsewhere a
character. -/
inductive Tokens : List Char → List Token → Prop
  | nil : Tokens [] []
  | reference {name default rest tokens} : IsReference name default → Tokens rest tokens →
      Tokens ((Token.reference name default).text ++ rest) (.reference name default :: tokens)
  | char {c rest tokens} :
      (∀ name default left, IsReference name default →
        c :: rest ≠ (Token.reference name default).text ++ left) →
      Tokens rest tokens → Tokens (c :: rest) (.char c :: tokens)

theorem token_text_ne (name : List Char) (default : Option (List Char)) :
    (Token.reference name default).text ≠ [] := by
  cases default <;> simp [Token.text]

/-! ### The matches are the references -/

section

variable {name before rest text : List Char} {default : Option (List Char)}

/-- The groups of a reference, the last one first. -/
def groupsOf (name : List Char) : Option (List Char) → List (Nat × List Char)
  | none => [(1, name)]
  | some default => [(2, default), (1, name)]

/-- What follows the name in a reference. -/
def behindName : Option (List Char) → List Char
  | none => ['\x7d']
  | some default => [':', '-'] ++ default ++ ['\x7d']

theorem token_text_eq (name : List Char) (default : Option (List Char)) :
    (Token.reference name default).text = ['$', '\x7b'] ++ (name ++ behindName default) := by
  cases default <;> simp [Token.text, behindName]

/-- What follows the name in `envReference`. -/
def behindNamePattern : Pattern :=
  .seq (.optional (.seq (.lit [':', '-']) (.group 2 (.many true (· != '\x7d')))))
    (.char (· == '\x7d'))

theorem behindName_none (s : State) (h : s.rest.head?.any isNameChar = true) :
    behindNamePattern.results s = [] := by
  obtain ⟨before, rest, groups⟩ := s
  cases rest with
  | nil => cases h
  | cons c rest =>
    have hc : isNameChar c = true := by simpa using h
    have hcolon : ¬ ':' = c := by rintro rfl; revert hc; decide
    have hbrace : ¬ c = '\x7d' := by rintro rfl; revert hc; decide
    simp [behindNamePattern, Pattern.optional, Pattern.results, Pattern.lit_results, hcolon, hbrace]

theorem behindName_results (hdefault : ∀ text ∈ default, '\x7d' ∉ text) (before rest : List Char)
    (groups : List (Nat × List Char)) :
    behindNamePattern.results ⟨before, behindName default ++ rest, groups⟩ =
      [⟨(behindName default).reverse ++ before, rest,
        (default.map fun text => (2, text)).toList ++ groups⟩] := by
  cases default with
  | none =>
    simp [behindNamePattern, behindName, Pattern.optional, Pattern.results, Pattern.lit_results,
      State.advance]
  | some text =>
    have hall : ∀ c ∈ text, (c != '\x7d') = true := by
      intro c hc
      rw [bne_iff_ne]
      rintro rfl
      exact hdefault text rfl hc
    have hrun : (text ++ '\x7d' :: rest).takeWhile (· != '\x7d') = text ∧
        (text ++ '\x7d' :: rest).dropWhile (· != '\x7d') = '\x7d' :: rest := by
      rw [List.takeWhile_append_of_pos hall, List.dropWhile_append_of_pos hall]
      simp
    have hgroup := Pattern.group_results (n := 2)
      (s := ⟨['-', ':'] ++ before, text ++ '\x7d' :: rest, groups⟩)
      (r := .many true (· != '\x7d')) rfl fun x hx => (mem_repeated.mp hx).1
    -- the longest default is the only one that a brace follows
    have hlongest := repeated_flatMap (p := (· != '\x7d'))
      (g := fun x => (Pattern.char (· == '\x7d')).results
        ⟨x.1.reverse ++ (['-', ':'] ++ before), x.2, (2, x.1) :: groups⟩) (by
          rintro m (_ | ⟨c, left⟩) hleft
          · cases hleft
          · have hc : ¬ c = '\x7d' := by simpa using hleft
            simp [Pattern.results, hc]) (text ++ '\x7d' :: rest)
    rw [hrun.1, hrun.2] at hlongest
    have hoptional : (Pattern.seq (.lit [':', '-']) (.group 2 (.many true (· != '\x7d')))).results
        ⟨before, ':' :: '-' :: (text ++ '\x7d' :: rest), groups⟩ =
        (Pattern.group 2 (.many true (· != '\x7d'))).results
          ⟨['-', ':'] ++ before, text ++ '\x7d' :: rest, groups⟩ := by
      rw [Pattern.results, Pattern.lit_results]
      simp [State.advance]
    have htext : behindName (some text) ++ rest = ':' :: '-' :: (text ++ '\x7d' :: rest) := by
      simp [behindName]
    rw [htext, behindNamePattern, Pattern.results, Pattern.optional, Pattern.results, hoptional,
      hgroup, List.flatMap_append, List.flatMap_map]
    refine (congrArg (· ++ _) hlongest).trans ?_
    simp [Pattern.results, State.advance, behindName]

theorem behindName_run (default : Option (List Char)) (rest : List Char) :
    (behindName default ++ rest).takeWhile isNameChar = [] ∧
    (behindName default ++ rest).dropWhile isNameChar = behindName default ++ rest := by
  have hbrace : isNameChar '\x7d' = false := by decide
  have hcolon : isNameChar ':' = false := by decide
  cases default <;> simp [behindName, hbrace, hcolon]

theorem envReference_results (h : IsReference name default) (before rest : List Char) :
    envReference.results ⟨before, (Token.reference name default).text ++ rest, []⟩ =
      [⟨(Token.reference name default).text.reverse ++ before, rest, groupsOf name default⟩] := by
  obtain ⟨hstart, hchars, hdefault⟩ := h
  cases name with
  | nil => cases hstart
  | cons c chars =>
    have hstart : isNameStart c = true := by simpa using hstart
    have hchars := (List.forall_mem_cons.mp hchars).2
    obtain ⟨htake, hdrop⟩ := behindName_run default rest
    -- what is left behind the opening brace, and the longest name in it
    let s : State := ⟨['\x7b', '$'] ++ before, c :: (chars ++ (behindName default ++ rest)), []⟩
    have hrun : (chars ++ (behindName default ++ rest)).takeWhile isNameChar = chars ∧
        (chars ++ (behindName default ++ rest)).dropWhile isNameChar =
          behindName default ++ rest := by
      rw [List.takeWhile_append_of_pos hchars, List.dropWhile_append_of_pos hchars, htake, hdrop,
        List.append_nil]
      exact ⟨rfl, rfl⟩
    have hname : (Pattern.seq (.char isNameStart) (.many true isNameChar)).results s =
        ((repeated true isNameChar (chars ++ (behindName default ++ rest))).map
          fun x => (c :: x.1, x.2)).map fun x => s.advance x.1 x.2 := by
      simp [Pattern.results, s, hstart, State.advance]
    have hgroup := Pattern.group_results (n := 1) hname fun x hx => by
      obtain ⟨y, hy, rfl⟩ := List.mem_map.mp hx
      exact congrArg (c :: ·) (mem_repeated.mp hy).1
    have hlongest := repeated_flatMap (p := isNameChar)
      (g := fun x => behindNamePattern.results
        { s.advance (c :: x.1) x.2 with groups := (1, c :: x.1) :: s.groups })
      (fun m left hleft => behindName_none _ hleft) (chars ++ (behindName default ++ rest))
    rw [hrun.1, hrun.2] at hlongest
    have htext : (Token.reference (c :: chars) default).text ++ rest =
        '$' :: '\x7b' :: c :: (chars ++ (behindName default ++ rest)) := by
      simp [token_text_eq]
    have hopen : envReference.results
        ⟨before, '$' :: '\x7b' :: c :: (chars ++ (behindName default ++ rest)), []⟩ =
        ((Pattern.group 1 (.seq (.char isNameStart) (.many true isNameChar))).results s).flatMap
          behindNamePattern.results := by
      rw [envReference, Pattern.results, Pattern.lit_results]
      simp [State.advance, Pattern.results, s, behindNamePattern]
    rw [htext, hopen, hgroup, List.flatMap_map, List.flatMap_map]
    refine hlongest.trans ((behindName_results hdefault _ rest _).trans ?_)
    cases default <;> simp [token_text_eq, behindName, groupsOf, s, State.advance]

theorem matchAt_reference (h : IsReference name default) (before rest : List Char) :
    envReference.matchAt before ((Token.reference name default).text ++ rest) =
      some ⟨(Token.reference name default).text, groupsOf name default⟩ := by
  have hhead := congrArg List.head? (envReference_results h before rest)
  exact Pattern.matchAt_of_head hhead rfl (token_text_ne name default)

theorem envReference_accepts {m : List Char} (h : envReference.Accepts m) :
    ∃ name default, IsReference name default ∧ m = (Token.reference name default).text := by
  obtain ⟨_, _, rfl, hlit, name, _, rfl, ⟨_, chars, rfl, ⟨c, hc, rfl⟩, hchars⟩, _, _, rfl,
    hoptional, ⟨d, hd, rfl⟩⟩ := h
  rw [Pattern.lit_accepts hlit]
  have hstart : isNameChar c = true := by
    revert hc
    simp only [isNameStart, isNameChar, Bool.or_eq_true]
    tauto
  have hd : d = '\x7d' := by simpa using hd
  subst hd
  rcases hoptional with ⟨_, text, rfl, hmark, htext⟩ | rfl
  · rw [Pattern.lit_accepts hmark]
    refine ⟨[c] ++ chars, some text, ⟨by simpa using hc, ?_, ?_⟩, by simp [Token.text]⟩
    · exact List.forall_mem_cons.mpr ⟨hstart, hchars⟩
    · rintro _ ⟨⟩ hmem
      simpa using htext _ hmem
  · refine ⟨[c] ++ chars, none, ⟨by simpa using hc, ?_, by simp⟩, by simp [Token.text]⟩
    exact List.forall_mem_cons.mpr ⟨hstart, hchars⟩

theorem pieces_reference (h : IsReference name default) (before rest : List Char) :
    envReference.pieces 0 before ((Token.reference name default).text ++ rest) =
      .found ⟨(Token.reference name default).text, groupsOf name default⟩ ::
        envReference.pieces 0 ((Token.reference name default).text.reverse ++ before) rest := by
  have hat := matchAt_reference h before rest
  generalize hm : Match.mk (Token.reference name default).text (groupsOf name default) = m
    at hat ⊢
  have htext : (Token.reference name default).text = m.text := by rw [← hm]
  have hne := token_text_ne name default
  rw [htext] at hat hne ⊢
  exact Pattern.pieces_found hat hne

/-- The token of a piece. -/
def tokenOf : Piece → Token
  | .char c => .char c
  | .found m => .reference ((m.group 1).getD []) (m.group 2)

theorem tokenOf_reference (name : List Char) (default : Option (List Char)) (text : List Char) :
    tokenOf (.found ⟨text, groupsOf name default⟩) = .reference name default := by
  cases default <;> rfl

/-- The tokens of a text are the pieces into which the pattern cuts it. -/
theorem tokens_iff {tokens : List Token} (before : List Char) :
    Tokens text tokens ↔ (envReference.pieces 0 before text).map tokenOf = tokens := by
  constructor
  · intro h
    induction h generalizing before with
    | nil => rfl
    | @reference name default rest tokens href _ ih =>
      rw [pieces_reference href, List.map_cons, tokenOf_reference, ih]
    | @char c rest tokens hnot _ ih =>
      have hnone : envReference.matchAt before (c :: rest) = none := by
        cases hat : envReference.matchAt before (c :: rest) with
        | none => rfl
        | some m =>
          obtain ⟨t, -, hsplit, -, haccepts, -⟩ := Pattern.matchAt_some hat
          obtain ⟨name, default, href, htext⟩ := envReference_accepts haccepts
          exact absurd (htext ▸ hsplit) (hnot name default t.rest href)
      rw [Pattern.pieces_char hnone, List.map_cons, ih]
      rfl
  · rintro rfl
    induction hlen : text.length using Nat.strongRecOn generalizing before text with
    | ind n ih =>
      cases text with
      | nil => exact .nil
      | cons c rest =>
        cases hat : envReference.matchAt before (c :: rest) with
        | none =>
          rw [Pattern.pieces_char hat]
          refine .char (fun name default left href heq => ?_) (ih rest.length ?_ _ rfl)
          · rw [heq, matchAt_reference href] at hat
            cases hat
          · rw [← hlen]
            exact Nat.lt_succ_self _
        | some m =>
          obtain ⟨t, -, hsplit, hne, haccepts, -⟩ := Pattern.matchAt_some hat
          obtain ⟨name, default, href, htext⟩ := envReference_accepts haccepts
          rw [htext] at hsplit
          rw [hsplit, pieces_reference href, List.map_cons, tokenOf_reference]
          refine .reference href (ih t.rest.length ?_ _ rfl)
          have := List.length_pos_iff.mpr (token_text_ne name default)
          rw [← hlen, hsplit, List.length_append]
          omega

end

/-! ### The expansion of a text -/

section

variable (env : Environment)

/-- The variable is set and not blank. -/
def IsSet (name : List Char) : Prop :=
  ∃ value, env.getenv (String.ofList name) = some value ∧ env.strip value ≠ ""

/-- What stands in place of a token: the verbatim value of the variable, or the verbatim default. -/
def Token.replacement : Token → List Char
  | .char c => [c]
  | .reference name default =>
    match env.getenv (String.ofList name) with
    | some value => if env.strip value = "" then default.getD [] else value.toList
    | none => default.getD []

/-- Every reference without a default names a variable that is set and not blank. -/
def Satisfied (text : String) : Prop :=
  ∀ tokens, Tokens text.toList tokens → ∀ name, .reference name none ∈ tokens → IsSet env name

/-- The text with its references replaced, once. -/
def Expands (text expanded : String) : Prop :=
  ∃ tokens, Tokens text.toList tokens ∧ expanded.toList = tokens.flatMap (Token.replacement env)

def tokensOf (text : String) : List Token := (envReference.pieces 0 [] text.toList).map tokenOf

def expansion (text : String) : String :=
  String.ofList ((tokensOf text).flatMap (Token.replacement env))

variable {env} {text expanded : String}

theorem satisfied_iff :
    Satisfied env text ↔ ∀ name, .reference name none ∈ tokensOf text → IsSet env name := by
  constructor
  · intro h
    exact h (tokensOf text) ((tokens_iff []).mpr rfl)
  · intro h tokens htokens
    rw [← (tokens_iff []).mp htokens]
    exact h

theorem expands_iff : Expands env text expanded ↔ expanded = expansion env text := by
  constructor
  · rintro ⟨tokens, htokens, hexpanded⟩
    rw [expansion, tokensOf, (tokens_iff []).mp htokens, ← hexpanded, String.ofList_toList]
  · rintro rfl
    exact ⟨tokensOf text, (tokens_iff []).mpr rfl, by rw [expansion, String.toList_ofList]⟩

theorem replaced_ok {piece : Piece}
    (h : ∀ name, tokenOf piece = .reference name none → IsSet env name) :
    Piece.replaced (substitute env) piece = .ok ((tokenOf piece).replacement env) := by
  cases piece with
  | char c => rfl
  | found m =>
    simp only [Piece.replaced, substitute, tokenOf, Token.replacement] at h ⊢
    cases hvalue : env.getenv (String.ofList ((m.group 1).getD [])) with
    | none =>
      cases hdefault : m.group 2 with
      | some default => rfl
      | none =>
        obtain ⟨value, hset, -⟩ := h _ (by rw [hdefault])
        rw [hset] at hvalue
        cases hvalue
    | some value =>
      dsimp only
      split
      · next hblank =>
        cases hdefault : m.group 2 with
        | some default => rfl
        | none =>
          obtain ⟨value', hset, hnot⟩ := h _ (by rw [hdefault])
          rw [hset] at hvalue
          cases hvalue
          exact absurd hblank hnot
      · rfl

theorem replaced_error {piece : Piece} {name : List Char}
    (h : tokenOf piece = .reference name none) (hunset : ¬ IsSet env name) :
    Piece.replaced (substitute env) piece = .error .valueError := by
  cases piece with
  | char c => cases h
  | found m =>
    obtain ⟨rfl, hdefault⟩ := Token.reference.inj h
    simp only [Piece.replaced, substitute, hdefault]
    split
    · rfl
    · next value hvalue =>
      rw [if_pos]
      by_contra hblank
      exact hunset ⟨value, hvalue, hblank⟩

theorem mapM_replaced (pieces : List Piece) :
    ((∀ name, .reference name none ∈ pieces.map tokenOf → IsSet env name) →
      pieces.mapM (Piece.replaced (substitute env)) =
        .ok (pieces.map fun piece => (tokenOf piece).replacement env)) ∧
    ((∃ name, .reference name none ∈ pieces.map tokenOf ∧ ¬ IsSet env name) →
      pieces.mapM (Piece.replaced (substitute env)) = .error .valueError) := by
  induction pieces with
  | nil => exact ⟨fun _ => rfl, fun ⟨_, h, _⟩ => nomatch h⟩
  | cons piece rest ih =>
    rw [List.mapM_cons]
    constructor
    · intro h
      rw [replaced_ok fun name hname => h name (by rw [List.map_cons, hname]; simp),
        ih.1 fun name hname => h name (List.mem_cons_of_mem _ hname)]
      rfl
    · rintro ⟨name, hmem, hunset⟩
      by_cases hpiece : ∃ name', tokenOf piece = .reference name' none ∧ ¬ IsSet env name'
      · obtain ⟨name', hname', hunset'⟩ := hpiece
        rw [replaced_error hname' hunset']
        rfl
      · have hset : ∀ name', tokenOf piece = .reference name' none → IsSet env name' := by
          intro name' hname'
          by_contra hnot
          exact hpiece ⟨name', hname', hnot⟩
        rcases List.mem_cons.mp hmem with heq | hmem
        · exact absurd (hset name heq.symm) hunset
        · rw [replaced_ok hset, ih.2 ⟨name, hmem, hunset⟩]
          rfl

theorem expandString_ok (h : Satisfied env text) :
    expandString env text = .ok (expansion env text) := by
  have hpieces := (mapM_replaced (envReference.pieces 0 [] text.toList)).1 (satisfied_iff.mp h)
  rw [expandString, Pattern.sub, hpieces, expansion, tokensOf, List.flatMap_map,
    List.flatMap_def]
  rfl

theorem expandString_error (h : ¬ Satisfied env text) :
    expandString env text = .error .valueError := by
  have hunset : ∃ name, .reference name none ∈ tokensOf text ∧ ¬ IsSet env name := by
    simpa [satisfied_iff] using h
  rw [expandString, Pattern.sub, (mapM_replaced _).2 hunset]
  rfl

end

/-! ### The expansion of a document -/

section

variable {env : Environment} {doc : YamlValue}

theorem expandItems_ok {P : YamlValue → Prop} {f : String → String} {items : List YamlValue}
    (h : ∀ item ∈ items, ∃ out, expandEnvironment env item = .ok out ∧
      (out = item.mapStrings f ↔ P item)) :
    ∃ outs, expandItems env items = .ok outs ∧
      (outs = items.map (YamlValue.mapStrings f) ↔ ∀ item ∈ items, P item) := by
  induction items with
  | nil => exact ⟨[], rfl, by simp⟩
  | cons item rest ih =>
    obtain ⟨⟨out, hout, hiff⟩, hrest⟩ := List.forall_mem_cons.mp h
    obtain ⟨outs, houts, hiffs⟩ := ih hrest
    refine ⟨out :: outs, by rw [expandItems, hout, houts]; rfl, ?_⟩
    rw [List.map_cons, List.cons.injEq, hiff, hiffs, List.forall_mem_cons]

theorem expandEntries_ok {P : YamlValue → Prop} {f : String → String}
    {entries : List (YamlValue × YamlValue)}
    (h : ∀ e ∈ entries, ∃ out, expandEnvironment env e.2 = .ok out ∧
      (out = e.2.mapStrings f ↔ P e.2)) :
    ∃ outs, expandEntries env entries = .ok outs ∧
      (outs = entries.map (fun e => (e.1, e.2.mapStrings f)) ↔ ∀ e ∈ entries, P e.2) := by
  induction entries with
  | nil => exact ⟨[], rfl, by simp⟩
  | cons e rest ih =>
    obtain ⟨⟨out, hout, hiff⟩, hrest⟩ := List.forall_mem_cons.mp h
    obtain ⟨outs, houts, hiffs⟩ := ih hrest
    refine ⟨(e.1, out) :: outs, by rw [expandEntries, hout, houts]; rfl, ?_⟩
    rw [List.map_cons, List.cons.injEq, Prod.mk.injEq, hiff, hiffs, List.forall_mem_cons]
    simp

/-- A document whose free strings are satisfied: the strings inside tuples and sets stay. -/
theorem expandEnvironment_ok (h : ∀ s ∈ doc.freeStrings, Satisfied env s) :
    ∃ out, expandEnvironment env doc = .ok out ∧
      (out = doc.mapStrings (expansion env) ↔ ∀ s ∈ doc.boxedStrings, expansion env s = s) := by
  induction doc using YamlValue.byParts with
  | null | bool | int | float | bytes | date | datetime =>
    exact ⟨_, rfl, by simp [YamlValue.mapStrings, YamlValue.boxedStrings]⟩
  | str text =>
    rw [expandEnvironment, expandString_ok (h text (List.mem_singleton_self text))]
    exact ⟨_, rfl, by simp [YamlValue.mapStrings, YamlValue.boxedStrings]⟩
  | tuple items | set items =>
    refine ⟨_, rfl, eq_comm.trans (YamlValue.mapStrings_eq_self.trans ?_)⟩
    simp [YamlValue.strings, YamlValue.boxedStrings]
  | list items ih =>
    simp only [YamlValue.freeStrings, YamlValue.freeItemStrings_eq, List.mem_flatMap] at h
    obtain ⟨outs, houts, hiff⟩ := expandItems_ok fun item hitem =>
      ih item hitem fun s hs => h s ⟨item, hitem, hs⟩
    refine ⟨.list outs, by rw [expandEnvironment, houts]; rfl, ?_⟩
    simp only [YamlValue.mapStrings, YamlValue.mapItems_eq, YamlValue.list.injEq, hiff,
      YamlValue.boxedStrings, YamlValue.boxedItemStrings_eq, List.mem_flatMap]
    constructor
    · rintro h s ⟨item, hitem, hs⟩
      exact h item hitem s hs
    · exact fun h item hitem s hs => h s ⟨item, hitem, hs⟩
  | dict entries ih =>
    simp only [YamlValue.freeStrings, YamlValue.freeEntryStrings_eq, List.mem_flatMap] at h
    obtain ⟨outs, houts, hiff⟩ := expandEntries_ok
      (P := fun value => ∀ s ∈ value.boxedStrings, expansion env s = s)
      fun e he => ih e he fun s hs => h s ⟨e, he, hs⟩
    refine ⟨.dict outs, by rw [expandEnvironment, houts]; rfl, ?_⟩
    simp only [YamlValue.mapStrings, YamlValue.mapEntries_eq, YamlValue.dict.injEq, hiff,
      YamlValue.boxedStrings, YamlValue.boxedEntryStrings_eq, List.mem_flatMap]
    constructor
    · rintro h s ⟨e, he, hs⟩
      exact h e he s hs
    · exact fun h e he s hs => h s ⟨e, he, hs⟩

/-- A part of a document expands or raises, as it raises for each unsatisfied free string. -/
theorem ok_or_error
    (h : (∃ s ∈ doc.freeStrings, ¬ Satisfied env s) →
      expandEnvironment env doc = .error .valueError) :
    (∃ out, expandEnvironment env doc = .ok out) ∨
      expandEnvironment env doc = .error .valueError := by
  by_cases hfree : ∃ s ∈ doc.freeStrings, ¬ Satisfied env s
  · exact .inr (h hfree)
  · have hsatisfied : ∀ s ∈ doc.freeStrings, Satisfied env s := by
      intro s hs
      by_contra hnot
      exact hfree ⟨s, hs, hnot⟩
    obtain ⟨out, hout, -⟩ := expandEnvironment_ok hsatisfied
    exact .inl ⟨out, hout⟩

theorem expandItems_error {items : List YamlValue}
    (h : ∀ item ∈ items, (∃ out, expandEnvironment env item = .ok out) ∨
      expandEnvironment env item = .error .valueError)
    (hraises : ∃ item ∈ items, expandEnvironment env item = .error .valueError) :
    expandItems env items = .error .valueError := by
  induction items with
  | nil => exact nomatch hraises
  | cons item rest ih =>
    obtain ⟨hitem, hrest⟩ := List.forall_mem_cons.mp h
    rw [expandItems]
    rcases hitem with ⟨out, hout⟩ | herror
    · have hraises : ∃ item ∈ rest, expandEnvironment env item = .error .valueError := by
        simpa [hout] using hraises
      rw [hout, ih hrest hraises]
      rfl
    · rw [herror]
      rfl

theorem expandEntries_error {entries : List (YamlValue × YamlValue)}
    (h : ∀ e ∈ entries, (∃ out, expandEnvironment env e.2 = .ok out) ∨
      expandEnvironment env e.2 = .error .valueError)
    (hraises : ∃ e ∈ entries, expandEnvironment env e.2 = .error .valueError) :
    expandEntries env entries = .error .valueError := by
  induction entries with
  | nil => exact nomatch hraises
  | cons e rest ih =>
    obtain ⟨he, hrest⟩ := List.forall_mem_cons.mp h
    rw [expandEntries]
    rcases he with ⟨out, hout⟩ | herror
    · have hraises : ∃ e ∈ rest, expandEnvironment env e.2 = .error .valueError := by
        obtain ⟨e', he', herror⟩ := hraises
        rcases List.mem_cons.mp he' with rfl | he'
        · rw [hout] at herror
          cases herror
        · exact ⟨e', he', herror⟩
      rw [hout, ih hrest hraises]
      rfl
    · rw [herror]
      rfl

/-- A free string with a reference to a variable that is required, but not set. -/
theorem expandEnvironment_error (h : ∃ s ∈ doc.freeStrings, ¬ Satisfied env s) :
    expandEnvironment env doc = .error .valueError := by
  induction doc using YamlValue.byParts with
  | null | bool | int | float | bytes | date | datetime | tuple items | set items =>
    obtain ⟨s, hs, -⟩ := h
    cases hs
  | str text =>
    obtain ⟨s, hs, hunset⟩ := h
    obtain rfl := List.mem_singleton.mp hs
    rw [expandEnvironment, expandString_error hunset]
    rfl
  | list items ih =>
    simp only [YamlValue.freeStrings, YamlValue.freeItemStrings_eq, List.mem_flatMap] at h
    obtain ⟨s, ⟨item, hitem, hs⟩, hunset⟩ := h
    rw [expandEnvironment, expandItems_error (fun item hitem => ok_or_error (ih item hitem))
      ⟨item, hitem, ih item hitem ⟨s, hs, hunset⟩⟩]
    rfl
  | dict entries ih =>
    simp only [YamlValue.freeStrings, YamlValue.freeEntryStrings_eq, List.mem_flatMap] at h
    obtain ⟨s, ⟨e, he, hs⟩, hunset⟩ := h
    rw [expandEnvironment, expandEntries_error (fun e he => ok_or_error (ih e he))
      ⟨e, he, ih e he ⟨s, hs, hunset⟩⟩]
    rfl

/-- When every required variable is set, the document with each string replaced by its expansion;
otherwise an error, and the load of the configuration reports it. -/
def ExpandsExactly (env : Environment) (doc : YamlValue) : Prop :=
  ((∀ s ∈ doc.strings, Satisfied env s) → ∃ f, (∀ s ∈ doc.strings, Expands env s (f s)) ∧
    expandEnvironment env doc = .ok (doc.mapStrings f)) ∧
  ((∃ s ∈ doc.strings, ¬ Satisfied env s) → expandEnvironment env doc = .error .valueError ∧
    ∀ (α : Type) resolveRuntimePaths (modelValidate : YamlValue → Except PyExc α),
      loadInitializationConfig env (.ok doc) resolveRuntimePaths modelValidate =
        .error .trustedConfigError)

theorem load_error {α : Type} {resolveRuntimePaths} {modelValidate : YamlValue → Except PyExc α}
    (h : expandEnvironment env doc = .error .valueError) :
    loadInitializationConfig env (.ok doc) resolveRuntimePaths modelValidate =
      .error .trustedConfigError := by
  cases hdict : doc.isDict with
  | false =>
    simp only [loadInitializationConfig, bind, Except.bind, hdict]
    rfl
  | true =>
    simp only [loadInitializationConfig, bind, Except.bind, hdict, if_true, h]
    rfl

/-- The strings that no list or dict reaches, those inside the tuples of `!!omap` and `!!pairs` and
inside the sets of `!!set`, stay as they are: either they hold nothing to expand and nothing to
refuse, or another string is refused. -/
theorem expands_exactly_iff :
    ExpandsExactly env doc ↔
      (∀ s ∈ doc.boxedStrings, Satisfied env s ∧ Expands env s s) ∨
      ∃ s ∈ doc.freeStrings, ¬ Satisfied env s := by
  by_cases hfree : ∃ s ∈ doc.freeStrings, ¬ Satisfied env s
  · have herror := expandEnvironment_error hfree
    obtain ⟨s, hs, hunset⟩ := hfree
    refine iff_of_true ⟨fun hset => ?_, fun _ => ⟨herror, fun _ _ _ => load_error herror⟩⟩
      (.inr ⟨s, hs, hunset⟩)
    exact absurd (hset s (YamlValue.mem_strings.mpr (.inl hs))) hunset
  · have hset : ∀ s ∈ doc.freeStrings, Satisfied env s := fun s hs => by
      by_contra hnot
      exact hfree ⟨s, hs, hnot⟩
    obtain ⟨out, hout, hiff⟩ := expandEnvironment_ok hset
    rw [or_iff_left hfree]
    constructor
    · intro ⟨hok, herror⟩
      have hboxed : ∀ s ∈ doc.boxedStrings, Satisfied env s := fun s hs => by
        by_contra hunset
        have := (herror ⟨s, YamlValue.mem_strings.mpr (.inr hs), hunset⟩).1
        rw [hout] at this
        cases this
      obtain ⟨f, hf, hmap⟩ := hok fun s hs =>
        (YamlValue.mem_strings.mp hs).elim (hset s) (hboxed s)
      rw [hout, YamlValue.mapStrings_congr fun s hs => expands_iff.mp (hf s hs)] at hmap
      have hsame := hiff.mp (Except.ok.inj hmap)
      exact fun s hs => ⟨hboxed s hs, expands_iff.mpr (hsame s hs).symm⟩
    · intro hboxed
      have hall : ∀ s ∈ doc.strings, Satisfied env s := fun s hs =>
        (YamlValue.mem_strings.mp hs).elim (hset s) fun hs => (hboxed s hs).1
      refine ⟨fun _ => ⟨expansion env, fun s _ => expands_iff.mpr rfl, ?_⟩, ?_⟩
      · rw [hout, hiff.mpr fun s hs => (expands_iff.mp (hboxed s hs).2).symm]
      · rintro ⟨s, hs, hunset⟩
        exact absurd (hall s hs) hunset

/-- An environment with one variable. -/
def homeOnly : Environment :=
  { isspace := fun c => c == ' '
    isalnum := fun _ => false
    isprintable := fun _ => false
    lower := id
    getenv := fun name => if name = "HOME" then some "/root" else none }

/-- `routes: !!pairs [{default: "${HOME}"}]`. -/
def pairsDocument : YamlValue :=
  .dict [(.str "routes", .list [.tuple [.str "default", .str "$\x7bHOME\x7d"]])]

theorem pairs_not_expanded : ¬ ExpandsExactly homeOnly pairsDocument := by
  rintro ⟨hok, -⟩
  have hkey : tokensOf "default" = "default".toList.map .char := by decide +kernel
  have hvalue : tokensOf "$\x7bHOME\x7d" = [.reference "HOME".toList none] := by decide +kernel
  have hset : ∀ s ∈ pairsDocument.strings, Satisfied homeOnly s := by
    change ∀ s ∈ ["default", "$\x7bHOME\x7d"], Satisfied homeOnly s
    intro s hs
    rw [satisfied_iff]
    rcases List.mem_pair.mp hs with rfl | rfl
    · rw [hkey]
      intro name hname
      obtain ⟨c, -, hc⟩ := List.mem_map.mp hname
      cases hc
    · rw [hvalue]
      intro name hname
      obtain ⟨rfl, -⟩ := Token.reference.inj (List.mem_singleton.mp hname)
      exact ⟨"/root", by decide +kernel, by decide +kernel⟩
  obtain ⟨f, hf, hmap⟩ := hok hset
  have hsame : pairsDocument.mapStrings f = pairsDocument := (Except.ok.inj hmap).symm
  have hmem : "$\x7bHOME\x7d" ∈ pairsDocument.strings := List.mem_of_elem_eq_true rfl
  have hexpanded := expands_iff.mp (hf _ hmem)
  rw [YamlValue.mapStrings_eq_self.mp hsame _ hmem] at hexpanded
  revert hexpanded
  decide +kernel

end

end SafactoryServer.Expansion
