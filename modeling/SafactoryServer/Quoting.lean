import SafactoryServer.PythonLiteral
import SafactoryServer.Script

/-! The texts that the server writes for other interpreters: the program that a Gateway starts with
holds the path of its configuration as a Python literal. -/

namespace SafactoryServer

open PythonLiteral (Piece)

theorem hexNumber_hex {width n : Nat} (h : n < 16 ^ width) :
    PythonLiteral.hexNumber? width 0 (Unicode.hex width n).toList = some (n, []) := by
  induction width generalizing n with
  | zero =>
    obtain rfl : n = 0 := by simpa using h
    rfl
  | succ width ih =>
    have hRest : n / 16 < 16 ^ width := by
      rw [Nat.pow_succ] at h
      omega
    have hDigit := PythonLiteral.hexDigit?_digitChar (n % 16) (Nat.mod_lt n (by decide))
    have hSnoc := PythonLiteral.hexNumber?_snoc (ih hRest) hDigit
    rw [Nat.div_add_mod] at hSnoc
    rw [Unicode.hex, String.toList_append, String.toList_singleton]
    exact hSnoc

/-- What `repr` writes for a character stands for that character. -/
theorem piece_reprChar (u : Unicode) {quote : Char} (hQuote : quote = '\'' ∨ quote = '"')
    (c : Char) : Piece quote (u.reprChar quote c).toList [c] := by
  have hSlash : '\\' ≠ quote := by rcases hQuote with rfl | rfl <;> decide
  have hHex : ∀ (width : Nat) (kind : Char), c.toNat < 16 ^ width →
      (∀ text, PythonLiteral.escape? (kind :: text) = PythonLiteral.hexChar? width text) →
      Piece quote ('\\' :: kind :: (Unicode.hex width c.toNat).toList) [c] := by
    intro width kind hBound hKind
    refine .escape hSlash fun text => ?_
    rw [List.cons_append, hKind]
    exact PythonLiteral.hexChar?_append (hexNumber_hex hBound) text
  unfold Unicode.reprChar
  split_ifs with h1 h2 h3 h4 h5 h6 h7
  · rw [String.toList_append, String.toList_singleton]
    refine .escape hSlash fun text => ?_
    have hMember : c = '\\' ∨ c = '\'' ∨ c = '"' := by
      rcases h1 with rfl | rfl
      · exact .inr hQuote
      · exact .inl rfl
    show PythonLiteral.escape? (c :: text) = _
    rw [PythonLiteral.escape?, if_neg, if_pos hMember]
    rcases hMember with rfl | rfl | rfl <;> decide
  · subst h2
    exact .escape hSlash fun text => rfl
  · subst h3
    exact .escape hSlash fun text => rfl
  · subst h4
    exact .escape hSlash fun text => rfl
  · rw [not_or] at h1
    rw [String.toList_singleton]
    exact .char h1.1 h3 h1.2
  · rw [String.toList_append]
    exact hHex 2 'x' h6 fun text => rfl
  · rw [String.toList_append]
    exact hHex 4 'u' h7 fun text => rfl
  · rw [String.toList_append]
    refine hHex 8 'U' ?_ fun text => rfl
    have hValid : c.toNat.isValidChar := c.valid
    unfold Nat.isValidChar at hValid
    omega

/-- What `repr` writes for a character is an escape, or that character. -/
theorem reprChar_shape (u : Unicode) (quote c : Char) :
    (∃ escape, (u.reprChar quote c).toList = '\\' :: escape) ∨
      (u.reprChar quote c).toList = [c] ∧ c ≠ quote := by
  unfold Unicode.reprChar
  split_ifs with h1 h2 h3 h4 h5
  · exact .inl ⟨[c], by rw [String.toList_append, String.toList_singleton]; rfl⟩
  · exact .inl ⟨['t'], rfl⟩
  · exact .inl ⟨['n'], rfl⟩
  · exact .inl ⟨['r'], rfl⟩
  · exact .inr ⟨String.toList_singleton c, fun heq => h1 (.inl heq)⟩
  all_goals exact .inl ⟨_, by rw [String.toList_append]; rfl⟩

/-- What `repr` writes for a character does not begin with the closing quote. -/
theorem reprChar_head (u : Unicode) {quote : Char} (hSlash : '\\' ≠ quote) (c : Char) :
    (u.reprChar quote c).toList.head? ≠ some quote ∧ (u.reprChar quote c).toList ≠ [] := by
  rcases reprChar_shape u quote c with ⟨escape, h⟩ | ⟨h, hQuote⟩
  · simp [h, hSlash]
  · simp [h, hQuote]

/-- `repr` writes a literal of the text, which only a quote after it changes. -/
theorem string?_repr (u : Unicode) (s : String) (rest : List Char)
    (hSingle : rest.head? ≠ some '\'') (hDouble : rest.head? ≠ some '"') :
    PythonLiteral.string? ((u.repr s).toList ++ rest) = some (s.toList, rest) := by
  have hLiteral : ∀ quote, quote = '\'' ∨ quote = '"' →
      PythonLiteral.string? (quote :: (s.toList.flatMap (fun c => (u.reprChar quote c).toList) ++
        quote :: rest)) = some (s.toList, rest) := by
    intro quote hQuote
    have hSlash : '\\' ≠ quote := by rcases hQuote with rfl | rfl <;> decide
    have hRest : rest.head? ≠ some quote := by
      rcases hQuote with rfl | rfl
      · exact hSingle
      · exact hDouble
    have hPiece : ∀ p ∈ s.toList.map fun c => ((u.reprChar quote c).toList, [c]),
        Piece quote p.1 p.2 := by
      intro p hp
      obtain ⟨c, -, rfl⟩ := List.mem_map.mp hp
      exact piece_reprChar u hQuote c
    have hHead : ∀ p ∈ s.toList.map fun c => ((u.reprChar quote c).toList, [c]),
        p.1.head? ≠ some quote ∧ p.1 ≠ [] := by
      intro p hp
      obtain ⟨c, -, rfl⟩ := List.mem_map.mp hp
      exact reprChar_head u hSlash c
    have hPieces := PythonLiteral.string?_pieces hQuote hPiece hHead hRest
    simpa [List.flatMap_map] using hPieces
  unfold Unicode.repr
  generalize hQuote : (if s.toList.contains '\'' = true ∧ ¬ s.toList.contains '"' = true then '"'
    else '\'') = quote
  have hEither : quote = '\'' ∨ quote = '"' := by
    rw [← hQuote]
    split_ifs <;> simp
  refine Eq.trans (congrArg PythonLiteral.string? ?_) (hLiteral quote hEither)
  simp only [String.toList_append, String.toList_singleton, String.toList_join, List.flatMap_map,
    List.append_assoc, List.cons_append, List.nil_append]

/-- The program of a Gateway runs the module `gateway` on the configuration that the binding names,
whatever characters its path is made of. -/
theorem gateway_started_on_config : ∃ prologue : List Char,
    "os.execv(sys.executable, [sys.executable, ".toList <:+ prologue ∧
    ∀ (o : RealJobOrchestrator) (job : ControlJob) (binding : JobFileBinding) (spec : RJobSpec),
      o.gatewaySpec job binding = .ok spec → ∃ text,
        spec.command = ["python", "-c", String.ofList (prologue ++ text)] ∧
        PythonLiteral.items? 4 text = some
          (["-m", "gateway", "--config", binding.gatewayConfigPath].map String.toList,
            ")\n".toList) := by
  obtain ⟨start, hStart⟩ : ∃ start : String, ∀ (u : Unicode) (path : String),
      gatewayCommand u path = ["python", "-c", start ++
        "os.execv(sys.executable, [sys.executable, '-m', 'gateway', " ++
        "'--config', " ++ u.repr path ++ "])\n"] := ⟨_, fun _ _ => rfl⟩
  have hSplit : "os.execv(sys.executable, [sys.executable, '-m', 'gateway', ".toList ++
      "'--config', ".toList = "os.execv(sys.executable, [sys.executable, ".toList ++
        "'-m', 'gateway', '--config', ".toList := by decide
  refine ⟨start.toList ++ "os.execv(sys.executable, [sys.executable, ".toList,
    List.suffix_append _ _, fun o job binding spec h => ?_⟩
  have hCommand : spec.command = gatewayCommand o.unicode binding.gatewayConfigPath := by
    obtain ⟨model, -, h⟩ := bind_ok h
    obtain ⟨database, -, h⟩ := bind_ok h
    obtain ⟨environment, -, h⟩ := bind_ok h
    obtain ⟨resources, -, h⟩ := bind_ok h
    obtain ⟨requests, -, h⟩ := bind_ok h
    rw [← Except.ok.inj h]
  refine ⟨"'-m', 'gateway', '--config', ".toList ++
    ((o.unicode.repr binding.gatewayConfigPath).toList ++ "])\n".toList), ?_, ?_⟩
  · have hText : start ++ "os.execv(sys.executable, [sys.executable, '-m', 'gateway', " ++
        "'--config', " ++ o.unicode.repr binding.gatewayConfigPath ++ "])\n" =
        String.ofList (start.toList ++ "os.execv(sys.executable, [sys.executable, ".toList ++
          ("'-m', 'gateway', '--config', ".toList ++
            ((o.unicode.repr binding.gatewayConfigPath).toList ++ "])\n".toList))) := by
      rw [String.ext_iff, String.toList_ofList]
      simp only [String.toList_append, List.append_assoc]
      rw [← List.append_assoc "os.execv(sys.executable, [sys.executable, '-m', 'gateway', ".toList,
        hSplit, List.append_assoc]
    rw [hCommand, hStart, hText]
  · have hPath := string?_repr o.unicode binding.gatewayConfigPath (']' :: ")\n".toList)
      (by decide) (by decide)
    have hPlain : ∀ {word rest : List Char},
        word.all (fun c => c != '\'' && c != '\n' && c != '\\') = true →
        PythonLiteral.string? ('\'' :: (word ++ '\'' :: ',' :: rest)) =
          some (word, ',' :: rest) := by
      intro word rest h
      refine PythonLiteral.string?_plain (.inl rfl) (fun c hc => ?_) (by simp)
      simpa [and_assoc] using List.all_eq_true.mp h c hc
    have hWords : "'-m', 'gateway', '--config', ".toList =
        '\'' :: ("-m".toList ++ '\'' :: ',' :: ' ' :: '\'' :: ("gateway".toList ++
          '\'' :: ',' :: ' ' :: '\'' :: ("--config".toList ++ '\'' :: ',' :: [' ']))) := by decide
    have hClose : "])\n".toList = ']' :: ")\n".toList := by decide
    rw [hWords, hClose]
    simp only [List.cons_append, List.append_assoc, List.nil_append]
    exact PythonLiteral.items?_cons (hPlain (by decide))
      (PythonLiteral.items?_cons (hPlain (by decide))
        (PythonLiteral.items?_cons (hPlain (by decide)) (PythonLiteral.items?_last hPath 0)))

/-- The Gateway of the sample Job, whose binding puts the configuration in a directory with an
apostrophe. -/
theorem gateway_started_on_config_sample : ∃ spec : RJobSpec, ∃ prologue text : List Char,
    sampleOrchestrator.gatewaySpec (newControlJob sampleJob 0)
      { sampleBinding with gatewayConfigPath := "/app/it's/gateway.yaml" } = .ok spec ∧
    spec.command = ["python", "-c", String.ofList (prologue ++ text)] ∧
    PythonLiteral.items? 4 text = some
      (["-m", "gateway", "--config", "/app/it's/gateway.yaml"].map String.toList,
        ")\n".toList) := by
  obtain ⟨prologue, -, h⟩ := gateway_started_on_config
  obtain ⟨spec, hSpec⟩ : ∃ spec, sampleOrchestrator.gatewaySpec (newControlJob sampleJob 0)
      { sampleBinding with gatewayConfigPath := "/app/it's/gateway.yaml" } = .ok spec := ⟨_, rfl⟩
  obtain ⟨text, hCommand, hItems⟩ := h _ _ _ _ hSpec
  exact ⟨spec, prologue, text, hSpec, hCommand, hItems⟩

end SafactoryServer
