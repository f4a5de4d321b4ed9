import Mathlib.Data.List.Nodup
import SafactoryServer.Ranking
import SafactoryServer.Shell
import SafactoryServer.Specs
import SafactoryServer.Value

/-! The texts that the runners of the environments write for a shell: the variables of a CyberGym
episode, which its `runner.sh` sources, and the commands of a WildClawBench task.  Both come back
from the shell as they were. -/

namespace SafactoryServer

/-- The characters that `shlex.quote` does not quote. -/
def shlexSafe (c : Char) : Bool :=
  c.isAlphanum || ['_', '@', '%', '+', '=', ':', ',', '.', '/', '-'].contains c

/-- `shlex.quote`. -/
def shlexQuote (s : String) : String :=
  if s = "" then "''"
  else if s.toList.all shlexSafe then s
  else "'" ++ replaceChar '\'' "'\"'\"'" s ++ "'"

/-- `sh_quote` of the WildClawBench runner. -/
def shQuote (value : String) : String := "'" ++ replaceChar '\'' "'\\''" value ++ "'"

/-- `"".join(f"{key}={shlex.quote(value)}\n" for key, value in mapping.items())`. -/
def envText (mapping : List (String × String)) : String :=
  String.ofList (mapping.flatMap fun entry =>
    (entry.1 ++ "=" ++ shlexQuote entry.2 ++ "\n").toList)

namespace CyberGym

/-- The variables of `write_env`, each with its key in the settings. -/
def episodeVariables : List (String × String) :=
  [("EPISODE_SESSION_ID", "session_id"), ("EPISODE_TASK_ID", "task_id"),
    ("EPISODE_DIFFICULTY", "difficulty"), ("EPISODE_CYBERGYM_ROOT", "cybergym_root"),
    ("EPISODE_DATA_DIR", "data_dir"), ("EPISODE_IMAGE_ARCHIVE_DIR", "image_archive_dir"),
    ("EPISODE_RESULTS_DIR", "results_dir"), ("EPISODE_SERVER_DIR", "server_dir"),
    ("EPISODE_LOGS_DIR", "logs_dir"), ("EPISODE_TMP_DIR", "tmp_dir"),
    ("EPISODE_DB_PATH", "db_path"), ("EPISODE_AGENT_TYPE", "agent_type"),
    ("EPISODE_AGENT_RUNNER", "agent_runner"), ("EPISODE_AGENT_REPO", "agent_repo"),
    ("EPISODE_AGENT_PYTHON", "agent_python"), ("EPISODE_AGENT_IMAGE", "agent_image"),
    ("EPISODE_AGENT_IMAGE_ARCHIVE", "agent_image_archive"),
    ("EPISODE_MASK_MAP_PATH", "mask_map_path"), ("EPISODE_MODEL_REF", "model_ref"),
    ("EPISODE_GATEWAY_URL", "gateway_url"), ("EPISODE_GATEWAY_API_KEY", "gateway_api_key"),
    ("EPISODE_CYBERGYM_API_KEY", "cybergym_api_key"), ("EPISODE_MAX_ITER", "max_iter"),
    ("EPISODE_TEMPERATURE", "temperature"), ("EPISODE_TOP_P", "top_p"),
    ("EPISODE_MAX_OUTPUT_TOKENS", "max_output_tokens"), ("EPISODE_SILENT", "silent"),
    ("EPISODE_NATIVE_TOOL_CALLING", "native_tool_calling"),
    ("EPISODE_AGENT_TIMEOUT_S", "configured_agent_timeout_s"),
    ("EPISODE_VERIFY_TIMEOUT_S", "configured_verify_timeout_s"),
    ("EPISODE_IMAGE_LOAD_TIMEOUT_S", "image_load_timeout_s"),
    ("EPISODE_DEADLINE_EPOCH", "deadline_epoch"), ("EPISODE_DOCKER_BIN", "docker_bin"),
    ("EPISODE_PYTHON_BIN", "python_bin"),
    ("EPISODE_CONFIGURED_RUNTIME_HOST", "configured_runtime_host"),
    ("EPISODE_CONFIGURED_CONTROLLER_HOST", "configured_controller_host"),
    ("EPISODE_SERVER_PORT", "server_port"), ("EPISODE_SERVER_URL", "server_url")]

section

variable (py : Interpreter)

/-- What the mapping of `write_env` has of the value of a setting. -/
def settingValue (key : String) (value : Value) : Except PyExc Value := do
  if key = "silent" then return .str (py.lowered (← value.toStr py))
  else if key = "native_tool_calling" then
    if value.isNone then return .str "" else return .str (py.lowered (← value.toStr py))
  else return value

/-- The text of a setting in `write_env`. -/
def settingText (key : String) (value : Value) : Except PyExc String := do
  (← settingValue py key value).toStr py

/-- A setting in the mapping of `write_env`. -/
def mappedSetting (settings : List (String × Value)) (key : String) : Except PyExc Value := do
  let some value := lookup key settings | throw .keyError
  settingValue py key value

/-- The mapping of `write_env`. -/
def episodeMapping (settings : List (String × Value)) : Except PyExc (List (String × Value)) :=
  episodeVariables.mapM fun entry => do return (entry.1, ← mappedSetting py settings entry.2)

/-- The texts of a mapping of values. -/
def mappingTexts (mapping : List (String × Value)) : Except PyExc (List (String × String)) :=
  mapping.mapM fun entry => do return (entry.1, ← entry.2.toStr py)

/-- `write_env`. -/
def writeEnv (settings : List (String × Value)) : Except PyExc String := do
  return envText (← mappingTexts py (← episodeMapping py settings))

/-- `first_text`. -/
def firstText : List Value → Except PyExc String
  | [] => return ""
  | value :: rest => do
    let text := py.strip (← (value.orElse (.str "")).toStr py)
    if text = "" then firstText rest else return text

/-- `int_value`. -/
def intValue : List Value → Except PyExc Int
  | [] => return 0
  | value :: rest => do
    if value.isNone then intValue rest
    else if py.strip (← value.toStr py) = "" then intValue rest
    else match value.toInt py with
      | .error .typeError | .error .valueError => intValue rest
      | result => result

/-- The mapping of `write_discovery`. -/
def discoveryMapping (result : List (String × Value)) :
    Except PyExc (List (String × String)) := do
  let get := fun key => (lookup key result).getD .null
  return [("EPISODE_AGENT_ID", ← firstText py [get "agent_id"]),
    ("EPISODE_TRAJECTORY_PATH", ← firstText py [get "trajectory_path"]),
    ("EPISODE_STEP_COUNT", ← strInt (← intValue py [get "step_count"]))]

/-- The mapping that `openhands_prepare` writes. -/
def stagedMapping (stagedRunner configPath : String) : List (String × String) :=
  [("EPISODE_STAGED_OPENHANDS_RUNNER", stagedRunner),
    ("EPISODE_STAGED_OPENHANDS_CONFIG", configPath)]

end

end CyberGym

namespace WildClawBench

/-- The command that starts OpenClaw's gateway. -/
def gatewayScript (tmpWorkspace apiKey baseUrl port : String) : String :=
  "cd " ++ shQuote tmpWorkspace ++ " && " ++
  "export OPENROUTER_API_KEY=" ++ shQuote apiKey ++ " && " ++
  "export OPENROUTER_BASE_URL=" ++ shQuote baseUrl ++ " && " ++
  "openclaw gateway --port " ++ shQuote port

/-- The command that runs OpenClaw's agent. -/
def agentScript (tmpWorkspace timeout prompt : String) : String :=
  "cd " ++ shQuote tmpWorkspace ++ " && " ++
  "openclaw agent --session-id chat --timeout " ++ shQuote timeout ++ " " ++
  "--message " ++ shQuote prompt

end WildClawBench

/-! ### Quoted texts -/

open Shell

theorem toList_replaceChar (c : Char) (text s : String) : (replaceChar c text s).toList =
    s.toList.flatMap fun d => if d = c then text.toList else [d] := by
  rw [replaceChar, String.toList_ofList]

theorem isPlain_of_safe {c : Char} (h : shlexSafe c = true) : isPlain c = true := by
  rw [isPlain, Bool.not_eq_true', ← Bool.not_eq_true, List.contains_iff_mem]
  intro hmem
  have hunsafe : special.all (fun d => !shlexSafe d) = true := by decide
  have hc := List.all_eq_true.mp hunsafe c hmem
  rw [h] at hc
  cases hc

/-- The shell reads a quoted text as that text. -/
theorem shlexQuote_reads {s : String} (h : '\x00' ∉ s.toList) :
    ∃ word, Reads (shlexQuote s).toList word ∧ word.text = s.toList := by
  unfold shlexQuote
  split
  · next heq =>
    subst heq
    have hreads : Reads (quoteWith ['\'', '"', '\'', '"', '\''] []) (.quoted []) :=
      quoteWith_reads spellsQuote_double (by decide)
    exact ⟨.quoted [], hreads, rfl⟩
  · next hne =>
    split
    · next hsafe =>
      refine ⟨.plain s.toList, .plain ?_ (by simpa using hne), Word.text_plain _⟩
      exact List.all_eq_true.mpr fun c hc => isPlain_of_safe (List.all_eq_true.mp hsafe c hc)
    · refine ⟨.quoted s.toList, ?_, Word.text_quoted _⟩
      have hreads := quoteWith_reads spellsQuote_double h
      simpa [quoteWith, toList_replaceChar] using hreads

theorem shQuote_reads {value : String} (h : '\x00' ∉ value.toList) :
    Reads (shQuote value).toList (.quoted value.toList) := by
  have hreads := quoteWith_reads spellsQuote_escape h
  simpa [shQuote, quoteWith, toList_replaceChar] using hreads

/-- Texts that the shell reads one by one as words. -/
theorem exists_parts {α β : Type} {items : List α} {written : α → List Char} {read : Word → β}
    {made : α → β} (h : ∀ item ∈ items, ∃ word, Reads (written item) word ∧ read word = made item) :
    ∃ parts : List (List Char × Word), parts.map (·.1) = items.map written ∧
      (∀ part ∈ parts, Reads part.1 part.2) ∧ parts.map (read ·.2) = items.map made := by
  induction items with
  | nil => exact ⟨[], rfl, fun _ hmem => (nomatch hmem), rfl⟩
  | cons item rest ih =>
    obtain ⟨⟨word, hword, hread⟩, hrest⟩ := List.forall_mem_cons.mp h
    obtain ⟨parts, hwritten, hreads, hmade⟩ := ih hrest
    refine ⟨(written item, word) :: parts, ?_, List.forall_mem_cons.mpr ⟨hword, hreads⟩, ?_⟩
    · rw [List.map_cons, List.map_cons, hwritten]
    · rw [List.map_cons, List.map_cons, hmade, hread]

/-! ### Variables -/

theorem isPlain_of_name {name : List Char} (h : isName name = true) :
    name.all isPlain = true ∧ name ≠ [] := by
  have hplain : ∀ c : Char, (c.isAlphanum || c == '_') = true → isPlain c = true := by
    intro c hc
    refine isPlain_of_safe ?_
    rw [shlexSafe, Bool.or_eq_true]
    rcases Bool.or_eq_true _ _ ▸ hc with hc | hc
    · exact .inl hc
    · rw [beq_iff_eq.mp hc]
      exact .inr (by decide)
  cases name with
  | nil => cases h
  | cons c rest =>
    rw [isName, Bool.and_eq_true] at h
    rw [List.all_cons, Bool.and_eq_true]
    refine ⟨⟨hplain c ?_, ?_⟩, by simp⟩
    · rw [Char.isAlphanum]
      rcases Bool.or_eq_true _ _ ▸ h.1 with hc | hc
      · rw [hc, Bool.true_or, Bool.true_or]
      · rw [hc, Bool.or_true]
    · exact List.all_eq_true.mpr fun d hd => hplain d (List.all_eq_true.mp h.2 d hd)

theorem assignment_reads {name value : String} (hname : isName name.toList = true)
    (h : '\x00' ∉ value.toList) :
    ∃ word, Reads (name.toList ++ '=' :: (shlexQuote value).toList) word ∧
      Command.ofWords [word] = ⟨[(name.toList, value.toList)], []⟩ := by
  obtain ⟨quoted, hquoted, htext⟩ := shlexQuote_reads h
  obtain ⟨hplain, hne⟩ := isPlain_of_name hname
  have hequals : Reads ['='] [('=', false)] := .plainChar (by decide)
  refine ⟨_, (Reads.plain hplain hne).append (hequals.append hquoted), ?_⟩
  rw [List.singleton_append, Command.ofWords, assignment?_plain hname, htext]
  rfl

/-- The shell sources the text of a mapping, and each variable gets its value. -/
theorem envText_sourced {mapping : List (String × String)}
    (hnames : ∀ entry ∈ mapping, isName entry.1.toList = true)
    (h : ∀ entry ∈ mapping, '\x00' ∉ entry.2.toList) (env : Variables) :
    (parse (envText mapping).toList).bind (source · env) =
      some ((mapping.map fun entry => (entry.1.toList, entry.2.toList)).foldl Variables.set
        env) := by
  obtain ⟨lines, hwritten, hreads, hmade⟩ := exists_parts fun entry hentry =>
    assignment_reads (hnames entry hentry) (h entry hentry)
  have htext : (envText mapping).toList = lines.flatMap fun line => line.1 ++ ['\n'] := by
    have hentry : ∀ entry : String × String,
        (entry.1 ++ "=" ++ shlexQuote entry.2 ++ "\n").toList =
          entry.1.toList ++ '=' :: (shlexQuote entry.2).toList ++ ['\n'] := by
      intro entry
      simp [String.toList_append]
    have hflat : (lines.flatMap fun line => line.1 ++ ['\n']) =
        (lines.map (·.1)).flatMap (· ++ ['\n']) := by
      rw [List.flatMap_map]
    rw [envText, String.toList_ofList, hflat, hwritten, List.flatMap_map]
    simp only [hentry]
  have hcommands : lines.map (fun line => [Command.ofWords [line.2]]) =
      (mapping.map fun entry => (entry.1.toList, entry.2.toList)).map fun assignment =>
        [⟨[assignment], []⟩] := by
    have hsingle := congrArg (List.map fun command : Command => [command]) hmade
    rw [List.map_map, List.map_map] at hsingle
    rw [List.map_map]
    exact hsingle
  rw [htext, parse_lines hreads, hcommands, Option.bind_some, source_assignments]

/-- Every variable of a mapping has its value after the mapping's text, and no other changes. -/
theorem envText_sets {mapping : List (String × String)} {names : List String}
    (hkeys : mapping.map (·.1) = names) (hnames : ∀ name ∈ names, isName name.toList = true)
    (hdistinct : names.Nodup) (h : ∀ entry ∈ mapping, '\x00' ∉ entry.2.toList) (env : Variables) :
    ∃ env', (parse (envText mapping).toList).bind (source · env) = some env' ∧
      (∀ entry ∈ mapping, env' entry.1.toList = some entry.2.toList) ∧
      ∀ name ∉ names, env' name.toList = env name.toList := by
  have hnamed : ∀ entry ∈ mapping, isName entry.1.toList = true := fun entry hentry =>
    hnames _ (hkeys ▸ List.mem_map_of_mem hentry)
  refine ⟨_, envText_sourced hnamed h env, fun entry hentry => ?_, fun name hname => ?_⟩
  · refine foldl_set_of_mem ?_ (List.mem_map.mpr ⟨entry, hentry, rfl⟩) env
    have hinjective : Function.Injective String.toList := fun _ _ => String.toList_inj.mp
    have hnodup := List.Nodup.map hinjective (hkeys ▸ hdistinct)
    rw [List.map_map] at hnodup ⊢
    exact hnodup
  · refine foldl_set_of_notMem ?_ env
    rw [List.map_map]
    intro hmem
    obtain ⟨entry, hentry, heq⟩ := List.mem_map.mp hmem
    exact hname (hkeys ▸ String.toList_inj.mp heq ▸ List.mem_map_of_mem hentry)

namespace CyberGym

variable {py : Interpreter} {settings : List (String × Value)}

/-- A mapping that is made entry by entry. -/
theorem entries_ok {α β : Type} {f : String × α → Except PyExc β} {entries : List (String × α)}
    {mapping : List (String × β)}
    (h : (entries.mapM fun entry => do return (entry.1, ← f entry)) = .ok mapping) :
    mapping.map (·.1) = entries.map (·.1) ∧
      ∀ entry ∈ entries, ∃ made, f entry = .ok made ∧ (entry.1, made) ∈ mapping := by
  replace h := Ranking.mapM_ok.mp h
  induction h with
  | nil => exact ⟨rfl, List.forall_mem_nil _⟩
  | cons hfirst _ ih =>
    obtain ⟨made, hmade, hfirst⟩ := bind_ok hfirst
    cases hfirst
    refine ⟨by rw [List.map_cons, List.map_cons, ih.1],
      List.forall_mem_cons.mpr ⟨⟨made, hmade, List.mem_cons_self⟩, fun entry hentry => ?_⟩⟩
    obtain ⟨made, hmade, hmem⟩ := ih.2 entry hentry
    exact ⟨made, hmade, List.mem_cons_of_mem _ hmem⟩

/-- The texts of the mapping are those of the settings, variable by variable. -/
theorem episodeTexts_ok {mapping : List (String × Value)} {texts : List (String × String)}
    (hmapping : episodeMapping py settings = .ok mapping)
    (htexts : mappingTexts py mapping = .ok texts) :
    texts.map (·.1) = episodeVariables.map (·.1) ∧
      ∀ entry ∈ episodeVariables, ∃ value text, lookup entry.2 settings = some value ∧
        settingText py entry.2 value = .ok text ∧ (entry.1, text) ∈ texts := by
  obtain ⟨hkeys, hvalues⟩ := entries_ok hmapping
  obtain ⟨hnames, hnamed⟩ := entries_ok htexts
  refine ⟨hnames.trans hkeys, fun entry hentry => ?_⟩
  obtain ⟨result, hresult, hmem⟩ := hvalues entry hentry
  obtain ⟨text, htext, htexts⟩ := hnamed _ hmem
  unfold mappedSetting at hresult
  split at hresult
  · next value hvalue =>
    have hsetting : settingText py entry.2 value = .ok text := by
      rw [settingText, hresult]
      exact htext
    exact ⟨value, text, hvalue, hsetting, htexts⟩
  · cases hresult

/-- `runner.sh` gets every setting of its episode as it is, and nothing else changes. -/
theorem episode_env_sourced {mapping : List (String × Value)} {texts : List (String × String)}
    (hmapping : episodeMapping py settings = .ok mapping)
    (htexts : mappingTexts py mapping = .ok texts)
    (hnul : ∀ entry ∈ texts, '\x00' ∉ entry.2.toList) (env : Variables) :
    ∃ text env', writeEnv py settings = .ok text ∧
      (parse text.toList).bind (source · env) = some env' ∧
      (∀ entry ∈ episodeVariables, ∃ value setting, lookup entry.2 settings = some value ∧
        settingText py entry.2 value = .ok setting ∧
        env' entry.1.toList = some setting.toList) ∧
      ∀ name, name ∉ episodeVariables.map (·.1) → env' name.toList = env name.toList := by
  obtain ⟨hkeys, hsettings⟩ := episodeTexts_ok hmapping htexts
  have hwritten : writeEnv py settings = .ok (envText texts) := by
    rw [writeEnv, hmapping, ok_bind, htexts]
    rfl
  obtain ⟨env', hsourced, hset, hkept⟩ :=
    envText_sets hkeys (by decide +kernel) (by decide +kernel) hnul env
  refine ⟨envText texts, env', hwritten, hsourced, fun entry hentry => ?_, hkept⟩
  obtain ⟨value, text, hvalue, htext, hmem⟩ := hsettings entry hentry
  exact ⟨value, text, hvalue, htext, hset _ hmem⟩

/-- What the discovery of the agent's result found comes back from the shell. -/
theorem discovery_env_sourced {result : List (String × Value)} {mapping : List (String × String)}
    (h : discoveryMapping py result = .ok mapping)
    (hnul : ∀ entry ∈ mapping, '\x00' ∉ entry.2.toList) (env : Variables) :
    ∃ env', (parse (envText mapping).toList).bind (source · env) = some env' ∧
      (∀ entry ∈ mapping, env' entry.1.toList = some entry.2.toList) ∧
      ∀ name ∉ ["EPISODE_AGENT_ID", "EPISODE_TRAJECTORY_PATH", "EPISODE_STEP_COUNT"],
        env' name.toList = env name.toList := by
  have hkeys : mapping.map (·.1) =
      ["EPISODE_AGENT_ID", "EPISODE_TRAJECTORY_PATH", "EPISODE_STEP_COUNT"] := by
    obtain ⟨agent, -, h⟩ := bind_ok h
    obtain ⟨trajectory, -, h⟩ := bind_ok h
    obtain ⟨count, -, h⟩ := bind_ok h
    obtain ⟨steps, -, h⟩ := bind_ok h
    cases h
    rfl
  exact envText_sets hkeys (by decide) (by decide) hnul env

/-- The paths of the staged runner come back from the shell. -/
theorem staged_env_sourced {stagedRunner configPath : String}
    (hnul : ∀ entry ∈ stagedMapping stagedRunner configPath, '\x00' ∉ entry.2.toList)
    (env : Variables) :
    ∃ env', (parse (envText (stagedMapping stagedRunner configPath)).toList).bind (source · env) =
        some env' ∧
      (∀ entry ∈ stagedMapping stagedRunner configPath,
        env' entry.1.toList = some entry.2.toList) ∧
      ∀ name ∉ ["EPISODE_STAGED_OPENHANDS_RUNNER", "EPISODE_STAGED_OPENHANDS_CONFIG"],
        env' name.toList = env name.toList := by
  have hkeys : (stagedMapping stagedRunner configPath).map (·.1) =
      ["EPISODE_STAGED_OPENHANDS_RUNNER", "EPISODE_STAGED_OPENHANDS_CONFIG"] := rfl
  exact envText_sets hkeys (by decide) (by decide) hnul env

/-- Settings whose texts the shell would expand, split or take for a quote. -/
def sampleSettings : List (String × Value) :=
  episodeVariables.map fun entry => (entry.2, .str "it's $HOME")

theorem episode_env_sourced_sample : ∃ text env',
    writeEnv plainPython sampleSettings = .ok text ∧
      (parse text.toList).bind (source · fun _ => none) = some env' ∧
      env' "EPISODE_TASK_ID".toList = some "it's $HOME".toList := by
  let shown := fun key =>
    if ["silent", "native_tool_calling"].contains key then "it's $home" else "it's $HOME"
  have hmapping : episodeMapping plainPython sampleSettings =
      .ok (episodeVariables.map fun entry => (entry.1, .str (shown entry.2))) := by rfl
  have htexts : mappingTexts plainPython
      (episodeVariables.map fun entry => (entry.1, .str (shown entry.2))) =
      .ok (episodeVariables.map fun entry => (entry.1, shown entry.2)) := by rfl
  obtain ⟨text, env', hwritten, hsourced, hset, -⟩ :=
    episode_env_sourced hmapping htexts (fun entry hentry => by
      obtain ⟨named, -, rfl⟩ := List.mem_map.mp hentry
      dsimp only [shown]
      split <;> decide) fun _ => none
  obtain ⟨value, setting, hvalue, hsetting, henv⟩ :=
    hset ("EPISODE_TASK_ID", "task_id") (by decide)
  have htext : settingText plainPython "task_id" (.str "it's $HOME") = .ok "it's $HOME" := by rfl
  have hfound : lookup "task_id" sampleSettings = some (.str "it's $HOME") := by rfl
  obtain rfl := Option.some.inj (hfound.symm.trans hvalue)
  rw [← Except.ok.inj (htext.symm.trans hsetting)] at henv
  exact ⟨text, env', hwritten, hsourced, henv⟩

end CyberGym

namespace WildClawBench

/-- A word of plain characters. -/
def plainPart (text : String) : List Char × Word := (text.toList, .plain text.toList)

/-- A quoted word behind plain characters. -/
def quotedPart (start value : String) : List Char × Word :=
  (start.toList ++ (shQuote value).toList, .plain start.toList ++ .quoted value.toList)

theorem plainPart_reads {text : String} (h : text.toList.all isPlain = true)
    (hne : text.toList ≠ []) : Reads (plainPart text).1 (plainPart text).2 := .plain h hne

theorem quotedPart_reads {start value : String} (h : start.toList.all isPlain = true)
    (hnul : '\x00' ∉ value.toList) :
    Reads (quotedPart start value).1 (quotedPart start value).2 := by
  by_cases hne : start.toList = []
  · simpa [quotedPart, hne, Word.plain] using shQuote_reads hnul
  · exact (Reads.plain h hne).append (shQuote_reads hnul)

/-- The commands of `gatewayScript`, word by word. -/
def gatewayParts (tmpWorkspace apiKey baseUrl port : String) : List (List (List Char × Word)) :=
  [[plainPart "cd", quotedPart "" tmpWorkspace],
    [plainPart "export", quotedPart "OPENROUTER_API_KEY=" apiKey],
    [plainPart "export", quotedPart "OPENROUTER_BASE_URL=" baseUrl],
    [plainPart "openclaw", plainPart "gateway", plainPart "--port", quotedPart "" port]]

/-- The commands of `agentScript`. -/
def agentParts (tmpWorkspace timeout prompt : String) : List (List (List Char × Word)) :=
  [[plainPart "cd", quotedPart "" tmpWorkspace],
    [plainPart "openclaw", plainPart "agent", plainPart "--session-id", plainPart "chat",
      plainPart "--timeout", quotedPart "" timeout, plainPart "--message", quotedPart "" prompt]]

theorem gatewayScript_toList (tmpWorkspace apiKey baseUrl port : String) :
    (gatewayScript tmpWorkspace apiKey baseUrl port).toList =
      " && ".toList.intercalate ((gatewayParts tmpWorkspace apiKey baseUrl port).map fun parts =>
        [' '].intercalate (parts.map (·.1))) := by
  simp [gatewayScript, gatewayParts, plainPart, quotedPart, List.intercalate_cons_cons]

theorem agentScript_toList (tmpWorkspace timeout prompt : String) :
    (agentScript tmpWorkspace timeout prompt).toList =
      " && ".toList.intercalate ((agentParts tmpWorkspace timeout prompt).map fun parts =>
        [' '].intercalate (parts.map (·.1))) := by
  simp [agentScript, agentParts, plainPart, quotedPart, List.intercalate_cons_cons]

theorem gatewayScript_parse {tmpWorkspace apiKey baseUrl port : String}
    (h : ∀ text ∈ [tmpWorkspace, apiKey, baseUrl, port], '\x00' ∉ text.toList) :
    parse (gatewayScript tmpWorkspace apiKey baseUrl port).toList =
      some [[⟨[], ["cd".toList, tmpWorkspace.toList]⟩,
        ⟨[], ["export".toList, ("OPENROUTER_API_KEY=" ++ apiKey).toList]⟩,
        ⟨[], ["export".toList, ("OPENROUTER_BASE_URL=" ++ baseUrl).toList]⟩,
        ⟨[], ["openclaw".toList, "gateway".toList, "--port".toList, port.toList]⟩]] := by
  simp only [List.forall_mem_cons] at h
  obtain ⟨hworkspace, hkey, hurl, hport, -⟩ := h
  rw [gatewayScript_toList, parse_andList (by simp [gatewayParts])]
  · simp only [gatewayParts, plainPart, quotedPart, List.map_cons, List.map_nil]
    rw [ofWords_name (by decide), ofWords_name (by decide), ofWords_name (by decide),
      ofWords_name (by decide)]
    simp
  · have hplain : ∀ text ∈ ["cd", "export", "openclaw", "gateway", "--port"],
        Reads (plainPart text).1 (plainPart text).2 :=
      fun text htext => plainPart_reads (by revert text; decide) (by revert text; decide)
    simp only [List.forall_mem_cons] at hplain
    obtain ⟨hcd, hexport, hopenclaw, hgateway, hportOption, -⟩ := hplain
    simp only [gatewayParts, List.forall_mem_cons]
    exact ⟨⟨by simp, hcd, quotedPart_reads (by decide) hworkspace, fun _ h => nomatch h⟩,
      ⟨by simp, hexport, quotedPart_reads (by decide) hkey, fun _ h => nomatch h⟩,
      ⟨by simp, hexport, quotedPart_reads (by decide) hurl, fun _ h => nomatch h⟩,
      ⟨by simp, hopenclaw, hgateway, hportOption, quotedPart_reads (by decide) hport,
        fun _ h => nomatch h⟩, fun _ h => nomatch h⟩

theorem agentScript_parse {tmpWorkspace timeout prompt : String}
    (h : ∀ text ∈ [tmpWorkspace, timeout, prompt], '\x00' ∉ text.toList) :
    parse (agentScript tmpWorkspace timeout prompt).toList =
      some [[⟨[], ["cd".toList, tmpWorkspace.toList]⟩,
        ⟨[], ["openclaw".toList, "agent".toList, "--session-id".toList, "chat".toList,
          "--timeout".toList, timeout.toList, "--message".toList, prompt.toList]⟩]] := by
  simp only [List.forall_mem_cons] at h
  obtain ⟨hworkspace, htimeout, hprompt, -⟩ := h
  rw [agentScript_toList, parse_andList (by simp [agentParts])]
  · simp only [agentParts, plainPart, quotedPart, List.map_cons, List.map_nil]
    rw [ofWords_name (by decide), ofWords_name (by decide)]
    simp
  · have hplain : ∀ text ∈ ["cd", "openclaw", "agent", "--session-id", "chat", "--timeout",
        "--message"], Reads (plainPart text).1 (plainPart text).2 :=
      fun text htext => plainPart_reads (by revert text; decide) (by revert text; decide)
    simp only [List.forall_mem_cons] at hplain
    obtain ⟨hcd, hopenclaw, hagent, hsession, hchat, htimeoutOption, hmessage, -⟩ := hplain
    simp only [agentParts, List.forall_mem_cons]
    exact ⟨⟨by simp, hcd, quotedPart_reads (by decide) hworkspace, fun _ h => nomatch h⟩,
      ⟨by simp, hopenclaw, hagent, hsession, hchat, htimeoutOption,
        quotedPart_reads (by decide) htimeout, hmessage, quotedPart_reads (by decide) hprompt,
        fun _ h => nomatch h⟩, fun _ h => nomatch h⟩

/-- The shell runs the commands that the runner means, with their arguments as they are. -/
theorem scripts_run {tmpWorkspace apiKey baseUrl port timeout prompt : String}
    (h : ∀ text ∈ [tmpWorkspace, apiKey, baseUrl, port, timeout, prompt],
      '\x00' ∉ text.toList) :
    parse (gatewayScript tmpWorkspace apiKey baseUrl port).toList =
        some [[⟨[], ["cd".toList, tmpWorkspace.toList]⟩,
          ⟨[], ["export".toList, ("OPENROUTER_API_KEY=" ++ apiKey).toList]⟩,
          ⟨[], ["export".toList, ("OPENROUTER_BASE_URL=" ++ baseUrl).toList]⟩,
          ⟨[], ["openclaw".toList, "gateway".toList, "--port".toList, port.toList]⟩]] ∧
      parse (agentScript tmpWorkspace timeout prompt).toList =
        some [[⟨[], ["cd".toList, tmpWorkspace.toList]⟩,
          ⟨[], ["openclaw".toList, "agent".toList, "--session-id".toList, "chat".toList,
            "--timeout".toList, timeout.toList, "--message".toList, prompt.toList]⟩]] := by
  simp only [List.forall_mem_cons] at h
  obtain ⟨hworkspace, hkey, hurl, hport, htimeout, hprompt, -⟩ := h
  exact ⟨gatewayScript_parse (by simp [hworkspace, hkey, hurl, hport]),
    agentScript_parse (by simp [hworkspace, htimeout, hprompt])⟩

theorem scripts_run_prompt : parse (agentScript "/tmp_workspace" "600" "it's $(rm -rf /)").toList =
    some [[⟨[], ["cd".toList, "/tmp_workspace".toList]⟩,
      ⟨[], ["openclaw".toList, "agent".toList, "--session-id".toList, "chat".toList,
        "--timeout".toList, "600".toList, "--message".toList, "it's $(rm -rf /)".toList]⟩]] := by
  have hnul : ∀ text ∈ ["/tmp_workspace", "key", "https://m", "18789", "600",
      "it's $(rm -rf /)"], '\x00' ∉ text.toList := by decide
  exact (scripts_run hnul).2

end WildClawBench

end SafactoryServer
