import SafactoryServer.JsonLoads
import SafactoryServer.Regex.Shapes
import Mathlib.Data.List.TakeWhile

/-! A turn of the geo3k runner: what an assistant message says outside its `<think>` blocks, the
tool call in it, and the feedback or the score that ends the turn. -/

namespace SafactoryServer.Geo3k

open Regex

/-- The interpreter, and `math_utils`, whose functions raise nothing. -/
structure Runtime extends Unicode, JsonReader where
  digits : ℚ → String
  extractBoxedAnswer : String → Option String
  gradeAnswerVerl : String → String → Bool

/-- What `_RunState` is built with. -/
structure Episode where
  baseUrl : String
  model : String
  temperature : PyFloat
  timeoutS : PyFloat
  question : String
  groundTruth : String
  imageUrls : List String
  maxTurns : Int
  maxImages : Int
  echoImagesOnFeedback : Bool

inductive Role
  | user
  | assistant
deriving DecidableEq

inductive Part
  | text (text : String)
  | imageUrl (url : String)
deriving DecidableEq

inductive Content
  | text (text : String)
  | parts (parts : List Part)
deriving DecidableEq

structure Message where
  role : Role
  content : Content
deriving DecidableEq

/-- An entry of `tool_calls`. -/
structure ToolCall where
  name : String
  answer : String
  score : PyFloat
deriving DecidableEq

structure RunState where
  messages : List Message
  latestBoxedAnswer : Option String
  lastToolScore : Option PyFloat
  totalToolCalls : Nat
  toolCalls : List ToolCall
  finalAnswer : Option String
  stepCount : Nat

inductive RewardSource
  | latestBoxedAnswer
  | missingBoxedAnswer
deriving DecidableEq

/-- A text with the first images. -/
def Episode.withImages (ep : Episode) (text : String) : List Part :=
  .text text :: (ep.imageUrls.take ep.maxImages.toNat).map .imageUrl

section

variable (rt : Runtime)

/-- `str` of a document. -/
def str (value : Json) : String := value.toStr rt.toUnicode rt.digits

/-- `re.sub(r"<think>.*?</think>", "", msg, flags=re.DOTALL).strip()`. -/
def withoutThink (message : String) : String :=
  rt.strip (String.ofList
    ((Pattern.block "<think>".toList "</think>".toList).remove message.toList))

/-- `TOOL_CALL_RE`. -/
def toolCallRe : Pattern :=
  .seq (.lit "<tool_call>".toList) (.seq (.many true rt.space)
    (.seq (.group 1 (.seq (.char (· == '\x7b')) (.seq (.many false fun _ => true)
      (.char (· == '\x7d')))))
    (.seq (.many true rt.space) (.lit "</tool_call>".toList))))

/-! ### The tool call of a message -/

/-- What `_extract_tool_call` returns. -/
structure Call where
  name : Json
  arguments : Json

/-- `payload.get("function", {}).get(key)`, of which only a dict has the second `get`. -/
def functionField (payload : List (String × Json)) (key : String) : Except PyExc Json :=
  match lookup "function" payload with
  | none => .ok .null
  | some (.obj function) => .ok ((lookup key function).getD .null)
  | some _ => .error (.other "AttributeError")

/-- `payload.get(key) or payload.get("function", {}).get(key)`. -/
def field (payload : List (String × Json)) (key : String) : Except PyExc Json :=
  let value := (lookup key payload).getD .null
  if value.truthy then .ok value else functionField payload key

/-- `json.loads` in a `try` that returns `None` at a `JSONDecodeError`. -/
def tryLoads (text : String) : Except PyExc (Option Json) :=
  match loads rt.toJsonReader text with
  | .ok value => .ok (some value)
  | .error e => if e = decodeError then .ok none else .error e

/-- `_extract_tool_call`, behind the match. -/
def readToolCall (rawJson : String) : Except PyExc (Option Call) := do
  match ← tryLoads rt rawJson with
  | none => return none
  | some (.obj payload) =>
    let name ← field payload "name"
    let arguments ← field payload "arguments"
    match if arguments.truthy then arguments else .obj [] with
    | .str text =>
      match ← tryLoads rt text with
      | none => return none
      | some arguments => return if name.truthy then some ⟨name, arguments⟩ else none
    | arguments => return if name.truthy then some ⟨name, arguments⟩ else none
  | some _ => .error (.other "AttributeError")

/-- The last tool call in a text. -/
def lastMatch (text : String) : Option Match := ((toolCallRe rt).finditer text.toList).getLast?

/-- `_extract_tool_call`. -/
def extractToolCall (text : String) : Except PyExc (Option Call) :=
  match lastMatch rt text with
  | none => .ok none
  | some found =>
    match found.group 1 with
    | none => .error (.other "AttributeError")
    | some group => readToolCall rt (rt.strip (String.ofList group))

/-! ### Score and feedback -/

variable (ep : Episode)

/-- `_score_answer`. -/
def scoreAnswer (answer : String) : PyFloat :=
  if ep.groundTruth = "" then .finite 0
  else
    let answer := rt.strip answer
    let candidates :=
      if (firstOf "\\boxed".toList answer.toList).isNone then
        [answer, "\\boxed\x7b" ++ answer ++ "\x7d"]
      else [answer]
    if candidates.any (rt.gradeAnswerVerl · ep.groundTruth) then .finite 1 else .finite 0

/-- `_append_tool_feedback`. -/
def appendToolFeedback (text : String) (state : RunState) : RunState :=
  let content :=
    if ep.echoImagesOnFeedback ∧ 0 < ep.maxImages ∧ ep.imageUrls ≠ [] then
      Content.parts (ep.withImages text)
    else .text text
  { state with messages := state.messages ++ [⟨.user, content⟩] }

/-- `_build_tool_feedback`. -/
def buildToolFeedback (state : RunState) (score : PyFloat) (parsedAnswer : String) : String :=
  let turnIdx : Int := state.stepCount - 1
  let lastWarningTurn := if 2 ≤ ep.maxTurns then ep.maxTurns - 2 else ep.maxTurns - 1
  let result := "calc_score result: " ++ score.str rt.digits ++ ". Parsed answer '" ++
    parsedAnswer ++ "'"
  if score = .finite 1 then
    result ++ " matches the reference. You can now stop reasoning and provide the final " ++
      "solution in \\boxed\x7b\x7d."
  else if lastWarningTurn ≤ turnIdx then
    result ++ " does not match the reference. Your answer is wrong. You may need to reason in " ++
      "a different way. Don't repeat your answer unless necessary. Since you only have one " ++
      "chance to answer, don't call tool again. You should provide your final answer in the " ++
      "form Answer: \\boxed\x7b$Answer\x7d where $Answer is your final answer to this problem."
  else
    result ++ " does not match the reference. Your answer is wrong. You may need to reason in " ++
      "a different way. Don't repeat your answer unless necessary."

/-- `SUPPORTED_TOOL_NAMES`. -/
def supportedToolNames : List String := ["calc_score", "calc_geo3k_reward"]

/-- `"" if raw_answer is None else str(raw_answer).strip()`. -/
def parseAnswer : Json → String
  | .null => ""
  | rawAnswer => rt.strip (str rt rawAnswer)

/-- `_handle_tool_call`. -/
def handleToolCall (call : Call) (state : RunState) : RunState :=
  let name := rt.strip (str rt call.name)
  if name ∉ supportedToolNames then
    appendToolFeedback ep ("Tool `" ++ name ++ "` is not supported. Use `<tool_call>\x7b" ++
      "\"name\":\"calc_score\",\"arguments\":\x7b\"answer\":\"...\"\x7d\x7d</tool_call>`.") state
  else
    match call.arguments with
    | .obj arguments =>
      let parsedAnswer := parseAnswer rt ((lookup "answer" arguments).getD .null)
      if parsedAnswer = "" then
        appendToolFeedback ep "Tool call detected but no `answer` was provided." state
      else
        let score := scoreAnswer rt ep parsedAnswer
        let state := { state with
          lastToolScore := some score
          totalToolCalls := state.totalToolCalls + 1
          toolCalls := state.toolCalls ++ [⟨name, parsedAnswer, score⟩] }
        appendToolFeedback ep (buildToolFeedback rt ep state score parsedAnswer) state
    | _ => appendToolFeedback ep "Tool arguments must be a JSON object." state

/-- The latest boxed answer behind a message. -/
def RunState.noteBoxed (state : RunState) (text : String) : RunState :=
  match rt.extractBoxedAnswer text with
  | none => state
  | some boxedAnswer =>
    let boxedAnswer := rt.strip boxedAnswer
    if boxedAnswer = "" then state else { state with latestBoxedAnswer := some boxedAnswer }

/-- `value or default` of a text that may be `None`. -/
def textOr (value : Option String) (default : String) : String :=
  match value with
  | some text => if text = "" then default else text
  | none => default

/-- `_process_action`: the score if the message ends the episode, and `none` if it called a tool. -/
def processAction (assistantMsg : String) (state : RunState) :
    Except PyExc (Option (PyFloat × RewardSource) × RunState) := do
  let msg := rt.strip assistantMsg
  let state := { state with messages := state.messages ++ [Message.mk .assistant (.text msg)] }
  let msgWoThink := withoutThink rt msg
  let state := state.noteBoxed rt msgWoThink
  match ← extractToolCall rt msgWoThink with
  | some toolCall => return (none, handleToolCall rt ep toolCall state)
  | none =>
    let latest := textOr state.latestBoxedAnswer ""
    let state := { state with finalAnswer := some (textOr state.latestBoxedAnswer msgWoThink) }
    if latest ≠ "" then return (some (scoreAnswer rt ep latest, .latestBoxedAnswer), state)
    else return (some (.finite 0, .missingBoxedAnswer), state)

end

/-! ### Which tool calls can be read -/

section

variable (rt : Runtime)

/-- `json.loads` fails on a text by a `JSONDecodeError` only. -/
def Decodable (text : String) : Prop :=
  ∀ e, loads rt.toJsonReader text = .error e → e = decodeError

/-- A payload with a truthy value under a key, or whose `function`, if there is one, is a dict. -/
def Reachable (payload : List (String × Json)) (key : String) : Prop :=
  ((lookup key payload).getD .null).truthy = true ∨
    ∀ function, lookup "function" payload = some function → ∃ entries, function = .obj entries

/-- A payload with a text under a key, or, with nothing truthy there, in its `function`. -/
def HoldsText (payload : List (String × Json)) (key text : String) : Prop :=
  lookup key payload = some (.str text) ∨
    ((lookup key payload).getD .null).truthy = false ∧ ∃ function,
      lookup "function" payload = some (.obj function) ∧ lookup key function = some (.str text)

/-- The JSON between the tags: its name and its arguments are where they can be read, and the
arguments that stand in a text can be loaded too. -/
structure Legible (rawJson : String) : Prop where
  decodable : Decodable rt rawJson
  name : ∀ payload, loads rt.toJsonReader rawJson = .ok (.obj payload) → Reachable payload "name"
  arguments : ∀ payload, loads rt.toJsonReader rawJson = .ok (.obj payload) →
    Reachable payload "arguments"
  text : ∀ payload text, loads rt.toJsonReader rawJson = .ok (.obj payload) →
    HoldsText payload "arguments" text → text ≠ "" → Decodable rt text

/-- The last tool call in a text, if there is one, is legible. -/
def Extractable (text : String) : Prop :=
  ∀ found, lastMatch rt text = some found → ∀ group, found.group 1 = some group →
    Legible rt (rt.strip (String.ofList group))

variable {rt} {payload : List (String × Json)} {key text rawJson : String} {value : Json}

theorem field_of_truthy (h : ((lookup key payload).getD .null).truthy = true) :
    field payload key = .ok ((lookup key payload).getD .null) := if_pos h

theorem field_of_falsy (h : ((lookup key payload).getD .null).truthy = false) :
    field payload key = functionField payload key := if_neg (by rw [h]; exact Bool.false_ne_true)

theorem functionField_ok_iff : (∃ value, functionField payload key = .ok value) ↔
    ∀ function, lookup "function" payload = some function → ∃ entries, function = .obj entries := by
  unfold functionField
  split
  · next hnone => simp [hnone]
  · next function hobj => simp [hobj]
  · next value hother hvalue =>
    constructor
    · rintro ⟨_, h⟩
      cases h
    · intro h
      obtain ⟨function, rfl⟩ := h value hvalue
      exact absurd rfl (hother function)

theorem functionField_text : functionField payload key = .ok (.str text) ↔
    ∃ function, lookup "function" payload = some (.obj function) ∧
      lookup key function = some (.str text) := by
  unfold functionField
  split
  · next hnone => simp [hnone]
  · next function hobj =>
    rw [hobj]
    constructor
    · intro h
      refine ⟨function, rfl, ?_⟩
      cases hvalue : lookup key function with
      | none => rw [hvalue] at h; cases h
      | some value => rw [hvalue] at h; cases h; rfl
    · rintro ⟨_, h, hvalue⟩
      cases h
      rw [hvalue]
      rfl
  · next value hother hvalue =>
    constructor
    · intro h
      cases h
    · rintro ⟨function, h, -⟩
      rw [hvalue] at h
      exact absurd (Option.some.inj h) (hother function)

theorem field_ok_iff : (∃ value, field payload key = .ok value) ↔ Reachable payload key := by
  unfold Reachable
  cases htruthy : ((lookup key payload).getD .null).truthy with
  | true => simp [field_of_truthy htruthy]
  | false => simp [field_of_falsy htruthy, functionField_ok_iff]

theorem field_text (htext : text ≠ "") :
    field payload key = .ok (.str text) ↔ HoldsText payload key text := by
  have hstr : (Json.str text).truthy = true := decide_eq_true htext
  unfold HoldsText
  cases htruthy : ((lookup key payload).getD .null).truthy with
  | true =>
    rw [field_of_truthy htruthy]
    cases lookup key payload with
    | none => simp
    | some value => simp
  | false =>
    have hnot : lookup key payload ≠ some (.str text) := by
      intro h
      rw [h, Option.getD_some, hstr] at htruthy
      cases htruthy
    rw [field_of_falsy htruthy, functionField_text]
    simp [hnot]

theorem tryLoads_ok_iff : (∃ value, tryLoads rt text = .ok value) ↔ Decodable rt text := by
  unfold tryLoads Decodable
  cases loads rt.toJsonReader text with
  | ok value => simp
  | error e =>
    by_cases he : e = decodeError
    · simp [he]
    · simp [he]

theorem tryLoads_of_ok (h : loads rt.toJsonReader text = .ok value) :
    tryLoads rt text = .ok (some value) := by
  rw [tryLoads, h]

/-- What is read of a payload. -/
theorem readToolCall_of_payload (h : loads rt.toJsonReader rawJson = .ok (.obj payload)) :
    readToolCall rt rawJson = (do
      let name ← field payload "name"
      let arguments ← field payload "arguments"
      match if arguments.truthy then arguments else .obj [] with
      | .str text =>
        match ← tryLoads rt text with
        | none => return none
        | some arguments => return if name.truthy then some ⟨name, arguments⟩ else none
      | arguments => return if name.truthy then some ⟨name, arguments⟩ else none) := by
  rw [readToolCall, tryLoads_of_ok h]
  rfl

theorem readToolCall_legible (h : ∃ call, readToolCall rt rawJson = .ok call) :
    Legible rt rawJson := by
  obtain ⟨call, hcall⟩ := h
  have hpayload {payload : List (String × Json)}
      (hload : loads rt.toJsonReader rawJson = .ok (.obj payload)) :
      (∃ name, field payload "name" = .ok name) ∧ ∃ arguments,
        field payload "arguments" = .ok arguments ∧
          ∀ text, arguments = .str text → text ≠ "" → ∃ value, tryLoads rt text = .ok value := by
    rw [readToolCall_of_payload hload] at hcall
    obtain ⟨name, hname, hcall⟩ := bind_ok hcall
    obtain ⟨arguments, harguments, hcall⟩ := bind_ok hcall
    refine ⟨⟨name, hname⟩, arguments, harguments, ?_⟩
    rintro text rfl htext
    have hstr : (Json.str text).truthy = true := decide_eq_true htext
    rw [hstr] at hcall
    obtain ⟨value, hvalue, -⟩ := bind_ok hcall
    exact ⟨value, hvalue⟩
  refine ⟨?_, ?_, ?_, ?_⟩
  · obtain ⟨value, hvalue, -⟩ := bind_ok hcall
    exact tryLoads_ok_iff.mp ⟨value, hvalue⟩
  · intro payload hload
    exact field_ok_iff.mp (hpayload hload).1
  · intro payload hload
    obtain ⟨-, arguments, harguments, -⟩ := hpayload hload
    exact field_ok_iff.mp ⟨arguments, harguments⟩
  · intro payload text hload hholds htext
    obtain ⟨-, arguments, harguments, htexts⟩ := hpayload hload
    rw [(field_text htext).mpr hholds] at harguments
    exact tryLoads_ok_iff.mp (htexts text (Except.ok.inj harguments).symm htext)

theorem Legible.readToolCall (h : Legible rt rawJson)
    (hbrace : rawJson.toList.head? = some '\x7b') : ∃ call, readToolCall rt rawJson = .ok call := by
  cases hload : loads rt.toJsonReader rawJson with
  | error e =>
    have hnone : tryLoads rt rawJson = .ok none := by
      rw [tryLoads, hload]
      exact if_pos (h.decodable e hload)
    exact ⟨none, by rw [Geo3k.readToolCall, hnone]; rfl⟩
  | ok value =>
    obtain ⟨payload, rfl⟩ := loads_brace hbrace hload
    obtain ⟨name, hname⟩ := field_ok_iff.mpr (h.name payload hload)
    obtain ⟨arguments, harguments⟩ := field_ok_iff.mpr (h.arguments payload hload)
    rw [readToolCall_of_payload hload, hname, harguments]
    by_cases htext : ∃ text, arguments = .str text ∧ text ≠ ""
    · obtain ⟨text, rfl, hne⟩ := htext
      have hstr : (Json.str text).truthy = true := decide_eq_true hne
      obtain ⟨value, hvalue⟩ :=
        tryLoads_ok_iff.mpr (h.text payload text hload ((field_text hne).mp harguments) hne)
      refine ⟨value.bind fun arguments =>
        if name.truthy then some ⟨name, arguments⟩ else none, ?_⟩
      show (match if (Json.str text).truthy then Json.str text else .obj [] with
        | .str text => _
        | arguments => _) = _
      rw [hstr]
      show (tryLoads rt text >>= _) = _
      rw [hvalue]
      cases value <;> rfl
    · refine ⟨if name.truthy then
        some ⟨name, if arguments.truthy then arguments else .obj []⟩ else none, ?_⟩
      show (match if arguments.truthy then arguments else Json.obj [] with
        | .str text => _
        | arguments => _) = _
      split
      · next text heq =>
        split at heq
        · next htruthy =>
          subst heq
          exact absurd ⟨text, rfl, of_decide_eq_true htruthy⟩ htext
        · cases heq
      · rfl

theorem readToolCall_name {call : Call} (h : readToolCall rt rawJson = .ok (some call)) :
    call.name.truthy = true := by
  unfold readToolCall at h
  obtain ⟨value, hvalue, h⟩ := bind_ok h
  split at h
  · cases h
  · obtain ⟨name, hname, h⟩ := bind_ok h
    obtain ⟨arguments, harguments, h⟩ := bind_ok h
    have hcall {arguments : Json}
        (h : (if name.truthy = true then some (Call.mk name arguments) else none) = some call) :
        call.name.truthy = true := by
      split at h
      · next htruthy =>
        cases h
        exact htruthy
      · cases h
    split at h
    · obtain ⟨value, -, h⟩ := bind_ok h
      split at h
      · cases h
      · exact hcall (Except.ok.inj h)
    · exact hcall (Except.ok.inj h)
  · cases h

/-- What begins with no white space is stripped at its end only. -/
theorem strip_head {u : Unicode} {c : Char} (hc : u.space c = false) {text : List Char}
    (h : text.head? = some c) : (u.strip (String.ofList text)).toList.head? = some c := by
  obtain ⟨rest, rfl⟩ := List.head?_eq_some_iff.mp h
  have hneg : ¬ u.space c = true := by simp [hc]
  rw [Unicode.strip, String.toList_ofList, String.toList_ofList, List.dropWhile_cons_of_neg hneg]
  have hprefix : ((c :: rest).reverse.dropWhile u.space).reverse <+: c :: rest := by
    have hsuffix := List.dropWhile_suffix (p := u.space) (l := (c :: rest).reverse)
    rwa [← List.reverse_prefix, List.reverse_reverse] at hsuffix
  cases hkept : ((c :: rest).reverse.dropWhile u.space).reverse with
  | nil =>
    rw [List.reverse_eq_nil_iff, List.dropWhile_eq_nil_iff] at hkept
    exact absurd (hkept c (by simp)) hneg
  | cons d kept =>
    rw [hkept] at hprefix
    rw [(List.cons_prefix_cons.mp hprefix).1]
    rfl

/-- The last tool call begins with a brace. -/
theorem lastMatch_group {found : Match} (h : lastMatch rt text = some found) :
    ∃ group, found.group 1 = some group ∧
      (rt.strip (String.ofList group)).toList.head? = some '\x7b' := by
  have hmem : found ∈ (toolCallRe rt).finditer text.toList := List.mem_of_getLast? h
  obtain ⟨group, r, hgroup, hr, haccepts⟩ := Pattern.finditer_group (n := 1) hmem rfl
  have hcaptures : (toolCallRe rt).captures =
      [(1, .seq (.char (· == '\x7b')) (.seq (.many false fun _ => true) (.char (· == '\x7d'))))] :=
    rfl
  rw [hcaptures, List.mem_singleton] at hr
  obtain ⟨-, rfl⟩ := Prod.mk.inj hr
  obtain ⟨_, rest, rfl, ⟨c, hc, rfl⟩, -⟩ := haccepts
  refine ⟨_, hgroup, strip_head rfl ?_⟩
  rw [beq_iff_eq.mp hc]
  rfl

theorem extractToolCall_iff :
    (∃ call, extractToolCall rt text = .ok call) ↔ Extractable rt text := by
  unfold extractToolCall Extractable
  cases hlast : lastMatch rt text with
  | none => simp
  | some found =>
    obtain ⟨group, hgroup, hbrace⟩ := lastMatch_group hlast
    simp only [hgroup, Option.some.injEq, forall_eq']
    exact ⟨readToolCall_legible, fun h => h.readToolCall hbrace⟩

theorem extractToolCall_name {call : Call} (h : extractToolCall rt text = .ok (some call)) :
    call.name.truthy = true := by
  unfold extractToolCall at h
  split at h
  · cases h
  · split at h
    · cases h
    · exact readToolCall_name h

end

/-! ### How a turn ends -/

section

variable (rt : Runtime) (ep : Episode)

/-- A turn ends the episode with a score, or appends one message of feedback. -/
def EndsTurn (assistantMsg : String) (state : RunState)
    (result : Option (PyFloat × RewardSource) × RunState) : Prop :=
  let said := state.messages ++ [Message.mk .assistant (.text (rt.strip assistantMsg))]
  (∃ score source, result.1 = some (score, source)) ∧ result.2.messages = said ∨
    result.1 = none ∧ ∃ feedback, result.2.messages = said ++ [⟨.user, feedback⟩]

variable {rt ep} {assistantMsg text : String} {state : RunState}

theorem appendToolFeedback_messages (ep : Episode) (text : String) (state : RunState) :
    ∃ feedback, (appendToolFeedback ep text state).messages =
      state.messages ++ [⟨.user, feedback⟩] :=
  ⟨_, rfl⟩

theorem handleToolCall_messages (rt : Runtime) (ep : Episode) (call : Call) (state : RunState) :
    ∃ feedback, (handleToolCall rt ep call state).messages =
      state.messages ++ [⟨.user, feedback⟩] := by
  unfold handleToolCall
  dsimp only
  split
  · exact appendToolFeedback_messages ep _ _
  · split
    · split
      · exact appendToolFeedback_messages ep _ _
      · exact appendToolFeedback_messages ep _ _
    · exact appendToolFeedback_messages ep _ _

@[simp] theorem noteBoxed_messages (state : RunState) (text : String) :
    (state.noteBoxed rt text).messages = state.messages := by
  unfold RunState.noteBoxed
  split
  · rfl
  · dsimp only
    split <;> rfl

/-- A turn that does not raise ends. -/
theorem processAction_ends {result : Option (PyFloat × RewardSource) × RunState}
    (h : processAction rt ep assistantMsg state = .ok result) :
    EndsTurn rt assistantMsg state result := by
  obtain ⟨call, -, h⟩ := bind_ok h
  cases call with
  | some call =>
    cases h
    obtain ⟨feedback, hfeedback⟩ := handleToolCall_messages rt ep call _
    exact .inr ⟨rfl, feedback, by rw [hfeedback, noteBoxed_messages]⟩
  | none =>
    dsimp only at h
    split at h
    · cases h
      exact .inl ⟨⟨_, _, rfl⟩, noteBoxed_messages _ _⟩
    · cases h
      exact .inl ⟨⟨_, _, rfl⟩, noteBoxed_messages _ _⟩

/-- A turn whose tool call can be read ends, and no other. -/
theorem processAction_iff : (∃ result, processAction rt ep assistantMsg state = .ok result ∧
      EndsTurn rt assistantMsg state result) ↔
    Extractable rt (withoutThink rt (rt.strip assistantMsg)) := by
  rw [← extractToolCall_iff]
  constructor
  · rintro ⟨result, h, -⟩
    obtain ⟨call, hcall, -⟩ := bind_ok h
    exact ⟨call, hcall⟩
  · rintro ⟨call, hcall⟩
    have hok : ∃ result, processAction rt ep assistantMsg state = .ok result := by
      unfold processAction
      dsimp only
      rw [hcall]
      cases call with
      | some call => exact ⟨_, rfl⟩
      | none =>
        simp only [bind, Except.bind]
        split <;> exact ⟨_, rfl⟩
    obtain ⟨result, hresult⟩ := hok
    exact ⟨result, hresult, processAction_ends hresult⟩

end

/-! ### A runtime -/

/-- The text from the last occurrence of another text on. -/
def fromLast (needle : List Char) : List Char → Option (List Char)
  | [] => none
  | c :: rest =>
    match fromLast needle rest with
    | some found => some found
    | none => if needle.isPrefixOf (c :: rest) then some (c :: rest) else none

/-- The text up to the brace that closes the first one. -/
def throughBraces (opened : Int) : List Char → Option (List Char)
  | [] => none
  | c :: rest =>
    let opened := if c = '\x7b' then opened + 1 else if c = '\x7d' then opened - 1 else opened
    if c = '\x7d' ∧ opened = 0 then some [c] else (throughBraces opened rest).map (c :: ·)

/-- `extract_answer`: what stands in the last `\boxed`. -/
def extractAnswer (passage : String) : Option String := do
  let boxed ← (fromLast "\\boxed".toList passage.toList).bind (throughBraces 0)
  if "\\boxed\x7b".toList.isPrefixOf boxed then
    return String.ofList ((boxed.drop "\\boxed\x7b".length).dropLast)
  else none

/-- A runtime that knows ASCII texts and whole floats, and whose grader takes an answer only if it
is the ground truth itself. -/
def plainRuntime : Runtime :=
  { isspace := fun _ => false
    isalnum := fun _ => false
    isprintable := fun _ => false
    lower := id
    floatOf := fun _ => .nan
    tooDeep := fun depth => decide (994 < depth)
    digits := fun q => toString q.num ++ ".0"
    extractBoxedAnswer := extractAnswer
    gradeAnswerVerl := fun answer groundTruth => extractAnswer answer == some groundTruth }

def plainEpisode : Episode :=
  { baseUrl := "http://gateway/s1"
    model := "m"
    temperature := .finite (3 / 10)
    timeoutS := .finite 300
    question := "What is x?"
    groundTruth := "4"
    imageUrls := []
    maxTurns := 3
    maxImages := 1
    echoImagesOnFeedback := false }

/-- The state in front of the first turn. -/
def Episode.start (ep : Episode) : RunState :=
  let userContent := if 0 < ep.maxImages then ep.withImages ep.question else [.text ep.question]
  { messages := [⟨.user, .parts userContent⟩]
    latestBoxedAnswer := none
    lastToolScore := none
    totalToolCalls := 0
    toolCalls := []
    finalAnswer := none
    stepCount := 0 }

/-- A text yields `None` or a named tool call, and a turn ends, exactly when the last tool call of
the text, or of the message without its `<think>` blocks, is legible. -/
theorem tool_call_answered_iff (rt : Runtime) (ep : Episode) :
    (∀ text, (∃ call, extractToolCall rt text = .ok call ∧ ∀ c ∈ call, c.name.truthy = true) ↔
      Extractable rt text) ∧
    ∀ assistantMsg state, (∃ result, processAction rt ep assistantMsg state = .ok result ∧
        EndsTurn rt assistantMsg state result) ↔
      Extractable rt (withoutThink rt (rt.strip assistantMsg)) := by
  refine ⟨fun text => ?_, fun assistantMsg state => processAction_iff⟩
  rw [← extractToolCall_iff]
  constructor
  · rintro ⟨call, hcall, -⟩
    exact ⟨call, hcall⟩
  · rintro ⟨call, hcall⟩
    refine ⟨call, hcall, ?_⟩
    rintro c rfl
    exact extractToolCall_name hcall

/-- A `function` that is a text makes `_extract_tool_call` raise, and the turn with it. -/
theorem function_text_raises :
    let message := "<tool_call>\x7b\"function\": \"calc_score\"\x7d</tool_call>"
    ¬ (∃ call, extractToolCall plainRuntime message = .ok call ∧
      ∀ c ∈ call, c.name.truthy = true) ∧
    ¬ ∃ result, processAction plainRuntime plainEpisode message plainEpisode.start = .ok result ∧
      EndsTurn plainRuntime message plainEpisode.start result := by
  have hisOk {α : Type} {x : Except PyExc α} (h : x.isOk = false) (a : α) : x ≠ .ok a := by
    rintro rfl
    cases h
  refine ⟨fun ⟨call, h, _⟩ => hisOk ?_ call h, fun ⟨result, h, _⟩ => hisOk ?_ result h⟩
  · decide +kernel
  · decide +kernel

end SafactoryServer.Geo3k
