import SafactoryServer.Effect.Coupled
import SafactoryServer.ToolCalls

/-! The rollout of the geo3k runner: its calls to the Gateway, turn by turn, and the score. -/

namespace SafactoryServer.Geo3k

open Effect Regex

/-- A request to the Gateway. -/
structure Post where
  url : String
  model : String
  messages : List Message
  temperature : PyFloat
  timeout : PyFloat

/-- What a request ends in: the body of the response, or what `requests` raises. -/
abbrev Reply (_ : Post) : Type := Except PyExc Json

abbrev Rollout (α : Type) : Type := Task Post Reply PyExc α

def Rollout.lift {α : Type} (result : Except PyExc α) : Rollout α := ExceptT.mk (.done result)

/-- `value[key]`. -/
def subscript (key : String) : Json → Except PyExc Json
  | .obj entries => (lookup key entries).elim (.error .keyError) .ok
  | _ => .error .typeError

/-- `value[0]`. -/
def first : Json → Except PyExc Json
  | .arr (item :: _) => .ok item
  | .arr [] => .error (.other "IndexError")
  | .str s =>
    match s.toList with
    | c :: _ => .ok (.str (String.singleton c))
    | [] => .error (.other "IndexError")
  | .obj _ => .error .keyError
  | _ => .error .typeError

/-- The outcome of an episode. -/
structure Outcome where
  score : PyFloat
  rewardSource : RewardSource
  terminated : Bool
  truncated : Bool
  finalAnswer : Option String
  latestBoxedAnswer : Option String
  totalToolCalls : Nat
  toolCalls : List ToolCall
  turns : Nat
deriving DecidableEq

def RunState.outcome (state : RunState) (score : PyFloat) (rewardSource : RewardSource) : Outcome :=
  { score := score
    rewardSource := rewardSource
    terminated := true
    truncated := false
    finalAnswer := state.finalAnswer
    latestBoxedAnswer := state.latestBoxedAnswer
    totalToolCalls := state.totalToolCalls
    toolCalls := state.toolCalls
    turns := state.stepCount }

section

variable (rt : Runtime) (ep : Episode)

/-- The message in the body of a response. -/
def assistantMessage (body : Json) : Except PyExc String := do
  let choices ← subscript "choices" body
  let choice ← first choices
  match ← subscript "message" choice with
  | .obj message =>
    let content := (lookup "content" message).getD (.str "")
    return str rt (if content.truthy then content else .str "")
  | _ => .error (.other "AttributeError")

def Episode.post (messages : List Message) : Post :=
  { url := ep.baseUrl ++ "/chat/completions"
    model := ep.model
    messages := messages
    temperature := ep.temperature
    timeout := ep.timeoutS }

/-- `_call_gateway`. -/
def callGateway (messages : List Message) : Rollout String := do
  let body ← Rollout.lift (← Task.ask (ep.post messages))
  Rollout.lift (assistantMessage rt body)

/-- A turn of the loop behind the call: its outcome, or the state in front of the next turn. -/
def afterReply (assistantMsg : String) (state : RunState) : Except PyExc (Outcome ⊕ RunState) := do
  let (final, state) ← processAction rt ep assistantMsg state
  match final with
  | some (score, rewardSource) => return .inl (state.outcome score rewardSource)
  | none =>
    if ep.maxTurns ≤ state.stepCount then
      let latest := textOr state.latestBoxedAnswer ""
      let state := { state with finalAnswer := state.latestBoxedAnswer }
      if latest ≠ "" then return .inl (state.outcome (scoreAnswer rt ep latest) .latestBoxedAnswer)
      else return .inl (state.outcome (.finite 0) .missingBoxedAnswer)
    else return .inr state

/-- The `while` loop of `run`, up to a number of turns. -/
def loop : (turns : Nat) → RunState → Rollout Outcome
  | 0, _ => throw (.other "out of turns")
  | turns + 1, state => do
    let state := { state with stepCount := state.stepCount + 1 }
    let assistantMsg ← callGateway rt ep state.messages
    match ← Rollout.lift (afterReply rt ep assistantMsg state) with
    | .inl outcome => return outcome
    | .inr state => loop turns state

/-- `_RunState.run`: its turn cap ends the loop after `max 1 max_turns` turns at the latest. -/
def run : Rollout Outcome := loop rt ep (max 1 ep.maxTurns).toNat ep.start

end

/-! ### What a run is about -/

/-- A Gateway that answers the requests one after the other. -/
def serve (replies : ℕ → Except PyExc Json) (_ : Post) (n : ℕ) : Except PyExc Json × ℕ :=
  (replies n, n + 1)

/-- Messages that alternate between user and assistant, the first and the last a user's. -/
def alternating : List Role → Bool
  | [.user] => true
  | .user :: .assistant :: rest => alternating rest
  | _ => false

section

variable (rt : Runtime) (ep : Episode) (replies : ℕ → Except PyExc Json)

/-- The non-empty boxed answer of a message outside its `<think>` blocks. -/
def boxedAnswer (message : String) : Option String :=
  let said := outside "<think>".toList "</think>".toList 0 (rt.strip message).toList
  ((rt.extractBoxedAnswer (rt.strip (String.ofList said))).map rt.strip).filter (· ≠ "")

def lastBoxed (messages : List String) : Option String :=
  (messages.filterMap (boxedAnswer rt)).getLast?

/-- The assistant messages in the first replies. -/
def received (n : ℕ) : Except PyExc (List String) :=
  (List.range n).mapM fun i => replies i >>= assistantMessage rt

/-- The score that an answer stands for, and its source. -/
def scoreOf (answer : Option String) : PyFloat × RewardSource :=
  match answer with
  | some answer => (scoreAnswer rt ep answer, .latestBoxedAnswer)
  | none => (.finite 0, .missingBoxedAnswer)

/-- What holds in front of every turn. -/
structure Midway (state : RunState) : Prop where
  roles : alternating (state.messages.map (·.role)) = true
  boxed : ∃ messages, received rt replies state.stepCount = .ok messages ∧
    state.latestBoxedAnswer = lastBoxed rt messages
  tools : state.totalToolCalls = state.toolCalls.length

/-- What holds of the outcome. -/
structure Scored (outcome : Outcome) : Prop where
  boxed : ∃ messages, received rt replies outcome.turns = .ok messages ∧
    outcome.latestBoxedAnswer = lastBoxed rt messages
  score : (outcome.score, outcome.rewardSource) = scoreOf rt ep outcome.latestBoxedAnswer
  tools : outcome.totalToolCalls = outcome.toolCalls.length

end

/-! ### What one turn does -/

section

variable {rt : Runtime} {ep : Episode} {replies : ℕ → Except PyExc Json}

theorem alternating_append {roles : List Role} (h : alternating roles = true) :
    alternating (roles ++ [.assistant, .user]) = true := by
  fun_induction alternating roles with
  | case1 => rfl
  | case2 rest ih => exact ih h
  | case3 => cases h

theorem received_succ {n : ℕ} {messages : List String} {message : String}
    (h : received rt replies n = .ok messages)
    (hmessage : (replies n >>= assistantMessage rt) = .ok message) :
    received rt replies (n + 1) = .ok (messages ++ [message]) := by
  rw [received] at h ⊢
  rw [List.range_succ, List.mapM_append, h, List.mapM_cons, hmessage]
  rfl

theorem lastBoxed_append (messages : List String) (message : String) :
    lastBoxed rt (messages ++ [message]) = (boxedAnswer rt message).or (lastBoxed rt messages) := by
  rw [lastBoxed, List.filterMap_append, List.getLast?_append, lastBoxed]
  cases h : boxedAnswer rt message <;> simp [h]

theorem lastBoxed_ne {messages : List String} {answer : String}
    (h : lastBoxed rt messages = some answer) : answer ≠ "" := by
  obtain ⟨message, -, hmessage⟩ := List.mem_filterMap.mp (List.mem_of_getLast? h)
  simpa using (Option.filter_eq_some_iff.mp hmessage).2

theorem withoutThink_eq (message : String) : withoutThink rt message =
    rt.strip (String.ofList (outside "<think>".toList "</think>".toList 0 message.toList)) := by
  rw [withoutThink, Pattern.remove_block (by decide)]

theorem noteBoxed_latest (state : RunState) (message : String) :
    (state.noteBoxed rt (withoutThink rt (rt.strip message))).latestBoxedAnswer =
      (boxedAnswer rt message).or state.latestBoxedAnswer := by
  rw [boxedAnswer, RunState.noteBoxed, withoutThink_eq]
  cases rt.extractBoxedAnswer _ with
  | none => rfl
  | some answer =>
    dsimp only
    by_cases hanswer : rt.strip answer = ""
    · simp [hanswer, Option.filter]
    · simp [hanswer, Option.filter]

/-- What a turn leaves of the state, beside its messages. -/
structure Carried (rt : Runtime) (message : String) (state state' : RunState) : Prop where
  stepCount : state'.stepCount = state.stepCount
  latest : state'.latestBoxedAnswer = (boxedAnswer rt message).or state.latestBoxedAnswer
  tools : state.totalToolCalls = state.toolCalls.length →
    state'.totalToolCalls = state'.toolCalls.length

theorem handleToolCall_kept (rt : Runtime) (ep : Episode) (call : Call) (state : RunState) :
    (handleToolCall rt ep call state).stepCount = state.stepCount ∧
    (handleToolCall rt ep call state).latestBoxedAnswer = state.latestBoxedAnswer ∧
    (state.totalToolCalls = state.toolCalls.length →
      (handleToolCall rt ep call state).totalToolCalls =
        (handleToolCall rt ep call state).toolCalls.length) := by
  unfold handleToolCall
  dsimp only
  split
  · exact ⟨rfl, rfl, id⟩
  · split
    · split
      · exact ⟨rfl, rfl, id⟩
      · refine ⟨rfl, rfl, fun h => ?_⟩
        simp [appendToolFeedback, h]
    · exact ⟨rfl, rfl, id⟩

theorem noteBoxed_kept (rt : Runtime) (state : RunState) (text : String) :
    (state.noteBoxed rt text).stepCount = state.stepCount ∧
    (state.noteBoxed rt text).totalToolCalls = state.totalToolCalls ∧
    (state.noteBoxed rt text).toolCalls = state.toolCalls := by
  unfold RunState.noteBoxed
  split
  · exact ⟨rfl, rfl, rfl⟩
  · dsimp only
    split <;> exact ⟨rfl, rfl, rfl⟩

theorem textOr_scoreOf (rt : Runtime) (ep : Episode) {latest : Option String}
    (h : ∀ answer ∈ latest, answer ≠ "") :
    (if textOr latest "" ≠ "" then
      (scoreAnswer rt ep (textOr latest ""), RewardSource.latestBoxedAnswer)
    else (.finite 0, .missingBoxedAnswer)) = scoreOf rt ep latest := by
  cases latest with
  | none => rfl
  | some answer =>
    have hne := h answer rfl
    simp [textOr, scoreOf, hne]

/-- The state behind a message with its boxed answer noted. -/
theorem noteBoxed_carried (rt : Runtime) (message : String) (said : List Message)
    (state : RunState) : Carried rt message state
      (({ state with messages := said } : RunState).noteBoxed rt
        (withoutThink rt (rt.strip message))) := by
  obtain ⟨hcount, htotal, hcalls⟩ :=
    noteBoxed_kept rt { state with messages := said } (withoutThink rt (rt.strip message))
  exact ⟨hcount, noteBoxed_latest _ message, fun h => by rw [htotal, hcalls]; exact h⟩

theorem Carried.handleToolCall {message : String} {state state' : RunState}
    (h : Carried rt message state state') (call : Call) :
    Carried rt message state (handleToolCall rt ep call state') := by
  obtain ⟨hcount, hlatest, htools⟩ := handleToolCall_kept rt ep call state'
  exact ⟨hcount.trans h.stepCount, hlatest.trans h.latest, fun hs => htools (h.tools hs)⟩

/-- A turn: what it carries along, and the score with which it ends an episode. -/
theorem processAction_ok {message : String} {state state' : RunState}
    {final : Option (PyFloat × RewardSource)}
    (h : processAction rt ep message state = .ok (final, state')) :
    Carried rt message state state' ∧
    ((∀ answer ∈ state'.latestBoxedAnswer, answer ≠ "") → ∀ result ∈ final,
      result = scoreOf rt ep state'.latestBoxedAnswer) := by
  obtain ⟨call, -, h⟩ := bind_ok h
  have hnoted := noteBoxed_carried rt message
    (state.messages ++ [Message.mk .assistant (.text (rt.strip message))]) state
  cases call with
  | some call =>
    cases h
    exact ⟨hnoted.handleToolCall call, fun _ result hresult => by cases hresult⟩
  | none =>
    have hfinal (latest : Option String) (hlatest : ∀ answer ∈ latest, answer ≠ "") :=
      textOr_scoreOf rt ep hlatest
    dsimp only at h
    split at h
    · next hne =>
      cases h
      refine ⟨⟨hnoted.stepCount, hnoted.latest, hnoted.tools⟩, ?_⟩
      rintro hlatest _ ⟨⟩
      rw [← hfinal _ hlatest, if_pos hne]
    · next hne =>
      cases h
      refine ⟨⟨hnoted.stepCount, hnoted.latest, hnoted.tools⟩, ?_⟩
      rintro hlatest _ ⟨⟩
      rw [← hfinal _ hlatest, if_neg hne]

/-- A turn of the loop in a run: its outcome is scored, or the next turn may follow. -/
theorem Midway.afterReply {state : RunState} {message : String} {result : Outcome ⊕ RunState}
    (hmid : Midway rt replies state)
    (hmessage : (replies state.stepCount >>= assistantMessage rt) = .ok message)
    (h : Geo3k.afterReply rt ep message { state with stepCount := state.stepCount + 1 } =
      .ok result) :
    match result with
    | .inl outcome => Scored rt ep replies outcome ∧ outcome.turns = state.stepCount + 1
    | .inr state' => Midway rt replies state' ∧ state'.stepCount = state.stepCount + 1 ∧
        state'.stepCount < ep.maxTurns := by
  obtain ⟨⟨final, state'⟩, hprocess, h⟩ := bind_ok h
  obtain ⟨hcarried, hfinal⟩ := processAction_ok hprocess
  obtain ⟨messages, hreceived, hlatest⟩ := hmid.boxed
  have hcount : state'.stepCount = state.stepCount + 1 := hcarried.stepCount
  have hboxed : received rt replies state'.stepCount = .ok (messages ++ [message]) ∧
      state'.latestBoxedAnswer = lastBoxed rt (messages ++ [message]) := by
    refine ⟨by rw [hcount]; exact received_succ hreceived hmessage, ?_⟩
    rw [lastBoxed_append, ← hlatest]
    exact hcarried.latest
  have hne : ∀ answer ∈ state'.latestBoxedAnswer, answer ≠ "" := by
    intro answer hanswer
    exact lastBoxed_ne (hboxed.2.symm.trans hanswer)
  have htools := hcarried.tools hmid.tools
  dsimp only at h
  split at h
  · next score rewardSource =>
    cases h
    exact ⟨⟨⟨_, hboxed⟩, hfinal hne _ rfl, htools⟩, hcount⟩
  · split at h
    · -- the turn cap
      have hcap := textOr_scoreOf rt ep hne
      split at h
      · next hlast =>
        cases h
        rw [if_pos hlast] at hcap
        exact ⟨⟨⟨_, hboxed⟩, hcap, htools⟩, hcount⟩
      · next hlast =>
        cases h
        rw [if_neg hlast] at hcap
        exact ⟨⟨⟨_, hboxed⟩, hcap, htools⟩, hcount⟩
    · next hturns =>
      cases h
      refine ⟨⟨?_, ⟨_, hboxed⟩, htools⟩, hcount, by omega⟩
      obtain ⟨hsome, -⟩ | ⟨-, feedback, hmessages⟩ := processAction_ends hprocess
      · obtain ⟨_, _, hsome⟩ := hsome
        cases hsome
      · rw [hmessages]
        have := alternating_append hmid.roles
        simpa using this

/-! ### Whole runs -/

/-- The rest of the loop behind a turn. -/
def continued (rt : Runtime) (ep : Episode) (turns : Nat) : Outcome ⊕ RunState → Rollout Outcome
  | .inl outcome => pure outcome
  | .inr state => loop rt ep turns state

/-- The loop behind a call. -/
def answered (rt : Runtime) (ep : Episode) (turns : Nat) (state : RunState)
    (assistantMsg : String) : Rollout Outcome :=
  Rollout.lift (afterReply rt ep assistantMsg { state with stepCount := state.stepCount + 1 }) >>=
    continued rt ep turns

theorem loop_succ (turns : Nat) (state : RunState) : loop rt ep (turns + 1) state =
    (callGateway rt ep state.messages >>= answered rt ep turns state) := by
  refine congrArg (callGateway rt ep state.messages >>= ·) (funext fun assistantMsg => ?_)
  unfold answered
  cases afterReply rt ep assistantMsg { state with stepCount := state.stepCount + 1 } with
  | error x => rfl
  | ok result => cases result <;> rfl

theorem afterReply_inr {message : String} {state state' : RunState}
    (h : afterReply rt ep message state = .ok (.inr state')) :
    state'.stepCount = state.stepCount ∧ state.stepCount < ep.maxTurns := by
  obtain ⟨⟨final, state₁⟩, hprocess, h⟩ := bind_ok h
  have hcount := (processAction_ok hprocess).1.stepCount
  dsimp only at h
  split at h
  · cases h
  · split at h
    · split at h <;> cases h
    · next hturns =>
      cases h
      exact ⟨hcount, by omega⟩

/-- No run is out of turns: the cap ends the loop before. -/
theorem loop_fuel {turns : Nat} {state : RunState} (hpos : 0 < turns)
    (hturns : ep.maxTurns ≤ turns + state.stepCount) :
    loop rt ep (turns + 1) state = loop rt ep turns state := by
  induction turns generalizing state with
  | zero => cases hpos
  | succ turns ih =>
    rw [loop_succ, loop_succ]
    refine congrArg (callGateway rt ep state.messages >>= ·) (funext fun message => ?_)
    unfold answered
    cases hafter : afterReply rt ep message { state with stepCount := state.stepCount + 1 } with
    | error x => rfl
    | ok result =>
      cases result with
      | inl outcome => rfl
      | inr state' =>
        obtain ⟨hcount, hlt⟩ := afterReply_inr hafter
        dsimp only at hcount hlt
        exact ih (by omega) (by omega)

end

end SafactoryServer.Geo3k
