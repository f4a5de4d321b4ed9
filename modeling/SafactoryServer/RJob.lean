import SafactoryServer.Job

/-! The RJob platform as the orchestrator sees it: what it asks for, what it is told, and the two
adapters that make snapshots of the platform's answers. -/

namespace SafactoryServer

structure MountSpec where
  source : String
  target : String
  readOnly : Bool
deriving DecidableEq

structure RJobSpec where
  name : String
  idempotencyKey : String
  «namespace» : String
  chargedGroup : String
  image : String
  imagePullPolicy : String
  role : String
  labels : List (String × String)
  environment : List (String × String)
  command : List String := []
  workingDir : String := "/app"
  mounts : List MountSpec := []
  resources : List (String × Json) := []
  requests : List (String × Json) := []
  timeoutSeconds : Int := 3600
  daemon : Bool := false
  restartPolicy : String := "Never"
  privateMachine : Option String := some "Group"
  hostNetwork : Option Bool := none
  autoDeleteDuration : Option String := some "12h"
  maxRunningDuration : Option String := none

/-- The Job that the labels of an RJob name. -/
def RJobSpec.ownerJob (spec : RJobSpec) : Option String :=
  lookup "safactory.brainpp.cn/job-id" spec.labels

structure RJobSnapshot where
  rjobId : String
  state : RJobState
  ready : Bool := false
  address : Option String := none
  port : Option Int := none
  exitCode : Option Int := none
  failureSummary : Option String := none
  workloadSummary : List (String × Int) := []
deriving DecidableEq

/-- `gateway_command`. -/
def gatewayCommand (u : Unicode) (configTarget : String) : List String :=
  ["python", "-c",
    "import ipaddress\n" ++
    "import os\n" ++
    "import socket\n" ++
    "import sys\n" ++
    "addresses = []\n" ++
    "for info in socket.getaddrinfo(socket.gethostname(), None):\n" ++
    "    candidate = info[4][0]\n" ++
    "    try:\n" ++
    "        address = ipaddress.ip_address(candidate)\n" ++
    "    except ValueError:\n" ++
    "        continue\n" ++
    "    if (address.is_loopback or address.is_link_local " ++
    "or address.is_multicast or address.is_unspecified):\n" ++
    "        continue\n" ++
    "    if str(address) not in addresses:\n" ++
    "        addresses.append(str(address))\n" ++
    "if not addresses:\n" ++
    "    probe = socket.socket(socket.AF_INET, socket.SOCK_DGRAM)\n" ++
    "    try:\n" ++
    "        probe.connect(('10.68.0.1', 443))\n" ++
    "        addresses.append(probe.getsockname()[0])\n" ++
    "    finally:\n" ++
    "        probe.close()\n" ++
    "if not addresses:\n" ++
    "    raise RuntimeError('could not resolve a non-loopback RJob IP')\n" ++
    "print('SAFACTORY_RJOB_IP=' + addresses[0], flush=True)\n" ++
    "os.execv(sys.executable, [sys.executable, '-m', 'gateway', " ++
    "'--config', " ++ u.repr configTarget ++ "])\n"]

/-- `RJobState(text)`, with `none` for `ValueError`. -/
def RJobState.ofText (text : String) : Option RJobState :=
  if text = "pending" then some .pending
  else if text = "running" then some .running
  else if text = "succeeded" then some .succeeded
  else if text = "failed" then some .failed
  else if text = "cancelled" then some .cancelled
  else if text = "unknown" then some .unknown
  else none

theorem RJobState.ofText_succeeded {text : String}
    (h : (RJobState.ofText text).getD .unknown = .succeeded) : text = "succeeded" := by
  unfold RJobState.ofText at h
  grind

/-! ### `HttpRJobClient` -/

/-- The body of a successful HTTP response: none, a document, bytes that are no JSON, or bytes on
which `json.loads` raises another exception, such as the `RecursionError` of deep nesting. -/
inductive Content
  | empty
  | json (document : Json)
  | invalid
  | unread (x : PyExc)

/-- `_sync_request` returns on a success with this body. -/
def Content.Accepted (content : Content) : Prop :=
  content = .empty ∨ ∃ entries, content = .json (.obj entries)

/-- What a request to the control plane comes to: a successful response, an HTTP error status,
another `OSError`, or an exception of any other class. -/
inductive HttpReply
  | success (content : Content)
  | status (code : Nat)
  | osError
  | raised (name : String)

namespace HttpRJobClient

/-- `_sync_request`, after the request is sent. -/
def request : HttpReply → Except PyExc (List (String × Json))
  | .raised name => throw (.other name)
  | .status _ | .osError => throw .rjobDependencyError
  | .success .empty => return []
  | .success .invalid => throw .rjobDependencyError
  | .success (.unread x) => throw x
  | .success (.json document) =>
    match document.asObj? with
    | some result => return result
    | none => throw .rjobDependencyError

def create (reply : HttpReply) : Except PyExc String := do
  let response ← request reply
  match (lookup "rjob_id" response).bind Json.asStr? with
  | some rjobId => if rjobId = "" then throw .rjobDependencyError else return rjobId
  | none => throw .rjobDependencyError

/-- The entries that `get` keeps of a workload summary. -/
def workloadSummary (summary : List (String × Json)) : List (String × Int) :=
  summary.filterMap fun (key, value) =>
    if key ∈ ["total", "running", "succeeded", "failed", "collected"] then
      value.asInt?.bind fun n => if 0 ≤ n then some (key, n) else none
    else none

def get (u : Unicode) (rjobId : String) (reply : HttpReply) : Except PyExc RJobSnapshot := do
  let response ← request reply
  -- The text of a document that is no string is no state name.
  let state := match (lookup "state" response).getD (.str "unknown") with
    | .str text => (RJobState.ofText (u.lowered text)).getD .unknown
    | _ => .unknown
  return {
    rjobId := rjobId
    state := state
    ready := match lookup "ready" response with
      | some (.bool true) => true
      | _ => false
    address := (lookup "address" response).bind fun value =>
      value.asStr?.bind fun s => if s = "" then none else some s
    port := (lookup "port" response).bind fun value =>
      value.asInt?.bind fun n => if 1 ≤ n ∧ n ≤ 65535 then some n else none
    exitCode := (lookup "exit_code" response).bind Json.asInt?
    failureSummary := (lookup "failure_summary" response).bind Json.asStr?
    workloadSummary := workloadSummary
      (((lookup "workload_summary" response).bind Json.asObj?).getD []) }

def stop (reply : HttpReply) : Except PyExc Unit := do
  let _ ← request reply
  return ()

theorem request_ok {reply : HttpReply} {response : List (String × Json)}
    (h : request reply = .ok response) :
    reply = .success .empty ∧ response = [] ∨ reply = .success (.json (.obj response)) := by
  cases reply with
  | raised | status | osError => cases h
  | success content =>
    cases content with
    | empty => cases h; exact .inl ⟨rfl, rfl⟩
    | invalid | unread => cases h
    | json document =>
      cases document with
      | obj entries => cases h; exact .inr rfl
      | null | bool | int | float | str | arr => cases h

/-- HTTP success is not enough for `stop` to return. -/
theorem stop_success_iff (content : Content) :
    stop (.success content) = .ok () ↔ content.Accepted := by
  constructor
  · intro h
    obtain ⟨response, hRequest, -⟩ := bind_ok h
    rcases request_ok hRequest with ⟨heq, -⟩ | heq
    · exact .inl (HttpReply.success.inj heq)
    · exact .inr ⟨response, HttpReply.success.inj heq⟩
  · rintro (rfl | ⟨entries, rfl⟩) <;> rfl

/-- A snapshot is succeeded only when the response names that state. -/
theorem get_succeeded {u : Unicode} {rjobId : String} {reply : HttpReply} {snapshot : RJobSnapshot}
    (h : get u rjobId reply = .ok snapshot) (hState : snapshot.state = .succeeded) :
    ∃ response text, reply = .success (.json (.obj response)) ∧
      lookup "state" response = some (.str text) ∧ u.lowered text = "succeeded" ∧
      snapshot.workloadSummary = workloadSummary
        (((lookup "workload_summary" response).bind Json.asObj?).getD []) := by
  obtain ⟨response, hr, h⟩ := bind_ok h
  cases h
  simp only at hState
  split at hState
  · next text heq =>
    have htext : u.lowered text = "succeeded" := RJobState.ofText_succeeded hState
    cases hl : lookup "state" response with
    | none =>
      rw [hl] at heq
      cases heq
      rw [show u.lowered "unknown" = "unknown" from rfl] at htext
      exact absurd htext (by decide)
    | some value =>
      rw [hl] at heq
      obtain rfl : value = .str text := heq
      rcases request_ok hr with ⟨-, rfl⟩ | rfl
      · cases hl
      · exact ⟨response, text, rfl, hl, htext, rfl⟩
  · cases hState

end HttpRJobClient

/-! ### `BrainPPRJobClient` -/

/-- What the adapter reads from the status object of the SDK: its status text, the exit code, the
addresses in the status and, for a running RJob without one, the address in its logs. -/
structure SdkStatus where
  text : String
  exitCode : Option Int
  addresses : List String
  loggedAddress : Option String

namespace BrainPPRJobClient

/-- `_brainpp_state` on the status text. -/
def state (u : Unicode) (text : String) : RJobState :=
  let normalized := u.lowered (u.strip text)
  if normalized = "running" then .running
  else if normalized = "succeeded" then .succeeded
  else if normalized = "failed" then .failed
  else if normalized ∈ ["stopped", "killed", "killing", "deleting"] then .cancelled
  else if normalized ∈ ["created", "pending", "starting", "inqueue", "restarting"] then .pending
  else .unknown

/-- `get`; the SDK raises, knows no such RJob, or returns its status object. -/
def get (u : Unicode) (gatewayPort : Int) (rjobId : String) :
    Except Unit (Option SdkStatus) → Except PyExc RJobSnapshot
  | .error _ => throw .rjobDependencyError
  | .ok none => return { rjobId := rjobId, state := .unknown }
  | .ok (some status) =>
    let state := state u status.text
    let addresses := if status.addresses = [] ∧ state = .running then
        (status.loggedAddress.filter (· ≠ "")).toList
      else status.addresses
    let address := addresses.head?
    return {
      rjobId := rjobId
      state := state
      ready := state = .running
      address := address
      port := if (address.getD "") ≠ "" then some gatewayPort else none
      exitCode := status.exitCode
      failureSummary := if state = .failed ∨ state = .cancelled then
          some ("RJob status=" ++ status.text) else none }

theorem get_succeeded {u : Unicode} {port : Int} {rjobId : String}
    {answer : Except Unit (Option SdkStatus)} {snapshot : RJobSnapshot}
    (h : get u port rjobId answer = .ok snapshot) (hState : snapshot.state = .succeeded) :
    ∃ status, answer = .ok (some status) ∧ u.lowered (u.strip status.text) = "succeeded" ∧
      snapshot.workloadSummary = [] := by
  match answer, h with
  | .ok none, h => cases h; cases hState
  | .ok (some status), h =>
    cases h
    refine ⟨status, rfl, ?_, rfl⟩
    simp only [state] at hState
    grind

end BrainPPRJobClient

end SafactoryServer
