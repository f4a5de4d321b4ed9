import SafactoryServer.JsonLoads
import Mathlib.Data.List.Sort

/-! `parse_harbor_result`: the verdict of the harbor runner on the files of one Harbor job. -/

namespace SafactoryServer.Harbor

/-- `path / name`. -/
def child (path name : String) : String := path ++ "/" ++ name

namespace RunSpec

variable (spec : RunSpec)

end RunSpec

/-- What the file system answers.  `trials` are the directories in a directory that hold a
`result.json`, `iterdir` all that are in it, and `trajectories` the files `*trajectory*.json*` at
any depth; all of them are sorted. -/
structure Files where
  readText : String → Except PyExc String
  isDir : String → Bool
  trials : String → Except PyExc (List String)
  iterdir : String → Except PyExc (List String)
  trajectories : String → Except PyExc (List String)
  tail : String → Except PyExc String

/-- The interpreter and its `json.loads`. -/
structure Runtime extends Interpreter, JsonReader where
  round : PyFloat → PyFloat

section

variable (rt : Runtime) (files : Files)

/-- `str(value.get(key) or default)`. -/
def textField (value : List (String × Json)) (key default : String) : String :=
  let field := (lookup key value).getD .null
  if field.truthy then field.toStr rt.toUnicode rt.digits else default

/-- The text without the white space at its end. -/
def rstripSpace (text : String) : String :=
  String.ofList (text.toList.reverse.dropWhile rt.space).reverse

/-- The `kind` of an exception. -/
def exceptionKind (exception : List (String × Json)) : String :=
  textField rt exception "exception_type" "Exception"

/-- `add` of `_trial_errors`. -/
def add (found : List String × Bool) (value : Option Json) (location : String) :
    List String × Bool :=
  match value with
  | some (.obj exception) =>
    let kind := exceptionKind rt exception
    let message := rt.strip (textField rt exception "exception_message" "")
    (found.1 ++ [rstripSpace rt (location ++ ": " ++ kind ++ ": " ++ message)],
      found.2 || kind == "AgentTimeoutError")
  | _ => found

/-- The steps of a trajectory. -/
def stepsOf : Json → Nat
  | .obj entries =>
    match lookup "steps" entries with
    | some (.arr steps) => steps.length
    | _ => 0
  | .arr items => items.length
  | _ => 0

end

/-! ### The verdict -/

section

variable (rt : Runtime) (files : Files) (spec : RunSpec)

end

/-- The exception that a trial or a step records. -/
def exceptionInfo (entries : List (String × Json)) : Option (List (String × Json)) :=
  (lookup "exception_info" entries).bind Json.asObj?

section

variable (rt : Runtime)

theorem add_eq (found : List String × Bool) (entries : List (String × Json)) (location : String) :
    ((add rt found (lookup "exception_info" entries) location).1 = [] ↔
      found.1 = [] ∧ exceptionInfo entries = none) ∧
    ((add rt found (lookup "exception_info" entries) location).2 = true ↔
      found.2 = true ∨ ∃ e ∈ exceptionInfo entries, exceptionKind rt e = "AgentTimeoutError") := by
  unfold add exceptionInfo
  split
  · next exception hinfo => simp [hinfo, Json.asObj?]
  · next hinfo =>
    have hnone : (lookup "exception_info" entries).bind Json.asObj? = none := by
      cases hvalue : lookup "exception_info" entries with
      | none => rfl
      | some value =>
        cases value with
        | obj exception => exact absurd hvalue (hinfo exception)
        | _ => rfl
    simp [hnone]

end

/-! ### The verdict is earned -/

section

variable {rt : Runtime} {files : Files} {spec : RunSpec} {returnCode : Int} {timedOut : Bool}
  {trial rewards : List (String × Json)} {reward : Option PyFloat} {reason : Option String}

end

def plainRuntime : Runtime :=
  { plainPython with
    floatOf := fun _ => .nan
    tooDeep := fun depth => decide (994 < depth)
    round := id }

end SafactoryServer.Harbor
