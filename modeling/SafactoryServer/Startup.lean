import Mathlib.Data.List.Infix
import Mathlib.Data.List.Perm.Subperm
import SafactoryServer.Catalog
import SafactoryServer.Initialization

/-! How the server starts: `create_app` with an initialization file, the preflight of its lifespan,
and what the RJobs of the Jobs then get of the file. -/

namespace SafactoryServer

namespace Initialization

/-- What the process finds when it starts: its environment variables, `str` and `str.upper`, what
the constructors of its collaborators come to, and what their probes do. -/
structure Surroundings where
  environ : List (String × String)
  upper : String → String
  str : Json → String
  str_text : ∀ text, str (.str text) = text
  authConfig : Except PyExc Unit
  rjobClient : Except PyExc Unit
  sdkRepository : Except PyExc Unit
  catalog : Except PyExc RangeDocument
  files : Except PyExc Unit
  store : Except PyExc Unit
  rjobs : Except PyExc Unit
  dataPlatform : Except PyExc Unit

namespace Surroundings

variable (around : Surroundings)

end Surroundings

/-! ### The texts of the settings -/

section

variable {py : Runtime}

namespace Mapping

variable {f : FloatTexts}

/-- The entries of a mapping in its JSON text. -/
def document (mapping : Mapping f) : List (String × Json) :=
  (mapping.entries.map fun e => (e.1, e.2.toJson)).insertionSort fun a b => a.1 ≤ b.1

end Mapping

section

variable {settings server : ServerSettings} {config : InitializationConfig py}
  {catalog : RealCatalog} {o : RealJobOrchestrator} {job : ControlJob} {binding : JobFileBinding}
  {modelId : String} {route : List (String × Json)}

end

end

/-! ### A start -/

end Initialization

end SafactoryServer
