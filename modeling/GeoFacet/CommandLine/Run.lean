import GeoFacet.CommandLine.Arguments
import GeoFacet.CommandLine.Failure
import GeoFacet.Search.Backend
import GeoFacet.Service
import GeoFacet.Sql.Backend

/-!
# A run of the program

Both tasks work without a live backend: `explain` compiles the request on standard input to a plan,
`assemble` makes a native result on standard input into the response. The input is read before the
configuration.
-/

namespace GeoFacet

/-- The backend of a kind. -/
def Backend.ofKind : BackendKind → Backend
  | .search => Search.backend
  | .sql => Sql.backend

namespace CommandLine

/-! ## Tasks -/

/-- The service of a collection of a configuration. -/
def service (config : Config) (collection : String) (b : Backend) : Outcome (Service b) := do
  .ok ⟨← config.collection collection, config.maxPageSize⟩

/-- The plan of a request. -/
def explain (config : Config) (collection : String) (kind : BackendKind) (r : Request) :
    Except Failure Json :=
  let b := Backend.ofKind kind
  let plan : Outcome b.Plan := do (← service config collection b).explain r
  (plan.map b.planJson).mapError .refused

/-- A request and the native result that its plan gave. -/
structure AssembleInput where
  request : Request
  result : Json

namespace AssembleInput

def keys : List String := ["request", "result"]

def ofJson? (v : Json) : Option AssembleInput := do
  let fs ← v.fields? keys
  some {
    request := ← fs.required "request" Request.ofJson?
    result := ← fs.required "result" some }

/-- The input that a text holds. -/
def ofText? (text : String) : Option AssembleInput := (Json.readFor? keys text).bind ofJson?

end AssembleInput

/-- The response of a native result. -/
def assemble (config : Config) (collection : String) (kind : BackendKind) (input : AssembleInput) :
    Except Failure Json := do
  let b := Backend.ofKind kind
  let s ← (service config collection b).mapError .refused
  match b.readNative? input.result with
  | none => .error .malformedInput
  | some native => (s.assemble input.request native).mapError .refused

/-! ## Input and output -/

/-- What a text holds, which may not be blank. -/
def readInput {α : Type} (read : String → Option α) (text : String) : Except Failure α :=
  if Text.isBlank text then .error .emptyInput
  else match read text with
    | some a => .ok a
    | none => .error .malformedInput

/-- What a run prints. -/
inductive Printed where
  | nothing
  | line (text : String)
  | document (v : Json)

/-- What a run leaves behind. -/
structure Output where
  /-- zero on success, one on failure, two for arguments that make no sense -/
  status : Nat
  printed : Printed

def versionLine : String := "geoexplore 0.1.0"

/-- The printed answer of a task. -/
def Output.ofAnswer : Except Failure Json → Output
  | .ok data => ⟨0, .document (.ofMembers [("status", .text "ok"), ("data", data)])⟩
  | .error failure =>
    ⟨1, .document (.ofMembers [
      ("status", .text "error"),
      ("code", .text failure.code),
      ("message", .text failure.message)])⟩

variable {m : Type → Type} [Monad m]

/-- The configuration at a path. A reader of files gives a text or the reason why it has none. -/
def loadConfig (readFile : String → m (Except String String)) (path : String) :
    m (Except Failure Config) := do
  match ← readFile path with
  | .ok text => pure ((Config.ofText text).mapError .config)
  | .error reason => pure (.error (.config (.unreadable path reason)))

/-- Performs a task on an input with a configuration. -/
def perform {α : Type} (readFile : String → m (Except String String)) (a : Arguments)
    (input : Except Failure α)
    (task : Config → String → BackendKind → α → Except Failure Json) : m (Except Failure Json) := do
  match input with
  | .error failure => pure (.error failure)
  | .ok input =>
    match ← loadConfig readFile a.config with
    | .error failure => pure (.error failure)
    | .ok config => pure (task config a.collection (a.backend.getD config.backend) input)

/-- A run with the given arguments. -/
def run (readFile : String → m (Except String String)) (readStdin : m String)
    (arguments : List String) : m Output := do
  match Invocation.ofArguments arguments with
  | .misuse => pure ⟨2, .nothing⟩
  | .version => pure ⟨0, .line versionLine⟩
  | .run a =>
    let text ← readStdin
    match a.task with
    | .explain => .ofAnswer <$> perform readFile a (readInput Request.ofText? text) explain
    | .assemble => .ofAnswer <$> perform readFile a (readInput AssembleInput.ofText? text) assemble

end CommandLine

end GeoFacet
