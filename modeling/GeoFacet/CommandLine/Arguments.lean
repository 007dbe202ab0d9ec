import GeoFacet.Collection.Config

/-!
# Command-line arguments

The first argument that is no option names the task; the options of the task follow it. An option
takes the next argument as its value, or what stands behind `=`. No option may be given twice at one
level, and a value may not look like an option.
-/

namespace GeoFacet.CommandLine

/-- What the program can do. -/
inductive Task where
  /-- print the plan of a request -/
  | explain
  /-- print the response that a native result makes -/
  | assemble
  deriving DecidableEq, Repr

namespace Task

def name : Task → String
  | explain => "explain"
  | assemble => "assemble"

instance : Vocabulary Task where
  all := [explain, assemble]
  name := name

end Task

/-- An option with a value. -/
inductive OptionName where
  | config | collection | backend
  deriving DecidableEq, Repr

namespace OptionName

def name : OptionName → String
  | config => "config"
  | collection => "collection"
  | backend => "backend"

instance : Vocabulary OptionName where
  all := [config, collection, backend]
  name := name

end OptionName

/-- The options given so far. -/
structure Options where
  verbose : Bool
  values : List (OptionName × String)
  deriving DecidableEq, Repr

/-- The arguments of a task. -/
structure Arguments where
  task : Task
  /-- the path of the configuration -/
  config : String
  collection : String
  /-- in place of the backend of the configuration -/
  backend : Option BackendKind
  verbose : Bool
  deriving DecidableEq, Repr

/-- What the arguments ask for. -/
inductive Invocation where
  | run (arguments : Arguments)
  | version
  | misuse
  deriving DecidableEq, Repr

/-- How an argument reads. -/
inductive Word where
  /-- the end of the options -/
  | endOfOptions
  /-- a long option and what stands behind its `=` -/
  | long (name : String) (value : Option String)
  /-- short options -/
  | short (letters : List Char)
  | plain (text : String)
  deriving DecidableEq, Repr

/-- The reading of an argument. A lone dash is no option. -/
def Word.ofText (text : String) : Word :=
  match text.toList with
  | ['-', '-'] => .endOfOptions
  | '-' :: '-' :: rest =>
    match rest.dropWhile (· ≠ '=') with
    | _ :: value => .long (String.ofList (rest.takeWhile (· ≠ '='))) (some (String.ofList value))
    | [] => .long (String.ofList rest) none
  | '-' :: letter :: letters => .short (letter :: letters)
  | _ => .plain text

namespace Options

/-- No options. -/
def empty : Options := ⟨false, []⟩

/-- Notes the wish for more output, which may be said once. -/
def setVerbose? (o : Options) : Option Options :=
  if o.verbose then none else some { o with verbose := true }

/-- Notes a value, one for each option. A path may not be empty and a backend must be known. -/
def setValue? (o : Options) (name : OptionName) (value : String) : Option Options :=
  let sound := match name with
    | .config => value ≠ ""
    | .collection => true
    | .backend => (Vocabulary.ofName? value : Option BackendKind).isSome
  if sound && !o.values.any (·.1 = name) then
    some { o with values := o.values ++ [(name, value)] }
  else none

/-- The options of a task after those already noted. -/
def read? (o : Options) : List String → Option Options
  | [] => some o
  | text :: rest =>
    match Word.ofText text with
    | .endOfOptions => if rest.isEmpty then some o else none
    | .long "verbose" none => o.setVerbose?.bind (read? · rest)
    | .long name (some value) => do
      let o ← o.setValue? (← Vocabulary.ofName? name) value
      o.read? rest
    | .long name none =>
      match rest with
      | value :: rest =>
        match Word.ofText value with
        | .plain _ => do
          let o ← o.setValue? (← Vocabulary.ofName? name) value
          o.read? rest
        | _ => none
      | [] => none
    | .short ['v'] => o.setVerbose?.bind (read? · rest)
    | .short _ | .plain _ => none

end Options

/-- The path of the configuration where none is given. -/
def defaultConfigPath : String := "./geoexplore.json"

/-- The arguments of a task from its options. A collection must be named. -/
def Arguments.ofOptions? (task : Task) (verbose : Bool) (o : Options) : Option Arguments := do
  some {
    task := task
    config := (o.values.lookup .config).getD defaultConfigPath
    collection := ← o.values.lookup .collection
    backend := (o.values.lookup .backend).bind Vocabulary.ofName?
    verbose := verbose || o.verbose }

/-- What some short options in front of the task ask for, if they are known. The version is shown as
soon as it is asked for. -/
def readLetters (verbose : Bool) : List Char → Except Invocation Bool
  | [] => .ok verbose
  | 'V' :: _ => .error .version
  | 'v' :: rest => if verbose then .error .misuse else readLetters true rest
  | _ :: _ => .error .misuse

/-- What the arguments after some options ask for. -/
def Invocation.read (verbose : Bool) : List String → Invocation
  | [] => .misuse
  | text :: rest =>
    match Word.ofText text with
    | .plain name =>
      match Vocabulary.ofName? name with
      | some task =>
        match (Options.empty.read? rest).bind (Arguments.ofOptions? task verbose) with
        | some arguments => .run arguments
        | none => .misuse
      | none => .misuse
    | .long "version" none => .version
    | .long "verbose" none => if verbose then .misuse else read true rest
    | .short letters =>
      match readLetters verbose letters with
      | .ok verbose => read verbose rest
      | .error invocation => invocation
    | _ => .misuse

/-- What the arguments ask for. -/
def Invocation.ofArguments (arguments : List String) : Invocation := .read false arguments

end GeoFacet.CommandLine
