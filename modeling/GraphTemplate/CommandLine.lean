import GraphTemplate.Build
import GraphTemplate.CommandLine.Arguments
import GraphTemplate.CommandLine.Sample
import GraphTemplate.GraphData
import GraphTemplate.Verdict
import GraphTemplate.Yaml.TypedData

/-!
The command line as a function from arguments and files to what is written and printed. There are
three commands: `check` reports the errors of a template, `validate` judges graph data, and
`init-template` writes a sample.
-/

namespace GraphTemplate.CommandLine

inductive FileEntry where
  | missing
  | directory
  | file (text : String)
  deriving DecidableEq

def FileEntry.isFile : FileEntry → Bool
  | .file _ => true
  | _ => false

structure Environment where
  entry : String → FileEntry
  input : String

inductive Request where
  | version
  | check (verbose : Bool) (template : String)
  | validate (verbose : Bool) (template : String) (input : Option String)
  | initTemplate (output : Option String)
  deriving DecidableEq

namespace Request

def globalSwitches : List Switch := [⟨"version", none, false⟩, ⟨"verbose", some 'v', false⟩]

def validateSwitches : List Switch := [⟨"template", some 't', true⟩, ⟨"input", some 'i', true⟩]

def initSwitches : List Switch := [⟨"output", some 'o', true⟩]

def ofCommand? (verbose : Bool) (command : String) (args : List String) : Option Request := do
  match command with
  | "check" => do
    let a ← Arguments.read? [] false args
    let [template] := a.words | none
    return check verbose template
  | "validate" => do
    let a ← Arguments.read? validateSwitches false args
    guard a.words.isEmpty
    return validate verbose (← a.value? "template") (a.value? "input")
  | "init-template" => do
    let a ← Arguments.read? initSwitches false args
    guard a.words.isEmpty
    return initTemplate (a.value? "output")
  | _ => none

def ofArgs? (args : List String) : Option Request := do
  let a ← Arguments.read? globalSwitches true args
  if a.has "version" then return version
  let command :: rest := a.words | none
  ofCommand? (a.has "verbose") command rest

def readsInput : Request → Bool
  | validate _ _ none => true
  | _ => false

end Request

inductive Crash where
  | fault (f : Fault)
  | missingDirectory
  | notDirectory
  | isDirectory
  deriving DecidableEq

structure Outcome where
  exitCode : Nat
  output : String
  errors : String
  written : List (String × String)
  crash : Option Crash
  deriving DecidableEq

namespace Outcome

def success (output errors : String) : Outcome := ⟨0, output, errors, [], none⟩
def failure (errors : String) : Outcome := ⟨1, "", errors, [], none⟩
def crashed (crash : Crash) (errors : String) : Outcome := ⟨1, "", errors, [], some crash⟩

/-- A command line that cannot be understood, or a path that does not lead to a file. -/
def misused : Outcome := ⟨2, "", "", [], none⟩

end Outcome

def withLineFeeds : List Char → List Char
  | '\r' :: '\n' :: cs => '\n' :: withLineFeeds cs
  | '\r' :: cs => '\n' :: withLineFeeds cs
  | c :: cs => c :: withLineFeeds cs
  | [] => []

def textSource (s : String) : Yaml.Source := .text (String.ofList (withLineFeeds s.toList))

structure Path where
  isAbsolute : Bool
  steps : List String
  deriving DecidableEq

namespace Path

def read (s : String) : Path where
  isAbsolute := s.toList.head? == some '/'
  steps := (s.splitOn "/").filter fun step => !(step.isEmpty || step == ".")

def text (p : Path) : String :=
  let joined := "/".intercalate p.steps
  if p.isAbsolute then "/" ++ joined else if p.steps.isEmpty then "." else joined

def ancestors (p : Path) : List Path :=
  (List.range p.steps.length).map fun n => { p with steps := p.steps.take n }

end Path

/-- The lines of a log that are shown: warnings and errors, or all if asked for. -/
def logText (verbose : Bool) (log : List LogLine) : String :=
  let shown := log.filter fun l => verbose || l.level != .debug
  String.join (shown.map fun l => l.level.name ++ " stg: " ++ l.message ++ "\n")

def loadTemplate (verbose : Bool) (text : String) : Except Outcome Template × String :=
  let built := Build.ofSource (.text text)
  let log := logText verbose built.log
  (match built.result with
    | .ok t => .ok t
    | .error f =>
      match f, f.lines? with
      | .fault f, _ => .error (.crashed (.fault f) log)
      | _, lines =>
        .error (.failure (log ++ "Template is invalid:\n" ++
          "\n".intercalate (lines.getD []) ++ "\n")), log)

def runCheck (verbose : Bool) (template : String) : Outcome :=
  match loadTemplate verbose template with
  | (.ok _, log) => .success "Template is valid\n" log
  | (.error outcome, _) => outcome

def judgeData (t : Template) (data : GraphData) (log : String) : Outcome :=
  match data.graph with
  | .error f => .crashed (.fault f) log
  | .ok g =>
    match (t.judgeGraph data.contents g).1 with
    | .error f => .crashed (.fault f) log
    | .ok (.invalid v) => .failure (log ++ "Graph is invalid: " ++ v.message ++ "\n")
    | .ok _ => .success ("Graph is valid: " ++ toString g.size ++ " node(s)\n") log

def loadingError (log message : String) : Outcome :=
  .failure (log ++ "Error loading graph data: " ++ message ++ "\n")

def runValidate (verbose : Bool) (template input : String) : Outcome :=
  match loadTemplate verbose template with
  | (.error outcome, _) => outcome
  | (.ok t, log) =>
    match Yaml.loadTyped (textSource input) with
    | .error (.fault (.badValue reason)) => loadingError log reason
    | .error (.fault f) => .crashed (.fault f) log
    | .error _ => .failure (log ++ "Error parsing graph data:\n")
    | .ok v =>
      match GraphData.ofValue v with
      | .ok data => judgeData t data log
      | .error e =>
        match e, e.message? with
        | .fault f, none => .crashed (.fault f) log
        | _, message => loadingError log (message.getD "")

def runInit (env : Environment) (output : Option String) : Outcome :=
  match output with
  | none => .success (sampleText ++ "\n") ""
  | some path =>
    let p := Path.read path
    if path.isEmpty then .crashed .isDirectory ""
    else
      let way := p.ancestors.map fun q => env.entry q.text
      match env.entry p.text with
      | .directory => .misused
      | _ =>
        if way.any FileEntry.isFile then .crashed .notDirectory ""
        else if way.contains .missing then .crashed .missingDirectory ""
        else
          { Outcome.success ("Template written to " ++ p.text ++ "\n") "" with
            written := [(p.text, sampleText)] }

def fileText? (env : Environment) (path : String) : Option String :=
  match env.entry path with
  | .file text => some text
  | _ => none

def versionText : String := "stg, version 0.1.0\n"

def run (env : Environment) : Request → Outcome
  | .version => .success versionText ""
  | .check verbose template =>
    match fileText? env template with
    | some text => runCheck verbose text
    | none => .misused
  | .validate verbose template input =>
    match fileText? env template, input.map (fileText? env) with
    | some text, none => runValidate verbose text env.input
    | some text, some (some data) => runValidate verbose text data
    | _, _ => .misused
  | .initTemplate output => runInit env output

/-- The paths that the outcome of a request depends on. -/
def Request.paths : Request → List String
  | .version => []
  | .check _ template => [template]
  | .validate _ template input => template :: input.toList
  | .initTemplate output =>
    output.toList.flatMap fun s => (Path.read s).text :: (Path.read s).ancestors.map Path.text

def runArgs (env : Environment) (args : List String) : Outcome :=
  match Request.ofArgs? args with
  | some request => run env request
  | none => .misused

end GraphTemplate.CommandLine
