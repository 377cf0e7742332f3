import SearchGateway.Adapter
import SearchGateway.CommandLine.Options

/-!
# Runs of the command line

What a run prints and the status it exits with. Unless it only prints a URL or is told not to, a
run first checks that the server is there. An error is reported with its message, or under the step
that failed with the message below it.
-/

namespace SearchGateway.CommandLine

/-- What a run leaves behind. -/
structure Result where
  status : Nat
  output : Text
  errors : Text
  deriving DecidableEq, Repr

namespace Options

/-- The metadata that the options give. -/
def metadata (options : Options) : Entries Text :=
  let entry (key : String) (value : Option Text) : List (Text × Text) :=
    value.toList.map fun value => (key.toList, value)
  entry "order" options.order ++ entry "pageSize" options.pageSize ++
    entry "offset" options.offset

/-- The request that the options describe. Without any parameter option there are no parameters
at all. -/
def request (options : Options) : BridgeRequest where
  core := options.core
  query := options.query
  parameters := if options.parameters.isEmpty then none else some (.ofList options.parameters)
  metadata := options.metadata
  fields := options.fields

/-- The connection settings that the options describe. -/
def settings (options : Options) : Except Error Settings := do
  let settings ← Settings.ofUrl options.url
  match options.username, options.password with
  | some username, some password => return settings.withCredentials username password
  | _, _ => return settings

end Options

/-- An error, with the step that failed where it is told. -/
structure Report where
  step : Option Text
  error : Error

namespace Report

/-- A text with four spaces at the head of each of its lines. -/
def indent (s : Text) : Text :=
  Text.join ['\n'] ((s.splitAt '\n').map fun line => "    ".toList ++ line)

/-- What a report says. -/
def text (report : Report) : Text :=
  match report.step with
  | none => "Error: ".toList ++ report.error.message
  | some step =>
    "Error: ".toList ++ step ++ "\n\nCaused by:\n".toList ++ indent report.error.message

end Report

/-- The step that a failed check reports. -/
def checkStep : Text := "Solr connection check failed".toList

/-- The step that a failed URL reports. -/
def urlStep : Text := "Failed to build the select URL".toList

/-- Checks the server where the options ask for it. -/
def check (network : Get → Reply) (options : Options) (adapter : Adapter) :
    Except Report Unit :=
  if options.operation = .url ∨ options.skipCheck then .ok ()
  else ((Exchange.run network adapter.checkStatus).answer).mapError (⟨checkStep, ·⟩)

/-- The answer of an operation as indented JSON. -/
def answerText {α : Type} (network : Get → Reply) (operation : Except Error (Exchange α))
    (toJson : α → Json) : Except Report Text :=
  match (Exchange.run network operation).answer with
  | .ok answer => .ok ((toJson answer).indentedText 0)
  | .error e => .error ⟨none, e⟩

/-- What the operation prints. -/
def outputText (network : Get → Reply) (options : Options) (adapter : Adapter) :
    Except Report Text :=
  let request := options.request
  match options.operation with
  | .url =>
    ((adapter.selectUrl .search request).map Url.text).mapError (⟨urlStep, ·⟩)
  | .count =>
    answerText network (adapter.count request) fun n =>
      .object [("count".toList, .number (.integer n))]
  | .retrieve =>
    answerText network (adapter.retrieve request) fun record =>
      .object [("record".toList, (record.map RecordList.recordJson).getD .null)]
  | .search => answerText network (adapter.search request) RecordList.toJson

/-- The text that a run prints, or its report. -/
def runOptions (network : Get → Reply) (options : Options) : Except Report Text := do
  let settings ← options.settings.mapError (⟨none, ·⟩)
  let adapter : Adapter := ⟨settings⟩
  check network options adapter
  outputText network options adapter

/-- How the command line is used. -/
def usage : Text :=
  Text.join ['\n'] (List.map String.toList [
    "Usage: [OPTIONS] --structure <STRUCTURE> <url|count|retrieve|search>",
    "",
    "Options:",
    "      --url <URL>              Base URL",
    "  -s, --structure <STRUCTURE>  Core or collection",
    "  -q, --query <QUERY>          Bridge query, a lucene template or a JSON envelope",
    "  -p, --param <NAME=VALUE>     Query parameter, any number of times",
    "  -f, --field <FIELD>          Field to return, any number of times",
    "      --order <ORDER>          Sort order",
    "      --page-size <N>          Rows per page",
    "      --offset <N>             Rows to skip",
    "      --username <NAME>        User name",
    "      --password <PASSWORD>    Password",
    "      --skip-check             Skip the status check before querying",
    "  -d, --debug                  Log more",
    "  -h, --help                   Print this help"])

/-- Runs the command line with the given arguments on a network. -/
def run (network : Get → Reply) (args : List Text) : Result :=
  match Options.ofArguments args with
  | .error .help => ⟨0, usage, []⟩
  | .error .misuse => ⟨2, [], "error: ".toList ++ usage⟩
  | .ok options =>
    match runOptions network options with
    | .ok text => ⟨0, text, []⟩
    | .error report => ⟨1, [], report.text⟩

/-- A network on which no server is reached. -/
def noNetwork (_ : Get) : Reply :=
  .failure "Unable to make a connection to the Solr server".toList

end SearchGateway.CommandLine
