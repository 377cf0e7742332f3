import SearchGateway.Text.Basic

/-!
# Command line options

The arguments of the command line: one operation, and options with a long and for some also a short
name. The value of an option follows in the same argument, behind an equals sign or, for a short
name, directly; or it is the next argument, which then does not begin with a hyphen. Short flags
may share one argument. Behind two hyphens everything is an operation. Arguments are taken one by
one, so the first fault or plea for help decides.
-/

namespace SearchGateway.CommandLine

/-- What to do. -/
inductive Operation where
  /-- Print the select URL of a search. -/
  | url
  /-- Count the matching documents. -/
  | count
  /-- Print the single matching record. -/
  | retrieve
  /-- Print a page of matching records. -/
  | search
  deriving DecidableEq, Repr

/-- The operation with a given name. -/
def Operation.ofName? (name : Text) : Option Operation :=
  if name = "url".toList then some .url
  else if name = "count".toList then some .count
  else if name = "retrieve".toList then some .retrieve
  else if name = "search".toList then some .search
  else none

/-- An option that takes a value. -/
inductive Setting where
  | url
  | core
  | query
  | parameter
  | field
  | order
  | pageSize
  | offset
  | username
  | password
  deriving DecidableEq, Repr

/-- An option. -/
inductive Switch where
  | setting (setting : Setting)
  | skipCheck
  | debug
  | help
  deriving DecidableEq, Repr

/-- The long names of the options. -/
def longNames : List (Text × Switch) :=
  [("url".toList, .setting .url), ("structure".toList, .setting .core),
   ("query".toList, .setting .query), ("param".toList, .setting .parameter),
   ("field".toList, .setting .field), ("order".toList, .setting .order),
   ("page-size".toList, .setting .pageSize), ("offset".toList, .setting .offset),
   ("username".toList, .setting .username), ("password".toList, .setting .password),
   ("skip-check".toList, .skipCheck), ("debug".toList, .debug), ("help".toList, .help)]

/-- The short names of the options. -/
def shortNames : List (Char × Switch) :=
  [('s', .setting .core), ('q', .setting .query), ('p', .setting .parameter),
   ('f', .setting .field), ('d', .debug), ('h', .help)]

/-- Why the arguments are not run. -/
inductive Stop where
  /-- They ask for help. -/
  | help
  /-- They do not make sense. -/
  | misuse
  deriving DecidableEq, Repr

/-- What the arguments so far have set. -/
structure Draft where
  operation : Option Operation := none
  url : Option Text := none
  core : Option Text := none
  query : Option Text := none
  parameters : List (Text × Text) := []
  fields : List Text := []
  order : Option Text := none
  pageSize : Option Text := none
  offset : Option Text := none
  username : Option Text := none
  password : Option Text := none
  skipCheck : Bool := false
  debug : Bool := false

namespace Draft

/-- A value that may be set only once. -/
def once (present : Option Text) (value : Text) : Except Stop (Option Text) :=
  if present.isSome then .error .misuse else .ok (some value)

/-- Sets the value of an option. Parameters and fields add up; the others are set only once. -/
def set (draft : Draft) (setting : Setting) (value : Text) : Except Stop Draft :=
  match setting with
  | .url => (once draft.url value).map ({ draft with url := · })
  | .core => (once draft.core value).map ({ draft with core := · })
  | .query => (once draft.query value).map ({ draft with query := · })
  | .order => (once draft.order value).map ({ draft with order := · })
  | .pageSize => (once draft.pageSize value).map ({ draft with pageSize := · })
  | .offset => (once draft.offset value).map ({ draft with offset := · })
  | .username => (once draft.username value).map ({ draft with username := · })
  | .password => (once draft.password value).map ({ draft with password := · })
  | .field => .ok { draft with fields := draft.fields ++ [value] }
  | .parameter =>
    match Text.cut? '=' value with
    | none => .error .misuse
    | some parameter => .ok { draft with parameters := draft.parameters ++ [parameter] }

/-- Sets a flag, which may be set only once. -/
def setFlag (draft : Draft) : Switch → Except Stop Draft
  | .setting _ => .error .misuse
  | .help => .error .help
  | .skipCheck => if draft.skipCheck then .error .misuse else .ok { draft with skipCheck := true }
  | .debug => if draft.debug then .error .misuse else .ok { draft with debug := true }

/-- Takes an argument that is no option: the one operation. -/
def setOperation (draft : Draft) (arg : Text) : Except Stop Draft :=
  match draft.operation, Operation.ofName? arg with
  | none, some operation => .ok { draft with operation := some operation }
  | _, _ => .error .misuse

/-- Takes an argument of short names behind its hyphen. The answer holds the option whose value is
still to come, if there is one. -/
def takeShort (draft : Draft) : Text → Except Stop (Draft × Option Setting)
  | [] => .ok (draft, none)
  | c :: r =>
    match shortNames.lookup c with
    | none => .error .misuse
    | some (.setting setting) =>
      match r with
      | [] => .ok (draft, some setting)
      | '=' :: value => (draft.set setting value).map (·, none)
      | value => (draft.set setting value).map (·, none)
    | some flag =>
      match draft.setFlag flag with
      | .error stop => .error stop
      | .ok draft => draft.takeShort r

/-- Takes an argument of a long name behind its hyphens. The answer holds the option whose value is
still to come, if it is. -/
def takeLong (draft : Draft) (arg : Text) : Except Stop (Draft × Option Setting) :=
  let (name, value) : Text × Option Text := match Text.cut? '=' arg with
    | none => (arg, none)
    | some (name, value) => (name, some value)
  match longNames.lookup name, value with
  | some (.setting setting), none => .ok (draft, some setting)
  | some (.setting setting), some value => (draft.set setting value).map (·, none)
  | some flag, none => (draft.setFlag flag).map (·, none)
  | _, _ => .error .misuse

/-- Takes the arguments in turn. An option may be waiting for its value; behind two hyphens no
argument is an option. -/
def take (draft : Draft) (waiting : Option Setting) (closed : Bool) :
    List Text → Except Stop Draft
  | [] => if waiting.isSome then .error .misuse else .ok draft
  | arg :: rest =>
    match waiting with
    | some setting =>
      match arg with
      | '-' :: _ :: _ => .error .misuse
      | value => do
        let draft ← draft.set setting value
        draft.take none false rest
    | none =>
      if closed then do
        let draft ← draft.setOperation arg
        draft.take none true rest
      else
        match arg with
        | ['-', '-'] => draft.take none true rest
        | '-' :: '-' :: name => do
          let (draft, waiting) ← draft.takeLong name
          draft.take waiting false rest
        | '-' :: c :: names => do
          let (draft, waiting) ← draft.takeShort (c :: names)
          draft.take waiting false rest
        | name => do
          let draft ← draft.setOperation name
          draft.take none false rest

end Draft

/-- The options of a run. -/
structure Options where
  operation : Operation
  url : Text
  core : Text
  query : Text
  /-- The parameters in the order given; of two with one name the last counts. -/
  parameters : List (Text × Text)
  fields : List Text
  order : Option Text
  pageSize : Option Text
  offset : Option Text
  username : Option Text
  password : Option Text
  skipCheck : Bool
  debug : Bool

namespace Options

/-- The base URL where none is given. -/
def defaultUrl : Text := "http://localhost:8983/solr".toList

/-- The options of a finished draft, which needs an operation and a core. -/
def ofDraft (draft : Draft) : Except Stop Options :=
  match draft.operation, draft.core with
  | some operation, some core => .ok {
      operation, core
      url := draft.url.getD defaultUrl
      query := draft.query.getD []
      parameters := draft.parameters
      fields := draft.fields
      order := draft.order
      pageSize := draft.pageSize
      offset := draft.offset
      username := draft.username
      password := draft.password
      skipCheck := draft.skipCheck
      debug := draft.debug }
  | _, _ => .error .misuse

/-- Reads the arguments of a run. -/
def ofArguments (args : List Text) : Except Stop Options := do
  let draft ← Draft.take {} none false args
  ofDraft draft

end Options

end SearchGateway.CommandLine
