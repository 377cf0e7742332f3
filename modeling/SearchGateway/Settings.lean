import SearchGateway.Error
import SearchGateway.Json.Layout

/-!
# Connection settings

Where the search server is, and the user name and password to show it. Settings that are made from
a text hold a base URL without white space around it and, unless it ended with several, without a
slash at the end. Credentials are shown only when both their parts are set.
-/

namespace SearchGateway

/-- A user name and a password. -/
structure Credentials where
  username : Text
  password : Text
  deriving DecidableEq, Repr

/-- What a description shows in the place of a password. -/
def redacted : Text :=
  "<redacted>".toList

/-- A description that does not show the password. -/
def Credentials.description (credentials : Credentials) : Text :=
  "Credentials \x7b username: ".toList ++ credentials.username.quoted ++
  ", password: ".toList ++ redacted.quoted ++ " \x7d".toList

/-- The connection settings. -/
structure Settings where
  url : Text
  username : Option Text
  password : Option Text
  deriving DecidableEq, Repr

namespace Settings

/-- A text without one slash at its end. -/
def dropSlash (t : Text) : Text :=
  if t.getLast? = some '/' then t.dropLast else t

/-- The settings for a base URL, of which one slash at the end is dropped. -/
def ofUrl (url : Text) : Except Error Settings :=
  let trimmed := url.trim
  if trimmed.isEmpty then .error .missingUrl
  else .ok ⟨dropSlash trimmed, none, none⟩

/-- The same settings with a user name and a password. -/
def withCredentials (settings : Settings) (username password : Text) : Settings :=
  { settings with username := some username, password := some password }

/-- The settings that adapter properties give. -/
def ofProperties (properties : Entries Text) : Except Error Settings := do
  let settings ← ofUrl ((properties.get? "Solr URL".toList).getD [])
  return { settings with
    username := properties.get? "Username".toList
    password := properties.get? "Password".toList }

/-- The credentials to show, if both their parts are set. -/
def credentials (settings : Settings) : Option Credentials :=
  match settings.username, settings.password with
  | some username, some password => some ⟨username, password⟩
  | _, _ => none

/-- How a description shows a text that may be absent. -/
def describeOptional : Option Text → Text
  | none => "None".toList
  | some s => "Some(".toList ++ s.quoted ++ ")".toList

/-- A description that does not show the password. -/
def description (settings : Settings) : Text :=
  "SolrConfig \x7b url: ".toList ++ settings.url.quoted ++
  ", username: ".toList ++ describeOptional settings.username ++
  ", password: ".toList ++ describeOptional (settings.password.map fun _ => redacted) ++
  " \x7d".toList

/-- How the settings stand in JSON. -/
def layout : Json.Layout Settings where
  name := "SolrConfig".toList
  initial := ⟨[], none, none⟩
  fields := [
    ⟨"url".toList, true, fun _ settings s => do
      let (url, s) ← Json.readStringValue s
      return ({ settings with url }, s)⟩,
    ⟨"username".toList, false, fun _ settings s => do
      let (username, s) ← Json.readOptional Json.readStringValue s
      return ({ settings with username }, s)⟩,
    ⟨"password".toList, false, fun _ settings s => do
      let (password, s) ← Json.readOptional Json.readStringValue s
      return ({ settings with password }, s)⟩]

/-- The JSON value of a text that may be absent. -/
def optionalJson : Option Text → Json
  | none => .null
  | some s => .string s

/-- The JSON value of the settings. -/
def toJson (settings : Settings) : Json :=
  .object [
    ("url".toList, .string settings.url),
    ("username".toList, optionalJson settings.username),
    ("password".toList, optionalJson settings.password)]

end Settings

end SearchGateway
