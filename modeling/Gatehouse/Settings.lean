import Gatehouse.Level
import Gatehouse.Settings.Environment
import Gatehouse.Text.Quoted
import Gatehouse.Toml.Document

/-!
# Settings

What an operator decides about a gateway. There is a standard for everything; a file
overrules it, and the environment overrules both. The level where no grant is held has to
be known when the gateway starts, not only when it is needed.

## Main definitions

* `Settings`: What is decided.
* `Settings.standard`: What holds unless something else is said.
* `Settings.load`: The settings that a file and an environment give.
* `Settings.Auth.shown`: What a log may show of the settings about users.

## Theorems

* `Settings.Auth.shown_password`: A log does not depend on the password.
* `Settings.level_of_load`: The level of loaded settings is known.
-/

namespace Gatehouse

/-- Where a gateway listens, and how many bytes a body may have. -/
structure Settings.Server where
  host : String
  number : Nat
  maxBody : UInt64
  deriving DecidableEq, Repr

/-- What is decided about users: the level where no grant is held, the first administrator,
and how senders show who they are. -/
structure Settings.Auth where
  level : String
  adminName : String
  adminPassword : String
  scheme : String
  deriving DecidableEq, Repr

/-- Where the tracking server is, and after how many seconds it is given up. -/
structure Settings.Remote where
  url : String
  patience : UInt64
  deriving DecidableEq, Repr

/-- What an operator decides about a gateway. -/
structure Settings where
  server : Settings.Server
  database : String
  auth : Settings.Auth
  remote : Settings.Remote
  deriving DecidableEq, Repr

/-- Why there are no settings: a malformed source, or a level that is not known. -/
inductive SettingsError where
  | malformed
  | level (cause : Error)
  deriving DecidableEq, Repr

/-- The wording of a reason. -/
def SettingsError.message : SettingsError → String
  | malformed => "Invalid configuration"
  | level cause => cause.message

namespace Settings

/-- What holds unless something else is said. -/
def standard : Settings where
  server := ⟨"0.0.0.0", 8080, 100 * 1024 * 1024⟩
  database := "sqlite://trackgate.db?mode=rwc"
  auth := ⟨"READ", "admin", "password1234", "basic"⟩
  remote := ⟨"http://127.0.0.1:5000", 60⟩

/-- Settings as a configuration. -/
def toSetting (settings : Settings) : Setting :=
  .table
    [("server", .table
      [("host", .text settings.server.host), ("port", .integer settings.server.number),
       ("max_body_bytes", .integer settings.server.maxBody.toNat)]),
     ("database", .table [("url", .text settings.database)]),
     ("auth", .table
      [("default_permission", .text settings.auth.level),
       ("admin_username", .text settings.auth.adminName),
       ("admin_password", .text settings.auth.adminPassword),
       ("authorization_function", .text settings.auth.scheme)]),
     ("upstream", .table
      [("url", .text settings.remote.url),
       ("timeout_secs", .integer settings.remote.patience.toNat)])]

/-- The number of a field that may be left out. -/
def naturalOr (standard : UInt64) : Option Setting → Option UInt64
  | none => some standard
  | some value => value.natural?

/-- Where to listen, as a section says. -/
def Server.ofSetting? (part : Setting) : Option Server := do
  let host ← (← part.member? "host" 0).text?
  let number ← (← part.member? "port" 1).natural?
  let maxBody ← naturalOr standard.server.maxBody (part.member? "max_body_bytes" 2)
  if number.toNat < UInt16.size then some ⟨host, number.toNat, maxBody⟩ else none

/-- What is decided about users, as a section says. -/
def Auth.ofSetting? (part : Setting) : Option Auth := do
  let level ← (← part.member? "default_permission" 0).text?
  let adminName ← (← part.member? "admin_username" 1).text?
  let adminPassword ← (← part.member? "admin_password" 2).text?
  let scheme ← (← part.member? "authorization_function" 3).text?
  some ⟨level, adminName, adminPassword, scheme⟩

/-- Where the tracking server is, as a section says. -/
def Remote.ofSetting? (part : Setting) : Option Remote := do
  let url ← (← part.member? "url" 0).text?
  let patience ← naturalOr standard.remote.patience (part.member? "timeout_secs" 1)
  some ⟨url, patience⟩

/-- The settings that a configuration says; every section has to be there. -/
def ofSetting? (root : Setting) : Option Settings := do
  let server ← Server.ofSetting? (← root.member? "server" 0)
  let database ← (← (← root.member? "database" 1).member? "url" 0).text?
  let auth ← Auth.ofSetting? (← root.member? "auth" 2)
  let remote ← Remote.ofSetting? (← root.member? "upstream" 3)
  some ⟨server, database, auth, remote⟩

/-- A configuration with the entries of a file, if there is one. The names of its sections
are places. -/
def addFile (file : Option String) (root : Setting) : Option Setting :=
  match file with
  | none => some root
  | some text => (Toml.ofText? text).map fun entries =>
      entries.foldl (fun root (name, value) => Setting.putAt value (Place.ofText name) root) root

/-- The level where no grant is held. -/
def level (settings : Settings) : Except Error Level := Level.ofName settings.auth.level

/-- The settings that a file, if there is one, and an environment give. -/
def load (file : Option String) (environment : Environment) :
    Except SettingsError Settings :=
  match (addFile file standard.toSetting).bind fun root =>
      ofSetting? (root.addEnvironment environment) with
  | none => .error .malformed
  | some settings =>
    match settings.level with
    | .error e => .error (.level e)
    | .ok _ => .ok settings

/-- The names of the variables that settings are looked for in. -/
def variableNames : List String :=
  standard.toSetting.entries.flatMap fun (part, value) => value.entries.map fun (field, _) =>
    (Environment.mark ++ part ++ "__" ++ field).toUpper

/-- The address where the gateway listens. -/
def address (settings : Settings) : String :=
  settings.server.host ++ ":" ++ toString settings.server.number

/-- What a log may show of the settings about users. -/
def Auth.shown (auth : Auth) : String :=
  let fields := [("default_permission", auth.level), ("admin_username", auth.adminName),
    ("admin_password", "<redacted>"), ("authorization_function", auth.scheme)]
  "Auth \x7b " ++ ", ".intercalate (fields.map fun (name, value) => name ++ ": " ++ Text.quote value)
    ++ " \x7d"

theorem Auth.shown_password (auth : Auth) (password : String) :
    { auth with adminPassword := password }.shown = auth.shown := rfl

theorem level_of_load {file : Option String} {environment : Environment} {settings : Settings}
    (h : load file environment = .ok settings) : ∃ level, settings.level = .ok level := by
  unfold load at h
  split at h
  · simp at h
  · split at h
    · simp at h
    · next level hl =>
      simp only [Except.ok.injEq] at h
      exact ⟨level, h ▸ hl⟩

end Settings

end Gatehouse
