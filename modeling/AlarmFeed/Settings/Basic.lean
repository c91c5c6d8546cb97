/-
**Settings.**

Where the monitor is and how it is reached, where tables are served, whose token is presented for
whom, and what is logged. Everything has a default except the parts of a token override. `Settings.read`
accepts settings from a document.
-/

import AlarmFeed.Schema.Reader

namespace AlarmFeed

/-- A text that is not to be shown. -/
structure Secret where
  content : Text
  deriving DecidableEq

/-- Reads a secret; whatever is no text has the one flaw of being none. -/
def Secret.read (value : Value) : Schema.Checked Secret :=
  match Schema.text value with
  | .ok content => .ok ⟨content⟩
  | .bad _ => .flawed .notText value

/-- How the monitor is reached. -/
structure MonitorSettings where
  url : Text := "http://localhost/zabbix/api_jsonrpc.php"
  /-- The token that is presented if the caller brings none. -/
  token : Secret := ⟨[]⟩
  timeout : Binary64 := .ofInt 30
  verifyTls : Bool := true
  deriving DecidableEq

/-- Reads how the monitor is reached. -/
def MonitorSettings.read : Schema.Reader MonitorSettings :=
  Schema.record "ZabbixConfig" fun members =>
    let default : MonitorSettings := {}
    MonitorSettings.mk
      <$> Schema.optional "url" Schema.text default.url members
      <*> Schema.optional "api_token" Secret.read default.token members
      <*> Schema.optional "timeout_secs" Schema.number default.timeout members
      <*> Schema.optional "verify_tls" Schema.truth default.verifyTls members

/-- Where tables are served. -/
structure ServerSettings where
  host : Text := "0.0.0.0"
  portNumber : Int := 8080
  path : Text := "/api_csv.php"
  deriving DecidableEq

/-- Reads where tables are served. -/
def ServerSettings.read : Schema.Reader ServerSettings :=
  Schema.record "ServerConfig" fun members =>
    let default : ServerSettings := {}
    ServerSettings.mk
      <$> Schema.optional "host" Schema.text default.host members
      <*> Schema.optional "port" Schema.integer default.portNumber members
      <*> Schema.optional "path" Schema.text default.path members

/-- A token that stands in for what a caller presents, if the caller is at a listed address. -/
structure TokenOverride where
  bearer : Secret
  allowedAddresses : List Text := []
  token : Secret
  deriving DecidableEq

/-- Reads a token override. -/
def TokenOverride.read : Schema.Reader TokenOverride :=
  Schema.record "TokenOverride" fun members =>
    TokenOverride.mk
      <$> Schema.required "bearer" Secret.read members
      <*> Schema.optional "allowed_addresses" (Schema.list Schema.text) [] members
      <*> Schema.required "api_token" Secret.read members

/-- Whose token is presented for whom. -/
structure AuthSettings where
  /-- Whether a caller's own token is passed on. -/
  forwardBearer : Bool := true
  overrides : List TokenOverride := []
  deriving DecidableEq

/-- Reads whose token is presented for whom. -/
def AuthSettings.read : Schema.Reader AuthSettings :=
  Schema.record "AuthConfig" fun members =>
    AuthSettings.mk
      <$> Schema.optional "forward_bearer" Schema.truth true members
      <*> Schema.optional "overrides" (Schema.list TokenOverride.read) [] members

/-- What is logged, and how. -/
structure LogSettings where
  level : Text := "INFO"
  format : Text := "json"
  deriving DecidableEq

/-- Reads what is logged. -/
def LogSettings.read : Schema.Reader LogSettings :=
  Schema.record "LoggingConfig" fun members =>
    let default : LogSettings := {}
    LogSettings.mk
      <$> Schema.optional "level" Schema.text default.level members
      <*> Schema.optional "format" Schema.text default.format members

/-- All settings. -/
structure Settings where
  monitor : MonitorSettings := {}
  server : ServerSettings := {}
  auth : AuthSettings := {}
  log : LogSettings := {}
  deriving DecidableEq

/-- Reads all settings. -/
def Settings.read : Schema.Reader Settings :=
  Schema.record "Settings" fun members =>
    Settings.mk
      <$> Schema.optional "zabbix" MonitorSettings.read {} members
      <*> Schema.optional "server" ServerSettings.read {} members
      <*> Schema.optional "auth" AuthSettings.read {} members
      <*> Schema.optional "logging" LogSettings.read {} members

end AlarmFeed
