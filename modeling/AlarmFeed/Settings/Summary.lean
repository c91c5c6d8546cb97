/-
**Settings in one line.**

A summary names each part of the settings with its value. A secret is masked: what is shown of it says
only whether it is empty.
-/

import AlarmFeed.Settings.Basic
import AlarmFeed.Value

namespace AlarmFeed

/-- A record by its title and its fields. -/
def summaryOf (title : Text) (fields : List (Text × Text)) : Text :=
  title ++ ("(" : Text)
    ++ Text.joinWith ", " (fields.map fun (name, value) => name ++ ("=" : Text) ++ value)
    ++ (")" : Text)

/-- A list by its items. -/
def listSummary (items : List Text) : Text :=
  ("[" : Text) ++ Text.joinWith ", " items ++ ("]" : Text)

/-- A secret behind its mask. -/
def Secret.summary (secret : Secret) : Text :=
  if secret.content = [] then "SecretStr('')" else "SecretStr('**********')"

/-- How the monitor is reached, in one line. -/
def MonitorSettings.summary (settings : MonitorSettings) : Text :=
  summaryOf "ZabbixConfig"
    [("url", settings.url.quoted), ("api_token", settings.token.summary),
      ("timeout_secs", NumberStyle.message.write settings.timeout),
      ("verify_tls", (Value.bool settings.verifyTls).literal)]

/-- Where tables are served, in one line. -/
def ServerSettings.summary (settings : ServerSettings) : Text :=
  summaryOf "ServerConfig"
    [("host", settings.host.quoted), ("port", Decimal.ofInt settings.portNumber),
      ("path", settings.path.quoted)]

/-- A token override in one line. -/
def TokenOverride.summary (rule : TokenOverride) : Text :=
  summaryOf "TokenOverride"
    [("bearer", rule.bearer.summary),
      ("allowed_addresses", listSummary (rule.allowedAddresses.map Text.quoted)),
      ("api_token", rule.token.summary)]

/-- Whose token is presented for whom, in one line. -/
def AuthSettings.summary (settings : AuthSettings) : Text :=
  summaryOf "AuthConfig"
    [("forward_bearer", (Value.bool settings.forwardBearer).literal),
      ("overrides", listSummary (settings.overrides.map TokenOverride.summary))]

/-- What is logged, in one line. -/
def LogSettings.summary (settings : LogSettings) : Text :=
  summaryOf "LoggingConfig"
    [("level", settings.level.quoted), ("format", settings.format.quoted)]

/-- All settings in one line. -/
def Settings.summary (settings : Settings) : Text :=
  summaryOf "Settings"
    [("zabbix", settings.monitor.summary), ("server", settings.server.summary),
      ("auth", settings.auth.summary), ("logging", settings.log.summary)]

end AlarmFeed
