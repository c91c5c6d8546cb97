import AlarmFeed.Command.Serve
import AlarmFeed.Main
import AlarmFeed.Proofs.Monitor.Frame
import AlarmFeed.Proofs.Feed.Protocol
import AlarmFeed.Proofs.Feed.Readable
import AlarmFeed.Proofs.Feed.Reordering
import AlarmFeed.Settings.Workspace
import AlarmFeed.Settings.Summary
import AlarmFeed.Table
import AlarmFeed.Proofs.Text.Utf8
import AlarmFeed.Proofs.Credential
import AlarmFeed.Proofs.Feed.Frame
import AlarmFeed.Proofs.Service.Answer
import AlarmFeed.Proofs.Service.Isolation
import AlarmFeed.Proofs.Service.Token
import AlarmFeed.Proofs.Feed.Carried
import AlarmFeed.Proofs.Service.Table
import AlarmFeed.Proofs.Schema.Alike
import AlarmFeed.Proofs.Monitor.Masked
import AlarmFeed.Proofs.Feed.Redaction
import AlarmFeed.Proofs.Feed.Escalation
import AlarmFeed.Proofs.Feed.Disabling
import AlarmFeed.Proofs.Feed.Restated
import AlarmFeed.Proofs.Command.Agreement
import AlarmFeed.Proofs.Service.Logged
import AlarmFeed.Proofs.Table.Alarm
import AlarmFeed.Proofs.Feed.Unambiguous
import AlarmFeed.Proofs.Exchange.Lockstep
import AlarmFeed.Proofs.Feed.Secrecy
import AlarmFeed.Proofs.Settings.LatestLoad
import AlarmFeed.Proofs.Row.Canonical
import AlarmFeed.Proofs.Row.Columns
import AlarmFeed.Proofs.Settings.Summary
import AlarmFeed.Proofs.Monitor.Classified
import AlarmFeed.Proofs.Monitor.Session
import AlarmFeed.Proofs.Table.Reading
import AlarmFeed.Proofs.Number.Numeral
import AlarmFeed.Proofs.Table.Forged
import AlarmFeed.Proofs.Table.RoundTrip
import AlarmFeed.Proofs.Monitor.Identified
import AlarmFeed.Proofs.Feed.OneLine
