/-
**Faults.**

A `Fault` is anything that can end an operation. Most come from the monitor, the service that knows
the open problems: `MonitorError` carries the id of the request that failed and the code that the
error table reports. The others are failures of delivery, documents that do not fit, and text that no
character set can carry. Every fault has a `name`, which the log shows. What it says is its `message`; a
mute fault has none, and asking for it ends in another fault.
-/

import AlarmFeed.Json.Reader
import AlarmFeed.Schema.Checked
import AlarmFeed.Text.Charset
import AlarmFeed.Value

namespace AlarmFeed

/-- What went wrong between the program and the monitor. -/
inductive MonitorFlaw
  | general
  /-- The monitor was not reached, or answered with a failure status. -/
  | connection
  /-- The answer is no response to a request. -/
  | response
  /-- The monitor answered with an error of its own. -/
  | refusal
  deriving DecidableEq

/-- The name of a flaw. -/
def MonitorFlaw.name : MonitorFlaw → Text
  | general => "ZabbixError"
  | connection => "ZabbixConnectionError"
  | response => "ZabbixParseError"
  | refusal => "ZabbixApiError"

/-- A failed request to the monitor. -/
structure MonitorError where
  flaw : MonitorFlaw
  message : Text
  /-- The id of the request that failed. -/
  requestId : Value
  /-- What the error table reports. -/
  code : Int := 1

/-- How the delivery of a request or of its answer can fail. -/
inductive DeliveryFlaw
  | connect
  | connectTimeout
  | readTimeout
  | read
  | write
  | poolTimeout
  | protocol
  | scheme
  | redirects
  | decoding
  | proxy
  deriving DecidableEq

/-- The name of a flaw. -/
def DeliveryFlaw.name : DeliveryFlaw → Text
  | connect => "ConnectError"
  | connectTimeout => "ConnectTimeout"
  | readTimeout => "ReadTimeout"
  | read => "ReadError"
  | write => "WriteError"
  | poolTimeout => "PoolTimeout"
  | protocol => "RemoteProtocolError"
  | scheme => "UnsupportedProtocol"
  | redirects => "TooManyRedirects"
  | decoding => "DecodingError"
  | proxy => "ProxyError"

/-- The kinds of fault that are not of this program's own making. -/
inductive GeneralFlaw
  | address
  | label
  | labelPoint
  | labelContext
  | labelDirection
  | stream
  | value
  | key
  | index
  | type
  | member
  | system
  | runtime
  | overflow
  | depth
  deriving DecidableEq

/-- The name of a flaw. -/
def GeneralFlaw.name : GeneralFlaw → Text
  | address => "InvalidURL"
  | label => "IDNAError"
  | labelPoint => "InvalidCodepoint"
  | labelContext => "InvalidCodepointContext"
  | labelDirection => "IDNABidiError"
  | stream => "StreamError"
  | value => "ValueError"
  | key => "KeyError"
  | index => "IndexError"
  | type => "TypeError"
  | member => "AttributeError"
  | system => "OSError"
  | runtime => "RuntimeError"
  | overflow => "OverflowError"
  | depth => "RecursionError"

/-- Anything that can end an operation. -/
inductive Fault
  | monitor (error : MonitorError)
  | delivery (flaw : DeliveryFlaw) (detail : Text)
  | general (flaw : GeneralFlaw) (detail : Text)
  /-- A document does not fit its record. -/
  | invalid (report : Schema.Report)
  /-- A JSON text is nested too deeply. -/
  | nesting (container : Json.Container)
  /-- A text cannot be carried by the character set it should leave in. -/
  | unencodable (run : Unencodable)
  /-- Bytes are no UTF-8. -/
  | undecodable (stop : Utf8.Malformed)
  /-- A text is no YAML document. -/
  | document
  /-- A fault of somebody else's making that cannot be put into words: asking for them raises another. -/
  | mute (name : Text) (raised : Fault)

/-- Something refers to itself or is nested beyond all bounds. -/
def Fault.tooDeep : Fault :=
  .general .depth "maximum recursion depth exceeded"

/-- The report on bytes that are no UTF-8. -/
def Utf8.Malformed.message (stop : Malformed) : Text :=
  let position := Decimal.digits stop.first
  let place :=
    if stop.count = 1 then
      (" 0x" : Text) ++ Text.hex 2 stop.byte.toNat ++ (" in position " : Text) ++ position
    else
      ("s in position " : Text) ++ position ++ ("-" : Text)
        ++ Decimal.digits (stop.first + stop.count - 1)
  ("'utf-8' codec can't decode byte" : Text) ++ place ++ (": " : Text) ++ stop.flaw.message

/-- The report on a text that is nested too deeply. -/
def Json.Container.message : Json.Container → Text
  | .list => "maximum recursion depth exceeded while decoding a JSON array from a unicode string"
  | .object => "maximum recursion depth exceeded while decoding a JSON object from a unicode string"

namespace Fault

/-- The name of a fault's kind. -/
def name : Fault → Text
  | monitor error => error.flaw.name
  | delivery flaw _ => flaw.name
  | general flaw _ => flaw.name
  | invalid _ => "ValidationError"
  | nesting _ => "RecursionError"
  | unencodable _ => "UnicodeEncodeError"
  | undecodable _ => "UnicodeDecodeError"
  | document => "YAMLError"
  | mute name _ => name

/-- The words of a fault; a mute one has none. A missing key is shown in quotes. -/
def words : Fault → Text
  | monitor error => error.message
  | delivery _ detail => detail
  | general .key detail => detail.quoted
  | general _ detail => detail
  | invalid report => report.text
  | nesting container => container.message
  | unencodable run => run.message
  | undecodable stop => stop.message
  | document => []
  | mute _ _ => []

/-- What a fault says, or the fault that asking for it ends in. -/
def message : Fault → Except Fault Text
  | mute _ raised => .error raised
  | fault => .ok fault.words

/-- A fault that says something says its words. -/
theorem words_eq_of_message {fault : Fault} {message : Text} (spoken : fault.message = .ok message) :
    fault.words = message := by
  cases fault <;> cases spoken <;> rfl

/-- The fault that printing a value ends in. -/
def ofObstacle : Value.Obstacle → Fault
  | .longInteger =>
    .general .value <|
      ("Exceeds the limit (4300 digits) for integer string conversion; " : Text)
        ++ ("use sys.set_int_max_str_digits() to increase the limit" : Text)
  | .nesting => .general .depth "maximum recursion depth exceeded while getting the repr of an object"

end Fault

end AlarmFeed
