/-
**Whose token is presented.**

A caller brings a token in an authorization header. If a rule lists the caller's address and has the
caller's token, the rule's token is presented instead; otherwise the caller's own, if that is allowed.
If none is presented here, the client presents the configured one.
-/

import AlarmFeed.Fault
import AlarmFeed.Settings.Basic
import AlarmFeed.Text.Basic

namespace AlarmFeed.Credential

/-- The token in an authorization header: what follows the scheme, without spaces around it. -/
def ofHeader (header : Text) : Option Text :=
  match Text.after? "Bearer " header with
  | none => none
  | some rest =>
    match Text.trim CodePoint.isSpace rest with
    | [] => none
    | token => some token

/-- The token in the first authorization header; names of headers are the same in either case. -/
def ofHeaders (headers : List (Text × Text)) : Option Text :=
  match headers.find? fun (name, _) => name.lower == "authorization" with
  | some (_, value) => ofHeader value
  | none => none

/-- Whether two tokens are the same, compared by their bytes; each must have some. -/
def sameToken (a b : Text) : Except Fault Bool :=
  match Charset.utf8.unencodable? a, Charset.utf8.unencodable? b with
  | some run, _ => .error (.unencodable run)
  | none, some run => .error (.unencodable run)
  | none, none => .ok (Utf8.encode a == Utf8.encode b)

/-- The token of the first rule that lists the address and has the caller's token. -/
def overriding (bearer origin : Text) : List TokenOverride → Except Fault (Option Text)
  | [] => .ok none
  | rule :: rules =>
    if origin ∈ rule.allowedAddresses then
      match sameToken bearer rule.bearer.content with
      | .error fault => .error fault
      | .ok true => .ok (some rule.token.content)
      | .ok false => overriding bearer origin rules
    else overriding bearer origin rules

/-- The token to present for a caller; none means the configured one. -/
def resolve (bearer : Option Text) (origin : Text) (auth : AuthSettings) :
    Except Fault (Option Text) :=
  match bearer with
  | none => .ok none
  | some bearer =>
    match overriding bearer origin auth.overrides with
    | .error fault => .error fault
    | .ok (some token) => .ok (some token)
    | .ok none => .ok (if auth.forwardBearer then some bearer else none)

end AlarmFeed.Credential
