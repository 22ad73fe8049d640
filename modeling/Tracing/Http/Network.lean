import Tracing.Http.Url
import Tracing.Fault
/-!
The network as the tracer meets it: a script of replies, and the requests sent so far. Each request
takes the next reply; the last reply stays and answers all later requests.
-/

set_option autoImplicit false
set_option relaxedAutoImplicit false

namespace Tracing

/-- A text, bytes that may or may not be one, or what is neither. -/
inductive Payload where
  | text (s : String)
  | bytes (b : List UInt8)
  | neither

def Payload.chars? : Payload → Option (List Char)
  | text s => some s.toList
  | bytes b => (Tracing.Text.ofBytes? b).map String.toList
  | neither => none

namespace Http

/-- What a request meets. -/
inductive Reply where
  | answer (status : Int) (body : Payload)
  | broken (kind : String)
  | bug (text : String)

/-- A request as sent. -/
structure Request where
  method : String
  url : String
  contentType : Option String := none
  authorization : Option String := none
  body : String := ""

def Request.toJson (r : Request) : Json :=
  .object ([("method", .text r.method), ("url", .text r.url)] ++
    (match r.contentType with
      | some t => [("content-type", .text t)]
      | none => []) ++
    (match r.authorization with
      | some t => [("authorization", .text t)]
      | none => []) ++
    (if r.body.isEmpty then [] else [("body", .text r.body)]))

/-- The replies to come and the requests sent. -/
structure Network where
  replies : List Reply := []
  requests : List Request := []

/-- The first of a script and the script after it; the last entry of a script stays. -/
def takeNext {α : Type} : List α → Option (α × List α)
  | [] => none
  | [a] => some (a, [a])
  | a :: rest => some (a, rest)

/-- Sends a request that may be sent: the reply decides, and an address without scheme has no
reader for its answer. Only statuses from 200 to 299 count as answers. -/
def Network.exchange (net : Network) (request : Request) (isAbsolute : Bool) :
    Except Cause Payload × Network :=
  let (reply, replies) := (takeNext net.replies).getD (.answer 200 (.text ""), [])
  let outcome :=
    match reply with
    | .broken kind => .error (.transport kind)
    | .bug text => .error (.raised text)
    | .answer status body =>
      if !isAbsolute then .error (.relativeUrl request.url)
      else if 200 ≤ status ∧ status < 300 then .ok body
      else .error .refusedStatus
  (outcome, ⟨replies, net.requests ++ [request]⟩)

/-- A user of the network. One that was passed in by a caller is never closed. -/
structure Client where
  owned : Bool
  closed : Bool := false

def Client.close (c : Client) : Client := if c.owned then { c with closed := true } else c

/-- A value as it is asked for: null asks for nothing, and truth values are words. -/
def queryText : Json → String
  | .null => ""
  | .truth b => if b then "true" else "false"
  | v => v.plain

/-- The texts that a value asks for: a list asks for each of its items. -/
def queryTexts : Json → List String
  | .array items => items.map queryText
  | v => [queryText v]

/-- What keeps a host from being named in a header: a label that cannot be read, or a character
outside ASCII. -/
def hostFault? (u : Url) : Option Cause :=
  match nameFault? u.host with
  | some fault => some (.unreadableHost fault)
  | none => if u.host.all fun c => c.toNat < 0x80 then none else some .unencodableHeader

def Client.get (c : Client) (net : Network) (address name : String) (value : Json) :
    Except Cause Payload × Network :=
  match (Url.ofText? address).bind fun u => u.withParameters? name (queryTexts value) with
  | none => (.error .invalidUrl, net)
  | some u =>
    match hostFault? u with
    | some cause => (.error cause, net)
    | none =>
    if c.closed then (.error .closedClient, net)
    else net.exchange ⟨"GET", u.text, none, u.basicCredentials?, ""⟩ u.isAbsolute

/-- Whether a header can be sent: its characters are ASCII. -/
def isHeaderText (s : String) : Bool := s.toList.all fun c => c.toNat < 0x80

mutual

/-- What keeps a value from being sent: a number that is not finite, or bytes. -/
def bodyFault? : Json → Option Cause
  | .real x => if x.isFinite then none else some .unwritableBody
  | .bytes _ => some .wrongType
  | .array items => itemFault? items
  | .object members => memberFault? members
  | _ => none

def itemFault? : List Json → Option Cause
  | [] => none
  | v :: rest => bodyFault? v <|> itemFault? rest

def memberFault? : List (String × Json) → Option Cause
  | [] => none
  | (_, v) :: rest => bodyFault? v <|> memberFault? rest

end

def addressOf : Json → Except Cause Url
  | .text s =>
    match Url.ofText? s with
    | some u => .ok u
    | none => .error .invalidUrl
  | _ => .error .wrongType

def bearerOf (token : Json) : Option String :=
  if token.isPresent then some ("Bearer " ++ token.plain) else none

/-- What keeps a value from being sent with a header. The header is looked at first. -/
def sendingFault? (header : Option String) (body : Json) : Option Cause :=
  if !(header.all isHeaderText) then some .unencodableHeader else bodyFault? body

/-- Sends a value to an address. The address is read first, then the headers, the value and the
host; a closed client is noticed last. Credentials in the address take the place of a token. -/
def Client.post (c : Client) (net : Network) (address token body : Json) (bodyText : String) :
    Except Cause Payload × Network :=
  match addressOf address with
  | .error cause => (.error cause, net)
  | .ok u =>
    let bearer := bearerOf token
    match sendingFault? bearer body <|> hostFault? u with
    | some cause => (.error cause, net)
    | none =>
      if c.closed then (.error .closedClient, net) else
      let authorization := u.basicCredentials? <|> bearer
      net.exchange ⟨"POST", u.text, some "application/json", authorization, bodyText⟩ u.isAbsolute

end Http

def Cause.isExchange : Cause → Bool
  | .refusedStatus | .transport _ => true
  | _ => false

def Cause.text : Cause → String
  | .relativeUrl url => "unknown url type: " ++ Tracing.Text.shown url
  | .closedClient => "Cannot send a request, as the client has been closed."
  | .raised text => text
  | _ => ""

end Tracing
