import Tracing.Host
import Tracing.Json.Writer
import Tracing.Span.Given
/-!
Senders: a buffer of spans in front of a transport. Appending tells when the buffer is due; flushing
takes the whole buffer as one batch, which is discarded where the transport fails.
-/

set_option autoImplicit false
set_option relaxedAutoImplicit false

namespace Tracing

/-- How a scripted transport fails. -/
inductive ScriptedFailure where
  | refused (dropped : Int) (message : String)
  | broken (message : String)

def ScriptedFailure.fault : ScriptedFailure → Fault
  | .refused dropped message => .failure (.sender message dropped none)
  | .broken message => .raised message

/-- Where a worker can be held. -/
inductive Gate where
  /-- After a span was buffered. -/
  | append
  /-- While a batch is sent. -/
  | send
  deriving DecidableEq

/-- How batches leave: over the network, or to a script of outcomes, one per batch. -/
inductive Transport where
  | http (endpoint : Json) (token : Json) (timeout : Json) (client : Http.Client)
  | scripted (outcomes : List (Option ScriptedFailure)) (batches : List (List Span))

/-- What keeps a sender under trial from its work: spans that it does not buffer, by the name of
their operation, a closing that fails, and the gates at which its worker is held. -/
structure Hindrance where
  refusals : List (String × ScriptedFailure) := []
  closing : Option ScriptedFailure := none
  gates : List Gate := []

/-- What a sender is asked to do. -/
inductive SenderCall where
  | append
  | flush
  | close
  deriving DecidableEq

/-- The buffer of a sender, with what happened to it: the batches handed to the transport, sent or
lost, and the calls that the sender got. -/
structure Outbox where
  maxBatchSize : Number
  hindrance : Option Hindrance := none
  spans : List Span := []
  handed : List (List Span) := []
  calls : List SenderCall := []

/-- A sender. -/
inductive Sender where
  | noop
  | buffered (box : Outbox) (transport : Transport)

namespace Transport

def displayName : Transport → String
  | http .. => "HttpSender"
  | scripted .. => "ScriptedSender"

def payload (batch : List Span) : Json :=
  .object [("spans", .array (batch.map Span.toJson))]

/-- The fault of a batch that a transport did not take. A fault that is not the sender's own is
wrapped, and the whole batch counts as lost. -/
def batchFault (batch : List Span) : Fault → Fault
  | .failure (.sender text dropped cause) => .failure (.sender text dropped cause)
  | fault =>
    let cause : Cause :=
      match fault with
      | .request cause => cause
      | .wrongType => .wrongType
      | .invalidValue _ => .unwritableBody
      | other => .raised other.text
    .failure (.sender s!"Failed to send {batch.length} spans" batch.length (some cause))

def send (t : Transport) (batch : List Span) (net : Http.Network) :
    Except Fault Unit × Transport × Http.Network :=
  match t with
  | http endpoint token timeout client =>
    match batch.findSome? Span.exportFault? with
    | some fault => (.error fault, t, net)
    | none =>
    let body := payload batch
    let (answer, net) := client.post net endpoint token body (body.render .compact)
    let result : Except Fault Unit :=
      match answer with
      | .ok _ => .ok ()
      | .error cause =>
        if cause.isExchange then
          .error (.failure (.sender s!"Could not send {batch.length} spans to {endpoint.plain}"
            batch.length (some cause)))
        else .error (.request cause)
    (result, http endpoint token timeout client, net)
  | scripted outcomes batches =>
    match outcomes with
    | some failure :: rest => (.error failure.fault, scripted rest batches, net)
    | none :: rest => (.ok (), scripted rest (batches ++ [batch]), net)
    | [] => (.ok (), scripted [] (batches ++ [batch]), net)

def release : Transport → Transport
  | http endpoint token timeout client => http endpoint token timeout client.close
  | t => t

def batches : Transport → List (List Span)
  | http .. => []
  | scripted _ batches => batches

end Transport

namespace Outbox

/-- What keeps a span from being buffered; nothing does but a trial. -/
def refusal? (box : Outbox) (s : Span) : Option Fault :=
  box.hindrance.bind fun hindrance =>
    if !s.operation.isKey then some .wrongType
    else
      (hindrance.refusals.find? fun (name, _) => s.operation.isText name).map fun (_, f) => f.fault

/-- What keeps a sender from being closed; nothing does but a trial. -/
def closingFault? (box : Outbox) : Option Fault :=
  box.hindrance.bind fun hindrance => hindrance.closing.map ScriptedFailure.fault

def isGated (gate : Gate) (box : Outbox) : Bool :=
  box.hindrance.any fun hindrance => hindrance.gates.contains gate

def withGates (update : List Gate → List Gate) (box : Outbox) : Outbox :=
  { box with hindrance := box.hindrance.map fun hindrance =>
      { hindrance with gates := update hindrance.gates } }

def note (call : SenderCall) (box : Outbox) : Outbox := { box with calls := box.calls ++ [call] }

end Outbox

namespace Sender

/-- Spans per batch, unless said otherwise. -/
def standardBatchSize : Int := 100

def batchSizeMessage : String := "max_batch_size must be positive"

def create (maxBatchSize : Number) (transport : Transport)
    (hindrance : Option Hindrance := none) : Except Fault Sender :=
  if maxBatchSize.le (.integer 0) then .error (.invalidValue batchSizeMessage)
  else .ok (.buffered { maxBatchSize, hindrance } transport)

def displayName : Sender → String
  | noop => "NoopSender"
  | buffered _ t => t.displayName

def buffer : Sender → List Span
  | noop => []
  | buffered box _ => box.spans

def handed : Sender → List (List Span)
  | noop => []
  | buffered box _ => box.handed

def calls : Sender → List SenderCall
  | noop => []
  | buffered box _ => box.calls

def note (call : SenderCall) : Sender → Sender
  | noop => noop
  | buffered box t => buffered (box.note call) t

/-- Buffers a span. The answer is the size of the buffer if it is due, else zero. -/
def append (s : Sender) (span : Span) : Except Fault Nat × Sender :=
  match s with
  | noop => (.ok 0, noop)
  | buffered box t =>
    let box := box.note .append
    match box.refusal? span with
    | some f => (.error f, buffered box t)
    | none =>
      let spans := box.spans ++ [span]
      let due := if box.maxBatchSize.le (.integer spans.length) then spans.length else 0
      (.ok due, buffered { box with spans } t)

def takeBatch : Sender → List Span × Sender
  | noop => ([], noop)
  | buffered box t =>
    if box.spans.isEmpty then ([], buffered box t)
    else (box.spans, buffered { box with spans := [], handed := box.handed ++ [box.spans] } t)

/-- Sends a batch that was taken. The answer is how many spans were sent. -/
def sendBatch (s : Sender) (batch : List Span) (h : Host) : Except Fault Nat × Sender × Host :=
  match s with
  | noop => (.ok 0, noop, h)
  | buffered box t =>
    let (result, t, network) := t.send batch h.network
    let h := { h with network }
    match result with
    | .ok () => (.ok batch.length, buffered box t, h.log (.batchSent batch.length t.displayName))
    | .error f => (.error (Transport.batchFault batch f), buffered box t, h)

/-- Sends what is buffered. Nothing is sent where nothing is buffered. -/
def ship (s : Sender) (h : Host) : Except Fault Nat × Sender × Host :=
  let (batch, s) := s.takeBatch
  if batch.isEmpty then (.ok 0, s, h) else s.sendBatch batch h

def startFlush (s : Sender) : List Span × Sender := (s.note .flush).takeBatch

def flush (s : Sender) (h : Host) : Except Fault Nat × Sender × Host := (s.note .flush).ship h

def release : Sender → Sender
  | noop => noop
  | buffered box t => buffered box t.release

def closingFault? : Sender → Option Fault
  | noop => none
  | buffered box _ => box.closingFault?

def startClose (s : Sender) : List Span × Sender :=
  let s := s.note .close
  match s.closingFault? with
  | some _ => ([], s)
  | none => s.takeBatch

/-- Sends the last batch, if there is one, and releases the transport, also where sending fails. -/
def finishClose (s : Sender) (batch : List Span) (h : Host) : Except Fault Nat × Sender × Host :=
  match s.closingFault? with
  | some f => (.error f, s, h)
  | none =>
    let (result, s, h) := if batch.isEmpty then (.ok 0, s, h) else s.sendBatch batch h
    (result, s.release, h)

def close (s : Sender) (h : Host) : Except Fault Nat × Sender × Host :=
  let (batch, s) := s.startClose
  s.finishClose batch h

def isGated (gate : Gate) : Sender → Bool
  | noop => false
  | buffered box _ => box.isGated gate

def withGates (update : List Gate → List Gate) : Sender → Sender
  | noop => noop
  | buffered box t => buffered (box.withGates update) t

def description? : Sender → Option String
  | buffered box (.http endpoint ..) =>
    some s!"HttpSender(endpoint={endpoint.shown}, max_batch_size={box.maxBatchSize.text})"
  | _ => none

def optionalJson : Option String → Json
  | some s => .text s
  | none => .null

def state (s : Sender) : Json :=
  match s with
  | noop => .object [("class", .text s.displayName)]
  | buffered box t =>
    .object ([("class", .text s.displayName), ("buffered", .integer box.spans.length),
      ("max_batch_size", .ofNumber box.maxBatchSize)] ++
      match t with
      | .http endpoint token timeout client =>
        [("repr", optionalJson s.description?), ("endpoint", endpoint),
          ("auth_token", token), ("timeout", timeout),
          ("client_closed", .truth client.closed)]
      | .scripted .. =>
        let names := t.batches.map fun batch => batch.map Span.operation
        [("batches", .array (names.map .array))])

end Sender

end Tracing
