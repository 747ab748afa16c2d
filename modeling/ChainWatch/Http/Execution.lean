import ChainWatch.Http.Beacon
import ChainWatch.Rpc.Reply

/-!
# An execution node over HTTP

`ExecutionNode.api` makes the requests of `ExecutionApi` to an execution node: each call is a
JSON-RPC request `{"jsonrpc":"2.0","id":1,"method","params"}` posted as JSON to the address as
given, and the method names the endpoint in errors.

* A request that gets no response, or a status outside `2xx`, fails the request.
* A body that does not read as a reply fails the response.
* A reply with an error object fails the call with its code and message.

Block headers, sync state and code are single calls; a missing header is an error. A batch of
calls is one request whose body is the array of the calls with ids counted from zero, named
`batch of N calls`; nothing is sent for an empty batch. Replies are matched to calls by id, a
later reply with the same id winning and unknown ids ignored, and the calls are then checked in
order: a call without a reply fails the response, a reply with an error object fails the call.
-/

namespace ChainWatch

/-- The body of a JSON-RPC request. -/
def RpcCall.request (call : RpcCall) (id : Nat) : Json :=
  .obj [("jsonrpc", .str "2.0"), ("id", .nat id), ("method", .str call.method), ("params", call.params)]

/-- Reads the bytes of a `0x`-prefixed (or bare) hexadecimal string of even length. -/
def Decoder.byteString : Decoder (List Nat) := fun j => do
  let s ← Decoder.string j
  let digits := match s.toList with
    | '0' :: 'x' :: rest => rest
    | all => all
  let rec pairs : List Char → Option (List Nat)
    | [] => some []
    | [_] => none
    | a :: b :: rest => do
      let x ← hexByteValue a.toNat
      let y ← hexByteValue b.toNat
      pure ((16 * x + y) :: (← pairs rest))
  match pairs digits with
  | some bytes => pure bytes
  | none => throw (.custom "Invalid hex string")

/-- An execution node at an address, with the time limit of each request. -/
structure ExecutionNode where
  address : String
  timeoutMs : Nat

namespace ExecutionNode

variable (node : ExecutionNode) (transport : Transport σ)

/-- Posts a JSON body and reads the JSON reply with `d`; `endpoint` names the request. -/
def post (endpoint : String) (body : Json) (d : Decoder α) : Fiber σ (Except ClientError α) :=
  let request : HttpRequest :=
    { method := .post, url := node.address, accept := none, contentType := some "application/json",
      body := some body, timeoutMs := node.timeoutMs }
  Fiber.bind (transport request) fun
    | .error e => .done (.error (.request endpoint e.message))
    | .ok r =>
      if !BeaconNode.isSuccess r.status then
        .done (.error (.request endpoint ("Request not successful, got HTTP code " ++ Nat.repr r.status)))
      else match BeaconNode.readBody d r.body with
        | some a => .done (.ok a)
        | none => .done (.error (.response endpoint BeaconNode.undecodable))

/-- Makes one call and gives its result, absent when the reply has none. -/
def call (c : RpcCall) (d : Decoder α) : Fiber σ (Except ClientError (Option α)) :=
  Fiber.bind (node.post transport c.method (c.request 1) (RpcReply.decoder d)) fun
    | .error e => .done (.error e)
    | .ok reply => match reply.outcome with
      | .ok r => .done (.ok r)
      | .error f => .done (.error (.rpc c.method f.code f.message))

/-- The header of a block, the newest one for `none`. -/
def headerByNumber (number : Option Nat) : Fiber σ (Except ClientError ExecutionHeader) :=
  let c : RpcCall := { method := "eth_getBlockByNumber", params := .arr [.str (blockTag number), .bool false] }
  Fiber.bind (node.call transport c ExecutionHeader.rpcDecoder) fun
    | .ok (some h) => .done (.ok h)
    | .ok none => .done (.error (.response c.method ("Block " ++ blockTag number ++ " not found")))
    | .error e => .done (.error e)

/-- The sync range, `none` when the node is not syncing. -/
def syncProgress : Fiber σ (Except ClientError (Option SyncProgress)) :=
  Fiber.bind (node.call transport { method := "eth_syncing", params := .arr [] } syncingDecoder) fun
    | .ok r => .done (.ok (r.bind id))
    | .error e => .done (.error e)

/-- The code at an address, empty when the reply has none. -/
def codeAt (address : Address) (block : Option Nat) : Fiber σ (Except ClientError (List Nat)) :=
  let c : RpcCall := { method := "eth_getCode", params := .arr [address.toJson, .str (blockTag block)] }
  Fiber.bind (node.call transport c Decoder.byteString) fun
    | .ok r => .done (.ok (r.getD []))
    | .error e => .done (.error e)

/-- The result of each call of a batch from the replies, matched by id, checked in order. -/
def matchReplies (endpoint : String) (replies : List (RpcReply Json)) :
    List (Nat × RpcCall) → Except ClientError (List Json)
  | [] => .ok []
  | (id, c) :: rest =>
    match (replies.filter (·.id = id)).getLast? with
    | none => .error (.response endpoint ("Missing response for call " ++ Nat.repr id ++ " (" ++ c.method ++ ")"))
    | some reply => match reply.outcome with
      | .error f => .error (.rpc c.method f.code f.message)
      | .ok r => (matchReplies endpoint replies rest).map ((r.getD .null) :: ·)

/-- The raw results of several calls made in one round trip. -/
def batchRequest (calls : List RpcCall) : Fiber σ (Except ClientError (List Json)) :=
  if calls.isEmpty then .done (.ok [])
  else
    let numbered := calls.zipIdx.map fun (c, i) => (i, c)
    let endpoint := "batch of " ++ Nat.repr calls.length ++ " calls"
    let body := Json.arr (numbered.map fun (i, c) => c.request i)
    let replies : Decoder (List (RpcReply Json)) := fun j => match j with
      | .arr items => items.mapM (RpcReply.decoder Decoder.json)
      | other => .error (Decoder.refuse "a sequence" other)
    Fiber.bind (node.post transport endpoint body replies) fun
      | .error e => .done (.error e)
      | .ok rs => .done (matchReplies endpoint rs numbered)

/-- The requests of an execution node made over `transport`. -/
def api : ExecutionApi σ where
  headerByNumber := node.headerByNumber transport
  syncProgress := node.syncProgress transport
  codeAt := node.codeAt transport
  batchRequest := node.batchRequest transport

end ExecutionNode

end ChainWatch
