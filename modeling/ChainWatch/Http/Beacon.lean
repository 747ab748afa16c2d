import ChainWatch.Http.Transport
import ChainWatch.Client.Api
import ChainWatch.Beacon.Payload
import ChainWatch.Json.Parse

/-!
# A beacon node over HTTP

`BeaconNode.api` makes the requests of `BeaconApi` to a beacon node at an address: a `GET` of
the address (without the slashes it ends with) followed by the path of the endpoint, accepting
JSON. The full URL names the endpoint in errors.

* A request that gets no response fails with the text of the transport.
* `404` means the resource is absent: a missed slot has no block, and every other endpoint
  reports `Resource not found, got HTTP code 404`.
* Any other status outside `2xx` fails the request with its code.
* A body that does not read as the payload in its `data` member fails the response.

The chain configuration reads the genesis time and the timing parameters side by side, the first
failure ending both, and a configuration the parameters do not allow fails the response of the
timing parameters with the reason.
-/

namespace ChainWatch

/-- A beacon node at an address, with the time limit of each request. -/
structure BeaconNode where
  /-- The address, without the slashes it ends with. -/
  address : String
  timeoutMs : Nat

namespace BeaconNode

/-- The node at `address`, whose requests are abandoned after `timeoutMs` milliseconds. -/
def atAddress (address : String) (timeoutMs : Nat) : BeaconNode :=
  ⟨String.ofList (address.toList.reverse.dropWhile (· = '/')).reverse, timeoutMs⟩

/-- Whether a status code is a success. -/
def isSuccess (status : Nat) : Bool := 200 ≤ status && status ≤ 299

/-- The text of a body that could not be read. -/
def undecodable : String := "error decoding response body"

/-- Reads a JSON body with `d`. -/
def readBody (d : Decoder α) (body : String) : Option α :=
  match Json.parse body with
  | some j => match d j with
    | .ok a => some a
    | .error _ => none
  | none => none

variable (node : BeaconNode) (transport : Transport σ)

/-- The payload at `path`, `none` when the node has no such resource. -/
def getData (path : String) (d : Decoder α) : Fiber σ (Except ClientError (Option α)) :=
  let url := node.address ++ path
  let request : HttpRequest :=
    { method := .get, url := url, accept := some "application/json", contentType := none, body := none,
      timeoutMs := node.timeoutMs }
  Fiber.bind (transport request) fun
    | .error e => .done (.error (.request url e.message))
    | .ok r =>
      if r.status = 404 then .done (.ok none)
      else if !isSuccess r.status then
        .done (.error (.request url ("Request not successful, got HTTP code " ++ Nat.repr r.status)))
      else match readBody (BeaconPayload.dataDecoder d) r.body with
        | some a => .done (.ok (some a))
        | none => .done (.error (.response url undecodable))

/-- The payload at `path`, which must be there. -/
def requiredData (path : String) (d : Decoder α) : Fiber σ (Except ClientError α) :=
  Fiber.bind (node.getData transport path d) fun
    | .ok (some a) => .done (.ok a)
    | .ok none => .done (.error (.response (node.address ++ path) "Resource not found, got HTTP code 404"))
    | .error e => .done (.error e)

/-- The chain configuration: genesis time and timing parameters, read side by side. -/
def chainConfig : Fiber σ (Except ClientError ChainConfig) :=
  Fiber.bind (bothOrFail (node.requiredData transport "/eth/v1/beacon/genesis" BeaconPayload.genesis)
      (node.requiredData transport "/eth/v1/config/spec" BeaconPayload.spec)) fun
    | .error e => .done (.error e)
    | .ok (genesis, spec) =>
      match ChainConfig.new? genesis spec.secondsPerSlot spec.slotsPerEpoch with
      | .ok c => .done (.ok c)
      | .error e => .done (.error (.response (node.address ++ "/eth/v1/config/spec") e.message))

/-- The requests of a beacon node made over `transport`. -/
def api : BeaconApi σ where
  chainConfig := node.chainConfig transport
  beaconHead := node.requiredData transport "/eth/v1/beacon/states/head/finality_checkpoints"
    BeaconPayload.finalityCheckpoints
  beaconBlock slot := node.getData transport ("/eth/v2/beacon/blocks/" ++ Nat.repr slot)
    BeaconPayload.signedBlock
  syncStatus := node.requiredData transport "/eth/v1/node/syncing" BeaconPayload.syncing

end BeaconNode

end ChainWatch
