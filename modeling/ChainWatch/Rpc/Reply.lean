import ChainWatch.Chain.Codec
import ChainWatch.Wire.Quantity

/-!
# Replies of an execution node

An execution node answers each call with a reply that carries the call's `id` and either a
`result` or an `error` object (`RpcFault`). An error object wins over a result
(`RpcReply.outcome`). The results read here are a block header, whose number and timestamp are
hexadecimal quantities, and the sync state, which is either a truth value (not syncing) or a
range of blocks with camel-case names (`syncingDecoder`).

Blocks are named in requests by a tag: `latest`, or the number in lowercase hexadecimal
(`blockTag`).
-/

namespace ChainWatch

/-- The tag that names a block in a request: its number in lowercase hexadecimal after `0x`,
or `latest` for the newest block. -/
def blockTag : Option Nat → String
  | some n => "0x" ++ Unexpected.hexDigits n
  | none => "latest"

/-- An error object of a reply: a code and a message. -/
structure RpcFault where
  code : Int
  message : String
  deriving DecidableEq

namespace RpcFault

/-- The JSON form of an error object. -/
def toJson (f : RpcFault) : Json :=
  .obj [("code", if f.code < 0 then .neg f.code else .nat f.code.toNat), ("message", .str f.message)]

/-- Reads an error object; other members are ignored. -/
def decoder : Decoder RpcFault := fun j => do
  let ms ← readRecord "RpcErrorObject"
    [.of "code" .required Decoder.i64, .of "message" .required Decoder.string] j
  pure { code := ← fieldOf ms "code" Decoder.i64, message := ← fieldOf ms "message" Decoder.string }

end RpcFault

/-- A reply to one call: the call's id, and a result, an error object, both or neither. -/
structure RpcReply (α : Type) where
  id : Nat
  result : Option α
  error : Option RpcFault

namespace RpcReply

/-- What the reply says: its error object if it has one, else its result, possibly absent. -/
def outcome (r : RpcReply α) : Except RpcFault (Option α) :=
  match r.error with
  | some f => .error f
  | none => .ok r.result

/-- Reads a reply whose result is read by `d`; a `null` result is an absent one. -/
def decoder (d : Decoder α) : Decoder (RpcReply α) := fun j => do
  let ms ← readRecord "RpcResponse"
    [.of "id" .required Decoder.u64, .of "result" .optionalField (Decoder.option d),
     .of "error" .optionalField (Decoder.option RpcFault.decoder)] j
  pure { id := ← fieldOf ms "id" Decoder.u64
         result := ← fieldOf ms "result" (Decoder.option d)
         error := ← fieldOf ms "error" (Decoder.option RpcFault.decoder) }

/-- The JSON form of a reply: the id with the error object, or with the result written by `f`. -/
def toJson (f : α → Json) (r : RpcReply α) : Json :=
  match r.outcome with
  | .error fault => .obj [("id", .nat r.id), ("rpc_error", fault.toJson)]
  | .ok result => .obj [("id", .nat r.id), ("result", Json.ofOption f result)]

end RpcReply

/-- Reads a block header result: number and timestamp as 64-bit quantities. -/
def ExecutionHeader.rpcDecoder : Decoder ExecutionHeader := fun j => do
  let ms ← readRecord "RpcHeader"
    [.of "number" .required (Decoder.quantity 8), .of "timestamp" .required (Decoder.quantity 8)] j
  pure { number := ← fieldOf ms "number" (Decoder.quantity 8)
         timestamp := ← fieldOf ms "timestamp" (Decoder.quantity 8) }

/-- Reads a sync range with camel-case names and 64-bit quantities. -/
def SyncProgress.rpcDecoder : Decoder SyncProgress := fun j => do
  let ms ← readRecord "RpcSyncProgress"
    [.of "startingBlock" .required (Decoder.quantity 8),
     .of "currentBlock" .required (Decoder.quantity 8),
     .of "highestBlock" .required (Decoder.quantity 8)] j
  pure { startingBlock := ← fieldOf ms "startingBlock" (Decoder.quantity 8)
         currentBlock := ← fieldOf ms "currentBlock" (Decoder.quantity 8)
         highestBlock := ← fieldOf ms "highestBlock" (Decoder.quantity 8) }

/-- Reads the sync state result: a range of blocks while syncing, any truth value otherwise. -/
def syncingDecoder : Decoder (Option SyncProgress) :=
  Decoder.firstOf "SyncingResult"
    [fun j => (SyncProgress.rpcDecoder j).map some, fun j => (Decoder.bool j).map fun _ => none]

/-- The JSON form of a sync state result. -/
def syncingToJson (p : Option SyncProgress) : Json :=
  .obj [("progress", Json.ofOption SyncProgress.summary p)]

end ChainWatch
