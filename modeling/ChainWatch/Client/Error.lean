/-!
# Why a call to a backing service failed

A call fails in one of four ways (`ClientError`): the request could not be made, the response
could not be handled, the node answered with an error object, or the service could not be
reached at all. The first two carry the text of their cause. `ClientError.message` writes each.
-/

namespace ChainWatch

/-- Why a call to a backing service failed. -/
inductive ClientError where
  /-- The request to `endpoint` failed, for the reason `source`. -/
  | request (endpoint source : String)
  /-- The response of `endpoint` could not be handled, for the reason `source`. -/
  | response (endpoint source : String)
  /-- The node answered the call `endpoint` with an error object. -/
  | rpc (endpoint : String) (code : Int) (message : String)
  /-- The service at `address` could not be reached. -/
  | connection (address : String)
  deriving DecidableEq

namespace ClientError

/-- The decimal text of an integer, with a minus sign when negative. -/
def intText (n : Int) : String := (if n < 0 then "-" else "") ++ Nat.repr n.natAbs

/-- The text of the error. -/
def message : ClientError → String
  | request e s => "Request for endpoint \"" ++ e ++ "\" failed: " ++ s
  | response e s => "Error while handling response for endpoint \"" ++ e ++ "\": " ++ s
  | rpc e c m => "RPC call \"" ++ e ++ "\" returned error " ++ intText c ++ ": " ++ m
  | connection a => "Could not connect to the given address, " ++ a

/-- The name of the way the call failed. -/
def kindName : ClientError → String
  | request .. => "Request"
  | response .. => "Response"
  | rpc .. => "Rpc"
  | connection _ => "Connection"

end ClientError

end ChainWatch
