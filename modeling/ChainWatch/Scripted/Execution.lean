import ChainWatch.Scripted.Script
import ChainWatch.Client.Api
import ChainWatch.Rpc.Reply

/-!
# A scripted execution node

A scripted execution node answers from what it was told, at once, and counts what it is asked:

* its sync state comes from a script; a failure in the script is a failed request;
* the newest header is a fixed one, and the header of block `n` is block `n` with the newest
  timestamp; a header error makes every header request fail;
* the code at an address is what was set for it, empty otherwise; a code error makes the
  request fail;
* a batch of calls is answered call by call from the accounts it knows (`0x0` for an account it
  does not know), after a delay, and possibly with its last results dropped; a batch error makes
  the batch fail.
-/

namespace ChainWatch

/-- The state of a scripted execution node: what it answers and what it was asked. -/
structure ScriptedExecution where
  syncScript : Script (Except String (Option SyncProgress)) := [.ok none]
  /-- Sync requests from this number on never complete. -/
  hangAfter : Option Nat := none
  latest : ExecutionHeader := ⟨1000, 0⟩
  headerError : Option String := none
  code : List (Address × List Nat) := []
  codeError : Option String := none
  /-- The raw balance and nonce results of each known account. -/
  accounts : List (Address × Json × Json) := []
  batchError : Option String := none
  /-- How many results are dropped from the end of each batch. -/
  batchDrop : Nat := 0
  batchDelay : Nat := 0
  syncCalls : Nat := 0
  headerCalls : Nat := 0
  codeCalls : Nat := 0
  /-- The number of calls in each batch asked for, in order. -/
  batches : List Nat := []
  deriving Inhabited

namespace ScriptedExecution

/-- The header a request for a block, or for the newest one, is answered with. -/
def header (n : ScriptedExecution) : Option Nat → ExecutionHeader
  | some k => ⟨k, n.latest.timestamp⟩
  | none => n.latest

/-- The raw result of one call of a batch. -/
def answer (n : ScriptedExecution) (call : RpcCall) : Json :=
  let address : Option String := match call.params with
    | .arr (.str a :: _) => some a
    | _ => none
  let known := address.bind fun a => (n.accounts.find? fun entry => entry.1.toText == a).map (·.2)
  match known with
  | some (balance, nonce) => if call.method == "eth_getBalance" then balance else nonce
  | none => .str "0x0"

/-- The requests of a scripted execution node that `get` and `set` reach in the world. -/
def api [VirtualClock σ] (get : σ → ScriptedExecution) (set : σ → ScriptedExecution → σ) :
    ExecutionApi σ where
  syncProgress := .read fun w =>
    let n := get w
    let (entry, rest) := Script.next n.syncScript
    if hangsAt n.hangAfter n.syncCalls then
      .update (fun w => set w { get w with syncCalls := (get w).syncCalls + 1 }) Fiber.hang
    else
      .update (fun w => set w { get w with syncCalls := (get w).syncCalls + 1, syncScript := rest })
        (.done (match entry with
          | some (.ok p) => .ok p
          | some (.error text) => .error (.request "eth_syncing" text)
          | none => .error (.request "eth_syncing" "empty script")))
  headerByNumber number := .read fun w =>
    let n := get w
    .update (fun w => set w { get w with headerCalls := (get w).headerCalls + 1 })
      (.done (match n.headerError with
        | some text => .error (.request "eth_getBlockByNumber" text)
        | none => .ok (n.header number)))
  codeAt address _ := .read fun w =>
    let n := get w
    .update (fun w => set w { get w with codeCalls := (get w).codeCalls + 1 })
      (.done (match n.codeError with
        | some text => .error (.request "eth_getCode" text)
        | none => .ok ((n.code.lookup address).getD [])))
  batchRequest calls :=
    .read fun w =>
      .update (fun w => set w { get w with batches := (get w).batches ++ [calls.length] })
        (Fiber.bind (Fiber.sleep (get w).batchDelay) fun () => .read fun w =>
          let n := get w
          .done (match n.batchError with
            | some text => .error (.request ("batch of " ++ Nat.repr calls.length ++ " calls") text)
            | none =>
              let values := calls.map n.answer
              .ok (values.take (values.length - n.batchDrop))))

end ScriptedExecution

end ChainWatch
