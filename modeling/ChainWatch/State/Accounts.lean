import ChainWatch.State.Fetch
import ChainWatch.Rpc.Reply

/-!
# Accounts as entities

The account fetcher reads, for a fixed list of accounts, the balance and the nonce of each at a
block. A batch of accounts is one batch request holding a balance call and a nonce call per
account, in the order of the accounts; the results are read back in pairs, the balance as a
256-bit quantity and the nonce as a 64-bit one. The details of the network are the header of the
block.
-/

namespace ChainWatch

/-- The balance and nonce of an account. -/
structure AccountDetails where
  balance : Nat
  nonce : Nat
  deriving DecidableEq

/-- The JSON form of account details: the balance in decimal text. -/
def AccountDetails.toJson (d : AccountDetails) : Json :=
  .obj [("balance", .str (Nat.repr d.balance)), ("nonce", .nat d.nonce)]

/-- The two calls that read an account at a block. -/
def accountCalls (tag : String) (a : Address) : List RpcCall :=
  [⟨"eth_getBalance", .arr [.str a.toText, .str tag]⟩,
   ⟨"eth_getTransactionCount", .arr [.str a.toText, .str tag]⟩]

/-- Reads the results of the calls back in pairs, balance first. -/
def readAccountResults : List Json → Except ClientError (List AccountDetails)
  | b :: n :: rest => do
    let balance ← (Decoder.quantity 32 b).mapError fun e => .response "eth_getBalance" e.message
    let nonce ← (Decoder.quantity 8 n).mapError fun e => .response "eth_getTransactionCount" e.message
    let more ← readAccountResults rest
    pure (⟨balance, nonce⟩ :: more)
  | _ => .ok []

/-- The fetcher of the details of a fixed list of accounts. -/
def accountFetcher (accounts : List Address) : DetailsFetcher σ AccountDetails ExecutionHeader where
  entityAddresses _ _ := .done (.ok accounts)
  networkDetails api block := api.headerByNumber (some block)
  fetchBatch api block addresses :=
    let calls := addresses.flatMap (accountCalls (blockTag (some block)))
    Fiber.bind (api.batchRequest calls) fun
      | .error e => .done (.error e)
      | .ok values =>
        if values.length = calls.length then .done (readAccountResults values)
        else .done (.error (.response "eth_getBalance" ("Expected " ++ Nat.repr calls.length ++
          " results, got " ++ Nat.repr values.length)))

end ChainWatch
