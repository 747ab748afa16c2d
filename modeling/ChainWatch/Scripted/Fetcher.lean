import ChainWatch.State.Fetch

/-!
# A scripted fetcher of entity details

A scripted fetcher lists the entities it was given (or fails with a given text), reports the
block number as the details of the network, and answers the `k`-th batch (counting from zero)
with a number of details shifted by the `k`-th delta (the last delta repeating, none meaning no
shift, never below zero), or fails it when `k` is among the failing batches. The `i`-th detail of
a batch echoes the `i`-th entity of the batch, cycling, and the block.
-/

namespace ChainWatch

/-- A detail that echoes the entity and block it was read for. -/
structure EntityEcho where
  address : Address
  block : Nat
  deriving DecidableEq

/-- The JSON form of an echoed detail. -/
def EntityEcho.toJson (e : EntityEcho) : Json :=
  .obj [("address", .str e.address.toText), ("block_number", .nat e.block)]

/-- What a scripted fetcher answers. -/
structure FetcherScript where
  entities : List Address := []
  entityError : Option String := none
  deltas : List Int := []
  failing : List Nat := []

namespace FetcherScript

/-- The shift of the count of the `k`-th batch. -/
def delta (s : FetcherScript) (k : Nat) : Int :=
  match s.deltas[k]? with
  | some d => d
  | none => s.deltas.getLast?.getD 0

/-- The details of the `k`-th batch. -/
def answer (s : FetcherScript) (k block : Nat) (batch : List Address) : List EntityEcho :=
  let count := (batch.length + s.delta k).toNat
  (List.range count).map fun i => ⟨batch.getD (i % batch.length) default, block⟩

/-- The fetcher that answers from the script, recording the size of every batch where `get` and
`set` reach in the world. -/
def fetcher (s : FetcherScript) (get : σ → List Nat) (set : σ → List Nat → σ) :
    DetailsFetcher σ EntityEcho Nat where
  entityAddresses _ _ := .done (match s.entityError with
    | some text => .error (.request "scripted fetcher" text)
    | none => .ok s.entities)
  networkDetails _ block := .done (.ok block)
  fetchBatch _ block batch := .read fun w =>
    let k := (get w).length
    .update (fun w => set w (get w ++ [batch.length]))
      (.done (if s.failing.contains k then .error (.request "scripted fetcher" ("batch " ++ Nat.repr k ++ " failed"))
        else .ok (s.answer k block batch)))

end FetcherScript

end ChainWatch
