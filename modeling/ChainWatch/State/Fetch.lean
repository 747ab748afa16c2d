import ChainWatch.Client.Api
import ChainWatch.Sim.Window
import ChainWatch.State.Error

/-!
# Reading entity details in batches

A `DetailsFetcher` knows which entities there are at a block, the details of the network at a
block, and how to read the details of a batch of entities in one round trip.
`fetchInBatches` reads the details of a list of entities: later repeats of an entity are
dropped, the rest is cut into batches of the batch size (at least one), and the batches run
through a window as wide as the allowed concurrency (at least one). Each batch must give one
detail per entity; the first batch in order that fails or gives a wrong count ends the read.
The details come back paired with their entities, in the order of the list.
-/

namespace ChainWatch

/-- What reads the entities and their details for snapshots; `D` are the details of an entity
and `N` those of the network. -/
structure DetailsFetcher (σ D N : Type) where
  entityAddresses : ExecutionApi σ → Nat → Fiber σ (Except ClientError (List Address))
  networkDetails : ExecutionApi σ → Nat → Fiber σ (Except ClientError N)
  fetchBatch : ExecutionApi σ → Nat → List Address → Fiber σ (Except ClientError (List D))

/-- A list without the later repeats of its items. -/
def firstOccurrences [BEq α] (xs : List α) : List α :=
  (xs.foldl (fun acc x => if acc.contains x then acc else x :: acc) []).reverse

/-- A list cut into consecutive pieces of `n` items, the last possibly shorter. -/
def chunksOf (n : Nat) (pos : 0 < n) : List α → List (List α)
  | [] => []
  | x :: xs => (x :: xs.take (n - 1)) :: chunksOf n pos (xs.drop (n - 1))
termination_by xs => xs.length
decreasing_by simp only [List.length_drop, List.length_cons]; omega

instance : Inhabited StateError := ⟨.cancelled⟩

/-- Reads the details of one batch, checking that there is one per entity. -/
def DetailsFetcher.batchJob (f : DetailsFetcher σ D N) (api : ExecutionApi σ) (block : Nat)
    (batch : List Address) : Fiber σ (Except StateError (List (Address × D))) :=
  Fiber.bind (f.fetchBatch api block batch) fun
    | .error e => .done (.error (.client ("fetching the details of " ++ Nat.repr batch.length ++
        " entities at block " ++ Nat.repr block) e))
    | .ok ds =>
      if ds.length = batch.length then .done (.ok (batch.zip ds))
      else .done (.error (.client ("fetching entity details at block " ++ Nat.repr block)
        (.response "batch" ("Expected details for " ++ Nat.repr batch.length ++ " entities, got " ++
          Nat.repr ds.length))))

/-- Reads the details of entities in batches of `batchSize`, at most `concurrency` at a time. -/
def DetailsFetcher.fetchInBatches (f : DetailsFetcher σ D N) (api : ExecutionApi σ) (block : Nat)
    (addresses : List Address) (batchSize concurrency : Nat) :
    Fiber σ (Except StateError (List (Address × D))) :=
  let batches := chunksOf (max batchSize 1) (by omega) (firstOccurrences addresses)
  Fiber.bind (Fiber.window (max concurrency 1) (batches.map (f.batchJob api block))) fun
    | .ok parts => .done (.ok parts.flatten)
    | .error e => .done (.error e)

end ChainWatch
