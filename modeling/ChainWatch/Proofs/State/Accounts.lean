import ChainWatch.State.Accounts
import ChainWatch.Proofs.State.Batches
import ChainWatch.Proofs.Wire.Record

/-!
# Account details are paired with their accounts

The account fetcher reads a batch of accounts in one batch request of two calls per account, a
balance and a nonce, and rebuilds the details from the flat list of results two values at a
time. This module shows that the pairing is exact for every batch and every execution node:

* `length_flatMap_accountCalls`, `getElem?_flatMap_accountCalls`: the request holds `2 n` calls,
  the balance of account `i` at position `2 i` and its nonce at `2 i + 1`;
* `readAccountResults_eq_ok_iff`: the results read as details exactly when every pair reads, the
  value at `2 i` as a 256-bit balance and the one at `2 i + 1` as a 64-bit nonce
  (`AccountPairReads`), with one entry per pair;
* `readAccountResults_eq_error_iff`: otherwise the failure is that of the first pair that does not
  read, its balance before its nonce (`AccountPairFails`);
* `accountFetcher_fetchBatch_eq`: a batch is that one request and then a computation on its answer
  alone (`accountBatchAnswer`), which fails with the request's failure, then with a count other
  than `2 n`, then with the first pair that does not read.

So a batch read by the account fetcher never has a wrong number of details, and reading accounts
in batches never fails the count check of `DetailsFetcher.fetchInBatches`
(`accountFetcher_reads_accounts_in_pairs`).
-/

namespace ChainWatch

open ChainWatch.Fiber

/-! ### The calls of a batch -/

theorem length_flatMap_accountCalls (tag : String) (batch : List Address) :
    (batch.flatMap (accountCalls tag)).length = 2 * batch.length := by
  induction batch with
  | nil => rfl
  | cons a batch ih =>
    simp only [List.flatMap_cons, accountCalls, List.length_append, ih, List.length_cons,
      List.length_nil]
    omega

/-- The calls for account `i` stand at positions `2 i` and `2 i + 1`, its balance first. -/
theorem getElem?_flatMap_accountCalls (tag : String) (batch : List Address) (i : Nat) :
    (batch.flatMap (accountCalls tag))[2 * i]? =
        batch[i]?.map (fun a => ⟨"eth_getBalance", .arr [.str a.toText, .str tag]⟩) ∧
      (batch.flatMap (accountCalls tag))[2 * i + 1]? =
        batch[i]?.map (fun a => ⟨"eth_getTransactionCount", .arr [.str a.toText, .str tag]⟩) := by
  induction batch generalizing i with
  | nil => simp
  | cons a batch ih =>
    cases i with
    | zero => simp [accountCalls]
    | succ i =>
      -- the calls of the first account shift the rest by two
      simp only [List.flatMap_cons, accountCalls, List.cons_append, List.nil_append, Nat.mul_succ,
        List.getElem?_cons_succ]
      exact ih i

/-! ### Reading the results in pairs -/

/-- Pair `i` of the results reads as the details `d`: the value at `2 i` is the balance as a
256-bit quantity and the value at `2 i + 1` the nonce as a 64-bit one. -/
def AccountPairReads (vs : List Json) (i : Nat) (d : AccountDetails) : Prop :=
  vs[2 * i]?.map (Decoder.quantity 32) = some (.ok d.balance) ∧
    vs[2 * i + 1]?.map (Decoder.quantity 8) = some (.ok d.nonce)

/-- Pair `i` of the results fails with `e`: its balance does not read, or it does and its nonce
does not, each failure naming its call. -/
def AccountPairFails (vs : List Json) (i : Nat) (e : ClientError) : Prop :=
  (∃ de, vs[2 * i]?.map (Decoder.quantity 32) = some (.error de) ∧
    e = .response "eth_getBalance" de.message) ∨
  (∃ b de, vs[2 * i]?.map (Decoder.quantity 32) = some (.ok b) ∧
    vs[2 * i + 1]?.map (Decoder.quantity 8) = some (.error de) ∧
    e = .response "eth_getTransactionCount" de.message)

/-- One pair of results read as details: the balance as a 256-bit quantity, then the nonce as a
64-bit one, each failure naming its call. -/
def readAccountPair (b n : Json) : Except ClientError AccountDetails := do
  let balance ← (Decoder.quantity 32 b).mapError fun e => .response "eth_getBalance" e.message
  let nonce ← (Decoder.quantity 8 n).mapError fun e => .response "eth_getTransactionCount" e.message
  pure ⟨balance, nonce⟩

section Pairs

variable {b n : Json} {rest : List Json}

theorem readAccountPair_balance_error {de : DecodeError} (h : Decoder.quantity 32 b = .error de) :
    readAccountPair b n = .error (.response "eth_getBalance" de.message) := by
  rw [readAccountPair, h]
  rfl

theorem readAccountPair_nonce_error {bal : Nat} {de : DecodeError}
    (hb : Decoder.quantity 32 b = .ok bal) (hn : Decoder.quantity 8 n = .error de) :
    readAccountPair b n = .error (.response "eth_getTransactionCount" de.message) := by
  rw [readAccountPair, hb, hn]
  rfl

theorem readAccountPair_ok {bal non : Nat} (hb : Decoder.quantity 32 b = .ok bal)
    (hn : Decoder.quantity 8 n = .ok non) :
    readAccountPair b n = .ok ⟨bal, non⟩ := by
  rw [readAccountPair, hb, hn]
  rfl

theorem readAccountPair_eq_ok_iff {d : AccountDetails} :
    readAccountPair b n = .ok d ↔
      Decoder.quantity 32 b = .ok d.balance ∧ Decoder.quantity 8 n = .ok d.nonce := by
  rcases hb : Decoder.quantity 32 b with de | bal
  · simp [readAccountPair_balance_error hb]
  rcases hn : Decoder.quantity 8 n with de | non
  · simp [readAccountPair_nonce_error hb hn]
  rw [readAccountPair_ok hb hn]
  cases d
  simp

theorem readAccountPair_eq_error_iff {e : ClientError} :
    readAccountPair b n = .error e ↔
      (∃ de, Decoder.quantity 32 b = .error de ∧ e = .response "eth_getBalance" de.message) ∨
      (∃ bal de, Decoder.quantity 32 b = .ok bal ∧ Decoder.quantity 8 n = .error de ∧
        e = .response "eth_getTransactionCount" de.message) := by
  rcases hb : Decoder.quantity 32 b with de | bal
  · simp [readAccountPair_balance_error hb, eq_comm]
  rcases hn : Decoder.quantity 8 n with de | non
  · simp [readAccountPair_nonce_error hb hn, eq_comm]
  simp [readAccountPair_ok hb hn]

/-- The results are read a pair at a time. -/
theorem readAccountResults_cons_cons :
    readAccountResults (b :: n :: rest) =
      (readAccountPair b n).bind fun d => (readAccountResults rest).map (d :: ·) := by
  rw [readAccountResults, readAccountPair]
  cases Decoder.quantity 32 b <;> cases Decoder.quantity 8 n <;> cases readAccountResults rest <;> rfl

/-- A pair that does not read ends the read with its failure. -/
theorem readAccountResults_pair_error {e : ClientError} (h : readAccountPair b n = .error e) :
    readAccountResults (b :: n :: rest) = .error e := by
  rw [readAccountResults_cons_cons, h]
  rfl

/-- A pair that reads is put in front of what the rest reads. -/
theorem readAccountResults_pair_ok {d : AccountDetails} (h : readAccountPair b n = .ok d) :
    readAccountResults (b :: n :: rest) = (readAccountResults rest).map (d :: ·) := by
  rw [readAccountResults_cons_cons, h]
  rfl

theorem accountPairReads_zero {d : AccountDetails} :
    AccountPairReads (b :: n :: rest) 0 d ↔ readAccountPair b n = .ok d := by
  simp [AccountPairReads, readAccountPair_eq_ok_iff]

theorem accountPairReads_succ {i : Nat} {d : AccountDetails} :
    AccountPairReads (b :: n :: rest) (i + 1) d ↔ AccountPairReads rest i d := by
  simp only [AccountPairReads, Nat.mul_succ, List.getElem?_cons_succ]

theorem accountPairFails_zero {e : ClientError} :
    AccountPairFails (b :: n :: rest) 0 e ↔ readAccountPair b n = .error e := by
  simp [AccountPairFails, readAccountPair_eq_error_iff]

theorem accountPairFails_succ {i : Nat} {e : ClientError} :
    AccountPairFails (b :: n :: rest) (i + 1) e ↔ AccountPairFails rest i e := by
  simp only [AccountPairFails, Nat.mul_succ, List.getElem?_cons_succ]

end Pairs

/-- A list shorter than a pair reads as no details. -/
theorem readAccountResults_of_length_lt {vs : List Json} (h : vs.length < 2) :
    readAccountResults vs = .ok [] := by
  match vs, h with
  | [], _ => rfl
  | [_], _ => rfl

theorem readAccountResults_eq_ok_iff_of_short {vs : List Json} {D : List AccountDetails}
    (h : vs.length < 2) :
    readAccountResults vs = .ok D ↔
      D.length = vs.length / 2 ∧ ∀ i (hi : i < D.length), AccountPairReads vs i D[i] := by
  rw [readAccountResults_of_length_lt h, Except.ok.injEq, Nat.div_eq_of_lt h]
  constructor
  · rintro rfl
    exact ⟨rfl, fun i hi => absurd hi (Nat.not_lt_zero i)⟩
  · rintro ⟨hlen, -⟩
    exact (List.length_eq_zero_iff.mp hlen).symm

/-- **The results read as details exactly when every pair reads**, one entry per pair, the
entry `i` read from the values at `2 i` and `2 i + 1`. -/
theorem readAccountResults_eq_ok_iff : ∀ {vs : List Json} {D : List AccountDetails},
    readAccountResults vs = .ok D ↔
      D.length = vs.length / 2 ∧ ∀ i (hi : i < D.length), AccountPairReads vs i D[i]
  | [], _ => readAccountResults_eq_ok_iff_of_short (by simp)
  | [_], _ => readAccountResults_eq_ok_iff_of_short (by simp)
  | b :: n :: rest, D => by
    rcases hp : readAccountPair b n with e | d
    · -- the first pair does not read, so the details cannot have a first entry
      rw [readAccountResults_pair_error hp]
      simp only [reduceCtorEq, false_iff, not_and]
      intro hlen hall
      have h0 := accountPairReads_zero.mp (hall 0 (by simp at hlen; omega))
      rw [hp] at h0
      cases h0
    rw [readAccountResults_pair_ok hp, Except.map_eq_ok]
    constructor
    · rintro ⟨more, hmore, rfl⟩
      obtain ⟨hlen, hall⟩ := readAccountResults_eq_ok_iff.mp hmore
      refine ⟨by simp [hlen]; omega, fun i hi => ?_⟩
      cases i with
      | zero => exact accountPairReads_zero.mpr hp
      | succ i => exact accountPairReads_succ.mpr (hall i _)
    · rintro ⟨hlen, hall⟩
      cases D with
      | nil => simp at hlen; omega
      | cons d' more =>
        -- the first entry is the first pair, the others are what the rest reads
        have hd : d' = d := by
          have h0 := accountPairReads_zero.mp (hall 0 (by simp))
          rw [hp] at h0
          exact (Except.ok.inj h0).symm
        have hrest : readAccountResults rest = .ok more := by
          refine readAccountResults_eq_ok_iff.mpr ⟨by simp at hlen; omega, fun i hi => ?_⟩
          exact accountPairReads_succ.mp (hall (i + 1) (by simp; omega))
        exact ⟨more, hrest, by rw [hd]⟩

/-- **Otherwise the read fails with the first pair that does not read**, its balance before its
nonce, after every pair before it read. -/
theorem readAccountResults_eq_error_iff : ∀ {vs : List Json} {e : ClientError},
    readAccountResults vs = .error e ↔
      ∃ i < vs.length / 2, (∀ j < i, ∃ d, AccountPairReads vs j d) ∧ AccountPairFails vs i e
  | [], e => by simp [readAccountResults_of_length_lt]
  | [_], e => by simp [readAccountResults_of_length_lt]
  | b :: n :: rest, e => by
    have hlen : (b :: n :: rest).length / 2 = rest.length / 2 + 1 := by simp; omega
    rw [hlen]
    rcases hp : readAccountPair b n with e' | d
    · -- the first pair fails, and no pair before it
      rw [readAccountResults_pair_error hp, Except.error.injEq]
      constructor
      · rintro rfl
        exact ⟨0, by omega, fun j hj => absurd hj (Nat.not_lt_zero j), accountPairFails_zero.mpr hp⟩
      · rintro ⟨i, -, hbefore, hfails⟩
        cases i with
        | zero =>
          rw [accountPairFails_zero, hp] at hfails
          exact Except.error.inj hfails
        | succ i =>
          obtain ⟨d, hd⟩ := hbefore 0 (Nat.succ_pos i)
          rw [accountPairReads_zero, hp] at hd
          cases hd
    -- the first pair reads, so the failure is one of the rest, shifted by a pair
    rw [readAccountResults_pair_ok hp, Except.map_eq_error, readAccountResults_eq_error_iff]
    constructor
    · rintro ⟨i, hi, hbefore, hfails⟩
      refine ⟨i + 1, by omega, fun j hj => ?_, accountPairFails_succ.mpr hfails⟩
      cases j with
      | zero => exact ⟨d, accountPairReads_zero.mpr hp⟩
      | succ j =>
        obtain ⟨d', hd⟩ := hbefore j (by omega)
        exact ⟨d', accountPairReads_succ.mpr hd⟩
    · rintro ⟨i, hi, hbefore, hfails⟩
      cases i with
      | zero =>
        rw [accountPairFails_zero, hp] at hfails
        cases hfails
      | succ i =>
        refine ⟨i, by omega, fun j hj => ?_, accountPairFails_succ.mp hfails⟩
        obtain ⟨d', hd⟩ := hbefore (j + 1) (by omega)
        exact ⟨d', accountPairReads_succ.mp hd⟩

/-! ### One batch -/

/-- What a batch of `n` accounts gives once the node answered `x`: the failure of the request, a
count other than `2 n` with both counts, or the results read in pairs. -/
def accountBatchAnswer (n : Nat) :
    Except ClientError (List Json) → Except ClientError (List AccountDetails)
  | .error e => .error e
  | .ok values =>
    if values.length = 2 * n then readAccountResults values
    else .error (.response "eth_getBalance" ("Expected " ++ Nat.repr (2 * n) ++ " results, got " ++
      Nat.repr values.length))

/-- **A batch is one request and a computation on its answer alone**: the batch request of the
two calls of every account, in order, and nothing else. -/
theorem accountFetcher_fetchBatch_eq {σ : Type} (accounts : List Address) (api : ExecutionApi σ)
    (block : Nat) (batch : List Address) :
    (accountFetcher accounts).fetchBatch api block batch =
      Fiber.bind (api.batchRequest (batch.flatMap (accountCalls (blockTag (some block)))))
        fun x => .done (accountBatchAnswer batch.length x) := by
  show Fiber.bind _ _ = Fiber.bind _ _
  congr 1
  funext x
  rcases x with e | values
  · rfl
  · dsimp only [accountBatchAnswer]
    rw [length_flatMap_accountCalls]
    split <;> rfl

theorem accountBatchAnswer_eq_ok_iff {n : Nat} {x : Except ClientError (List Json)}
    {D : List AccountDetails} :
    accountBatchAnswer n x = .ok D ↔ ∃ vs, x = .ok vs ∧ vs.length = 2 * n ∧ D.length = n ∧
      ∀ i (hi : i < D.length), AccountPairReads vs i D[i] := by
  rcases x with e | vs
  · simp [accountBatchAnswer]
  · simp only [accountBatchAnswer, Except.ok.injEq, exists_eq_left']
    split
    · rename_i hlen
      rw [readAccountResults_eq_ok_iff, hlen, Nat.mul_div_cancel_left n (by decide)]
      simp
    · rename_i hlen
      simp [hlen]

theorem accountBatchAnswer_eq_error_iff {n : Nat} {x : Except ClientError (List Json)}
    {e : ClientError} :
    accountBatchAnswer n x = .error e ↔ x = .error e ∨ ∃ vs, x = .ok vs ∧
      ((vs.length ≠ 2 * n ∧ e = .response "eth_getBalance" ("Expected " ++ Nat.repr (2 * n) ++
          " results, got " ++ Nat.repr vs.length)) ∨
        (vs.length = 2 * n ∧
          ∃ i < n, (∀ j < i, ∃ d, AccountPairReads vs j d) ∧ AccountPairFails vs i e)) := by
  rcases x with e' | vs
  · simp [accountBatchAnswer]
  · simp only [accountBatchAnswer, reduceCtorEq, Except.ok.injEq, exists_eq_left', false_or]
    split
    · rename_i hlen
      rw [readAccountResults_eq_error_iff, hlen, Nat.mul_div_cancel_left n (by decide)]
      simp
    · rename_i hlen
      simp only [Except.error.injEq, hlen, ne_eq, not_false_eq_true, true_and, false_and, or_false]
      exact eq_comm

/-! ### Reading accounts in batches -/

/-- A batch read by the account fetcher that succeeds has one entry per account. -/
theorem accountFetcher_gives_fetchBatch {σ : Type} (accounts : List Address) (api : ExecutionApi σ)
    (block : Nat) (batch : List Address) :
    Gives (fun x => ∀ D, x = .ok D → D.length = batch.length)
      ((accountFetcher accounts).fetchBatch api block batch) := by
  rw [accountFetcher_fetchBatch_eq]
  refine (gives_true _).bind fun x _ => .done fun D hD => ?_
  obtain ⟨vs, -, -, hlen, -⟩ := accountBatchAnswer_eq_ok_iff.mp hD
  exact hlen

/-- The context of a failed batch call is never that of the count check. -/
theorem fetchContext_ne_countContext (k b b' : Nat) :
    "fetching the details of " ++ Nat.repr k ++ " entities at block " ++ Nat.repr b ≠
      "fetching entity details at block " ++ Nat.repr b' := by
  intro h
  -- the two texts part at their tenth character
  have h9 := congrArg (fun s => s.toList[9]?) h
  simp only [String.toList_append, List.append_assoc] at h9
  rw [List.getElem?_append_left (by decide), List.getElem?_append_left (by decide)] at h9
  exact absurd h9 (by decide)

/-- Reading accounts in batches fails only with the failure of a batch's call, never with the
count check. -/
theorem accountFetcher_fetchInBatches_error {σ : Type} [VirtualClock σ] {accounts : List Address}
    {api : ExecutionApi σ} {block : Nat} {addresses : List Address} {batchSize concurrency : Nat}
    {w w' : σ} {e : StateError}
    (h : Ends w ((accountFetcher accounts).fetchInBatches api block addresses batchSize concurrency)
      w' (.error e)) :
    ∃ C ∈ batchesOf addresses batchSize, ∃ ce, e = .client ("fetching the details of " ++
      Nat.repr C.length ++ " entities at block " ++ Nat.repr block) ce := by
  obtain ⟨j, hj, ⟨x, hx, he⟩, -⟩ :=
    (accountFetcher accounts).fetched (fun C => accountFetcher_gives_fetchBatch accounts api block C) h
  rcases x with ce | ds
  · exact ⟨_, List.getElem_mem hj, ce, (Except.error.inj he).symm⟩
  · rw [batchResult, if_pos (hx ds rfl)] at he
    cases he

/-- **Account details are paired with their accounts.** For every batch of `n` accounts, block
and execution node, the request holds `2 n` calls, the balance of account `i` at `2 i` and its
nonce at `2 i + 1`, both at the block; a batch is that one request and then a computation on its
answer alone, which gives details exactly when the request succeeds with `2 n` values whose pairs
all read, one entry per account read from its own pair, and otherwise fails with the request's
failure, the count mismatch, or the first pair that does not read, its balance before its nonce.
So reading accounts in batches fails only with the failure of a batch's call, never with the
count check. -/
theorem accountFetcher_reads_accounts_in_pairs {σ : Type} [VirtualClock σ]
    (accounts : List Address) (api : ExecutionApi σ) (block : Nat) (batch : List Address) :
    ((batch.flatMap (accountCalls (blockTag (some block)))).length = 2 * batch.length ∧
      ∀ i (hi : i < batch.length),
        (batch.flatMap (accountCalls (blockTag (some block))))[2 * i]? =
          some ⟨"eth_getBalance", .arr [.str batch[i].toText, .str (blockTag (some block))]⟩ ∧
        (batch.flatMap (accountCalls (blockTag (some block))))[2 * i + 1]? =
          some ⟨"eth_getTransactionCount", .arr [.str batch[i].toText, .str (blockTag (some block))]⟩) ∧
    (∃ answer : Except ClientError (List Json) → Except ClientError (List AccountDetails),
      (accountFetcher accounts).fetchBatch api block batch =
        Fiber.bind (api.batchRequest (batch.flatMap (accountCalls (blockTag (some block)))))
          (fun x => .done (answer x)) ∧
      (∀ x D, answer x = .ok D ↔ ∃ vs, x = .ok vs ∧ vs.length = 2 * batch.length ∧
        D.length = batch.length ∧ ∀ i (hi : i < D.length), AccountPairReads vs i D[i]) ∧
      (∀ x e, answer x = .error e ↔ x = .error e ∨ ∃ vs, x = .ok vs ∧
        ((vs.length ≠ 2 * batch.length ∧ e = .response "eth_getBalance" ("Expected " ++
            Nat.repr (2 * batch.length) ++ " results, got " ++ Nat.repr vs.length)) ∨
          (vs.length = 2 * batch.length ∧ ∃ i < batch.length,
            (∀ j < i, ∃ d, AccountPairReads vs j d) ∧ AccountPairFails vs i e)))) ∧
    ∀ (addresses : List Address) (batchSize concurrency : Nat) (w w' : σ) (e : StateError),
      Ends w ((accountFetcher accounts).fetchInBatches api block addresses batchSize concurrency)
        w' (.error e) →
      (∃ C ∈ batchesOf addresses batchSize, ∃ ce, e = .client ("fetching the details of " ++
        Nat.repr C.length ++ " entities at block " ++ Nat.repr block) ce) ∧
      ∀ k m, e ≠ .client ("fetching entity details at block " ++ Nat.repr block)
        (.response "batch" ("Expected details for " ++ Nat.repr k ++ " entities, got " ++
          Nat.repr m)) := by
  refine ⟨⟨length_flatMap_accountCalls _ batch, fun i hi => ?_⟩,
    ⟨accountBatchAnswer batch.length, accountFetcher_fetchBatch_eq accounts api block batch,
      fun _ _ => accountBatchAnswer_eq_ok_iff, fun _ _ => accountBatchAnswer_eq_error_iff⟩,
    fun addresses batchSize concurrency w w' e h => ?_⟩
  · obtain ⟨hbal, hnon⟩ := getElem?_flatMap_accountCalls (blockTag (some block)) batch i
    rw [List.getElem?_eq_getElem hi, Option.map_some] at hbal hnon
    exact ⟨hbal, hnon⟩
  · obtain ⟨C, hC, ce, rfl⟩ := accountFetcher_fetchInBatches_error h
    refine ⟨⟨C, hC, ce, rfl⟩, fun k m heq => ?_⟩
    exact fetchContext_ne_countContext _ _ _ (StateError.client.inj heq).1

/-- A node that drops the last result of a batch fails the batch's call by its count, and the
read fails with that call, not with the count check. -/
theorem dropped_result_fails_the_call :
    let w := World.start ⟨{ batchDrop := 1 }, none⟩ ⟨{}, none⟩
    let read := (accountFetcher [Address.ofNat 1]).fetchInBatches (World.executionApi .primary) 7
      [Address.ofNat 1] 2 1
    let e := StateError.client "fetching the details of 1 entities at block 7"
      (.response "eth_getBalance" "Expected 2 results, got 1")
    Ends w read (run 100 w read).1 (.error e) ∧
      (∃ C ∈ batchesOf [Address.ofNat 1] 2, ∃ ce, e = .client ("fetching the details of " ++
        Nat.repr C.length ++ " entities at block " ++ Nat.repr 7) ce) ∧
      ∀ k m, e ≠ .client ("fetching entity details at block " ++ Nat.repr 7)
        (.response "batch" ("Expected details for " ++ Nat.repr k ++ " entities, got " ++
          Nat.repr m)) := by
  intro w read e
  have h : Ends w read (run 100 w read).1 (.error e) := ends_of_run_snd 100 (by with_unfolding_all rfl)
  exact ⟨h, (accountFetcher_reads_accounts_in_pairs [Address.ofNat 1] (World.executionApi .primary)
    7 [Address.ofNat 1]).2.2 _ _ _ _ _ _ h⟩

end ChainWatch
