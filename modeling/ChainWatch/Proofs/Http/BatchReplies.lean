import ChainWatch.Http.Execution
import ChainWatch.Proofs.Wire.Record

/-!
# Replies to a batch are matched by id

A batch of calls to an execution node is posted as one array of requests with ids counted from
zero, and the replies, in any order, are matched back to the calls by id. This module says what
the matching gives for every array of replies a node can send, whatever the order of its ids,
repeats, gaps and strangers included:

* `ExecutionNode.matchReplies_eq_ok_iff`: the results are read exactly when every call has a
  reply whose last one carries no error object, the result of call `i` being that reply's
  result, `null` when it has none (`RepliedOk`);
* `ExecutionNode.matchReplies_eq_error_iff`: otherwise the first call in order without such a
  reply fails the batch: with a missing response naming the call, or with the error object of
  its last reply, which wins over a result (`CallFails`);
* `ExecutionNode.matchReplies_congr`: the matching reads the replies only through the last reply
  for each call's id, so it is the same for every order of replies with distinct ids
  (`ExecutionNode.matchReplies_perm`) and ignores replies to ids that were never sent
  (`ExecutionNode.matchReplies_filter_sent`);
* `ExecutionNode.batchRequest_eq`: a batch that is not empty is one request, whose body is the
  array of the calls with their ids, and then a computation on its answer alone
  (`ExecutionNode.batchAnswer`); an empty batch sends nothing.

`ExecutionNode.batchRequest_matches_replies_by_id` puts these together.
-/

namespace ChainWatch

/-! ### Fibers -/

theorem Fiber.bind_assoc {σ α β γ : Type} (p : Fiber σ α) (f : α → Fiber σ β)
    (g : β → Fiber σ γ) :
    Fiber.bind (Fiber.bind p f) g = Fiber.bind p fun a => Fiber.bind (f a) g := by
  induction p with
  | done a => rfl
  | read k ih => exact congrArg Fiber.read (funext ih)
  | update h n ih => exact congrArg (Fiber.update h) ih
  | block wt n ih => exact congrArg (Fiber.block wt) ih

/-! ### Matching replies to calls -/

/-- Call `id` of a batch is answered without an error object: the last reply with its id has
none. -/
def RepliedOk (R : List (RpcReply Json)) (id : Nat) : Prop :=
  ∃ reply, (R.filter (·.id = id)).getLast? = some reply ∧ reply.error = none

/-- The call `c` numbered `id` fails the batch `endpoint` with `e`: no reply has its id, and the
response names the call, or the last reply with its id carries an error object, which fails the
call with its code and message. -/
def CallFails (endpoint : String) (R : List (RpcReply Json)) (id : Nat) (c : RpcCall)
    (e : ClientError) : Prop :=
  ((R.filter (·.id = id)).getLast? = none ∧ e = .response endpoint
    ("Missing response for call " ++ Nat.repr id ++ " (" ++ c.method ++ ")")) ∨
  ∃ reply f, (R.filter (·.id = id)).getLast? = some reply ∧ reply.error = some f ∧
    e = .rpc c.method f.code f.message

namespace ExecutionNode

variable {endpoint : String} {R : List (RpcReply Json)}

/-- What call `c`, numbered `id`, reads from the replies `R`: a missing response naming the call
when no reply has its id, the error object of its last reply, or that reply's result, `null` when
it has none. -/
def callAnswer (endpoint : String) (R : List (RpcReply Json)) (id : Nat) (c : RpcCall) :
    Except ClientError Json :=
  match (R.filter (·.id = id)).getLast? with
  | none => .error (.response endpoint
      ("Missing response for call " ++ Nat.repr id ++ " (" ++ c.method ++ ")"))
  | some reply => match reply.outcome with
    | .error f => .error (.rpc c.method f.code f.message)
    | .ok r => .ok (r.getD .null)

section Calls

variable {id : Nat} {c : RpcCall} {rest : List (Nat × RpcCall)} {reply : RpcReply Json}

theorem callAnswer_none (h : (R.filter (·.id = id)).getLast? = none) :
    callAnswer endpoint R id c = .error (.response endpoint
      ("Missing response for call " ++ Nat.repr id ++ " (" ++ c.method ++ ")")) := by
  rw [callAnswer, h]

theorem callAnswer_fault {f : RpcFault} (h : (R.filter (·.id = id)).getLast? = some reply)
    (hf : reply.error = some f) :
    callAnswer endpoint R id c = .error (.rpc c.method f.code f.message) := by
  rw [callAnswer, h]
  simp only [RpcReply.outcome, hf]

theorem callAnswer_ok (h : (R.filter (·.id = id)).getLast? = some reply)
    (hf : reply.error = none) :
    callAnswer endpoint R id c = .ok (reply.result.getD .null) := by
  rw [callAnswer, h]
  simp only [RpcReply.outcome, hf]

/-- A call reads a result exactly when its last reply carries no error object. -/
theorem callAnswer_eq_ok_iff {v : Json} :
    callAnswer endpoint R id c = .ok v ↔ ∃ reply, (R.filter (·.id = id)).getLast? = some reply ∧
      reply.error = none ∧ v = reply.result.getD .null := by
  -- `rcases` leaves the last reply under the binder of the statement; `simp only [h]` rewrites it
  rcases h : (R.filter (·.id = id)).getLast? with _ | reply
  · simp only [h]
    simp [callAnswer_none h]
  rcases hf : reply.error with _ | f
  · simp only [h]
    simp [callAnswer_ok h hf, hf, eq_comm]
  · simp only [h]
    simp [callAnswer_fault h hf, hf]

theorem callAnswer_eq_error_iff {e : ClientError} :
    callAnswer endpoint R id c = .error e ↔ CallFails endpoint R id c e := by
  rcases h : (R.filter (·.id = id)).getLast? with _ | reply
  · simp only [CallFails, h]
    simp [callAnswer_none h, eq_comm]
  rcases hf : reply.error with _ | f
  · simp only [CallFails, h]
    simp [callAnswer_ok h hf, hf]
  · simp only [CallFails, h]
    simp [callAnswer_fault h hf, hf, eq_comm]

theorem repliedOk_iff (endpoint : String) (c : RpcCall) :
    RepliedOk R id ↔ ∃ v, callAnswer endpoint R id c = .ok v := by
  simp [RepliedOk, callAnswer_eq_ok_iff]

/-- The calls are read in order, each from its own replies. -/
theorem matchReplies_cons :
    matchReplies endpoint R ((id, c) :: rest) =
      (callAnswer endpoint R id c).bind fun v => (matchReplies endpoint R rest).map (v :: ·) := by
  rw [matchReplies, callAnswer]
  cases (R.filter (·.id = id)).getLast? with
  | none => rfl
  | some reply =>
    dsimp only
    cases reply.outcome <;> rfl

/-- A call that does not read fails the batch with its failure. -/
theorem matchReplies_call_error {e : ClientError} (h : callAnswer endpoint R id c = .error e) :
    matchReplies endpoint R ((id, c) :: rest) = .error e := by
  rw [matchReplies_cons, h]
  rfl

/-- A call that reads puts its result in front of the results of the rest. -/
theorem matchReplies_call_ok {v : Json} (h : callAnswer endpoint R id c = .ok v) :
    matchReplies endpoint R ((id, c) :: rest) = (matchReplies endpoint R rest).map (v :: ·) := by
  rw [matchReplies_cons, h]
  rfl

end Calls

/-- **The results are read exactly when every call has a reply without an error object**, the
result of each call being the result of its last reply, `null` when it has none. -/
theorem matchReplies_eq_ok_iff : ∀ {ps : List (Nat × RpcCall)} {V : List Json},
    matchReplies endpoint R ps = .ok V ↔ V.length = ps.length ∧
      ∀ i (hi : i < ps.length), ∃ reply, (R.filter (·.id = ps[i].1)).getLast? = some reply ∧
        reply.error = none ∧ V[i]? = some (reply.result.getD .null)
  | [], V => by
    rw [matchReplies, Except.ok.injEq, eq_comm, ← List.length_eq_zero_iff]
    simp
  | (id, c) :: rest, V => by
    rcases hp : callAnswer endpoint R id c with e | v
    · -- the first call fails, so there is no first result
      rw [matchReplies_call_error hp]
      simp only [reduceCtorEq, false_iff, not_and]
      intro _ hall
      obtain ⟨reply, hreply, hnone, -⟩ := hall 0 (Nat.succ_pos _)
      have h0 : callAnswer endpoint R id c = .ok _ :=
        callAnswer_eq_ok_iff.mpr ⟨reply, hreply, hnone, rfl⟩
      rw [hp] at h0
      cases h0
    obtain ⟨reply, hreply, hnone, rfl⟩ := callAnswer_eq_ok_iff.mp hp
    rw [matchReplies_call_ok hp, Except.map_eq_ok]
    constructor
    · rintro ⟨more, hmore, rfl⟩
      obtain ⟨hlen, hall⟩ := matchReplies_eq_ok_iff.mp hmore
      refine ⟨by simp [hlen], fun i hi => ?_⟩
      cases i with
      | zero => exact ⟨reply, hreply, hnone, rfl⟩
      | succ i => exact hall i (by simpa using hi)
    · rintro ⟨hlen, hall⟩
      cases V with
      | nil => simp at hlen
      | cons v more =>
        -- the first result is that of the first call's reply, the others those of the rest
        obtain ⟨reply', hreply', -, hv⟩ := hall 0 (Nat.succ_pos _)
        simp only [List.getElem_cons_zero, hreply, Option.some.injEq] at hreply'
        subst hreply'
        have hrest : matchReplies endpoint R rest = .ok more :=
          matchReplies_eq_ok_iff.mpr ⟨by simpa using hlen, fun i hi => hall (i + 1) (by simpa using hi)⟩
        simp only [List.getElem?_cons_zero, Option.some.injEq] at hv
        exact ⟨more, hrest, by rw [hv]⟩

/-- **Otherwise the first call without a reply free of error objects fails the batch**, every
call before it having one. -/
theorem matchReplies_eq_error_iff : ∀ {ps : List (Nat × RpcCall)} {e : ClientError},
    matchReplies endpoint R ps = .error e ↔ ∃ (i : Nat) (hi : i < ps.length),
      (∀ j (hj : j < i), RepliedOk R ps[j].1) ∧ CallFails endpoint R ps[i].1 ps[i].2 e
  | [], e => by
    rw [matchReplies]
    simp
  | (id, c) :: rest, e => by
    rcases hp : callAnswer endpoint R id c with e' | v
    · -- the first call fails, and no call before it
      rw [matchReplies_call_error hp, Except.error.injEq]
      constructor
      · rintro rfl
        exact ⟨0, Nat.succ_pos _, fun j hj => absurd hj (Nat.not_lt_zero j),
          callAnswer_eq_error_iff.mp hp⟩
      · rintro ⟨i, hi, hbefore, hfails⟩
        cases i with
        | zero =>
          have h0 : callAnswer endpoint R id c = .error e := callAnswer_eq_error_iff.mpr hfails
          rw [hp] at h0
          exact Except.error.inj h0
        | succ i =>
          obtain ⟨v, hv⟩ : ∃ v, callAnswer endpoint R id c = .ok v :=
            (repliedOk_iff endpoint c).mp (hbefore 0 (Nat.succ_pos i))
          rw [hp] at hv
          cases hv
    -- the first call reads, so the failure is one of the rest, shifted by one
    rw [matchReplies_call_ok hp, Except.map_eq_error, matchReplies_eq_error_iff]
    constructor
    · rintro ⟨i, hi, hbefore, hfails⟩
      refine ⟨i + 1, by simpa using hi, fun j hj => ?_, hfails⟩
      cases j with
      | zero => exact (repliedOk_iff endpoint c).mpr ⟨v, hp⟩
      | succ j => exact hbefore j (by omega)
    · rintro ⟨i, hi, hbefore, hfails⟩
      cases i with
      | zero =>
        have h0 : callAnswer endpoint R id c = .error e := callAnswer_eq_error_iff.mpr hfails
        rw [hp] at h0
        cases h0
      | succ i => exact ⟨i, by simpa using hi, fun j hj => hbefore (j + 1) (by omega), hfails⟩

/-! ### What the matching depends on -/

/-- **The matching reads the replies only through the last reply for each call's id.** -/
theorem matchReplies_congr {R' : List (RpcReply Json)} : ∀ {ps : List (Nat × RpcCall)},
    (∀ p ∈ ps, (R.filter (·.id = p.1)).getLast? = (R'.filter (·.id = p.1)).getLast?) →
      matchReplies endpoint R ps = matchReplies endpoint R' ps
  | [], _ => rfl
  | (id, c) :: rest, h => by
    have hid : (R.filter (·.id = id)).getLast? = (R'.filter (·.id = id)).getLast? :=
      h (id, c) List.mem_cons_self
    have hrest := matchReplies_congr fun p hp => h p (List.mem_cons_of_mem _ hp)
    rw [matchReplies, matchReplies, hid, hrest]

/-- Replies with distinct ids hold at most one reply for each id, so every order of them holds
the same replies for each id. -/
theorem filter_id_eq_of_perm {R' : List (RpcReply Json)} (hperm : R.Perm R')
    (hnodup : (R.map (·.id)).Nodup) (id : Nat) : R.filter (·.id = id) = R'.filter (·.id = id) := by
  have hsub : ((R.filter (·.id = id)).map (·.id)).Nodup :=
    hnodup.sublist (List.filter_sublist.map _)
  have hrep : (R.filter (·.id = id)).map (·.id) =
      List.replicate (R.filter (·.id = id)).length id := by
    refine List.eq_replicate_iff.mpr ⟨List.length_map .., fun b hb => ?_⟩
    obtain ⟨r, hr, rfl⟩ := List.mem_map.mp hb
    simpa using (List.mem_filter.mp hr).2
  rw [hrep, List.nodup_replicate] at hsub
  have hp := hperm.filter (fun r : RpcReply Json => decide (r.id = id))
  -- a list of at most one reply is the only arrangement of itself
  rcases (show (R.filter (·.id = id)).length = 0 ∨ (R.filter (·.id = id)).length = 1 by omega)
    with h0 | h1
  · rw [List.length_eq_zero_iff] at h0
    rw [h0] at hp ⊢
    exact hp.nil_eq
  · obtain ⟨r, hr⟩ := List.length_eq_one_iff.mp h1
    rw [hr] at hp ⊢
    exact hp.symm.eq_singleton.symm

/-- Any order of replies with distinct ids gives the same outcome. -/
theorem matchReplies_perm {R' : List (RpcReply Json)} (hperm : R.Perm R')
    (hnodup : (R.map (·.id)).Nodup) (ps : List (Nat × RpcCall)) :
    matchReplies endpoint R ps = matchReplies endpoint R' ps :=
  matchReplies_congr fun p _ => by rw [filter_id_eq_of_perm hperm hnodup]

/-- Replies to ids that were never sent are ignored. -/
theorem matchReplies_filter_sent {n : Nat} {ps : List (Nat × RpcCall)}
    (hps : ∀ p ∈ ps, p.1 < n) :
    matchReplies endpoint (R.filter (·.id < n)) ps = matchReplies endpoint R ps :=
  matchReplies_congr fun p hp => by
    rw [List.filter_filter]
    congr 1
    refine List.filter_congr fun r _ => ?_
    by_cases hr : r.id = p.1
    · simp [hr, hps p hp]
    · simp [hr]

/-! ### The calls numbered from zero -/

section Numbered

variable {calls : List RpcCall}

theorem matchReplies_numbered_eq_ok_iff {V : List Json} :
    matchReplies endpoint R (calls.zipIdx.map fun (c, i) => (i, c)) = .ok V ↔
      V.length = calls.length ∧ ∀ i < calls.length, ∃ reply,
        (R.filter (·.id = i)).getLast? = some reply ∧ reply.error = none ∧
          V[i]? = some (reply.result.getD .null) := by
  rw [matchReplies_eq_ok_iff]
  simp [List.getElem_zipIdx]

theorem matchReplies_numbered_eq_error_iff {e : ClientError} :
    matchReplies endpoint R (calls.zipIdx.map fun (c, i) => (i, c)) = .error e ↔
      ∃ (i : Nat) (hi : i < calls.length),
        (∀ j < i, RepliedOk R j) ∧ CallFails endpoint R i calls[i] e := by
  rw [matchReplies_eq_error_iff]
  simp [List.getElem_zipIdx]

/-- Every call is numbered below the number of calls. -/
theorem lt_of_mem_numbered {p : Nat × RpcCall} (hp : p ∈ calls.zipIdx.map fun (c, i) => (i, c)) :
    p.1 < calls.length := by
  obtain ⟨⟨c, i⟩, hmem, rfl⟩ := List.mem_map.mp hp
  simpa using (List.mem_zipIdx hmem).2.1

end Numbered

/-! ### The request and its answer -/

/-- What a post gives once the transport answered `x`: a failed request, a status outside
`2xx`, a body that does not read with `d`, or what `d` read. -/
def postAnswer {α : Type} (endpoint : String) (d : Decoder α) :
    Except SendError HttpResponse → Except ClientError α
  | .error e => .error (.request endpoint e.message)
  | .ok r =>
    if !BeaconNode.isSuccess r.status then
      .error (.request endpoint ("Request not successful, got HTTP code " ++ Nat.repr r.status))
    else match BeaconNode.readBody d r.body with
      | some a => .ok a
      | none => .error (.response endpoint BeaconNode.undecodable)

/-- **A post is one request and a computation on its answer alone.** -/
theorem post_eq {σ α : Type} (node : ExecutionNode) (transport : Transport σ) (endpoint : String)
    (body : Json) (d : Decoder α) :
    node.post transport endpoint body d =
      Fiber.bind (transport
          { method := .post, url := node.address, accept := none,
            contentType := some "application/json", body := some body, timeoutMs := node.timeoutMs })
        fun x => .done (postAnswer endpoint d x) := by
  show Fiber.bind _ _ = Fiber.bind _ _
  congr 1
  funext x
  rcases x with e | r
  · rfl
  · dsimp only [postAnswer]
    by_cases hs : BeaconNode.isSuccess r.status = true
    · simp only [hs, Bool.not_true, Bool.false_eq_true, if_false]
      cases BeaconNode.readBody d r.body <;> rfl
    · simp only [hs, Bool.not_false, if_true]

/-- Reads a JSON array of replies whose results are any JSON value. -/
def replyListDecoder : Decoder (List (RpcReply Json)) := fun j => match j with
  | .arr items => items.mapM (RpcReply.decoder Decoder.json)
  | other => .error (Decoder.refuse "a sequence" other)

/-- What a batch of calls gives once the transport answered `x`: the failure of the post, or the
replies it read matched to the calls numbered from zero. -/
def batchAnswer (calls : List RpcCall) (x : Except SendError HttpResponse) :
    Except ClientError (List Json) :=
  match postAnswer ("batch of " ++ Nat.repr calls.length ++ " calls") replyListDecoder x with
  | .error e => .error e
  | .ok rs => matchReplies ("batch of " ++ Nat.repr calls.length ++ " calls") rs
      (calls.zipIdx.map fun (c, i) => (i, c))

/-- **A batch that is not empty is one request and a computation on its answer alone**: a post
of the array of the calls with ids counted from zero. -/
theorem batchRequest_eq {σ : Type} (node : ExecutionNode) (transport : Transport σ)
    {calls : List RpcCall} (hne : calls ≠ []) :
    node.batchRequest transport calls =
      Fiber.bind (transport
          { method := .post, url := node.address, accept := none,
            contentType := some "application/json",
            body := some (.arr (calls.mapIdx fun i c => c.request i)), timeoutMs := node.timeoutMs })
        fun x => .done (batchAnswer calls x) := by
  have hempty : calls.isEmpty = false := List.isEmpty_eq_false_iff.mpr hne
  rw [batchRequest, hempty, if_neg Bool.false_ne_true]
  dsimp only
  rw [post_eq, Fiber.bind_assoc, List.mapIdx_eq_zipIdx_map, List.map_map]
  congr 1
  funext x
  rcases hx : postAnswer ("batch of " ++ Nat.repr calls.length ++ " calls") replyListDecoder x
    with e | rs
  · -- the decoder of the batch is `replyListDecoder`, written in place
    show Fiber.bind (.done (postAnswer _ replyListDecoder x)) _ = _
    rw [hx]
    simp only [batchAnswer, hx]
    rfl
  · show Fiber.bind (.done (postAnswer _ replyListDecoder x)) _ = _
    rw [hx]
    simp only [batchAnswer, hx]
    rfl

/-- An empty batch sends nothing. -/
theorem batchRequest_nil {σ : Type} (node : ExecutionNode) (transport : Transport σ) :
    node.batchRequest transport [] = .done (.ok []) := rfl

/-- A response that carries the replies `R`: a success whose body is a JSON array of replies. -/
def CarriesReplies (resp : HttpResponse) (R : List (RpcReply Json)) : Prop :=
  BeaconNode.isSuccess resp.status = true ∧ ∃ items, Json.parse resp.body = some (.arr items) ∧
    items.mapM (RpcReply.decoder Decoder.json) = .ok R

/-- A success whose body reads as replies with the batch's decoder carries them. -/
theorem carriesReplies_of_readBody {resp : HttpResponse} (hs : BeaconNode.isSuccess resp.status = true)
    (h : BeaconNode.readBody replyListDecoder resp.body = some R) : CarriesReplies resp R := by
  rw [BeaconNode.readBody] at h
  rcases hp : Json.parse resp.body with _ | j
  · rw [hp] at h
    cases h
  rw [hp] at h
  -- only an array reads as replies
  cases j with
  | arr items =>
    refine ⟨hs, items, hp, ?_⟩
    dsimp only [replyListDecoder] at h
    rcases hitems : items.mapM (RpcReply.decoder Decoder.json) with e | rs
    · rw [hitems] at h
      cases h
    · rw [hitems] at h
      cases h
      rfl
  | _ => cases h

/-- A response that carries replies has them matched to the calls. -/
theorem batchAnswer_of_carries {calls : List RpcCall} {resp : HttpResponse}
    (h : CarriesReplies resp R) :
    batchAnswer calls (.ok resp) = matchReplies ("batch of " ++ Nat.repr calls.length ++ " calls") R
      (calls.zipIdx.map fun (c, i) => (i, c)) := by
  obtain ⟨hs, items, hparse, hitems⟩ := h
  have hread : BeaconNode.readBody replyListDecoder resp.body = some R := by
    rw [BeaconNode.readBody, hparse]
    dsimp only [replyListDecoder]
    rw [hitems]
  simp only [batchAnswer, postAnswer, hs, Bool.not_true, Bool.false_eq_true, if_false, hread]

/-- **Replies to a batch are matched by id, not by position.** An empty batch sends nothing and
gives no results. A batch that is not empty is one post of the array of its calls with ids
counted from zero, and then a computation on the answer alone. When the answer is a success whose
body is an array of replies `R`, in any order and with any ids, the results are read exactly when
every call has a reply whose last one carries no error object, the result of call `i` being that
reply's result, `null` when it has none; otherwise the first call without one fails the batch,
with a missing response naming it or with the error object of its last reply. The outcome is the
same for every order of replies with distinct ids, and replies to ids never sent are ignored. -/
theorem batchRequest_matches_replies_by_id {σ : Type} (node : ExecutionNode)
    (transport : Transport σ) :
    node.batchRequest transport [] = .done (.ok []) ∧
    ∀ calls : List RpcCall, calls ≠ [] →
      ∃ answer : Except SendError HttpResponse → Except ClientError (List Json),
        node.batchRequest transport calls =
          Fiber.bind (transport
              { method := .post, url := node.address, accept := none,
                contentType := some "application/json",
                body := some (.arr (calls.mapIdx fun i c => c.request i)),
                timeoutMs := node.timeoutMs })
            (fun x => .done (answer x)) ∧
        ∀ (resp : HttpResponse) (R : List (RpcReply Json)), CarriesReplies resp R →
          (∀ V, answer (.ok resp) = .ok V ↔ V.length = calls.length ∧ ∀ i < calls.length,
            ∃ reply, (R.filter (·.id = i)).getLast? = some reply ∧ reply.error = none ∧
              V[i]? = some (reply.result.getD .null)) ∧
          (∀ e, answer (.ok resp) = .error e ↔ ∃ (i : Nat) (hi : i < calls.length),
            (∀ j < i, RepliedOk R j) ∧
              CallFails ("batch of " ++ Nat.repr calls.length ++ " calls") R i calls[i] e) ∧
          (∀ resp' R', CarriesReplies resp' R' → R.Perm R' → (R.map (·.id)).Nodup →
            answer (.ok resp') = answer (.ok resp)) ∧
          (∀ resp' R', CarriesReplies resp' R' →
            R'.filter (·.id < calls.length) = R.filter (·.id < calls.length) →
            answer (.ok resp') = answer (.ok resp)) := by
  refine ⟨batchRequest_nil node transport, fun calls hne =>
    ⟨batchAnswer calls, batchRequest_eq node transport hne, fun resp R hR => ?_⟩⟩
  rw [batchAnswer_of_carries hR]
  refine ⟨fun _ => matchReplies_numbered_eq_ok_iff, fun _ => matchReplies_numbered_eq_error_iff,
    fun resp' R' hR' hperm hnodup => ?_, fun resp' R' hR' hsent => ?_⟩
  · rw [batchAnswer_of_carries hR', matchReplies_perm hperm hnodup]
  · have hsentIds := fun p (hp : p ∈ calls.zipIdx.map fun (c, i) => (i, c)) => lt_of_mem_numbered hp
    rw [batchAnswer_of_carries hR', ← matchReplies_filter_sent hsentIds, hsent,
      matchReplies_filter_sent hsentIds]

/-- A node that answers a batch of two calls with the error object for the second call first and
the plain reply to the first call after it fails the second call with that error: the first call
is answered by its own id, not by the position of the replies. -/
theorem error_reply_fails_its_own_call :
    let calls : List RpcCall := [⟨"eth_getBalance", .arr []⟩, ⟨"eth_getTransactionCount", .arr []⟩]
    let node : ExecutionNode := ⟨"http://127.0.0.1:8545", 1000⟩
    ∃ answer : Except SendError HttpResponse → Except ClientError (List Json),
      node.batchRequest (Transport.unreachable : Transport Unit) calls =
        Fiber.bind (Transport.unreachable
            { method := .post, url := node.address, accept := none,
              contentType := some "application/json",
              body := some (.arr (calls.mapIdx fun i c => c.request i)),
              timeoutMs := node.timeoutMs })
          (fun x => .done (answer x)) ∧
      answer (.ok ⟨200, "[\x7b\"id\":1,\"error\":\x7b\"code\":-32000,\"message\":\"m\"\x7d\x7d,\x7b\"id\":0\x7d]"⟩) =
        .error (.rpc "eth_getTransactionCount" (-32000) "m") := by
  intro calls node
  obtain ⟨answer, heq, hspec⟩ :=
    (batchRequest_matches_replies_by_id node (Transport.unreachable : Transport Unit)).2 calls
      (by simp [calls])
  refine ⟨answer, heq, ?_⟩
  -- the body reads as the two replies, the error object first
  have hproj : (BeaconNode.readBody replyListDecoder
      "[\x7b\"id\":1,\"error\":\x7b\"code\":-32000,\"message\":\"m\"\x7d\x7d,\x7b\"id\":0\x7d]").map
        (fun rs => rs.map fun r => (r.id, r.result.isSome, r.error)) =
      some [(1, false, some ⟨-32000, "m"⟩), (0, false, none)] := by decide +kernel
  obtain ⟨rs, hrs, hmap⟩ := Option.map_eq_some_iff.mp hproj
  -- the replies read are the two of the body, in its order
  have hR : rs = [⟨1, none, some ⟨-32000, "m"⟩⟩, ⟨0, none, none⟩] := by
    have hlen := congrArg List.length hmap
    simp only [List.length_map, List.length_cons, List.length_nil] at hlen
    obtain ⟨⟨id₁, res₁, err₁⟩, ⟨id₂, res₂, err₂⟩, rfl⟩ := List.length_eq_two.mp hlen
    simp only [List.map_cons, List.map_nil, List.cons.injEq, Prod.mk.injEq,
      Option.isSome_eq_false_iff, Option.isNone_iff_eq_none, and_true] at hmap
    obtain ⟨⟨rfl, rfl, rfl⟩, rfl, rfl, rfl⟩ := hmap
    rfl
  subst hR
  have hcarry : CarriesReplies
      ⟨200, "[\x7b\"id\":1,\"error\":\x7b\"code\":-32000,\"message\":\"m\"\x7d\x7d,\x7b\"id\":0\x7d]"⟩
      [⟨1, none, some ⟨-32000, "m"⟩⟩, ⟨0, none, none⟩] :=
    carriesReplies_of_readBody (by decide) hrs
  refine ((hspec _ _ hcarry).2.1 _).mpr ⟨1, by decide, fun j hj => ?_, .inr ⟨_, _, rfl, rfl, rfl⟩⟩
  obtain rfl : j = 0 := by omega
  exact ⟨_, rfl, rfl⟩

end ExecutionNode

end ChainWatch
