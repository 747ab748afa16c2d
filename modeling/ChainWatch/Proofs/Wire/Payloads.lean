import ChainWatch.Beacon.Payload
import ChainWatch.Proofs.Wire.Hex
import ChainWatch.Proofs.Wire.Record

/-!
# Payloads read field by field

A beacon node writes each integer of its payloads as a decimal string, and an execution node
writes quantities as `0x` and hexadecimal digits. This module shows that the readers of these
payloads take them field by field into the records they stand for:

* a 64-bit number written in decimal is read back, and a number written as a JSON number where a
  string is expected is refused (`Decoder.quotedU64_repr`, `Decoder.quotedU64_nat`);
* each payload read from an object that repeats no key and whose members are written so is the
  record of those values, whatever other members the object has (`BeaconPayload.genesis_obj` and
  its neighbours), and a decimal field given as a JSON number fails the whole payload
  (`BeaconPayload.genesis_refuses_number` and its neighbours);
* a signed block has an execution block number exactly when it has a fee recipient, whatever
  JSON it is read from (`BeaconPayload.signedBlock_paired`);
* an execution node's header and sync range are read from their quantities, and a truth value for
  the sync state means no sync range (`ExecutionHeader.rpcDecoder_obj`, `syncingDecoder_bool`).

`payloads_read_field_by_field` gathers these.
-/

namespace ChainWatch

/-! ### Decimal strings -/

/-- A decimal digit as `Nat.toDigits 10` writes it is a byte the reader of decimal text takes for
the digit's value. -/
theorem digitByte_decimal : ∀ d : Fin 10,
    48 ≤ digitByte d ∧ digitByte d ≤ 57 ∧ (digitByte d).toNat - 48 = d := by
  decide

/-- Decimal digits are read one at a time, most significant first, as long as the value stays
below `2 ^ 64`. -/
theorem readDigits_digits : ∀ (ns : List Nat) (acc : Nat), (∀ d ∈ ns, d < 10) →
    ns.foldl (fun a d => 10 * a + d) acc < 2 ^ 64 →
    readDigits (ns.map digitByte) acc = .ok (ns.foldl (fun a d => 10 * a + d) acc)
  | [], _, _, _ => rfl
  | d :: rest, acc, hlt, hfit => by
    obtain ⟨hlo, hhi, hval⟩ := digitByte_decimal ⟨d, hlt d List.mem_cons_self⟩
    -- the value read so far is at most the whole value, so neither check refuses it
    have hle : 10 * acc + d ≤ rest.foldl (fun a d => 10 * a + d) (10 * acc + d) := by
      rw [foldl_mul_add_eq_ofDigits]
      exact Nat.le_add_right_of_le (Nat.le_mul_of_pos_left _ (Nat.pow_pos (by decide)))
    rw [List.foldl_cons] at hfit ⊢
    have hfits : ¬(10 * acc ≥ Nat.pow 2 64 ∨ 10 * acc + d ≥ Nat.pow 2 64) := by
      rw [Nat.pow_eq]
      omega
    rw [List.map_cons, readDigits, if_pos ⟨hlo, hhi⟩]
    simp only [hval]
    rw [if_neg hfits]
    exact readDigits_digits rest _ (fun e he => hlt e (List.mem_cons_of_mem d he)) hfit

/-- `Nat.toDigits 10` writes some decimal digits of a number, at least one. -/
theorem toDigits_ten (n : Nat) : ∃ ns, Nat.toDigits 10 n = ns.map Nat.digitChar ∧ ns ≠ [] ∧
    (∀ d ∈ ns, d < 10) ∧ Nat.ofDigits 10 ns.reverse = n := by
  by_cases h0 : n = 0
  · subst h0
    exact ⟨[0], rfl, by simp, by simp, rfl⟩
  · refine ⟨(Nat.digits 10 n).reverse, toDigits_eq_map_digits (by decide) h0, ?_, fun d hd => ?_, ?_⟩
    · exact List.reverse_ne_nil_iff.mpr (Nat.digits_ne_nil_iff_ne_zero.mpr h0)
    · exact Nat.digits_lt_base (by decide) (List.mem_reverse.mp hd)
    · rw [List.reverse_reverse, Nat.ofDigits_digits]

/-- A 64-bit number in decimal is read back. -/
theorem readU64_repr {n : Nat} (hn : n < 2 ^ 64) : readU64 (Nat.repr n) = .ok n := by
  obtain ⟨ns, hns, hne, hdigits, hvalue⟩ := toDigits_ten n
  have hbytes : (Nat.repr n).toUTF8.toList = ns.map digitByte := by
    rw [Nat.repr_eq_ofList_toDigits, hns, toList_toUTF8_ofList,
      flatMap_utf8EncodeChar_digits fun d hd =>
        (digitChar_hex ⟨d, Nat.lt_trans (hdigits d hd) (by decide)⟩).1]
  have hfold : ns.foldl (fun a d => 10 * a + d) 0 = n := by
    rw [foldl_mul_add_eq_ofDigits, hvalue, Nat.mul_zero, Nat.zero_add]
  have hread := readDigits_digits ns 0 hdigits (by rw [hfold]; exact hn)
  -- the text starts with a digit, not with a sign
  obtain ⟨d, rest, rfl⟩ := List.exists_cons_of_ne_nil hne
  have hd : digitByte d ≠ 43 := by
    have := (digitByte_decimal ⟨d, hdigits d List.mem_cons_self⟩).1
    intro h
    rw [h] at this
    exact absurd this (by decide)
  rw [hfold, List.map_cons] at hread
  rw [readU64, hbytes, List.map_cons]
  split
  · rename_i h
    cases h
  · rename_i h
    exact absurd (List.cons.inj h).1 hd
  · rename_i h
    exact absurd (List.cons.inj h).1 hd
  · exact hread

namespace Decoder

/-- **A decimal string is read as its 64-bit number.** -/
theorem quotedU64_repr {n : Nat} (hn : n < 2 ^ 64) : quotedU64 (.str (Nat.repr n)) = .ok n := by
  simp only [quotedU64, string, readU64_repr hn]

/-- A number given as a JSON number where a decimal string is expected is refused. -/
theorem quotedU64_nat (n : Nat) : quotedU64 (.nat n) = .error (.invalidType (.unsigned n) "a string") :=
  rfl

end Decoder

/-- A field read as a decimal string refuses a JSON number. -/
theorem FieldRule.check_quotedU64_nat (name : String) (absence : Absence) (n : Nat) :
    (FieldRule.of name absence Decoder.quotedU64).check (.nat n) ≠ none := by
  simp only [FieldRule.of, Decoder.quotedU64_nat]
  exact Option.some_ne_none _

/-! ### Beacon node payloads -/

namespace BeaconPayload

variable {ms : List (String × Json)}

/-- The payload of a reply is read from its `data` member. -/
theorem dataDecoder_obj {α : Type} {d : Decoder α} {v : Json} {a : α} (hms : (ms.map Prod.fst).Nodup)
    (h : (Json.obj ms).get? "data" = some v) (hd : d v = .ok a) : dataDecoder d (.obj ms) = .ok a := by
  simp only [dataDecoder]
  rw [readRecord_obj_of_metBy hms, Except.ok_bind, fieldOf_of_get? hms d h, hd]
  simpa using FieldRule.metBy_of_get? h hd

theorem genesis_obj {t : Nat} (hms : (ms.map Prod.fst).Nodup) (ht : t < 2 ^ 64)
    (h : (Json.obj ms).get? "genesis_time" = some (.str (Nat.repr t))) : genesis (.obj ms) = .ok t := by
  have hq := Decoder.quotedU64_repr ht
  simp only [genesis]
  rw [readRecord_obj_of_metBy hms, Except.ok_bind, fieldOf_of_get? hms _ h, hq]
  simpa using FieldRule.metBy_of_get? h hq

theorem spec_obj {s e : Nat} (hms : (ms.map Prod.fst).Nodup) (hs : s < 2 ^ 64) (he : e < 2 ^ 64)
    (h₁ : (Json.obj ms).get? "SECONDS_PER_SLOT" = some (.str (Nat.repr s)))
    (h₂ : (Json.obj ms).get? "SLOTS_PER_EPOCH" = some (.str (Nat.repr e))) :
    spec (.obj ms) = .ok ⟨s, e⟩ := by
  have hq₁ := Decoder.quotedU64_repr hs
  have hq₂ := Decoder.quotedU64_repr he
  simp only [spec]
  rw [readRecord_obj_of_metBy hms, Except.ok_bind, fieldOf_of_get? hms _ h₁, hq₁, Except.ok_bind,
    fieldOf_of_get? hms _ h₂, hq₂]
  · rfl
  · simpa using ⟨FieldRule.metBy_of_get? h₁ hq₁, FieldRule.metBy_of_get? h₂ hq₂⟩

theorem checkpoint_obj {e : Nat} (hms : (ms.map Prod.fst).Nodup) (he : e < 2 ^ 64)
    (h : (Json.obj ms).get? "epoch" = some (.str (Nat.repr e))) : checkpoint (.obj ms) = .ok e := by
  have hq := Decoder.quotedU64_repr he
  simp only [checkpoint]
  rw [readRecord_obj_of_metBy hms, Except.ok_bind, fieldOf_of_get? hms _ h, hq]
  simpa using FieldRule.metBy_of_get? h hq

/-- The finality checkpoints are read from the checkpoints of their three members. -/
theorem finalityCheckpoints_obj {vp vc vf : Json} {p c f : Nat} (hms : (ms.map Prod.fst).Nodup)
    (hp : (Json.obj ms).get? "previous_justified" = some vp) (hp' : checkpoint vp = .ok p)
    (hc : (Json.obj ms).get? "current_justified" = some vc) (hc' : checkpoint vc = .ok c)
    (hf : (Json.obj ms).get? "finalized" = some vf) (hf' : checkpoint vf = .ok f) :
    finalityCheckpoints (.obj ms) = .ok ⟨f, c, p⟩ := by
  simp only [finalityCheckpoints]
  rw [readRecord_obj_of_metBy hms, Except.ok_bind, fieldOf_of_get? hms _ hf, hf', Except.ok_bind,
    fieldOf_of_get? hms _ hc, hc', Except.ok_bind, fieldOf_of_get? hms _ hp, hp']
  · rfl
  · simpa using ⟨FieldRule.metBy_of_get? hp hp', FieldRule.metBy_of_get? hc hc',
      FieldRule.metBy_of_get? hf hf'⟩

theorem executionPayload_obj {n : Nat} {v : Json} {a : Address} (hms : (ms.map Prod.fst).Nodup) (hn : n < 2 ^ 64)
    (h₁ : (Json.obj ms).get? "block_number" = some (.str (Nat.repr n)))
    (h₂ : (Json.obj ms).get? "fee_recipient" = some v) (ha : Address.decoder v = .ok a) :
    executionPayload (.obj ms) = .ok (n, a) := by
  have hq := Decoder.quotedU64_repr hn
  simp only [executionPayload]
  rw [readRecord_obj_of_metBy hms, Except.ok_bind, fieldOf_of_get? hms _ h₁, hq, Except.ok_bind,
    fieldOf_of_get? hms _ h₂, ha]
  · rfl
  · simpa using ⟨FieldRule.metBy_of_get? h₁ hq, FieldRule.metBy_of_get? h₂ ha⟩

/-- A body without an execution payload, or with a `null` one, is a block before the merge. -/
theorem blockBody_obj_none (hms : (ms.map Prod.fst).Nodup)
    (h : (Json.obj ms).get? "execution_payload" = none ∨
      (Json.obj ms).get? "execution_payload" = some .null) :
    blockBody (.obj ms) = .ok none := by
  have hnull : Decoder.option executionPayload .null = .ok none := rfl
  have hmet : (FieldRule.of "execution_payload" .defaulted (Decoder.option executionPayload)).MetBy ms := by
    rcases h with h | h
    · exact .inr ⟨h, by decide⟩
    · exact FieldRule.metBy_of_get? h hnull
  simp only [blockBody]
  rw [readRecord_obj_of_metBy hms, Except.ok_bind, fieldOf_of_nodup hms]
  · rcases h with h | h <;> rw [h] <;> rfl
  · simpa using hmet

theorem blockBody_obj_some {v : Json} {x : Nat × Address} (hms : (ms.map Prod.fst).Nodup)
    (h : (Json.obj ms).get? "execution_payload" = some v) (hx : executionPayload v = .ok x) :
    blockBody (.obj ms) = .ok (some x) := by
  -- a payload that is read is not `null`
  have hopt : Decoder.option executionPayload v = .ok (some x) := by
    cases v
    case null => cases hx
    all_goals simp only [Decoder.option, hx]; rfl
  simp only [blockBody]
  rw [readRecord_obj_of_metBy hms, Except.ok_bind, fieldOf_of_get? hms _ h, hopt]
  simpa using FieldRule.metBy_of_get? h hopt

/-- A block message is read from its slot, its proposer and the execution payload of its body. -/
theorem blockMessage_obj {s p : Nat} {vb : Json} {body : Option (Nat × Address)} (hms : (ms.map Prod.fst).Nodup)
    (hs : s < 2 ^ 64) (hp : p < 2 ^ 64) (h₁ : (Json.obj ms).get? "slot" = some (.str (Nat.repr s)))
    (h₂ : (Json.obj ms).get? "proposer_index" = some (.str (Nat.repr p)))
    (h₃ : (Json.obj ms).get? "body" = some vb) (hbody : blockBody vb = .ok body) :
    blockMessage (.obj ms) = .ok ⟨s, p, body.map (·.1), body.map (·.2)⟩ := by
  have hq₁ := Decoder.quotedU64_repr hs
  have hq₂ := Decoder.quotedU64_repr hp
  simp only [blockMessage]
  rw [readRecord_obj_of_metBy hms, Except.ok_bind, fieldOf_of_get? hms _ h₃, hbody, Except.ok_bind,
    fieldOf_of_get? hms _ h₁, hq₁, Except.ok_bind, fieldOf_of_get? hms _ h₂, hq₂]
  · rfl
  · simpa using ⟨FieldRule.metBy_of_get? h₁ hq₁, FieldRule.metBy_of_get? h₂ hq₂,
      FieldRule.metBy_of_get? h₃ hbody⟩

theorem signedBlock_obj {v : Json} {b : BeaconBlock} (hms : (ms.map Prod.fst).Nodup)
    (h : (Json.obj ms).get? "message" = some v)
    (hm : blockMessage v = .ok b) : signedBlock (.obj ms) = .ok b := by
  simp only [signedBlock]
  rw [readRecord_obj_of_metBy hms, Except.ok_bind, fieldOf_of_get? hms _ h, hm]
  simpa using FieldRule.metBy_of_get? h hm

theorem syncing_obj {hs d : Nat} {b : Bool} (hms : (ms.map Prod.fst).Nodup) (hhs : hs < 2 ^ 64) (hd : d < 2 ^ 64)
    (h₁ : (Json.obj ms).get? "head_slot" = some (.str (Nat.repr hs)))
    (h₂ : (Json.obj ms).get? "sync_distance" = some (.str (Nat.repr d)))
    (h₃ : (Json.obj ms).get? "is_syncing" = some (.bool b)) :
    syncing (.obj ms) = .ok ⟨b, hs, d⟩ := by
  have hq₁ := Decoder.quotedU64_repr hhs
  have hq₂ := Decoder.quotedU64_repr hd
  have hb : Decoder.bool (.bool b) = .ok b := rfl
  simp only [syncing]
  rw [readRecord_obj_of_metBy hms, Except.ok_bind, fieldOf_of_get? hms _ h₃, hb, Except.ok_bind,
    fieldOf_of_get? hms _ h₁, hq₁, Except.ok_bind, fieldOf_of_get? hms _ h₂, hq₂]
  · rfl
  · simpa using ⟨FieldRule.metBy_of_get? h₁ hq₁, FieldRule.metBy_of_get? h₂ hq₂,
      FieldRule.metBy_of_get? h₃ hb⟩

/-! ### Numbers where decimal strings belong -/

theorem genesis_refuses_number {n : Nat} (h : (Json.obj ms).get? "genesis_time" = some (.nat n)) :
    ∃ e, genesis (.obj ms) = .error e := by
  simp only [genesis]
  exact readRecord_obj_refused_bind (FieldRule.check_quotedU64_nat _ _ n) h (by rfl)

theorem spec_refuses_number {k : String} {n : Nat} (hk : k ∈ ["SECONDS_PER_SLOT", "SLOTS_PER_EPOCH"])
    (h : (Json.obj ms).get? k = some (.nat n)) : ∃ e, spec (.obj ms) = .error e := by
  simp only [spec]
  rcases List.mem_pair.mp hk with rfl | rfl
  · exact readRecord_obj_refused_bind (FieldRule.check_quotedU64_nat _ _ n) h (by rfl)
  · exact readRecord_obj_refused_bind (FieldRule.check_quotedU64_nat _ _ n) h (by rfl)

theorem checkpoint_refuses_number {n : Nat} (h : (Json.obj ms).get? "epoch" = some (.nat n)) :
    ∃ e, checkpoint (.obj ms) = .error e := by
  simp only [checkpoint]
  exact readRecord_obj_refused_bind (FieldRule.check_quotedU64_nat _ _ n) h (by rfl)

theorem executionPayload_refuses_number {n : Nat}
    (h : (Json.obj ms).get? "block_number" = some (.nat n)) :
    ∃ e, executionPayload (.obj ms) = .error e := by
  simp only [executionPayload]
  exact readRecord_obj_refused_bind (FieldRule.check_quotedU64_nat _ _ n) h (by rfl)

theorem blockMessage_refuses_number {k : String} {n : Nat} (hk : k ∈ ["slot", "proposer_index"])
    (h : (Json.obj ms).get? k = some (.nat n)) : ∃ e, blockMessage (.obj ms) = .error e := by
  simp only [blockMessage]
  rcases List.mem_pair.mp hk with rfl | rfl
  · exact readRecord_obj_refused_bind (FieldRule.check_quotedU64_nat _ _ n) h (by rfl)
  · exact readRecord_obj_refused_bind (FieldRule.check_quotedU64_nat _ _ n) h (by rfl)

theorem syncing_refuses_number {k : String} {n : Nat} (hk : k ∈ ["head_slot", "sync_distance"])
    (h : (Json.obj ms).get? k = some (.nat n)) : ∃ e, syncing (.obj ms) = .error e := by
  simp only [syncing]
  rcases List.mem_pair.mp hk with rfl | rfl
  · exact readRecord_obj_refused_bind (FieldRule.check_quotedU64_nat _ _ n) h (by rfl)
  · exact readRecord_obj_refused_bind (FieldRule.check_quotedU64_nat _ _ n) h (by rfl)

/-! ### Execution payloads come whole -/

theorem dataDecoder_eq_ok {α : Type} {d : Decoder α} {j : Json} {a : α} (h : dataDecoder d j = .ok a) :
    ∃ v, d v = .ok a := by
  simp only [dataDecoder, Except.bind_eq_ok] at h
  obtain ⟨ms, -, hd⟩ := h
  exact ⟨_, hd⟩

theorem blockMessage_paired {j : Json} {b : BeaconBlock} (h : blockMessage j = .ok b) :
    b.executionBlock.isSome = b.feeRecipient.isSome := by
  simp only [blockMessage, Except.bind_eq_ok, Except.pure_eq_ok_iff] at h
  obtain ⟨ms, -, payload, -, s, -, p, -, rfl⟩ := h
  cases payload <;> rfl

/-- **A block has an execution block number exactly when it has a fee recipient**, whatever JSON
it is read from: both come from one execution payload. -/
theorem signedBlock_paired {j : Json} {b : BeaconBlock} (h : dataDecoder signedBlock j = .ok b) :
    b.executionBlock.isSome = b.feeRecipient.isSome := by
  obtain ⟨v, hv⟩ := dataDecoder_eq_ok h
  simp only [signedBlock, Except.bind_eq_ok] at hv
  obtain ⟨ms, -, hm⟩ := hv
  exact blockMessage_paired hm

end BeaconPayload

/-! ### Results of an execution node -/

section Rpc

variable {ms : List (String × Json)}

theorem ExecutionHeader.rpcDecoder_obj {n t : Nat} (hms : (ms.map Prod.fst).Nodup) (hn : n < 2 ^ 64) (ht : t < 2 ^ 64)
    (h₁ : (Json.obj ms).get? "number" = some (.str ("0x" ++ Unexpected.hexDigits n)))
    (h₂ : (Json.obj ms).get? "timestamp" = some (.str ("0x" ++ Unexpected.hexDigits t))) :
    ExecutionHeader.rpcDecoder (.obj ms) = .ok ⟨n, t⟩ := by
  have hq₁ := Decoder.quantity_hexDigits hn
  have hq₂ := Decoder.quantity_hexDigits ht
  simp only [ExecutionHeader.rpcDecoder]
  rw [readRecord_obj_of_metBy hms, Except.ok_bind, fieldOf_of_get? hms _ h₁, hq₁, Except.ok_bind,
    fieldOf_of_get? hms _ h₂, hq₂]
  · rfl
  · simpa using ⟨FieldRule.metBy_of_get? h₁ hq₁, FieldRule.metBy_of_get? h₂ hq₂⟩

theorem SyncProgress.rpcDecoder_obj {a b c : Nat} (hms : (ms.map Prod.fst).Nodup)
    (ha : a < 2 ^ 64) (hb : b < 2 ^ 64) (hc : c < 2 ^ 64)
    (h₁ : (Json.obj ms).get? "startingBlock" = some (.str ("0x" ++ Unexpected.hexDigits a)))
    (h₂ : (Json.obj ms).get? "currentBlock" = some (.str ("0x" ++ Unexpected.hexDigits b)))
    (h₃ : (Json.obj ms).get? "highestBlock" = some (.str ("0x" ++ Unexpected.hexDigits c))) :
    SyncProgress.rpcDecoder (.obj ms) = .ok ⟨a, b, c⟩ := by
  have hq₁ := Decoder.quantity_hexDigits ha
  have hq₂ := Decoder.quantity_hexDigits hb
  have hq₃ := Decoder.quantity_hexDigits hc
  simp only [SyncProgress.rpcDecoder]
  rw [readRecord_obj_of_metBy hms, Except.ok_bind, fieldOf_of_get? hms _ h₁, hq₁, Except.ok_bind,
    fieldOf_of_get? hms _ h₂, hq₂, Except.ok_bind, fieldOf_of_get? hms _ h₃, hq₃]
  · rfl
  · simpa using ⟨FieldRule.metBy_of_get? h₁ hq₁, FieldRule.metBy_of_get? h₂ hq₂,
      FieldRule.metBy_of_get? h₃ hq₃⟩

/-- A sync state that reads as a sync range is that range. -/
theorem syncingDecoder_of_progress {j : Json} {p : SyncProgress} (h : SyncProgress.rpcDecoder j = .ok p) :
    syncingDecoder j = .ok (some p) := by
  simp only [syncingDecoder, Decoder.firstOf, h]
  rfl

/-- A truth value for the sync state means no sync range, whichever it is. -/
theorem syncingDecoder_bool (b : Bool) : syncingDecoder (.bool b) = .ok none :=
  rfl

end Rpc

open BeaconPayload in
/-- **Payloads are read field by field.** A 64-bit number is read from its decimal string and
refused as a JSON number. A beacon node's payloads, in their `data` member, are read from objects
that repeat no key and whose members are so written, whatever other members they have: the genesis time, the timing
parameters, the three finality checkpoints by their epochs, a signed block with the execution
block number and fee recipient of its payload or with neither, and the sync state; a decimal
field given as a JSON number fails its payload, and no block read has one of the execution block
number and the fee recipient without the other. An execution node's header and sync range are
read from their hexadecimal quantities, from objects that repeat no key, and a truth value for
the sync state is no sync range. -/
theorem payloads_read_field_by_field :
    (∀ n, n < 2 ^ 64 → Decoder.quotedU64 (.str (Nat.repr n)) = .ok n) ∧
    (∀ n, Decoder.quotedU64 (.nat n) = .error (.invalidType (.unsigned n) "a string")) ∧
    (∀ {α : Type} (d : Decoder α) ms v a, (ms.map Prod.fst).Nodup → (Json.obj ms).get? "data" = some v → d v = .ok a →
      dataDecoder d (.obj ms) = .ok a) ∧
    (∀ ms t, (ms.map Prod.fst).Nodup → t < 2 ^ 64 → (Json.obj ms).get? "genesis_time" = some (.str (Nat.repr t)) →
      genesis (.obj ms) = .ok t) ∧
    (∀ ms s e, (ms.map Prod.fst).Nodup → s < 2 ^ 64 → e < 2 ^ 64 →
      (Json.obj ms).get? "SECONDS_PER_SLOT" = some (.str (Nat.repr s)) →
      (Json.obj ms).get? "SLOTS_PER_EPOCH" = some (.str (Nat.repr e)) → spec (.obj ms) = .ok ⟨s, e⟩) ∧
    (∀ ms e, (ms.map Prod.fst).Nodup → e < 2 ^ 64 → (Json.obj ms).get? "epoch" = some (.str (Nat.repr e)) →
      checkpoint (.obj ms) = .ok e) ∧
    (∀ ms vp vc vf p c f, (ms.map Prod.fst).Nodup → (Json.obj ms).get? "previous_justified" = some vp → checkpoint vp = .ok p →
      (Json.obj ms).get? "current_justified" = some vc → checkpoint vc = .ok c →
      (Json.obj ms).get? "finalized" = some vf → checkpoint vf = .ok f →
      finalityCheckpoints (.obj ms) = .ok ⟨f, c, p⟩) ∧
    (∀ ms n v a, (ms.map Prod.fst).Nodup → n < 2 ^ 64 → (Json.obj ms).get? "block_number" = some (.str (Nat.repr n)) →
      (Json.obj ms).get? "fee_recipient" = some v → Address.decoder v = .ok a →
      executionPayload (.obj ms) = .ok (n, a)) ∧
    (∀ ms, (ms.map Prod.fst).Nodup → ((Json.obj ms).get? "execution_payload" = none ∨
      (Json.obj ms).get? "execution_payload" = some .null) → blockBody (.obj ms) = .ok none) ∧
    (∀ ms v x, (ms.map Prod.fst).Nodup → (Json.obj ms).get? "execution_payload" = some v → executionPayload v = .ok x →
      blockBody (.obj ms) = .ok (some x)) ∧
    (∀ ms s p vb body, (ms.map Prod.fst).Nodup → s < 2 ^ 64 → p < 2 ^ 64 → (Json.obj ms).get? "slot" = some (.str (Nat.repr s)) →
      (Json.obj ms).get? "proposer_index" = some (.str (Nat.repr p)) →
      (Json.obj ms).get? "body" = some vb → blockBody vb = .ok body →
      blockMessage (.obj ms) = .ok ⟨s, p, body.map (·.1), body.map (·.2)⟩) ∧
    (∀ ms v b, (ms.map Prod.fst).Nodup → (Json.obj ms).get? "message" = some v → blockMessage v = .ok b →
      signedBlock (.obj ms) = .ok b) ∧
    (∀ j b, dataDecoder signedBlock j = .ok b → b.executionBlock.isSome = b.feeRecipient.isSome) ∧
    (∀ ms hs d b, (ms.map Prod.fst).Nodup → hs < 2 ^ 64 → d < 2 ^ 64 →
      (Json.obj ms).get? "head_slot" = some (.str (Nat.repr hs)) →
      (Json.obj ms).get? "sync_distance" = some (.str (Nat.repr d)) →
      (Json.obj ms).get? "is_syncing" = some (.bool b) → syncing (.obj ms) = .ok ⟨b, hs, d⟩) ∧
    (∀ ms n, (Json.obj ms).get? "genesis_time" = some (.nat n) → ∃ e, genesis (.obj ms) = .error e) ∧
    (∀ ms k n, k ∈ ["SECONDS_PER_SLOT", "SLOTS_PER_EPOCH"] → (Json.obj ms).get? k = some (.nat n) →
      ∃ e, spec (.obj ms) = .error e) ∧
    (∀ ms n, (Json.obj ms).get? "epoch" = some (.nat n) → ∃ e, checkpoint (.obj ms) = .error e) ∧
    (∀ ms n, (Json.obj ms).get? "block_number" = some (.nat n) →
      ∃ e, executionPayload (.obj ms) = .error e) ∧
    (∀ ms k n, k ∈ ["slot", "proposer_index"] → (Json.obj ms).get? k = some (.nat n) →
      ∃ e, blockMessage (.obj ms) = .error e) ∧
    (∀ ms k n, k ∈ ["head_slot", "sync_distance"] → (Json.obj ms).get? k = some (.nat n) →
      ∃ e, syncing (.obj ms) = .error e) ∧
    (∀ ms n t, (ms.map Prod.fst).Nodup → n < 2 ^ 64 → t < 2 ^ 64 →
      (Json.obj ms).get? "number" = some (.str ("0x" ++ Unexpected.hexDigits n)) →
      (Json.obj ms).get? "timestamp" = some (.str ("0x" ++ Unexpected.hexDigits t)) →
      ExecutionHeader.rpcDecoder (.obj ms) = .ok ⟨n, t⟩) ∧
    (∀ ms a b c, (ms.map Prod.fst).Nodup → a < 2 ^ 64 → b < 2 ^ 64 → c < 2 ^ 64 →
      (Json.obj ms).get? "startingBlock" = some (.str ("0x" ++ Unexpected.hexDigits a)) →
      (Json.obj ms).get? "currentBlock" = some (.str ("0x" ++ Unexpected.hexDigits b)) →
      (Json.obj ms).get? "highestBlock" = some (.str ("0x" ++ Unexpected.hexDigits c)) →
      syncingDecoder (.obj ms) = .ok (some ⟨a, b, c⟩)) ∧
    (∀ b, syncingDecoder (.bool b) = .ok none) :=
  ⟨fun _ hn => Decoder.quotedU64_repr hn, Decoder.quotedU64_nat,
    fun _ _ _ _ hms h hd => dataDecoder_obj hms h hd, fun _ _ hms ht h => genesis_obj hms ht h,
    fun _ _ _ hms hs he h₁ h₂ => spec_obj hms hs he h₁ h₂,
    fun _ _ hms he h => checkpoint_obj hms he h,
    fun _ _ _ _ _ _ _ hms hp hp' hc hc' hf hf' => finalityCheckpoints_obj hms hp hp' hc hc' hf hf',
    fun _ _ _ _ hms hn h₁ h₂ ha => executionPayload_obj hms hn h₁ h₂ ha,
    fun _ hms h => blockBody_obj_none hms h, fun _ _ _ hms h hx => blockBody_obj_some hms h hx,
    fun _ _ _ _ _ hms hs hp h₁ h₂ h₃ hb => blockMessage_obj hms hs hp h₁ h₂ h₃ hb,
    fun _ _ _ hms h hm => signedBlock_obj hms h hm, fun _ _ h => signedBlock_paired h,
    fun _ _ _ _ hms hhs hd h₁ h₂ h₃ => syncing_obj hms hhs hd h₁ h₂ h₃,
    fun _ _ h => genesis_refuses_number h, fun _ _ _ hk h => spec_refuses_number hk h,
    fun _ _ h => checkpoint_refuses_number h, fun _ _ h => executionPayload_refuses_number h,
    fun _ _ _ hk h => blockMessage_refuses_number hk h, fun _ _ _ hk h => syncing_refuses_number hk h,
    fun _ _ _ hms hn ht h₁ h₂ => ExecutionHeader.rpcDecoder_obj hms hn ht h₁ h₂,
    fun _ _ _ _ hms ha hb hc h₁ h₂ h₃ =>
      syncingDecoder_of_progress (SyncProgress.rpcDecoder_obj hms ha hb hc h₁ h₂ h₃),
    syncingDecoder_bool⟩

open BeaconPayload in
/-- A block before the merge, as a beacon node serves it, has neither an execution block number
nor a fee recipient. -/
theorem pre_merge_block_reads :
    dataDecoder signedBlock (.obj [("data", .obj [("message", .obj [("slot", .str "3"),
      ("proposer_index", .str "7"), ("body", .obj [])])])]) = .ok ⟨3, 7, none, none⟩ := by
  obtain ⟨-, -, hdata, -, -, -, -, -, hnone, -, hmessage, hsigned, -⟩ := payloads_read_field_by_field
  exact hdata _ _ _ _ (List.nodup_singleton _) rfl (hsigned _ _ _ (List.nodup_singleton _) rfl
    (hmessage _ 3 7 _ none (by decide) (by decide) (by decide) rfl rfl rfl
      (hnone _ List.nodup_nil (.inl rfl))))

end ChainWatch
