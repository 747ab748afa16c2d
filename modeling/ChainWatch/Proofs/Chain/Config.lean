import ChainWatch.Proofs.Wire.Record
import ChainWatch.Proofs.Fiber.Ends
import ChainWatch.Chain.Codec
import ChainWatch.Chain.Time
import ChainWatch.Proofs.Chain.Clock
import ChainWatch.Http.Beacon

/-!
# Every chain configuration is checked

A `ChainConfig` carries the proofs that its two lengths are positive, so the only ways to get
one from numbers go through `ChainConfig.new?`, and this module says what each of them gives:

* `ChainConfig.new?_eq_ok_iff`: `new?` builds a configuration exactly when both lengths are
  positive and the values fit 64 bits, and it keeps the values given; a zero slot length is
  refused whatever the epoch length (`ChainConfig.new?_zero_secondsPerSlot`);
* `ChainConfig.rawDecoder_eq_ok_iff`: the three integers are read from an object that names each
  of them exactly once, or from an array of exactly the three (`ChainConfig.RawForm`);
* `ChainConfig.decoder_eq_ok_iff`: the decoder gives exactly what `new?` builds from them, and
  the text of its refusal otherwise (`ChainConfig.decoder_eq_error_of_new?`); it reads back the
  JSON form of every configuration (`ChainConfig.decoder_toJson`);
* `BeaconNode.chainConfig_built_by_new?`: a beacon node's configuration is built by `new?` from
  the genesis time and the timing parameters it read;
* `ChainConfig.slotAt_eq_ok`, `ChainConfig.epochOf_bounds`, `ChainConfig.lastSlotOfEpoch_eq_ok`:
  since the lengths are positive, the divisions of the beacon clock are exact floors and the last
  slot of an epoch is the one before the next epoch.
-/

namespace ChainWatch

open ChainWatch.Fiber

namespace ChainConfig

/-! ### Building a configuration -/

/-- **What `new?` builds**: a configuration exactly when both lengths are positive and the three
values fit 64 bits, with the values given. -/
theorem new?_eq_ok_iff {g s e : Nat} {c : ChainConfig} :
    new? g s e = .ok c ↔ s ≠ 0 ∧ e ≠ 0 ∧ g < 2 ^ 64 ∧ s < 2 ^ 64 ∧ e < 2 ^ 64 ∧
      c.genesisTime = g ∧ c.secondsPerSlot = s ∧ c.slotsPerEpoch = e := by
  unfold new?
  split_ifs with hs he hb
  · simp [hs]
  · simp [he]
  · constructor
    · rintro ⟨⟩
      exact ⟨hs, he, hb.1, hb.2.1, hb.2.2, rfl, rfl, rfl⟩
    · -- a configuration is its three values: the rest are proofs
      obtain ⟨g', s', e', _, _, _, _, _⟩ := c
      rintro ⟨-, -, -, -, -, rfl, rfl, rfl⟩
      rfl
  · simp only [false_iff]
    rintro ⟨-, -, hg, hs', he', -⟩
    exact hb ⟨hg, hs', he'⟩

theorem new?_zero_secondsPerSlot (g e : Nat) : new? g 0 e = .error (.zeroValue "seconds_per_slot") := by
  rw [new?, dif_pos rfl]

theorem new?_zero_slotsPerEpoch {g s : Nat} (hs : s ≠ 0) :
    new? g s 0 = .error (.zeroValue "slots_per_epoch") := by
  rw [new?, dif_neg hs, dif_pos rfl]

/-- Over 64-bit values, a configuration is built exactly when both lengths are positive. -/
theorem exists_new?_eq_ok_iff {g s e : Nat} (hg : g < 2 ^ 64) (hs : s < 2 ^ 64) (he : e < 2 ^ 64) :
    (∃ c, new? g s e = .ok c) ↔ s ≠ 0 ∧ e ≠ 0 := by
  constructor
  · rintro ⟨c, hc⟩
    obtain ⟨hs0, he0, -⟩ := new?_eq_ok_iff.mp hc
    exact ⟨hs0, he0⟩
  · rintro ⟨hs0, he0⟩
    have hb : g < Nat.pow 2 64 ∧ s < Nat.pow 2 64 ∧ e < Nat.pow 2 64 := ⟨hg, hs, he⟩
    exact ⟨_, by rw [new?, dif_neg hs0, dif_neg he0, dif_pos hb]⟩

/-! ### Decoding -/

/-- The JSON forms of the three integers of a configuration: an object in which each of
`genesis_time`, `seconds_per_slot` and `slots_per_epoch` is named by exactly one member, holding
that integer, any other member ignored, or an array of exactly the three in that order. -/
def RawForm (j : Json) (g s e : Nat) : Prop :=
  (∃ ms, j = .obj ms ∧ ms.filter (·.1 == "genesis_time") = [("genesis_time", .nat g)] ∧
    ms.filter (·.1 == "seconds_per_slot") = [("seconds_per_slot", .nat s)] ∧
    ms.filter (·.1 == "slots_per_epoch") = [("slots_per_epoch", .nat e)]) ∨
  j = .arr [.nat g, .nat s, .nat e]

theorem rawDecoder_arr_eq_ok_iff {items : List Json} {g s e : Nat} :
    rawDecoder (.arr items) = .ok (g, s, e) ↔ items = [.nat g, .nat s, .nat e] := by
  have hreq : ∀ r ∈ [FieldRule.of "genesis_time" .required Decoder.u64,
      FieldRule.of "seconds_per_slot" .required Decoder.u64,
      FieldRule.of "slots_per_epoch" .required Decoder.u64], r.absence = .required := by
    simp [FieldRule.of]
  simp only [rawDecoder, Except.bind_eq_ok, readRecord_arr_eq_ok_iff hreq, List.length_cons,
    List.length_nil, Except.pure_eq_ok_iff]
  constructor
  · rintro ⟨_, ⟨hlen, hall, rfl⟩, g', hg, s', hs, e', he, heq⟩
    obtain ⟨a, b, c, rfl⟩ := List.length_eq_three.mp hlen
    simp only [fieldOf, FieldRule.of, List.zipWith_cons_cons, List.zipWith_nil_left] at hg hs he
    simp only [Prod.mk.injEq] at heq
    obtain ⟨rfl, rfl, rfl⟩ := heq
    simp_all
  · rintro rfl
    refine ⟨_, ⟨rfl, ?_, rfl⟩, g, ?_, s, ?_, e, ?_, rfl⟩
    · -- each item is an integer, which its field accepts
      exact .cons (FieldRule.check_of_eq_none_iff.mpr ⟨g, rfl⟩)
        (.cons (FieldRule.check_of_eq_none_iff.mpr ⟨s, rfl⟩)
          (.cons (FieldRule.check_of_eq_none_iff.mpr ⟨e, rfl⟩) .nil))
    all_goals simp [fieldOf, FieldRule.of]

theorem rawDecoder_obj_eq_ok_iff {ms : List (String × Json)} {g s e : Nat} :
    rawDecoder (.obj ms) = .ok (g, s, e) ↔
      ms.filter (·.1 == "genesis_time") = [("genesis_time", .nat g)] ∧
        ms.filter (·.1 == "seconds_per_slot") = [("seconds_per_slot", .nat s)] ∧
        ms.filter (·.1 == "slots_per_epoch") = [("slots_per_epoch", .nat e)] := by
  constructor
  · intro h
    simp only [rawDecoder, Except.bind_eq_ok, readRecord_obj_eq_ok_iff, Except.pure_eq_ok_iff] at h
    obtain ⟨_, ⟨rfl, hnone, -⟩, g', hg, s', hs, e', he, heq⟩ := h
    simp only [Prod.mk.injEq] at heq
    obtain ⟨rfl, rfl, rfl⟩ := heq
    rw [fieldOf, Decoder.u64_eq_ok_iff, Json.getD_null_eq_nat, Json.find?_key_eq_some_iff] at hg hs he
    -- each field is named once, since a second member of its name would be refused
    refine ⟨Json.filter_key_eq_singleton_iff.mpr ⟨?_, hg⟩, Json.filter_key_eq_singleton_iff.mpr ⟨?_, hs⟩,
      Json.filter_key_eq_singleton_iff.mpr ⟨?_, he⟩⟩
    all_goals exact (firstRefusal_named_once hnone (by simp [FieldRule.of])).1
  · rintro ⟨hg, hs, he⟩
    have hrec : readRecord "RawBeaconConfig" [.of "genesis_time" .required Decoder.u64,
        .of "seconds_per_slot" .required Decoder.u64, .of "slots_per_epoch" .required Decoder.u64]
        (.obj ms) = .ok ms := by
      refine readRecord_obj_of_named_once fun r hr => ?_
      simp only [List.mem_cons, List.mem_nil_iff, or_false] at hr
      rcases hr with rfl | rfl | rfl
      · exact ⟨_, hg, FieldRule.check_of_eq_none_iff.mpr ⟨g, rfl⟩⟩
      · exact ⟨_, hs, FieldRule.check_of_eq_none_iff.mpr ⟨s, rfl⟩⟩
      · exact ⟨_, he, FieldRule.check_of_eq_none_iff.mpr ⟨e, rfl⟩⟩
    simp only [rawDecoder, hrec, Except.ok_bind, fieldOf_of_filter _ hg, fieldOf_of_filter _ hs,
      fieldOf_of_filter _ he]
    rfl

/-- **The three integers are read** from exactly their object and array forms; any other value
is refused by its type. -/
theorem rawDecoder_eq_ok_iff {j : Json} {g s e : Nat} : rawDecoder j = .ok (g, s, e) ↔ RawForm j g s e := by
  cases j with
  | obj ms => simp [RawForm, rawDecoder_obj_eq_ok_iff]
  | arr items => simp [RawForm, rawDecoder_arr_eq_ok_iff]
  | _ => simp [RawForm, rawDecoder, readRecord, Except.bind_eq_ok]

/-- **The decoder builds what `new?` builds** from the three integers it reads. -/
theorem decoder_eq_ok_iff {j : Json} {c : ChainConfig} :
    decoder j = .ok c ↔ ∃ g s e, RawForm j g s e ∧ new? g s e = .ok c := by
  simp only [decoder, Except.bind_eq_ok]
  constructor
  · rintro ⟨⟨g, s, e⟩, hraw, hnew⟩
    refine ⟨g, s, e, rawDecoder_eq_ok_iff.mp hraw, ?_⟩
    split at hnew
    · rename_i c' hc
      rw [hc]
      exact congrArg _ (Except.ok.inj hnew)
    · cases hnew
  · rintro ⟨g, s, e, hraw, hnew⟩
    refine ⟨(g, s, e), rawDecoder_eq_ok_iff.mpr hraw, ?_⟩
    simp only [hnew]
    rfl

/-- Three integers that `new?` refuses are refused by the decoder with the text of the reason. -/
theorem decoder_eq_error_of_new? {j : Json} {g s e : Nat} {err : ConfigError} (hraw : RawForm j g s e)
    (hnew : new? g s e = .error err) : decoder j = .error (.custom err.message) := by
  simp only [decoder, rawDecoder_eq_ok_iff.mpr hraw, Except.ok_bind, hnew]
  rfl

/-- The decoder reads back the JSON form of every configuration. -/
theorem decoder_toJson (c : ChainConfig) : decoder c.toJson = .ok c := by
  refine decoder_eq_ok_iff.mpr ⟨c.genesisTime, c.secondsPerSlot, c.slotsPerEpoch, .inl ⟨_, rfl, ?_⟩, ?_⟩
  · simp
  · exact new?_eq_ok_iff.mpr ⟨c.secondsPerSlot_pos.ne', c.slotsPerEpoch_pos.ne', c.genesisTime_lt,
      c.secondsPerSlot_lt, c.slotsPerEpoch_lt, rfl, rfl, rfl⟩

/-! ### The beacon clock -/

/-- The slot at a time is the number of whole slots since genesis. -/
theorem slotAt_eq_ok {c : ChainConfig} {t n : Nat} (h : c.slotAt t = .ok n) :
    c.genesisTime + n * c.secondsPerSlot ≤ t ∧ t < c.genesisTime + (n + 1) * c.secondsPerSlot := by
  obtain ⟨hle, hlt⟩ := c.slotAt_eq_ok_iff.mp h
  rw [Nat.add_one_mul]
  omega

/-- A slot lies in the span of its epoch. -/
theorem epochOf_bounds (c : ChainConfig) (slot : Nat) :
    c.epochOf slot * c.slotsPerEpoch ≤ slot ∧ slot < (c.epochOf slot + 1) * c.slotsPerEpoch :=
  c.epochOf_eq_iff.mp rfl

/-- The last slot of an epoch is the one before the first slot of the next. -/
theorem lastSlotOfEpoch_eq_ok {c : ChainConfig} {ep s : Nat} (h : c.lastSlotOfEpoch ep = .ok s) :
    s + 1 = (ep + 1) * c.slotsPerEpoch := by
  obtain ⟨-, rfl⟩ := c.lastSlotOfEpoch_eq_ok_iff.mp h
  have := c.slotsPerEpoch_pos
  rw [Nat.add_one_mul]
  omega

end ChainConfig

/-- A beacon node's configuration is built by `new?` from the genesis time and the timing
parameters it read side by side. -/
theorem BeaconNode.chainConfig_built_by_new? {σ : Type} [VirtualClock σ] (node : BeaconNode)
    (transport : Transport σ) {w w' : σ} {c : ChainConfig}
    (h : Ends w (node.api transport).chainConfig w' (.ok c)) :
    ∃ g spec, Ends w (bothOrFail (node.requiredData transport "/eth/v1/beacon/genesis" BeaconPayload.genesis)
        (node.requiredData transport "/eth/v1/config/spec" BeaconPayload.spec)) w' (.ok (g, spec)) ∧
      ChainConfig.new? g spec.secondsPerSlot spec.slotsPerEpoch = .ok c := by
  obtain ⟨w₁, r, hboth, hend⟩ := ends_bind_iff.mp h
  rcases r with e | ⟨g, spec⟩
  · simp at hend
  · refine ⟨g, spec, ?_⟩
    dsimp only at hend
    split at hend
    · rename_i c' hnew
      obtain ⟨rfl, hc⟩ := ends_done_iff.mp hend
      obtain rfl := Except.ok.inj hc
      exact ⟨hboth, hnew⟩
    · simp at hend

/-! ### Every path -/

namespace ChainConfig

/-- **Every configuration has positive lengths, whichever way it was made.** Over 64-bit values
`new?` builds a configuration exactly when both lengths are positive, refuses a zero slot length
whatever the epoch length, and keeps the values given; the decoder succeeds exactly on the object
and array forms of three integers that `new?` accepts, with what `new?` builds, and refuses the
others with the text of `new?`'s reason, and it reads back the JSON form of every configuration;
a beacon node's configuration is built by `new?` from what it read. So in every configuration the
lengths are positive, the slot at a time and the epoch of a slot are exact floors, and the last
slot of an epoch is one less than the first slot of the next. -/
theorem every_config_has_positive_lengths :
    (∀ g s e : Nat, g < 2 ^ 64 → s < 2 ^ 64 → e < 2 ^ 64 →
      ((∃ c, new? g s e = .ok c) ↔ s ≠ 0 ∧ e ≠ 0)) ∧
    (∀ g e : Nat, new? g 0 e = .error (.zeroValue "seconds_per_slot")) ∧
    (∀ (g s e : Nat) (c : ChainConfig), new? g s e = .ok c →
      c.genesisTime = g ∧ c.secondsPerSlot = s ∧ c.slotsPerEpoch = e) ∧
    (∀ (j : Json) (c : ChainConfig), decoder j = .ok c ↔ ∃ g s e, RawForm j g s e ∧ new? g s e = .ok c) ∧
    (∀ (j : Json) (g s e : Nat) (err : ConfigError), RawForm j g s e → new? g s e = .error err →
      decoder j = .error (.custom err.message)) ∧
    (∀ c : ChainConfig, decoder c.toJson = .ok c) ∧
    (∀ {σ : Type} [VirtualClock σ] (node : BeaconNode) (transport : Transport σ) (w w' : σ)
      (c : ChainConfig), Ends w (node.api transport).chainConfig w' (.ok c) →
      ∃ g spec, Ends w (bothOrFail (node.requiredData transport "/eth/v1/beacon/genesis" BeaconPayload.genesis)
          (node.requiredData transport "/eth/v1/config/spec" BeaconPayload.spec)) w' (.ok (g, spec)) ∧
        new? g spec.secondsPerSlot spec.slotsPerEpoch = .ok c) ∧
    (∀ c : ChainConfig, 0 < c.secondsPerSlot ∧ 0 < c.slotsPerEpoch) ∧
    (∀ (c : ChainConfig) (t n : Nat), c.slotAt t = .ok n →
      c.genesisTime + n * c.secondsPerSlot ≤ t ∧ t < c.genesisTime + (n + 1) * c.secondsPerSlot) ∧
    (∀ (c : ChainConfig) (slot : Nat),
      c.epochOf slot * c.slotsPerEpoch ≤ slot ∧ slot < (c.epochOf slot + 1) * c.slotsPerEpoch) ∧
    (∀ (c : ChainConfig) (ep s : Nat), c.lastSlotOfEpoch ep = .ok s → s + 1 = (ep + 1) * c.slotsPerEpoch) := by
  refine ⟨fun _ _ _ hg hs he => exists_new?_eq_ok_iff hg hs he, new?_zero_secondsPerSlot,
    fun _ _ _ _ h => ?_, fun _ _ => decoder_eq_ok_iff, fun _ _ _ _ _ => decoder_eq_error_of_new?,
    decoder_toJson, fun node transport _ _ _ => node.chainConfig_built_by_new? transport,
    fun c => ⟨c.secondsPerSlot_pos, c.slotsPerEpoch_pos⟩, fun _ _ _ => slotAt_eq_ok, epochOf_bounds,
    fun _ _ _ => lastSlotOfEpoch_eq_ok⟩
  obtain ⟨-, -, -, -, -, hg, hs, he⟩ := new?_eq_ok_iff.mp h
  exact ⟨hg, hs, he⟩

end ChainConfig

end ChainWatch
