import Mathlib.Algebra.Group.Nat.Defs
import ChainWatch.Chain.Time

/-!
# The beacon clock over 64-bit integers

The slot at a time, the start of a slot and the last slot of an epoch are checked operations on
64-bit integers. This module says exactly when each fails and what each gives, in exact
arithmetic:

* `ChainConfig.slotAt_eq_ok_iff`: the slot at time `t` is `s` exactly when `t` lies in the span
  of slot `s`, from `s * p + g` up to the start of the next slot; before genesis the answer is a
  clock skew naming both times (`ChainConfig.slotAt_eq_error_iff`);
* `ChainConfig.slotStart_eq_ok_iff`, `ChainConfig.slotStart_eq_error_iff`: the start of slot `s`
  is `s * p + g` when that fits 64 bits, and an overflow of `slot start time` otherwise, the
  checked product and the checked sum failing together;
* `ChainConfig.lastSlotOfEpoch_eq_ok_iff`, `ChainConfig.lastSlotOfEpoch_eq_error_iff`: the last
  slot of epoch `e` is `e * n + n - 1` exactly when `(e + 1) * n ≤ 2 ^ 64`, an overflow
  otherwise, also when the first slot of the epoch fits and the last does not.

So the slot of a 64-bit time always has a start, at or before the time and less than a slot
before it, even where the start of the next slot does not fit
(`ChainConfig.slotAt_floor_inverts_slotStart`), and the last slot of an epoch lies in that epoch
with the slot after it in the next (`ChainConfig.lastSlotOfEpoch_closes_epoch`).
-/

namespace ChainWatch

namespace ChainConfig

variable (c : ChainConfig)

/-! ### Checked operations -/

section Checked

variable {ε α : Type} {P Q : Prop} [Decidable P] {a v : α} {e e' : ε}

/-- A checked operation gives its value exactly when its guard holds. -/
theorem checked_eq_ok_iff (hPQ : P ↔ Q) :
    (if P then .ok a else .error e : Except ε α) = .ok v ↔ Q ∧ v = a := by
  by_cases h : P
  · rw [if_pos h, Except.ok.injEq, eq_comm]
    exact ⟨fun hv => ⟨hPQ.mp h, hv⟩, And.right⟩
  · rw [if_neg h]
    exact ⟨fun hv => (nomatch hv), fun ⟨hq, _⟩ => absurd (hPQ.mpr hq) h⟩

/-- A checked operation fails with its error exactly when its guard does not hold. -/
theorem checked_eq_error_iff (hPQ : P ↔ Q) :
    (if P then .ok a else .error e : Except ε α) = .error e' ↔ ¬Q ∧ e' = e := by
  by_cases h : P
  · rw [if_pos h]
    exact ⟨fun he => (nomatch he), fun ⟨hq, _⟩ => absurd (hPQ.mp h) hq⟩
  · rw [if_neg h, Except.error.injEq, eq_comm]
    exact ⟨fun he => ⟨mt hPQ.mpr h, he⟩, And.right⟩

end Checked

/-! ### The slot at a time -/

theorem slotAt_eq_error_iff {t : Nat} {e : ConfigError} :
    c.slotAt t = .error e ↔ t < c.genesisTime ∧ e = .clockSkew t c.genesisTime := by
  unfold slotAt
  split
  · rename_i h
    simp only [Except.error.injEq, h, true_and]
    exact eq_comm
  · rename_i h
    simp [h]

/-- The slot at a time after genesis is the floor of the seconds since genesis over the slot
length. -/
theorem slotAt_eq_ok_iff_div {t s : Nat} :
    c.slotAt t = .ok s ↔ c.genesisTime ≤ t ∧ s = (t - c.genesisTime) / c.secondsPerSlot := by
  unfold slotAt
  split
  · rename_i h
    simp only [reduceCtorEq, false_iff, not_and]
    omega
  · rename_i h
    simp only [Except.ok.injEq, Nat.le_of_not_lt h, true_and]
    exact eq_comm

/-- **The slot at a time is the slot whose span holds it**: slot `s` covers the times from its
start `s * p + g` up to the start of the next. -/
theorem slotAt_eq_ok_iff {t s : Nat} :
    c.slotAt t = .ok s ↔ s * c.secondsPerSlot + c.genesisTime ≤ t ∧
      t < s * c.secondsPerSlot + c.genesisTime + c.secondsPerSlot := by
  rw [slotAt_eq_ok_iff_div, eq_comm (a := s), Nat.div_eq_iff c.secondsPerSlot_pos]
  have hp := c.secondsPerSlot_pos
  omega

/-! ### The start of a slot -/

/-- The checked product fails only where the checked sum after it would. -/
theorem slotStart_fits_iff (s : Nat) :
    (s * c.secondsPerSlot < Nat.pow 2 64 ∧ s * c.secondsPerSlot + c.genesisTime < Nat.pow 2 64) ↔
      s * c.secondsPerSlot + c.genesisTime < 2 ^ 64 := by
  rw [Nat.pow_eq]
  omega

theorem slotStart_eq_ok_iff {s v : Nat} :
    c.slotStart s = .ok v ↔
      s * c.secondsPerSlot + c.genesisTime < 2 ^ 64 ∧ v = s * c.secondsPerSlot + c.genesisTime :=
  checked_eq_ok_iff (c.slotStart_fits_iff s)

theorem slotStart_eq_error_iff {s : Nat} {e : ConfigError} :
    c.slotStart s = .error e ↔
      2 ^ 64 ≤ s * c.secondsPerSlot + c.genesisTime ∧ e = .overflow "slot start time" := by
  rw [slotStart, checked_eq_error_iff (c.slotStart_fits_iff s), Nat.not_lt]

/-- The slot of a 64-bit time has a start, at or before the time and less than a slot before it,
whether or not the next slot's start fits. -/
theorem slotStart_of_slotAt {t s : Nat} (ht : t < 2 ^ 64) (h : c.slotAt t = .ok s) :
    ∃ v, c.slotStart s = .ok v ∧ v ≤ t ∧ t < v + c.secondsPerSlot := by
  obtain ⟨hle, hlt⟩ := (c.slotAt_eq_ok_iff).mp h
  exact ⟨_, (c.slotStart_eq_ok_iff).mpr ⟨Nat.lt_of_le_of_lt hle ht, rfl⟩, hle, hlt⟩

/-- **The slot at a time inverts the start of a slot.** The slot at `t` is a clock skew naming
both times exactly before genesis, and otherwise the floor of the seconds since genesis over the
slot length; the slot of every 64-bit time has a start at or before it and less than a slot
before it, whether or not the next slot's start fits 64 bits. The start of slot `s` is
`s * p + g` exactly when that fits 64 bits and an overflow of `slot start time` otherwise, and
every time from that start up to the next start has slot `s`. -/
theorem slotAt_floor_inverts_slotStart :
    (∀ t e, c.slotAt t = .error e ↔ t < c.genesisTime ∧ e = .clockSkew t c.genesisTime) ∧
    (∀ t s, c.slotAt t = .ok s ↔
      c.genesisTime ≤ t ∧ s = (t - c.genesisTime) / c.secondsPerSlot) ∧
    (∀ t s, t < 2 ^ 64 → c.slotAt t = .ok s →
      ∃ v, c.slotStart s = .ok v ∧ v ≤ t ∧ t < v + c.secondsPerSlot) ∧
    (∀ s v, c.slotStart s = .ok v ↔
      s * c.secondsPerSlot + c.genesisTime < 2 ^ 64 ∧ v = s * c.secondsPerSlot + c.genesisTime) ∧
    (∀ s e, c.slotStart s = .error e ↔
      2 ^ 64 ≤ s * c.secondsPerSlot + c.genesisTime ∧ e = .overflow "slot start time") ∧
    (∀ s w, s * c.secondsPerSlot + c.genesisTime ≤ w →
      w < s * c.secondsPerSlot + c.genesisTime + c.secondsPerSlot → c.slotAt w = .ok s) :=
  ⟨fun _ _ => c.slotAt_eq_error_iff, fun _ _ => c.slotAt_eq_ok_iff_div,
    fun _ _ => c.slotStart_of_slotAt, fun _ _ => c.slotStart_eq_ok_iff,
    fun _ _ => c.slotStart_eq_error_iff, fun _ _ hle hlt => (c.slotAt_eq_ok_iff).mpr ⟨hle, hlt⟩⟩

/-- The last second of 64-bit time falls in a slot whose start fits, while the start of the next
slot does not. -/
theorem last_second_slot_has_start :
    mainnet.slotAt (2 ^ 64 - 1) = .ok 1537228672675227299 ∧
    (∃ v, mainnet.slotStart 1537228672675227299 = .ok v ∧ v ≤ 2 ^ 64 - 1 ∧
      2 ^ 64 - 1 < v + mainnet.secondsPerSlot) ∧
    mainnet.slotStart 1537228672675227300 = .error (.overflow "slot start time") := by
  obtain ⟨-, hfloor, hstart, -, hover, -⟩ := slotAt_floor_inverts_slotStart mainnet
  have hs : mainnet.slotAt (2 ^ 64 - 1) = .ok 1537228672675227299 :=
    (hfloor _ _).mpr ⟨by decide, by decide⟩
  exact ⟨hs, hstart _ _ (by decide) hs, (hover _ _).mpr ⟨by decide, rfl⟩⟩

/-! ### The last slot of an epoch -/

/-- The checked product and the checked sum after it fail together, exactly when the epoch after
`e` would start past 64 bits. -/
theorem lastSlotOfEpoch_fits_iff (e : Nat) :
    (e * c.slotsPerEpoch < Nat.pow 2 64 ∧
      e * c.slotsPerEpoch + (c.slotsPerEpoch - 1) < Nat.pow 2 64) ↔
      (e + 1) * c.slotsPerEpoch ≤ 2 ^ 64 := by
  rw [Nat.pow_eq, Nat.add_one_mul]
  have := c.slotsPerEpoch_pos
  omega

theorem lastSlotOfEpoch_eq_ok_iff {e s : Nat} :
    c.lastSlotOfEpoch e = .ok s ↔
      (e + 1) * c.slotsPerEpoch ≤ 2 ^ 64 ∧ s = e * c.slotsPerEpoch + c.slotsPerEpoch - 1 := by
  rw [lastSlotOfEpoch, checked_eq_ok_iff (c.lastSlotOfEpoch_fits_iff e)]
  -- the last slot is written `e * n + (n - 1)`, equal since `n` is positive
  have := c.slotsPerEpoch_pos
  omega

theorem lastSlotOfEpoch_eq_error_iff {e : Nat} {err : ConfigError} :
    c.lastSlotOfEpoch e = .error err ↔
      2 ^ 64 < (e + 1) * c.slotsPerEpoch ∧ err = .overflow "finalized slot for epoch" := by
  rw [lastSlotOfEpoch, checked_eq_error_iff (c.lastSlotOfEpoch_fits_iff e), Nat.not_le]

/-- The epoch of a slot is `e` exactly when the slot lies in the span of epoch `e`. -/
theorem epochOf_eq_iff {s e : Nat} :
    c.epochOf s = e ↔ e * c.slotsPerEpoch ≤ s ∧ s < (e + 1) * c.slotsPerEpoch := by
  rw [epochOf, Nat.div_eq_iff c.slotsPerEpoch_pos, Nat.add_one_mul]
  have := c.slotsPerEpoch_pos
  omega

/-- The last slot of an epoch lies in that epoch, and the slot after it in the next. -/
theorem epochOf_lastSlotOfEpoch {e s : Nat} (h : c.lastSlotOfEpoch e = .ok s) :
    c.epochOf s = e ∧ c.epochOf (s + 1) = e + 1 := by
  obtain ⟨hfit, rfl⟩ := (c.lastSlotOfEpoch_eq_ok_iff).mp h
  rw [c.epochOf_eq_iff, c.epochOf_eq_iff]
  simp only [Nat.add_one_mul] at hfit ⊢
  have := c.slotsPerEpoch_pos
  omega

/-- **The last slot of an epoch closes it, or the epoch does not fit.** The last slot of epoch
`e` is `e * n + n - 1` exactly when `(e + 1) * n ≤ 2 ^ 64`, and an overflow of `finalized slot
for epoch` otherwise, which includes the epochs whose first slot fits and whose last does not;
the slot it gives lies in epoch `e`, and the slot after it in epoch `e + 1`. -/
theorem lastSlotOfEpoch_closes_epoch :
    (∀ e s, c.lastSlotOfEpoch e = .ok s ↔
      (e + 1) * c.slotsPerEpoch ≤ 2 ^ 64 ∧ s = e * c.slotsPerEpoch + c.slotsPerEpoch - 1) ∧
    (∀ e err, c.lastSlotOfEpoch e = .error err ↔
      2 ^ 64 < (e + 1) * c.slotsPerEpoch ∧ err = .overflow "finalized slot for epoch") ∧
    (∀ e s, c.lastSlotOfEpoch e = .ok s → c.epochOf s = e ∧ c.epochOf (s + 1) = e + 1) :=
  ⟨fun _ _ => c.lastSlotOfEpoch_eq_ok_iff, fun _ _ => c.lastSlotOfEpoch_eq_error_iff,
    fun _ _ => c.epochOf_lastSlotOfEpoch⟩

/-- Mainnet timing with three slots an epoch, where the first slot of an epoch can fit 64 bits
while its last does not. -/
def threeSlotEpochs : ChainConfig :=
  { mainnet with slotsPerEpoch := 3, slotsPerEpoch_lt := by decide,
                 slotsPerEpoch_pos := Nat.succ_pos 2 }

/-- The last epoch of mainnet that fits ends on the last 64-bit slot; with three slots an epoch,
an epoch whose first slot is the last 64-bit integer overflows. -/
theorem last_fitting_epoch_closes :
    mainnet.lastSlotOfEpoch 576460752303423487 = .ok (2 ^ 64 - 1) ∧
    mainnet.epochOf (2 ^ 64 - 1) = 576460752303423487 ∧
    6148914691236517205 * threeSlotEpochs.slotsPerEpoch < 2 ^ 64 ∧
    threeSlotEpochs.lastSlotOfEpoch 6148914691236517205 =
      .error (.overflow "finalized slot for epoch") := by
  obtain ⟨hok, herr, hepoch⟩ := lastSlotOfEpoch_closes_epoch mainnet
  have h : mainnet.lastSlotOfEpoch 576460752303423487 = .ok (2 ^ 64 - 1) :=
    (hok _ _).mpr ⟨by decide, by decide⟩
  refine ⟨h, (hepoch _ _ h).1, by decide, ?_⟩
  exact ((lastSlotOfEpoch_closes_epoch threeSlotEpochs).2.1 _ _).mpr ⟨by decide, rfl⟩

end ChainConfig

end ChainWatch
