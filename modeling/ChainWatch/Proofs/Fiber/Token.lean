import ChainWatch.Proofs.Fiber.Ends
import ChainWatch.Health.Tracker

/-!
# Racing a fiber against a cancellation token

A token only waits: it never changes the world, gives nothing back when it is dropped, and has
fired as soon as time reaches its instant (`Wait.Inert`). So when the fiber it races wins, the race
ran exactly as the fiber alone would have (`Fiber.Ends.of_race_cancelled`): time never stopped at
the token's instant, since the token would have won there.
-/

namespace ChainWatch

/-- A wait that only waits for time: it gives nothing back, and it is over once time is set to its
timer. -/
def Wait.Inert [VirtualClock σ] (wt : Wait σ) : Prop :=
  wt.release = id ∧ ∀ t, wt.timer = some t → ∀ w, wt.ready (VirtualClock.setNow w t) = true

namespace Fiber

variable {σ α β γ : Type} [VirtualClock σ]

/-- Beside a blocked token, a fiber that ends first never saw the token's wait over. -/
theorem Ends.besideBlocked_ready_false {wc wt : Wait σ} {u : γ} {m : Fiber σ β} {w w' : σ}
    {rest : Fiber σ γ} {b : β}
    (h : Ends w (besideBlocked wc (Fiber.done u) (firstDone (Fiber.done u)) (block wt m)) w' (.right rest b)) :
    wc.ready w = false := by
  cases h with
  | pass _ h =>
    rw [ends_read_iff] at h
    by_cases hc : wc.ready w = true
    · rw [if_pos hc] at h
      simp [firstDone] at h
    · simpa using hc
  | wake hr =>
    simp only [Wait.either, Bool.or_eq_false_iff] at hr
    exact hr.1

/-- **The fiber beside a blocked token runs as it would alone** when it ends first. -/
theorem Ends.of_besideBlocked [LawfulClock σ] {wc : Wait σ} {u : γ} (hc : wc.Inert) :
    ∀ {q : Fiber σ β} {w w' : σ} {rest : Fiber σ γ} {b : β},
    Ends w (besideBlocked wc (Fiber.done u) (firstDone (Fiber.done u)) q) w' (.right rest b) →
      Ends w q w' b ∧ rest = block wc (Fiber.done u) := by
  intro q
  induction q with
  | done b' =>
    intro w w' rest b h
    simp only [besideBlocked, ends_done_iff, Finish.right.injEq] at h
    obtain ⟨rfl, rfl, rfl⟩ := h
    exact ⟨.done _ _, rfl⟩
  | read k ih =>
    intro w w' rest b h
    obtain ⟨hk, rfl⟩ := ih w (ends_read_iff.mp h)
    exact ⟨.read hk, rfl⟩
  | update f m ih =>
    intro w w' rest b h
    obtain ⟨hm, rfl⟩ := ih (ends_update_iff.mp h)
    exact ⟨.update hm, rfl⟩
  | block wt m ih =>
    intro w w' rest b h
    -- the two waits are watched together: follow the jumps of time until one is over
    generalize hq : besideBlocked wc (Fiber.done u) (firstDone (Fiber.done u)) (block wt m) = q at h
    generalize hv : Finish.right rest b = v at h
    induction h with
    | @pass w₀ _ _ _ _ hr h' =>
      simp only [besideBlocked, block.injEq] at hq
      obtain ⟨rfl, rfl⟩ := hq
      subst hv
      rw [ends_read_iff] at h'
      by_cases hcr : wc.ready w₀ = true
      · rw [if_pos hcr] at h'
        simp [firstDone] at h'
      · rw [if_neg hcr] at h'
        have hwt : wt.ready w₀ = true := by simpa [Wait.either, hcr] using hr
        obtain ⟨hm, rfl⟩ := ih h'
        exact ⟨.pass hwt hm, rfl⟩
    | @wake w₀ _ _ _ _ t hr ht hlt h' ihw =>
      simp only [besideBlocked, block.injEq] at hq
      obtain ⟨rfl, rfl⟩ := hq
      subst hv
      obtain ⟨hm, rfl⟩ := ihw rfl rfl
      have hcw : wc.ready (VirtualClock.setNow w₀ t) = false := Ends.besideBlocked_ready_false h'
      simp only [Wait.either, Bool.or_eq_false_iff] at hr
      -- time jumped to the earlier timer, which cannot be the token's
      have htimer : wt.timer = some t := by
        simp only [Wait.either] at ht
        cases hwc : wc.timer with
        | none => simpa [Wait.earlier, hwc] using ht
        | some tc =>
          cases hwt : wt.timer with
          | none =>
            simp only [Wait.earlier, hwc, hwt, Option.some.injEq] at ht
            subst ht
            simp [hc.2 tc hwc] at hcw
          | some t' =>
            simp only [Wait.earlier, hwc, hwt, Option.some.injEq] at ht
            by_cases hle : tc ≤ t'
            · rw [Nat.min_eq_left hle] at ht
              subst ht
              simp [hc.2 tc hwc] at hcw
            · rw [Nat.min_eq_right (by omega)] at ht
              rw [ht]
      exact ⟨.wake hr.2 htimer hlt hm, rfl⟩
    | done => simp [besideBlocked] at hq
    | read => simp [besideBlocked] at hq
    | update => simp [besideBlocked] at hq

/-- **A race the fiber wins against a token is the fiber's own run.** -/
theorem Ends.of_race_cancelled [LawfulClock σ] (tok : CancelToken) {p : Fiber σ α} {w w' : σ}
    {a : α} (h : Ends w (race tok.cancelled p) w' (.inr a)) : Ends w p w' a := by
  obtain ⟨w₁, x, hfirst, hend⟩ := ends_bind_iff.mp h
  rcases x with ⟨_, _⟩ | ⟨rest, b⟩
  · simp at hend
  · simp only [ends_update_iff, ends_done_iff, Sum.inr.injEq] at hend
    obtain ⟨rfl, rfl⟩ := hend
    -- in every case the token is inert and dropping it gives nothing back
    cases tok with
    | never =>
      have hc : (Wait.never : Wait σ).Inert := ⟨rfl, by simp [Wait.never]⟩
      obtain ⟨hp, rfl⟩ := Ends.of_besideBlocked hc hfirst
      simpa [dropped, Wait.never] using hp
    | already => simp [CancelToken.cancelled, firstDone] at hfirst
    | firesAt t =>
      simp only [CancelToken.cancelled, waitEvent, waitUntilTick, firstDone, ends_read_iff] at hfirst
      split at hfirst
      · simp [firstDone] at hfirst
      · have hc : (⟨fun w => decide (2 * t + 1 ≤ VirtualClock.now w), some (2 * t + 1), id⟩ :
            Wait σ).Inert := ⟨rfl, by simp⟩
        obtain ⟨hp, rfl⟩ := Ends.of_besideBlocked hc hfirst
        simpa [dropped] using hp

end Fiber

end ChainWatch
