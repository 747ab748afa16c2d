import ChainWatch.Proofs.Fiber.Limit
import ChainWatch.Proofs.Health.Waiters

/-!
# The rounds of a wait

Once a wait on a service has evaluated it, the wait goes round: a round evaluates the service
afresh when the refresh interval has passed since the last evaluation, and else polls the instance
it waits on, which ends the wait when that instance is synced or the poll fails, and otherwise
sleeps a poll interval. `Tracker.Round` says what one round does when it runs up to a limit
(`Fiber.Within`), in terms of the runs of the evaluation and of the poll, whatever those do: the
health it records, what it goes on with, and its moves, each with the millisecond it begins at.
`Tracker.Polls` strings rounds together as the loop of the wait does, and `Tracker.Waiting` puts
the first evaluation in front of them.

These relations are exactly the runs of the fibers, over a tracker whose requests leave the clock
alone, from a world within the limit: `Tracker.within_pollRound_iff` for one round,
`Tracker.within_loop_iff` by induction on the rounds left, and `Tracker.within_pollUntilSynced_iff`
for the whole wait inside its lock.
-/

namespace ChainWatch

open ChainWatch.Fiber

/-- What a wait does in a round. -/
inductive PollMove where
  /-- A whole evaluation of the service. -/
  | evaluate
  /-- A poll of the instance waited on. -/
  | poll
  /-- A sleep of the poll interval. -/
  | sleep
  deriving DecidableEq

namespace Tracker

variable {σ : Type} [TrackerWorld σ] (t : Tracker σ) (kind : ServiceKind)

/-- What a refresh goes on with once its evaluation ended in `w`: the selection, with the
millisecond of `w` as that of the last evaluation, or the evaluation's failure. -/
def refreshed (w : σ) : Except HealthError Selection → (Selection × Nat) ⊕ Except HealthError Bool
  | .ok sel => .inl (sel, VirtualClock.now w / 2)
  | .error e => .inr (.error e)

/-- One round of a wait on `kind` in the state `s` (the selection, and the millisecond of the last
evaluation), run from `w` up to the limit `d`: it leaves `w'` and goes on with `y`, which is
`none` when the limit cut it, and `moves` are what it did, each with the millisecond it began at. -/
inductive Round (d : Option Nat) :
    Selection × Nat → σ → σ → Option ((Selection × Nat) ⊕ Except HealthError Bool) →
      List (PollMove × Nat) → Prop
  /-- A ready instance ends the wait. -/
  | ready {role : Role} {last : Nat} {w : σ} :
      Round d (.ready role, last) w w (some (.inr (.ok true))) []
  /-- Once the refresh interval has passed, the round evaluates the service afresh. -/
  | refresh {role : Role} {last : Nat} {w w₁ : σ} {y : Option (Except HealthError Selection)} :
      t.config.statusRefreshInterval ≤ VirtualClock.now w / 2 - last →
      Within d w (t.evaluate kind) w₁ y →
      Round d (.waitOn role, last) w w₁ (y.map (refreshed w₁)) [(.evaluate, VirtualClock.now w / 2)]
  /-- Else it polls the instance waited on; a synced instance ends the wait, recorded as synced. -/
  | synced {role : Role} {last : Nat} {w w₁ : σ} :
      VirtualClock.now w / 2 - last < t.config.statusRefreshInterval →
      Within d w (t.poll kind role) w₁ (some (.ok .synced)) →
      Round d (.waitOn role, last) w (TrackerWorld.setHealth w₁ kind role .synced)
        (some (.inr (.ok true))) [(.poll, VirtualClock.now w / 2)]
  /-- A failed poll ends the wait with the failure, the instance recorded as unavailable. -/
  | fails {role : Role} {last : Nat} {w w₁ : σ} {e : ClientError} :
      VirtualClock.now w / 2 - last < t.config.statusRefreshInterval →
      Within d w (t.poll kind role) w₁ (some (.error e)) →
      Round d (.waitOn role, last) w (TrackerWorld.setHealth w₁ kind role (.unavailable e.message))
        (some (.inr (.error (.transport kind role e)))) [(.poll, VirtualClock.now w / 2)]
  /-- An instance still syncing is recorded so, and the round sleeps the poll interval; the next
  round waits on the same instance, with the same last evaluation. -/
  | syncing {role : Role} {last : Nat} {w w₁ w₂ : σ} {p : Option Binary64} :
      VirtualClock.now w / 2 - last < t.config.statusRefreshInterval →
      Within d w (t.poll kind role) w₁ (some (.ok (.syncing p))) →
      w₂ = TrackerWorld.setHealth w₁ kind role (.syncing p) →
      ByLimit d (wakeTick w₂ t.config.pollInterval) →
      Round d (.waitOn role, last) w (VirtualClock.advanceTo w₂ (wakeTick w₂ t.config.pollInterval))
        (some (.inl (.waitOn role, last)))
        [(.poll, VirtualClock.now w / 2), (.sleep, VirtualClock.now w₂ / 2)]
  /-- The limit comes within that sleep. -/
  | sleepCut {role : Role} {last : Nat} {w w₁ w₂ : σ} {p : Option Binary64} {D : Nat} :
      VirtualClock.now w / 2 - last < t.config.statusRefreshInterval →
      Within d w (t.poll kind role) w₁ (some (.ok (.syncing p))) →
      w₂ = TrackerWorld.setHealth w₁ kind role (.syncing p) →
      d = some D → D < wakeTick w₂ t.config.pollInterval →
      Round d (.waitOn role, last) w (VirtualClock.advanceTo w₂ D) none
        [(.poll, VirtualClock.now w / 2), (.sleep, VirtualClock.now w₂ / 2)]
  /-- The limit comes within the poll. -/
  | pollCut {role : Role} {last : Nat} {w w₁ : σ} :
      VirtualClock.now w / 2 - last < t.config.statusRefreshInterval →
      Within d w (t.poll kind role) w₁ none →
      Round d (.waitOn role, last) w w₁ none [(.poll, VirtualClock.now w / 2)]

/-- Rounds of a wait on `kind`, with `n` rounds left, from the state `s` in `w` up to the limit
`d`: the wait ends in `w'` with `y` (`none` when the limit cut it), and `moves` are the moves of
all the rounds. -/
inductive Polls (d : Option Nat) :
    Nat → Selection × Nat → σ → σ → Option (Except HealthError Bool) → List (PollMove × Nat) → Prop
  /-- A round that goes on is followed by the rounds from its new state. -/
  | next {n : Nat} {s s' : Selection × Nat} {w w₁ w₂ : σ} {y : Option (Except HealthError Bool)}
      {ms ms' : List (PollMove × Nat)} :
      t.Round kind d s w w₁ (some (.inl s')) ms → Polls d n s' w₁ w₂ y ms' →
      Polls d (n + 1) s w w₂ y (ms ++ ms')
  /-- A round that ends the wait, or that the limit cuts, is the last. -/
  | stop {n : Nat} {s : Selection × Nat} {w w₁ : σ} {y : Option (Except HealthError Bool)}
      {ms : List (PollMove × Nat)} :
      t.Round kind d s w w₁ (y.map .inr) ms → Polls d (n + 1) s w w₁ y ms
  /-- Out of rounds, the wait hangs until the limit. -/
  | outOfRounds {s : Selection × Nat} {w : σ} {D : Nat} :
      d = some D → Polls d 0 s w (VirtualClock.advanceTo w D) none []

/-- A wait on `kind` inside its lock, run from `w` up to the limit `d`: it evaluates the service,
and ends with the failure of that evaluation, or goes round from the selection it made. -/
inductive Waiting (d : Option Nat) : σ → σ → Option (Except HealthError Bool) → List (PollMove × Nat) → Prop
  /-- The first evaluation fails, or the limit cuts it. -/
  | stop {w w₁ : σ} {y : Option HealthError} :
      Within d w (t.evaluate kind) w₁ (y.map .error) →
      Waiting d w w₁ (y.map .error) [(.evaluate, VirtualClock.now w / 2)]
  /-- The first evaluation selects an instance; the rounds start with it, and with the
  millisecond the wait began at as that of the last evaluation. -/
  | rounds {w w₁ w₂ : σ} {sel : Selection} {y : Option (Except HealthError Bool)}
      {ms : List (PollMove × Nat)} :
      Within d w (t.evaluate kind) w₁ (some (.ok sel)) →
      t.Polls kind d Fiber.rounds (sel, VirtualClock.now w / 2) w₁ w₂ y ms →
      Waiting d w w₂ y ((.evaluate, VirtualClock.now w / 2) :: ms)

variable {t kind}

@[simp] theorem within_record_iff {d : Option Nat} {role : Role} {h : Health} {w w' : σ} {x : Option Unit} :
    Within d w (TrackerWorld.record kind role h) w' x ↔
      w' = TrackerWorld.setHealth w kind role h ∧ x = some () :=
  within_modify_iff

@[simp] theorem within_record_bind_iff {α : Type} {d : Option Nat} {role : Role} {h : Health}
    {g : Unit → Fiber σ α} {w w' : σ} {x : Option α} :
    Within d w (Fiber.bind (TrackerWorld.record kind role h) g) w' x ↔
      Within d (TrackerWorld.setHealth w kind role h) (g ()) w' x :=
  within_update_iff

/-- A refresh goes on with what its evaluation gave. -/
theorem within_pollRound_refresh_iff {d : Option Nat} {role : Role} {last : Nat} {w w' : σ}
    {y : Option ((Selection × Nat) ⊕ Except HealthError Bool)}
    (hR : t.config.statusRefreshInterval ≤ VirtualClock.now w / 2 - last) :
    Within d w (t.pollRound kind (.waitOn role, last)) w' y ↔
      ∃ z, Within d w (t.evaluate kind) w' z ∧ y = z.map (refreshed w') := by
  simp only [pollRound, bind_now, within_read_iff, if_pos hR, within_bind_iff]
  constructor
  · rintro (⟨w₁, e | sel, he, hk⟩ | ⟨he, rfl⟩)
    · obtain ⟨rfl, rfl⟩ := within_done_iff.mp hk
      exact ⟨_, he, rfl⟩
    · simp only [within_read_iff, within_done_iff] at hk
      obtain ⟨rfl, rfl⟩ := hk
      exact ⟨_, he, rfl⟩
    · exact ⟨none, he, rfl⟩
  · rintro ⟨(_ | e | sel), he, rfl⟩
    · exact .inr ⟨he, rfl⟩
    · exact .inl ⟨_, _, he, .done _ _⟩
    · exact .inl ⟨_, _, he, by simp [refreshed]⟩

/-! ### A wait's rounds never end with `false` -/

theorem Round.ne_false {d : Option Nat} {s : Selection × Nat} {w w' : σ}
    {o : Option ((Selection × Nat) ⊕ Except HealthError Bool)} {ms : List (PollMove × Nat)}
    (h : t.Round kind d s w w' o ms) : o ≠ some (.inr (.ok false)) := by
  cases h with
  | @refresh _ _ _ _ y _ _ => rcases y with _ | e | sel <;> simp [refreshed]
  | ready | synced | fails | syncing | sleepCut | pollCut => simp

theorem Polls.ne_false {d : Option Nat} {n : Nat} {s : Selection × Nat} {w w' : σ}
    {y : Option (Except HealthError Bool)} {ms : List (PollMove × Nat)}
    (h : t.Polls kind d n s w w' y ms) : y ≠ some (.ok false) := by
  induction h with
  | next _ _ ih => exact ih
  | stop hr =>
    rintro rfl
    exact hr.ne_false rfl
  | outOfRounds => simp

theorem Waiting.ne_false {d : Option Nat} {w w' : σ} {y : Option (Except HealthError Bool)}
    {ms : List (PollMove × Nat)} (h : t.Waiting kind d w w' y ms) : y ≠ some (.ok false) := by
  cases h with
  | stop => simp
  | rounds _ hp => exact hp.ne_false

section Runs

variable [LawfulClock σ] (ht : t.Keeps VirtualClock.now) {d : Option Nat}

include ht

/-- A poll goes on as it answered: a synced instance or a failure ends the wait, and an instance
still syncing sends the wait to sleep. -/
theorem within_pollRound_poll_iff {role : Role} {last : Nat} {w w' : σ}
    {y : Option ((Selection × Nat) ⊕ Except HealthError Bool)} (hw : ByLimit d (VirtualClock.now w))
    (hR : VirtualClock.now w / 2 - last < t.config.statusRefreshInterval) :
    Within d w (t.pollRound kind (.waitOn role, last)) w' y ↔
      ∃ ms, t.Round kind d (.waitOn role, last) w w' y ms := by
  simp only [pollRound, bind_now, within_read_iff, if_neg (Nat.not_le.mpr hR), within_bind_iff]
  -- the poll keeps the world within the limit, and so does recording what it showed
  have hnow : ∀ {w₁ : σ} {a : Option (Except ClientError SyncPoll)}, Within d w (t.poll kind role) w₁ a →
      ∀ h, ByLimit d (VirtualClock.now (TrackerWorld.setHealth w₁ kind role h)) := by
    intro w₁ a hp h
    rw [ht.setHealth]
    exact (Within.now_le (keeps_poll ht.execution ht.beacon kind role) hp).2 hw
  constructor
  · rintro (⟨w₁, e | (p | _), hp, hk⟩ | ⟨hp, rfl⟩)
    · rw [within_record_bind_iff, within_done_iff] at hk
      obtain ⟨rfl, rfl⟩ := hk
      exact ⟨_, .fails hR hp⟩
    · rw [within_record_bind_iff] at hk
      rcases (within_sleep_bind_iff (hnow hp _)).mp hk with ⟨hby, hk⟩ | ⟨D, hD, hlt, rfl, rfl⟩
      · obtain ⟨rfl, rfl⟩ := within_done_iff.mp hk
        exact ⟨_, .syncing hR hp rfl hby⟩
      · exact ⟨_, .sleepCut hR hp rfl hD hlt⟩
    · rw [within_record_bind_iff, within_done_iff] at hk
      obtain ⟨rfl, rfl⟩ := hk
      exact ⟨_, .synced hR hp⟩
    · exact ⟨_, .pollCut hR hp⟩
  · rintro ⟨ms, h⟩
    cases h with
    | refresh hR' => omega
    | synced _ hp => exact .inl ⟨_, _, hp, within_record_bind_iff.mpr (.done _ _)⟩
    | fails _ hp => exact .inl ⟨_, _, hp, within_record_bind_iff.mpr (.done _ _)⟩
    | syncing _ hp hw₂ hby =>
      subst hw₂
      exact .inl ⟨_, _, hp, within_record_bind_iff.mpr
        ((within_sleep_bind_iff (hnow hp _)).mpr (.inl ⟨hby, .done _ _⟩))⟩
    | sleepCut _ hp hw₂ hD hlt =>
      subst hw₂
      exact .inl ⟨_, _, hp, within_record_bind_iff.mpr
        ((within_sleep_bind_iff (hnow hp _)).mpr (.inr ⟨_, hD, hlt, rfl, rfl⟩))⟩
    | pollCut _ hp => exact .inr ⟨hp, rfl⟩

/-- **One round of a wait**, run up to a limit, is what `Tracker.Round` says. -/
theorem within_pollRound_iff {s : Selection × Nat} {w w' : σ}
    {y : Option ((Selection × Nat) ⊕ Except HealthError Bool)} (hw : ByLimit d (VirtualClock.now w)) :
    Within d w (t.pollRound kind s) w' y ↔ ∃ ms, t.Round kind d s w w' y ms := by
  obtain ⟨sel, last⟩ := s
  cases sel with
  | ready role =>
    constructor
    · intro h
      obtain ⟨rfl, rfl⟩ := within_done_iff.mp h
      exact ⟨[], .ready⟩
    · rintro ⟨ms, h⟩
      cases h
      exact .done _ _
  | waitOn role =>
    by_cases hR : t.config.statusRefreshInterval ≤ VirtualClock.now w / 2 - last
    · rw [within_pollRound_refresh_iff hR]
      constructor
      · rintro ⟨z, he, rfl⟩
        exact ⟨_, .refresh hR he⟩
      · rintro ⟨ms, h⟩
        cases h
        case refresh he => exact ⟨_, he, rfl⟩
        all_goals omega
    · exact within_pollRound_poll_iff ht hw (Nat.lt_of_not_le hR)

/-- **The loop of a wait**, run up to a limit with `n` rounds left, is what `Tracker.Polls` says:
by induction on the rounds left, each round being `Tracker.Round`. -/
theorem within_loop_iff : ∀ (n : Nat) {s : Selection × Nat} {w w' : σ} {y : Option (Except HealthError Bool)},
    ByLimit d (VirtualClock.now w) →
      (Within d w (Fiber.loop n (t.pollRound kind) s) w' y ↔ ∃ ms, t.Polls kind d n s w w' y ms)
  | 0, s, w, w', y, hw => by
    rw [Fiber.loop, within_hang_iff hw]
    constructor
    · rintro ⟨D, rfl, rfl, rfl⟩
      exact ⟨[], .outOfRounds rfl⟩
    · rintro ⟨ms, h⟩
      cases h with
      | outOfRounds hD => exact ⟨_, hD, rfl, rfl⟩
  | n + 1, s, w, w', y, hw => by
    rw [Fiber.loop, within_bind_iff]
    -- a round that goes on leaves the world within the limit for the next one
    have hnext : ∀ {w₁ : σ} {x}, Within d w (t.pollRound kind s) w₁ x → ByLimit d (VirtualClock.now w₁) :=
      fun h₁ => (Within.now_le (ht.pollRound kind s) h₁).2 hw
    constructor
    · rintro (⟨w₁, s' | r, h₁, h₂⟩ | ⟨h₁, rfl⟩)
      · obtain ⟨ms, hr⟩ := (within_pollRound_iff ht hw).mp h₁
        obtain ⟨ms', hp⟩ := (within_loop_iff n (hnext h₁)).mp h₂
        exact ⟨_, .next hr hp⟩
      · obtain ⟨rfl, rfl⟩ := within_done_iff.mp h₂
        obtain ⟨ms, hr⟩ := (within_pollRound_iff ht hw).mp h₁
        exact ⟨ms, .stop hr⟩
      · obtain ⟨ms, hr⟩ := (within_pollRound_iff ht hw).mp h₁
        exact ⟨ms, .stop (y := none) hr⟩
    · rintro ⟨ms, h⟩
      cases h with
      | next hr hp =>
        have h₁ := (within_pollRound_iff ht hw).mpr ⟨_, hr⟩
        exact .inl ⟨_, _, h₁, (within_loop_iff n (hnext h₁)).mpr ⟨_, hp⟩⟩
      | stop hr =>
        rcases y with _ | r
        · exact .inr ⟨(within_pollRound_iff ht hw).mpr ⟨_, hr⟩, rfl⟩
        · exact .inl ⟨_, _, (within_pollRound_iff ht hw).mpr ⟨_, hr⟩, .done _ _⟩

/-- **A wait inside its lock**, run up to a limit, is what `Tracker.Waiting` says. -/
theorem within_pollUntilSynced_iff {w w' : σ} {y : Option (Except HealthError Bool)}
    (hw : ByLimit d (VirtualClock.now w)) :
    Within d w (t.pollUntilSynced kind) w' y ↔ ∃ ms, t.Waiting kind d w w' y ms := by
  simp only [pollUntilSynced, bind_now, within_read_iff, within_bind_iff]
  have hnext : ∀ {w₁ : σ} {x}, Within d w (t.evaluate kind) w₁ x → ByLimit d (VirtualClock.now w₁) :=
    fun he => (Within.now_le (ht.evaluate kind) he).2 hw
  constructor
  · rintro (⟨w₁, e | sel, he, hk⟩ | ⟨he, rfl⟩)
    · obtain ⟨rfl, rfl⟩ := within_done_iff.mp hk
      exact ⟨_, .stop (y := some e) he⟩
    · obtain ⟨ms, hp⟩ := (within_loop_iff ht _ (hnext he)).mp hk
      exact ⟨_, .rounds he hp⟩
    · exact ⟨_, .stop (y := none) he⟩
  · rintro ⟨ms, h⟩
    cases h with
    | stop he =>
      rename_i z
      rcases z with _ | e
      · exact .inr ⟨he, rfl⟩
      · exact .inl ⟨_, _, he, .done _ _⟩
    | rounds he hp => exact .inl ⟨_, _, he, (within_loop_iff ht _ (hnext he)).mpr ⟨_, hp⟩⟩

end Runs

end Tracker

end ChainWatch
