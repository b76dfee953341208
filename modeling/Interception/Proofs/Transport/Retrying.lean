import Interception.Retry
import Mathlib.Data.ENat.Lattice
import Mathlib.Tactic.Ring

/-!
What a retried operation can count on. A span is measured in nanoseconds; a
product of a span is exact wherever there is one, and there is none only where
no span is as long. So a delay is the exact product or the cap, whichever is
shorter. A run ends with the first success or the last attempt, which decides
its calls, its sleeps and its answer.
-/

namespace Interception

/-! ### Spans by their nanoseconds -/

namespace Span

variable {span other : Span}

def nanosPerSecond : Nat := 1000000000

/-- The length of a span, in nanoseconds. -/
def length (span : Span) : Nat :=
  span.seconds.toNat * nanosPerSecond + span.nanos

/-- The least length that no span has. -/
def horizon : Nat := UInt64.size * nanosPerSecond

theorem length_lt_horizon (span : Span) : span.length < horizon := by
  have seconds : span.seconds.toNat < UInt64.size := span.seconds.toNat_lt_size
  have nanos : span.nanos.val < nanosPerSecond := span.nanos.isLt
  simp only [length, horizon, nanosPerSecond] at *
  omega

theorem lt_iff_length : span < other ↔ span.length < other.length := by
  have left : span.nanos.val < nanosPerSecond := span.nanos.isLt
  have right : other.nanos.val < nanosPerSecond := other.nanos.isLt
  show (span.seconds < other.seconds ∨
    span.seconds = other.seconds ∧ span.nanos < other.nanos) ↔ _
  simp only [UInt64.lt_iff_toNat_lt, ← UInt64.toNat_inj, Fin.lt_def, length]
  simp only [nanosPerSecond] at *
  omega

theorem length_min : (min span other).length = min span.length other.length := by
  show (if other < span then other else span).length = _
  split
  · rename_i shorter
    exact (Nat.min_eq_right (Nat.le_of_lt (lt_iff_length.mp shorter))).symm
  · rename_i longer
    exact (Nat.min_eq_left (Nat.le_of_not_lt (mt lt_iff_length.mpr longer))).symm

theorem word?_some {value : Nat} {word : UInt64} (fits : word? value = some word) :
    word.toNat = value := by
  unfold word? at fits
  split at fits
  · rename_i below
    cases fits
    exact UInt64.toNat_ofNat_of_lt' below
  · cases fits

theorem word?_none {value : Nat} (overflows : word? value = none) : UInt64.size ≤ value := by
  unfold word? at overflows
  split at overflows
  · cases overflows
  · rename_i beyond
    exact Nat.le_of_not_lt beyond

/-- The nanoseconds of a product never wrap. -/
theorem nanos_times (nanos : Fin 1000000000) (factor : UInt32) :
    (UInt64.ofNat nanos * factor.toUInt64).toNat = nanos * factor.toNat := by
  have few : nanos.val < 1000000000 := nanos.isLt
  have small : factor.toNat < 4294967296 := factor.toNat_lt_size
  have product : nanos.val * factor.toNat ≤ 1000000000 * 4294967296 :=
    Nat.mul_le_mul (Nat.le_of_lt few) (Nat.le_of_lt small)
  have word : (UInt64.ofNat nanos).toNat = nanos :=
    UInt64.toNat_ofNat_of_lt' (by simp only [UInt64.size]; omega)
  rw [UInt64.toNat_mul, word, UInt32.toNat_toUInt64]
  exact Nat.mod_eq_of_lt (by omega)

/-- Carrying whole seconds over changes nothing of a length. -/
theorem carried_length (seconds nanos factor : Nat) :
    (seconds * factor + nanos * factor / nanosPerSecond) * nanosPerSecond +
        nanos * factor % nanosPerSecond =
      (seconds * nanosPerSecond + nanos) * factor := by
  have carried := Nat.div_add_mod (nanos * factor) nanosPerSecond
  calc
    _ = seconds * factor * nanosPerSecond +
        (nanosPerSecond * (nanos * factor / nanosPerSecond) +
          nanos * factor % nanosPerSecond) := by ring
    _ = seconds * factor * nanosPerSecond + nanos * factor := by rw [carried]
    _ = (seconds * nanosPerSecond + nanos) * factor := by ring

/-- A product of a span is exact, and it fails only where no span is as long. -/
theorem times?_exact (span : Span) (factor : UInt32) :
    match span.times? factor with
    | some product => product.length = span.length * factor.toNat
    | none => horizon ≤ span.length * factor.toNat := by
  have whole : _ = span.length * factor.toNat :=
    carried_length span.seconds.toNat span.nanos factor.toNat
  have nanos := nanos_times span.nanos factor
  unfold times?
  generalize UInt64.ofNat span.nanos * factor.toUInt64 = word at nanos ⊢
  have carry : (word / 1000000000).toNat = span.nanos * factor.toNat / nanosPerSecond := by
    rw [UInt64.toNat_div, nanos]
    rfl
  -- A length with more seconds than fit is beyond the horizon.
  have far {seconds rest : Nat} (overflows : UInt64.size ≤ seconds) :
      horizon ≤ seconds * nanosPerSecond + rest :=
    Nat.le_add_right_of_le (Nat.mul_le_mul_right nanosPerSecond overflows)
  cases multiplied : word? (span.seconds.toNat * factor.toNat) with
  | none =>
      show horizon ≤ span.length * factor.toNat
      rw [← whole]
      exact far (Nat.le_add_right_of_le (word?_none multiplied))
  | some product =>
      have multiple := word?_some multiplied
      cases added : word? (product.toNat + (word / 1000000000).toNat) with
      | none =>
          have overflows := word?_none added
          rw [multiple, carry] at overflows
          simp only [Option.bind_eq_bind, Option.bind_some, added, Option.bind_none]
          rw [← whole]
          exact far overflows
      | some seconds =>
          have all := word?_some added
          rw [multiple, carry] at all
          simp only [Option.bind_eq_bind, Option.bind_some, added, Option.pure_def]
          have rest : (Fin.ofNat 1000000000 (word % 1000000000).toNat).val =
              span.nanos * factor.toNat % nanosPerSecond := by
            show (word % 1000000000).toNat % 1000000000 = _
            rw [UInt64.toNat_mod, nanos]
            exact Nat.mod_mod _ _
          rw [← whole, length, all, rest]

end Span

namespace RetryPolicy

variable {policy : RetryPolicy} {attempt : Nat}

/-- A delay is the product or the cap, whichever is shorter, also where the
product has no span. -/
theorem delayAfter_length (policy : RetryPolicy) (attempt : Nat) :
    (policy.delayAfter attempt).length =
      min (policy.initialDelay.length * (factor attempt).toNat) policy.maxDelay.length := by
  have found := policy.initialDelay.times?_exact (factor attempt)
  unfold delayAfter
  rw [Span.length_min]
  cases multiplied : policy.initialDelay.times? (factor attempt) with
  | some product =>
      rw [multiplied] at found
      rw [Option.getD_some, found]
  | none =>
      rw [multiplied] at found
      have capped := Nat.le_trans (Nat.le_of_lt policy.maxDelay.length_lt_horizon) found
      rw [Option.getD_none, Nat.min_self, Nat.min_eq_right capped]

theorem factor_power (reached : attempt ≤ 32) : (factor attempt).toNat = 2 ^ (attempt - 1) := by
  have places : attempt - 1 < 32 := by omega
  have within : 2 ^ (attempt - 1) < 2 ^ 32 := Nat.pow_lt_pow_right (by decide) places
  unfold factor shiftLeft?
  rw [if_pos places, Option.getD_some, UInt32.toNat_shiftLeft, UInt32.toNat_ofNat',
    Nat.mod_mod_of_dvd _ (by decide), Nat.mod_eq_of_lt places, Nat.shiftLeft_eq, UInt32.toNat_one,
    Nat.one_mul, Nat.mod_eq_of_lt within]

theorem factor_full (beyond : 32 < attempt) : (factor attempt).toNat = 2 ^ 32 - 1 := by
  unfold factor shiftLeft?
  rw [if_neg (by omega)]
  rfl

theorem factor_mono {earlier later : Nat} (order : earlier ≤ later) :
    (factor earlier).toNat ≤ (factor later).toNat := by
  by_cases reached : later ≤ 32
  · rw [factor_power reached, factor_power (Nat.le_trans order reached)]
    exact Nat.pow_le_pow_right (by decide) (Nat.sub_le_sub_right order 1)
  · rw [factor_full (Nat.lt_of_not_le reached)]
    exact Nat.le_sub_one_of_lt (factor earlier).toNat_lt

/-! ### Runs -/

variable {Failure Value : Type} {outcome : Nat → Except Failure Value}

/-- A call that is tried again some times, with a sleep before each further
call for the delay after the attempt that failed. -/
def paced (policy : RetryPolicy) (attempt retries : Nat) : List Deed :=
  .call :: (List.range retries).flatMap fun failed =>
    [.sleep (policy.delayAfter (attempt + failed)), .call]

theorem paced_succ (policy : RetryPolicy) (attempt retries : Nat) :
    policy.paced attempt (retries + 1) =
      .call :: .sleep (policy.delayAfter attempt) :: policy.paced (attempt + 1) retries := by
  simp [paced, List.range_succ_eq_map, List.flatMap_map, Nat.add_comm, Nat.add_left_comm]

theorem count_paced (policy : RetryPolicy) (attempt retries : Nat) :
    (policy.paced attempt retries).count .call = retries + 1 := by
  induction retries generalizing attempt with
  | zero => rfl
  | succ retries retries_count => simp [paced_succ, retries_count]

/-- The last call made is the first that succeeds or the one of the last
attempt. The calls before it are answered in turn, so the induction is on how
many there are and shifts the answers by one. -/
theorem runFrom_stops (policy : RetryPolicy) (attempt retries : Nat)
    (outcome : Nat → Except Failure Value)
    (fails : ∀ call, 1 ≤ call → call ≤ retries → ∃ failure, outcome call = .error failure)
    (inside : attempt + retries ≤ max policy.maxAttempts 1)
    (stops : (∃ value, outcome (retries + 1) = .ok value) ∨
      attempt + retries = max policy.maxAttempts 1) :
    policy.runFrom attempt outcome = ⟨policy.paced attempt retries, outcome (retries + 1)⟩ := by
  induction retries generalizing attempt outcome with
  | zero =>
      rw [runFrom]
      cases answer : outcome 1 with
      | ok value => rfl
      | error failure =>
          have last : attempt + 0 = max policy.maxAttempts 1 :=
            stops.resolve_left fun ⟨value, succeeded⟩ => by
              rw [answer] at succeeded
              cases succeeded
          exact if_pos (Nat.le_of_eq last.symm)
  | succ retries retries_stop =>
      obtain ⟨failure, failed⟩ := fails 1 (Nat.le_refl 1) (Nat.le_add_left 1 retries)
      have more : ¬ max policy.maxAttempts 1 ≤ attempt := by omega
      have later := retries_stop (attempt + 1) (fun call => outcome (call + 1))
        (fun call first last => fails (call + 1) (by omega) (by omega)) (by omega)
        (stops.imp_right (by omega))
      rw [runFrom, failed, paced_succ]
      simp only [more, if_false, later]

/-- A run of so many attempts ends with this call: all before it fail, and it
succeeds or is the last there may be. -/
structure Stops (outcome : Nat → Except Failure Value) (bound last : ℕ) : Prop where
  counted : 1 ≤ last
  inside : last ≤ bound
  fails : ∀ call, 1 ≤ call → call < last → ∃ failure, outcome call = .error failure
  ends : (∃ value, outcome last = .ok value) ∨ last = bound

theorem exists_stop (outcome : Nat → Except Failure Value) {bound : ℕ} (positive : 1 ≤ bound) :
    ∃ last, Stops outcome bound last := by
  classical
  have found : ∃ call, 1 ≤ call ∧ ((∃ value, outcome call = .ok value) ∨ call = bound) :=
    ⟨bound, positive, .inr rfl⟩
  obtain ⟨counted, ends⟩ := Nat.find_spec found
  refine ⟨Nat.find found, counted, Nat.find_min' found ⟨positive, .inr rfl⟩, ?_, ends⟩
  intro call first early
  cases answer : outcome call with
  | error failure => exact ⟨failure, rfl⟩
  | ok value => exact absurd ⟨first, .inl ⟨value, answer⟩⟩ (Nat.find_min found early)

theorem run_stops {last : ℕ} (stops : Stops outcome (max policy.maxAttempts 1) last) :
    policy.run outcome = ⟨policy.paced 1 (last - 1), outcome last⟩ := by
  have counted := stops.counted
  have inside := stops.inside
  have retries : last - 1 + 1 = last := Nat.sub_add_cancel counted
  have ran := runFrom_stops policy 1 (last - 1) outcome
    (fun call first early => stops.fails call first (by omega)) (by omega)
    (by
      rw [retries]
      exact stops.ends.imp_right (by omega))
  rw [retries] at ran
  exact ran

/-- The number of the first call that succeeds, calls being counted from one. -/
noncomputable def firstSuccess (outcome : Nat → Except Failure Value) : ℕ∞ :=
  sInf {first | ∃ call : ℕ, first = call ∧ 1 ≤ call ∧ ∃ value, outcome call = .ok value}

theorem first_le {call : ℕ} (counted : 1 ≤ call) (succeeds : ∃ value, outcome call = .ok value) :
    firstSuccess outcome ≤ call :=
  sInf_le ⟨call, rfl, counted, succeeds⟩

/-- Where all calls before one fail, the first success is not before it. -/
theorem le_first {later : ℕ}
    (fails : ∀ call, 1 ≤ call → call < later → ∃ failure, outcome call = .error failure) :
    (later : ℕ∞) ≤ firstSuccess outcome := by
  refine le_sInf ?_
  rintro _ ⟨call, rfl, counted, value, succeeded⟩
  refine Nat.cast_le.mpr (Nat.le_of_not_lt fun early => ?_)
  obtain ⟨failure, failed⟩ := fails call counted early
  rw [failed] at succeeded
  cases succeeded

theorem stops_min {bound last : ℕ} (stops : Stops outcome bound last) :
    (last : ℕ∞) = min (firstSuccess outcome) bound := by
  have later := le_first stops.fails
  rcases stops.ends with succeeds | rfl
  · have first := le_antisymm later (first_le stops.counted succeeds)
    rw [← first, min_eq_left (Nat.cast_le.mpr stops.inside)]
  · rw [min_eq_right later]

theorem stops_succeeds {bound last : ℕ} (stops : Stops outcome bound last) :
    (∃ value, outcome last = .ok value) ↔ firstSuccess outcome ≤ bound := by
  constructor
  · intro succeeds
    exact (first_le stops.counted succeeds).trans (Nat.cast_le.mpr stops.inside)
  · intro within
    refine stops.ends.elim id fun final => ?_
    cases answer : outcome last with
    | ok value => exact ⟨value, rfl⟩
    | error failure =>
        -- No call up to the last possible one would succeed.
        have beyond : ((last + 1 : ℕ) : ℕ∞) ≤ firstSuccess outcome := by
          refine le_first fun call counted early => ?_
          rcases Nat.lt_succ_iff_lt_or_eq.mp early with before | rfl
          · exact stops.fails call counted before
          · exact ⟨failure, answer⟩
        have late := Nat.cast_le.mp (beyond.trans within)
        omega

/-- A retried operation is called until its first success or the last attempt,
and its answer is the run's. Between two calls the run sleeps once, for the
delay after the attempt that failed. Delays never exceed the cap and never
shrink, and up to the 32nd attempt they are the first delay doubled each time
or the cap, whatever the spans are. -/
theorem attempts_exact (policy : RetryPolicy) (outcome : Nat → Except Failure Value) :
    let account := policy.run outcome
    let bound : ℕ := max 1 policy.maxAttempts
    (account.calls : ℕ∞) = min (firstSuccess outcome) bound ∧
    account.result = outcome account.calls ∧
    ((∃ value, account.result = .ok value) ↔ firstSuccess outcome ≤ bound) ∧
    account.deeds = policy.paced 1 (account.calls - 1) ∧
    (∀ attempt, (policy.delayAfter attempt).length ≤ policy.maxDelay.length) ∧
    (∀ attempt, (policy.delayAfter attempt).length ≤ (policy.delayAfter (attempt + 1)).length) ∧
    ∀ attempt, 1 ≤ attempt → attempt ≤ 32 → (policy.delayAfter attempt).length =
      min (policy.initialDelay.length * 2 ^ (attempt - 1)) policy.maxDelay.length := by
  intro account bound
  obtain ⟨last, stops⟩ := exists_stop outcome (Nat.le_max_right policy.maxAttempts 1)
  have ran : account = ⟨policy.paced 1 (last - 1), outcome last⟩ := run_stops stops
  have calls : account.calls = last := by
    rw [ran]
    exact (count_paced policy 1 (last - 1)).trans (Nat.sub_add_cancel stops.counted)
  have same : max policy.maxAttempts 1 = bound := Nat.max_comm _ _
  rw [same] at stops
  refine ⟨calls ▸ stops_min stops, ?_, ?_, ?_, ?_, ?_, ?_⟩
  · rw [calls, ran]
  · rw [ran]
    exact stops_succeeds stops
  · rw [calls, ran]
  · intro attempt
    rw [delayAfter_length]
    exact Nat.min_le_right _ _
  · intro attempt
    rw [delayAfter_length, delayAfter_length]
    exact inf_le_inf_right _ (Nat.mul_le_mul_left _ (factor_mono (Nat.le_succ attempt)))
  · intro attempt _ reached
    rw [delayAfter_length, factor_power reached]

/-! A first delay so long that the products of later attempts are no spans. -/

def patient : RetryPolicy :=
  ⟨3, ⟨4611686018427387904, ⟨500000000, by decide⟩⟩,
    ⟨18446744073709551615, ⟨999999999, by decide⟩⟩⟩

def refusedTwice (call : Nat) : Except String String :=
  if call = 3 then .ok "connected" else .error "refused"

theorem patient_connects :
    let account := patient.run refusedTwice
    account.calls = 3 ∧ account.result = .ok "connected" ∧
    account.deeds = [.call, .sleep (patient.delayAfter 1), .call,
      .sleep (patient.delayAfter 2), .call] ∧
    Span.horizon ≤ patient.initialDelay.length * 2 ^ 31 ∧
    (patient.delayAfter 32).length = patient.maxDelay.length := by
  intro account
  have stops : Stops refusedTwice 3 3 :=
    ⟨by decide, by decide, fun call _ early => ⟨"refused", if_neg (Nat.ne_of_lt early)⟩,
      .inr rfl⟩
  obtain ⟨called, answered, _, acted, _, _, doubled⟩ := attempts_exact patient refusedTwice
  have calls : account.calls = 3 := Nat.cast_inj.mp (called.trans (stops_min stops).symm)
  refine ⟨calls, ?_, ?_, by decide, ?_⟩
  · rw [answered, calls]
    rfl
  · rw [acted, calls]
    rfl
  · rw [doubled 32 (by decide) (by decide)]
    decide

end RetryPolicy

end Interception
