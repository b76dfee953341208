import Mathlib.Algebra.GroupWithZero.Nat
import Mathlib.Data.List.DropRight
import Interception.Filter.Degraded

/-!
Degraded mode as a function of the verdicts so far. The processor keeps a
counter and a flag, and they are cleared by different verdicts: the counter by
any that is no timeout, the flag by one that came from vetting only. Here both
are read off the history of verdicts, whatever events were examined in between
and at whatever times.
-/

namespace Interception.Degraded

/-- What happens to the processor as long as nobody changes its settings. -/
inductive Deed
  | examined (now : Nat) (report : Report)
  | concluded (now : Nat) (report : Report) (decidedBy : Option String)
  deriving DecidableEq

def Deed.act (mode : Degraded) : Deed → Degraded
  | examined now report => (mode.examine now report).1
  | concluded now report decidedBy => (mode.conclude now report decidedBy).1

def after (mode : Degraded) (deeds : List Deed) : Degraded :=
  deeds.foldl Deed.act mode

/-- The verdict of somebody else that a deed brings. -/
def Deed.verdict? : Deed → Option Report
  | examined .. => none
  | concluded _ report decidedBy => if decidedBy = some name then none else some report

def history (deeds : List Deed) : List Report :=
  deeds.filterMap Deed.verdict?

/-! ## Reading a history -/

def clears (verdict : Report) : Bool :=
  verdict.action != .timeout && verdict.action != .next

def toll (verdict : Report) : Nat :=
  if verdict.action = .timeout then max verdict.timeouts 1 else 0

/-- The verdicts since the last one that was neither a timeout nor left open. -/
def streak (verdicts : List Report) : List Report :=
  verdicts.rtakeWhile fun verdict => !clears verdict

def strikes (verdicts : List Report) : Nat :=
  min ((streak verdicts).map toll).sum Text.limit32

/-- A timeout reached the threshold, and vetting has not answered since. -/
def Tripped (threshold : Nat) (verdicts : List Report) : Prop :=
  ∃ before verdict since, verdicts = before ++ verdict :: since ∧ verdict.action = .timeout ∧
    threshold ≤ strikes (before ++ [verdict]) ∧
    ∀ later ∈ since, ¬ (later.vetted = true ∧ clears later = true)

theorem strikes_cleared (verdicts : List Report) {verdict : Report}
    (cleared : clears verdict = true) : strikes (verdicts ++ [verdict]) = 0 := by
  simp [strikes, streak, cleared]

theorem strikes_counted (verdicts : List Report) {verdict : Report}
    (counted : clears verdict = false) :
    strikes (verdicts ++ [verdict]) = min (strikes verdicts + toll verdict) Text.limit32 := by
  have longer : streak (verdicts ++ [verdict]) = streak verdicts ++ [verdict] := by
    simp [streak, counted]
  simp only [strikes, longer, List.map_append, List.map_cons, List.map_nil, List.sum_append,
    List.sum_cons, List.sum_nil]
  omega

/-- One more verdict trips the processor, or leaves it tripped. -/
theorem tripped_concat {threshold : Nat} {verdicts : List Report} {verdict : Report} :
    Tripped threshold (verdicts ++ [verdict]) ↔
      (verdict.action = .timeout ∧ threshold ≤ strikes (verdicts ++ [verdict])) ∨
      (Tripped threshold verdicts ∧ ¬ (verdict.vetted = true ∧ clears verdict = true)) := by
  constructor
  · rintro ⟨before, tripping, since, split, timeout, reached, unanswered⟩
    rcases List.eq_nil_or_concat since with rfl | ⟨earlier, last, rfl⟩
    · obtain ⟨rfl, same⟩ := List.append_inj' split rfl
      obtain rfl : verdict = tripping := by simpa using same
      exact .inl ⟨timeout, reached⟩
    · have split' : verdicts ++ [verdict] = (before ++ tripping :: earlier) ++ [last] := by
        simpa using split
      obtain ⟨rfl, same⟩ := List.append_inj' split' rfl
      obtain rfl : verdict = last := by simpa using same
      refine .inr ⟨⟨before, tripping, earlier, rfl, timeout, reached, ?_⟩, ?_⟩
      · exact fun later member => unanswered later (by simp [member])
      · exact unanswered verdict (by simp)
  · rintro (⟨timeout, reached⟩ | ⟨⟨before, tripping, since, rfl, timeout, reached, unanswered⟩, open'⟩)
    · exact ⟨verdicts, verdict, [], rfl, timeout, reached, by simp⟩
    · refine ⟨before, tripping, since ++ [verdict], by simp, timeout, reached, ?_⟩
      intro later member
      rcases List.mem_append.mp member with earlier | last
      · exact unanswered later earlier
      · obtain rfl : later = verdict := by simpa using last
        exact open'

/-! ## What the processor learns from a verdict -/

theorem conclude_own (mode : Degraded) (now : Nat) (verdict : Report) :
    mode.conclude now verdict (some name) = (mode, []) := by
  simp [conclude]

theorem conclude_timeout (mode : Degraded) (now : Nat) {verdict : Report}
    {decidedBy : Option String} (foreign : decidedBy ≠ some name)
    (timeout : verdict.action = .timeout) :
    mode.conclude now verdict decidedBy =
      let counted := mode.countTimeouts verdict.timeouts
      if counted.threshold ≤ counted.count then counted.enter now counted.tripReason
      else (counted, []) := by
  simp only [conclude, if_neg foreign, timeout]

theorem conclude_open (mode : Degraded) (now : Nat) {verdict : Report}
    {decidedBy : Option String} (left : verdict.action = .next) :
    mode.conclude now verdict decidedBy = (mode, []) := by
  simp [conclude, left]

theorem conclude_clearing (mode : Degraded) (now : Nat) {verdict : Report}
    {decidedBy : Option String} (foreign : decidedBy ≠ some name)
    (cleared : clears verdict = true) :
    mode.conclude now verdict decidedBy =
      if verdict.vetted then leave { mode with count := 0 } "vetting answered"
      else ({ mode with count := 0 }, []) := by
  cases told : verdict.action <;> simp [conclude, foreign, told, clears] at cleared ⊢

/-- A verdict is a timeout, is left open or clears the count. -/
theorem verdict_cases (verdict : Report) :
    verdict.action = .timeout ∨ verdict.action = .next ∨ clears verdict = true := by
  cases told : verdict.action <;> simp [clears, told]

/-! ## What only settings change -/

structure Tuned (mode later : Degraded) : Prop where
  enabled : later.enabled = mode.enabled
  threshold : later.threshold = mode.threshold
  fallback : later.fallback = mode.fallback
  probeInterval : later.probeInterval = mode.probeInterval

theorem Tuned.trans {first middle last : Degraded} (before : Tuned first middle)
    (behind : Tuned middle last) : Tuned first last :=
  ⟨behind.enabled.trans before.enabled, behind.threshold.trans before.threshold,
    behind.fallback.trans before.fallback, behind.probeInterval.trans before.probeInterval⟩

theorem enter_tuned (mode : Degraded) (now : Nat) (reason : String) :
    Tuned mode (mode.enter now reason).1 := by
  unfold enter
  split_ifs <;> exact ⟨rfl, rfl, rfl, rfl⟩

theorem leave_tuned (mode : Degraded) (reason : String) : Tuned mode (mode.leave reason).1 := by
  unfold leave
  split_ifs <;> exact ⟨rfl, rfl, rfl, rfl⟩

theorem examine_tuned (mode : Degraded) (now : Nat) (report : Report) :
    Tuned mode (mode.examine now report).1 := by
  unfold examine
  split_ifs <;> exact ⟨rfl, rfl, rfl, rfl⟩

theorem conclude_tuned (mode : Degraded) (now : Nat) (verdict : Report)
    (decidedBy : Option String) : Tuned mode (mode.conclude now verdict decidedBy).1 := by
  have unmoved (count : Nat) : Tuned mode { mode with count } := ⟨rfl, rfl, rfl, rfl⟩
  by_cases own : decidedBy = some name
  · rw [own, conclude_own]
    exact unmoved mode.count
  rcases verdict_cases verdict with timeout | left | cleared
  · rw [conclude_timeout mode now own timeout]
    dsimp only
    split_ifs
    · obtain ⟨enabled, threshold, fallback, probeInterval⟩ :=
        enter_tuned (mode.countTimeouts verdict.timeouts) now
          (mode.countTimeouts verdict.timeouts).tripReason
      exact ⟨enabled, threshold, fallback, probeInterval⟩
    · exact unmoved _
  · rw [conclude_open mode now left]
    exact unmoved mode.count
  · rw [conclude_clearing mode now own cleared]
    split_ifs
    · obtain ⟨enabled, threshold, fallback, probeInterval⟩ :=
        leave_tuned { mode with count := 0 } "vetting answered"
      exact ⟨enabled, threshold, fallback, probeInterval⟩
    · exact unmoved 0

/-! ## The processor follows the history -/

/-- The processor stands as the verdicts say. -/
structure Follows (mode : Degraded) (verdicts : List Report) : Prop where
  counted : mode.count = strikes verdicts
  standing : mode.active = true ↔ Tripped mode.threshold verdicts

theorem act_tuned (mode : Degraded) (deed : Deed) : Tuned mode (deed.act mode) := by
  cases deed with
  | examined now report => exact examine_tuned mode now report
  | concluded now report decidedBy => exact conclude_tuned mode now report decidedBy

theorem follows_examined {mode : Degraded} {verdicts : List Report} (follows : Follows mode verdicts)
    (now : Nat) (report : Report) : Follows (mode.examine now report).1 verdicts := by
  unfold examine
  split_ifs with active due
  · exact ⟨follows.counted, follows.standing⟩
  · exact follows
  · exact follows

/-- A timeout adds to the count, and trips the processor at the threshold. -/
theorem follows_timeout {mode : Degraded} {verdicts : List Report} (follows : Follows mode verdicts)
    (now : Nat) {verdict : Report} {decidedBy : Option String} (foreign : decidedBy ≠ some name)
    (timeout : verdict.action = .timeout) :
    Follows (mode.conclude now verdict decidedBy).1 (verdicts ++ [verdict]) := by
  have open' : clears verdict = false := by simp [clears, timeout]
  have counted : (mode.countTimeouts verdict.timeouts).count = strikes (verdicts ++ [verdict]) := by
    simp [strikes_counted verdicts open', countTimeouts, follows.counted, toll, timeout]
  rw [conclude_timeout mode now foreign timeout]
  dsimp only
  split_ifs with reached
  · have tripped : Tripped mode.threshold (verdicts ++ [verdict]) :=
      tripped_concat.mpr (.inl ⟨timeout, counted ▸ reached⟩)
    unfold enter
    split_ifs with active
    · exact ⟨counted, iff_of_true active tripped⟩
    · exact ⟨counted, iff_of_true rfl tripped⟩
  · refine ⟨counted, follows.standing.trans ?_⟩
    have short : ¬ mode.threshold ≤ strikes (verdicts ++ [verdict]) := counted ▸ reached
    simp [tripped_concat, short, open', countTimeouts]

/-- Any other verdict clears the count, and the mode where it is vetted. -/
theorem follows_cleared {mode : Degraded} {verdicts : List Report} (follows : Follows mode verdicts)
    (now : Nat) {verdict : Report} {decidedBy : Option String} (foreign : decidedBy ≠ some name)
    (cleared : clears verdict = true) :
    Follows (mode.conclude now verdict decidedBy).1 (verdicts ++ [verdict]) := by
  have timeless : verdict.action ≠ .timeout := by
    rintro timeout
    simp [clears, timeout] at cleared
  have counted := strikes_cleared verdicts cleared
  have tripped : Tripped mode.threshold (verdicts ++ [verdict]) ↔
      Tripped mode.threshold verdicts ∧ verdict.vetted ≠ true := by
    simp [tripped_concat, timeless, cleared]
  rw [conclude_clearing mode now foreign cleared]
  split_ifs with vetted
  · unfold leave
    split_ifs with active
    · exact ⟨counted.symm, by simp [tripped, vetted]⟩
    · exact ⟨counted.symm, by simpa [tripped, vetted] using active⟩
  · exact ⟨counted.symm, by simpa [tripped, vetted] using follows.standing⟩

theorem follows_open {mode : Degraded} {verdicts : List Report} (follows : Follows mode verdicts)
    (now : Nat) {verdict : Report} (decidedBy : Option String) (left : verdict.action = .next) :
    Follows (mode.conclude now verdict decidedBy).1 (verdicts ++ [verdict]) := by
  have open' : clears verdict = false := by simp [clears, left]
  have same : strikes (verdicts ++ [verdict]) = strikes verdicts := by
    have bounded : strikes verdicts ≤ Text.limit32 := Nat.min_le_right ..
    simp [strikes_counted verdicts open', toll, left, bounded]
  rw [conclude_open mode now left]
  exact ⟨follows.counted.trans same.symm, by simp [follows.standing, tripped_concat, left, open']⟩

theorem follows_act {mode : Degraded} {verdicts : List Report} (follows : Follows mode verdicts)
    (deed : Deed) : Follows (deed.act mode) (verdicts ++ deed.verdict?.toList) := by
  cases deed with
  | examined now report =>
      simpa [Deed.verdict?, Deed.act] using follows_examined follows now report
  | concluded now verdict decidedBy =>
      by_cases own : decidedBy = some name
      · simpa [Deed.verdict?, own, Deed.act, conclude_own] using follows
      have brought : (Deed.concluded now verdict decidedBy).verdict?.toList = [verdict] := by
        simp [Deed.verdict?, own]
      rw [brought]
      rcases verdict_cases verdict with timeout | left | cleared
      · exact follows_timeout follows now own timeout
      · exact follows_open follows now decidedBy left
      · exact follows_cleared follows now own cleared

theorem follows_after {mode : Degraded} {verdicts : List Report} (follows : Follows mode verdicts)
    (deeds : List Deed) :
    Follows (mode.after deeds) (verdicts ++ history deeds) ∧
      (mode.after deeds).threshold = mode.threshold := by
  induction deeds generalizing mode verdicts with
  | nil => exact ⟨by simpa [after, history] using follows, rfl⟩
  | cons deed rest ih =>
      obtain ⟨later, kept⟩ := ih (follows_act follows deed)
      have read : history (deed :: rest) = deed.verdict?.toList ++ history rest := by
        cases told : deed.verdict? <;> simp [history, told]
      refine ⟨?_, kept.trans (act_tuned mode deed).threshold⟩
      rw [read, ← List.append_assoc]
      exact later

/-- A processor that starts out normal with nothing counted. Its count is the
toll of the timeouts since the last verdict that clears it, and it is degraded
exactly when a timeout took the count to the threshold and vetting has not
answered since. -/
theorem standing_of_history (mode : Degraded) (normal : mode.active = false)
    (uncounted : mode.count = 0) (deeds : List Deed) :
    (mode.after deeds).count = strikes (history deeds) ∧
      ((mode.after deeds).active = true ↔ Tripped mode.threshold (history deeds)) := by
  have start : Follows mode [] := ⟨by simpa [strikes, streak] using uncounted, by
    simp [normal, Tripped]⟩
  obtain ⟨follows, kept⟩ := follows_after start deeds
  exact ⟨follows.counted, kept ▸ follows.standing⟩

/-- Two timeouts trip the processor; an unvetted denial clears the count and
not the mode; its own verdict counts for nothing. -/
theorem standing_after_trip :
    ((ofSettings true 2 .deny 50).after [
        .concluded 1 ⟨.timeout, none, false, 1⟩ (some "VettingController"),
        .concluded 2 ⟨.timeout, none, false, 0⟩ (some "VettingController"),
        .examined 3 Report.fresh,
        .concluded 3 ⟨.deny, some Errno.EACCES, false, 0⟩ (some name),
        .concluded 4 ⟨.deny, some Errno.EACCES, false, 0⟩ (some "script")]).count = 0 ∧
      Tripped 2 [⟨.timeout, none, false, 1⟩, ⟨.timeout, none, false, 0⟩,
        ⟨.deny, some Errno.EACCES, false, 0⟩] := by
  have read := standing_of_history (ofSettings true 2 .deny 50) rfl rfl [
    .concluded 1 ⟨.timeout, none, false, 1⟩ (some "VettingController"),
    .concluded 2 ⟨.timeout, none, false, 0⟩ (some "VettingController"),
    .examined 3 Report.fresh,
    .concluded 3 ⟨.deny, some Errno.EACCES, false, 0⟩ (some name),
    .concluded 4 ⟨.deny, some Errno.EACCES, false, 0⟩ (some "script")]
  exact ⟨read.1.trans (by decide), read.2.mp (by decide)⟩

end Interception.Degraded
