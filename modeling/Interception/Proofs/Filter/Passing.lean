import Interception.Host.Service
import Interception.Proofs.Host.Calling

/-!
How an event passes along a chain. The chain is watched: beside doing what it
does, each filter writes down that it was asked, what it made of the report and
what it was told at the end. A passage is what came of one event, the answers
of the filters that it reached and who decided it, and nothing but the passage
is ever written down.
-/

namespace Interception.Chain

variable {Effect : Type → Type}

/-- What is asked and told of the filter in some place of the chain. -/
inductive Deed
  | asked (place : Nat) (enabled : Bool)
  | examined (place : Nat) (task : Personality) (event : Event) (before after : Report)
  | concluded (place : Nat) (task : Personality) (event : Event) (report : Report)
      (decidedBy : Option String)
  deriving DecidableEq

section Watching

variable [Monad Effect]

/-- A filter that writes its deeds down and is otherwise the same. -/
def watched (place : Nat) (filter : Filter Effect) : Filter (StateT (List Deed) Effect) where
  name := filter.name
  enabled := do
    let enabled ← filter.enabled
    modify (· ++ [.asked place enabled])
    return enabled
  examine task event before := do
    let after ← filter.examine task event before
    modify (· ++ [.examined place task event before after])
    return after
  conclude task event report decidedBy := do
    filter.conclude task event report decidedBy
    modify (· ++ [.concluded place task event report decidedBy])

/-- The chain from some place on, watched. -/
def watch : Nat → List (Filter Effect) → List (Filter (StateT (List Deed) Effect))
  | _, [] => []
  | place, filter :: rest => watched place filter :: watch (place + 1) rest

end Watching

/-! ### Passages -/

/-- A disabled filter has no answer, any other one answers with a report. The
first final report settles the event for the filter that left it; without one
all filters have answered. -/
inductive Settled (filters : List (Filter Effect)) : List (Option Report) → Option String → Prop
  | byNobody {answers : List (Option Report)} (all : answers.length = filters.length)
      (undecided : ∀ after, some after ∈ answers → after.final = false) :
      Settled filters answers none
  | byFilter {opening : List (Option Report)} {after : Report} {filter : Filter Effect}
      (undecided : ∀ earlier, some earlier ∈ opening → earlier.final = false)
      (here : filters[opening.length]? = some filter) (final : after.final = true) :
      Settled filters (opening ++ [some after]) (some filter.name)

/-- One event on its way along a chain. -/
structure Passage (filters : List (Filter Effect)) where
  answers : List (Option Report)
  decidedBy : Option String
  settled : Settled filters answers decidedBy

/-- The report as the last filter that examined the event left it. -/
def left (report : Report) (answers : List (Option Report)) : Report :=
  answers.foldl (fun before answer => answer.getD before) report

/-- The filters that answered with a report, each with its place. -/
def saw : Nat → List (Filter Effect) → List (Option Report) → List (Nat × Filter Effect)
  | place, filter :: rest, some _ :: answers => (place, filter) :: saw (place + 1) rest answers
  | place, _ :: rest, none :: answers => saw (place + 1) rest answers
  | _, _, _ => []

/-- Each filter that is reached is asked, and if it is enabled gets the report
that the one before it left. -/
def examinations (task : Personality) (event : Event) :
    Nat → Report → List (Option Report) → List Deed
  | _, _, [] => []
  | place, before, none :: answers =>
      .asked place false :: examinations task event (place + 1) before answers
  | place, before, some after :: answers =>
      .asked place true :: .examined place task event before after ::
        examinations task event (place + 1) after answers

/-- The same outcome for some filters, one after the other. -/
def conclusions (task : Personality) (event : Event) (report : Report) (decidedBy : Option String)
    (some : List (Nat × Filter Effect)) : List Deed :=
  some.map fun filter => .concluded filter.1 task event report decidedBy

namespace Passage

variable {filters : List (Filter Effect)}

def report (passage : Passage filters) : Report := left Report.fresh passage.answers

/-- All that is written down. Those who saw the event learn the outcome, the
last one first. -/
def deeds (task : Personality) (event : Event) (passage : Passage filters) : List Deed :=
  examinations task event 0 Report.fresh passage.answers ++
    conclusions task event passage.report passage.decidedBy
      (saw 0 filters passage.answers).reverse

/-- Behind the last filter. -/
def through : Passage ([] : List (Filter Effect)) := ⟨[], none, .byNobody rfl (by simp)⟩

theorem settled_further {filter : Filter Effect} {answer : Option Report}
    {answers : List (Option Report)} {decidedBy : Option String}
    (undecided : ∀ after, answer = some after → after.final = false)
    (settled : Settled filters answers decidedBy) :
    Settled (filter :: filters) (answer :: answers) decidedBy := by
  have undecidedAll {others : List (Option Report)}
      (rest : ∀ after, some after ∈ others → after.final = false) :
      ∀ after, some after ∈ answer :: others → after.final = false := by
    intro after member
    rcases List.mem_cons.mp member with here | there
    · exact undecided after here.symm
    · exact rest after there
  cases settled with
  | byNobody all rest => exact .byNobody (by simpa using all) (undecidedAll rest)
  | byFilter rest here final => exact .byFilter (undecidedAll rest) (by simpa using here) final

/-- A filter that leaves the event to the rest of the chain. -/
def passed (filter : Filter Effect) (answer : Option Report)
    (undecided : ∀ after, answer = some after → after.final = false) (rest : Passage filters) :
    Passage (filter :: filters) :=
  ⟨answer :: rest.answers, rest.decidedBy, settled_further undecided rest.settled⟩

/-- A filter behind which nobody sees the event. -/
def stopped (filter : Filter Effect) (filters : List (Filter Effect)) (after : Report)
    (final : after.final = true) : Passage (filter :: filters) :=
  have undecided : ∀ earlier, some earlier ∈ ([] : List (Option Report)) →
      earlier.final = false := by simp
  ⟨[some after], some filter.name, .byFilter undecided rfl final⟩

end Passage

/-- The way of an event along a chain, without the notes. -/
def pass [Monad Effect] (task : Personality) (event : Event) :
    (filters : List (Filter Effect)) → Report → Effect (Passage filters)
  | [], _ => pure .through
  | filter :: rest, before => do
      if ← filter.enabled then
        let after ← filter.examine task event before
        if final : after.final = true then return .stopped filter rest after final
        else
          let passage ← pass task event rest after
          return passage.passed filter (some after) (by simpa using final)
      else
        let passage ← pass task event rest before
        return passage.passed filter none (by simp)

section Lawful

variable [Monad Effect] [LawfulMonad Effect]

theorem run_enabled (place : Nat) (filter : Filter Effect) (deeds : List Deed) :
    (watched place filter).enabled.run deeds =
      (fun enabled => (enabled, deeds ++ [.asked place enabled])) <$> filter.enabled := by
  simp only [watched, bind_pure_comp, StateT.run_bind, StateT.run_map, StateT.run_monadLift,
    monadLift_self, StateT.run_modify, map_pure, Functor.map_map]

theorem run_examine (place : Nat) (filter : Filter Effect) (task : Personality) (event : Event)
    (before : Report) (deeds : List Deed) :
    ((watched place filter).examine task event before).run deeds =
      (fun after => (after, deeds ++ [.examined place task event before after])) <$>
        filter.examine task event before := by
  simp only [watched, bind_pure_comp, StateT.run_bind, StateT.run_map, StateT.run_monadLift,
    monadLift_self, StateT.run_modify, map_pure, Functor.map_map]

theorem run_conclude (place : Nat) (filter : Filter Effect) (task : Personality) (event : Event)
    (report : Report) (decidedBy : Option String) (deeds : List Deed) :
    ((watched place filter).conclude task event report decidedBy).run deeds =
      (fun _ => ((), deeds ++ [.concluded place task event report decidedBy])) <$>
        filter.conclude task event report decidedBy := by
  simp only [watched, bind_pure_comp, StateT.run_bind, StateT.run_monadLift, monadLift_self,
    StateT.run_modify, Functor.map_map]

variable (task : Personality) (event : Event)

/-- A walk is a passage, and has seen whoever answered in it. -/
theorem walk_passes (filters : List (Filter Effect)) : ∀ place before seen,
    walk task event filters before seen =
      (fun passage => ⟨left before passage.answers, passage.decidedBy,
        ((saw place filters passage.answers).map (·.2)).reverse ++ seen⟩) <$>
          pass task event filters before := by
  induction filters with
  | nil => intro place before seen; simp [walk, pass, Passage.through, left, saw]
  | cons filter rest further =>
      intro place before seen
      simp only [walk, pass, map_bind]
      congr 1
      funext enabled
      cases enabled with
      | false => simp [further (place + 1), Passage.passed, left, saw]
      | true =>
          simp only [↓reduceIte, map_bind]
          congr 1
          funext after
          by_cases final : after.final = true
          · simp [final, Passage.stopped, left, saw]
          · simp [final, further (place + 1), Passage.passed, left, saw]

/-- The watched walk is the same passage, with the examinations written down. -/
theorem walk_watched (filters : List (Filter Effect)) : ∀ place before seen deeds,
    (walk task event (watch place filters) before seen).run deeds =
      (fun passage => (⟨left before passage.answers, passage.decidedBy,
        ((saw place filters passage.answers).map fun filter =>
          watched filter.1 filter.2).reverse ++ seen⟩,
        deeds ++ examinations task event place before passage.answers)) <$>
          pass task event filters before := by
  induction filters with
  | nil =>
      intro place before seen deeds
      simp [watch, walk, pass, Passage.through, left, saw, examinations]
  | cons filter rest further =>
      intro place before seen deeds
      simp only [watch, walk, pass, StateT.run_bind, run_enabled, bind_map_left, map_bind]
      congr 1
      funext enabled
      cases enabled with
      | false => simp [further (place + 1), Passage.passed, left, saw, examinations]
      | true =>
          simp only [↓reduceIte, StateT.run_bind, run_examine, bind_map_left, map_bind]
          congr 1
          funext after
          by_cases final : after.final = true
          · simp [final, Passage.stopped, left, saw, examinations]
            rfl
          · simp [final, further (place + 1), Passage.passed, left, saw, examinations]

theorem notify_watched (report : Report) (decidedBy : Option String)
    (some : List (Nat × Filter Effect)) : ∀ deeds,
    (notify task event report decidedBy (some.map fun filter => watched filter.1 filter.2)).run deeds =
      (fun _ => ((), deeds ++ conclusions task event report decidedBy some)) <$>
        notify task event report decidedBy (some.map (·.2)) := by
  induction some with
  | nil => simp [notify, conclusions]
  | cons filter rest further =>
      intro deeds
      simp [notify, conclusions, run_conclude, further]

/-- An evaluation that ends with its passage. -/
def traverse (filters : List (Filter Effect)) : Effect (Passage filters) := do
  let passage ← pass task event filters Report.fresh
  notify task event passage.report passage.decidedBy
    ((saw 0 filters passage.answers).reverse.map (·.2))
  return passage

/-- However filters behave, all that a chain asks and tells them about an event
is its passage, whose report is the answer. To watch them changes nothing. -/
theorem evaluate_passage (filters : List (Filter Effect)) :
    Prod.fst <$> (evaluate (watch 0 filters) task event).run [] = evaluate filters task event ∧
      ∃ passages : Effect (Passage filters),
        (evaluate (watch 0 filters) task event).run [] =
          (fun passage => (passage.report, passage.deeds task event)) <$> passages := by
  have plain : evaluate filters task event = Passage.report <$> traverse task event filters := by
    simp [evaluate, traverse, walk_passes task event filters 0, Passage.report]
  have noted : (evaluate (watch 0 filters) task event).run [] =
      (fun passage => (passage.report, passage.deeds task event)) <$>
        traverse task event filters := by
    simp only [evaluate, traverse, StateT.run_bind, walk_watched, bind_map_left, map_bind,
      List.append_nil, ← List.map_reverse, notify_watched, StateT.run_pure, map_pure]
    rfl
  refine ⟨?_, traverse task event filters, noted⟩
  rw [noted, plain, Functor.map_map]

end Lawful

/-! A chain in which a name is repeated, and one filter of it is disabled. -/

def namesake (action : Action) (enabled : Bool) : Scripted :=
  ⟨"guard", action, none, false, 0, enabled, 0, []⟩

def namesakes : Host :=
  [namesake .next true, namesake .allow false, namesake .deny true, namesake .allow true].foldl
    Host.addScripted (Host.bare Kernel.empty)

def guarded : List (Filter (Call Host)) := namesakes.filters ⟨"main", none, false⟩

def opener : Personality := ⟨1, 1, 0, 0, 0, 0, "sh"⟩

def opening : Event := .file ⟨.openFile, some "/srv/a.txt", 0, false, 0, 0, "ext4"⟩

def denial : Report := ⟨.deny, none, false, 0⟩

/-- The first filter of the name leaves the report as it is, the third decides. -/
theorem guarded_passage :
    (evaluate guarded opener opening namesakes).state.scripted.map (·.seen) = [1, 0, 1, 0] ∧
      ∃ passages : Call Host (Passage guarded),
        ((fun passage => (passage.report, passage.deeds opener opening)) <$> passages) namesakes =
          .done (evaluate guarded opener opening namesakes).state (denial,
            [.asked 0 true, .examined 0 opener opening Report.fresh Report.fresh, .asked 1 false,
              .asked 2 true, .examined 2 opener opening Report.fresh denial,
              .concluded 2 opener opening denial (some "guard"),
              .concluded 0 opener opening denial (some "guard")]) := by
  obtain ⟨_, passages, noted⟩ := evaluate_passage opener opening guarded
  refine ⟨rfl, passages, ?_⟩
  rw [← noted]
  rfl

end Interception.Chain
