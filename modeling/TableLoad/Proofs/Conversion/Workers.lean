import Mathlib.Data.List.Infix

/-! # Workers

Tasks shared out to workers.  One thread starts a worker for each task and then takes their
results in the order of the tasks, waiting where it has to; a worker may finish at any time after
its start.  However these events are ordered, the results are those of the tasks done one by one,
and no order comes to a halt before all of them are taken.
-/
namespace TableLoad

inductive Event where
  | start
  | finish (worker : Nat)
  | take
  deriving DecidableEq, Repr

/-- The events in which all workers start and then finish in the given order, before the rest. -/
def Event.finishing (workers : Nat) (order : List Nat) (rest : List Event) : List Event :=
  List.replicate workers .start ++ order.map .finish ++ rest

structure Pool (α β : Type) where
  waiting : List α
  /-- The tasks with a worker, in the order of their start, and the results of those done. -/
  workers : List (α × Option β)
  taken : List β

namespace Pool
variable {α β : Type} {work : α → β} {tasks : List α} {p q : Pool α β}

def step (work : α → β) (p : Pool α β) : Event → Option (Pool α β)
  | .start =>
    match p.waiting with
    | [] => none
    | task :: waiting => some { p with waiting, workers := p.workers ++ [(task, none)] }
  | .finish worker =>
    match p.workers[worker]? with
    | some (task, none) =>
      some { p with workers := p.workers.set worker (task, some (work task)) }
    | _ => none
  | .take =>
    match p.waiting, p.workers[p.taken.length]? with
    | [], some (_, some result) => some { p with taken := p.taken ++ [result] }
    | _, _ => none

def run (work : α → β) (p : Pool α β) (events : List Event) : Option (Pool α β) :=
  events.foldlM (step work) p

/-- All tasks have a worker, and all results are taken. -/
def isDone (p : Pool α β) : Bool := p.waiting.isEmpty && p.taken.length == p.workers.length

/-- The results taken after some events, if these can happen and nothing is left to do. -/
def results? (work : α → β) (tasks : List α) (events : List Event) : Option (List β) := do
  let p ← run work ⟨tasks, [], []⟩ events
  if p.isDone then some p.taken else none

/-- A pool on its way: the workers do their own tasks, and the first results are taken. -/
structure IsRunning (work : α → β) (tasks : List α) (p : Pool α β) : Prop where
  order : p.workers.map Prod.fst ++ p.waiting = tasks
  honest : ∀ e ∈ p.workers, ∀ result, e.2 = some result → result = work e.1
  taken : p.taken <+: (p.workers.map Prod.fst).map work

/-- Everything that can happen to a pool. -/
theorem step_cases {event : Event} (h : p.step work event = some q) :
    (∃ task waiting, event = .start ∧ p.waiting = task :: waiting ∧
        q = ⟨waiting, p.workers ++ [(task, none)], p.taken⟩) ∨
      (∃ worker task, event = .finish worker ∧ p.workers[worker]? = some (task, none) ∧
        q = ⟨p.waiting, p.workers.set worker (task, some (work task)), p.taken⟩) ∨
      ∃ task result, event = .take ∧ p.waiting = [] ∧
        p.workers[p.taken.length]? = some (task, some result) ∧
          q = ⟨[], p.workers, p.taken ++ [result]⟩ := by
  cases event with
  | start =>
    rw [step] at h
    split at h
    · cases h
    · rename_i task waiting left
      exact .inl ⟨task, waiting, rfl, left, (Option.some.inj h).symm⟩
  | finish worker =>
    rw [step] at h
    split at h
    · rename_i task busy
      exact .inr (.inl ⟨worker, task, rfl, busy, (Option.some.inj h).symm⟩)
    · cases h
  | take =>
    rw [step] at h
    split at h
    · rename_i task result started finished
      refine .inr (.inr ⟨task, result, rfl, started, finished, ?_⟩)
      rw [← Option.some.inj h, started]
    · cases h

theorem isRunning_start (work : α → β) (tasks : List α) : IsRunning work tasks ⟨tasks, [], []⟩ :=
  ⟨rfl, by simp, List.nil_prefix⟩

theorem IsRunning.length_taken_le (running : IsRunning work tasks p) :
    p.taken.length ≤ p.workers.length := by
  simpa using running.taken.length_le

theorem IsRunning.step {event : Event} (running : IsRunning work tasks p)
    (h : p.step work event = some q) : IsRunning work tasks q := by
  obtain ⟨order, honest, taken⟩ := running
  rcases step_cases h with ⟨task, waiting, -, left, rfl⟩ | ⟨worker, task, -, busy, rfl⟩ |
      ⟨task, result, -, started, finished, rfl⟩
  · refine ⟨by simpa [left] using order, fun e he result done => ?_, ?_⟩
    · rcases List.mem_append.1 he with he | he
      · exact honest e he result done
      · rw [List.mem_singleton.1 he] at done
        cases done
    · rw [List.map_append, List.map_append]
      exact taken.trans (List.prefix_append _ _)
  · -- a worker that finishes keeps its task
    have same : (p.workers.set worker (task, some (work task))).map Prod.fst =
        p.workers.map Prod.fst := by
      have own : (p.workers.map Prod.fst)[worker]? = some task := by
        rw [List.getElem?_map, busy]
        rfl
      obtain ⟨_, rfl⟩ := List.getElem?_eq_some_iff.1 own
      rw [List.map_set, List.set_getElem_self]
    refine ⟨same ▸ order, fun e he result done => ?_, same ▸ taken⟩
    rcases List.mem_or_eq_of_mem_set he with he | rfl
    · exact honest e he result done
    · exact (Option.some.inj done).symm
  · refine ⟨started ▸ order, honest, ?_⟩
    have own : ((p.workers.map Prod.fst).map work)[p.taken.length]? = some result := by
      rw [List.map_map, List.getElem?_map, finished,
        honest _ (List.mem_of_getElem? finished) result rfl]
      rfl
    obtain ⟨more, rfl⟩ := List.getElem?_eq_some_iff.1 own
    exact List.concat_get_prefix taken more

theorem run_cons (work : α → β) (p : Pool α β) (event : Event) (events : List Event) :
    p.run work (event :: events) = (p.step work event).bind fun next => next.run work events :=
  List.foldlM_cons

theorem run_append (work : α → β) (p : Pool α β) (before after : List Event) :
    p.run work (before ++ after) = (p.run work before).bind fun q => q.run work after :=
  List.foldlM_append

theorem IsRunning.run {events : List Event} (running : IsRunning work tasks p)
    (h : p.run work events = some q) : IsRunning work tasks q := by
  induction events generalizing p with
  | nil => exact Option.some.inj h ▸ running
  | cons event events ih =>
    rw [run_cons] at h
    obtain ⟨next, first, rest⟩ := Option.bind_eq_some_iff.1 h
    exact ih (running.step first) rest

theorem isDone_iff (p : Pool α β) :
    p.isDone = true ↔ p.waiting = [] ∧ p.taken.length = p.workers.length := by
  rw [isDone, Bool.and_eq_true, List.isEmpty_iff, beq_iff_eq]

theorem IsRunning.taken_of_isDone (running : IsRunning work tasks p) (done : p.isDone = true) :
    p.taken = tasks.map work := by
  obtain ⟨order, -, taken⟩ := running
  obtain ⟨started, all⟩ := (isDone_iff p).1 done
  rw [started, List.append_nil] at order
  rw [← order]
  exact taken.eq_of_length (by simpa using all)

/-- Whatever the order of the events, the results are those of the tasks, in their order. -/
theorem results?_eq {events : List Event} {results : List β}
    (h : results? work tasks events = some results) : results = tasks.map work := by
  obtain ⟨p, ran, last⟩ := Option.bind_eq_some_iff.1 h
  split at last
  · rename_i done
    rw [← Option.some.inj last]
    exact ((isRunning_start work tasks).run ran).taken_of_isDone done
  · cases last

section Progress

/-- How many events are still to come: three for each task. -/
def toCome (p : Pool α β) : Nat :=
  3 * p.waiting.length + p.workers.countP (·.2.isNone) + (p.workers.length - p.taken.length)

theorem IsRunning.toCome_step {event : Event} (running : IsRunning work tasks p)
    (h : p.step work event = some q) : p.toCome = q.toCome + 1 := by
  have bound := running.length_taken_le
  rcases step_cases h with ⟨task, waiting, -, left, rfl⟩ | ⟨worker, task, -, busy, rfl⟩ |
      ⟨task, result, -, started, finished, rfl⟩
  · simp only [toCome, left, List.length_cons, List.countP_append, List.countP_singleton,
      List.length_append, List.length_nil, Option.isNone_none, if_true]
    omega
  · obtain ⟨inside, own⟩ := List.getElem?_eq_some_iff.1 busy
    have one : 1 ≤ p.workers.countP (·.2.isNone) :=
      List.countP_pos_iff.2 ⟨_, List.mem_of_getElem? busy, rfl⟩
    simp only [toCome, List.length_set, List.countP_set inside, own, Option.isNone_none,
      Option.isNone_some, if_true, Bool.false_eq_true, if_false]
    omega
  · obtain ⟨inside, -⟩ := List.getElem?_eq_some_iff.1 finished
    simp only [toCome, started, List.length_append, List.length_singleton]
    omega

theorem IsRunning.exists_step (running : IsRunning work tasks p) (busy : p.isDone = false) :
    ∃ event q, p.step work event = some q := by
  cases left : p.waiting with
  | cons task waiting => exact ⟨.start, _, by rw [Pool.step, left]⟩
  | nil =>
    have more : p.taken.length < p.workers.length := by
      refine Nat.lt_of_le_of_ne running.length_taken_le fun all => ?_
      rw [(isDone_iff p).2 ⟨left, all⟩] at busy
      cases busy
    cases own : p.workers[p.taken.length] with
    | mk task result? =>
      have own := List.getElem?_eq_some_iff.2 ⟨more, own⟩
      cases result? with
      | none => exact ⟨.finish p.taken.length, _, by rw [Pool.step, own]⟩
      | some result => exact ⟨.take, _, by rw [Pool.step, left, own]⟩

/-- Whatever has happened, the rest can be done. -/
theorem IsRunning.exists_run {p : Pool α β} (running : IsRunning work tasks p) :
    ∃ events q, p.run work events = some q ∧ q.isDone = true := by
  by_cases done : p.isDone = true
  · exact ⟨[], p, rfl, done⟩
  · obtain ⟨event, next, first⟩ := running.exists_step (by simpa using done)
    have fewer := running.toCome_step first
    obtain ⟨events, q, rest, done⟩ := (running.step first).exists_run
    refine ⟨event :: events, q, ?_, done⟩
    rw [run_cons, first]
    exact rest
termination_by p.toCome

theorem IsRunning.toCome_run {events : List Event} (running : IsRunning work tasks p)
    (h : p.run work events = some q) : p.toCome = q.toCome + events.length := by
  induction events generalizing p with
  | nil => rw [← Option.some.inj h]; rfl
  | cons event events ih =>
    rw [run_cons] at h
    obtain ⟨next, first, rest⟩ := Option.bind_eq_some_iff.1 h
    rw [running.toCome_step first, ih (running.step first) rest, List.length_cons, Nat.add_assoc]

/-- Events that can happen are no more than three for each task, and go on until the results of
all tasks are taken. -/
theorem run_progress {events : List Event} (h : run work ⟨tasks, [], []⟩ events = some p) :
    events.length ≤ 3 * tasks.length ∧
      ∃ rest, results? work tasks (events ++ rest) = some (tasks.map work) := by
  have started := isRunning_start work tasks
  have running := started.run h
  constructor
  · have := started.toCome_run h
    simp only [toCome, List.countP_nil, List.length_nil] at this
    omega
  · obtain ⟨rest, q, ran, done⟩ := running.exists_run
    refine ⟨rest, ?_⟩
    rw [results?, run_append, h]
    simp only [Option.bind_eq_bind, Option.bind_some, ran, done, if_true,
      (running.run ran).taken_of_isDone done]

theorem run_starts (work : α → β) (p : Pool α β) :
    p.run work (List.replicate p.waiting.length .start) =
      some ⟨[], p.workers ++ p.waiting.map fun task => (task, none), p.taken⟩ := by
  obtain ⟨waiting, workers, taken⟩ := p
  dsimp only
  induction waiting generalizing workers with
  | nil => simp [run]
  | cons task waiting ih =>
    rw [List.length_cons, List.replicate_succ, run_cons, step, Option.bind_some, ih,
      List.map_cons, List.append_assoc, List.singleton_append]

theorem exists_run_finishes (work : α → β) {order : List Nat} (distinct : order.Nodup)
    (busy : ∀ worker ∈ order, ∃ task, p.workers[worker]? = some (task, none)) :
    ∃ q, p.run work (order.map .finish) = some q := by
  induction order generalizing p with
  | nil => exact ⟨p, rfl⟩
  | cons worker order ih =>
    obtain ⟨later, distinct⟩ := List.nodup_cons.1 distinct
    obtain ⟨task, own⟩ := busy worker List.mem_cons_self
    rw [List.map_cons, run_cons, step, own]
    refine ih distinct fun other ho => ?_
    have apart : worker ≠ other := fun same => later (same ▸ ho)
    rw [List.getElem?_set_ne apart]
    exact busy other (List.mem_cons_of_mem _ ho)

theorem exists_results_of_order (work : α → β) (tasks : List α) {order : List Nat}
    (all : order.Perm (List.range tasks.length)) :
    ∃ rest, results? work tasks (Event.finishing tasks.length order rest) =
      some (tasks.map work) := by
  have busy (worker : Nat) (hw : worker ∈ order) :
      ∃ task, (tasks.map fun task => (task, (none : Option β)))[worker]? = some (task, none) := by
    have bound : worker < tasks.length := List.mem_range.1 (all.mem_iff.1 hw)
    refine ⟨tasks[worker], ?_⟩
    rw [List.getElem?_map, List.getElem?_eq_getElem bound]
    rfl
  have starts := run_starts work ⟨tasks, [], []⟩
  obtain ⟨p, finishes⟩ := exists_run_finishes work (p := ⟨[], _, []⟩)
    (all.nodup_iff.2 List.nodup_range) busy
  refine (run_progress (p := p) ?_).2
  rw [run_append, starts]
  exact finishes

end Progress

end Pool

end TableLoad
