import StaticWiring.Proofs.Capture.History
import StaticWiring.Proofs.Lists

/-!
# The end of a capture

A capture follows imports and scans in whatever cycles they run. It passes over a class whose
conditions fail without a mark, so that it may process the class when it meets it again. Each task
that is done either processes a class that was not processed before, and leaves the tasks of its
configuration, or leaves nothing. So the tasks that wait, counted together with those that the
unprocessed classes may still leave, become fewer with every task. The tasks of a processed class
are done before those that wait.

## Main definitions

* `Capture.Move`, `Capture.Moves` — the tasks that are done, one after the other.
* `Capture.Processes`, `Capture.ProcessesType` — a move processes a class.
* `Capture.ahead` — a bound for the moves to come.
* `Capture.ProcessesOnce` — how moves process classes.

## Main results

* `Capture.Moves.length_add_ahead_le` — each move takes from the bound.
* `Capture.Moves.pairwise_not` — no two moves process one class.
* `Capture.Moves.split` — tasks are done before those that wait behind them.
* `Capture.load_terminates` — a capture comes to an end, and processes every class at most once.
-/

namespace StaticWiring.Capture

variable {c : Capture} {p q : Progress} {t : TypeDecl} {task : Task}
  {tasks followUps rest : List Task}

/-! ### Moves -/

/-- A task that is done. It records all that a step has to do with, so that runs can be looked at
from outside. -/
structure Move where
  /-- The progress before. -/
  before : Progress
  /-- The task. -/
  task : Task
  /-- The progress after. -/
  after : Progress
  /-- The tasks that it leaves. -/
  followUps : List Task

variable {m : Move} {moves earlier later : List Move}

/-- The tasks are done one after the other, each with the tasks that it leaves in front of those
that wait, up to the tasks `rest`. -/
inductive Moves (c : Capture) : Progress → List Task → List Move → Progress → List Task → Prop
  /-- Nothing is done. -/
  | nil {p : Progress} {tasks : List Task} : Moves c p tasks [] p tasks
  /-- The first task is done, and then others. -/
  | cons {p r q : Progress} {task : Task} {tasks followUps rest : List Task} {moves : List Move}
      (done : c.step p task = .ok (r, followUps))
      (further : Moves c r (followUps ++ tasks) moves q rest) :
    Moves c p (task :: tasks) (⟨p, task, r, followUps⟩ :: moves) q rest

/-- A move is about a class that is new and whose conditions hold: it registers the definition of
the class, and leaves its tasks. -/
structure Processes (c : Capture) (m : Move) (t : TypeDecl) (name origin : String) : Prop where
  /-- The task reaches the class, and leaves what a class that is reached so leaves. -/
  reaches : c.Reaches m.task t name origin m.followUps
  /-- The class is not processed yet. -/
  new : t.name ∉ m.before.processed
  /-- The conditions hold. -/
  met : c.allHold t.name m.before.catalog t.conditions = .ok true
  /-- The definition is registered, and the class counts as processed. -/
  registered : c.register { m.before with processed := m.before.processed ++ [t.name] }
    (t.definition name origin) = .ok m.after

theorem Processes.processed_after {name origin : String} (h : c.Processes m t name origin) :
    m.after.processed = m.before.processed ++ [t.name] :=
  processed_register h.registered

/-- A move that processes no class leaves nothing. It may still register the definition of a factory
method. -/
def IsIdle (m : Move) : Prop :=
  m.after.processed = m.before.processed ∧ m.followUps = []

/-- A task that is done processes a class, or is idle. These are all cases, because a task that
leaves others has processed a class. -/
theorem processes_or_isIdle (done : c.step p task = .ok (q, followUps)) :
    (∃ t name origin, c.Processes ⟨p, task, q, followUps⟩ t name origin) ∨
      IsIdle ⟨p, task, q, followUps⟩ := by
  cases steps_of_step done with
  | ofClass reaches new met registered => exact .inl ⟨_, _, _, reaches, new, met, registered⟩
  | ofMethod _ _ registered => exact .inr ⟨processed_register registered, rfl⟩
  | noAutoConfiguration | noComponent | processed | unmet | noFactoryMethod | unmetMethod =>
    exact .inr ⟨rfl, rfl⟩

/-- A move in the midst of others was done where they lead. It allows a single move to be looked at
where it happened. -/
theorem Moves.of_append (h : c.Moves p tasks (earlier ++ m :: later) q rest) :
    ∃ waiting, c.Moves p tasks earlier m.before (m.task :: waiting) ∧
      c.step m.before m.task = .ok (m.after, m.followUps) ∧
      c.Moves m.after (m.followUps ++ waiting) later q rest := by
  induction earlier generalizing p tasks with
  | nil =>
    cases h with
    | cons done further => exact ⟨_, .nil, done, further⟩
  | cons first earlier ih =>
    cases h with
    | cons done further =>
      obtain ⟨waiting, before, here, after⟩ := ih further
      exact ⟨waiting, .cons done before, here, after⟩

/-- The progress so far decides how a capture goes on. It links the moves to the run, whose result
they have to lead to. -/
theorem Moves.run_eq (h : c.Moves p tasks moves q rest) : c.run p tasks = c.run q rest := by
  induction h with
  | nil => rfl
  | cons done _ ih => rw [run_cons_of_ok done, ih]

/-- A capture goes on until all tasks are done, or one fails. The number of moves is not yet bounded
here. -/
theorem exists_moves (c : Capture) (p : Progress) (tasks : List Task) :
    ∃ moves q rest, c.Moves p tasks moves q rest ∧
      (rest = [] ∨ ∃ task others cause, rest = task :: others ∧ c.step q task = .error cause ∧
        c.run p tasks = .error cause) := by
  fun_induction run c p tasks with
  | case1 p => exact ⟨[], p, [], .nil, .inl rfl⟩
  | case2 p task tasks cause failed =>
    exact ⟨[], p, task :: tasks, .nil, .inr ⟨task, tasks, cause, rfl, failed, rfl⟩⟩
  | case3 p task tasks r followUps done _ ih =>
    obtain ⟨moves, q, rest, further, result⟩ := ih
    exact ⟨_, q, rest, .cons done further, result⟩

/-! ### The end -/

/-- The tasks that wait, and those that classes which are not processed yet may leave. Every class
of the class path is counted once, however many tasks may still reach it. -/
def ahead (c : Capture) (p : Progress) (tasks : List Task) : Nat :=
  tasks.length + ((c.classPath.unseen p.processed).flatMap fun t => c.followUps t t.name).length

theorem Reaches.length_le {name origin : String} (h : c.Reaches task t name origin followUps) :
    followUps.length ≤ (c.followUps t t.name).length := by
  obtain rfl | rfl := h.eq_followUps
  · simp only [Capture.followUps, List.length_append, List.length_map, Nat.le_refl]
  · exact Nat.zero_le _

/-- The tasks that a processed class leaves are no longer ahead. What it leaves was counted for the
class before. -/
theorem ahead_lt_of_processes {name origin : String}
    (h : c.Processes ⟨p, task, q, followUps⟩ t name origin) (tasks : List Task) :
    c.ahead q (followUps ++ tasks) < c.ahead p (task :: tasks) := by
  have processed : q.processed = p.processed ++ [t.name] := h.processed_after
  have unseen : t ∈ c.classPath.unseen p.processed := by
    have new : t.name ∉ p.processed := h.new
    rw [ClassPath.unseen, List.mem_filter]
    exact ⟨List.mem_of_find?_eq_some h.reaches.get?_eq, by simpa using new⟩
  have less := Lists.length_flatMap_filter_add_le (f := fun t => c.followUps t t.name)
    (p := fun other => other.name != t.name) unseen (bne_self_eq_false t.name)
  have leaves := h.reaches.length_le
  rw [ahead, ahead, processed, ClassPath.unseen_append, List.length_append, List.length_cons]
  dsimp only at leaves
  omega

/-- Each move takes from the bound. An idle move takes the task itself, and a move that processes a
class takes at least as much. -/
theorem ahead_lt (done : c.step p task = .ok (q, followUps)) (tasks : List Task) :
    c.ahead q (followUps ++ tasks) < c.ahead p (task :: tasks) := by
  obtain ⟨t, name, origin, processes⟩ | ⟨same, left⟩ := processes_or_isIdle done
  · exact ahead_lt_of_processes processes tasks
  · dsimp only at same left
    rw [ahead, ahead, same, left, List.nil_append, List.length_cons]
    omega

theorem Moves.length_add_ahead_le (h : c.Moves p tasks moves q rest) :
    moves.length + c.ahead q rest ≤ c.ahead p tasks := by
  induction h with
  | nil => rw [List.length_nil, Nat.zero_add]
  | @cons p r q task tasks followUps rest moves done _ ih =>
    have less := ahead_lt done tasks
    rw [List.length_cons]
    omega

/-! ### Processed classes -/

/-- A move processes the class of a name. The name and the origin of the definition are of no
account. -/
def ProcessesType (c : Capture) (m : Move) (type : String) : Prop :=
  ∃ t name origin, t.name = type ∧ c.Processes m t name origin

theorem processesType_or_isIdle (done : c.step p task = .ok (q, followUps)) :
    (∃ type, c.ProcessesType ⟨p, task, q, followUps⟩ type) ∨
      IsIdle ⟨p, task, q, followUps⟩ :=
  (processes_or_isIdle done).imp_left fun ⟨t, name, origin, processes⟩ =>
    ⟨t.name, t, name, origin, rfl, processes⟩

theorem ProcessesType.processed_after {type : String} (h : c.ProcessesType m type) :
    m.after.processed = m.before.processed ++ [type] := by
  obtain ⟨t, name, origin, rfl, processes⟩ := h
  exact processes.processed_after

theorem ProcessesType.not_mem {type : String} (h : c.ProcessesType m type) :
    type ∉ m.before.processed := by
  obtain ⟨t, name, origin, rfl, processes⟩ := h
  exact processes.new

/-- A class is processed behind moves that processed it, or that it was processed before. A class is
never taken back. -/
theorem Moves.mem_processed_iff (h : c.Moves p tasks moves q rest) {type : String} :
    type ∈ q.processed ↔ type ∈ p.processed ∨ ∃ m ∈ moves, c.ProcessesType m type := by
  induction h with
  | nil => simp
  | @cons p r q task tasks followUps rest moves done _ ih =>
    rw [ih, List.exists_mem_cons_iff, ← or_assoc]
    refine or_congr_left ?_
    obtain ⟨other, processes⟩ | idle := processesType_or_isIdle done
    · have after : r.processed = p.processed ++ [other] := processes.processed_after
      rw [after, List.mem_append, List.mem_singleton]
      refine or_congr_right ⟨?_, fun again => ?_⟩
      · rintro rfl
        exact processes
      · have same := processes.processed_after.symm.trans again.processed_after
        exact (List.singleton_inj.1 (List.append_cancel_left same)).symm
    · have same : r.processed = p.processed := idle.1
      rw [same, or_iff_left fun processes => ?_]
      have more := idle.1.symm.trans processes.processed_after
      simp at more

/-- No two moves process one class. Once it is processed, its name is among those that every later
step looks at. -/
theorem Moves.pairwise_not (h : c.Moves p tasks moves q rest) :
    moves.Pairwise fun m m' => ∀ type, c.ProcessesType m type → ¬ c.ProcessesType m' type := by
  induction h with
  | nil => exact .nil
  | @cons p r q task tasks followUps rest moves done further ih =>
    -- What is processed here is known to every move behind.
    refine .cons (fun m member type processes again => again.not_mem ?_) ih
    obtain ⟨earlier, later, rfl⟩ := List.append_of_mem member
    obtain ⟨waiting, before, -, -⟩ := further.of_append
    have after : r.processed = p.processed ++ [type] := processes.processed_after
    refine before.mem_processed_iff.2 (.inl ?_)
    rw [after]
    exact List.mem_append_right _ (List.mem_singleton_self type)

/-! ### Tasks of processed classes -/

/-- The tasks that are done or wait are those of the start and those that were left. No task is
lost, and none comes from elsewhere. -/
theorem Moves.perm (h : c.Moves p tasks moves q rest) :
    (moves.map Move.task ++ rest).Perm (tasks ++ moves.flatMap Move.followUps) := by
  induction h with
  | nil => simp
  | @cons p r q task tasks followUps rest moves _ _ ih =>
    rw [List.map_cons, List.flatMap_cons, List.cons_append, List.cons_append]
    refine (ih.trans ?_).cons task
    rw [← List.append_assoc]
    exact (List.perm_append_comm.append_right _)

/-- Tasks are done before those that wait behind them. What a task leaves is therefore done before
anything that waited with it. -/
theorem Moves.split {waiting : List Task} (h : c.Moves p (tasks ++ waiting) moves q rest) :
    ∃ own others r left, moves = own ++ others ∧ c.Moves p tasks own r left ∧
      (left = [] ∨ others = []) ∧ c.Moves r (left ++ waiting) others q rest := by
  generalize all : tasks ++ waiting = whole at h
  induction h generalizing tasks with
  | nil =>
    subst all
    exact ⟨[], [], _, tasks, rfl, .nil, .inr rfl, .nil⟩
  | @cons p r q task behind followUps rest moves done further ih =>
    cases tasks with
    | nil =>
      subst all
      exact ⟨[], _, p, [], rfl, .nil, .inl rfl, .cons done further⟩
    | cons first tasks =>
      obtain ⟨rfl, rfl⟩ := List.cons.inj all
      obtain ⟨own, others, r, left, rfl, here, stops, behind⟩ := ih (List.append_assoc _ _ _)
      exact ⟨_, others, r, left, rfl, .cons done here, stops, behind⟩

theorem Moves.processesType_or_isIdle (h : c.Moves p tasks moves q rest) (member : m ∈ moves) :
    (∃ type, c.ProcessesType m type) ∨ IsIdle m := by
  obtain ⟨earlier, later, rfl⟩ := List.append_of_mem member
  obtain ⟨waiting, -, done, -⟩ := h.of_append
  exact Capture.processesType_or_isIdle done

/-- A move that leaves a factory method processes the class that declares it. No other move has such
tasks. -/
theorem Moves.processesType_of_method (h : c.Moves p tasks moves q rest) (member : m ∈ moves)
    {method : String × String} (left : method ∈ m.followUps.filterMap Task.method?) :
    c.ProcessesType m method.1 := by
  obtain ⟨type, t, name, origin, rfl, processes⟩ | idle := h.processesType_or_isIdle member
  · rw [processes.reaches.fst_of_mem left]
    exact ⟨t, name, origin, rfl, processes⟩
  · rw [idle.2] at left
    cases left

/-- No factory method is done or waits twice. Each class leaves the first method of each name only.
-/
theorem Moves.nodup_methods (h : c.Moves p tasks moves q rest)
    (start : tasks.filterMap Task.method? = []) :
    ((moves.map Move.task ++ rest).filterMap Task.method?).Nodup := by
  rw [(h.perm.filterMap _).nodup_iff, List.filterMap_append, start, List.nil_append,
    List.filterMap_flatMap, List.nodup_flatMap]
  constructor
  · intro m member
    obtain ⟨type, t, name, origin, rfl, processes⟩ | idle := h.processesType_or_isIdle member
    · exact processes.reaches.nodup_methods
    · rw [idle.2]
      exact List.nodup_nil
  · refine h.pairwise_not.imp_of_mem fun member member' apart method own own' => ?_
    exact apart method.1 (h.processesType_of_method member own)
      (h.processesType_of_method member' own')

/-! ### The capture of an application -/

/-- How moves process classes, with the tasks `start` at the beginning and the tasks `rest` at the
end. -/
structure ProcessesOnce (c : Capture) (start : List Task) (moves : List Move) (q : Progress)
    (rest : List Task) : Prop where
  /-- A move processes a class, or leaves nothing. -/
  processes : ∀ m ∈ moves, (∃ type, c.ProcessesType m type) ∨ IsIdle m
  /-- No two moves process one class. -/
  once : moves.Pairwise fun m m' =>
    ∀ type, c.ProcessesType m type → ¬ c.ProcessesType m' type
  /-- The classes that count as processed are those that a move processes. -/
  processed : ∀ type, type ∈ q.processed ↔ ∃ m ∈ moves, c.ProcessesType m type
  /-- The tasks that are done or wait are those of the start and those that moves leave. -/
  tasks : (moves.map Move.task ++ rest).Perm (start ++ moves.flatMap Move.followUps)
  /-- No factory method is done or waits twice. -/
  methods : ((moves.map Move.task ++ rest).filterMap Task.method?).Nodup
  /-- The tasks that a move leaves come next, and all else waits until none of them is left. -/
  next : ∀ earlier m later, moves = earlier ++ m :: later →
    ∃ own others r left, later = own ++ others ∧ c.Moves m.after m.followUps own r left ∧
      (left = [] ∨ others = [])

theorem Moves.processesOnce {roots autoConfigurations : List String}
    (h : c.Moves ⟨.ofList Definition.infrastructure, []⟩ (startTasks roots autoConfigurations)
      moves q rest) : c.ProcessesOnce (startTasks roots autoConfigurations) moves q rest where
  processes _ member := h.processesType_or_isIdle member
  once := h.pairwise_not
  processed type := by rw [h.mem_processed_iff, or_iff_right List.not_mem_nil]
  tasks := h.perm
  methods := h.nodup_methods (List.append_eq_nil_iff.1 methods_start).1
  next earlier m later all := by
    subst all
    obtain ⟨waiting, -, -, further⟩ := h.of_append
    obtain ⟨own, others, r, left, parts, here, stops, -⟩ := further.split
    exact ⟨own, others, r, left, parts, here, stops⟩

theorem Moves.load_eq {roots autoConfigurations : List String}
    (h : c.Moves ⟨.ofList Definition.infrastructure, []⟩ (startTasks roots autoConfigurations)
      moves q []) : c.load roots autoConfigurations = .ok q.catalog := by
  rw [load, h.run_eq, run]

/-- The capture of an application comes to an end: with all tasks done, or with a task that fails.
However classes import and scan each other, no more tasks are done than those of the start and those
that all classes of the class path may leave. Every class is processed once at most: its definition
is registered, and then its scan, its imports and its factory methods are done before all else. -/
theorem load_terminates (c : Capture) (roots autoConfigurations : List String) :
    (∀ moves q rest, c.Moves ⟨.ofList Definition.infrastructure, []⟩
        (startTasks roots autoConfigurations) moves q rest →
      moves.length ≤ roots.length + autoConfigurations.length +
        (c.classPath.types.flatMap fun t => c.followUps t t.name).length ∧
      c.ProcessesOnce (startTasks roots autoConfigurations) moves q rest ∧
      (rest = [] → c.load roots autoConfigurations = .ok q.catalog)) ∧
    ∃ moves q rest, c.Moves ⟨.ofList Definition.infrastructure, []⟩
        (startTasks roots autoConfigurations) moves q rest ∧
      (rest = [] ∨ ∃ task others cause, rest = task :: others ∧ c.step q task = .error cause ∧
        c.load roots autoConfigurations =
          .error (.configuration (", ".intercalate roots) cause)) := by
  constructor
  · intro moves q rest h
    refine ⟨?_, h.processesOnce, ?_⟩
    · have bound := h.length_add_ahead_le
      -- Nothing is processed at the start, so every class of the class path counts.
      have all : c.classPath.unseen [] = c.classPath.types := List.filter_eq_self.2 fun _ _ => rfl
      rw [ahead.eq_def c ⟨.ofList Definition.infrastructure, []⟩, all, startTasks,
        List.length_append, List.length_map, List.length_map] at bound
      omega
    · rintro rfl
      exact h.load_eq
  · obtain ⟨moves, q, rest, h, done | ⟨task, others, cause, stops, failed, result⟩⟩ :=
      c.exists_moves ⟨.ofList Definition.infrastructure, []⟩
        (startTasks roots autoConfigurations)
    · exact ⟨moves, q, rest, h, .inl done⟩
    · exact ⟨moves, q, rest, h, .inr ⟨task, others, cause, stops, failed, by rw [load, result]⟩⟩

end StaticWiring.Capture
