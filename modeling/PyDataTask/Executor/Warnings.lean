import PyDataTask.Executor.Interleaving

/-!
# The quota warning

When a quota check refuses a task, `launch` logs `Cannot launch <task> - <limit> limit`, but only
while the task is not in `self.warned`, and then adds it there; the only other line the manager
logs announces a pod creation. So over any interleaving of calls, the log holds one refusal line
for each task in `warned` and none for any other task: a task refused again, for either limit,
is refused silently.
-/

namespace PyDataTask.Executor

open PyDataTask.Python

/-! ## The lines -/

/-- The line `launch` logs when `limit` refuses `task`. -/
def refusalLine (task limit : String) : String :=
  "Cannot launch " ++ task ++ " - " ++ limit ++ " limit"

/-- The line `launch` logs before it creates the pod of `job`. -/
def creatingLine (task job : String) : String := "Creating task " ++ task ++ " for job " ++ job

/-- The refusals of `task` in a log. -/
def refusals (task : String) (log : List String) : Nat :=
  log.countP fun line => line = refusalLine task "cpu" ∨ line = refusalLine task "memory"

theorem creatingLine_ne_refusalLine (task job task' limit : String) :
    creatingLine task job ≠ refusalLine task' limit := by
  intro same
  have differ := congrArg (fun s : String => s.data.take 2) same
  simp [creatingLine, refusalLine] at differ

/-- A refusal line names its task: the limit is `cpu` or `memory`, and the lines of the two
limits end differently. -/
theorem refusalLine_task {task task' limit limit' : String}
    (limits : limit ∈ ["cpu", "memory"]) (limits' : limit' ∈ ["cpu", "memory"])
    (same : refusalLine task limit = refusalLine task' limit') : task = task' := by
  have named := congrArg String.data same
  simp only [refusalLine, String.data_append, List.append_assoc, List.append_cancel_left_eq] at named
  simp only [List.mem_cons, List.mem_singleton, List.not_mem_nil, or_false] at limits limits'
  rcases limits with rfl | rfl <;> rcases limits' with rfl | rfl <;>
    first
    | exact String.ext (List.append_cancel_right named)
    | simpa using congrArg (fun l => l.reverse.take 9) named

theorem refusals_append (task : String) (log log' : List String) :
    refusals task (log ++ log') = refusals task log + refusals task log' :=
  List.countP_append _ _ _

theorem refusals_creating {task : String} {lines : List String}
    (creating : ∀ line ∈ lines, ∃ t j, line = creatingLine t j) : refusals task lines = 0 :=
  List.countP_eq_zero.2 fun line member => by
    obtain ⟨t, j, rfl⟩ := creating line member
    simp [creatingLine_ne_refusalLine]

theorem refusals_refusalLine (task task' : String) {limit : String}
    (limits : limit ∈ ["cpu", "memory"]) :
    refusals task [refusalLine task' limit] = if task' = task then 1 else 0 := by
  by_cases same : task' = task
  · subst same
    simp only [List.mem_cons, List.mem_singleton, List.not_mem_nil, or_false] at limits
    rcases limits with rfl | rfl <;> simp [refusals]
  · simp only [refusals, List.countP_singleton, if_neg same, decide_eq_true_eq]
    rw [if_neg]
    rintro (named | named) <;> exact same (refusalLine_task limits (by simp) named)

/-! ## What one segment logs -/

/-- What a segment run by a manager that has warned about `warned` logs: lines announcing pod
creations, with `warned` kept, or the refusal of a task not yet warned about, which it adds to
`warned`. -/
def Segment.Logs (warned : List String) (s : Segment) : Prop :=
  (s.manager.warned = warned ∧ ∀ line ∈ s.logged, ∃ task job, line = creatingLine task job) ∨
    ∃ task limit, task ∉ warned ∧ limit ∈ ["cpu", "memory"] ∧
      s.logged = [refusalLine task limit] ∧ s.manager.warned = warned ++ [task]

theorem Segment.logs_quiet {warned : List String} {s : Segment} (kept : s.manager.warned = warned)
    (quiet : s.logged = []) : s.Logs warned :=
  .inl ⟨kept, by simp [quiet]⟩

theorem warn_logs (m : PodManager) (task : String) {limit : String}
    (limits : limit ∈ ["cpu", "memory"]) : (warn m task limit).Logs m.warned := by
  unfold warn
  split_ifs with warned
  · exact Segment.logs_quiet rfl rfl
  · exact .inr ⟨task, limit, warned, limits, rfl, rfl⟩

section Arithmetic

variable (round : ℚ → ℚ)

theorem launchAdmit_logs (m : PodManager) (job task : String) (containers : List Container)
    (request : Usage) (metadata : Metadata) :
    (launchAdmit round m job task containers request metadata).Logs m.warned := by
  unfold launchAdmit
  split
  · exact Segment.logs_quiet rfl rfl
  · split_ifs
    · exact warn_logs m task (by simp)
    · exact warn_logs m task (by simp)
    · exact Segment.logs_quiet rfl rfl
    · exact .inl ⟨rfl, fun line member => ⟨task, job, List.mem_singleton.1 member⟩⟩

theorem Call.start_logs (m : PodManager) (call : Call) : (call.start round m).Logs m.warned := by
  cases call with
  | launch job task manifest =>
      simp only [Call.start, launchStart]
      split
      · exact Segment.logs_quiet rfl rfl
      · split
        · exact Segment.logs_quiet rfl rfl
        · exact launchAdmit_logs ..
  | delete pod =>
      simp only [Call.start, deleteStart]
      split <;> exact Segment.logs_quiet rfl rfl

theorem resume_logs (m : PodManager) (c : Coroutine) (response : Except PyExc (List Pod)) :
    (resume round m c response).Logs m.warned := by
  cases c with
  | launchLoading job task containers request metadata =>
      rcases loaded : loadUsage round m response with ⟨m', _ | e⟩
      all_goals
        have kept : m'.warned = m.warned := by rw [← congrArg (·.1.warned) loaded]; rfl
        simp only [resume, loaded]
      · exact kept ▸ launchAdmit_logs ..
      · exact Segment.logs_quiet kept rfl
  | launchCreating job task containers request =>
      cases response with
      | error e => exact Segment.logs_quiet rfl rfl
      | ok pods =>
          cases usage : m.usage <;>
            exact Segment.logs_quiet (by simp [resume, usage]) (by simp [resume, usage])
  | deleteLoading pod =>
      rcases loaded : loadUsage round m response with ⟨m', _ | e⟩
      all_goals
        have kept : m'.warned = m.warned := by rw [← congrArg (·.1.warned) loaded]; rfl
        exact Segment.logs_quiet (by simpa [resume, loaded] using kept) (by simp [resume, loaded])
  | deleteDeleting pod =>
      cases response with
      | error e => exact Segment.logs_quiet rfl rfl
      | ok pods =>
          rcases applied : applyRequests (fun a b => round (a - b)) m.usage pod.containers with
            ⟨cache, _ | e⟩ <;>
            exact Segment.logs_quiet (by simp [resume, applied]) (by simp [resume, applied])

end Arithmetic

/-! ## Over a run -/

/-- The invariant: the log refuses each task of `warned` once and no other task. -/
structure Warned (w : World) : Prop where
  nodup : w.manager.warned.Nodup
  refusals : ∀ task, refusals task w.log = w.manager.warned.count task

/-- A segment that logs as `Segment.Logs` says keeps the invariant. -/
theorem Warned.segment {w : World} (warned : Warned w) {s : Segment}
    (logs : s.Logs w.manager.warned) (k : Cluster) (threads : List Thread) :
    Warned ⟨s.manager, k, threads, w.log ++ s.logged⟩ := by
  rcases logs with ⟨kept, creating⟩ | ⟨task, limit, fresh, limits, logged, added⟩
  · refine ⟨kept ▸ warned.nodup, fun t => ?_⟩
    simp only [refusals_append, refusals_creating creating, add_zero, kept]
    exact warned.refusals t
  · refine ⟨?_, fun t => ?_⟩
    · rw [added]
      exact List.nodup_append.2 ⟨warned.nodup, List.nodup_singleton _, List.disjoint_singleton.2 fresh⟩
    · simp only [refusals_append, logged, refusals_refusalLine t task limits, added, List.count_append,
        List.count_singleton', warned.refusals t]

theorem Warned.step {round : ℚ → ℚ} {w w' : World} (warned : Warned w) {e : Event}
    (hstep : w.stepWith round e = some w') : Warned w' := by
  cases e with
  | start call =>
      obtain rfl := World.stepWith_start hstep
      exact warned.segment (Call.start_logs round w.manager call) _ _
  | serve =>
      obtain ⟨_, _, _, rfl⟩ := World.stepWith_serve hstep
      exact ⟨warned.nodup, warned.refusals⟩
  | resume =>
      obtain ⟨c, _, response, _, rfl⟩ := World.stepWith_resume hstep
      exact warned.segment (resume_logs round w.manager c response) _ _
  | expire =>
      rw [(World.stepWith_expire hstep).2]
      exact ⟨warned.nodup, warned.refusals⟩

/-- Over any interleaving of calls on a manager that has warned about no task, the log refuses
a task once if it is in `warned` and never otherwise: each task is warned about at most once,
whichever limit refuses it, and however often. -/
theorem refusal_logged_once (allowed : World → Event → World → Prop) (config : Config)
    (usage : Option Usage) (k : Cluster) (w : World)
    (reach : Reaches allowed ⟨⟨config, usage, []⟩, k, [], []⟩ w) (task : String) :
    refusals task w.log = if task ∈ w.manager.warned then 1 else 0 := by
  have start : Warned ⟨⟨config, usage, []⟩, k, [], []⟩ := ⟨List.nodup_nil, fun _ => rfl⟩
  have warned := reach.induct_inv Warned start fun _ _ _ inv hstep _ => inv.step hstep
  rw [warned.refusals]
  split_ifs with member
  · exact List.count_eq_one_of_mem warned.nodup member
  · exact List.count_eq_zero_of_not_mem member

/-- A manifest of one container requesting two cpus and one byte of memory. -/
def twoCpuManifest : Manifest := ⟨some "Pod", some ⟨some [⟨some 2, some 1⟩]⟩, .absent⟩

/-- Two launches of task `a` over a quota of one cpu are both refused, and only the first is
logged. -/
theorem second_refusal_silent :
    ∃ w, Reaches (fun _ _ _ => True)
        ⟨⟨⟨"app", "default", 1, defaultMemQuota⟩, some ⟨0, 0⟩, []⟩, ⟨[], []⟩, [], []⟩
        w ∧
      w.threads.map Thread.isSuspended = [false, false] ∧ w.log = [refusalLine "a" "cpu"] ∧
      refusals "a" w.log = if "a" ∈ w.manager.warned then 1 else 0 := by
  obtain ⟨w, ran, refused, logged⟩ : ∃ w,
      World.replay (fun _ _ _ => True)
        ⟨⟨⟨"app", "default", 1, defaultMemQuota⟩, some ⟨0, 0⟩, []⟩, ⟨[], []⟩, [], []⟩
        [.start (.launch "1" "a" twoCpuManifest), .start (.launch "2" "a" twoCpuManifest)] = some w ∧
      w.threads.map Thread.isSuspended = [false, false] ∧ w.log = [refusalLine "a" "cpu"] := by
    with_unfolding_all exact ⟨_, rfl, by decide⟩
  have reach := Reaches.refl.replay ran
  exact ⟨w, reach, refused, logged, refusal_logged_once _ _ _ _ w reach "a"⟩

end PyDataTask.Executor
