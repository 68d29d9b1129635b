import PyDataTask.Executor.Accounting

/-!
# Sequential runs from a fresh manager

A sequential run starts a call only once every earlier call has ended. Over an empty namespace
the first call that reaches `_load_usage` lists no pods, so the zero it writes is right, and from
then on every call runs under the invariant of `Accounting`. At most one launch is then between
its check and its update, so the quotas hold as well. A pod deleted twice, the second time during
its grace period, is subtracted twice.
-/

namespace PyDataTask.Executor

open PyDataTask.Python

/-! ## Before the cache is loaded -/

/-- A coroutine of a run whose cache is not loaded yet: only a launch waiting for the listing
can be suspended. -/
def Thread.Loading (config : Config) : Thread → Prop
  | .suspended (.launchLoading _ _ containers request _) call _ =>
      call = config.listCall ∧ (∀ c ∈ containers, c.Complete) ∧
        ∀ r, request.get r = containersRequest containers r
  | .suspended .. => False
  | .finished _ => True

structure Cold (w : World) : Prop where
  uncached : w.manager.usage = none
  empty : w.cluster = ⟨[], []⟩
  loading : ∀ t ∈ w.threads, t.Loading w.manager.config

/-- The invariant of sequential runs from a fresh manager. -/
structure Settled (config : Config) (w : World) : Prop where
  same : w.manager.config = config
  alone : w.threads.countP Thread.isSuspended ≤ 1
  phase : Cold w ∨ Warm w ∧ WithinQuota w

theorem Thread.Loading.reserved {config : Config} {t : Thread} (loading : t.Loading config)
    (r : Resource) : t.reserved r = 0 := by
  rcases t with ⟨_ | _ | _ | _, _, _⟩ | _
  all_goals first | rfl | exact loading.elim

theorem Thread.Loading.of_answered {config : Config} {c : Coroutine} {call : ApiCall}
    {response response' : Option (Except PyExc (List Pod))}
    (loading : (Thread.suspended c call response).Loading config) :
    (Thread.suspended c call response').Loading config := by
  cases c <;> exact loading

/-- A thread that is not suspended has ended and asks nothing of the invariants. -/
theorem Thread.finished_of_not_suspended {t : Thread} (idle : t.isSuspended = false) :
    ∃ result, t = .finished result := by
  cases t with
  | suspended => cases idle
  | finished result => exact ⟨result, rfl⟩

section Steps

variable {w w' : World}

theorem countP_suspended_step {round : ℚ → ℚ} {e : Event} (hstep : w.stepWith round e = some w')
    (sequential : Sequential w e w') (alone : w.threads.countP Thread.isSuspended ≤ 1) :
    w'.threads.countP Thread.isSuspended ≤ 1 := by
  cases e with
  | start call =>
      obtain rfl := World.stepWith_start hstep
      have none : w.threads.countP Thread.isSuspended = 0 :=
        List.countP_eq_zero.mpr fun t mem => by simp [sequential t mem]
      rw [List.countP_append, none, zero_add]
      exact List.countP_le_length _
  | serve i answer =>
      obtain ⟨c, call, hi, rfl⟩ := World.stepWith_serve hstep
      exact (countP_set_le _ hi fun _ => rfl).trans alone
  | resume i =>
      obtain ⟨c, call, response, hi, rfl⟩ := World.stepWith_resume hstep
      exact (countP_set_le _ hi fun _ => rfl).trans alone
  | expire name => rw [(World.stepWith_expire hstep).2]; exact alone

theorem Cold.start (cold : Cold w) {call : Call} (hstep : w.exactStep (.start call) = some w')
    (deletes : DeletesLive w (.start call) w') : Cold w' := by
  obtain rfl := World.stepWith_start hstep
  cases call with
  | launch job task manifest =>
      obtain ⟨same, cases⟩ := launchStart_unloaded id w.manager cold.uncached job task manifest
      have extend : ∀ t, t.Loading w.manager.config →
          ∀ t' ∈ w.threads ++ [t], t'.Loading w.manager.config := by
        intro t loading t' member
        rcases List.mem_append.mp member with old | new
        · exact cold.loading t' old
        · simp only [List.mem_singleton] at new; subst new; exact loading
      refine ⟨by simp [Call.start, same, cold.uncached], cold.empty, ?_⟩
      simp only [Call.start, same]
      rcases cases with done | ⟨containers, request, accepted, awaiting⟩
      · obtain ⟨result, finished⟩ := Segment.thread_of_done done
        exact extend _ (by simp [finished, Thread.Loading])
      · obtain ⟨-, -, complete, sums⟩ := launchRequest_ok id accepted
        exact extend _ (by simpa [Segment.thread, awaiting, Thread.Loading] using
          ⟨complete, fun r => (sums r).trans (requestSum_id _ _)⟩)
  | delete pod =>
      have live := deletes.1
      simp [cold.empty] at live

theorem Cold.serve (cold : Cold w) {i : Nat} {answer : Answer}
    (hstep : w.exactStep (.serve i answer) = some w') : Cold w' := by
  obtain ⟨c, call, hi, rfl⟩ := World.stepWith_serve hstep
  have loading := cold.loading _ (List.getElem?_mem hi)
  cases c with
  | launchLoading =>
      have listed : call = _ := loading.1
      subst listed
      refine ⟨cold.uncached, by rw [Config.listCall, Cluster.serve_list]; exact cold.empty,
        fun t member => ?_⟩
      rcases List.mem_or_eq_of_mem_set member with old | rfl
      · exact cold.loading t old
      · exact loading.of_answered
  | launchCreating => exact loading.elim
  | deleteLoading => exact loading.elim
  | deleteDeleting => exact loading.elim

/-- Resuming the launch that waited for the listing loads the cache from the empty namespace:
the run leaves its cold phase with the cache right and the quotas kept. -/
theorem Cold.resume (cold : Cold w) (fits : ∀ r, 0 ≤ w.manager.config.quota r)
    (alone : w.threads.countP Thread.isSuspended ≤ 1) {i : Nat}
    (hstep : w.exactStep (.resume i) = some w') : Warm w' ∧ WithinQuota w' := by
  obtain ⟨c, call, response, hi, rfl⟩ := World.stepWith_resume hstep
  have loading := cold.loading _ (List.getElem?_mem hi)
  cases c with
  | launchCreating => exact loading.elim
  | deleteLoading => exact loading.elim
  | deleteDeleting => exact loading.elim
  | launchLoading job task containers request metadata =>
      obtain ⟨-, complete, sums⟩ := id loading
      obtain ⟨same, loaded, cases⟩ :=
        resume_loading_manager id w.manager job task containers request metadata response
      set s := resume id w.manager (.launchLoading job task containers request metadata) response
      -- the resumed launch has ended, or it has passed its quota check and awaits the creation
      have started : (∃ result, s.thread = .finished result) ∨
          (∀ r, request.get r ≤ w.manager.config.quota r) ∧
            s.thread = .suspended (.launchCreating job task containers request)
              (.createNamespacedPod w.manager.config.kubeNamespace
                (w.manager.config.podFor job task containers)) none := by
        rcases cases with done | ⟨admitted, awaiting⟩
        · exact .inl (Segment.thread_of_done done)
        · exact .inr ⟨admitted, by rw [Segment.thread, awaiting]⟩
      have others : ∀ t ∈ w.threads.set i s.thread, t = s.thread ∨ ∃ result, t = .finished result :=
        fun t member => (eq_or_not_of_mem_set hi rfl alone t member).imp_right
          Thread.finished_of_not_suspended
      have empty := cold.empty
      refine ⟨⟨?_, fun t member => ?_, ?_, ⟨⟨0, 0⟩, loaded, fun r => ?_⟩⟩, fun r => ?_⟩
      · rw [empty]; exact ⟨List.nodup_nil, nofun, nofun⟩
      · rcases others t member with rfl | ⟨result, rfl⟩
        · rcases started with ⟨result, finished⟩ | ⟨-, creating⟩
          · rw [finished]; trivial
          · simpa [creating, Thread.Consistent, same] using ⟨complete, sums⟩
        · trivial
      · have settled : ∀ t ∈ w.threads.set i s.thread, t.pendingDelete = none := by
          intro t member
          rcases others t member with rfl | ⟨result, rfl⟩
          · rcases started with ⟨_, thread⟩ | ⟨-, thread⟩ <;> rw [thread] <;> rfl
          · rfl
        simp [pendingDeletes, List.filterMap_eq_nil_iff.mpr settled]
      · have quiet : ∀ t ∈ w.threads.set i s.thread, t.pending r = 0 := by
          intro t member
          rcases others t member with rfl | ⟨result, rfl⟩
          · exact Segment.thread_pending s r
          · rfl
        have none : ((w.threads.set i s.thread).map (Thread.pending r)).sum = 0 :=
          List.sum_eq_zero fun q member => by
            obtain ⟨t, mem, rfl⟩ := List.mem_map.mp member
            exact quiet t mem
        rw [none, add_zero, empty]
        cases r <;> rfl
      · have unreserved : (w.threads.map (Thread.reserved r)).sum = 0 :=
          List.sum_eq_zero fun q member => by
            obtain ⟨t, mem, rfl⟩ := List.mem_map.mp member
            exact (cold.loading t mem).reserved r
        show requested r w.cluster.live + ((w.threads.set i s.thread).map (Thread.reserved r)).sum ≤
          s.manager.config.quota r
        rw [sum_map_set _ _ hi, unreserved, empty, same, loading.reserved]
        simp only [requested_nil, zero_sub, sub_zero, zero_add]
        rcases started with ⟨result, finished⟩ | ⟨admitted, creating⟩
        · simpa [finished, Thread.reserved] using fits r
        · simp only [creating, Thread.reserved]
          split_ifs
          · rw [Pod.request, Config.podFor, ← sums r]; exact admitted r
          · exact fits r

/-- Every event of a sequential run that deletes only live pods keeps the invariant. -/
theorem Settled.step {config : Config} (fits : ∀ r, 0 ≤ config.quota r) (inv : Settled config w)
    {e : Event} (hstep : w.exactStep e = some w') (sequential : Sequential w e w')
    (deletes : DeletesLive w e w') : Settled config w' := by
  have alone := countP_suspended_step hstep sequential inv.alone
  refine ⟨(World.stepWith_config hstep).trans inv.same, alone, ?_⟩
  rcases inv.phase with cold | ⟨warm, quota⟩
  · cases e with
    | start call => exact .inl (cold.start hstep deletes)
    | serve i answer => exact .inl (cold.serve hstep)
    | resume i => exact .inr (cold.resume (inv.same ▸ fits) inv.alone hstep)
    | expire name =>
        have terminating := (World.stepWith_expire hstep).1
        simp [cold.empty] at terminating
  · have serial : SerialLaunches w e w' :=
      (List.countP_mono_left fun t _ creating => by
        cases t with
        | suspended => rfl
        | finished => simp [Thread.isCreating] at creating).trans alone
    exact .inr ⟨warm.step hstep deletes, quota.step warm hstep serial⟩

end Steps

/-- Once every call has ended, nothing is pending and the cache is what the live pods request. -/
theorem Warm.usage_of_quiet {w : World} (warm : Warm w)
    (quiet : ∀ t ∈ w.threads, t.isSuspended = false) :
    w.manager.usage = some ⟨requested .cpu w.cluster.live, requested .memory w.cluster.live⟩ := by
  obtain ⟨u, loaded, balance⟩ := warm.balance
  have none : ∀ r, (w.threads.map (Thread.pending r)).sum = 0 := fun r =>
    List.sum_eq_zero fun q member => by
      obtain ⟨t, mem, rfl⟩ := List.mem_map.mp member
      obtain ⟨result, rfl⟩ := Thread.finished_of_not_suspended (quiet t mem)
      rfl
  have cpu := balance .cpu
  have memory := balance .memory
  rw [none, add_zero] at cpu memory
  rw [loaded, ← cpu, ← memory]
  rfl

/-- In a sequential run from a fresh manager over an empty namespace that deletes only live pods
(a call that raises is one more step of the run) and computes what exact arithmetic would, the
live pods always fit the quotas, and whenever no call is in progress the cache is either not
loaded, with no pod created, or exactly what the live pods request. -/
theorem sequential_runs_track_live_pods (config : Config) (fits : ∀ r, 0 ≤ config.quota r)
    (w : World)
    (reach : Reaches (fun w e w' => Sequential w e w' ∧ DeletesLive w e w' ∧ ComputesExactly w e w')
      (World.fresh config) w) :
    (∀ r, requested r w.cluster.live ≤ config.quota r) ∧
      ((∀ t ∈ w.threads, t.isSuspended = false) →
        w.manager.usage = none ∧ w.cluster.live = [] ∨
          w.manager.usage = some ⟨requested .cpu w.cluster.live, requested .memory w.cluster.live⟩) := by
  have inv : Settled config w := reach.induct_inv _
    ⟨rfl, by simp [World.fresh], .inl ⟨rfl, rfl, fun t h => (List.not_mem_nil t h).elim⟩⟩
    fun _ _ _ inv _ ⟨sequential, deletes, exact⟩ => inv.step fits exact sequential deletes
  rcases inv.phase with cold | ⟨warm, quota⟩
  · refine ⟨fun r => ?_, fun _ => .inl ⟨cold.uncached, by rw [cold.empty]⟩⟩
    simpa [cold.empty] using fits r
  · refine ⟨fun r => ?_, fun quiet => .inr (warm.usage_of_quiet quiet)⟩
    have reserved : 0 ≤ (w.threads.map (Thread.reserved r)).sum :=
      List.sum_nonneg fun q member => by
        obtain ⟨t, -, rfl⟩ := List.mem_map.mp member
        exact t.reserved_nonneg r
    have := quota r
    rw [inv.same] at this
    linarith

/-- After one launch of one cpu from a fresh manager with a quota of one cpu, and once no call
is in progress, the cache holds exactly what the created pod requests. -/
theorem sequential_runs_track_live_pods_one_cpu :
    ∃ w, Reaches (fun w e w' => Sequential w e w' ∧ DeletesLive w e w' ∧ ComputesExactly w e w')
        (World.fresh ⟨"app", "default", 1, 2⟩) w ∧
      w.cluster.live.length = 1 ∧ requested .cpu w.cluster.live ≤ 1 ∧
      w.manager.usage = some ⟨requested .cpu w.cluster.live, requested .memory w.cluster.live⟩ := by
  have fits : ∀ r, 0 ≤ (⟨"app", "default", 1, 2⟩ : Config).quota r := by
    intro r; cases r <;> with_unfolding_all decide
  obtain ⟨w, ran, created, quiet⟩ : ∃ w, (World.fresh ⟨"app", "default", 1, 2⟩).replay
      (fun w e w' => Sequential w e w' ∧ DeletesLive w e w' ∧ ComputesExactly w e w')
      [.start (.launch "1" "a" oneCpuManifest), .serve 0 .accept, .resume 0, .serve 0 .accept,
        .resume 0] = some w ∧
      w.cluster.live.length = 1 ∧ ∀ t ∈ w.threads, t.isSuspended = false := by
    with_unfolding_all exact ⟨_, rfl, by decide⟩
  have reach := Reaches.refl.replay ran
  obtain ⟨bounded, cache⟩ := sequential_runs_track_live_pods _ fits w reach
  rcases cache quiet with ⟨-, empty⟩ | loaded
  · simp [empty] at created
  · exact ⟨w, reach, created, bounded .cpu, loaded⟩

set_option maxRecDepth 4000 in
/-- A pod deleted a second time during its grace period is subtracted twice. After a launch of
one cpu and two deletes of its pod the cache says minus one cpu, so a launch of two cpus passes a
quota of one. And a launch of `1.0000000000000000000000000001` cpu passes a quota of one cpu,
since the decimal context rounds the request to `1`: the pod runs over the quota, and the cache
shows less than it requests. -/
theorem repeated_delete_overruns_quota :
    (∃ w, Reaches (fun w e w' => Sequential w e w' ∧ DeletesHeld w e w')
        (World.fresh ⟨"app", "default", 1, defaultMemQuota⟩) w ∧
      (∀ t ∈ w.threads, t.isSuspended = false) ∧
      (1 : ℚ) < requested .cpu w.cluster.live ∧
      w.manager.usage.map Usage.cpu ≠ some (requested .cpu w.cluster.live)) ∧
    ∃ w, Reaches (fun w e w' => Sequential w e w' ∧ DeletesHeld w e w')
        (World.fresh ⟨"app", "default", 1, defaultMemQuota⟩) w ∧
      (∀ t ∈ w.threads, t.isSuspended = false) ∧
      (1 : ℚ) < requested .cpu w.cluster.live ∧
      (w.manager.usage.map Usage.cpu).getD 0 < requested .cpu w.cluster.live := by
  constructor
  · obtain ⟨w, ran, facts⟩ : ∃ w, (World.fresh ⟨"app", "default", 1, defaultMemQuota⟩).replay
        (fun w e w' => Sequential w e w' ∧ DeletesHeld w e w')
        [.start (.launch "1" "a" oneCpuManifest), .serve 0 .accept, .resume 0, .serve 0 .accept,
          .resume 0,
          .start (.delete (Config.podFor ⟨"app", "default", 1, defaultMemQuota⟩ "1" "a"
            [⟨some 1, some 1⟩])), .serve 1 .accept, .resume 1,
          .start (.delete (Config.podFor ⟨"app", "default", 1, defaultMemQuota⟩ "1" "a"
            [⟨some 1, some 1⟩])), .serve 2 .accept, .resume 2,
          .start (.launch "1" "b" ⟨some "Pod", some ⟨some [⟨some 2, some 1⟩]⟩, .absent⟩),
          .serve 3 .accept, .resume 3] = some w ∧
        (∀ t ∈ w.threads, t.isSuspended = false) ∧ (1 : ℚ) < requested .cpu w.cluster.live ∧
        w.manager.usage.map Usage.cpu ≠ some (requested .cpu w.cluster.live) := by
      with_unfolding_all exact ⟨_, rfl, by decide⟩
    exact ⟨w, Reaches.refl.replay ran, facts⟩
  · obtain ⟨w, ran, facts⟩ : ∃ w, (World.fresh ⟨"app", "default", 1, defaultMemQuota⟩).replay
        (fun w e w' => Sequential w e w' ∧ DeletesHeld w e w')
        [.start (.launch "1" "a" overQuotaManifest), .serve 0 .accept, .resume 0, .serve 0 .accept,
          .resume 0] = some w ∧
        (∀ t ∈ w.threads, t.isSuspended = false) ∧ (1 : ℚ) < requested .cpu w.cluster.live ∧
        (w.manager.usage.map Usage.cpu).getD 0 < requested .cpu w.cluster.live := by
      with_unfolding_all exact ⟨_, rfl, by decide⟩
    exact ⟨w, Reaches.refl.replay ran, facts⟩

end PyDataTask.Executor
