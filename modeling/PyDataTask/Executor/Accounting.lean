import PyDataTask.Executor.Interleaving

/-!
# The cache accounts for every pod

From a loaded cache, in every interleaving, the cache plus what the API server has done for
coroutines that have not yet recorded it is exactly what the live pods request: each `+=` and
`-=` on the cache runs without an `await` inside, so no update is lost. The quotas are another
matter: a launch checks them before it awaits the creation and adds its request after, so they
bound the live pods only while no two launches are between their check and their update.
-/

namespace PyDataTask.Executor

open PyDataTask.Python

/-! ## The invariant -/

/-- What each coroutine of a run from a loaded cache keeps true of the world. -/
def Thread.Consistent (config : Config) (k : Cluster) : Thread → Prop
  | .suspended (.launchCreating job task containers request) call _ =>
      call = .createNamespacedPod config.kubeNamespace (config.podFor job task containers) ∧
        (∀ c ∈ containers, c.Complete) ∧ ∀ r, request.get r = containersRequest containers r
  | .suspended (.deleteDeleting pod) call none => call = config.deleteCall pod ∧ pod ∈ k.live
  | .suspended (.deleteDeleting pod) _ (some _) =>
      (∀ c ∈ pod.containers, c.Complete) ∧ pod.requestsNonneg
  | .suspended (.launchLoading ..) _ _ => False
  | .suspended (.deleteLoading _) _ _ => False
  | .finished _ => True

/-- What an answered request has changed on the API server that the cache does not show yet. -/
def Thread.pending (r : Resource) : Thread → ℚ
  | .suspended (.launchCreating _ _ _ request) _ (some (.ok _)) => request.get r
  | .suspended (.deleteDeleting pod) _ (some (.ok _)) => -pod.request r
  | _ => 0

structure Cluster.Sound (k : Cluster) : Prop where
  names_nodup : k.names.Nodup
  complete : ∀ pod ∈ k.live, ∀ c ∈ pod.containers, c.Complete
  nonneg : ∀ pod ∈ k.live, pod.requestsNonneg

/-- The invariant of runs from a loaded cache. -/
structure Warm (w : World) : Prop where
  sound : w.cluster.Sound
  consistent : ∀ t ∈ w.threads, t.Consistent w.manager.config w.cluster
  deletes_nodup : (pendingDeletes w.threads).Nodup
  balance : ∃ u, w.manager.usage = some u ∧
    ∀ r, u.get r + (w.threads.map (Thread.pending r)).sum = requested r w.cluster.live

theorem Thread.Consistent.of_live {config : Config} {k k' : Cluster} {t : Thread}
    (consistent : t.Consistent config k)
    (live : ∀ pod, t.pendingDelete = some pod → pod ∈ k'.live) : t.Consistent config k' := by
  rcases t with ⟨_ | _ | _ | pod, _, _ | _⟩ | _
  all_goals first | exact ⟨consistent.1, live pod rfl⟩ | exact consistent

theorem Thread.Consistent.pendingDelete_live {config : Config} {k : Cluster} {t : Thread}
    (consistent : t.Consistent config k) {pod : Pod} (deleting : t.pendingDelete = some pod) :
    pod ∈ k.live := by
  rcases t with ⟨_ | _ | _ | _, _, _ | _⟩ | _ <;> cases deleting
  all_goals first | exact consistent.2 | exact consistent.elim

@[simp]
theorem Thread.pending_unanswered (c : Coroutine) (call : ApiCall) (r : Resource) :
    (Thread.suspended c call none).pending r = 0 := by
  cases c <;> rfl

@[simp]
theorem Segment.thread_pending (s : Segment) (r : Resource) : s.thread.pending r = 0 := by
  unfold Segment.thread; split <;> simp [Thread.pending]

/-! ## The API server's side -/

theorem find?_name_of_mem {pods : List Pod} {pod : Pod} (member : pod ∈ pods)
    (unique : (pods.map Pod.name).Nodup) : pods.find? (·.name == pod.name) = some pod := by
  induction pods with
  | nil => cases member
  | cons head rest ih =>
      rw [List.map_cons, List.nodup_cons] at unique
      rcases List.mem_cons.mp member with rfl | later
      · simp
      · have differ : head.name ≠ pod.name := fun same =>
          unique.1 (same ▸ List.mem_map_of_mem Pod.name later)
        simp [List.find?_cons, differ, ih later unique.2]

theorem requested_erase (r : Resource) {pods : List Pod} {pod : Pod} (member : pod ∈ pods) :
    requested r (pods.erase pod) = requested r pods - pod.request r := by
  have := ((List.perm_cons_erase member).map (Pod.request · r)).sum_eq
  simp only [List.map_cons, List.sum_cons] at this
  simp only [requested, this]; ring

theorem Cluster.serve_list (k : Cluster) (ns selector : String) (answer : Answer) :
    (k.serve (.listNamespacedPod ns selector) answer).1 = k := by
  cases answer <;> rfl

theorem Cluster.serve_create (k : Cluster) (ns : String) (pod : Pod) (answer : Answer) :
    (∃ e, k.serve (.createNamespacedPod ns pod) answer = (k, .error e)) ∨
      pod.name ∉ k.names ∧ pod.requestsNonneg ∧
        k.serve (.createNamespacedPod ns pod) answer = ({ k with live := k.live ++ [pod] }, .ok []) := by
  cases answer with
  | fail e => exact .inl ⟨e, rfl⟩
  | accept =>
      simp only [Cluster.serve]
      split_ifs with taken valid
      · exact .inl ⟨_, rfl⟩
      · exact .inr ⟨taken, valid, rfl⟩
      · exact .inl ⟨_, rfl⟩

theorem Cluster.serve_delete {k : Cluster} (sound : k.Sound) {pod : Pod} (live : pod ∈ k.live)
    (config : Config) (answer : Answer) :
    (∃ e, k.serve (config.deleteCall pod) answer = (k, .error e)) ∨
      k.serve (config.deleteCall pod) answer =
        (⟨k.live.erase pod, k.terminating ++ [pod]⟩, .ok []) := by
  cases answer with
  | fail e => exact .inl ⟨e, rfl⟩
  | accept =>
      have unique : (k.live.map Pod.name).Nodup := by
        have := sound.names_nodup
        simp only [Cluster.names, List.map_append] at this
        exact this.sublist (List.sublist_append_left _ _)
      exact .inr (by simp [Cluster.serve, Config.deleteCall, find?_name_of_mem live unique])

theorem Cluster.Sound.delete {k : Cluster} (sound : k.Sound) {pod : Pod} (live : pod ∈ k.live) :
    Cluster.Sound ⟨k.live.erase pod, k.terminating ++ [pod]⟩ :=
  ⟨Cluster.names_delete sound.names_nodup live,
    fun p member => sound.complete p (List.mem_of_mem_erase member),
    fun p member => sound.nonneg p (List.mem_of_mem_erase member)⟩

theorem Cluster.Sound.create {k : Cluster} (sound : k.Sound) {pod : Pod}
    (fresh : pod.name ∉ k.names) (complete : ∀ c ∈ pod.containers, c.Complete)
    (nonneg : pod.requestsNonneg) : Cluster.Sound { k with live := k.live ++ [pod] } := by
  refine ⟨Cluster.names_create sound.names_nodup fresh, ?_, ?_⟩
  · intro p member
    rcases List.mem_append.mp member with old | new
    · exact sound.complete p old
    · simp only [List.mem_singleton] at new; subst new; exact complete
  · intro p member
    rcases List.mem_append.mp member with old | new
    · exact sound.nonneg p old
    · simp only [List.mem_singleton] at new; subst new; exact nonneg

/-! ## One step keeps the invariant -/

theorem pendingDeletes_append (threads : List Thread) (t : Thread) :
    pendingDeletes (threads ++ [t]) = pendingDeletes threads ++ (t.pendingDelete.map Pod.name).toList := by
  cases h : t.pendingDelete <;> simp [pendingDeletes, h]

section Steps

variable {w w' : World}

/-- A new coroutine that has changed nothing yet keeps the invariant. -/
theorem Warm.append (warm : Warm w) {m : PodManager} {t : Thread} (log : List String)
    (config : m.config = w.manager.config) (usage : m.usage = w.manager.usage)
    (consistent : t.Consistent m.config w.cluster) (pending : ∀ r, t.pending r = 0)
    (deletes : (pendingDeletes (w.threads ++ [t])).Nodup) :
    Warm ⟨m, w.cluster, w.threads ++ [t], log⟩ := by
  obtain ⟨u, loaded, balance⟩ := warm.balance
  refine ⟨warm.sound, fun t' member => ?_, deletes, ⟨u, usage.trans loaded, fun r => ?_⟩⟩
  · rcases List.mem_append.mp member with old | new
    · rw [config]; exact warm.consistent t' old
    · simp only [List.mem_singleton] at new; subst new; exact consistent
  · simpa [pending r] using balance r

theorem Warm.start (warm : Warm w) {call : Call} (hstep : w.exactStep (.start call) = some w')
    (allowed : DeletesLive w (.start call) w') : Warm w' := by
  obtain rfl := World.stepWith_start hstep
  obtain ⟨u, loaded, -⟩ := warm.balance
  cases call with
  | launch job task manifest =>
      obtain ⟨config, usage, cases⟩ := launchStart_loaded id w.manager u loaded job task manifest
      have unchanged : (launchStart id w.manager job task manifest).manager.usage = w.manager.usage :=
        usage.trans loaded.symm
      rcases cases with done | ⟨containers, request, accepted, -, started⟩
      · obtain ⟨result, finished⟩ := Segment.thread_of_done done
        refine warm.append _ config unchanged ?_ (by simp) ?_
        · simp only [Call.start, finished, Thread.Consistent]
        · simpa [Call.start, finished, pendingDeletes_append, Thread.pendingDelete] using
            warm.deletes_nodup
      · obtain ⟨-, -, complete, sums⟩ := launchRequest_ok id accepted
        refine warm.append _ config unchanged ?_ (by simp) ?_
        · simp only [Call.start, started, Segment.thread, Thread.Consistent, true_and]
          exact ⟨complete, fun r => (sums r).trans (requestSum_id _ _)⟩
        · simpa [Call.start, started, Segment.thread, pendingDeletes_append,
            Thread.pendingDelete] using warm.deletes_nodup
  | delete pod =>
      obtain ⟨live, fresh⟩ := allowed
      have started := deleteStart_loaded w.manager u loaded pod
      refine warm.append _ (by simp [Call.start, started]) (by simp [Call.start, started]) ?_
        (by simp) ?_
      · simpa [Call.start, started, Segment.thread, Thread.Consistent] using live
      · simp only [Call.start, started, Segment.thread, pendingDeletes_append, Thread.pendingDelete,
          Option.map_some', Option.toList_some]
        exact List.nodup_append.mpr ⟨warm.deletes_nodup, List.nodup_singleton _,
          List.disjoint_singleton.mpr fresh⟩

/-- A coroutine that changes its state, with whatever the step did to the manager and the
API server, keeps the invariant when the cache moved as the server did. -/
theorem Warm.set (warm : Warm w) {i : Nat} {t t' : Thread} (hi : w.threads[i]? = some t)
    {m : PodManager} {k : Cluster} {u u' : Usage} (log : List String)
    (loaded : w.manager.usage = some u) (config : m.config = w.manager.config)
    (usage : m.usage = some u') (sound : k.Sound) (consistent : t'.Consistent m.config k)
    (settled : t'.pendingDelete = none)
    (stillLive : ∀ pod ∈ w.cluster.live, pod.name ∈ pendingDeletes (w.threads.set i t') →
      pod ∈ k.live)
    (delta : ∀ r, u'.get r - u.get r + t'.pending r - t.pending r =
      requested r k.live - requested r w.cluster.live) :
    Warm ⟨m, k, w.threads.set i t', log⟩ := by
  obtain ⟨u₀, loaded₀, balance⟩ := warm.balance
  cases loaded.symm.trans loaded₀
  refine ⟨sound, fun s member => ?_, ?_, ⟨u', usage, fun r => ?_⟩⟩
  · rcases List.mem_or_eq_of_mem_set member with old | rfl
    · rw [config]
      refine (warm.consistent s old).of_live fun pod deleting => ?_
      exact stillLive pod ((warm.consistent s old).pendingDelete_live deleting)
        (mem_pendingDeletes member deleting)
    · exact consistent
  · exact warm.deletes_nodup.sublist
      ((filterMap_set_sublist _ (by simp [settled]) w.threads i).map Pod.name)
  · rw [sum_map_set _ t' hi]
    linarith [balance r, delta r]

theorem Warm.serve (warm : Warm w) {i : Nat} {answer : Answer}
    (hstep : w.exactStep (.serve i answer) = some w') : Warm w' := by
  obtain ⟨c, call, hi, rfl⟩ := World.stepWith_serve hstep
  obtain ⟨u, loaded, -⟩ := warm.balance
  have consistent := warm.consistent _ (List.getElem?_mem hi)
  cases c with
  | launchCreating job task containers request =>
      obtain ⟨rfl, complete, sums⟩ := consistent
      rcases Cluster.serve_create w.cluster w.manager.config.kubeNamespace
          (w.manager.config.podFor job task containers) answer with
        ⟨e, served⟩ | ⟨fresh, nonneg, served⟩
      · rw [served]
        exact warm.set hi _ loaded rfl loaded warm.sound ⟨rfl, complete, sums⟩ rfl
          (fun _ live _ => live) (fun r => by simp [Thread.pending])
      · rw [served]
        refine warm.set hi _ loaded rfl loaded (warm.sound.create fresh complete nonneg)
          ⟨rfl, complete, sums⟩ rfl (fun _ live _ => List.mem_append_left _ live) fun r => ?_
        simp [Thread.pending, sums, Pod.request, Config.podFor]
  | deleteDeleting pod =>
      obtain ⟨rfl, live⟩ := consistent
      have kept : (∀ c ∈ pod.containers, c.Complete) ∧ pod.requestsNonneg :=
        ⟨warm.sound.complete pod live, warm.sound.nonneg pod live⟩
      rcases Cluster.serve_delete warm.sound live w.manager.config answer with
        ⟨e, served⟩ | served
      · rw [served]
        exact warm.set hi _ loaded rfl loaded warm.sound kept rfl (fun _ live _ => live)
          (fun r => by simp [Thread.pending])
      · rw [served]
        have gone : pod.name ∉ pendingDeletes (w.threads.set i
            (.suspended (.deleteDeleting pod) (w.manager.config.deleteCall pod) (some (.ok [])))) := by
          have settled : (Thread.suspended (.deleteDeleting pod) (w.manager.config.deleteCall pod)
              (some (.ok []))).pendingDelete = none := rfl
          have := (pendingDeletes_set settled hi).nodup_iff.mp warm.deletes_nodup
          simpa [Thread.pendingDelete] using (List.nodup_cons.mp this).1
        refine warm.set hi _ loaded rfl loaded (warm.sound.delete live) kept rfl
          (fun q qlive pending =>
            (List.mem_erase_of_ne fun same => by subst same; exact gone pending).mpr qlive)
          fun r => ?_
        simp [Thread.pending, requested_erase r live]
  | launchLoading => exact consistent.elim
  | deleteLoading => exact consistent.elim

theorem Segment.thread_returned {s : Segment} {value : Option Bool}
    (returned : s.progress = .returned value) : s.thread = .finished (.ok value) := by
  simp [Segment.thread, returned]

theorem Warm.resume (warm : Warm w) {i : Nat} (hstep : w.exactStep (.resume i) = some w') :
    Warm w' := by
  obtain ⟨c, call, response, hi, rfl⟩ := World.stepWith_resume hstep
  obtain ⟨u, loaded, -⟩ := warm.balance
  have consistent := warm.consistent _ (List.getElem?_mem hi)
  have config := resume_config id w.manager c response
  cases c with
  | launchCreating job task containers request =>
      have resumed := resume_launchCreating id w.manager u loaded job task containers request response
      cases response with
      | error e =>
          simp only at resumed
          refine warm.set hi _ loaded config (by rw [resumed]; exact loaded) warm.sound
            (by simp [resumed, Segment.thread, Thread.Consistent])
            (by simp [resumed, Segment.thread, Thread.pendingDelete]) (fun _ live _ => live)
            fun r => ?_
          simp [resumed, Segment.thread, Thread.pending]
      | ok items =>
          simp only at resumed
          refine warm.set hi _ loaded config (by rw [resumed]) warm.sound
            (by simp [resumed, Segment.thread, Thread.Consistent])
            (by simp [resumed, Segment.thread, Thread.pendingDelete]) (fun _ live _ => live)
            fun r => ?_
          cases r <;> simp [resumed, Segment.thread, Thread.pending, Usage.get]
  | deleteDeleting pod =>
      obtain ⟨complete, -⟩ := consistent
      obtain ⟨-, resumed⟩ := resume_deleteDeleting id w.manager u loaded pod complete response
      cases response with
      | error e =>
          simp only at resumed
          refine warm.set hi _ loaded config (by rw [resumed]; exact loaded) warm.sound
            (by simp [resumed, Segment.thread, Thread.Consistent])
            (by simp [resumed, Segment.thread, Thread.pendingDelete]) (fun _ live _ => live)
            fun r => ?_
          simp [resumed, Segment.thread, Thread.pending]
      | ok items =>
          obtain ⟨u', usage, hget, returned⟩ := resumed
          refine warm.set hi _ loaded config usage warm.sound
            (by simp [Segment.thread_returned returned, Thread.Consistent])
            (by simp [Segment.thread_returned returned, Thread.pendingDelete])
            (fun _ live _ => live) fun r => ?_
          simp [Segment.thread_returned returned, Thread.pending, hget, Pod.request, containersRequest]
  | launchLoading => exact consistent.elim
  | deleteLoading => exact consistent.elim

theorem Warm.expire (warm : Warm w) {name : String} (hstep : w.exactStep (.expire name) = some w') :
    Warm w' := by
  rw [(World.stepWith_expire hstep).2]
  refine ⟨⟨?_, warm.sound.complete, warm.sound.nonneg⟩, fun t member =>
    (warm.consistent t member).of_live fun _ deleting =>
      (warm.consistent t member).pendingDelete_live deleting, warm.deletes_nodup, warm.balance⟩
  have := warm.sound.names_nodup
  simp only [Cluster.names, Cluster.expire, List.map_append] at this ⊢
  exact this.sublist (((List.filter_sublist _).map Pod.name).append_left _)

/-- Every event that deletes only live pods keeps the invariant. -/
theorem Warm.step (warm : Warm w) {e : Event} (hstep : w.exactStep e = some w')
    (allowed : DeletesLive w e w') : Warm w' := by
  cases e with
  | start call => exact warm.start hstep allowed
  | serve i answer => exact warm.serve hstep
  | resume i => exact warm.resume hstep
  | expire name => exact warm.expire hstep

end Steps

/-! ## The quotas -/

/-- What a launch that passed its quota check will add to the live pods if the API server
accepts its creation; the server refuses a pod with a negative request. -/
def Thread.reserved (r : Resource) : Thread → ℚ
  | .suspended (.launchCreating ..) (.createNamespacedPod _ pod) none =>
      if pod.requestsNonneg then pod.request r else 0
  | _ => 0

/-- The live pods and the admitted launches fit the quotas. -/
def WithinQuota (w : World) : Prop :=
  ∀ r, requested r w.cluster.live + (w.threads.map (Thread.reserved r)).sum ≤
    w.manager.config.quota r

theorem Pod.request_nonneg {pod : Pod} (nonneg : pod.requestsNonneg) (r : Resource) :
    0 ≤ pod.request r := by
  refine List.sum_nonneg fun q member => ?_
  obtain ⟨c, mem, rfl⟩ := List.mem_map.mp member
  obtain ⟨cpu, memory⟩ := Bool.and_eq_true _ _ ▸ List.all_eq_true.mp nonneg c mem
  have getD_nonneg : ∀ {o : Option ℚ}, o.all (0 ≤ ·) → 0 ≤ o.getD 0
    | none, _ => le_refl 0
    | some _, h => by simpa using h
  cases r
  · exact getD_nonneg cpu
  · exact getD_nonneg memory

theorem Thread.reserved_nonneg (t : Thread) (r : Resource) : 0 ≤ t.reserved r := by
  unfold Thread.reserved
  split
  · split_ifs with nonneg
    · exact Pod.request_nonneg nonneg r
    · exact le_refl 0
  · exact le_refl 0

@[simp]
theorem Thread.reserved_answered (c : Coroutine) (call : ApiCall) (response : Except PyExc (List Pod))
    (r : Resource) : (Thread.suspended c call (some response)).reserved r = 0 := by
  simp [Thread.reserved]

theorem Thread.reserved_of_not_creating {t : Thread} (idle : t.isCreating = false) (r : Resource) :
    t.reserved r = 0 := by
  unfold Thread.reserved; split
  · simp [Thread.isCreating] at idle
  · rfl

/-- With no launch between its check and its update, the live pods request no more than the
cache says: the only answered requests not yet recorded are deletions. -/
theorem Warm.requested_le_usage {w : World} (warm : Warm w) {u : Usage}
    (loaded : w.manager.usage = some u) (idle : ∀ t ∈ w.threads, t.isCreating = false)
    (r : Resource) : requested r w.cluster.live ≤ u.get r := by
  obtain ⟨u', loaded', balance⟩ := warm.balance
  cases loaded.symm.trans loaded'
  have nonpos : (w.threads.map (Thread.pending r)).sum ≤ (w.threads.map fun _ => (0 : ℚ)).sum := by
    refine List.sum_le_sum fun t mem => ?_
    have consistent := warm.consistent t mem
    have notCreating := idle t mem
    unfold Thread.pending
    split
    · simp [Thread.isCreating] at notCreating
    · rename_i pod _ _
      obtain ⟨-, nonneg⟩ := consistent
      simpa using Pod.request_nonneg nonneg r
    · exact le_refl 0
  simp only [List.map_const', List.sum_replicate, nsmul_zero] at nonpos
  linarith [balance r]

section Steps

variable {w w' : World}

/-- A resumed coroutine of a run from a loaded cache runs to its end. -/
theorem Warm.resume_done (warm : Warm w) {i : Nat} {c : Coroutine} {call : ApiCall}
    {response : Except PyExc (List Pod)}
    (hi : w.threads[i]? = some (.suspended c call (some response))) :
    (Executor.resume id w.manager c response).progress.Done := by
  obtain ⟨u, loaded, -⟩ := warm.balance
  have consistent := warm.consistent _ (List.getElem?_mem hi)
  cases c with
  | launchCreating job task containers request =>
      rw [resume_launchCreating id w.manager u loaded]
      cases response <;> trivial
  | deleteDeleting pod =>
      have resumed := (resume_deleteDeleting id w.manager u loaded pod consistent.1 response).2
      cases response with
      | error e => simp only at resumed; rw [resumed]; trivial
      | ok items => obtain ⟨-, -, -, returned⟩ := resumed; rw [returned]; trivial
  | launchLoading => exact consistent.elim
  | deleteLoading => exact consistent.elim

/-- A coroutine that changes its state keeps the quotas when what it reserved covers what the
step added to the live pods. -/
theorem WithinQuota.set (quota : WithinQuota w) {i : Nat} {t t' : Thread}
    (hi : w.threads[i]? = some t) {m : PodManager} {k : Cluster} (log : List String)
    (config : m.config = w.manager.config)
    (covered : ∀ r, requested r k.live + t'.reserved r ≤ requested r w.cluster.live + t.reserved r) :
    WithinQuota ⟨m, k, w.threads.set i t', log⟩ := by
  intro r
  dsimp only
  rw [config, sum_map_set _ t' hi]
  linarith [quota r, covered r]

theorem WithinQuota.start (quota : WithinQuota w) (warm : Warm w) {call : Call}
    (hstep : w.exactStep (.start call) = some w') (serial : SerialLaunches w (.start call) w') :
    WithinQuota w' := by
  obtain rfl := World.stepWith_start hstep
  obtain ⟨u, loaded, -⟩ := warm.balance
  have extend : ∀ (s : Segment), s.manager.config = w.manager.config →
      (∀ r, requested r w.cluster.live + (w.threads.map (Thread.reserved r)).sum +
        s.thread.reserved r ≤ w.manager.config.quota r) →
      WithinQuota ⟨s.manager, w.cluster, w.threads ++ [s.thread], w.log ++ s.logged⟩ := by
    intro s config fits r
    simpa [WithinQuota, config, add_assoc] using fits r
  cases call with
  | launch job task manifest =>
      obtain ⟨config, -, cases⟩ := launchStart_loaded id w.manager u loaded job task manifest
      refine extend _ config fun r => ?_
      rcases cases with done | ⟨containers, request, accepted, fits, started⟩
      · obtain ⟨result, finished⟩ := Segment.thread_of_done done
        simpa [Call.start, finished, Thread.reserved] using quota r
      · have idle : ∀ t ∈ w.threads, t.isCreating = false := by
          have alone : w.threads.countP Thread.isCreating + 1 ≤ 1 := by
            simpa only [SerialLaunches, Call.start, started, Segment.thread, List.countP_append,
              List.countP_singleton, Thread.isCreating] using serial
          simpa using List.countP_eq_zero.mp (show w.threads.countP Thread.isCreating = 0 by omega)
        have unreserved : (w.threads.map (Thread.reserved r)).sum = 0 :=
          List.sum_eq_zero fun q member => by
            obtain ⟨t, mem, rfl⟩ := List.mem_map.mp member
            exact Thread.reserved_of_not_creating (idle t mem) r
        obtain ⟨-, -, -, sums⟩ := launchRequest_ok id accepted
        have below := warm.requested_le_usage loaded idle r
        simp only [Call.start, started, Segment.thread, Thread.reserved, unreserved, add_zero]
        split_ifs
        · have fit : request.get r + u.get r ≤ w.manager.config.quota r := fits r
          rw [Pod.request, Config.podFor, ← requestSum_id, ← sums r]
          linarith
        · simpa [unreserved] using quota r
  | delete pod =>
      have started := deleteStart_loaded w.manager u loaded pod
      refine extend _ (by simp [Call.start, started]) fun r => ?_
      simpa [Call.start, started, Segment.thread, Thread.reserved] using quota r

theorem WithinQuota.serve (quota : WithinQuota w) (warm : Warm w) {i : Nat} {answer : Answer}
    (hstep : w.exactStep (.serve i answer) = some w') : WithinQuota w' := by
  obtain ⟨c, call, hi, rfl⟩ := World.stepWith_serve hstep
  have consistent := warm.consistent _ (List.getElem?_mem hi)
  refine quota.set hi _ rfl fun r => ?_
  rw [Thread.reserved_answered]
  cases c with
  | launchCreating job task containers request =>
      obtain ⟨rfl, -, -⟩ := consistent
      rcases Cluster.serve_create w.cluster w.manager.config.kubeNamespace
          (w.manager.config.podFor job task containers) answer with
        ⟨e, served⟩ | ⟨-, nonneg, served⟩
      · rw [served]
        linarith [Thread.reserved_nonneg (.suspended (.launchCreating job task containers request)
          (.createNamespacedPod w.manager.config.kubeNamespace
            (w.manager.config.podFor job task containers)) none) r]
      · simp [served, Thread.reserved, nonneg]
  | deleteDeleting pod =>
      obtain ⟨rfl, live⟩ := consistent
      rcases Cluster.serve_delete warm.sound live w.manager.config answer with
        ⟨e, served⟩ | served
      · simp [served, Thread.reserved]
      · simpa [served, Thread.reserved, requested_erase r live] using
          Pod.request_nonneg (warm.sound.nonneg pod live) r
  | launchLoading => exact consistent.elim
  | deleteLoading => exact consistent.elim

theorem WithinQuota.resume (quota : WithinQuota w) (warm : Warm w) {i : Nat}
    (hstep : w.exactStep (.resume i) = some w') : WithinQuota w' := by
  obtain ⟨c, call, response, hi, rfl⟩ := World.stepWith_resume hstep
  obtain ⟨result, finished⟩ := Segment.thread_of_done (warm.resume_done hi)
  exact quota.set hi _ (resume_config _ _ _ _) fun r => by simp [finished, Thread.reserved]

/-- While at most one launch is between its check and its update, every event keeps the live
pods and the admitted launches within the quotas. -/
theorem WithinQuota.step (quota : WithinQuota w) (warm : Warm w) {e : Event}
    (hstep : w.exactStep e = some w') (serial : SerialLaunches w e w') : WithinQuota w' := by
  cases e with
  | start call => exact quota.start warm hstep serial
  | serve i answer => exact quota.serve warm hstep
  | resume i => exact quota.resume warm hstep
  | expire name => rw [(World.stepWith_expire hstep).2]; exact quota

end Steps

/-! ## Runs from a loaded cache -/

/-- A manager just constructed for an app with no pods in its namespace. -/
def World.fresh (config : Config) : World := ⟨⟨config, none, []⟩, ⟨[], []⟩, [], []⟩

/-- The same manager once a first call has loaded its cache. -/
def World.loaded (config : Config) : World := ⟨⟨config, some ⟨0, 0⟩, []⟩, ⟨[], []⟩, [], []⟩

theorem Warm.loaded (config : Config) : Warm (World.loaded config) where
  sound := ⟨List.nodup_nil, nofun, nofun⟩
  consistent _ member := (List.not_mem_nil _ member).elim
  deletes_nodup := List.nodup_nil
  balance := ⟨⟨0, 0⟩, rfl, fun r => by cases r <;> simp [World.loaded, Usage.get]⟩

/-- From a cache loaded over an empty namespace, no interleaving that deletes only live pods
and computes what exact arithmetic would loses an update: the cache and what the API server has
done for the coroutines that have not yet recorded it add up to what the live pods request. While
at most one launch is between its quota check and its update of the cache, the live pods also fit
the quotas. -/
theorem interleavings_from_loaded_cache (config : Config) (fits : ∀ r, 0 ≤ config.quota r) :
    (∀ w, Reaches (fun w e w' => DeletesLive w e w' ∧ ComputesExactly w e w')
        (World.loaded config) w →
      ∃ u, w.manager.usage = some u ∧
        ∀ r, u.get r + (w.threads.map (Thread.pending r)).sum = requested r w.cluster.live) ∧
    ∀ w, Reaches (fun w e w' => DeletesLive w e w' ∧ SerialLaunches w e w' ∧ ComputesExactly w e w')
        (World.loaded config) w →
      ∀ r, requested r w.cluster.live ≤ config.quota r := by
  refine ⟨fun w reach => (reach.induct_inv Warm (Warm.loaded config)
    fun _ _ _ warm _ ⟨deletes, exact⟩ => warm.step exact deletes).balance, fun w reach r => ?_⟩
  obtain ⟨-, quota, same⟩ := reach.induct_inv
    (fun w => Warm w ∧ WithinQuota w ∧ w.manager.config = config)
    ⟨Warm.loaded config, fun r => by simpa [World.loaded, WithinQuota] using fits r, rfl⟩
    fun _ _ _ ⟨warm, quota, same⟩ _ ⟨deletes, serial, exact⟩ =>
      ⟨warm.step exact deletes, quota.step warm exact serial,
        (World.stepWith_config exact).trans same⟩
  have reserved : 0 ≤ (w.threads.map (Thread.reserved r)).sum :=
    List.sum_nonneg fun q member => by
      obtain ⟨t, -, rfl⟩ := List.mem_map.mp member
      exact t.reserved_nonneg r
  have := quota r
  rw [same] at this
  linarith

/-- After one launch from a loaded cache with a quota of one cpu, the cache matches the pod
it created, and the pod fits the quota. -/
theorem interleavings_from_loaded_cache_one_cpu :
    ∃ w, Reaches (fun w e w' => DeletesLive w e w' ∧ SerialLaunches w e w' ∧ ComputesExactly w e w')
        (World.loaded ⟨"app", "default", 1, 2⟩) w ∧
      w.cluster.live.length = 1 ∧ w.threads.map (Thread.pending .cpu) = [0] ∧
      (∃ u, w.manager.usage = some u ∧ u.get .cpu = requested .cpu w.cluster.live) ∧
      requested .cpu w.cluster.live ≤ 1 := by
  have fits : ∀ r, 0 ≤ (⟨"app", "default", 1, 2⟩ : Config).quota r := by
    intro r; cases r <;> with_unfolding_all decide
  obtain ⟨w, ran, created, settled⟩ : ∃ w, (World.loaded ⟨"app", "default", 1, 2⟩).replay
      (fun w e w' => DeletesLive w e w' ∧ SerialLaunches w e w' ∧ ComputesExactly w e w')
      [.start (.launch "1" "a" oneCpuManifest), .serve 0 .accept, .resume 0] = some w ∧
      w.cluster.live.length = 1 ∧ w.threads.map (Thread.pending .cpu) = [0] := by
    with_unfolding_all exact ⟨_, rfl, by decide⟩
  have reach := Reaches.refl.replay ran
  obtain ⟨accounted, bounded⟩ := interleavings_from_loaded_cache _ fits
  obtain ⟨u, cached, balance⟩ :=
    accounted w (reach.mono fun _ _ _ allowed => ⟨allowed.1, allowed.2.2⟩)
  refine ⟨w, reach, created, settled, ⟨u, cached, ?_⟩, bounded w reach .cpu⟩
  simpa [settled] using balance .cpu

/-- From a cache loaded over an empty namespace, in any interleaving that deletes only live pods
and computes what exact arithmetic would, whenever no launch is between its quota check and its
update of the cache, the cache counts at least what the live pods request: it is ahead of them
only by deletions the API server has made and the cache has not yet recorded. -/
theorem cache_covers_live_pods (config : Config) (w : World)
    (reach : Reaches (fun w e w' => DeletesLive w e w' ∧ ComputesExactly w e w')
      (World.loaded config) w)
    (idle : ∀ t ∈ w.threads, t.isCreating = false) :
    ∃ u, w.manager.usage = some u ∧ ∀ r, requested r w.cluster.live ≤ u.get r := by
  have warm := reach.induct_inv Warm (Warm.loaded config)
    fun _ _ _ warm _ ⟨deletes, exact⟩ => warm.step exact deletes
  obtain ⟨u, loaded, -⟩ := warm.balance
  exact ⟨u, loaded, warm.requested_le_usage loaded idle⟩

theorem cache_covers_live_pods_one_cpu :
    ∃ w, Reaches (fun w e w' => DeletesLive w e w' ∧ ComputesExactly w e w')
        (World.loaded ⟨"app", "default", 1, 2⟩) w ∧
      (∀ t ∈ w.threads, t.isCreating = false) ∧ w.cluster.live.length = 1 ∧
      ∃ u, w.manager.usage = some u ∧ requested .cpu w.cluster.live ≤ u.get .cpu := by
  obtain ⟨w, ran, idle, created⟩ : ∃ w, (World.loaded ⟨"app", "default", 1, 2⟩).replay
      (fun w e w' => DeletesLive w e w' ∧ ComputesExactly w e w')
      [.start (.launch "1" "a" oneCpuManifest), .serve 0 .accept, .resume 0] = some w ∧
      (∀ t ∈ w.threads, t.isCreating = false) ∧ w.cluster.live.length = 1 := by
    with_unfolding_all exact ⟨_, rfl, by decide⟩
  have reach := Reaches.refl.replay ran
  obtain ⟨u, cached, covered⟩ := cache_covers_live_pods _ w reach idle
  exact ⟨w, reach, idle, created, u, cached, covered .cpu⟩

/-- Two launches of a fresh manager with a quota of one cpu both pass their check: the second
loads the cache after the first has created its pod and writes zero over the first's update.
Both pods run, and the cache shows one cpu where two are requested. And a single launch of a
pod requesting `1.0000000000000000000000000001` cpu passes the same quota, since the decimal
context rounds the request to `1`: the pod runs over the quota, and the cache shows less than
it requests. -/
theorem concurrent_launches_overrun_quota :
    (∃ w, Reaches DeletesLive (World.fresh ⟨"app", "default", 1, defaultMemQuota⟩) w ∧
      (∀ t ∈ w.threads, t.isSuspended = false) ∧
      (1 : ℚ) < requested .cpu w.cluster.live ∧
      w.manager.usage.map Usage.cpu ≠ some (requested .cpu w.cluster.live)) ∧
    ∃ w, Reaches DeletesLive (World.fresh ⟨"app", "default", 1, defaultMemQuota⟩) w ∧
      (∀ t ∈ w.threads, t.isSuspended = false) ∧
      (1 : ℚ) < requested .cpu w.cluster.live ∧
      (w.manager.usage.map Usage.cpu).getD 0 < requested .cpu w.cluster.live := by
  constructor
  · obtain ⟨w, ran, facts⟩ : ∃ w, (World.fresh ⟨"app", "default", 1, defaultMemQuota⟩).replay
        DeletesLive
        [.start (.launch "1" "a" oneCpuManifest), .start (.launch "1" "b" oneCpuManifest),
          .serve 0 .accept, .resume 0, .serve 0 .accept, .resume 0,
          .serve 1 .accept, .resume 1, .serve 1 .accept, .resume 1] = some w ∧
        (∀ t ∈ w.threads, t.isSuspended = false) ∧ (1 : ℚ) < requested .cpu w.cluster.live ∧
        w.manager.usage.map Usage.cpu ≠ some (requested .cpu w.cluster.live) := by
      with_unfolding_all exact ⟨_, rfl, by decide⟩
    exact ⟨w, Reaches.refl.replay ran, facts⟩
  · obtain ⟨w, ran, facts⟩ : ∃ w, (World.fresh ⟨"app", "default", 1, defaultMemQuota⟩).replay
        DeletesLive
        [.start (.launch "1" "a" overQuotaManifest), .serve 0 .accept, .resume 0, .serve 0 .accept,
          .resume 0] = some w ∧
        (∀ t ∈ w.threads, t.isSuspended = false) ∧ (1 : ℚ) < requested .cpu w.cluster.live ∧
        (w.manager.usage.map Usage.cpu).getD 0 < requested .cpu w.cluster.live := by
      with_unfolding_all exact ⟨_, rfl, by decide⟩
    exact ⟨w, Reaches.refl.replay ran, facts⟩

end PyDataTask.Executor
