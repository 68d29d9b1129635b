import PyDataTask.Executor.Basic

/-!
# The coroutines of `launch` and `delete`

An `async` method of the manager runs synchronously from one suspending `await` to the next.
Only the three API calls suspend: `cpu_usage()` and `mem_usage()` return at once when the
cache is set, and otherwise await `_load_usage()`, which awaits the pod listing. A `Segment`
is one synchronous run: the manager it leaves, the lines it logs, and where the coroutine
stands after it. Every function that adds or subtracts quantities takes the rounding `round` of
the decimal context.
-/

namespace PyDataTask.Executor

open PyDataTask.Python

/-- Where a suspended coroutine of the manager waits, with the locals it still reads. -/
inductive Coroutine where
  /-- `launch`, in `cpu_usage()` and `_load_usage()`, awaiting `list_namespaced_pod`. -/
  | launchLoading (job task : String) (containers : List Container) (request : Usage)
      (metadata : Metadata)
  /-- `launch`, awaiting `create_namespaced_pod`. -/
  | launchCreating (job task : String) (containers : List Container) (request : Usage)
  /-- `delete`, in `cpu_usage()` and `_load_usage()`, awaiting `list_namespaced_pod`. -/
  | deleteLoading (pod : Pod)
  /-- `delete`, awaiting `delete_namespaced_pod`. -/
  | deleteDeleting (pod : Pod)
  deriving DecidableEq

inductive Progress where
  | awaiting (coroutine : Coroutine) (call : ApiCall)
  /-- `launch` returns `True` or `False`, `delete` returns `None`. -/
  | returned (value : Option Bool)
  | raised (e : PyExc)
  deriving DecidableEq

structure Segment where
  manager : PodManager
  logged : List String
  progress : Progress

/-! ## `_load_usage` -/

/-- `for container in containers: self._cpu_usage op= cpu; self._mem_usage op= memory`,
stopping at the first exception with the updates made before it. Python reads the request
before it applies the operator, so a missing request raises `KeyError` before an unset cache
raises `TypeError`. -/
def applyRequests (op : ℚ → ℚ → ℚ) : Option Usage → List Container → Option Usage × Option PyExc
  | cache, [] => (cache, none)
  | cache, c :: rest =>
      match c.cpu, cache with
      | none, _ => (cache, some (.keyError "cpu"))
      | some _, none => (none, some .typeError)
      | some cpu, some u =>
          match c.memory with
          | none => (some { u with cpu := op u.cpu cpu }, some (.keyError "memory"))
          | some mem => applyRequests op (some ⟨op u.cpu cpu, op u.mem mem⟩) rest

section Arithmetic

-- The rounding of the decimal context: `Decimal.round` in the code, `id` for exact arithmetic.
variable (round : ℚ → ℚ)

/-- `_load_usage` once the listing has answered. Its loop adds each request to the fields
`self._cpu_usage` and `self._mem_usage`, not to the locals, and its `finally` writes the
locals, which stay `0`; an `ApiException` whose reason is `Forbidden` is swallowed. -/
def loadUsage (m : PodManager) (listing : Except PyExc (List Pod)) : PodManager × Option PyExc :=
  let cpuUsage : ℚ := 0
  let memUsage : ℚ := 0
  let raised : Option PyExc :=
    match listing with
    | .ok items =>
        (applyRequests (fun a b => round (a + b)) m.usage (items.flatMap Pod.containers)).2
    | .error (.apiException "Forbidden") => none
    | .error e => some e
  ({ m with usage := some ⟨cpuUsage, memUsage⟩ }, raised)

def Config.listCall (c : Config) : ApiCall :=
  .listNamespacedPod c.kubeNamespace ("app=" ++ c.app)

/-- The manifest as `launch` sends it: named `'%s-%s-%s' % (app, job, task)`, labelled with
the app, task and job, with `restartPolicy` set to `Never`. -/
def Config.podFor (c : Config) (job task : String) (containers : List Container) : Pod where
  name := c.app ++ "-" ++ job ++ "-" ++ task
  labels := [("app", c.app), ("task", task), ("job", job)]
  containers := containers
  restartPolicy := some "Never"

/-! ## `launch` -/

/-- The synchronous prefix of `launch`: the kind assertion, `manifest['spec']`, and the sum
of the containers' requests. -/
def launchRequest (manifest : Manifest) : Except PyExc (List Container × Usage) :=
  match manifest.kind with
  | none => .error (.keyError "kind")
  | some kind =>
      if kind ≠ "Pod" then .error .assertionError
      else
        match manifest.spec with
        | none => .error (.keyError "spec")
        | some spec =>
            match spec.containers with
            | none => .error (.keyError "containers")
            | some containers =>
                (requestTotals round ⟨0, 0⟩ containers).map fun request => (containers, request)

/-- A refused launch warns once per task: `if task not in self.warned`. -/
def warn (m : PodManager) (task limit : String) : Segment :=
  if task ∈ m.warned then ⟨m, [], .returned (some false)⟩
  else
    ⟨{ m with warned := m.warned ++ [task] }, ["Cannot launch " ++ task ++ " - " ++ limit ++ " limit"],
      .returned (some false)⟩

/-- `launch` from its quota checks on: `cpu_usage()` and `mem_usage()` return the cache, and
`manifest['metadata'].update(...)` raises `AttributeError` on a value without `update`. -/
def launchAdmit (m : PodManager) (job task : String) (containers : List Container)
    (request : Usage) (metadata : Metadata) : Segment :=
  match m.usage with
  | none => ⟨m, [], .raised .typeError⟩
  | some usage =>
      if round (request.cpu + usage.cpu) > m.config.cpuQuota then warn m task "cpu"
      else if round (request.mem + usage.mem) > m.config.memQuota then warn m task "memory"
      else if metadata = .noUpdate then ⟨m, [], .raised (.attributeError "update")⟩
      else
        ⟨m, ["Creating task " ++ task ++ " for job " ++ job],
          .awaiting (.launchCreating job task containers request)
            (.createNamespacedPod m.config.kubeNamespace (m.config.podFor job task containers))⟩

def launchStart (m : PodManager) (job task : String) (manifest : Manifest) : Segment :=
  match launchRequest round manifest with
  | .error e => ⟨m, [], .raised e⟩
  | .ok (containers, request) =>
      match m.usage with
      | none =>
          ⟨m, [], .awaiting (.launchLoading job task containers request manifest.metadata)
            m.config.listCall⟩
      | some _ => launchAdmit round m job task containers request manifest.metadata

/-! ## `delete` -/

def Config.deleteCall (c : Config) (pod : Pod) : ApiCall :=
  .deleteNamespacedPod pod.name c.kubeNamespace

def deleteStart (m : PodManager) (pod : Pod) : Segment :=
  match m.usage with
  | none => ⟨m, [], .awaiting (.deleteLoading pod) m.config.listCall⟩
  | some _ => ⟨m, [], .awaiting (.deleteDeleting pod) (m.config.deleteCall pod)⟩

/-! ## Resuming -/

/-- A suspended coroutine resumes with the API server's response. -/
def resume (m : PodManager) : Coroutine → Except PyExc (List Pod) → Segment
  | .launchLoading job task containers request metadata, listing =>
      match loadUsage round m listing with
      | (loaded, some e) => ⟨loaded, [], .raised e⟩
      | (loaded, none) => launchAdmit round loaded job task containers request metadata
  | .launchCreating _ _ _ _, .error e => ⟨m, [], .raised e⟩
  | .launchCreating _ _ _ request, .ok _ =>
      match m.usage with
      | none => ⟨m, [], .raised .typeError⟩
      | some u =>
          ⟨{ m with usage := some ⟨round (u.cpu + request.cpu), round (u.mem + request.mem)⟩ }, [],
            .returned (some true)⟩
  | .deleteLoading pod, listing =>
      match loadUsage round m listing with
      | (loaded, some e) => ⟨loaded, [], .raised e⟩
      | (loaded, none) => ⟨loaded, [], .awaiting (.deleteDeleting pod) (loaded.config.deleteCall pod)⟩
  | .deleteDeleting _, .error e => ⟨m, [], .raised e⟩
  | .deleteDeleting pod, .ok _ =>
      match applyRequests (fun a b => round (a - b)) m.usage pod.containers with
      | (cache, some e) => ⟨{ m with usage := cache }, [], .raised e⟩
      | (cache, none) => ⟨{ m with usage := cache }, [], .returned none⟩

/-! ## What `_load_usage` leaves -/

@[simp]
theorem loadUsage_manager (m : PodManager) (listing : Except PyExc (List Pod)) :
    (loadUsage round m listing).1 = { m with usage := some ⟨0, 0⟩ } := rfl

/-- On a fresh manager, a listing of one pod, requesting one cpu and `1Gi` of memory, makes
`_load_usage` raise `TypeError` at its first `self._cpu_usage += ...`, where the field is still
`None`, and its `finally` leaves the cache at zero; a listing that fails for any reason but
`Forbidden` also leaves the cache at zero, not `None`. -/
theorem load_usage_raises_on_listed_pod :
    (loadUsage Decimal.round (PodManager.init "app" "default" defaultCpuQuota defaultMemQuota)
        (.ok [Config.podFor ⟨"app", "default", defaultCpuQuota, defaultMemQuota⟩ "1" "a"
          [⟨some 1, some 1073741824⟩]])).2 = some .typeError ∧
      (loadUsage Decimal.round (PodManager.init "app" "default" defaultCpuQuota defaultMemQuota)
        (.ok [Config.podFor ⟨"app", "default", defaultCpuQuota, defaultMemQuota⟩ "1" "a"
          [⟨some 1, some 1073741824⟩]])).1.usage = some ⟨0, 0⟩ ∧
      (loadUsage Decimal.round (PodManager.init "app" "default" defaultCpuQuota defaultMemQuota)
        (.error (.apiException "Internal Server Error"))).1.usage = some ⟨0, 0⟩ :=
  ⟨rfl, rfl, rfl⟩

/-! ## What each segment does -/

/-- The coroutine ended in this segment, returning or raising. -/
def Progress.Done : Progress → Prop
  | .awaiting _ _ => False
  | _ => True

theorem warn_spec (m : PodManager) (task limit : String) :
    (warn m task limit).manager.config = m.config ∧
      (warn m task limit).manager.usage = m.usage ∧
      (warn m task limit).progress = .returned (some false) := by
  unfold warn; split_ifs <;> simp

/-- From a loaded cache the quota checks either end the call or admit it unchanged. -/
theorem launchAdmit_loaded (m : PodManager) (u : Usage) (loaded : m.usage = some u)
    (job task : String) (containers : List Container) (request : Usage) (metadata : Metadata) :
    (launchAdmit round m job task containers request metadata).manager.config = m.config ∧
      (launchAdmit round m job task containers request metadata).manager.usage = some u ∧
      ((launchAdmit round m job task containers request metadata).progress.Done ∨
        (∀ r, round (request.get r + u.get r) ≤ m.config.quota r) ∧
          launchAdmit round m job task containers request metadata =
            ⟨m, ["Creating task " ++ task ++ " for job " ++ job],
              .awaiting (.launchCreating job task containers request)
                (.createNamespacedPod m.config.kubeNamespace (m.config.podFor job task containers))⟩) := by
  unfold launchAdmit
  simp only [loaded]
  split_ifs with hcpu hmem
  · obtain ⟨h1, h2, h3⟩ := warn_spec m task "cpu"
    exact ⟨h1, h2.trans loaded, .inl (by simp [h3, Progress.Done])⟩
  · obtain ⟨h1, h2, h3⟩ := warn_spec m task "memory"
    exact ⟨h1, h2.trans loaded, .inl (by simp [h3, Progress.Done])⟩
  · exact ⟨rfl, loaded, .inl trivial⟩
  · refine ⟨rfl, loaded, .inr ⟨fun r => ?_, rfl⟩⟩
    cases r <;> simp only [Usage.get, Config.quota] <;> linarith

theorem launchStart_loaded (m : PodManager) (u : Usage) (loaded : m.usage = some u)
    (job task : String) (manifest : Manifest) :
    (launchStart round m job task manifest).manager.config = m.config ∧
      (launchStart round m job task manifest).manager.usage = some u ∧
      ((launchStart round m job task manifest).progress.Done ∨
        ∃ containers request, launchRequest round manifest = .ok (containers, request) ∧
          (∀ r, round (request.get r + u.get r) ≤ m.config.quota r) ∧
          launchStart round m job task manifest =
            ⟨m, ["Creating task " ++ task ++ " for job " ++ job],
              .awaiting (.launchCreating job task containers request)
                (.createNamespacedPod m.config.kubeNamespace (m.config.podFor job task containers))⟩) := by
  cases hrequest : launchRequest round manifest with
  | error e => simp [launchStart, hrequest, Progress.Done, loaded]
  | ok accepted =>
      obtain ⟨containers, request⟩ := accepted
      have start : launchStart round m job task manifest =
          launchAdmit round m job task containers request manifest.metadata := by
        simp [launchStart, hrequest, loaded]
      obtain ⟨hconfig, husage, hcases⟩ :=
        launchAdmit_loaded round m u loaded job task containers request manifest.metadata
      rw [start]
      exact ⟨hconfig, husage, hcases.imp id fun admitted => ⟨containers, request, rfl, admitted⟩⟩

theorem launchStart_unloaded (m : PodManager) (unloaded : m.usage = none)
    (job task : String) (manifest : Manifest) :
    (launchStart round m job task manifest).manager = m ∧
      ((launchStart round m job task manifest).progress.Done ∨
        ∃ containers request, launchRequest round manifest = .ok (containers, request) ∧
          (launchStart round m job task manifest).progress =
            .awaiting (.launchLoading job task containers request manifest.metadata)
              m.config.listCall) := by
  cases hrequest : launchRequest round manifest with
  | error e => simp [launchStart, hrequest, Progress.Done]
  | ok accepted => simp [launchStart, hrequest, unloaded]

theorem deleteStart_loaded (m : PodManager) (u : Usage) (loaded : m.usage = some u) (pod : Pod) :
    deleteStart m pod = ⟨m, [], .awaiting (.deleteDeleting pod) (m.config.deleteCall pod)⟩ := by
  simp [deleteStart, loaded]

theorem deleteStart_unloaded (m : PodManager) (unloaded : m.usage = none) (pod : Pod) :
    deleteStart m pod = ⟨m, [], .awaiting (.deleteLoading pod) m.config.listCall⟩ := by
  simp [deleteStart, unloaded]

/-- Subtracting the requests of complete containers from a set cache, one difference at a
time. -/
theorem applyRequests_sub (u : Usage) {containers : List Container}
    (complete : ∀ c ∈ containers, c.Complete) :
    ∃ u', applyRequests (fun a b => round (a - b)) (some u) containers = (some u', none) ∧
      ∀ r, u'.get r = Decimal.deduct round (u.get r) (containers.map fun c => (c.request r).getD 0) := by
  induction containers generalizing u with
  | nil => exact ⟨u, rfl, fun r => rfl⟩
  | cons c rest ih =>
      obtain ⟨⟨cpu, hcpu⟩, ⟨mem, hmem⟩⟩ :
          (∃ cpu, c.cpu = some cpu) ∧ ∃ mem, c.memory = some mem := by
        obtain ⟨h1, h2⟩ := complete c (by simp)
        exact ⟨Option.isSome_iff_exists.mp h1, Option.isSome_iff_exists.mp h2⟩
      obtain ⟨u', happly, hget⟩ := ih ⟨round (u.cpu - cpu), round (u.mem - mem)⟩
        fun c' mem' => complete c' (by simp [mem'])
      refine ⟨u', by simp [applyRequests, hcpu, hmem, happly], fun r => ?_⟩
      rw [hget r]
      cases r <;> simp [Decimal.deduct, Usage.get, Container.request, hcpu, hmem]

theorem resume_launchCreating (m : PodManager) (u : Usage) (loaded : m.usage = some u)
    (job task : String) (containers : List Container) (request : Usage)
    (response : Except PyExc (List Pod)) :
    resume round m (.launchCreating job task containers request) response =
      match response with
      | .error e => ⟨m, [], .raised e⟩
      | .ok _ =>
          ⟨{ m with usage := some ⟨round (u.cpu + request.cpu), round (u.mem + request.mem)⟩ }, [],
            .returned (some true)⟩ := by
  cases response <;> simp [resume, loaded]

theorem resume_deleteDeleting (m : PodManager) (u : Usage) (loaded : m.usage = some u)
    (pod : Pod) (complete : ∀ c ∈ pod.containers, c.Complete) (response : Except PyExc (List Pod)) :
    (resume round m (.deleteDeleting pod) response).manager.config = m.config ∧
      match response with
      | .error e => resume round m (.deleteDeleting pod) response = ⟨m, [], .raised e⟩
      | .ok _ =>
          ∃ u', (resume round m (.deleteDeleting pod) response).manager.usage = some u' ∧
            (∀ r, u'.get r =
              Decimal.deduct round (u.get r) (pod.containers.map fun c => (c.request r).getD 0)) ∧
            (resume round m (.deleteDeleting pod) response).progress = .returned none := by
  cases response with
  | error e => simp [resume]
  | ok items =>
      obtain ⟨u', happly, hget⟩ := applyRequests_sub round u complete
      have resumed : resume round m (.deleteDeleting pod) (.ok items) =
          ⟨{ m with usage := some u' }, [], .returned none⟩ := by
        simp [resume, loaded, happly]
      rw [resumed]
      exact ⟨rfl, u', rfl, hget, rfl⟩

theorem resume_loading_manager (m : PodManager) (job task : String) (containers : List Container)
    (request : Usage) (metadata : Metadata) (listing : Except PyExc (List Pod)) :
    (resume round m (.launchLoading job task containers request metadata) listing).manager.config =
        m.config ∧
      (resume round m (.launchLoading job task containers request metadata) listing).manager.usage =
        some ⟨0, 0⟩ ∧
      ((resume round m (.launchLoading job task containers request metadata) listing).progress.Done ∨
        (∀ r, round (request.get r) ≤ m.config.quota r) ∧
          (resume round m (.launchLoading job task containers request metadata) listing).progress =
            .awaiting (.launchCreating job task containers request)
              (.createNamespacedPod m.config.kubeNamespace
                (m.config.podFor job task containers))) := by
  have loading : loadUsage round m listing =
      ({ m with usage := some ⟨0, 0⟩ }, (loadUsage round m listing).2) := rfl
  simp only [resume]
  rw [loading]
  cases (loadUsage round m listing).2 with
  | some e => simp [Progress.Done]
  | none =>
    dsimp only
    obtain ⟨hconfig, husage, hcases⟩ := launchAdmit_loaded round { m with usage := some ⟨0, 0⟩ }
      ⟨0, 0⟩ rfl job task containers request metadata
    refine ⟨hconfig, husage,
      hcases.imp id fun ⟨fits, admitted⟩ => ⟨fun r => ?_, by rw [admitted]⟩⟩
    have fit := fits r
    cases r <;> simpa [Usage.get] using fit

theorem resume_config (m : PodManager) (c : Coroutine) (response : Except PyExc (List Pod)) :
    (resume round m c response).manager.config = m.config := by
  cases c with
  | launchLoading job task containers request metadata =>
      exact (resume_loading_manager round m job task containers request metadata response).1
  | launchCreating =>
      cases response with
      | error => rfl
      | ok => simp only [resume]; split <;> rfl
  | deleteLoading =>
      have loading : loadUsage round m response =
          ({ m with usage := some ⟨0, 0⟩ }, (loadUsage round m response).2) := rfl
      simp only [resume]
      rw [loading]
      cases (loadUsage round m response).2 <;> rfl
  | deleteDeleting =>
      cases response with
      | error => rfl
      | ok => simp only [resume]; split <;> rfl

/-! ## What `launch` reads from its manifest -/

/-- A manifest that `launch` accepts is a `Pod` whose containers all declare both requests,
and the request is their sum. -/
theorem launchRequest_ok {manifest : Manifest} {containers : List Container} {request : Usage}
    (accepted : launchRequest round manifest = .ok (containers, request)) :
    manifest.kind = some "Pod" ∧ manifest.spec = some ⟨some containers⟩ ∧
      (∀ c ∈ containers, c.Complete) ∧ ∀ r, request.get r = requestSum round containers r := by
  obtain ⟨kind, spec, metadata⟩ := manifest
  cases kind with
  | none => simp [launchRequest] at accepted
  | some kind =>
      by_cases hpod : kind = "Pod"
      · subst hpod
        obtain _ | ⟨_ | cs⟩ := spec
        · simp [launchRequest] at accepted
        · simp [launchRequest] at accepted
        · cases htotal : requestTotals round ⟨0, 0⟩ cs with
          | error e => simp [launchRequest, htotal, Except.map] at accepted
          | ok total =>
              simp only [launchRequest, htotal, Except.map, ne_eq, not_true_eq_false,
                if_false, Except.ok.injEq, Prod.mk.injEq] at accepted
              obtain ⟨rfl, rfl⟩ := accepted
              exact ⟨rfl, rfl, requestTotals_ok htotal⟩
      · simp [launchRequest, hpod] at accepted

end Arithmetic

/-! ## What `launch` does from a loaded cache -/

/-- A manifest of one container requesting one cpu and one byte of memory. -/
def oneCpuManifest : Manifest := ⟨some "Pod", some ⟨some [⟨some 1, some 1⟩]⟩, .absent⟩

/-- A manifest of one container requesting `1.0000000000000000000000000001` cpu, a quantity of
29 digits that `parse_quantity` reads exactly, and one byte of memory. -/
def overQuotaManifest : Manifest :=
  ⟨some "Pod", some ⟨some [⟨some (mkRat ((10 ^ 28 + 1 : ℕ) : ℤ) (10 ^ 28)), some 1⟩]⟩, .absent⟩

end PyDataTask.Executor
