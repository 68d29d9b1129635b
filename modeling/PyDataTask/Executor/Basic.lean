import PyDataTask.Python.Builtins
import PyDataTask.Python.Decimal
import Mathlib.Algebra.BigOperators.Group.List
import Mathlib.Algebra.Order.BigOperators.Group.List
import Mathlib.Algebra.Order.Field.Rat
import Mathlib.Tactic.Linarith
import Mathlib.Tactic.Ring
import Mathlib.Tactic.Abel

/-!
# The pod manager's data and the API server it talks to

`PodManager` (`pod_manager.py`) launches the pods of one app in one Kubernetes namespace and
caches the cpu and memory that the app's pods request, so that a launch that would exceed the
manager's quotas is refused. Quantities are the `Decimal` values that
`kubernetes.utils.parse_quantity` returns, finite decimals taken as rationals; the manager adds
and subtracts them in the default decimal context, whose rounding (`Decimal.round`, or `id` for
exact arithmetic) every function that does arithmetic takes as its argument `round`. The API
server is the environment: it holds the app's pods and answers each request, or fails it, as the
environment chooses.
-/

namespace PyDataTask.Executor

open PyDataTask.Python

/-- The requests of one container, as `parse_quantity` reads them from
`container['resources']['requests']`; `none` where the request is missing or unreadable. -/
structure Container where
  cpu : Option ℚ
  memory : Option ℚ
  deriving DecidableEq

structure Pod where
  name : String
  labels : List (String × String)
  containers : List Container
  restartPolicy : Option String
  deriving DecidableEq

/-- `manifest['spec']`, of which `launch` reads `containers`. -/
structure PodSpec where
  containers : Option (List Container)

/-- `manifest.get('metadata', {})` as `launch` finds it: the key absent, a mapping, or a value
without an `update` method (`None`, a string, a number, a list). -/
inductive Metadata where
  | absent
  | mapping
  | noUpdate
  deriving DecidableEq

/-- A pod manifest: `manifest['kind']` and `manifest['spec']`, `none` where the key is missing,
and `manifest['metadata']`. -/
structure Manifest where
  kind : Option String
  spec : Option PodSpec
  metadata : Metadata

/-- The cached pair `(_cpu_usage, _mem_usage)`: Python sets the two fields together, so
`None` in one is `None` in the other at every `await`. -/
structure Usage where
  cpu : ℚ
  mem : ℚ
  deriving DecidableEq

/-- The fields `__init__` sets from its arguments; nothing assigns them afterwards. -/
structure Config where
  app : String
  kubeNamespace : String
  cpuQuota : ℚ
  memQuota : ℚ
  deriving DecidableEq

structure PodManager where
  config : Config
  usage : Option Usage
  warned : List String
  deriving DecidableEq

/-- `parse_quantity('1')` and `parse_quantity('1Gi')`, the constructor's default quotas. -/
def defaultCpuQuota : ℚ := 1

def defaultMemQuota : ℚ := 1073741824

/-- `PodManager(app, namespace, cpu_quota=..., mem_quota=...)`: nothing is cached yet. -/
def PodManager.init (app kubeNamespace : String) (cpuQuota memQuota : ℚ) : PodManager :=
  ⟨⟨app, kubeNamespace, cpuQuota, memQuota⟩, none, []⟩

/-! ## Requests of pods -/

/-- The two resources the manager meters. -/
inductive Resource where
  | cpu
  | memory
  deriving DecidableEq

def Container.request (c : Container) : Resource → Option ℚ
  | .cpu => c.cpu
  | .memory => c.memory

def Usage.get (u : Usage) : Resource → ℚ
  | .cpu => u.cpu
  | .memory => u.mem

def Config.quota (c : Config) : Resource → ℚ
  | .cpu => c.cpuQuota
  | .memory => c.memQuota

def Container.Complete (c : Container) : Prop := c.cpu.isSome ∧ c.memory.isSome

/-- The loop of `launch` summing the requests of `spec['containers']` in order, from
`cpu_request = mem_request = 0`, each `+=` rounded by `round`. A container's cpu request is read
and added before its memory request is read. -/
def requestTotals (round : ℚ → ℚ) : Usage → List Container → Except PyExc Usage
  | total, [] => .ok total
  | total, c :: rest =>
      match c.cpu, c.memory with
      | none, _ => .error (.keyError "cpu")
      | some _, none => .error (.keyError "memory")
      | some cpu, some mem =>
          requestTotals round ⟨round (total.cpu + cpu), round (total.mem + mem)⟩ rest

/-- What a list of containers requests of one resource, a missing request counting zero. -/
def containersRequest (containers : List Container) (r : Resource) : ℚ :=
  (containers.map fun c => (c.request r).getD 0).sum

def Pod.request (pod : Pod) (r : Resource) : ℚ := containersRequest pod.containers r

/-- What the pods of a list request together. -/
def requested (r : Resource) (pods : List Pod) : ℚ := (pods.map (Pod.request · r)).sum

@[simp]
theorem requested_nil (r : Resource) : requested r [] = 0 := rfl

@[simp]
theorem requested_append (r : Resource) (pods more : List Pod) :
    requested r (pods ++ more) = requested r pods + requested r more := by
  simp [requested]

@[simp]
theorem requested_cons (r : Resource) (pod : Pod) (pods : List Pod) :
    requested r (pod :: pods) = pod.request r + requested r pods := by
  simp [requested]

@[simp]
theorem containersRequest_nil (r : Resource) : containersRequest [] r = 0 := rfl

@[simp]
theorem containersRequest_cons (r : Resource) (c : Container) (rest : List Container) :
    containersRequest (c :: rest) r = (c.request r).getD 0 + containersRequest rest r := by
  simp [containersRequest]

/-- What the containers request of `r`, added up in order as `launch` adds, each sum rounded by
`round`. -/
def requestSum (round : ℚ → ℚ) (containers : List Container) (r : Resource) : ℚ :=
  Decimal.accumulate round (containers.map fun c => (c.request r).getD 0)

@[simp]
theorem requestSum_id (containers : List Container) (r : Resource) :
    requestSum id containers r = containersRequest containers r := by
  simp [requestSum, containersRequest]

theorem requestTotals_ok_from {round : ℚ → ℚ} {containers : List Container} {start total : Usage}
    (summed : requestTotals round start containers = .ok total) :
    (∀ c ∈ containers, c.Complete) ∧ ∀ r, total.get r =
      (containers.map fun c => (c.request r).getD 0).foldl (fun t x => round (t + x)) (start.get r) := by
  induction containers generalizing start with
  | nil => cases summed; exact ⟨by simp, fun r => rfl⟩
  | cons c rest ih =>
      obtain ⟨cpu, mem⟩ := c
      cases cpu <;> cases mem <;> simp only [requestTotals] at summed <;> try cases summed
      obtain ⟨complete, sums⟩ := ih summed
      refine ⟨by simpa [Container.Complete] using complete, fun r => ?_⟩
      rw [sums r]
      cases r <;> rfl

/-- A successful sum covers every container, and is their requests added up in order. -/
theorem requestTotals_ok {round : ℚ → ℚ} {containers : List Container} {total : Usage}
    (summed : requestTotals round ⟨0, 0⟩ containers = .ok total) :
    (∀ c ∈ containers, c.Complete) ∧ ∀ r, total.get r = requestSum round containers r := by
  obtain ⟨complete, sums⟩ := requestTotals_ok_from summed
  exact ⟨complete, fun r => by rw [sums r]; cases r <;> rfl⟩

inductive ApiCall where
  | listNamespacedPod (kubeNamespace labelSelector : String)
  | createNamespacedPod (kubeNamespace : String) (pod : Pod)
  | deleteNamespacedPod (name kubeNamespace : String)
  deriving DecidableEq

/-- What the environment lets the API server do with one request. -/
inductive Answer where
  | accept
  | fail (e : PyExc)
  deriving DecidableEq

/-- The app's pods as the API server holds them: those alive, and those whose deletion was
accepted and whose grace period has not ended (Kubernetes still lists them and still
accepts deleting them). -/
structure Cluster where
  live : List Pod
  terminating : List Pod
  deriving DecidableEq

def Cluster.names (k : Cluster) : List String := (k.live ++ k.terminating).map Pod.name

/-- The API server's validation of a pod's requests: each one present is nonnegative. -/
def Pod.requestsNonneg (pod : Pod) : Bool :=
  pod.containers.all fun c => c.cpu.all (0 ≤ ·) && c.memory.all (0 ≤ ·)

/-- The API server's answer to one request. Pod names are unique in a namespace, so a
creation under a name in use fails with `Conflict`; a deletion names its pod. -/
def Cluster.serve (k : Cluster) : ApiCall → Answer → Cluster × Except PyExc (List Pod)
  | _, .fail e => (k, .error e)
  | .listNamespacedPod _ _, .accept => (k, .ok (k.live ++ k.terminating))
  | .createNamespacedPod _ pod, .accept =>
      if pod.name ∈ k.names then (k, .error (.apiException "Conflict"))
      else if pod.requestsNonneg then ({ k with live := k.live ++ [pod] }, .ok [])
      else (k, .error (.apiException "Unprocessable Entity"))
  | .deleteNamespacedPod name _, .accept =>
      match k.live.find? (·.name == name) with
      | some pod => (⟨k.live.erase pod, k.terminating ++ [pod]⟩, .ok [])
      | none =>
          if name ∈ k.terminating.map Pod.name then (k, .ok [])
          else (k, .error (.apiException "Not Found"))

/-- The grace period of a terminating pod ends and the API server forgets it. -/
def Cluster.expire (k : Cluster) (name : String) : Cluster :=
  { k with terminating := k.terminating.filter (·.name ≠ name) }

/-! ## Names on the API server -/

theorem Cluster.names_create {k : Cluster} {pod : Pod} (unique : k.names.Nodup)
    (fresh : pod.name ∉ k.names) : ({ k with live := k.live ++ [pod] } : Cluster).names.Nodup := by
  have perm : ((k.live ++ [pod]) ++ k.terminating).Perm (pod :: (k.live ++ k.terminating)) := by
    simp
  exact (perm.map Pod.name).nodup_iff.mpr (List.nodup_cons.mpr ⟨fresh, unique⟩)

theorem Cluster.names_delete {k : Cluster} {pod : Pod} (unique : k.names.Nodup)
    (live : pod ∈ k.live) : (⟨k.live.erase pod, k.terminating ++ [pod]⟩ : Cluster).names.Nodup := by
  have perm : (k.live.erase pod ++ (k.terminating ++ [pod])).Perm (k.live ++ k.terminating) := by
    rw [← List.append_assoc]
    exact (List.perm_append_singleton _ _).trans
      ((List.perm_cons_erase live).symm.append_right _)
  exact (perm.map Pod.name).nodup_iff.mpr unique

/-- The API server holds at most one pod under each name, whatever it answers. -/
theorem Cluster.names_serve {k : Cluster} (unique : k.names.Nodup) (call : ApiCall)
    (answer : Answer) : (k.serve call answer).1.names.Nodup := by
  cases answer with
  | fail e => cases call <;> exact unique
  | accept =>
      cases call with
      | listNamespacedPod => exact unique
      | createNamespacedPod ns pod =>
          simp only [Cluster.serve]
          split_ifs with taken
          · exact unique
          · exact Cluster.names_create unique taken
          · exact unique
      | deleteNamespacedPod name ns =>
          simp only [Cluster.serve]
          split
          · exact Cluster.names_delete unique (List.mem_of_find?_eq_some ‹_›)
          · split_ifs <;> exact unique

theorem Cluster.names_expire {k : Cluster} (unique : k.names.Nodup) (name : String) :
    (k.expire name).names.Nodup := by
  simp only [Cluster.names, Cluster.expire, List.map_append] at unique ⊢
  exact unique.sublist (List.Sublist.append_left (List.filter_sublist _ |>.map _) _)

end PyDataTask.Executor
