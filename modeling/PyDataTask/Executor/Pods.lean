import PyDataTask.Executor.Interleaving
import Mathlib.Data.List.Basic

/-!
# The pods the manager holds, and what `query` lists

`launch` is the only method that creates pods, and it names each one `<app>-<job>-<task>` and
labels it with the app, the task and the job. So over any interleaving of calls, every pod the
API server holds for the app is one that `launch` built.

`query` lists pods by a label selector that requires the app and, when they are given, the job
and the task, joined by commas; the API server reads such a selector as a list of equality
requirements. Over any interleaving, `query` therefore lists exactly the held pods launched for
the job and the task it names, and the selector `app=<app>` of `_load_usage` selects every held
pod, which is the listing the API server of `Cluster.serve` answers.
-/

namespace PyDataTask.Executor

open PyDataTask.Python

/-! ## Label selectors -/

/-- The characters of a Kubernetes label value, and of a label key without a prefix. -/
def labelChar (c : Char) : Bool := c.isAlphanum || c == '-' || c == '_' || c == '.'

/-- A string the API server accepts as a label value. -/
def LabelValue (s : String) : Prop := s.data.all labelChar = true

instance (s : String) : Decidable (LabelValue s) := inferInstanceAs (Decidable (_ = true))

/-- One term `key=value` of a label selector, as the API server reads it: an equality
requirement. Terms of the other forms (`key`, `key!=value`, `key in (...)`) are left out. -/
def selectorTerm (term : List Char) : Option (String × String) :=
  match term.splitOn '=' with
  | [key, value] =>
      if !key.isEmpty && key.all labelChar && value.all labelChar then some (⟨key⟩, ⟨value⟩)
      else none
  | _ => none

/-- The equality requirements of a selector whose terms are joined by commas. -/
def parseSelector (selector : String) : Option (List (String × String)) :=
  (selector.data.splitOn ',').mapM selectorTerm

/-- Whether a pod's labels meet every requirement. -/
def Pod.selected (requirements : List (String × String)) (pod : Pod) : Bool :=
  requirements.all fun r => pod.labels.lookup r.1 == some r.2

/-- Every pod the API server holds for the app, live or terminating. -/
def Cluster.pods (k : Cluster) : List Pod := k.live ++ k.terminating

/-- The pods the API server lists in answer to a listing request, read with the request's label
selector; `none` for a selector with a term that is not an equality requirement, and for the
other requests. -/
def Cluster.listed (k : Cluster) : ApiCall → Option (List Pod)
  | .listNamespacedPod _ selector =>
      (parseSelector selector).map fun requirements => k.pods.filter (Pod.selected requirements)
  | _ => none

/-! ## `query` -/

/-- The selector of `query`: `'app=' + self.app`, then `'job=' + job` and `'task=' + task` for
the arguments that are not `None`, joined by commas. -/
def Config.querySelector (c : Config) (job task : Option String) : String :=
  ",".intercalate
    (["app=" ++ c.app] ++ (job.map ("job=" ++ ·)).toList ++ (task.map ("task=" ++ ·)).toList)

/-- `query(job, task)` awaits the listing of the pods its selector selects. -/
def Config.queryCall (c : Config) (job task : Option String) : ApiCall :=
  .listNamespacedPod c.kubeNamespace (c.querySelector job task)

/-! ## Joining and splitting -/

theorem intercalate_go_data (s : String) :
    ∀ (acc : String) (l : List String),
      (String.intercalate.go acc s l).data = acc.data ++ (l.map fun a => s.data ++ a.data).flatten
  | acc, [] => by simp [String.intercalate.go]
  | acc, a :: rest => by
      simp [String.intercalate.go, intercalate_go_data s _ rest, List.append_assoc]

theorem intercalate_cons {α : Type} (sep a : List α) :
    ∀ l : List (List α), sep.intercalate (a :: l) = a ++ (l.map (sep ++ ·)).flatten
  | [] => by simp [List.intercalate]
  | b :: rest => by
      have ih := intercalate_cons sep b rest
      simp only [List.intercalate, List.intersperse_cons_cons, List.flatten_cons] at ih ⊢
      simp [ih, List.append_assoc]

theorem data_intercalate (s : String) (l : List String) :
    (s.intercalate l).data = s.data.intercalate (l.map String.data) := by
  cases l with
  | nil => rfl
  | cons a rest =>
      simp only [String.intercalate, intercalate_go_data, List.map_cons, intercalate_cons,
        List.map_map, Function.comp_def]

theorem not_mem_of_labelChar {s : List Char} (valid : s.all labelChar = true) {c : Char}
    (other : labelChar c = false) : c ∉ s := fun member => by
  simp only [List.all_eq_true] at valid
  simp [valid c member] at other

theorem selectorTerm_requirement {key value : String} (nonempty : key.data ≠ [])
    (keyValid : LabelValue key) (valid : LabelValue value) :
    selectorTerm (key ++ "=" ++ value).data = some (key, value) := by
  have split : (key ++ "=" ++ value).data.splitOn '=' = [key.data, value.data] := by
    have joined : (key ++ "=" ++ value).data = ['='].intercalate [key.data, value.data] := by
      simp [List.intercalate]
    rw [joined]
    refine List.splitOn_intercalate _ '=' ?_ (List.cons_ne_nil _ _)
    simp only [List.mem_cons, List.mem_singleton, List.not_mem_nil, or_false]
    rintro l (rfl | rfl)
    exacts [not_mem_of_labelChar keyValid rfl, not_mem_of_labelChar valid rfl]
  unfold LabelValue at keyValid valid
  unfold selectorTerm
  rw [split]
  simp [List.isEmpty_iff, nonempty, keyValid, valid]

theorem mapM_map_some {α β : Type} {f : β → Option α} {g : α → β} :
    ∀ {l : List α}, (∀ x ∈ l, f (g x) = some x) → (l.map g).mapM f = some l
  | [], _ => rfl
  | x :: rest, reads => by
      rw [List.map_cons, List.mapM_cons, reads x (List.mem_cons_self _ _),
        mapM_map_some fun y member => reads y (List.mem_cons_of_mem _ member)]
      rfl

/-- Equality requirements written `key=value` and joined by commas, as `query` writes them, are
read back by the API server, when each key is a nonempty label key and each value a label
value. -/
theorem parseSelector_intercalate {requirements : List (String × String)}
    (nonempty : requirements ≠ [])
    (valid : ∀ r ∈ requirements, r.1.data ≠ [] ∧ LabelValue r.1 ∧ LabelValue r.2) :
    parseSelector (",".intercalate (requirements.map fun r => r.1 ++ "=" ++ r.2)) =
      some requirements := by
  have split : (",".intercalate (requirements.map fun r => r.1 ++ "=" ++ r.2)).data.splitOn ',' =
      requirements.map fun r => (r.1 ++ "=" ++ r.2).data := by
    rw [data_intercalate, List.map_map]
    refine List.splitOn_intercalate _ ',' ?_ (by simpa using nonempty)
    intro l listed
    obtain ⟨r, member, rfl⟩ := List.mem_map.1 listed
    obtain ⟨-, keyValid, valueValid⟩ := valid r member
    simp only [Function.comp_apply, String.data_append, List.mem_append, not_or]
    exact ⟨⟨not_mem_of_labelChar keyValid rfl, by decide⟩, not_mem_of_labelChar valueValid rfl⟩
  unfold parseSelector
  rw [split]
  exact mapM_map_some fun r member =>
    selectorTerm_requirement (valid r member).1 (valid r member).2.1 (valid r member).2.2

/-! ## What `query` selects -/

/-- The requirements of the selector of `query`. -/
def Config.queryRequirements (c : Config) (job task : Option String) : List (String × String) :=
  [("app", c.app)] ++ (job.map (("job", ·))).toList ++ (task.map (("task", ·))).toList

theorem querySelector_eq (c : Config) (job task : Option String) :
    c.querySelector job task =
      ",".intercalate ((c.queryRequirements job task).map fun r => r.1 ++ "=" ++ r.2) := by
  cases job <;> cases task <;> rfl

theorem queryRequirements_valid (c : Config) (job task : Option String) (app : LabelValue c.app)
    (jobValid : ∀ j ∈ job, LabelValue j) (taskValid : ∀ t ∈ task, LabelValue t) :
    ∀ r ∈ c.queryRequirements job task, r.1.data ≠ [] ∧ LabelValue r.1 ∧ LabelValue r.2 := by
  intro r member
  simp only [Config.queryRequirements, List.mem_append, List.mem_singleton, Option.mem_toList,
    Option.mem_def, Option.map_eq_some'] at member
  rcases member with (rfl | ⟨j, rfl, rfl⟩) | ⟨t, rfl, rfl⟩ <;> dsimp only
  · exact ⟨by decide, by decide, app⟩
  · exact ⟨by decide, by decide, jobValid j rfl⟩
  · exact ⟨by decide, by decide, taskValid t rfl⟩

/-- Over label values, the API server lists for `query` the held pods whose labels meet its
requirements. -/
theorem listed_queryCall (k : Cluster) (c : Config) (job task : Option String)
    (app : LabelValue c.app) (jobValid : ∀ j ∈ job, LabelValue j)
    (taskValid : ∀ t ∈ task, LabelValue t) :
    k.listed (c.queryCall job task) =
      some (k.pods.filter (Pod.selected (c.queryRequirements job task))) := by
  simp only [Cluster.listed, Config.queryCall, querySelector_eq,
    parseSelector_intercalate (by simp [Config.queryRequirements])
      (queryRequirements_valid c job task app jobValid taskValid), Option.map_some']

/-- A pod `launch` built for `job` and `task` meets the requirements of `query` exactly when the
query names no other job and no other task. -/
theorem podFor_selected (c : Config) (j t : String) (containers : List Container)
    (job task : Option String) :
    (c.podFor j t containers).selected (c.queryRequirements job task) = true ↔
      (∀ x ∈ job, x = j) ∧ ∀ x ∈ task, x = t := by
  cases job <;> cases task <;>
    simp [Pod.selected, Config.queryRequirements, Config.podFor, List.lookup_cons, @eq_comm _ j,
      @eq_comm _ t]

/-! ## The pods `launch` builds -/

/-- A pod as `launch` of this manager builds it, for some job, task and containers. -/
def Config.Owns (c : Config) (pod : Pod) : Prop :=
  ∃ job task containers, pod = c.podFor job task containers

/-- A coroutine awaiting the creation of a pod awaits that of a pod `launch` built. -/
def Thread.CreatesOwned (c : Config) : Thread → Prop
  | .suspended _ (.createNamespacedPod _ pod) _ => c.Owns pod
  | _ => True

theorem Segment.createsOwned_of_done {c : Config} {s : Segment} (done : s.progress.Done) :
    s.thread.CreatesOwned c := by
  obtain ⟨_, finished⟩ := Segment.thread_of_done done
  rw [finished]
  trivial

theorem Segment.createsOwned_of_awaiting {c : Config} {s : Segment} {coroutine : Coroutine}
    {call : ApiCall} (awaiting : s.progress = .awaiting coroutine call)
    (owns : (Thread.suspended coroutine call none).CreatesOwned c) : s.thread.CreatesOwned c := by
  unfold Segment.thread
  rw [awaiting]
  exact owns

section Arithmetic

variable (round : ℚ → ℚ)

theorem launchAdmit_createsOwned (m : PodManager) (job task : String) (containers : List Container)
    (request : Usage) (metadata : Metadata) :
    (launchAdmit round m job task containers request metadata).thread.CreatesOwned m.config := by
  cases loaded : m.usage with
  | none => exact Segment.createsOwned_of_done (by simp [launchAdmit, loaded, Progress.Done])
  | some u =>
      rcases (launchAdmit_loaded round m u loaded job task containers request metadata).2.2 with
        done | ⟨-, admitted⟩
      · exact Segment.createsOwned_of_done done
      · rw [admitted]
        exact ⟨job, task, containers, rfl⟩

theorem Call.start_createsOwned (m : PodManager) (call : Call) :
    (call.start round m).thread.CreatesOwned m.config := by
  cases call with
  | launch job task manifest =>
      simp only [Call.start, launchStart]
      split
      · exact Segment.createsOwned_of_done trivial
      · split
        · exact Segment.createsOwned_of_awaiting rfl trivial
        · exact launchAdmit_createsOwned ..
  | delete pod =>
      simp only [Call.start, deleteStart]
      split <;> exact Segment.createsOwned_of_awaiting rfl trivial

theorem resume_createsOwned (m : PodManager) (c : Coroutine) (response : Except PyExc (List Pod)) :
    (resume round m c response).thread.CreatesOwned m.config := by
  cases c with
  | launchLoading job task containers request metadata =>
      rcases (resume_loading_manager round m job task containers request metadata response).2.2 with
        done | ⟨-, awaiting⟩
      · exact Segment.createsOwned_of_done done
      · exact Segment.createsOwned_of_awaiting awaiting ⟨job, task, containers, rfl⟩
  | launchCreating =>
      apply Segment.createsOwned_of_done
      cases response with
      | error => trivial
      | ok => simp only [resume]; split <;> trivial
  | deleteLoading pod =>
      rcases loaded : loadUsage round m response with ⟨m', _ | e⟩
      · simp only [resume, loaded]
        exact Segment.createsOwned_of_awaiting rfl trivial
      · exact Segment.createsOwned_of_done (by simp [resume, loaded, Progress.Done])
  | deleteDeleting pod =>
      apply Segment.createsOwned_of_done
      cases response with
      | error => trivial
      | ok => simp only [resume]; split <;> trivial

end Arithmetic

/-- A pod the API server holds after answering a request it held before, or the request
created it. -/
theorem Cluster.mem_serve {k : Cluster} {call : ApiCall} {answer : Answer} {pod : Pod}
    (member : pod ∈ (k.serve call answer).1.pods) :
    pod ∈ k.pods ∨ ∃ ns, call = .createNamespacedPod ns pod := by
  cases answer with
  | fail e => cases call <;> exact .inl member
  | accept =>
      cases call with
      | listNamespacedPod => exact .inl member
      | createNamespacedPod ns created =>
          simp only [Cluster.serve] at member
          split_ifs at member
          · exact .inl member
          · simp only [Cluster.pods, List.mem_append, List.mem_singleton] at member
            rcases member with (old | rfl) | old
            · exact .inl (List.mem_append_left _ old)
            · exact .inr ⟨ns, rfl⟩
            · exact .inl (List.mem_append_right _ old)
          · exact .inl member
      | deleteNamespacedPod name ns =>
          simp only [Cluster.serve] at member
          split at member
          · rename_i found deleted
            simp only [Cluster.pods, List.mem_append, List.mem_singleton] at member
            rcases member with erased | old | rfl
            · exact .inl (List.mem_append_left _ (List.mem_of_mem_erase erased))
            · exact .inl (List.mem_append_right _ old)
            · exact .inl (List.mem_append_left _ (List.mem_of_find?_eq_some deleted))
          · split_ifs at member <;> exact .inl member

theorem Cluster.mem_expire {k : Cluster} {name : String} {pod : Pod}
    (member : pod ∈ (k.expire name).pods) : pod ∈ k.pods := by
  simp only [Cluster.pods, Cluster.expire, List.mem_append, List.mem_filter] at member ⊢
  exact member.imp id And.left

/-! ## Over a run -/

/-- The invariant: every pod the API server holds, and every pod a coroutine waits to create, is
one that `launch` built. -/
structure Owned (config : Config) (w : World) : Prop where
  manager : w.manager.config = config
  held : ∀ pod ∈ w.cluster.pods, config.Owns pod
  creating : ∀ t ∈ w.threads, t.CreatesOwned config

theorem Owned.step {round : ℚ → ℚ} {config : Config} {w w' : World} (owned : Owned config w)
    {e : Event} (hstep : w.stepWith round e = some w') : Owned config w' := by
  have manager := (World.stepWith_config hstep).trans owned.manager
  cases e with
  | start call =>
      obtain rfl := World.stepWith_start hstep
      refine ⟨manager, owned.held, fun t member => ?_⟩
      rcases List.mem_append.1 member with old | new
      · exact owned.creating t old
      · rw [List.mem_singleton.1 new, ← owned.manager]
        exact Call.start_createsOwned _ _ _
  | serve i answer =>
      obtain ⟨coroutine, call, found, rfl⟩ := World.stepWith_serve hstep
      have waiting := owned.creating _ (List.getElem?_mem found)
      refine ⟨manager, fun pod member => ?_, fun t member => ?_⟩
      · rcases Cluster.mem_serve member with old | ⟨ns, rfl⟩
        · exact owned.held pod old
        · exact waiting
      · rcases List.mem_or_eq_of_mem_set member with old | rfl
        · exact owned.creating t old
        · cases call <;> exact waiting
  | resume i =>
      obtain ⟨coroutine, call, response, found, rfl⟩ := World.stepWith_resume hstep
      refine ⟨manager, owned.held, fun t member => ?_⟩
      rcases List.mem_or_eq_of_mem_set member with old | rfl
      · exact owned.creating t old
      · rw [← owned.manager]
        exact resume_createsOwned _ _ _ _
  | expire name =>
      rw [(World.stepWith_expire hstep).2]
      exact ⟨owned.manager, fun pod member => owned.held pod (Cluster.mem_expire member),
        owned.creating⟩

/-- From a manager with no coroutine running and an API server holding only pods of its app,
every world of a run keeps the invariant. -/
theorem Reaches.owned {allowed : World → Event → World → Prop} {config : Config}
    {usage : Option Usage} {warned log : List String} {k : Cluster} {w : World}
    (held : ∀ pod ∈ k.pods, config.Owns pod)
    (reach : Reaches allowed ⟨⟨config, usage, warned⟩, k, [], log⟩ w) : Owned config w :=
  reach.induct_inv (Owned config) ⟨rfl, held, fun _ member => (List.not_mem_nil _ member).elim⟩
    fun _ _ _ owned hstep _ => owned.step hstep

/-- Over a run from an API server holding only pods `launch` built, every pod the API server
holds is one `launch` built for some job and task, and the requirements of `query(job, task)`
select it exactly when the job and the task it names are those. -/
theorem Reaches.selected_held {allowed : World → Event → World → Prop} {config : Config}
    {usage : Option Usage} {warned log : List String} {k : Cluster} {w : World}
    (held : ∀ pod ∈ k.pods, config.Owns pod)
    (reach : Reaches allowed ⟨⟨config, usage, warned⟩, k, [], log⟩ w) {pod : Pod}
    (member : pod ∈ w.cluster.pods) (job task : Option String) :
    ∃ j t containers, pod = config.podFor j t containers ∧
      (pod.selected (config.queryRequirements job task) = true ↔
        (∀ x ∈ job, x = j) ∧ ∀ x ∈ task, x = t) := by
  obtain ⟨j, t, containers, rfl⟩ := (reach.owned held).held _ member
  exact ⟨j, t, containers, rfl, podFor_selected config j t containers job task⟩

/-- Over any interleaving of calls, from an API server holding only pods `launch` built (none at
all, or those of an earlier manager of the app), `query(job, task)` lists exactly the held pods,
live or terminating, that `launch` built for the job and the task it names, when the app, the job
and the task are label values. -/
theorem query_lists_launched_pods (allowed : World → Event → World → Prop) (config : Config)
    (usage : Option Usage) (warned : List String) (k : Cluster) (log : List String)
    (held : ∀ pod ∈ k.pods, config.Owns pod) (w : World)
    (reach : Reaches allowed ⟨⟨config, usage, warned⟩, k, [], log⟩ w) (job task : Option String)
    (app : LabelValue config.app) (jobValid : ∀ j ∈ job, LabelValue j)
    (taskValid : ∀ t ∈ task, LabelValue t) :
    ∃ pods, w.cluster.listed (config.queryCall job task) = some pods ∧
      ∀ pod, pod ∈ pods ↔ pod ∈ w.cluster.pods ∧ ∃ j t containers,
        pod = config.podFor j t containers ∧ (∀ x ∈ job, x = j) ∧ ∀ x ∈ task, x = t := by
  refine ⟨_, listed_queryCall w.cluster config job task app jobValid taskValid, fun pod => ?_⟩
  rw [List.mem_filter]
  constructor
  · rintro ⟨member, selected⟩
    obtain ⟨j, t, containers, rfl, named⟩ := reach.selected_held held member job task
    exact ⟨member, j, t, containers, rfl, named.1 selected⟩
  · rintro ⟨member, j, t, containers, rfl, named⟩
    exact ⟨member, (podFor_selected config j t containers job task).2 named⟩

/-- A manager of app `app` that has launched task `a` of job `1`, from a loaded cache over an empty
namespace, with the API server holding the pod. -/
theorem launched_one_pod :
    ∃ w, Reaches (fun _ _ _ => True)
        ⟨⟨⟨"app", "default", 1, defaultMemQuota⟩, some ⟨0, 0⟩, []⟩, ⟨[], []⟩, [], []⟩ w ∧
      w.cluster.pods =
        [(⟨"app", "default", 1, defaultMemQuota⟩ : Config).podFor "1" "a" [⟨some 1, some 1⟩]] := by
  obtain ⟨w, ran, held⟩ : ∃ w, World.replay (fun _ _ _ => True)
      ⟨⟨⟨"app", "default", 1, defaultMemQuota⟩, some ⟨0, 0⟩, []⟩, ⟨[], []⟩, [], []⟩
      [.start (.launch "1" "a" oneCpuManifest), .serve 0 .accept,
        .resume 0] = some w ∧
      w.cluster.pods =
        [(⟨"app", "default", 1, defaultMemQuota⟩ : Config).podFor "1" "a" [⟨some 1, some 1⟩]] := by
    with_unfolding_all exact ⟨_, rfl, rfl⟩
  exact ⟨w, Reaches.refl.replay ran, held⟩

/-- After that launch, `query(job='1')` lists its pod and nothing else. -/
theorem query_lists_first_job :
    ∃ w pods, Reaches (fun _ _ _ => True)
        ⟨⟨⟨"app", "default", 1, defaultMemQuota⟩, some ⟨0, 0⟩, []⟩, ⟨[], []⟩, [], []⟩ w ∧
      w.cluster.listed ((⟨"app", "default", 1, defaultMemQuota⟩ : Config).queryCall (some "1") none) =
        some pods ∧
      ∀ pod, pod ∈ pods ↔ pod ∈ w.cluster.pods ∧ ∃ j t containers,
        pod = (⟨"app", "default", 1, defaultMemQuota⟩ : Config).podFor j t containers ∧
          (∀ x ∈ some "1", x = j) ∧ ∀ x ∈ (none : Option String), x = t := by
  obtain ⟨w, reach, -⟩ := launched_one_pod
  obtain ⟨pods, listed, exact⟩ := query_lists_launched_pods _ _ _ _ _ _ (by simp [Cluster.pods]) w
    reach (some "1") none (by decide) (fun j named => by cases named; decide) nofun
  exact ⟨w, pods, reach, listed, exact⟩

/-- Over any interleaving of calls, from an API server holding only pods `launch` built, whenever
the API server answers the listing of `_load_usage`, the model's answer, which does not read the
selector, is the listing its selector `app=<app>` asks for: every pod held, live or terminating. -/
theorem load_usage_lists_every_pod (allowed : World → Event → World → Prop) (config : Config)
    (usage : Option Usage) (warned : List String) (k : Cluster) (log : List String)
    (held : ∀ pod ∈ k.pods, config.Owns pod) (w : World)
    (reach : Reaches allowed ⟨⟨config, usage, warned⟩, k, [], log⟩ w) (app : LabelValue config.app)
    (answer : Answer) (pods : List Pod) (answered : (w.cluster.serve config.listCall answer).2 = .ok pods) :
    w.cluster.listed config.listCall = some pods := by
  cases answer with
  | fail e => cases answered
  | accept =>
      cases answered
      have listed := listed_queryCall w.cluster config none none app nofun nofun
      refine listed.trans (congrArg some (List.filter_eq_self.2 fun pod member => ?_))
      obtain ⟨_, _, _, _, named⟩ := reach.selected_held held member none none
      exact named.2 ⟨nofun, nofun⟩

/-- After that launch, the listing of `_load_usage` answers the launched pod, as its selector
asks. -/
theorem load_usage_lists_launched_pod :
    ∃ w, Reaches (fun _ _ _ => True)
        ⟨⟨⟨"app", "default", 1, defaultMemQuota⟩, some ⟨0, 0⟩, []⟩, ⟨[], []⟩, [], []⟩ w ∧
      w.cluster.listed (⟨"app", "default", 1, defaultMemQuota⟩ : Config).listCall =
        some [(⟨"app", "default", 1, defaultMemQuota⟩ : Config).podFor "1" "a" [⟨some 1, some 1⟩]] := by
  obtain ⟨w, reach, held⟩ := launched_one_pod
  refine ⟨w, reach, ?_⟩
  rw [← held]
  exact load_usage_lists_every_pod _ _ _ _ _ _ (by simp [Cluster.pods]) w reach (by decide) .accept _
    rfl

/-! ## One pod per job and task -/

/-- Over any run, the API server holds at most one pod under each name. -/
theorem Reaches.names_nodup {allowed : World → Event → World → Prop} {w₀ w : World}
    (unique : w₀.cluster.names.Nodup) (reach : Reaches allowed w₀ w) : w.cluster.names.Nodup :=
  reach.induct_inv (fun w => w.cluster.names.Nodup) unique fun w w' e unique hstep _ => by
    cases e with
    | start call =>
        obtain rfl := World.stepWith_start hstep
        exact unique
    | serve i answer =>
        obtain ⟨_, call, _, rfl⟩ := World.stepWith_serve hstep
        exact Cluster.names_serve unique call answer
    | resume i =>
        obtain ⟨_, _, _, _, rfl⟩ := World.stepWith_resume hstep
        exact unique
    | expire name =>
        rw [(World.stepWith_expire hstep).2]
        exact Cluster.names_expire unique name

/-- Over any interleaving of calls, from an API server holding only pods `launch` built, each under
its own name, `query(job, task)` naming both a job and a task lists at most one pod: `launch` names
the pod of a job and a task after them, and the API server holds one pod under each name. -/
theorem query_lists_one_pod_per_task (allowed : World → Event → World → Prop) (config : Config)
    (usage : Option Usage) (warned : List String) (k : Cluster) (log : List String)
    (held : ∀ pod ∈ k.pods, config.Owns pod) (unique : k.names.Nodup) (w : World)
    (reach : Reaches allowed ⟨⟨config, usage, warned⟩, k, [], log⟩ w) (job task : String)
    (app : LabelValue config.app) (jobValid : LabelValue job) (taskValid : LabelValue task) :
    ∃ pods, w.cluster.listed (config.queryCall (some job) (some task)) = some pods ∧
      pods.length ≤ 1 := by
  refine ⟨_, listed_queryCall w.cluster config (some job) (some task) app
    (fun _ named => by cases named; exact jobValid) (fun _ named => by cases named; exact taskValid),
    ?_⟩
  have names : ((w.cluster.pods.filter
      (Pod.selected (config.queryRequirements (some job) (some task)))).map Pod.name).Nodup :=
    (reach.names_nodup unique).sublist ((List.filter_sublist _).map _)
  have named : ∀ n ∈ (w.cluster.pods.filter
      (Pod.selected (config.queryRequirements (some job) (some task)))).map Pod.name,
      n ∈ [config.app ++ "-" ++ job ++ "-" ++ task] := by
    intro n member
    obtain ⟨pod, chosen, rfl⟩ := List.mem_map.1 member
    obtain ⟨listed, selected⟩ := List.mem_filter.1 chosen
    obtain ⟨j, t, containers, rfl, named⟩ := reach.selected_held held listed (some job) (some task)
    obtain ⟨sameJob, sameTask⟩ := named.1 selected
    obtain rfl := sameJob job rfl
    obtain rfl := sameTask task rfl
    exact List.mem_singleton_self _
  simpa using (List.subperm_of_subset names named).length_le

/-- After the launch of task `a` of job `1`, `query(job='1', task='a')` lists at most one pod. -/
theorem query_lists_one_pod_for_first_task :
    ∃ w pods, Reaches (fun _ _ _ => True)
        ⟨⟨⟨"app", "default", 1, defaultMemQuota⟩, some ⟨0, 0⟩, []⟩, ⟨[], []⟩, [], []⟩ w ∧
      w.cluster.listed
          ((⟨"app", "default", 1, defaultMemQuota⟩ : Config).queryCall (some "1") (some "a")) =
        some pods ∧ pods.length ≤ 1 := by
  obtain ⟨w, reach, -⟩ := launched_one_pod
  obtain ⟨pods, listed, single⟩ := query_lists_one_pod_per_task _ _ _ _ ⟨[], []⟩ _
    (by simp [Cluster.pods]) List.nodup_nil w reach "1" "a" (by decide) (by decide) (by decide)
  exact ⟨w, pods, reach, listed, single⟩

end PyDataTask.Executor
