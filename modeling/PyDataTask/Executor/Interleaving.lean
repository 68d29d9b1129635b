import PyDataTask.Executor.Coroutine

/-!
# Interleavings of the manager's coroutines

Each call of `launch` or `delete` is a coroutine on the event loop, and the tasks that share one
executor run theirs concurrently. A world holds the manager, the API server's pods, every
coroutine started so far, and the log. An event starts a call and runs it to its first
suspension, lets the API server answer a suspended coroutine's request, resumes a coroutine
whose request has been answered, or ends the grace period of a terminating pod. Every sequence
of enabled events is an interleaving the event loop can produce; a sequential run is one in
which a call starts only once every earlier call has ended.
-/

namespace PyDataTask.Executor

open PyDataTask.Python

inductive Call where
  | launch (job task : String) (manifest : Manifest)
  | delete (pod : Pod)

inductive Thread where
  /-- Suspended at `call`, with the API server's response once it has answered. -/
  | suspended (coroutine : Coroutine) (call : ApiCall) (response : Option (Except PyExc (List Pod)))
  | finished (result : Except PyExc (Option Bool))
  deriving DecidableEq

def Segment.thread (s : Segment) : Thread :=
  match s.progress with
  | .awaiting coroutine call => .suspended coroutine call none
  | .returned value => .finished (.ok value)
  | .raised e => .finished (.error e)

def Call.start (round : ℚ → ℚ) (m : PodManager) : Call → Segment
  | .launch job task manifest => launchStart round m job task manifest
  | .delete pod => deleteStart m pod

structure World where
  manager : PodManager
  cluster : Cluster
  threads : List Thread
  log : List String
  deriving DecidableEq

inductive Event where
  | start (call : Call)
  | serve (thread : Nat) (answer : Answer)
  | resume (thread : Nat)
  | expire (name : String)

/-- One event, with `round` the rounding of the decimal context. -/
def World.stepWith (round : ℚ → ℚ) (w : World) : Event → Option World
  | .start call =>
      let s := call.start round w.manager
      some ⟨s.manager, w.cluster, w.threads ++ [s.thread], w.log ++ s.logged⟩
  | .serve i answer =>
      match w.threads[i]? with
      | some (.suspended coroutine call none) =>
          let served := w.cluster.serve call answer
          some ⟨w.manager, served.1, w.threads.set i (.suspended coroutine call (some served.2)),
            w.log⟩
      | _ => none
  | .resume i =>
      match w.threads[i]? with
      | some (.suspended coroutine _ (some response)) =>
          let s := resume round w.manager coroutine response
          some ⟨s.manager, w.cluster, w.threads.set i s.thread, w.log ++ s.logged⟩
      | _ => none
  | .expire name =>
      if name ∈ w.cluster.terminating.map Pod.name then some { w with cluster := w.cluster.expire name }
      else none

/-- One event as the code runs it, in the default decimal context. -/
def World.step (w : World) (e : Event) : Option World := w.stepWith Decimal.round e

/-- The same event computed with exact arithmetic. -/
def World.exactStep (w : World) (e : Event) : Option World := w.stepWith id e

/-- The event computes what exact arithmetic would: none of the sums and differences it forms
is rounded. -/
def ComputesExactly (w : World) (e : Event) (w' : World) : Prop := w.exactStep e = some w'

instance ComputesExactly.decidable (w : World) (e : Event) (w' : World) :
    Decidable (ComputesExactly w e w') :=
  inferInstanceAs (Decidable (w.exactStep e = some w'))

/-- The worlds reachable from `w₀` through events that `allowed` admits. -/
inductive Reaches (allowed : World → Event → World → Prop) (w₀ : World) : World → Prop where
  | refl : Reaches allowed w₀ w₀
  | step {w w' : World} {e : Event} :
      Reaches allowed w₀ w → w.step e = some w' → allowed w e w' → Reaches allowed w₀ w'

/-- Replays a list of events, failing at the first one that is not enabled or not allowed. -/
def World.replay (allowed : World → Event → World → Prop) [∀ w e w', Decidable (allowed w e w')]
    (w : World) : List Event → Option World
  | [] => some w
  | e :: es =>
      match w.step e with
      | some w' => if allowed w e w' then w'.replay allowed es else none
      | none => none

theorem Reaches.replay {allowed : World → Event → World → Prop} [∀ w e w', Decidable (allowed w e w')]
    {w₀ w w' : World} {events : List Event} (reach : Reaches allowed w₀ w)
    (ran : w.replay allowed events = some w') : Reaches allowed w₀ w' := by
  induction events generalizing w with
  | nil => cases ran; exact reach
  | cons e rest ih =>
      simp only [World.replay] at ran
      split at ran
      · split_ifs at ran with permitted
        exact ih (.step reach ‹_› permitted) ran
      · cases ran

/-- An invariant that every allowed step keeps holds of every reachable world. -/
theorem Reaches.induct_inv {allowed : World → Event → World → Prop} {w₀ w : World}
    (inv : World → Prop) (init : inv w₀)
    (preserve : ∀ w w' e, inv w → w.step e = some w' → allowed w e w' → inv w')
    (reach : Reaches allowed w₀ w) : inv w := by
  induction reach with
  | refl => exact init
  | step _ hstep hallowed ih => exact preserve _ _ _ ih hstep hallowed

theorem Reaches.mono {allowed allowed' : World → Event → World → Prop} {w₀ w : World}
    (weaker : ∀ w e w', allowed w e w' → allowed' w e w') (reach : Reaches allowed w₀ w) :
    Reaches allowed' w₀ w := by
  induction reach with
  | refl => exact .refl
  | step _ hstep hallowed ih => exact .step ih hstep (weaker _ _ _ hallowed)

/-! ## What each event does -/

section Inversion

variable {round : ℚ → ℚ} {w w' : World}

theorem World.stepWith_start {call : Call} (hstep : w.stepWith round (.start call) = some w') :
    w' = ⟨(call.start round w.manager).manager, w.cluster, w.threads ++ [(call.start round w.manager).thread],
      w.log ++ (call.start round w.manager).logged⟩ := by
  simp only [World.stepWith, Option.some.injEq] at hstep
  exact hstep.symm

theorem World.stepWith_serve {i : Nat} {answer : Answer}
    (hstep : w.stepWith round (.serve i answer) = some w') :
    ∃ coroutine call, w.threads[i]? = some (.suspended coroutine call none) ∧
      w' = ⟨w.manager, (w.cluster.serve call answer).1,
        w.threads.set i (.suspended coroutine call (some (w.cluster.serve call answer).2)), w.log⟩ := by
  simp only [World.stepWith] at hstep
  split at hstep
  · cases hstep; exact ⟨_, _, ‹_›, rfl⟩
  · cases hstep

theorem World.stepWith_resume {i : Nat} (hstep : w.stepWith round (.resume i) = some w') :
    ∃ coroutine call response, w.threads[i]? = some (.suspended coroutine call (some response)) ∧
      w' = ⟨(resume round w.manager coroutine response).manager, w.cluster,
        w.threads.set i (resume round w.manager coroutine response).thread,
        w.log ++ (resume round w.manager coroutine response).logged⟩ := by
  simp only [World.stepWith] at hstep
  split at hstep
  · cases hstep; exact ⟨_, _, _, ‹_›, rfl⟩
  · cases hstep

theorem World.stepWith_expire {name : String} (hstep : w.stepWith round (.expire name) = some w') :
    name ∈ w.cluster.terminating.map Pod.name ∧ w' = { w with cluster := w.cluster.expire name } := by
  simp only [World.stepWith] at hstep
  split_ifs at hstep with terminating
  · exact ⟨terminating, (Option.some.inj hstep).symm⟩

theorem Call.start_config (round : ℚ → ℚ) (m : PodManager) (call : Call) :
    (call.start round m).manager.config = m.config := by
  cases call with
  | launch job task manifest =>
      cases loaded : m.usage with
      | none => rw [Call.start, (launchStart_unloaded round m loaded job task manifest).1]
      | some u => exact (launchStart_loaded round m u loaded job task manifest).1
  | delete pod =>
      cases loaded : m.usage with
      | none => simp [Call.start, deleteStart_unloaded m loaded]
      | some u => simp [Call.start, deleteStart_loaded m u loaded]

/-- No event changes the manager's configuration. -/
theorem World.stepWith_config {e : Event} (hstep : w.stepWith round e = some w') :
    w'.manager.config = w.manager.config := by
  cases e with
  | start call => rw [World.stepWith_start hstep]; exact Call.start_config _ _ _
  | serve => obtain ⟨_, _, _, rfl⟩ := World.stepWith_serve hstep; rfl
  | resume => obtain ⟨_, _, _, _, rfl⟩ := World.stepWith_resume hstep; exact resume_config _ _ _ _
  | expire => rw [(World.stepWith_expire hstep).2]

end Inversion

/-! ## What a coroutine is doing -/

theorem Segment.thread_of_done {s : Segment} (done : s.progress.Done) :
    ∃ result, s.thread = .finished result := by
  unfold Segment.thread
  split
  · simp_all [Progress.Done]
  · exact ⟨_, rfl⟩
  · exact ⟨_, rfl⟩

/-- The pod a delete coroutine will ask the API server to delete, until the server answers. -/
def Thread.pendingDelete : Thread → Option Pod
  | .suspended (.deleteLoading pod) _ _ => some pod
  | .suspended (.deleteDeleting pod) _ none => some pod
  | _ => none

def pendingDeletes (threads : List Thread) : List String :=
  (threads.filterMap Thread.pendingDelete).map Pod.name

theorem mem_pendingDeletes {threads : List Thread} {t : Thread} {pod : Pod} (member : t ∈ threads)
    (deleting : t.pendingDelete = some pod) : pod.name ∈ pendingDeletes threads :=
  List.mem_map_of_mem _ (List.mem_filterMap.mpr ⟨t, member, deleting⟩)

/-- Setting a coroutine that deletes nothing takes its pending deletion out of the list. -/
theorem pendingDeletes_set {t' : Thread} (settled : t'.pendingDelete = none) :
    ∀ {threads : List Thread} {i : Nat} {t : Thread}, threads[i]? = some t →
      (pendingDeletes threads).Perm
        ((t.pendingDelete.map Pod.name).toList ++ pendingDeletes (threads.set i t'))
  | [], _, _, h => by simp at h
  | x :: rest, 0, t, h => by
      simp only [List.getElem?_cons_zero, Option.some.injEq] at h
      subst h
      cases hx : x.pendingDelete <;> simp [pendingDeletes, hx, settled]
  | x :: rest, i + 1, t, h => by
      simp only [List.getElem?_cons_succ] at h
      have ih := pendingDeletes_set settled h
      unfold pendingDeletes at ih ⊢
      cases hx : x.pendingDelete with
      | none => simpa [List.filterMap_cons, hx] using ih
      | some p =>
          simp only [List.set_cons_succ, List.filterMap_cons, hx, List.map_cons]
          exact (ih.cons _).trans List.perm_middle.symm

def Thread.isSuspended : Thread → Bool
  | .suspended .. => true
  | .finished _ => false

/-- A launch between its quota check and its update of the cache. -/
def Thread.isCreating : Thread → Bool
  | .suspended (.launchCreating ..) _ _ => true
  | _ => false

/-! ## Which interleavings -/

/-- A call deletes only a pod that is alive and that no other call is deleting. -/
def DeletesLive (w : World) : Event → World → Prop
  | .start (.delete pod), _ => pod ∈ w.cluster.live ∧ pod.name ∉ pendingDeletes w.threads
  | _, _ => True

/-- A call deletes only a pod of the app that the API server still holds, alive or in its grace
period; the server accepts the deletion of either. -/
def DeletesHeld (w : World) : Event → World → Prop
  | .start (.delete pod), _ => pod ∈ w.cluster.live ∨ pod ∈ w.cluster.terminating
  | _, _ => True

/-- A call starts only when every earlier call has ended. -/
def Sequential (w : World) : Event → World → Prop
  | .start _, _ => ∀ t ∈ w.threads, t.isSuspended = false
  | _, _ => True

/-- At most one launch is between its quota check and its update of the cache. -/
def SerialLaunches (_ : World) (_ : Event) (w' : World) : Prop :=
  w'.threads.countP Thread.isCreating ≤ 1

instance SerialLaunches.decidable (w : World) (e : Event) (w' : World) :
    Decidable (SerialLaunches w e w') :=
  inferInstanceAs (Decidable (w'.threads.countP Thread.isCreating ≤ 1))

instance DeletesLive.decidable (w : World) : ∀ e w', Decidable (DeletesLive w e w')
  | .start (.delete pod), _ =>
      inferInstanceAs (Decidable (pod ∈ w.cluster.live ∧ pod.name ∉ pendingDeletes w.threads))
  | .start (.launch ..), _ => isTrue trivial
  | .serve .., _ => isTrue trivial
  | .resume _, _ => isTrue trivial
  | .expire _, _ => isTrue trivial

instance DeletesHeld.decidable (w : World) : ∀ e w', Decidable (DeletesHeld w e w')
  | .start (.delete pod), _ =>
      inferInstanceAs (Decidable (pod ∈ w.cluster.live ∨ pod ∈ w.cluster.terminating))
  | .start (.launch ..), _ => isTrue trivial
  | .serve .., _ => isTrue trivial
  | .resume _, _ => isTrue trivial
  | .expire _, _ => isTrue trivial

instance Sequential.decidable (w : World) : ∀ e w', Decidable (Sequential w e w')
  | .start _, _ => inferInstanceAs (Decidable (∀ t ∈ w.threads, t.isSuspended = false))
  | .serve .., _ => isTrue trivial
  | .resume _, _ => isTrue trivial
  | .expire _, _ => isTrue trivial

/-! ## Lists of coroutines -/

theorem sum_map_set {α : Type} (f : α → ℚ) :
    ∀ {l : List α} {i : Nat} {a : α} (b : α), l[i]? = some a →
      ((l.set i b).map f).sum = (l.map f).sum - f a + f b
  | [], _, _, _, h => by simp at h
  | x :: rest, 0, a, b, h => by
      simp only [List.getElem?_cons_zero, Option.some.injEq] at h
      subst h; simp [add_comm]
  | x :: rest, i + 1, a, b, h => by
      simp only [List.getElem?_cons_succ] at h
      simp only [List.set_cons_succ, List.map_cons, List.sum_cons, sum_map_set f b h]
      ring

theorem filterMap_set_sublist {α β : Type} (f : α → Option β) {b : α} (hb : f b = none) :
    ∀ (l : List α) (i : Nat), List.Sublist ((l.set i b).filterMap f) (l.filterMap f)
  | [], _ => by simp
  | x :: rest, 0 => by
      simp only [List.set_cons_zero, List.filterMap_cons, hb]
      cases f x <;> simp
  | x :: rest, i + 1 => by
      simp only [List.set_cons_succ, List.filterMap_cons]
      cases f x with
      | none => exact filterMap_set_sublist f hb rest i
      | some y => exact (filterMap_set_sublist f hb rest i).cons₂ y

/-- Replacing an element by one that satisfies `p` only where the old one did does not raise the
count. -/
theorem countP_set_le {α : Type} (p : α → Bool) {b : α} :
    ∀ {l : List α} {i : Nat} {a : α}, l[i]? = some a → (p b → p a) → (l.set i b).countP p ≤ l.countP p
  | [], _, _, h, _ => by simp at h
  | x :: rest, 0, a, h, keeps => by
      simp only [List.getElem?_cons_zero, Option.some.injEq] at h
      subst h
      cases hb : p b <;> simp_all [List.countP_cons]
  | x :: rest, i + 1, a, h, keeps => by
      simp only [List.getElem?_cons_succ] at h
      simp only [List.set_cons_succ, List.countP_cons]
      have := countP_set_le p h keeps
      omega

/-- Where the element at `i` is the only one that satisfies `p`, replacing it leaves none. -/
theorem eq_or_not_of_mem_set {α : Type} {p : α → Bool} {b : α} :
    ∀ {l : List α} {i : Nat} {a : α}, l[i]? = some a → p a → l.countP p ≤ 1 →
      ∀ x ∈ l.set i b, x = b ∨ p x = false
  | [], _, _, h, _, _ => by simp at h
  | x :: rest, 0, a, h, pa, unique => by
      simp only [List.getElem?_cons_zero, Option.some.injEq] at h
      subst h
      have none : rest.countP p = 0 := by rw [List.countP_cons_of_pos p rest pa] at unique; omega
      intro y member
      rcases List.mem_cons.mp member with rfl | later
      · exact .inl rfl
      · exact .inr (by simpa using List.countP_eq_zero.mp none y later)
  | x :: rest, i + 1, a, h, pa, unique => by
      simp only [List.getElem?_cons_succ] at h
      have some : 0 < rest.countP p := List.countP_pos_iff.mpr ⟨a, List.getElem?_mem h, pa⟩
      have px : p x = false := by
        cases hx : p x
        · rfl
        · rw [List.countP_cons_of_pos p rest hx] at unique; omega
      rw [List.countP_cons_of_neg p rest (by simp [px])] at unique
      intro y member
      rcases List.mem_cons.mp member with rfl | later
      · exact .inr px
      · exact eq_or_not_of_mem_set h pa unique y later

end PyDataTask.Executor
