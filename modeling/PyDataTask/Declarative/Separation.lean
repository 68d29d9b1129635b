import PyDataTask.Declarative.TaskPicker

/-!
# Specifications that share no mapping

`constructor` reads and writes only objects reachable from the specification it is given. So a
specification that shares no object with another is built alike whether or not the other was
built before it: its parsers receive the same values, and the task and links built from them are
the same. Building in a different order can only change a task through a mapping its
specification shares with one built earlier.

The proof follows one step of `constructor` at a time over a set `S` of addresses closed under
the references the document holds: each step writes only at addresses of `S` objects that
refer only into `S` (`Confined`), and two documents that agree on `S` give each step the same
result (`Matched`).
-/

namespace PyDataTask.Declarative

open Python

def Obj.refs : Obj → List Ref
  | .list items => items
  | .dict entries => entries.map Prod.snd

/-- The value is a scalar or the address of an object in `S`. -/
def Ref.Within (S : Nat → Prop) : Ref → Prop
  | .scalar _ => True
  | .obj address => S address

theorem Obj.refs_dict {S : Nat → Prop} {entries : List (Scalar × Ref)}
    (inside : ∀ e ∈ entries, e.2.Within S) : ∀ r ∈ (Obj.dict entries).refs, r.Within S := by
  intro r member
  obtain ⟨e, listed, rfl⟩ := List.mem_map.1 member
  exact inside e listed

namespace Heap

/-- The addresses of the objects reachable from `r`. -/
inductive Reaches (h : Heap) (r : Ref) : Nat → Prop
  | root {a : Nat} : r = .obj a → Reaches h r a
  | child {a b : Nat} {o : Obj} : Reaches h r a → h.get? a = some o → Ref.obj b ∈ o.refs →
      Reaches h r b

/-- Every object at an address of `S` refers only into `S`. -/
def Closed (h : Heap) (S : Nat → Prop) : Prop :=
  ∀ a o, S a → h.get? a = some o → ∀ r ∈ o.refs, r.Within S

theorem reaches_closed (h : Heap) (r : Ref) : h.Closed (h.Reaches r) := by
  intro a o reach found child member
  cases child with
  | scalar => trivial
  | obj b => exact .child reach found member

theorem within_reaches (h : Heap) (r : Ref) : r.Within (h.Reaches r) := by
  cases r with
  | scalar => trivial
  | obj a => exact .root rfl

/-- A closed set holds everything reachable from a value in it. -/
theorem Reaches.within {h : Heap} {S : Nat → Prop} {r : Ref} {a : Nat} (closed : h.Closed S)
    (inside : r.Within S) (reach : h.Reaches r a) : S a := by
  induction reach with
  | root same => subst same; exact inside
  | child _ found member ih => exact closed _ _ ih found _ member

/-- Two documents of one size that hold the same objects at the addresses of `S`. -/
structure Agree (h h' : Heap) (S : Nat → Prop) : Prop where
  length : h'.objects.length = h.objects.length
  same : ∀ a, S a → h'.get? a = h.get? a

/-- A run from `h` to `h'` that writes only at addresses of `S`, objects that refer only into
`S`. -/
structure Confined (S : Nat → Prop) (h h' : Heap) : Prop where
  closed : h'.Closed S
  outside : ∀ a, ¬ S a → h'.get? a = h.get? a
  length : h'.objects.length = h.objects.length

section Steps

variable {S : Nat → Prop} {h h₁ h₂ : Heap}

theorem Agree.closed (agree : Agree h₁ h₂ S) (closed : h₁.Closed S) : h₂.Closed S :=
  fun a o inside found => closed a o inside ((agree.same a inside).symm.trans found)

theorem Agree.set (agree : Agree h₁ h₂ S) (a : Nat) (o : Obj) : Agree (h₁.set a o) (h₂.set a o) S where
  length := by simp [Heap.set, agree.length]
  same b inside := by simp only [get?_set, agree.length, agree.same b inside]

theorem Confined.refl (closed : h.Closed S) : Confined S h h := ⟨closed, fun _ _ => rfl, rfl⟩

theorem Confined.trans {h' h'' : Heap} (first : Confined S h h') (second : Confined S h' h'') :
    Confined S h h'' where
  closed := second.closed
  outside a outside := (second.outside a outside).trans (first.outside a outside)
  length := second.length.trans first.length

/-- Writing, at an address of `S`, an object that refers only into `S`. -/
theorem Confined.set (closed : h.Closed S) {a : Nat} (inside : S a) {o : Obj}
    (refs : ∀ r ∈ o.refs, r.Within S) : Confined S h (h.set a o) where
  closed b o' inside' found := by
    rw [get?_set] at found
    split_ifs at found with same
    · cases found; exact refs
    · exact closed b o' inside' found
  outside b outside := by
    rw [get?_set, if_neg fun same : a = b => outside (same ▸ inside)]
  length := by simp [Heap.set]

/-! ## The reads of one step -/

theorem Closed.entries_within (closed : h.Closed S) {a : Nat} (inside : S a)
    {entries : List (Scalar × Ref)} (object : h.get? a = some (.dict entries)) :
    ∀ e ∈ entries, e.2.Within S :=
  fun e member => closed a _ inside object e.2 (List.mem_map_of_mem _ member)

theorem dictFor_within (closed : h.Closed S) {method : String} {r : Ref} (inside : r.Within S)
    {a : Nat} {entries : List (Scalar × Ref)} (found : h.dictFor method r = .ok (a, entries)) :
    S a ∧ ∀ e ∈ entries, e.2.Within S := by
  obtain ⟨rfl, object⟩ := dictFor_ok found
  exact ⟨inside, closed.entries_within inside object⟩

theorem dictFor_congr (agree : Agree h₁ h₂ S) {r : Ref} (inside : r.Within S) (method : String) :
    h₂.dictFor method r = h₁.dictFor method r := by
  cases r with
  | scalar => rfl
  | obj a => simp only [dictFor, agree.same a inside]

theorem subscript_congr (agree : Agree h₁ h₂ S) {r : Ref} (inside : r.Within S) (key : String) :
    h₂.subscript r key = h₁.subscript r key := by
  simp only [subscript, dictFor_congr agree inside]

theorem subscript_within (closed : h.Closed S) {r : Ref} (inside : r.Within S) {key : String}
    {child : Ref} (found : h.subscript r key = .ok child) : child.Within S := by
  obtain ⟨a, entries, rfl, object, lookup⟩ := subscript_eq_ok.1 found
  exact closed.entries_within inside object _ (PyDict.mem_of_lookup lookup)

theorem truthy_congr (agree : Agree h₁ h₂ S) {r : Ref} (inside : r.Within S) :
    h₂.truthy r = h₁.truthy r := by
  cases r with
  | scalar value => rcases value with _ | _ | _ | (_ | _ | _) | _ <;> rfl
  | obj a => simp only [truthy, agree.same a inside]

theorem load_congr (closed : h₁.Closed S) (agree : Agree h₁ h₂ S) :
    ∀ (fuel : Nat) (r : Ref), r.Within S → h₂.load fuel r = h₁.load fuel r
  | _, .scalar _, _ => by cases ‹Nat› <;> rfl
  | 0, .obj _, _ => rfl
  | fuel + 1, .obj a, inside => by
      simp only [load, agree.same a inside]
      cases found : h₁.get? a with
      | none => rfl
      | some o =>
          have refs := closed a o inside found
          cases o with
          | list items =>
              simp only [Yaml.list.injEq]
              exact List.map_congr_left fun r member => load_congr closed agree fuel r (refs r member)
          | dict entries =>
              simp only [Yaml.dict.injEq]
              exact List.map_congr_left fun e member => by
                rw [load_congr closed agree fuel e.2 (refs e.2 (List.mem_map_of_mem _ member))]

theorem snapshot_congr (closed : h₁.Closed S) (agree : Agree h₁ h₂ S) {r : Ref}
    (inside : r.Within S) : h₂.snapshot r = h₁.snapshot r := by
  rw [snapshot, snapshot, agree.length, load_congr closed agree _ r inside]

end Steps

end Heap

/-! ## One statement of `constructor` at a time -/

/-- Two runs of one statement: the same exception, or results related by `rel`. -/
def Matched {α : Type} (rel : α → α → Prop) : Except PyExc α → Except PyExc α → Prop
  | .error e₁, .error e₂ => e₁ = e₂
  | .ok a₁, .ok a₂ => rel a₁ a₂
  | _, _ => False

/-- Two runs that read the same value go on alike when their continuations do. -/
theorem Matched.bind_same {α β : Type} {rel : β → β → Prop} {x : Except PyExc α}
    {f₁ f₂ : α → Except PyExc β} (rest : ∀ a, x = .ok a → Matched rel (f₁ a) (f₂ a)) :
    Matched rel (x >>= f₁) (x >>= f₂) := by
  cases x with
  | error e => rfl
  | ok a => exact rest a rfl

theorem Matched.bind {α β : Type} {rel : α → α → Prop} {rel' : β → β → Prop}
    {x₁ x₂ : Except PyExc α} {f₁ f₂ : α → Except PyExc β} (first : Matched rel x₁ x₂)
    (rest : ∀ a₁ a₂, x₁ = .ok a₁ → rel a₁ a₂ → Matched rel' (f₁ a₁) (f₂ a₂)) :
    Matched rel' (x₁ >>= f₁) (x₂ >>= f₂) := by
  cases x₁ with
  | error e₁ =>
      cases x₂ with
      | error e₂ => exact first
      | ok _ => exact first.elim
  | ok a₁ =>
      cases x₂ with
      | error _ => exact first.elim
      | ok a₂ => exact rest a₁ a₂ rfl first

theorem mem_updateEntries {target source : List (Scalar × Ref)} {e : Scalar × Ref}
    (member : e ∈ updateEntries target source) : e ∈ target ∨ e ∈ source := by
  induction source generalizing target with
  | nil => exact .inl member
  | cons entry rest ih =>
      rcases ih member with earlier | later
      · rcases PyDict.mem_setEntries earlier with old | rfl
        · exact .inl old
        · exact .inr (List.mem_cons_self _ _)
      · exact .inr (List.mem_cons_of_mem _ later)

section Statements

open Heap

variable {S : Nat → Prop} {h h' h₁ h₂ : Heap}

theorem popExecutable_confined (closed : h.Closed S) {thing : Ref} (inside : thing.Within S)
    {executable : Ref} {entries : List (Scalar × Ref)}
    (ran : popExecutable thing h = .ok ((executable, entries), h')) :
    executable.Within S ∧ (∀ e ∈ entries, e.2.Within S) ∧ Confined S h h' := by
  obtain ⟨⟨spec, all⟩, read, rest⟩ := bind_eq_ok.1 ran
  obtain ⟨specInside, allInside⟩ := dictFor_within closed inside read
  dsimp only at rest
  split at rest
  · cases rest
    have kept : ∀ e ∈ all.filter (·.1 ≠ .str "executable"), e.2.Within S :=
      fun e member => allInside e (List.mem_of_mem_filter member)
    exact ⟨allInside _ (PyDict.mem_of_lookup ‹_›), kept,
      Confined.set closed specInside (Obj.refs_dict kept)⟩
  · cases rest

theorem popExecutable_congr (agree : Agree h₁ h₂ S) {thing : Ref} (inside : thing.Within S) :
    Matched (fun p q => p.1 = q.1 ∧ Agree p.2 q.2 S) (popExecutable thing h₁) (popExecutable thing h₂) := by
  unfold popExecutable
  rw [dictFor_congr agree inside]
  refine Matched.bind_same fun ⟨spec, entries⟩ _ => ?_
  dsimp only
  cases entries.lookup (.str "executable") with
  | none => rfl
  | some executable => exact ⟨rfl, agree.set _ _⟩

theorem updateArgs_confined (closed : h.Closed S) {executable : Ref} (inside : executable.Within S)
    {entries : List (Scalar × Ref)} (entriesInside : ∀ e ∈ entries, e.2.Within S)
    (ran : updateArgs executable entries h = .ok h') : Confined S h h' := by
  obtain ⟨a, current, found, object, rfl⟩ := updateArgs_ok ran
  have addressInside : S a := subscript_within closed inside found
  exact Confined.set closed addressInside (Obj.refs_dict fun e member =>
    (mem_updateEntries member).elim (closed.entries_within addressInside object e) (entriesInside e))

theorem updateArgs_congr (closed : h₁.Closed S) (agree : Agree h₁ h₂ S) {executable : Ref}
    (inside : executable.Within S) (entries : List (Scalar × Ref)) :
    Matched (fun g₁ g₂ => Agree g₁ g₂ S) (updateArgs executable entries h₁)
      (updateArgs executable entries h₂) := by
  unfold updateArgs
  rw [subscript_congr agree inside]
  refine Matched.bind_same fun args found => ?_
  rw [dictFor_congr agree (subscript_within closed inside found)]
  exact Matched.bind_same fun _ _ => agree.set _ _

theorem setName_confined (closed : h.Closed S) {executable : Ref} (inside : executable.Within S)
    {name : String} (ran : setName executable name h = .ok h') : Confined S h h' := by
  obtain ⟨a, current, found, object, rfl⟩ := setName_ok ran
  have addressInside : S a := subscript_within closed inside found
  exact Confined.set closed addressInside (Obj.refs_dict fun e member =>
    (PyDict.mem_setEntries member).elim (closed.entries_within addressInside object e)
      fun same => by rw [same]; trivial)

theorem setName_congr (closed : h₁.Closed S) (agree : Agree h₁ h₂ S) {executable : Ref}
    (inside : executable.Within S) (name : String) :
    Matched (fun g₁ g₂ => Agree g₁ g₂ S) (setName executable name h₁) (setName executable name h₂) := by
  unfold setName Heap.setItem
  rw [subscript_congr agree inside]
  refine Matched.bind_same fun args found => ?_
  rw [dictFor_congr agree (subscript_within closed inside found)]
  exact Matched.bind_same fun _ _ => agree.set _ _

theorem popLinks_confined (closed : h.Closed S) {executable : Ref} (inside : executable.Within S)
    {links : Yaml} (ran : popLinks executable h = .ok (links, h')) : Confined S h h' := by
  obtain ⟨a, current, found, object, rfl⟩ := popLinks_ok ran
  have addressInside : S a := subscript_within closed inside found
  exact Confined.set closed addressInside (Obj.refs_dict fun e member =>
    closed.entries_within addressInside object e (List.mem_of_mem_filter member))

theorem popLinks_congr (closed : h₁.Closed S) (agree : Agree h₁ h₂ S) {executable : Ref}
    (inside : executable.Within S) :
    Matched (fun p q => p.1 = q.1 ∧ Agree p.2 q.2 S) (popLinks executable h₁) (popLinks executable h₂) := by
  unfold popLinks
  rw [subscript_congr agree inside]
  refine Matched.bind_same fun args found => ?_
  rw [dictFor_congr agree (subscript_within closed inside found)]
  refine Matched.bind_same fun ⟨address, current⟩ read => ?_
  obtain ⟨addressInside, currentInside⟩ :=
    dictFor_within closed (subscript_within closed inside found) read
  have popped : Confined S h₁ (h₁.set address (.dict (current.filter (·.1 ≠ .str "links")))) :=
    Confined.set closed addressInside
      (Obj.refs_dict fun e member => currentInside e (List.mem_of_mem_filter member))
  have agreeing := agree.set address (.dict (current.filter (·.1 ≠ .str "links")))
  refine ⟨?_, agreeing⟩
  dsimp only
  cases found : current.lookup (.str "links") with
  | none => rfl
  | some links =>
      have linksInside := currentInside _ (PyDict.mem_of_lookup found)
      simp only [truthy_congr agreeing linksInside, snapshot_congr popped.closed agreeing linksInside]

theorem constructor_confined (closed : h.Closed S) {thing : Ref} (inside : thing.Within S)
    {name : String} {built : Built} (ran : constructor name thing h = .ok built) :
    Confined S h built.heap := by
  rw [constructor_eq_bind] at ran
  obtain ⟨⟨⟨executable, entries⟩, h₁⟩, popped, rest⟩ := bind_eq_ok.1 ran
  obtain ⟨exeInside, entriesInside, first⟩ := popExecutable_confined closed inside popped
  obtain ⟨h₂, updated, rest⟩ := bind_eq_ok.1 rest
  have second := updateArgs_confined first.closed exeInside entriesInside updated
  obtain ⟨h₃, named, rest⟩ := bind_eq_ok.1 rest
  have third := setName_confined second.closed exeInside named
  obtain ⟨⟨links, h₄⟩, linked, rest⟩ := bind_eq_ok.1 rest
  cases rest
  exact first.trans (second.trans (third.trans (popLinks_confined third.closed exeInside linked)))

/-- Whether it returns or raises, `constructor` leaves a document that differs from the one it
was given only at addresses of `S`. -/
theorem constructorRun_confined (closed : h.Closed S) {thing : Ref} (inside : thing.Within S)
    (name : String) : Confined S h (constructorRun name thing h).2 := by
  unfold constructorRun
  rcases popped : popExecutable thing h with _ | ⟨⟨executable, entries⟩, h₁⟩
  · exact Confined.refl closed
  obtain ⟨exeInside, entriesInside, first⟩ := popExecutable_confined closed inside popped
  dsimp only
  rcases updated : updateArgs executable entries h₁ with _ | h₂
  · exact first
  have second := first.trans (updateArgs_confined first.closed exeInside entriesInside updated)
  dsimp only
  rcases named : setName executable name h₂ with _ | h₃
  · exact second
  have third := second.trans (setName_confined second.closed exeInside named)
  dsimp only
  rcases linked : popLinks executable h₃ with _ | ⟨links, h₄⟩
  · exact third
  exact third.trans (popLinks_confined third.closed exeInside linked)

theorem constructor_congr (closed : h₁.Closed S) (agree : Agree h₁ h₂ S) {thing : Ref}
    (inside : thing.Within S) (name : String) :
    Matched (fun b₁ b₂ => b₁.linksArgument = b₂.linksArgument ∧ b₁.executable = b₂.executable ∧
      Agree b₁.heap b₂.heap S) (constructor name thing h₁) (constructor name thing h₂) := by
  rw [constructor_eq_bind, constructor_eq_bind]
  refine Matched.bind (popExecutable_congr agree inside)
    fun ⟨⟨executable, entries⟩, g₁⟩ ⟨pair, g₂⟩ popped ⟨same, agree₁⟩ => ?_
  cases same
  obtain ⟨exeInside, entriesInside, first⟩ := popExecutable_confined closed inside popped
  refine Matched.bind (updateArgs_congr first.closed agree₁ exeInside entries)
    fun k₁ k₂ updated agree₂ => ?_
  have second := updateArgs_confined first.closed exeInside entriesInside updated
  refine Matched.bind (setName_congr second.closed agree₂ exeInside name) fun l₁ l₂ named agree₃ => ?_
  have third := setName_confined second.closed exeInside named
  refine Matched.bind (popLinks_congr third.closed agree₃ exeInside)
    fun ⟨links, m₁⟩ ⟨links', m₂⟩ linked ⟨same, agree₄⟩ => ?_
  cases same
  exact ⟨rfl, (snapshot_congr (popLinks_confined third.closed exeInside linked).closed agree₄
    exeInside).symm, agree₄⟩

end Statements

/-! ## Specifications built apart -/

/-- Whether the objects at the addresses of `S` refer only to addresses of `S`. -/
def Heap.closedUnder (h : Heap) (S : List Nat) : Bool :=
  S.all fun a =>
    match h.get? a with
    | some o => o.refs.all fun
        | .scalar _ => true
        | .obj b => b ∈ S
    | none => true

theorem Heap.closed_of_closedUnder {h : Heap} {S : List Nat} (checked : h.closedUnder S = true) :
    h.Closed (· ∈ S) := by
  intro a o inside found r member
  have refs := List.all_eq_true.1 checked a inside
  rw [found] at refs
  have within := List.all_eq_true.1 refs r member
  cases r with
  | scalar => trivial
  | obj b => simpa using within

/-- `constructor` changes no object that is not reachable from the specification it is given,
whether it returns or one of its statements raises. -/
theorem constructor_changes_only_reachable (name : String) (thing : Ref) (h : Heap) (a : Nat)
    (unreachable : ¬ h.Reaches thing a) : (constructorRun name thing h).2.get? a = h.get? a :=
  (constructorRun_confined (h.reaches_closed thing) (h.within_reaches thing) name).outside a
    unreachable

/-- Two specifications sharing an executable that has no `args`: `first` at address 0, `second`
at address 2. -/
def missingArgs : Heap :=
  ⟨[.dict [(.str "executable", .obj 1)], .dict [(.str "cls", .scalar (.str "Process"))],
    .dict [(.str "executable", .obj 1)]]⟩

/-- Building `first` pops its executable, then raises `KeyError` at `executable["args"]`; the pop
stays, and `second`, which `first` does not reach, is as it was. -/
theorem raising_build_keeps_second_spec :
    (constructorRun "first" (.obj 0) missingArgs).1 = .error (.keyError "args") ∧
      (constructorRun "first" (.obj 0) missingArgs).2.get? 0 = some (.dict []) ∧
      ¬ missingArgs.Reaches (.obj 0) 2 ∧
      (constructorRun "first" (.obj 0) missingArgs).2.get? 2 = missingArgs.get? 2 := by
  have closed : missingArgs.Closed (· ∈ [0, 1]) := Heap.closed_of_closedUnder rfl
  have first : Ref.Within (· ∈ [0, 1]) (.obj 0) := show 0 ∈ [0, 1] by decide
  have unreachable : ¬ missingArgs.Reaches (.obj 0) 2 := fun reach => by
    simpa using reach.within closed first
  exact ⟨rfl, rfl, unreachable,
    constructor_changes_only_reachable "first" (.obj 0) missingArgs 2 unreachable⟩

theorem buildTask_ok {repos executors quotas : List String} {linkKind : EnumClass} {name : String}
    {thing : Ref} {h h' : Heap} {task links : Value}
    (ran : buildTask repos executors quotas linkKind name thing h = .ok (task, links, h')) :
    ∃ built, constructor name thing h = .ok built ∧ built.heap = h' := by
  obtain ⟨built, builtRan, rest⟩ := bind_eq_ok.1 ran
  obtain ⟨_, _, rest⟩ := bind_eq_ok.1 rest
  obtain ⟨_, _, rest⟩ := bind_eq_ok.1 rest
  cases rest
  exact ⟨built, builtRan, rfl⟩

/-- Two documents that hold the same objects where `thing` reaches build it alike: into the
same task with the same links, or to the same exception. -/
theorem buildTask_congr (repos executors quotas : List String) (linkKind : EnumClass)
    {h₁ h₂ : Heap} {thing : Ref} (agree : Heap.Agree h₁ h₂ (h₁.Reaches thing)) (name : String) :
    (buildTask repos executors quotas linkKind name thing h₂).map (fun r => (r.1, r.2.1)) =
      (buildTask repos executors quotas linkKind name thing h₁).map (fun r => (r.1, r.2.1)) := by
  have matched := constructor_congr (h₁.reaches_closed thing) agree (h₁.within_reaches thing) name
  unfold buildTask
  revert matched
  cases constructor name thing h₁ with
  | error e =>
      cases constructor name thing h₂ with
      | error e' => intro same; cases same; rfl
      | ok _ => intro never; exact never.elim
  | ok b =>
      cases constructor name thing h₂ with
      | error _ => intro never; exact never.elim
      | ok b' =>
          rintro ⟨sameLinks, sameExecutable, -⟩
          simp only [bind, Except.bind, sameLinks, sameExecutable]
          cases (linksConstructor repos linkKind).parse b'.linksArgument <;>
            cases (taskDispatcher repos executors quotas linkKind).parse b'.executable <;> rfl

/-- A specification that shares no object with another is built alike whether or not the other
was built first: into the same task with the same links, or to the same exception. -/
theorem separate_specifications_build_alike (repos executors quotas : List String)
    (linkKind : EnumClass) (h : Heap) (first second : Ref)
    (separate : ∀ a, h.Reaches first a → ¬ h.Reaches second a) (firstName secondName : String)
    (task links : Value) (h' : Heap)
    (ran : buildTask repos executors quotas linkKind firstName first h = .ok (task, links, h')) :
    (buildTask repos executors quotas linkKind secondName second h').map (fun r => (r.1, r.2.1)) =
      (buildTask repos executors quotas linkKind secondName second h).map (fun r => (r.1, r.2.1)) := by
  obtain ⟨built, builtRan, rfl⟩ := buildTask_ok ran
  have confined := constructor_confined (h.reaches_closed first) (h.within_reaches first) builtRan
  exact buildTask_congr repos executors quotas linkKind
    ⟨confined.length, fun a inside => confined.outside a fun reached => separate a reached inside⟩
    secondName

/-- Two specifications with executables of their own, at addresses 0 to 2 and 3 to 5. -/
def separateExecutables : Heap :=
  ⟨[.dict [(.str "executable", .obj 1), (.str "done", .scalar (.str "results"))],
    .dict [(.str "cls", .scalar (.str "Process")), (.str "args", .obj 2)],
    .dict [(.str "template", .scalar (.str "run"))],
    .dict [(.str "executable", .obj 4)],
    .dict [(.str "cls", .scalar (.str "Process")), (.str "args", .obj 5)],
    .dict [(.str "template", .scalar (.str "run"))]]⟩

theorem separate_specifications_build_alike_example :
    (∀ a, separateExecutables.Reaches (.obj 0) a → ¬ separateExecutables.Reaches (.obj 3) a) ∧
      ∃ task links h', buildTask ["results"] [] [] ⟨"LinkKind", [], []⟩ "first" (.obj 0) separateExecutables =
          .ok (task, links, h') ∧
        (buildTask ["results"] [] [] ⟨"LinkKind", [], []⟩ "second" (.obj 3) h').map (fun r => (r.1, r.2.1)) =
          (buildTask ["results"] [] [] ⟨"LinkKind", [], []⟩ "second" (.obj 3) separateExecutables).map
            (fun r => (r.1, r.2.1)) := by
  have closedFirst : separateExecutables.Closed (· ∈ [0, 1, 2]) := Heap.closed_of_closedUnder rfl
  have closedSecond : separateExecutables.Closed (· ∈ [3, 4, 5]) := Heap.closed_of_closedUnder rfl
  have startFirst : Ref.Within (· ∈ [0, 1, 2]) (.obj 0) := show 0 ∈ [0, 1, 2] by decide
  have startSecond : Ref.Within (· ∈ [3, 4, 5]) (.obj 3) := show 3 ∈ [3, 4, 5] by decide
  have separate : ∀ a, separateExecutables.Reaches (.obj 0) a →
      ¬ separateExecutables.Reaches (.obj 3) a := fun a reachFirst reachSecond => by
    have inFirst := reachFirst.within closedFirst startFirst
    have inSecond := reachSecond.within closedSecond startSecond
    simp only [List.mem_cons, List.mem_singleton, List.not_mem_nil, or_false] at inFirst inSecond
    omega
  exact ⟨separate, _, _, _, rfl,
    separate_specifications_build_alike _ _ _ _ _ _ _ separate _ _ _ _ _ rfl⟩

/-! ## Any number of builds, in any order -/

/-- The documents left by building the specifications `specs` from `h₀`, one after another and
each to a task, the last one built first in `specs`: the task picker's calls in whatever order
they are made. -/
inductive Builds (repos executors quotas : List String) (linkKind : EnumClass) (h₀ : Heap) :
    List Ref → Heap → Prop
  | nil : Builds repos executors quotas linkKind h₀ [] h₀
  | build {specs : List Ref} {h h' : Heap} {name : String} {thing : Ref} {task links : Value} :
      Builds repos executors quotas linkKind h₀ specs h →
      buildTask repos executors quotas linkKind name thing h = .ok (task, links, h') →
      Builds repos executors quotas linkKind h₀ (thing :: specs) h'

/-- The addresses some specification of `specs` reaches. -/
def Heap.ReachesAny (h : Heap) (specs : List Ref) (a : Nat) : Prop :=
  ∃ spec ∈ specs, h.Reaches spec a

theorem Heap.reachesAny_closed (h : Heap) (specs : List Ref) : h.Closed (h.ReachesAny specs) := by
  rintro a o ⟨spec, member, reach⟩ found r listed
  cases r with
  | scalar => trivial
  | obj b => exact ⟨spec, member, .child reach found listed⟩

/-- Builds of specifications inside a closed set `S` write only inside `S`, however many there
are and whatever they share among themselves. -/
theorem Builds.confined {repos executors quotas : List String} {linkKind : EnumClass}
    {h₀ h : Heap} {specs : List Ref} (built : Builds repos executors quotas linkKind h₀ specs h)
    {S : Nat → Prop} (closed : h₀.Closed S) (inside : ∀ spec ∈ specs, spec.Within S) :
    Heap.Confined S h₀ h := by
  induction built with
  | nil => exact .refl closed
  | build _ ran ih =>
      have before := ih fun spec member => inside spec (List.mem_cons_of_mem _ member)
      obtain ⟨b, builtRan, rfl⟩ := buildTask_ok ran
      exact before.trans
        (constructor_confined before.closed (inside _ (List.mem_cons_self _ _)) builtRan)

/-- However many specifications are built first, and in whatever order, a specification that
shares no object with any of them is built as it is on the document as loaded: into the same
task with the same links, or to the same exception. The specifications built first may share
mappings among themselves. -/
theorem builds_keep_separate_task (repos executors quotas : List String) (linkKind : EnumClass)
    (h₀ h : Heap) (specs : List Ref) (built : Builds repos executors quotas linkKind h₀ specs h)
    (thing : Ref) (separate : ∀ spec ∈ specs, ∀ a, h₀.Reaches spec a → ¬ h₀.Reaches thing a)
    (name : String) :
    (buildTask repos executors quotas linkKind name thing h).map (fun r => (r.1, r.2.1)) =
      (buildTask repos executors quotas linkKind name thing h₀).map (fun r => (r.1, r.2.1)) := by
  have confined := built.confined (h₀.reachesAny_closed specs) fun spec member => by
    cases spec with
    | scalar => trivial
    | obj a => exact ⟨_, member, .root rfl⟩
  exact buildTask_congr repos executors quotas linkKind
    ⟨confined.length, fun a inside => confined.outside a fun ⟨spec, member, reached⟩ =>
      separate spec member a reached inside⟩ name

/-- Three specifications with executables of their own, at addresses 0 to 2, 3 to 5 and 6 to 8. -/
def threeExecutables : Heap :=
  ⟨[.dict [(.str "executable", .obj 1), (.str "done", .scalar (.str "results"))],
    .dict [(.str "cls", .scalar (.str "Process")), (.str "args", .obj 2)],
    .dict [(.str "template", .scalar (.str "run"))],
    .dict [(.str "executable", .obj 4)],
    .dict [(.str "cls", .scalar (.str "Process")), (.str "args", .obj 5)],
    .dict [(.str "template", .scalar (.str "build"))],
    .dict [(.str "executable", .obj 7)],
    .dict [(.str "cls", .scalar (.str "Process")), (.str "args", .obj 8)],
    .dict [(.str "template", .scalar (.str "test"))]]⟩

theorem third_built_alike_after_two :
    ∃ h, Builds ["results"] [] [] ⟨"LinkKind", [], []⟩ threeExecutables [.obj 3, .obj 0] h ∧
      (∀ spec ∈ [Ref.obj 3, .obj 0], ∀ a,
        threeExecutables.Reaches spec a → ¬ threeExecutables.Reaches (.obj 6) a) ∧
      (buildTask ["results"] [] [] ⟨"LinkKind", [], []⟩ "third" (.obj 6) h).map
          (fun r => (r.1, r.2.1)) =
        (buildTask ["results"] [] [] ⟨"LinkKind", [], []⟩ "third" (.obj 6) threeExecutables).map
          (fun r => (r.1, r.2.1)) := by
  obtain ⟨_, _, h₁, first, _, _, h₂, second⟩ : ∃ task links h₁,
      buildTask ["results"] [] [] ⟨"LinkKind", [], []⟩ "first" (.obj 0) threeExecutables =
        .ok (task, links, h₁) ∧ ∃ task links h₂,
      buildTask ["results"] [] [] ⟨"LinkKind", [], []⟩ "second" (.obj 3) h₁ = .ok (task, links, h₂) :=
    ⟨_, _, _, rfl, _, _, _, rfl⟩
  have built := Builds.build (.build .nil first) second
  have closedThird : threeExecutables.Closed (· ∈ [6, 7, 8]) := Heap.closed_of_closedUnder rfl
  have closedOthers : threeExecutables.Closed (· ∈ [0, 1, 2, 3, 4, 5]) :=
    Heap.closed_of_closedUnder rfl
  have separate : ∀ spec ∈ [Ref.obj 3, .obj 0], ∀ a,
      threeExecutables.Reaches spec a → ¬ threeExecutables.Reaches (.obj 6) a := by
    intro spec member a reachSpec reachThird
    have startThird : Ref.Within (· ∈ [6, 7, 8]) (.obj 6) := show 6 ∈ [6, 7, 8] by decide
    have startOthers : spec.Within (· ∈ [0, 1, 2, 3, 4, 5]) := by
      simp only [List.mem_cons, List.mem_singleton, List.not_mem_nil, or_false] at member
      rcases member with rfl | rfl
      exacts [show 3 ∈ [0, 1, 2, 3, 4, 5] by decide, show 0 ∈ [0, 1, 2, 3, 4, 5] by decide]
    have inThird := reachThird.within closedThird startThird
    have inOthers := reachSpec.within closedOthers startOthers
    simp only [List.mem_cons, List.mem_singleton, List.not_mem_nil, or_false] at inThird inOthers
    omega
  exact ⟨h₂, built, separate,
    builds_keep_separate_task _ _ _ _ _ _ _ built _ separate _⟩

end PyDataTask.Declarative
