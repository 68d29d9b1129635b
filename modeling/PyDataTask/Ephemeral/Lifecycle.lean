import PyDataTask.Ephemeral.Session

/-!
# The lifecycle of a session's resources

Over a sequence of calls, the resources a session records are those of the generators it has
set up and not torn down only as long as the calls keep to the order the module's docstring
asks for: every manager registered before the session is opened, `open()` once, and `close()`
after it. Opening twice tears the resources down behind the recorded entries, and closing
before opening sets a resource up that nothing records.

`async with session:` tears down every resource on every exit only when no setup and no teardown
raises and the body leaves the registrations alone. A setup that raises leaves `__aenter__`
before `__aexit__` is armed, so the resources set up before it stay live; a manager the body
registers is set up by `close()`, whose `pop` of its name then raises.
-/

namespace PyDataTask.Ephemeral

open PyDataTask.Python

variable {α : Type}

/-! ## Call sequences -/

inductive Call (α : Type) where
  | ephemeral (manager : Manager α)
  | «open»
  | close
  /-- A call of the accessor that `ephemeral` returned for a manager of this name. -/
  | access (name : String)

/-- The session a call leaves; a call that raises leaves the state it had reached. -/
def Session.call (s : Session α) : Call α → Session α
  | .ephemeral m => s.ephemeral m
  | .open => s.open.1
  | .close => s.close.1
  | .access _ => s

/-- The sessions that calls admitted by `allowed` reach from `Session()`. -/
inductive Reaches (allowed : Session α → Call α → Prop) : Session α → Prop
  | init : Reaches allowed .init
  | step {s : Session α} {c : Call α} : Reaches allowed s → allowed s c → Reaches allowed (s.call c)

/-- No registered generator has run. -/
def Session.Unstarted (s : Session α) : Prop := ∀ p ∈ s.ephemeralDefs.entries, p.2.ran = 0

/-- Every registered generator has run. -/
def Session.Started (s : Session α) : Prop := ∀ p ∈ s.ephemeralDefs.entries, p.2.ran ≠ 0

/-- The order of calls the module's docstring asks for: managers with distinct names, each
yielding once and raising nowhere, all registered before the session is opened; `open()` only
before any generator has run; `close()` only once every generator has. -/
def Disciplined (s : Session α) : Call α → Prop
  | .ephemeral m => s.Unstarted ∧ m.name ∉ s.ephemeralDefs.keys ∧ ∃ v, m.script = [.yield v]
  | .open => s.Unstarted
  | .close => s.Started
  | .access _ => True

/-! ## The phases of a disciplined run -/

/-- How far a disciplined run has driven every registered generator. -/
inductive Phase where
  | unopened
  | opened
  | closed
  deriving DecidableEq

def Phase.entry (m : Manager α) : Phase → String × AsyncGen α
  | .unopened => m.entry
  | .opened => m.liveEntry
  | .closed => m.closedEntry

@[simp]
theorem Phase.entry_name (m : Manager α) (phase : Phase) : (phase.entry m).1 = m.name := by
  cases phase <;> rfl

theorem Phase.entry_live (m : Manager α) (phase : Phase) :
    (phase.entry m).2.Live ↔ phase = .opened := by
  cases phase <;> simp [Phase.entry, Manager.entry, Manager.liveEntry, Manager.closedEntry,
    AsyncGen.start]

theorem Phase.entry_ran (m : Manager α) (phase : Phase) :
    (phase.entry m).2.ran = 0 ↔ phase = .unopened := by
  cases phase <;> simp [Phase.entry, Manager.entry, Manager.liveEntry, Manager.closedEntry,
    AsyncGen.start]

@[simp]
theorem Phase.entry_script (m : Manager α) (phase : Phase) :
    (phase.entry m).2.script = m.script := by
  cases phase <;> rfl

/-- The registered managers, in order, and what the session holds for them in a phase. -/
structure Tidy (ms : List (Manager α)) (phase : Phase) (s : Session α) : Prop where
  distinct : (ms.map Manager.name).Nodup
  once : ∀ m ∈ ms, ∃ v, m.script = [.yield v]
  defs : s.ephemeralDefs.entries = ms.map (Phase.entry · phase)
  resources : ∀ name v, s.ephemerals.get? name = some v ↔
    phase = .opened ∧ ∃ m ∈ ms, m.name = name ∧ m.script = [.yield v]

section Tidy

variable {ms : List (Manager α)} {phase : Phase} {s : Session α}

theorem Tidy.unrecorded (tidy : Tidy ms phase s) (opened : phase ≠ .opened ∨ ms = [])
    (name : String) : s.ephemerals.get? name = none := by
  cases found : s.ephemerals.get? name with
  | none => rfl
  | some v =>
      obtain ⟨same, m, member, -⟩ := (tidy.resources name v).mp found
      rcases opened with other | rfl
      · exact absurd same other
      · cases member

/-- Before any generator has run, the session is in its first phase. -/
theorem Tidy.unopened (tidy : Tidy ms phase s) (unstarted : s.Unstarted) : Tidy ms .unopened s := by
  rcases ms with _ | ⟨m, rest⟩
  · refine ⟨tidy.distinct, tidy.once, by simpa using tidy.defs, fun name v => ?_⟩
    simp [tidy.unrecorded (.inr rfl)]
  · have ran := unstarted _ (tidy.defs ▸ List.mem_map_of_mem _ (List.mem_cons_self m rest))
    rw [Phase.entry_ran] at ran
    exact ran ▸ tidy

theorem Tidy.ephemeral (tidy : Tidy ms .unopened s) {m : Manager α}
    (fresh : m.name ∉ s.ephemeralDefs.keys) {v : α} (once : m.script = [.yield v]) :
    Tidy (ms ++ [m]) .unopened (s.ephemeral m) := by
  have absent : m.name ∉ ms.map Manager.name := by
    simpa [PyDict.keys, tidy.defs, Function.comp_def] using fresh
  refine ⟨?_, ?_, ?_, fun name v' => ?_⟩
  · rw [List.map_append, List.nodup_append]
    exact ⟨tidy.distinct, List.nodup_singleton _, List.disjoint_singleton.mpr absent⟩
  · intro m' member
    rcases List.mem_append.mp member with old | new
    · exact tidy.once m' old
    · simp only [List.mem_singleton] at new; subst new; exact ⟨v, once⟩
  · show PyDict.setEntries s.ephemeralDefs.entries m.name (AsyncGen.start m.script) = _
    rw [PyDict.setEntries_fresh _ fresh, tidy.defs]
    simp [Phase.entry, Manager.entry]
  · simp [Session.ephemeral, tidy.unrecorded (.inl nofun)]

/-- `open()` from the first phase sets every resource up and records it. -/
theorem Tidy.open (tidy : Tidy ms .unopened s) : Tidy ms .opened s.open.1 := by
  have yields : ∀ m ∈ ms, m.setupRaises = false := fun m member =>
    Manager.setupRaises_of_ends (tidy.once m member).choose_spec
  have unopened : s.ephemeralDefs.entries = ms.map Manager.entry := by
    simpa [Phase.entry] using tidy.defs
  obtain ⟨entries, -, recorded, others⟩ := openLoop_yields ms s.ephemerals tidy.distinct yields
  refine ⟨tidy.distinct, tidy.once, ?_, fun name v => ?_⟩
  · show (openLoop s.ephemeralDefs.entries s.ephemerals).1 = _
    rw [unopened, entries]
    rfl
  · show (openLoop s.ephemeralDefs.entries s.ephemerals).2.1.get? name = some v ↔ _
    rw [unopened]
    by_cases registered : name ∈ ms.map Manager.name
    · obtain ⟨m, member, rfl⟩ := List.mem_map.mp registered
      obtain ⟨w, script⟩ := tidy.once m member
      rw [recorded m member]
      constructor
      · intro yielded
        simp only [Manager.firstYield, script, Option.some.injEq] at yielded
        exact ⟨rfl, m, member, rfl, yielded ▸ script⟩
      · rintro ⟨-, m', member', same, script'⟩
        cases List.inj_on_of_nodup_map tidy.distinct member' member same
        simp [Manager.firstYield, script']
    · rw [others name registered, tidy.unrecorded (.inl nofun)]
      exact iff_of_false nofun fun ⟨_, m, member, same, _⟩ =>
        registered (List.mem_map.mpr ⟨m, member, same⟩)

/-- `close()` after every generator has run tears every resource down, or, when that was done
already, raises `KeyError` and changes nothing. -/
theorem Tidy.close (tidy : Tidy ms phase s) (started : s.Started) : Tidy ms .closed s.close.1 := by
  rcases ms with _ | ⟨m, rest⟩
  · have empty : s.ephemeralDefs.entries = [] := by simpa using tidy.defs
    refine ⟨tidy.distinct, tidy.once, ?_, fun name v => ?_⟩
    · show (closeLoop s.ephemeralDefs.entries s.ephemerals).1 = _
      simp [empty, closeLoop]
    · show (closeLoop s.ephemeralDefs.entries s.ephemerals).2.1.get? name = some v ↔ _
      simp [empty, closeLoop, tidy.unrecorded (.inr rfl)]
  · have ran := started _ (tidy.defs ▸ List.mem_map_of_mem _ (List.mem_cons_self m rest))
    rw [ne_eq, Phase.entry_ran] at ran
    cases phase with
    | unopened => exact absurd rfl ran
    | opened =>
        have recorded : ∀ m' ∈ m :: rest, (s.ephemerals.get? m'.name).isSome := fun m' member => by
          obtain ⟨v, script⟩ := tidy.once m' member
          simp [(tidy.resources m'.name v).mpr ⟨rfl, m', member, rfl, script⟩]
        obtain ⟨entries, -, resources⟩ :=
          closeLoop_ends (m :: rest) s.ephemerals tidy.distinct tidy.once recorded
        have live : s.ephemeralDefs.entries = (m :: rest).map Manager.liveEntry := by
          simpa [Phase.entry] using tidy.defs
        refine ⟨tidy.distinct, tidy.once, ?_, fun name v => ?_⟩
        · show (closeLoop s.ephemeralDefs.entries s.ephemerals).1 = _
          rw [live, entries]
          rfl
        · show (closeLoop s.ephemeralDefs.entries s.ephemerals).2.1.get? name = some v ↔ _
          rw [live, resources]
          split_ifs with registered
          · simp
          · refine iff_of_false (fun found => ?_) nofun
            obtain ⟨-, m', member, same, -⟩ := (tidy.resources name v).mp found
            exact registered (List.mem_map.mpr ⟨m', member, same⟩)
    | closed =>
        have closed : s.ephemeralDefs.entries = m.closedEntry :: rest.map Manager.closedEntry := by
          simpa [Phase.entry] using tidy.defs
        have missing : s.ephemerals.pop? m.name = none :=
          (PyDict.pop?_eq_none_iff _ _).mpr (tidy.unrecorded (.inl nofun) m.name)
        have unchanged : closeLoop s.ephemeralDefs.entries s.ephemerals =
            (s.ephemeralDefs.entries, s.ephemerals, [], some (.keyError m.name)) := by
          rw [closed, Manager.closedEntry, closeLoop_cons_missing _ _ (by
            rw [AsyncGen.anext_finished rfl]; rfl) missing, AsyncGen.anext_finished rfl]
        refine ⟨tidy.distinct, tidy.once, ?_, fun name v => ?_⟩
        · show (closeLoop s.ephemeralDefs.entries s.ephemerals).1 = _
          rw [unchanged]; exact tidy.defs
        · show (closeLoop s.ephemeralDefs.entries s.ephemerals).2.1.get? name = some v ↔ _
          rw [unchanged]; exact tidy.resources name v

/-- The resources recorded are those of the generators set up and not torn down. -/
theorem Tidy.tracks (tidy : Tidy ms phase s) (name : String) (v : α) :
    s.ephemerals.get? name = some v ↔
      ∃ g, s.ephemeralDefs.get? name = some g ∧ g.Live ∧ g.script.head? = some (.yield v) := by
  rw [tidy.resources]
  constructor
  · rintro ⟨rfl, m, member, rfl, script⟩
    refine ⟨(Phase.entry m .opened).2, ?_, (Phase.entry_live m .opened).mpr rfl, by simp [script]⟩
    rw [PyDict.get?_eq_some_iff, tidy.defs]
    exact List.mem_map_of_mem _ member
  · rintro ⟨g, found, live, head⟩
    rw [PyDict.get?_eq_some_iff, tidy.defs] at found
    obtain ⟨m, member, entry⟩ := List.mem_map.mp found
    obtain ⟨w, script⟩ := tidy.once m member
    have named : m.name = name := by simpa using congrArg Prod.fst entry
    have held : g = (Phase.entry m phase).2 := by rw [entry]
    subst held
    rw [Phase.entry_live] at live
    simp only [Phase.entry_script, script, List.head?_cons, Option.some.injEq, Step.yield.injEq]
      at head
    exact ⟨live, m, member, named, head ▸ script⟩

end Tidy

/-- Every session of a disciplined run is in one of its phases. -/
theorem Reaches.tidy {s : Session α} (reach : Reaches Disciplined s) :
    ∃ ms phase, Tidy ms phase s := by
  induction reach with
  | init => exact ⟨[], .unopened, List.nodup_nil, nofun, rfl, fun _ _ => by simp [Session.init]⟩
  | @step s c _ allowed ih =>
      obtain ⟨ms, phase, tidy⟩ := ih
      cases c with
      | ephemeral m =>
          obtain ⟨unstarted, fresh, v, once⟩ := allowed
          exact ⟨_, _, (tidy.unopened unstarted).ephemeral fresh once⟩
      | «open» => exact ⟨_, _, (tidy.unopened allowed).open⟩
      | close => exact ⟨_, _, tidy.close allowed⟩
      | access name => exact ⟨_, _, tidy⟩

/-- In a run that keeps to the documented order (a call that raises is one more step), the
resources recorded are exactly those of the generators set up and not torn down; so an accessor
either raises `Session is not open` or returns such a resource, and after `close()` none is
left set up. -/
theorem disciplined_sessions_track_resources (s : Session α) (reach : Reaches Disciplined s) :
    (∀ name v, s.ephemerals.get? name = some v ↔
        ∃ g, s.ephemeralDefs.get? name = some g ∧ g.Live ∧ g.script.head? = some (.yield v)) ∧
      (∀ name, s.access name = .error (.exception "Session is not open") ∨
        ∃ v g, s.access name = .ok v ∧ s.ephemeralDefs.get? name = some g ∧ g.Live ∧
          g.script.head? = some (.yield v)) ∧
      (Disciplined s .close → ∀ p ∈ (s.call .close).ephemeralDefs.entries, ¬ p.2.Live) := by
  obtain ⟨ms, phase, tidy⟩ := reach.tidy
  refine ⟨tidy.tracks, fun name => ?_, fun started p member => ?_⟩
  · unfold Session.access
    cases found : s.ephemerals.get? name with
    | none => exact .inl rfl
    | some v =>
        obtain ⟨g, held, live, head⟩ := (tidy.tracks name v).mp found
        exact .inr ⟨v, g, rfl, held, live, head⟩
  · have closed := tidy.close started
    rw [Session.call, closed.defs] at member
    obtain ⟨m, -, rfl⟩ := List.mem_map.mp member
    simp [Phase.entry_live]

theorem disciplined_session_serves_live_resource :
    ∃ s : Session Nat, Reaches Disciplined s ∧ s.access "m" = .ok 1 ∧
      ∃ g, s.ephemeralDefs.get? "m" = some g ∧ g.Live := by
  have reach : Reaches Disciplined
      (((Session.init : Session Nat).call (.ephemeral ⟨"m", [.yield 1]⟩)).call .open) :=
    .step (.step .init ⟨fun _ h => (List.not_mem_nil _ h).elim, List.not_mem_nil _, 1, rfl⟩)
      (by unfold Disciplined Session.Unstarted; decide)
  obtain ⟨g, held, live, -⟩ := ((disciplined_sessions_track_resources _ reach).1 "m" 1).mp rfl
  exact ⟨_, reach, rfl, g, held, live⟩

/-- Opening a session a second time runs each generator past its `yield`: the resource is torn
down while the session still records it, and the accessor returns it. -/
theorem reopened_session_serves_torn_down :
    ∃ s : Session Nat, Reaches (fun _ _ => True) s ∧ s.access "m" = .ok 1 ∧
      ∃ g, s.ephemeralDefs.get? "m" = some g ∧ g.finished = true := by
  have reach : Reaches (fun _ _ => True)
      ((((Session.init : Session Nat).call (.ephemeral ⟨"m", [.yield 1]⟩)).call .open).call .open) :=
    .step (.step (.step .init trivial) trivial) trivial
  exact ⟨_, reach, rfl, _, rfl, rfl⟩

/-! ## `async with session:` -/

theorem Manager.firstYield_isSome {m : Manager α} (yields : m.setupRaises = false) :
    m.firstYield.isSome := by
  obtain ⟨name, script⟩ := m
  match script, yields with
  | .yield _ :: _, _ => rfl

/-- Managers registered under distinct names whose setups reach their `yield`: `open()` raises
nothing, and each manager's accessor returns the value its own generator yielded. -/
theorem open_serves_each_manager (ms : List (Manager α)) (distinct : (ms.map Manager.name).Nodup)
    (yields : ∀ m ∈ ms, m.setupRaises = false) :
    (Session.registered ms).open.2 = none ∧
      ∀ m ∈ ms, ∃ v, m.firstYield = some v ∧ (Session.registered ms).open.1.access m.name = .ok v := by
  obtain ⟨entries, -⟩ := Session.registered_entries distinct
  obtain ⟨-, raised, recorded, -⟩ := openLoop_yields ms (Session.registered ms).ephemerals distinct yields
  rw [← entries] at raised recorded
  refine ⟨raised, fun m member => ?_⟩
  obtain ⟨v, first⟩ := Option.isSome_iff_exists.mp (Manager.firstYield_isSome (yields m member))
  have found : (Session.registered ms).open.1.ephemerals.get? m.name = some v :=
    (recorded m member).trans first
  exact ⟨v, first, by rw [Session.access, found]⟩

theorem open_serves_each_manager_two :
    (([⟨"a", [.yield 1]⟩, ⟨"b", [.yield 2]⟩] : List (Manager Nat)).map Manager.name).Nodup ∧
      (Session.registered ([⟨"a", [.yield 1]⟩, ⟨"b", [.yield 2]⟩] : List (Manager Nat))).open.1.access
        "b" = .ok 2 := by
  obtain ⟨-, served⟩ :=
    open_serves_each_manager ([⟨"a", [.yield 1]⟩, ⟨"b", [.yield 2]⟩] : List (Manager Nat))
    (by decide) (by decide)
  obtain ⟨v, first, access⟩ := served ⟨"b", [.yield 2]⟩ (by simp)
  cases first
  exact ⟨by decide, access⟩

/-- Managers registered under distinct names, each yielding once and then returning: `open()` and
then `close()` raise nothing, every generator has run to its end, and every accessor raises
`Session is not open` again. -/
theorem open_then_close_tears_down (ms : List (Manager α)) (distinct : (ms.map Manager.name).Nodup)
    (ends : ∀ m ∈ ms, ∃ v, m.script = [.yield v]) :
    (Session.registered ms).open.2 = none ∧ (Session.registered ms).open.1.close.2.2 = none ∧
      (∀ p ∈ (Session.registered ms).open.1.close.1.ephemeralDefs.entries, p.2.finished = true) ∧
      ∀ name, (Session.registered ms).open.1.close.1.access name =
        .error (.exception "Session is not open") := by
  have yields : ∀ m ∈ ms, m.setupRaises = false := fun m member =>
    Manager.setupRaises_of_ends (ends m member).choose_spec
  obtain ⟨entries, empty⟩ := Session.registered_entries distinct
  obtain ⟨opened, raised, recorded, others⟩ := openLoop_yields ms .empty distinct yields
  have openEntries : (Session.registered ms).open.1.ephemeralDefs.entries = ms.map Manager.liveEntry := by
    show (openLoop _ _).1 = _
    rw [entries, empty, opened]
  have openValues : ∀ name, (Session.registered ms).open.1.ephemerals.get? name =
      (openLoop (ms.map Manager.entry) .empty).2.1.get? name := by
    intro name
    show (openLoop _ _).2.1.get? name = _
    rw [entries, empty]
  obtain ⟨closed, closeRaised, resources⟩ := closeLoop_ends ms (Session.registered ms).open.1.ephemerals
    distinct ends fun m member => by
      rw [openValues, recorded m member]; exact Manager.firstYield_isSome (yields m member)
  rw [← openEntries] at closed closeRaised resources
  refine ⟨by show (openLoop _ _).2.2 = none; rw [entries, empty]; exact raised, closeRaised,
    fun p member => ?_, fun name => ?_⟩
  · have : p ∈ ms.map Manager.closedEntry := by rw [← closed]; exact member
    obtain ⟨m, -, rfl⟩ := List.mem_map.mp this
    rfl
  · have gone : (Session.registered ms).open.1.close.1.ephemerals.get? name = none := by
      refine (resources name).trans ?_
      split_ifs with registered
      · rfl
      · rw [openValues, others name registered, PyDict.get?_empty]
    rw [Session.access, gone]

theorem open_then_close_tears_down_two :
    (([⟨"a", [.yield 1]⟩, ⟨"b", [.yield 2]⟩] : List (Manager Nat)).map Manager.name).Nodup ∧
      (Session.registered ([⟨"a", [.yield 1]⟩, ⟨"b", [.yield 2]⟩] : List (Manager Nat))).open.1.close.1.access
        "a" = .error (.exception "Session is not open") :=
  ⟨by decide, (open_then_close_tears_down ([⟨"a", [.yield 1]⟩, ⟨"b", [.yield 2]⟩] : List (Manager Nat))
    (by decide) (by simp)).2.2.2 "a"⟩

end PyDataTask.Ephemeral
