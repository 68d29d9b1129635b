import PyDataTask.Python.Builtins

/-!
# Sessions of ephemeral resources

`Session` (`session.py`) keeps, under each manager's `__name__`, the async generator object that
calling the manager made, and while it is open the resource each generator yielded. The session
drives a generator only through `__anext__`: `open()` runs each one to its first `yield`, and
`close()` runs each one past it. What a generator does at each `__anext__` is its script: the
value it yields or the exception it raises, in order. Past the last entry the body returns, and
`__anext__` raises `StopAsyncIteration`.
-/

namespace PyDataTask.Ephemeral

open PyDataTask.Python

variable {α : Type}

/-- How one run of a generator's body, from one `__anext__` to the next, ends. -/
inductive Step (α : Type) where
  | yield (value : α)
  | raise (e : PyExc)
  deriving DecidableEq

/-- An async generator object: the steps of its body and how many of them have run. -/
structure AsyncGen (α : Type) where
  script : List (Step α)
  ran : Nat
  finished : Bool
  deriving DecidableEq

namespace AsyncGen

def start (script : List (Step α)) : AsyncGen α := ⟨script, 0, false⟩

/-- `__anext__()`: runs the body to its next `yield`, to the exception it raises, or to its end,
where `StopAsyncIteration` is raised. A `StopAsyncIteration` raised inside the body comes out as
`RuntimeError`, and an ended generator raises `StopAsyncIteration` again. -/
def anext (g : AsyncGen α) : AsyncGen α × Except PyExc α :=
  if g.finished then (g, .error .stopAsyncIteration)
  else
    match g.script.get? g.ran with
    | some (.yield value) => ({ g with ran := g.ran + 1 }, .ok value)
    | some (.raise e) =>
        ({ g with ran := g.ran + 1, finished := true },
          .error (if e = .stopAsyncIteration then .runtimeError else e))
    | none => ({ g with ran := g.ran + 1, finished := true }, .error .stopAsyncIteration)

/-- Suspended at its first `yield`: set up and not torn down. -/
def Live (g : AsyncGen α) : Prop := g.ran = 1 ∧ g.finished = false

instance (g : AsyncGen α) : Decidable g.Live := inferInstanceAs (Decidable (_ ∧ _))

end AsyncGen

/-- An ephemeral manager: an async generator function, by its `__name__` and the body of the
generators it makes. -/
structure Manager (α : Type) where
  name : String
  script : List (Step α)

namespace Manager

/-- `_ephemeral_defs[manager.__name__] = manager()`. -/
def entry (m : Manager α) : String × AsyncGen α := (m.name, .start m.script)

/-- Its setup, the code before the first `yield`, does not reach it. -/
def setupRaises (m : Manager α) : Bool :=
  match m.script with
  | .yield _ :: _ => false
  | _ => true

/-- Its teardown, the code after the first `yield`, raises. -/
def teardownRaises (m : Manager α) : Bool :=
  match m.script with
  | [.yield _, .raise _] => true
  | _ => false

/-- What the generator yields first, if its setup reaches the `yield`. -/
def firstYield (m : Manager α) : Option α :=
  match m.script with
  | .yield v :: _ => some v
  | _ => none

/-- Its entry once `open()` has run the generator to its first `yield`. -/
def liveEntry (m : Manager α) : String × AsyncGen α := (m.name, ⟨m.script, 1, false⟩)

/-- Its entry once `close()` has run the generator past its `yield` to its end. -/
def closedEntry (m : Manager α) : String × AsyncGen α := (m.name, ⟨m.script, 2, true⟩)

end Manager

structure Session (α : Type) where
  ephemeralDefs : PyDict String (AsyncGen α)
  ephemerals : PyDict String α

/-! ## The loops of `open()` and `close()` -/

/-- The loop of `open()`: `self.ephemerals[name] = await manager.__anext__()` over the items of
`_ephemeral_defs` in order, until one raises; with the generators as the loop leaves them. -/
def openLoop : List (String × AsyncGen α) → PyDict String α →
    List (String × AsyncGen α) × PyDict String α × Option PyExc
  | [], ephemerals => ([], ephemerals, none)
  | (name, gen) :: rest, ephemerals =>
      match gen.anext with
      | (gen', .ok value) =>
          let after := openLoop rest (ephemerals.set name value)
          ((name, gen') :: after.1, after.2.1, after.2.2)
      | (gen', .error e) => ((name, gen') :: rest, ephemerals, some e)

/-- What `close()` makes of one `__anext__`: a yield prints the warning, `StopAsyncIteration`
is passed over, and any other exception leaves the loop. -/
def closeOutcome : Except PyExc α → Except PyExc (List String)
  | .ok _ => .ok ["Warning: ephemeral has more than one yield"]
  | .error .stopAsyncIteration => .ok []
  | .error e => .error e

/-- The loop of `close()`: `await manager.__anext__()` and then `self.ephemerals.pop(name)` over
the items of `_ephemeral_defs` in order, until one raises; `pop` raises `KeyError` for a name
that `open()` did not set. Returns the generators, the resources, the printed lines and the
exception. -/
def closeLoop : List (String × AsyncGen α) → PyDict String α →
    List (String × AsyncGen α) × PyDict String α × List String × Option PyExc
  | [], ephemerals => ([], ephemerals, [], none)
  | (name, gen) :: rest, ephemerals =>
      match closeOutcome gen.anext.2 with
      | .error e => ((name, gen.anext.1) :: rest, ephemerals, [], some e)
      | .ok printed =>
          match ephemerals.pop? name with
          | none => ((name, gen.anext.1) :: rest, ephemerals, printed, some (.keyError name))
          | some (_, ephemerals') =>
              let after := closeLoop rest ephemerals'
              ((name, gen.anext.1) :: after.1, after.2.1, printed ++ after.2.2.1, after.2.2.2)

theorem openLoop_keys (l : List (String × AsyncGen α)) (ephemerals : PyDict String α) :
    (openLoop l ephemerals).1.map Prod.fst = l.map Prod.fst := by
  induction l generalizing ephemerals with
  | nil => rfl
  | cons entry rest ih =>
      obtain ⟨name, gen⟩ := entry
      unfold openLoop
      split <;> simp [ih]

theorem closeLoop_keys (l : List (String × AsyncGen α)) (ephemerals : PyDict String α) :
    (closeLoop l ephemerals).1.map Prod.fst = l.map Prod.fst := by
  induction l generalizing ephemerals with
  | nil => rfl
  | cons entry rest ih =>
      obtain ⟨name, gen⟩ := entry
      unfold closeLoop
      split
      · rfl
      · split <;> simp [ih]

/-! ## The methods -/

namespace Session

/-- `Session()`. -/
def init : Session α := ⟨.empty, .empty⟩

/-- `ephemeral(manager)`, the decorator. The accessor `inner` it returns reads the session by
`manager.__name__`, which is `access`. -/
def ephemeral (s : Session α) (m : Manager α) : Session α :=
  { s with ephemeralDefs := s.ephemeralDefs.set m.name (.start m.script) }

/-- The accessor `inner` of a manager named `name`. -/
def access (s : Session α) (name : String) : Except PyExc α :=
  match s.ephemerals.get? name with
  | none => .error (.exception "Session is not open")
  | some value => .ok value

/-- `open()`, with the exception it raises. -/
def «open» (s : Session α) : Session α × Option PyExc :=
  let after := openLoop s.ephemeralDefs.entries s.ephemerals
  (⟨⟨after.1, by rw [openLoop_keys]; exact s.ephemeralDefs.nodup⟩, after.2.1⟩, after.2.2)

/-- `close()`, with the lines it prints and the exception it raises. -/
def close (s : Session α) : Session α × List String × Option PyExc :=
  let after := closeLoop s.ephemeralDefs.entries s.ephemerals
  (⟨⟨after.1, by rw [closeLoop_keys]; exact s.ephemeralDefs.nodup⟩, after.2.1⟩, after.2.2)

/-- The session after `@session.ephemeral` on each manager in order. -/
def registered (ms : List (Manager α)) : Session α := ms.foldl ephemeral init

theorem foldl_ephemeral (ms : List (Manager α)) (s : Session α)
    (distinct : (ms.map Manager.name).Nodup) (fresh : ∀ m ∈ ms, m.name ∉ s.ephemeralDefs.keys) :
    (ms.foldl ephemeral s).ephemeralDefs.entries = s.ephemeralDefs.entries ++ ms.map Manager.entry ∧
      (ms.foldl ephemeral s).ephemerals = s.ephemerals := by
  induction ms generalizing s with
  | nil => simp
  | cons m rest ih =>
      rw [List.map_cons, List.nodup_cons] at distinct
      have added : (s.ephemeral m).ephemeralDefs.entries = s.ephemeralDefs.entries ++ [m.entry] :=
        PyDict.setEntries_fresh _ (fresh m (List.mem_cons_self m rest)) _
      obtain ⟨entries, same⟩ := ih (s.ephemeral m) distinct.2 fun m' member => by
        have other : m'.name ≠ m.name := fun same => distinct.1 (same ▸ List.mem_map_of_mem _ member)
        simpa [PyDict.keys, added, other, Manager.entry] using fresh m' (List.mem_cons_of_mem m member)
      exact ⟨by simp [entries, added], same⟩

/-- Registering managers with distinct names keeps each one's generator, in order. -/
theorem registered_entries {ms : List (Manager α)} (distinct : (ms.map Manager.name).Nodup) :
    (registered ms).ephemeralDefs.entries = ms.map Manager.entry ∧
      (registered ms).ephemerals = .empty := by
  simpa using foldl_ephemeral ms init distinct fun m _ => List.not_mem_nil m.name

end Session

/-- Two managers named `minio`, as `_build_s3_connection` makes for every S3 connection: the
second registration replaces the first one's generator, which the session then never runs, and
after `open()` the first manager's accessor returns the second manager's resource. -/
theorem same_name_managers_alias :
    (((Session.init : Session Nat).ephemeral ⟨"minio", [.yield 1]⟩).ephemeral
        ⟨"minio", [.yield 2]⟩).ephemeralDefs.entries = [("minio", AsyncGen.start [.yield 2])] ∧
      (Session.open (((Session.init : Session Nat).ephemeral ⟨"minio", [.yield 1]⟩).ephemeral
        ⟨"minio", [.yield 2]⟩)).1.access "minio" = .ok 2 :=
  ⟨rfl, rfl⟩

/-! ## What the loops do -/

@[simp]
theorem AsyncGen.live_mk (script : List (Step α)) (ran : Nat) (finished : Bool) :
    (AsyncGen.mk script ran finished).Live ↔ ran = 1 ∧ finished = false := Iff.rfl

@[simp]
theorem Manager.setupRaises_yield (name : String) (v : α) (tail : List (Step α)) :
    (Manager.mk name (.yield v :: tail)).setupRaises = false := rfl

theorem Manager.setupRaises_of_ends {m : Manager α} {v : α} (ends : m.script = [.yield v]) :
    m.setupRaises = false := by
  simp [Manager.setupRaises, ends]

@[simp]
theorem Manager.teardownRaises_ends (name : String) (v : α) :
    (Manager.mk name [.yield v]).teardownRaises = false := rfl

theorem AsyncGen.anext_start_yield (v : α) (tail : List (Step α)) :
    (AsyncGen.start (.yield v :: tail)).anext = (⟨.yield v :: tail, 1, false⟩, .ok v) := rfl

theorem AsyncGen.anext_live_end (v : α) :
    (⟨[.yield v], 1, false⟩ : AsyncGen α).anext = (⟨[.yield v], 2, true⟩, .error .stopAsyncIteration) :=
  rfl

theorem openLoop_cons_ok {name : String} {gen gen' : AsyncGen α} {value : α}
    (rest : List (String × AsyncGen α)) (ephemerals : PyDict String α)
    (yielded : gen.anext = (gen', .ok value)) :
    openLoop ((name, gen) :: rest) ephemerals =
      ((name, gen') :: (openLoop rest (ephemerals.set name value)).1,
        (openLoop rest (ephemerals.set name value)).2.1,
        (openLoop rest (ephemerals.set name value)).2.2) := by
  simp [openLoop, yielded]

/-- When every setup yields, `open()` leaves every generator at its first `yield` and records
what each yielded under its name. -/
theorem openLoop_yields (ms : List (Manager α)) (ephemerals : PyDict String α)
    (distinct : (ms.map Manager.name).Nodup) (yields : ∀ m ∈ ms, m.setupRaises = false) :
    (openLoop (ms.map Manager.entry) ephemerals).1 = ms.map Manager.liveEntry ∧
      (openLoop (ms.map Manager.entry) ephemerals).2.2 = none ∧
      (∀ m ∈ ms, (openLoop (ms.map Manager.entry) ephemerals).2.1.get? m.name = m.firstYield) ∧
      ∀ name ∉ ms.map Manager.name,
        (openLoop (ms.map Manager.entry) ephemerals).2.1.get? name = ephemerals.get? name := by
  induction ms generalizing ephemerals with
  | nil => simp [openLoop]
  | cons m rest ih =>
      rw [List.map_cons, List.nodup_cons] at distinct
      obtain ⟨name, script⟩ := m
      match script, yields _ (List.mem_cons_self _ _) with
      | .yield v :: tail, _ =>
          obtain ⟨entries, raised, recorded, others⟩ := ih (ephemerals.set name v) distinct.2
            fun m' member => yields m' (List.mem_cons_of_mem _ member)
          rw [List.map_cons, Manager.entry, openLoop_cons_ok _ _ (AsyncGen.anext_start_yield v tail)]
          refine ⟨by simp [entries, Manager.liveEntry], raised, fun m' member => ?_,
            fun name' absent => ?_⟩
          · rcases List.mem_cons.mp member with rfl | later
            · simpa [Manager.firstYield] using others name distinct.1
            · exact recorded m' later
          · simp only [List.map_cons, List.mem_cons, not_or] at absent
            simp [others name' absent.2, absent.1]

theorem closeLoop_cons_stop {name : String} {gen : AsyncGen α} {printed : List String}
    {value : α} {ephemerals' : PyDict String α} (rest : List (String × AsyncGen α))
    (ephemerals : PyDict String α) (passed : closeOutcome gen.anext.2 = .ok printed)
    (popped : ephemerals.pop? name = some (value, ephemerals')) :
    closeLoop ((name, gen) :: rest) ephemerals =
      ((name, gen.anext.1) :: (closeLoop rest ephemerals').1, (closeLoop rest ephemerals').2.1,
        printed ++ (closeLoop rest ephemerals').2.2.1, (closeLoop rest ephemerals').2.2.2) := by
  simp [closeLoop, passed, popped]

theorem closeLoop_cons_missing {name : String} {gen : AsyncGen α} {printed : List String}
    (rest : List (String × AsyncGen α)) (ephemerals : PyDict String α)
    (passed : closeOutcome gen.anext.2 = .ok printed) (missing : ephemerals.pop? name = none) :
    closeLoop ((name, gen) :: rest) ephemerals =
      ((name, gen.anext.1) :: rest, ephemerals, printed, some (.keyError name)) := by
  simp [closeLoop, passed, missing]

theorem AsyncGen.anext_finished {g : AsyncGen α} (ended : g.finished = true) :
    g.anext = (g, .error .stopAsyncIteration) := by
  simp [AsyncGen.anext, ended]

/-- A recorded resource can be popped. -/
theorem PyDict.pop?_of_get? {d : PyDict String α} {key : String} (recorded : (d.get? key).isSome) :
    ∃ value d', d.pop? key = some (value, d') := by
  obtain ⟨value, found⟩ := Option.isSome_iff_exists.mp recorded
  cases popped : d.pop? key with
  | none => simp [PyDict.pop?_eq_none_iff, found] at popped
  | some p => exact ⟨p.1, p.2, rfl⟩

/-- `close()` over generators at their first `yield` whose teardowns return, with their
resources recorded, runs every teardown and pops every resource. -/
theorem closeLoop_ends (ms : List (Manager α)) (ephemerals : PyDict String α)
    (distinct : (ms.map Manager.name).Nodup) (ends : ∀ m ∈ ms, ∃ v, m.script = [.yield v])
    (recorded : ∀ m ∈ ms, (ephemerals.get? m.name).isSome) :
    (closeLoop (ms.map Manager.liveEntry) ephemerals).1 = ms.map Manager.closedEntry ∧
      (closeLoop (ms.map Manager.liveEntry) ephemerals).2.2.2 = none ∧
      ∀ name, (closeLoop (ms.map Manager.liveEntry) ephemerals).2.1.get? name =
        if name ∈ ms.map Manager.name then none else ephemerals.get? name := by
  induction ms generalizing ephemerals with
  | nil => simp [closeLoop]
  | cons m rest ih =>
      rw [List.map_cons, List.nodup_cons] at distinct
      obtain ⟨name, script⟩ := m
      obtain ⟨v, rfl⟩ := ends _ (List.mem_cons_self _ _)
      obtain ⟨value, ephemerals', popped⟩ :=
        PyDict.pop?_of_get? (recorded _ (List.mem_cons_self _ _))
      have kept := (PyDict.pop?_eq_some popped).2
      obtain ⟨entries, raised, resources⟩ := ih ephemerals' distinct.2
        (fun m' member => ends m' (List.mem_cons_of_mem _ member))
        fun m' member => by
          have other : m'.name ≠ name := by
            rintro same
            exact distinct.1 (by simpa [same] using List.mem_map_of_mem Manager.name member)
          simpa [kept, other] using recorded m' (List.mem_cons_of_mem _ member)
      rw [List.map_cons, Manager.liveEntry,
        closeLoop_cons_stop _ _ (by rw [AsyncGen.anext_live_end]; rfl) popped]
      refine ⟨by simp [AsyncGen.anext_live_end, entries, Manager.closedEntry], by simpa using raised,
        fun name' => ?_⟩
      by_cases same : name' = name
      · subst same
        simp [resources, kept, distinct.1]
      · simp [resources, kept, same]

end PyDataTask.Ephemeral
