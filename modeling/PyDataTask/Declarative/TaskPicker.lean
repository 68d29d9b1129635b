import PyDataTask.Declarative.Schemas

/-!
# The constructor of `build_task_picker`

`constructor(name, thing)` mutates what it is given: it pops `executable` from the task
specification, updates `executable["args"]` with the remaining task-level keys, sets its
`name`, and pops its `links`. A loaded YAML document shares one mapping between every place
an alias names it, so these writes are seen by every specification that shares the mapping.

The document is a heap of mutable lists and dicts; a value is a scalar or the address of an
object. The parsers only read, so what `links_constructor` and the dispatcher receive is the
loaded value they would see, read off the heap when they are called.
-/

namespace PyDataTask.Declarative

open Python

/-- A Python value in a loaded document: a scalar, or the address of a list or a dict. -/
inductive Ref where
  | scalar (value : Scalar)
  | obj (address : Nat)

/-- A mutable container. -/
inductive Obj where
  | list (items : List Ref)
  | dict (entries : List (Scalar × Ref))

/-- The objects of a loaded document, by address. -/
structure Heap where
  objects : List Obj

namespace Heap

def get? (h : Heap) (address : Nat) : Option Obj := h.objects.get? address

def set (h : Heap) (address : Nat) (o : Obj) : Heap := ⟨h.objects.set address o⟩

/-- The value at `r` as a loaded value, read to depth `fuel`. -/
def load (h : Heap) : Nat → Ref → Yaml
  | _, .scalar value => .scalar value
  | 0, .obj _ => .dict []
  | fuel + 1, .obj address =>
      match h.get? address with
      | some (.list items) => .list (items.map (h.load fuel))
      | some (.dict entries) => .dict (entries.map fun entry => (entry.1, h.load fuel entry.2))
      | none => .scalar .null

/-- The value at `r` as the parsers see it. A document without cycles nests no deeper than
it has objects. -/
def snapshot (h : Heap) (r : Ref) : Yaml := h.load (h.objects.length + 1) r

/-- `bool(r)`. -/
def truthy (h : Heap) : Ref → Bool
  | .scalar .null => false
  | .scalar (.bool value) => value
  | .scalar (.int value) => value != 0
  | .scalar (.float (.finite _ text)) => text != "0.0" && text != "-0.0"
  | .scalar (.float _) => true
  | .scalar (.str value) => !value.isEmpty
  | .obj address =>
      match h.get? address with
      | some (.list items) => !items.isEmpty
      | some (.dict entries) => !entries.isEmpty
      | none => false

/-- The dict `r` refers to, for a call of its method `method`: a list has `pop`, which raises
`TypeError` on a string index, and no `update`; a scalar has neither. -/
def dictFor (h : Heap) (method : String) : Ref → Except PyExc (Nat × List (Scalar × Ref))
  | .obj address =>
      match h.get? address with
      | some (.dict entries) => .ok (address, entries)
      | some (.list _) => if method = "pop" then .error .typeError else .error (.attributeError method)
      | none => .error (.attributeError method)
  | .scalar _ => .error (.attributeError method)

/-- `r[key]`: `KeyError` for an absent key, `TypeError` for a value that is not a dict. -/
def subscript (h : Heap) (r : Ref) (key : String) : Except PyExc Ref := do
  let (_, entries) ← h.dictFor "__getitem__" r |>.mapError fun _ => .typeError
  match entries.lookup (.str key) with
  | some value => .ok value
  | none => .error (.keyError key)

/-- `r[key] = value`. -/
def setItem (h : Heap) (r : Ref) (key : String) (value : Ref) : Except PyExc Heap := do
  let (address, entries) ← h.dictFor "__setitem__" r |>.mapError fun _ => .typeError
  pure (h.set address (.dict (PyDict.setEntries entries (.str key) value)))

theorem get?_set (h : Heap) (a b : Nat) (o : Obj) :
    (h.set a o).get? b = if a = b then (if a < h.objects.length then some o else none)
      else h.get? b := by
  simp [get?, set, List.getElem?_set]

theorem dictFor_ok {h : Heap} {method : String} {r : Ref} {a : Nat}
    {entries : List (Scalar × Ref)} (found : h.dictFor method r = .ok (a, entries)) :
    r = .obj a ∧ h.get? a = some (.dict entries) := by
  cases r with
  | scalar => cases found
  | obj b =>
      simp only [dictFor] at found
      split at found
      · cases found; exact ⟨rfl, ‹_›⟩
      · split_ifs at found
      · cases found

/-- `r[key]` returns `v` exactly when `r` is the address of a dict that holds `v` under `key`. -/
theorem subscript_eq_ok {h : Heap} {r : Ref} {key : String} {v : Ref} :
    h.subscript r key = .ok v ↔ ∃ a entries,
      r = .obj a ∧ h.get? a = some (.dict entries) ∧ entries.lookup (.str key) = some v := by
  constructor
  · intro found
    obtain ⟨⟨a, entries⟩, read, rest⟩ := bind_eq_ok.1 found
    obtain ⟨rfl, object⟩ := dictFor_ok (mapError_eq_ok.1 read)
    refine ⟨a, entries, rfl, object, ?_⟩
    dsimp only at rest
    split at rest <;> cases rest
    assumption
  · rintro ⟨a, entries, rfl, object, lookup⟩
    simp [subscript, dictFor, object, lookup, Except.mapError, bind, Except.bind]

end Heap

/-- `dict.update`: each entry of `source` in turn assigned into `target`. -/
def updateEntries (target source : List (Scalar × Ref)) : List (Scalar × Ref) :=
  source.foldl (fun acc entry => PyDict.setEntries acc entry.1 entry.2) target

/-! ## `constructor`, one statement at a time -/

/-- `executable = thing.pop("executable")`: the executable, and the specification's entries
left after the pop. -/
def popExecutable (thing : Ref) (h : Heap) : Except PyExc ((Ref × List (Scalar × Ref)) × Heap) := do
  let (spec, entries) ← h.dictFor "pop" thing
  match entries.lookup (.str "executable") with
  | some executable =>
      let entries := entries.filter (·.1 ≠ .str "executable")
      pure ((executable, entries), h.set spec (.dict entries))
  | none => throw (.keyError "executable")

/-- `executable["args"].update(thing)`, with the entries `thing` has left. -/
def updateArgs (executable : Ref) (entries : List (Scalar × Ref)) (h : Heap) : Except PyExc Heap := do
  let (args, current) ← h.dictFor "update" (← h.subscript executable "args")
  pure (h.set args (.dict (updateEntries current entries)))

/-- `executable["args"]["name"] = name`. -/
def setName (executable : Ref) (name : String) (h : Heap) : Except PyExc Heap := do
  h.setItem (← h.subscript executable "args") "name" (.scalar (.str name))

/-- `executable["args"].pop("links", {}) or {}`: what `links_constructor` receives. -/
def popLinks (executable : Ref) (h : Heap) : Except PyExc (Yaml × Heap) := do
  let (args, current) ← h.dictFor "pop" (← h.subscript executable "args")
  let h := h.set args (.dict (current.filter (·.1 ≠ .str "links")))
  let links := match current.lookup (.str "links") with
    | some links => if h.truthy links then h.snapshot links else .dict []
    | none => .dict []
  pure (links, h)

/-! ### What each statement writes -/

theorem updateArgs_ok {executable : Ref} {entries : List (Scalar × Ref)} {h h' : Heap}
    (ran : updateArgs executable entries h = .ok h') : ∃ a current,
      h.subscript executable "args" = .ok (.obj a) ∧ h.get? a = some (.dict current) ∧
        h' = h.set a (.dict (updateEntries current entries)) := by
  obtain ⟨args, found, rest⟩ := bind_eq_ok.1 ran
  obtain ⟨⟨a, current⟩, read, rest⟩ := bind_eq_ok.1 rest
  cases rest
  obtain ⟨rfl, object⟩ := Heap.dictFor_ok read
  exact ⟨a, current, found, object, rfl⟩

theorem setName_ok {executable : Ref} {name : String} {h h' : Heap}
    (ran : setName executable name h = .ok h') : ∃ a current,
      h.subscript executable "args" = .ok (.obj a) ∧ h.get? a = some (.dict current) ∧
        h' = h.set a (.dict (PyDict.setEntries current (.str "name") (.scalar (.str name)))) := by
  obtain ⟨args, found, rest⟩ := bind_eq_ok.1 ran
  obtain ⟨⟨a, current⟩, read, rest⟩ := bind_eq_ok.1 rest
  cases rest
  obtain ⟨rfl, object⟩ := Heap.dictFor_ok (mapError_eq_ok.1 read)
  exact ⟨a, current, found, object, rfl⟩

theorem popLinks_ok {executable : Ref} {h h' : Heap} {links : Yaml}
    (ran : popLinks executable h = .ok (links, h')) : ∃ a current,
      h.subscript executable "args" = .ok (.obj a) ∧ h.get? a = some (.dict current) ∧
        h' = h.set a (.dict (current.filter (·.1 ≠ .str "links"))) := by
  obtain ⟨args, found, rest⟩ := bind_eq_ok.1 ran
  obtain ⟨⟨a, current⟩, read, rest⟩ := bind_eq_ok.1 rest
  cases rest
  obtain ⟨rfl, object⟩ := Heap.dictFor_ok read
  exact ⟨a, current, found, object, rfl⟩

/-- What `constructor` hands to `links_constructor` and to the dispatcher, and the document it
leaves. -/
structure Built where
  linksArgument : Yaml
  executable : Yaml
  heap : Heap

/-- `constructor(name, thing)` of `build_task_picker` up to the two parsers it calls: what it
hands them, or the exception a statement raises, with the document as it leaves it. A statement
that raises does so before it writes, and the writes of the statements before it stay. -/
def constructorRun (name : String) (thing : Ref) (h : Heap) : Except PyExc Built × Heap :=
  match popExecutable thing h with
  | .error e => (.error e, h)
  | .ok ((executable, entries), h) =>
      match updateArgs executable entries h with
      | .error e => (.error e, h)
      | .ok h =>
          match setName executable name h with
          | .error e => (.error e, h)
          | .ok h =>
              match popLinks executable h with
              | .error e => (.error e, h)
              | .ok (linksArgument, h) => (.ok ⟨linksArgument, h.snapshot executable, h⟩, h)

/-- What `constructor(name, thing)` hands to its parsers, or raises. -/
def constructor (name : String) (thing : Ref) (h : Heap) : Except PyExc Built :=
  (constructorRun name thing h).1

/-- `constructor` as the sequence of its statements. -/
theorem constructor_eq_bind (name : String) (thing : Ref) (h : Heap) :
    constructor name thing h = (do
      let ((executable, entries), h) ← popExecutable thing h
      let h ← updateArgs executable entries h
      let h ← setName executable name h
      let (linksArgument, h) ← popLinks executable h
      pure ⟨linksArgument, h.snapshot executable, h⟩) := by
  unfold constructor constructorRun
  rcases popExecutable thing h with _ | ⟨⟨executable, entries⟩, h⟩
  · rfl
  simp only [bind, Except.bind]
  rcases updateArgs executable entries h with _ | h
  · rfl
  simp only [bind, Except.bind]
  rcases setName executable name h with _ | h
  · rfl
  simp only [bind, Except.bind]
  rcases popLinks executable h with _ | ⟨linksArgument, h⟩ <;> rfl

/-- The whole of `constructor(name, thing)` but the `task.link` calls: the task the dispatcher
returns, the links it is then linked with, and the document left. -/
def buildTask (repos executors quotas : List String) (linkKind : EnumClass) (name : String)
    (thing : Ref) (h : Heap) : Except PyExc (Value × Value × Heap) := do
  let built ← constructor name thing h
  let links ← (linksConstructor repos linkKind).parse built.linksArgument
  let task ← (taskDispatcher repos executors quotas linkKind).parse built.executable
  pure (task, links, built.heap)

/-! ## Two tasks that share an executable

```yaml
base: &exe
  cls: Process
  args: {template: run, links: {input: {repo: inputs}}}
first: {executable: *exe, done: results}
second: {executable: *exe}
```
-/

/-- The specifications of the document above: `first` at address 4, `second` at 5. -/
def sharedExecutable : Heap :=
  ⟨[.dict [(.str "cls", .scalar (.str "Process")), (.str "args", .obj 1)],
    .dict [(.str "template", .scalar (.str "run")), (.str "links", .obj 2)],
    .dict [(.str "input", .obj 3)],
    .dict [(.str "repo", .scalar (.str "inputs"))],
    .dict [(.str "executable", .obj 0), (.str "done", .scalar (.str "results"))],
    .dict [(.str "executable", .obj 0)]]⟩

/-- Built after `first`, the task `second` is dispatched with the `done` of `first`, and
without the links that, built alone, it gets from the shared `args`. -/
theorem second_task_sees_first_task_keys (linkKind : EnumClass) :
    (∃ h₁ h₂,
      buildTask ["inputs", "results"] [] [] linkKind "first" (.obj 4) sharedExecutable =
        .ok (.dict [("template", .str "run"), ("done", .option "results"), ("name", .str "first")],
          .dict [("input", .dict [("repo", .option "inputs")])], h₁) ∧
      buildTask ["inputs", "results"] [] [] linkKind "second" (.obj 5) h₁ =
        .ok (.dict [("template", .str "run"), ("done", .option "results"), ("name", .str "second")],
          .dict [], h₂)) ∧
    ∃ h, buildTask ["inputs", "results"] [] [] linkKind "second" (.obj 5) sharedExecutable =
      .ok (.dict [("template", .str "run"), ("name", .str "second")],
        .dict [("input", .dict [("repo", .option "inputs")])], h) :=
  ⟨⟨_, _, rfl, rfl⟩, _, rfl⟩

end PyDataTask.Declarative
