import Mathlib.Data.List.Nodup
import Mathlib.Algebra.Ring.Int.Defs

/-!
# Python exceptions and dictionaries

The repository's three modules raise a few Python exceptions and keep their state in
dictionaries. A dictionary is an association list without repeated keys, in insertion order:
assigning to a key that is present keeps its position, a new key goes last, and `pop` of an
absent key raises `KeyError`.
-/

namespace PyDataTask.Python

/-- The Python exceptions that the modelled code raises or lets through. -/
inductive PyExc where
  | exception (message : String)
  | valueError (message : String)
  | typeError
  | keyError (key : String)
  | attributeError (name : String)
  | overflowError
  | assertionError
  | runtimeError
  | stopAsyncIteration
  /-- `kubernetes_asyncio.client.ApiException`, by its `reason`. -/
  | apiException (reason : String)
  /-- An exception raised by code outside the repository (a generator body, a `with` body). -/
  | raised (label : String)
  deriving DecidableEq, Repr

/-- Outcomes compare as values, so that the states that hold them do. -/
instance Except.decidableEq {ε α : Type} [DecidableEq ε] [DecidableEq α] :
    DecidableEq (Except ε α)
  | .error e, .error e' =>
      if same : e = e' then isTrue (same ▸ rfl) else isFalse (by rintro ⟨⟩; exact same rfl)
  | .ok a, .ok a' =>
      if same : a = a' then isTrue (same ▸ rfl) else isFalse (by rintro ⟨⟩; exact same rfl)
  | .error _, .ok _ => isFalse nofun
  | .ok _, .error _ => isFalse nofun

/-- A Python `dict`: its entries in insertion order, each key once. -/
structure PyDict (κ β : Type) where
  entries : List (κ × β)
  nodup : (entries.map Prod.fst).Nodup

namespace PyDict

variable {κ β : Type} [DecidableEq κ]

def empty : PyDict κ β := ⟨[], List.nodup_nil⟩

def keys (d : PyDict κ β) : List κ := d.entries.map Prod.fst

/-- `d.get(key)`, `None` for an absent key. -/
def get? (d : PyDict κ β) (key : κ) : Option β := d.entries.lookup key

def setEntries : List (κ × β) → κ → β → List (κ × β)
  | [], key, value => [(key, value)]
  | (k, v) :: rest, key, value =>
      if k = key then (key, value) :: rest else (k, v) :: setEntries rest key value

theorem keys_setEntries (entries : List (κ × β)) (key : κ) (value : β) :
    (setEntries entries key value).map Prod.fst =
      if key ∈ entries.map Prod.fst then entries.map Prod.fst
      else entries.map Prod.fst ++ [key] := by
  induction entries with
  | nil => rfl
  | cons entry rest ih =>
      obtain ⟨k, v⟩ := entry
      by_cases same : k = key
      · subst same; simp [setEntries]
      · by_cases present : key ∈ rest.map Prod.fst <;>
          simp [setEntries, same, ih, present, Ne.symm same]

theorem nodup_setEntries {entries : List (κ × β)} (nodup : (entries.map Prod.fst).Nodup)
    (key : κ) (value : β) : ((setEntries entries key value).map Prod.fst).Nodup := by
  rw [keys_setEntries]
  split
  · exact nodup
  · exact List.nodup_append.2 ⟨nodup, List.nodup_singleton key, List.disjoint_singleton.2 ‹_›⟩

theorem mem_keys_setEntries (entries : List (κ × β)) (key k : κ) (value : β) :
    k ∈ (setEntries entries key value).map Prod.fst ↔ k ∈ entries.map Prod.fst ∨ key = k := by
  rw [keys_setEntries]
  split
  · exact ⟨.inl, fun member => member.elim id fun same => same ▸ ‹_›⟩
  · simp [eq_comm]

theorem setEntries_fresh (entries : List (κ × β)) {key : κ} (fresh : key ∉ entries.map Prod.fst)
    (value : β) : setEntries entries key value = entries ++ [(key, value)] := by
  induction entries with
  | nil => rfl
  | cons entry rest ih =>
      obtain ⟨k, v⟩ := entry
      simp only [List.map_cons, List.mem_cons, not_or] at fresh
      simp [setEntries, Ne.symm fresh.1, ih fresh.2]

theorem mem_setEntries {entries : List (κ × β)} {key : κ} {value : β} {e : κ × β}
    (member : e ∈ setEntries entries key value) : e ∈ entries ∨ e = (key, value) := by
  induction entries with
  | nil => simpa [setEntries] using member
  | cons entry rest ih =>
      unfold setEntries at member
      split at member
      · rcases List.mem_cons.1 member with same | later
        · exact .inr same
        · exact .inl (List.mem_cons_of_mem _ later)
      · rcases List.mem_cons.1 member with same | later
        · exact .inl (same ▸ List.mem_cons_self _ _)
        · exact (ih later).imp_left (List.mem_cons_of_mem _)

/-- `d[key] = value`. -/
def set (d : PyDict κ β) (key : κ) (value : β) : PyDict κ β :=
  ⟨setEntries d.entries key value, nodup_setEntries d.nodup key value⟩

/-- `d.pop(key)`: the value and the rest of the dictionary, `none` where Python raises
`KeyError`. -/
def pop? (d : PyDict κ β) (key : κ) : Option (β × PyDict κ β) :=
  (d.get? key).map fun value =>
    (value, ⟨d.entries.filter (fun e => e.1 ≠ key),
      d.nodup.sublist ((List.filter_sublist _).map _)⟩)

/-- `d.update(other)`. -/
def update (d other : PyDict κ β) : PyDict κ β :=
  other.entries.foldl (fun acc e => acc.set e.1 e.2) d

theorem lookup_cons_eq (k j : κ) (v : β) (rest : List (κ × β)) :
    ((k, v) :: rest).lookup j = if j = k then some v else rest.lookup j := by
  by_cases h : j = k
  · subst h; simp
  · simp [List.lookup_cons, beq_false_of_ne h, h]

theorem mem_of_lookup {entries : List (κ × β)} {key : κ} {value : β}
    (found : entries.lookup key = some value) : (key, value) ∈ entries := by
  induction entries with
  | nil => cases found
  | cons entry rest ih =>
      obtain ⟨k, v⟩ := entry
      rw [lookup_cons_eq] at found
      split_ifs at found with same
      · cases found; rw [same]; exact List.mem_cons_self _ _
      · exact List.mem_cons_of_mem _ (ih found)

@[simp]
theorem get?_empty (key : κ) : (empty : PyDict κ β).get? key = none := rfl

theorem get?_setEntries (entries : List (κ × β)) (key j : κ) (value : β) :
    (setEntries entries key value).lookup j =
      if j = key then some value else entries.lookup j := by
  induction entries with
  | nil => simp [setEntries, lookup_cons_eq]
  | cons entry rest ih =>
      obtain ⟨k, v⟩ := entry
      by_cases same : k = key
      · subst same; by_cases h : j = k <;> simp [setEntries, lookup_cons_eq, h]
      · by_cases h : j = k
        · subst h; simp [setEntries, lookup_cons_eq, same, ih]
        · simp [setEntries, lookup_cons_eq, same, h, ih]

@[simp]
theorem get?_set (d : PyDict κ β) (key j : κ) (value : β) :
    (d.set key value).get? j = if j = key then some value else d.get? j :=
  get?_setEntries d.entries key j value

theorem get?_filter (entries : List (κ × β)) (key j : κ) :
    (entries.filter (fun e => e.1 ≠ key)).lookup j =
      if j = key then none else entries.lookup j := by
  induction entries with
  | nil => simp
  | cons entry rest ih =>
      obtain ⟨k, v⟩ := entry
      by_cases same : k = key
      · subst same
        by_cases h : j = k
        · subst h; simpa [List.filter_cons] using ih
        · simpa [List.filter_cons, lookup_cons_eq, h] using ih
      · by_cases h : j = k
        · subst h; simp [List.filter_cons, lookup_cons_eq, same]
        · simp_all [List.filter_cons, lookup_cons_eq]

theorem lookup_eq_some_iff {entries : List (κ × β)} (nodup : (entries.map Prod.fst).Nodup)
    (key : κ) (value : β) : entries.lookup key = some value ↔ (key, value) ∈ entries := by
  induction entries with
  | nil => simp
  | cons entry rest ih =>
      obtain ⟨k, v⟩ := entry
      rw [List.map_cons, List.nodup_cons] at nodup
      rw [lookup_cons_eq, List.mem_cons]
      by_cases same : key = k
      · subst same
        have absent : (key, value) ∉ rest := fun member =>
          nodup.1 (by simpa using List.mem_map_of_mem Prod.fst member)
        simp [absent, eq_comm]
      · simp [same, ih nodup.2]

/-- With its keys unique, a dictionary holds `value` under `key` exactly when that entry is
among its entries. -/
theorem get?_eq_some_iff (d : PyDict κ β) (key : κ) (value : β) :
    d.get? key = some value ↔ (key, value) ∈ d.entries :=
  lookup_eq_some_iff d.nodup key value

theorem pop?_eq_none_iff (d : PyDict κ β) (key : κ) :
    d.pop? key = none ↔ d.get? key = none := by
  simp [pop?]

theorem pop?_eq_some {d d' : PyDict κ β} {key : κ} {value : β}
    (popped : d.pop? key = some (value, d')) :
    d.get? key = some value ∧
      ∀ j, d'.get? j = if j = key then none else d.get? j := by
  simp only [pop?, Option.map_eq_some'] at popped
  obtain ⟨found, lookup, same⟩ := popped
  cases same
  exact ⟨lookup, fun j => get?_filter d.entries key j⟩

end PyDict

/-! ## Computations that may raise

A Python call that may raise is a function into `Except PyExc`; a statement after it runs
through `>>=`. These lemmas take such a sequence apart. -/

section Except

variable {ε α β : Type} {x : Except ε α} {f : α → Except ε β}

theorem bind_eq_ok {b : β} : x >>= f = .ok b ↔ ∃ a, x = .ok a ∧ f a = .ok b := by
  cases x <;> simp [bind, Except.bind]

theorem bind_eq_error {e : ε} :
    x >>= f = .error e ↔ x = .error e ∨ ∃ a, x = .ok a ∧ f a = .error e := by
  cases x <;> simp [bind, Except.bind]

theorem map_eq_ok {g : α → β} {b : β} : x.map g = .ok b ↔ ∃ a, x = .ok a ∧ g a = b := by
  cases x <;> simp [Except.map]

theorem map_eq_error {g : α → β} {e : ε} : x.map g = .error e ↔ x = .error e := by
  cases x <;> simp [Except.map]

theorem mapError_eq_ok {g : ε → ε} {a : α} : x.mapError g = .ok a ↔ x = .ok a := by
  cases x <;> simp [Except.mapError]

end Except

end PyDataTask.Python
