import PyDataTask.Declarative.Constructors

/-!
# The parser combinators of `declarative.py`

`parse_bool`, `make_enum_constructor`, `make_picker`, `make_list_parser`, `make_dict_parser`,
`make_typeddict_constructor`, `make_dispatcher` and `make_constructor` each return a function
from a loaded value to a result or a raised exception. Each is modelled as that function,
taking the parsers it composes as functions too. `Parser` is the syntax of the parsers the
combinators assemble over the leaves the builtin schemas use, and `Parser.parse` maps each to
its combinator.

The combinators' loops get their spec lemmas here: what an accepted input returns, and where
a raised exception comes from.
-/

namespace PyDataTask.Declarative

open Python

/-- An `Enum` subclass, by the names `getattr` finds on it: its members, and its other class
attributes (every class has some, `mro` among them). -/
structure EnumClass where
  name : String
  members : List String
  attributes : List String

/-- `f"{cls}"` of an enum class. -/
def EnumClass.pyRepr (cls : EnumClass) : String := "<enum \x27" ++ cls.name ++ "\x27>"

/-! ## The combinators -/

/-- `parse_bool`. -/
def parseBool : Yaml → Except PyExc Bool
  | .scalar (.bool value) => .ok value
  | .scalar (.int value) => .ok (value != 0)
  | .scalar (.str thing) =>
      if thing.toLower ∈ ["yes", "y", "1", "true"] then .ok true
      else if thing.toLower ∈ ["no", "n", "0", "false"] then .ok false
      else .error (.valueError ("Invalid bool value " ++ thing))
  | thing => .error (.valueError (thing.typeRepr ++ " is not valid as a bool"))

/-- `parse_bool` raises nothing but `ValueError`. -/
theorem parseBool_error {thing : Yaml} {e : PyExc} (raised : parseBool thing = .error e) :
    ∃ message, e = .valueError message := by
  unfold parseBool at raised
  split at raised <;> (try split_ifs at raised) <;> cases raised <;> exact ⟨_, rfl⟩

/-- The inner function of `make_enum_constructor(cls)`: `getattr(cls, thing)`. -/
def makeEnumConstructor (cls : EnumClass) : Yaml → Except PyExc Value
  | .scalar .null => .ok .none
  | .scalar (.str thing) =>
      if thing ∈ cls.members then .ok (.member thing)
      else if thing ∈ cls.attributes then .ok (.attribute thing)
      else .error (.attributeError thing)
  | _ => .error (.valueError (cls.pyRepr ++ " must be instantiated by a string"))

/-- `f"{options}"`, each option's object printed as `...`. -/
def optionsRepr (options : List String) : String :=
  "\x7b" ++ ", ".intercalate (options.map fun key => (Scalar.str key).pyRepr ++ ": ...") ++ "\x7d"

/-- The inner function of `make_picker(name, options)`, the options by their keys. -/
def makePicker (name : String) (options : List String) : Yaml → Except PyExc Value
  | .scalar .null => .ok .none
  | thing =>
      match options, thing with
      | [], _ => .error (.valueError ("Must provide at least one " ++ name))
      | first :: _, .scalar (.str key) =>
          if key ∈ options then .ok (.option key)
          else .error (.valueError (key ++ " is not a valid option for " ++ optionsRepr options ++
            ", you want e.g. " ++ first))
      | _ :: _, _ => .error (.valueError ("When picking a " ++ name ++ ", must provide a str"))

theorem makePicker_ok {name : String} {options : List String} {thing : Yaml} {result : Value}
    (picked : makePicker name options thing = .ok result) :
    result = .none ∨ ∃ key ∈ options, result = .option key := by
  unfold makePicker at picked
  split at picked
  · cases picked; exact .inl rfl
  · split at picked
    · cases picked
    · split_ifs at picked with member
      cases picked
      exact .inr ⟨_, member, rfl⟩
    · cases picked

theorem makePicker_error {name : String} {options : List String} {thing : Yaml} {e : PyExc}
    (raised : makePicker name options thing = .error e) : ∃ message, e = .valueError message := by
  unfold makePicker at raised
  split at raised
  · cases raised
  · split at raised <;> (try split_ifs at raised) <;> cases raised <;> exact ⟨_, rfl⟩

/-- The inner function of `make_list_parser(name, value_parser)`. -/
def makeListParser (name : String) (valueParser : Yaml → Except PyExc Value) :
    Yaml → Except PyExc Value
  | .list thing => (thing.mapM valueParser).map .list
  | _ => .error (.valueError (name ++ " must be a list"))

/-- The comprehension `{str(key): value_parser(value) for key, value in thing.items()}`. -/
def dictItems (valueParser : Yaml → Except PyExc Value) :
    List (Scalar × Yaml) → List (String × Value) → Except PyExc (List (String × Value))
  | [], out => .ok out
  | (key, value) :: rest, out => do
      let parsed ← valueParser value
      dictItems valueParser rest (PyDict.setEntries out key.pyStr parsed)

/-- The inner function of `make_dict_parser(name, str, value_parser)`; every call of
`make_dict_parser` passes `str` as the key parser. -/
def makeDictParser (name : String) (valueParser : Yaml → Except PyExc Value) :
    Yaml → Except PyExc Value
  | .dict thing => (dictItems valueParser thing []).map .dict
  | _ => .error (.valueError (name ++ " must be a dict"))

/-- The loop of `make_typeddict_constructor`: `schema key` is the schema's entry for a key of
the input, `none` where `k not in schema`. -/
def typeddictItems (name : String) (schema : Scalar → Option (String × (Yaml → Except PyExc Value))) :
    List (Scalar × Yaml) → List (String × Value) → Except PyExc (List (String × Value))
  | [], kwargs => .ok kwargs
  | (k, v) :: rest, kwargs =>
      match schema k with
      | none => .error (.valueError ("Invalid argument to " ++ name ++ ": " ++ k.pyStr))
      | some (key, parser) => do
          let parsed ← parser v
          typeddictItems name schema rest (PyDict.setEntries kwargs key parsed)

/-- The inner function of `make_typeddict_constructor(name, schema)`. -/
def makeTypeddictConstructor (name : String)
    (schema : Scalar → Option (String × (Yaml → Except PyExc Value))) : Yaml → Except PyExc Value
  | .dict thing => (typeddictItems name schema thing []).map .dict
  | _ => .error (.valueError (name ++ " must be followed by a mapping"))

/-- The inner function of `make_constructor(name, constructor, schema)`: `constructor` called
with what the typeddict parser of `schema` returns. -/
def makeConstructor (name : String) (constructor : List (String × Value) → Except PyExc Value)
    (schema : Scalar → Option (String × (Yaml → Except PyExc Value))) : Yaml → Except PyExc Value
  | .dict thing => typeddictItems name schema thing [] >>= constructor
  | _ => .error (.valueError (name ++ " must be followed by a mapping"))

/-- The inner function of `make_dispatcher(name, mapping)`. `mapping.get(key, None)` hashes the
key, so a list or a dict under `cls` raises `TypeError`. -/
def makeDispatcher (name : String) (mapping : Scalar → Option (Yaml → Except PyExc Value)) :
    Yaml → Except PyExc Value
  | .dict thing =>
      match thing.lookup (.str "cls") with
      | none => .error (.valueError ("You must provide the cls name for " ++ name))
      | some key =>
          let value := (thing.lookup (.str "args")).getD (.dict [])
          match key with
          | .scalar k =>
              match mapping k with
              | some constructor => constructor value
              | none => .error (.valueError (key.pyStr ++ " is not a valid member of " ++ name))
          | _ => .error .typeError
  | _ => .error (.valueError (name ++ " must be a mapping"))

section Dispatcher

variable {name : String} {mapping : Scalar → Option (Yaml → Except PyExc Value)}
  {thing : Yaml}

/-- A dispatcher returns what the constructor its `cls` names returns on `args`. -/
theorem makeDispatcher_ok {result : Value} (parsed : makeDispatcher name mapping thing = .ok result) :
    ∃ entries k constructor, thing = .dict entries ∧
      entries.lookup (.str "cls") = some (.scalar k) ∧ mapping k = some constructor ∧
        constructor ((entries.lookup (.str "args")).getD (.dict [])) = .ok result := by
  unfold makeDispatcher at parsed
  split at parsed
  · rename_i entries
    split at parsed
    · cases parsed
    · rename_i key found
      split at parsed
      · rename_i k
        split at parsed
        · exact ⟨entries, k, _, rfl, found, ‹_›, parsed⟩
        · cases parsed
      · cases parsed
  · cases parsed

/-- A dispatcher raises `ValueError`, `TypeError` for a `cls` that is not a scalar, or what the
constructor its `cls` names raises on `args`. -/
theorem makeDispatcher_error {e : PyExc} (raised : makeDispatcher name mapping thing = .error e) :
    (∃ message, e = .valueError message) ∨
      (∃ entries key, thing = .dict entries ∧ entries.lookup (.str "cls") = some key ∧
        (∀ k, key ≠ .scalar k) ∧ e = .typeError) ∨
      ∃ entries k constructor, thing = .dict entries ∧
        entries.lookup (.str "cls") = some (.scalar k) ∧ mapping k = some constructor ∧
          constructor ((entries.lookup (.str "args")).getD (.dict [])) = .error e := by
  unfold makeDispatcher at raised
  split at raised
  · rename_i entries
    split at raised
    · cases raised; exact .inl ⟨_, rfl⟩
    · rename_i key found
      split at raised
      · rename_i k
        split at raised
        · exact .inr (.inr ⟨entries, k, _, rfl, found, ‹_›, raised⟩)
        · cases raised; exact .inl ⟨_, rfl⟩
      · cases raised
        exact .inr (.inl ⟨entries, key, rfl, found, fun k same => by simp_all, rfl⟩)
  · cases raised; exact .inl ⟨_, rfl⟩

end Dispatcher

/-! ## Parsers -/

/-- A parser assembled by the combinators over the leaves of the builtin schemas. -/
inductive Parser where
  /-- The builtin `str`. -/
  | str
  /-- The builtin `int`. -/
  | int
  /-- `lambda x: x`. -/
  | identity
  /-- `lambda thing: None if thing is None else str(thing)`. -/
  | optStr
  /-- `parse_bool`. -/
  | bool
  | enum (cls : EnumClass)
  | picker (name : String) (options : List String)
  /-- The `stderr` field of a process task: `STDOUT` for the string `"STDOUT"`, else a pick. -/
  | stdoutOrPicker (name : String) (options : List String)
  | list (name : String) (item : Parser)
  | dict (name : String) (value : Parser)
  | typeddict (name : String) (schema : List (String × Parser))
  | dispatcher (name : String) (mapping : List (String × Parser))
  | construct (name : String) (constructor : Constructor) (schema : List (String × Parser))

mutual
/-- The function a parser denotes. -/
def Parser.parse : Parser → Yaml → Except PyExc Value
  | .str => fun thing => .ok (.str thing.pyStr)
  | .int => fun thing => thing.pyInt.map .int
  | .identity => fun thing => .ok (.loaded thing)
  | .optStr => fun
      | .scalar .null => .ok .none
      | thing => .ok (.str thing.pyStr)
  | .bool => fun thing => (parseBool thing).map .bool
  | .enum cls => makeEnumConstructor cls
  | .picker name options => makePicker name options
  | .stdoutOrPicker name options => fun
      | .scalar (.str "STDOUT") => .ok .stdout
      | thing => makePicker name options thing
  | .list name item => makeListParser name item.parse
  | .dict name value => makeDictParser name value.parse
  | .typeddict name schema => makeTypeddictConstructor name (Parser.field schema)
  | .dispatcher name mapping => makeDispatcher name fun k => (Parser.field mapping k).map Prod.snd
  | .construct name constructor schema => makeConstructor name constructor.call (Parser.field schema)

/-- A schema's entry for a key: `k in schema` compares `k` with each string key. -/
def Parser.field : List (String × Parser) → Scalar → Option (String × (Yaml → Except PyExc Value))
  | [], _ => none
  | (key, parser) :: rest, k => if k = .str key then some (key, parser.parse) else Parser.field rest k
end

/-- Induction over parsers, with a hypothesis for every parser a schema or a mapping holds. -/
theorem Parser.induction {motive : Parser → Prop} (str : motive .str) (int : motive .int)
    (identity : motive .identity) (optStr : motive .optStr) (bool : motive .bool)
    (enum : ∀ cls, motive (.enum cls)) (picker : ∀ name options, motive (.picker name options))
    (stdoutOrPicker : ∀ name options, motive (.stdoutOrPicker name options))
    (list : ∀ name item, motive item → motive (.list name item))
    (dict : ∀ name value, motive value → motive (.dict name value))
    (typeddict : ∀ name schema, (∀ entry ∈ schema, motive entry.2) → motive (.typeddict name schema))
    (dispatcher : ∀ name mapping, (∀ entry ∈ mapping, motive entry.2) →
      motive (.dispatcher name mapping))
    (construct : ∀ name constructor schema, (∀ entry ∈ schema, motive entry.2) →
      motive (.construct name constructor schema))
    (p : Parser) : motive p :=
  @Parser.rec motive (fun schema => ∀ entry ∈ schema, motive entry.2) (fun entry => motive entry.2)
    str int identity optStr bool enum picker stdoutOrPicker list dict typeddict dispatcher construct
    (fun _ member => absurd member (List.not_mem_nil _))
    (fun _ _ head tail entry member => (List.mem_cons.1 member).elim (· ▸ head) (tail entry))
    (fun _ _ holds => holds) p

/-- A schema's entry for a key is the first entry under that string. -/
theorem Parser.field_eq_some {schema : List (String × Parser)} {k : Scalar} {key : String}
    {f : Yaml → Except PyExc Value} (found : Parser.field schema k = some (key, f)) :
    k = .str key ∧ ∃ parser, schema.lookup key = some parser ∧ (key, parser) ∈ schema ∧
      f = parser.parse := by
  induction schema with
  | nil => cases found
  | cons entry rest ih =>
      obtain ⟨name, parser⟩ := entry
      unfold Parser.field at found
      split at found
      · cases found
        exact ⟨‹_›, parser, by simp, List.mem_cons_self _ _, rfl⟩
      · rename_i other
        obtain ⟨rfl, inner, lookup, member, rfl⟩ := ih found
        have differ : key ≠ name := fun same => other (same ▸ rfl)
        exact ⟨rfl, inner, by rw [PyDict.lookup_cons_eq, if_neg differ, lookup],
          List.mem_cons_of_mem _ member, rfl⟩

/-! ## What the loops return, and where their exceptions come from -/

section Loops

variable {valueParser : Yaml → Except PyExc Value}

theorem mapM_ok : ∀ {items : List Yaml} {out : List Value}, items.mapM valueParser = .ok out →
    ∀ r ∈ out, ∃ x ∈ items, valueParser x = .ok r
  | [], out, ran => by
      cases ran; intro r member; cases member
  | x :: rest, out, ran => by
      simp only [List.mapM_cons, bind_eq_ok] at ran
      obtain ⟨r, first, tail, later, returned⟩ := ran
      cases returned
      intro r' member
      rcases List.mem_cons.1 member with rfl | member
      · exact ⟨x, List.mem_cons_self _ _, first⟩
      · obtain ⟨y, mem, parsed⟩ := mapM_ok (by simpa using later) r' member
        exact ⟨y, List.mem_cons_of_mem _ mem, parsed⟩

theorem mapM_error {e : PyExc} : ∀ {items : List Yaml}, items.mapM valueParser = .error e →
    ∃ x ∈ items, valueParser x = .error e
  | [], ran => by cases ran
  | x :: rest, ran => by
      simp only [List.mapM_cons, bind_eq_error] at ran
      rcases ran with first | ⟨_, -, later⟩
      · exact ⟨x, List.mem_cons_self _ _, first⟩
      · rcases later with later | ⟨_, -, never⟩
        · obtain ⟨y, mem, parsed⟩ := mapM_error later
          exact ⟨y, List.mem_cons_of_mem _ mem, parsed⟩
        · cases never

theorem dictItems_ok : ∀ {thing : List (Scalar × Yaml)} {acc out : List (String × Value)},
    dictItems valueParser thing acc = .ok out →
      ∀ e ∈ out, e ∈ acc ∨ ∃ key value, (key, value) ∈ thing ∧ valueParser value = .ok e.2
  | [], acc, out, ran => by
      cases ran; exact fun e member => .inl member
  | (key, value) :: rest, acc, out, ran => by
      simp only [dictItems, bind_eq_ok] at ran
      obtain ⟨parsed, first, later⟩ := ran
      intro e member
      rcases dictItems_ok later e member with old | ⟨k, v, mem, ok⟩
      · rcases PyDict.mem_setEntries old with old | rfl
        · exact .inl old
        · exact .inr ⟨key, value, List.mem_cons_self _ _, first⟩
      · exact .inr ⟨k, v, List.mem_cons_of_mem _ mem, ok⟩

theorem dictItems_error {e : PyExc} : ∀ {thing : List (Scalar × Yaml)} {acc : List (String × Value)},
    dictItems valueParser thing acc = .error e →
      ∃ key value, (key, value) ∈ thing ∧ valueParser value = .error e
  | [], acc, ran => by cases ran
  | (key, value) :: rest, acc, ran => by
      simp only [dictItems, bind_eq_error] at ran
      rcases ran with first | ⟨_, -, later⟩
      · exact ⟨key, value, List.mem_cons_self _ _, first⟩
      · obtain ⟨k, v, mem, raised⟩ := dictItems_error later
        exact ⟨k, v, List.mem_cons_of_mem _ mem, raised⟩

/-- The comprehension stores `str(key)` once for each distinct string among the keys. -/
theorem dictItems_keys : ∀ {thing : List (Scalar × Yaml)} {acc out : List (String × Value)},
    dictItems valueParser thing acc = .ok out → (acc.map Prod.fst).Nodup →
      (out.map Prod.fst).Nodup ∧
        ∀ k, k ∈ out.map Prod.fst ↔ k ∈ acc.map Prod.fst ∨ ∃ e ∈ thing, e.1.pyStr = k
  | [], acc, out, ran, nodup => by cases ran; simp [nodup]
  | (key, value) :: rest, acc, out, ran, nodup => by
      simp only [dictItems, bind_eq_ok] at ran
      obtain ⟨parsed, -, later⟩ := ran
      obtain ⟨distinct, keys⟩ := dictItems_keys later (PyDict.nodup_setEntries nodup _ parsed)
      refine ⟨distinct, fun k => ?_⟩
      rw [keys, PyDict.mem_keys_setEntries, List.exists_mem_cons_iff]
      exact or_assoc

/-- A string no key prints to keeps what the accumulator held under it. -/
theorem dictItems_lookup_other : ∀ {thing : List (Scalar × Yaml)} {acc out : List (String × Value)},
    dictItems valueParser thing acc = .ok out → ∀ k, (∀ e ∈ thing, e.1.pyStr ≠ k) →
      out.lookup k = acc.lookup k
  | [], acc, out, ran, _, _ => by cases ran; rfl
  | (key, value) :: rest, acc, out, ran, k, other => by
      simp only [dictItems, bind_eq_ok] at ran
      obtain ⟨parsed, -, later⟩ := ran
      rw [dictItems_lookup_other later k fun e member => other e (List.mem_cons_of_mem _ member),
        PyDict.get?_setEntries, if_neg (Ne.symm (other _ (List.mem_cons_self _ _)))]

/-- `str(key)` holds the value parsed from the last key that prints to the same string. -/
theorem dictItems_lookup_last {key : Scalar} {y : Yaml} {post : List (Scalar × Yaml)}
    (last : ∀ e ∈ post, e.1.pyStr ≠ key.pyStr) : ∀ {pre : List (Scalar × Yaml)}
    {acc out : List (String × Value)}, dictItems valueParser (pre ++ (key, y) :: post) acc = .ok out →
      ∃ v, valueParser y = .ok v ∧ out.lookup key.pyStr = some v
  | [], acc, out, ran => by
      simp only [List.nil_append, dictItems, bind_eq_ok] at ran
      obtain ⟨parsed, first, later⟩ := ran
      refine ⟨parsed, first, ?_⟩
      rw [dictItems_lookup_other later _ last, PyDict.get?_setEntries, if_pos rfl]
  | (k, v) :: pre, acc, out, ran => by
      simp only [List.cons_append, dictItems, bind_eq_ok] at ran
      obtain ⟨_, -, later⟩ := ran
      exact dictItems_lookup_last last later

variable {name : String} {schema : Scalar → Option (String × (Yaml → Except PyExc Value))}

theorem typeddictItems_ok : ∀ {thing : List (Scalar × Yaml)} {acc out : List (String × Value)},
    typeddictItems name schema thing acc = .ok out →
      ∀ e ∈ out, e ∈ acc ∨ ∃ k v parser, schema k = some (e.1, parser) ∧ parser v = .ok e.2
  | [], acc, out, ran => by
      cases ran; exact fun e member => .inl member
  | (k, v) :: rest, acc, out, ran => by
      unfold typeddictItems at ran
      split at ran
      · cases ran
      · rename_i key parser found
        obtain ⟨parsed, first, later⟩ := bind_eq_ok.1 ran
        intro e member
        rcases typeddictItems_ok later e member with old | other
        · rcases PyDict.mem_setEntries old with old | rfl
          · exact .inl old
          · exact .inr ⟨k, v, parser, found, first⟩
        · exact .inr other

theorem typeddictItems_error {e : PyExc} : ∀ {thing : List (Scalar × Yaml)} {acc : List (String × Value)},
    typeddictItems name schema thing acc = .error e →
      (∃ message, e = .valueError message) ∨
        ∃ k v key parser, (k, v) ∈ thing ∧ schema k = some (key, parser) ∧ parser v = .error e
  | [], acc, ran => by cases ran
  | (k, v) :: rest, acc, ran => by
      unfold typeddictItems at ran
      split at ran
      · cases ran; exact .inl ⟨_, rfl⟩
      · rename_i key parser found
        rcases bind_eq_error.1 ran with first | ⟨_, -, later⟩
        · exact .inr ⟨k, v, key, parser, List.mem_cons_self _ _, found, first⟩
        · rcases typeddictItems_error later with invalid | ⟨k', v', key', parser', mem, found', raised⟩
          · exact .inl invalid
          · exact .inr ⟨k', v', key', parser', List.mem_cons_of_mem _ mem, found', raised⟩

/-- With the keys of the input distinct and each schema entry found under its own string, the
loop stores every key of the input once, in order. -/
theorem typeddictItems_keys (own : ∀ k key parser, schema k = some (key, parser) → k = .str key) :
    ∀ {thing : List (Scalar × Yaml)} {acc out : List (String × Value)},
      typeddictItems name schema thing acc = .ok out → (thing.map Prod.fst).Nodup →
      (∀ e ∈ acc, Scalar.str e.1 ∉ thing.map Prod.fst) →
        out.map (fun e => Scalar.str e.1) = acc.map (fun e => Scalar.str e.1) ++ thing.map Prod.fst
  | [], acc, out, ran, _, _ => by cases ran; simp
  | (k, v) :: rest, acc, out, ran, distinct, fresh => by
      unfold typeddictItems at ran
      split at ran
      · cases ran
      · rename_i key parser found
        obtain ⟨parsed, -, later⟩ := bind_eq_ok.1 ran
        cases own k key parser found
        rw [List.map_cons, List.nodup_cons] at distinct
        have absent : key ∉ acc.map Prod.fst := fun member => by
          obtain ⟨e, listed, same⟩ := List.mem_map.1 member
          exact fresh e listed (by rw [same]; exact List.mem_cons_self _ _)
        rw [PyDict.setEntries_fresh acc absent] at later
        rw [typeddictItems_keys own later distinct.2 fun e member => ?_]
        · simp
        · rcases List.mem_append.1 member with old | new
          · exact fun inRest => fresh e old (List.mem_cons_of_mem _ inRest)
          · rw [List.mem_singleton.1 new]; exact distinct.1

end Loops

end PyDataTask.Declarative
