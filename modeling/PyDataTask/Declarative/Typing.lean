import PyDataTask.Declarative.Schemas

/-!
# What a parser returns, and which exceptions escape it

Parsing a loaded value either returns a value of the parser's result type or raises. This holds
of the parsers the combinators assemble without `make_enum_constructor` and `make_constructor`,
the two nodes whose result a class decides: `getattr(cls, thing)` finds any attribute of the
class, and a constructor is called with what its typeddict parser returns. A raised exception
is a `ValueError` unless some call the parse makes, of a leaf or of a dispatcher, is one of
those listed in `Escapes`: `int` on `None`, a container or an infinite float, and a dispatcher
whose `cls` is not hashable.
-/

namespace PyDataTask.Declarative

open Python

/-! ## The nodes of a parser -/

mutual
/-- Whether `test` holds at some node of the parser. -/
def Parser.any (test : Parser → Bool) : Parser → Bool
  | .list name item => test (.list name item) || item.any test
  | .dict name value => test (.dict name value) || value.any test
  | .typeddict name schema => test (.typeddict name schema) || Parser.anyOf test schema
  | .dispatcher name mapping => test (.dispatcher name mapping) || Parser.anyOf test mapping
  | .construct name constructor schema =>
      test (.construct name constructor schema) || Parser.anyOf test schema
  | p => test p

/-- Whether `test` holds at some node of a parser of the schema. -/
def Parser.anyOf (test : Parser → Bool) : List (String × Parser) → Bool
  | [] => false
  | (_, p) :: rest => p.any test || Parser.anyOf test rest
end

/-- `make_enum_constructor` and `make_constructor`: a node whose result a class decides. -/
def Parser.callsClass : Parser → Bool
  | .enum _ | .construct .. => true
  | _ => false

/-- An `int` leaf or a dispatcher: a node whose own call can raise something other than a
`ValueError`. -/
def Parser.escapes : Parser → Bool
  | .int | .dispatcher .. => true
  | _ => false

section Nodes

variable {test : Parser → Bool}

theorem Parser.any_self {p : Parser} (holds : test p = true) : p.any test = true := by
  cases p <;> simp [Parser.any, holds]

theorem Parser.anyOf_eq_false {schema : List (String × Parser)} :
    Parser.anyOf test schema = false ↔ ∀ entry ∈ schema, entry.2.any test = false := by
  induction schema with
  | nil => simp [Parser.anyOf]
  | cons entry rest ih => simp [Parser.anyOf, ih]

theorem Parser.anyOf_of_lookup {schema : List (String × Parser)} {key : String} {p : Parser}
    (found : schema.lookup key = some p) (holds : p.any test = true) : Parser.anyOf test schema = true :=
  Bool.not_eq_false _ ▸ fun none => by
    simp [Parser.anyOf_eq_false.1 none _ (PyDict.mem_of_lookup found)] at holds

/-- A parser without such a node has none in the parsers of its schema. -/
theorem Parser.anyOf_entry {schema : List (String × Parser)} (none : Parser.anyOf test schema = false)
    {entry : String × Parser} (member : entry ∈ schema) : entry.2.any test = false :=
  Parser.anyOf_eq_false.1 none entry member

end Nodes

/-- The values each parser returns. -/
inductive Returns : Parser → Value → Prop
  | str (text : String) : Returns .str (.str text)
  | int (value : Int) : Returns .int (.int value)
  | identity (thing : Yaml) : Returns .identity (.loaded thing)
  | optStrNone : Returns .optStr .none
  | optStr (text : String) : Returns .optStr (.str text)
  | bool (value : Bool) : Returns .bool (.bool value)
  | pickerNone (name : String) (options : List String) : Returns (.picker name options) .none
  | option {name key : String} {options : List String} : key ∈ options →
      Returns (.picker name options) (.option key)
  | stdout (name : String) (options : List String) : Returns (.stdoutOrPicker name options) .stdout
  | stdoutOrPicker {name : String} {options : List String} {result : Value} :
      Returns (.picker name options) result → Returns (.stdoutOrPicker name options) result
  | list {name : String} {item : Parser} {items : List Value} :
      (∀ x ∈ items, Returns item x) → Returns (.list name item) (.list items)
  | dict {name : String} {value : Parser} {entries : List (String × Value)} :
      (∀ e ∈ entries, Returns value e.2) → Returns (.dict name value) (.dict entries)
  /-- Every key is a schema key, and its value is what the schema's parser for it returns. -/
  | typeddict {name : String} {schema : List (String × Parser)} {entries : List (String × Value)} :
      (∀ e ∈ entries, e.1 ∈ schema.map Prod.fst) →
      (∀ e ∈ entries, ∀ parser, schema.lookup e.1 = some parser → Returns parser e.2) →
        Returns (.typeddict name schema) (.dict entries)
  | dispatcher {name key : String} {mapping : List (String × Parser)} {parser : Parser}
      {result : Value} : mapping.lookup key = some parser → Returns parser result →
        Returns (.dispatcher name mapping) result

/-- `Visits p thing q y`: parsing `thing` with `p` can come to call `q` on `y`. -/
inductive Visits : Parser → Yaml → Parser → Yaml → Prop
  | refl (p : Parser) (thing : Yaml) : Visits p thing p thing
  | list {name : String} {item q : Parser} {items : List Yaml} {x y : Yaml} :
      x ∈ items → Visits item x q y → Visits (.list name item) (.list items) q y
  | dict {name : String} {value q : Parser} {entries : List (Scalar × Yaml)} {key : Scalar}
      {x y : Yaml} : (key, x) ∈ entries → Visits value x q y → Visits (.dict name value) (.dict entries) q y
  | typeddict {name key : String} {schema : List (String × Parser)} {parser q : Parser}
      {entries : List (Scalar × Yaml)} {x y : Yaml} : (.str key, x) ∈ entries →
        schema.lookup key = some parser → Visits parser x q y →
          Visits (.typeddict name schema) (.dict entries) q y
  | dispatcher {name key : String} {mapping : List (String × Parser)} {parser q : Parser}
      {entries : List (Scalar × Yaml)} {y : Yaml} :
      entries.lookup (.str "cls") = some (.scalar (.str key)) → mapping.lookup key = some parser →
        Visits parser ((entries.lookup (.str "args")).getD (.dict [])) q y →
          Visits (.dispatcher name mapping) (.dict entries) q y

/-- A visited node is a node of the parser. -/
theorem Visits.any {test : Parser → Bool} {p q : Parser} {thing y : Yaml}
    (visits : Visits p thing q y) (holds : test q = true) : p.any test = true := by
  induction visits with
  | refl => exact Parser.any_self holds
  | list _ _ ih => simp [Parser.any, ih holds]
  | dict _ _ ih => simp [Parser.any, ih holds]
  | typeddict _ found _ ih => simp [Parser.any, Parser.anyOf_of_lookup found (ih holds)]
  | dispatcher _ found _ ih => simp [Parser.any, Parser.anyOf_of_lookup found (ih holds)]

/-- The calls of a leaf or of a dispatcher that raise an exception other than `ValueError`. -/
inductive Escapes : Parser → Yaml → PyExc → Prop
  | intNone : Escapes .int (.scalar .null) .typeError
  | intList (items : List Yaml) : Escapes .int (.list items) .typeError
  | intDict (entries : List (Scalar × Yaml)) : Escapes .int (.dict entries) .typeError
  | intInfinite (negative : Bool) : Escapes .int (.scalar (.float (.inf negative))) .overflowError
  | unhashableCls {name : String} {mapping : List (String × Parser)}
      {entries : List (Scalar × Yaml)} {key : Yaml} :
      entries.lookup (.str "cls") = some key → (∀ k, key ≠ .scalar k) →
        Escapes (.dispatcher name mapping) (.dict entries) .typeError

theorem Escapes.escapes {q : Parser} {y : Yaml} {e : PyExc} (escapes : Escapes q y e) :
    q.escapes = true := by
  cases escapes <;> rfl

/-- Where a raised exception comes from: a `ValueError`, or an escaping call made on the way. -/
def Explained (p : Parser) (thing : Yaml) (e : PyExc) : Prop :=
  (∃ message, e = .valueError message) ∨ ∃ q y, Visits p thing q y ∧ Escapes q y e

theorem Explained.here {p : Parser} {thing : Yaml} {e : PyExc} (escapes : Escapes p thing e) :
    Explained p thing e :=
  .inr ⟨p, thing, .refl p thing, escapes⟩

/-- An explanation of what a sub-parser raised explains it for the parser that called it. -/
theorem Explained.lift {p p' : Parser} {thing thing' : Yaml} {e : PyExc}
    (inner : Explained p thing e) (visit : ∀ {q y}, Visits p thing q y → Visits p' thing' q y) :
    Explained p' thing' e :=
  inner.imp_right fun ⟨q, y, visits, escapes⟩ => ⟨q, y, visit visits, escapes⟩

/-! ## Results -/

theorem parse_returns (p : Parser) (designed : p.any Parser.callsClass = false) :
    ∀ {thing : Yaml} {result : Value}, p.parse thing = .ok result → Returns p result := by
  intro thing result parsed
  induction p using Parser.induction generalizing thing result with
  | str => cases parsed; exact .str _
  | int =>
      obtain ⟨value, -, rfl⟩ := map_eq_ok.1 parsed
      exact .int value
  | identity => cases parsed; exact .identity _
  | optStr =>
      simp only [Parser.parse] at parsed
      split at parsed <;> cases parsed
      exacts [.optStrNone, .optStr _]
  | bool =>
      obtain ⟨value, -, rfl⟩ := map_eq_ok.1 parsed
      exact .bool value
  | enum => cases designed
  | picker name options =>
      rcases makePicker_ok parsed with rfl | ⟨key, found, rfl⟩
      exacts [.pickerNone name options, .option found]
  | stdoutOrPicker name options =>
      simp only [Parser.parse] at parsed
      split at parsed
      · cases parsed; exact .stdout name options
      · rcases makePicker_ok parsed with rfl | ⟨key, found, rfl⟩
        exacts [.stdoutOrPicker (.pickerNone name options), .stdoutOrPicker (.option found)]
  | list name item ih =>
      cases thing with
      | list items =>
          obtain ⟨out, ran, rfl⟩ := map_eq_ok.1 parsed
          exact .list fun r member => by
            obtain ⟨x, -, ok⟩ := mapM_ok ran r member
            exact ih designed ok
      | _ => cases parsed
  | dict name value ih =>
      cases thing with
      | dict entries =>
          obtain ⟨out, ran, rfl⟩ := map_eq_ok.1 parsed
          exact .dict fun e member => by
            rcases dictItems_ok ran e member with never | ⟨_, _, -, ok⟩
            · cases never
            · exact ih designed ok
      | _ => cases parsed
  | typeddict name schema ih =>
      cases thing with
      | dict entries =>
          obtain ⟨out, ran, rfl⟩ := map_eq_ok.1 parsed
          have field : ∀ e ∈ out, ∃ parser, schema.lookup e.1 = some parser ∧
              (e.1, parser) ∈ schema ∧ Returns parser e.2 := by
            intro e member
            rcases typeddictItems_ok ran e member with never | ⟨_, _, _, found, ok⟩
            · cases never
            · obtain ⟨-, parser, lookup, listed, rfl⟩ := Parser.field_eq_some found
              exact ⟨parser, lookup, listed, ih _ listed (Parser.anyOf_entry designed listed) ok⟩
          refine .typeddict (fun e member => ?_) (fun e member parser lookup => ?_)
          · obtain ⟨parser, -, listed, -⟩ := field e member
            exact List.mem_map_of_mem Prod.fst listed
          · obtain ⟨found, lookup', -, returns⟩ := field e member
            cases lookup.symm.trans lookup'
            exact returns
      | _ => cases parsed
  | dispatcher name mapping ih =>
      obtain ⟨entries, k, constructor, rfl, -, chosen, ok⟩ := makeDispatcher_ok parsed
      obtain ⟨⟨key, f⟩, found, rfl⟩ := Option.map_eq_some'.1 chosen
      obtain ⟨-, parser, lookup, listed, rfl⟩ := Parser.field_eq_some found
      exact .dispatcher lookup (ih _ listed (Parser.anyOf_entry designed listed) ok)
  | construct => cases designed

theorem parse_raises (p : Parser) (designed : p.any Parser.callsClass = false) :
    ∀ {thing : Yaml} {e : PyExc}, p.parse thing = .error e → Explained p thing e := by
  intro thing e raised
  induction p using Parser.induction generalizing thing e with
  | str => cases raised
  | int =>
      rcases thing with (_ | _ | _ | ((_ | _) | _ | _) | text) | items | entries <;>
        simp only [Parser.parse, Yaml.pyInt, map_eq_error, Except.error.injEq, reduceCtorEq] at raised
      all_goals (try subst raised)
      · exact .here .intNone
      · exact .here (.intInfinite _)
      · exact .inl ⟨_, rfl⟩
      · exact .inl (intOfStr_error raised)
      · exact .here (.intList items)
      · exact .here (.intDict entries)
  | identity => cases raised
  | optStr =>
      simp only [Parser.parse] at raised
      split at raised <;> cases raised
  | bool => exact .inl (parseBool_error (map_eq_error.1 raised))
  | enum => cases designed
  | picker name options => exact .inl (makePicker_error raised)
  | stdoutOrPicker name options =>
      simp only [Parser.parse] at raised
      split at raised
      · cases raised
      · exact .inl (makePicker_error raised)
  | list name item ih =>
      cases thing with
      | list items =>
          obtain ⟨x, member, failed⟩ := mapM_error (map_eq_error.1 raised)
          exact (ih designed failed).lift (.list member)
      | _ => cases raised; exact .inl ⟨_, rfl⟩
  | dict name value ih =>
      cases thing with
      | dict entries =>
          obtain ⟨key, x, member, failed⟩ := dictItems_error (map_eq_error.1 raised)
          exact (ih designed failed).lift (.dict member)
      | _ => cases raised; exact .inl ⟨_, rfl⟩
  | typeddict name schema ih =>
      cases thing with
      | dict entries =>
          rcases typeddictItems_error (map_eq_error.1 raised) with
            invalid | ⟨k, x, key, f, member, found, failed⟩
          · exact .inl invalid
          · obtain ⟨rfl, parser, lookup, listed, rfl⟩ := Parser.field_eq_some found
            exact (ih _ listed (Parser.anyOf_entry designed listed) failed).lift
              (.typeddict member lookup)
      | _ => cases raised; exact .inl ⟨_, rfl⟩
  | dispatcher name mapping ih =>
      rcases makeDispatcher_error raised with
        invalid | ⟨entries, key, rfl, found, notScalar, rfl⟩ |
          ⟨entries, k, constructor, rfl, found, chosen, failed⟩
      · exact .inl invalid
      · exact .here (.unhashableCls found notScalar)
      · obtain ⟨⟨key, f⟩, named, rfl⟩ := Option.map_eq_some'.1 chosen
        obtain ⟨rfl, parser, lookup, listed, rfl⟩ := Parser.field_eq_some named
        exact (ih _ listed (Parser.anyOf_entry designed listed) failed).lift
          (.dispatcher found lookup)
  | construct => cases designed

/-- Parsing any loaded value with a parser the combinators assemble, without an enum
constructor or a `make_constructor` node, either returns a value of the parser's result type,
or raises an exception that is a `ValueError` or is raised by one of the calls `Escapes` lists,
made on the way. -/
theorem parse_outcome (p : Parser) (designed : p.any Parser.callsClass = false) (thing : Yaml) :
    match p.parse thing with
    | .ok result => Returns p result
    | .error e => (∃ message, e = .valueError message) ∨
        ∃ q y, Visits p thing q y ∧ Escapes q y e := by
  cases outcome : p.parse thing with
  | ok result => exact parse_returns p designed outcome
  | error e => exact parse_raises p designed outcome

/-- The typeddict parser of `timedelta_constructor`, on `{"days": None}`: its `int` leaf raises
`TypeError`. -/
theorem timedelta_arguments_outcome :
    (Parser.typeddict "timedelta" timedeltaSchema).any Parser.callsClass = false ∧
      match (Parser.typeddict "timedelta" timedeltaSchema).parse (.dict [(.str "days", .scalar .null)]) with
      | .ok result => Returns (.typeddict "timedelta" timedeltaSchema) result
      | .error e => (∃ message, e = .valueError message) ∨
          ∃ q y, Visits (.typeddict "timedelta" timedeltaSchema) (.dict [(.str "days", .scalar .null)]) q y ∧
            Escapes q y e :=
  ⟨rfl, parse_outcome (.typeddict "timedelta" timedeltaSchema) rfl _⟩

/-- The typeddict parser of `timedelta_constructor`, on `{"days": None}`, raises `TypeError`,
from `int(None)`; so does `timedelta_constructor`, which calls it before `timedelta`. -/
theorem timedelta_of_null_days_raises_type_error :
    (Parser.typeddict "timedelta" timedeltaSchema).parse (.dict [(.str "days", .scalar .null)]) =
        .error .typeError ∧
      timedeltaConstructor.parse (.dict [(.str "days", .scalar .null)]) = .error .typeError :=
  ⟨rfl, rfl⟩

/-- On a loaded mapping, whose keys are distinct, `make_typeddict_constructor` returns a dict
with exactly the mapping's keys, in order. -/
theorem typeddict_keeps_keys (name : String) (schema : List (String × Parser))
    (entries : List (Scalar × Yaml)) (distinct : (entries.map Prod.fst).Nodup) (result : Value)
    (parsed : (Parser.typeddict name schema).parse (.dict entries) = .ok result) :
    ∃ out, result = .dict out ∧ out.map (fun e => Scalar.str e.1) = entries.map Prod.fst := by
  obtain ⟨out, ran, rfl⟩ := map_eq_ok.1 parsed
  refine ⟨out, rfl, ?_⟩
  simpa using typeddictItems_keys (fun _ _ _ found => (Parser.field_eq_some found).1) ran distinct
    fun e member => (List.not_mem_nil e member).elim

theorem timedelta_keeps_keys :
    ([(Scalar.str "days", Yaml.scalar (.int 3)), (.str "hours", .scalar (.bool true))].map
        Prod.fst).Nodup ∧
      (Parser.typeddict "timedelta" timedeltaSchema).parse
          (.dict [(.str "days", .scalar (.int 3)), (.str "hours", .scalar (.bool true))]) =
        .ok (.dict [("days", .int 3), ("hours", .int 1)]) ∧
      ∃ out, Value.dict [("days", .int 3), ("hours", .int 1)] = .dict out ∧
        out.map (fun e => Scalar.str e.1) = [.str "days", .str "hours"] :=
  ⟨by decide, rfl, typeddict_keeps_keys "timedelta" timedeltaSchema
    [(.str "days", .scalar (.int 3)), (.str "hours", .scalar (.bool true))] (by decide) _ rfl⟩

/-- `make_dict_parser(name, str, value_parser)` keys its result by `str(key)`: keys that print
alike, such as `1` and `"1"`, collapse into one entry, which holds the value parsed from the last
of them; the result has one entry for each distinct string. -/
theorem dict_parser_last_key_wins (name : String) (value : Parser) (entries : List (Scalar × Yaml))
    (result : Value) (parsed : (Parser.dict name value).parse (.dict entries) = .ok result) :
    ∃ out, result = .dict out ∧ (out.map Prod.fst).Nodup ∧
      (∀ k, k ∈ out.map Prod.fst ↔ ∃ e ∈ entries, e.1.pyStr = k) ∧
      ∀ pre key y post, entries = pre ++ (key, y) :: post → (∀ e ∈ post, e.1.pyStr ≠ key.pyStr) →
        ∃ v, value.parse y = .ok v ∧ out.lookup key.pyStr = some v := by
  obtain ⟨out, ran, rfl⟩ := map_eq_ok.1 parsed
  obtain ⟨distinct, keys⟩ := dictItems_keys ran List.nodup_nil
  refine ⟨out, rfl, distinct, fun k => by simpa using keys k, ?_⟩
  rintro pre key y post rfl last
  exact dictItems_lookup_last last ran

theorem environ_last_key_wins :
    (Parser.dict "environ" .str).parse
        (.dict [(.int 1, .scalar (.str "a")), (.str "1", .scalar (.str "b"))]) =
      .ok (.dict [("1", .str "b")]) ∧
    ∃ out, Value.dict [("1", .str "b")] = .dict out ∧ (out.map Prod.fst).Nodup ∧
      (∀ k, k ∈ out.map Prod.fst ↔
        ∃ e ∈ [(Scalar.int 1, Yaml.scalar (.str "a")), (.str "1", .scalar (.str "b"))], e.1.pyStr = k) ∧
      ∀ pre key y post,
        [(Scalar.int 1, Yaml.scalar (.str "a")), (.str "1", .scalar (.str "b"))] = pre ++ (key, y) :: post →
        (∀ e ∈ post, e.1.pyStr ≠ key.pyStr) →
          ∃ v, Parser.str.parse y = .ok v ∧ out.lookup key.pyStr = some v :=
  ⟨rfl, dict_parser_last_key_wins "environ" .str _ _ rfl⟩

/-! ## Parsers that raise only `ValueError` -/

/-- A parser with no `int` leaf and no dispatcher, over the combinators but the enum
constructor and `make_constructor`, raises nothing but `ValueError`. -/
theorem plain_parser_raises_value_error (p : Parser) (designed : p.any Parser.callsClass = false)
    (plain : p.any Parser.escapes = false) (thing : Yaml) (e : PyExc)
    (raised : p.parse thing = .error e) : ∃ message, e = .valueError message := by
  rcases parse_raises p designed raised with invalid | ⟨q, y, visits, escapes⟩
  · exact invalid
  · simp [visits.any escapes.escapes] at plain

/-- `make_dict_parser("environ", str, str)` on a list raises `ValueError`. -/
theorem environ_parser_raises_value_error :
    (Parser.dict "environ" .str).any Parser.callsClass = false ∧
      (Parser.dict "environ" .str).any Parser.escapes = false ∧
      (Parser.dict "environ" .str).parse (.list []) = .error (.valueError "environ must be a dict") ∧
      ∃ message, PyExc.valueError "environ must be a dict" = .valueError message :=
  ⟨rfl, rfl, rfl, plain_parser_raises_value_error (.dict "environ" .str) rfl rfl (.list []) _ rfl⟩

/-! ## The `_build_*` functions, called with what their schemas accept -/

/-- Twenty-five hours are one day and an hour. -/
example : timedeltaConstructor.parse (.dict [(.str "hours", .scalar (.int 25))]) =
    .ok (.timedelta 1 3600 0) := rfl

end PyDataTask.Declarative
