import PyDataTask.Declarative.Yaml

/-!
# The callables of `make_constructor`

`make_constructor(name, constructor, schema)` returns `constructor(**tdc(thing))`: the
dictionary its typeddict parser returns, passed as keyword arguments. The builtin schemas give
it `datetime.timedelta`, the four `_build_*` functions of `declarative.py`, the
`inner_constructor` of `make_annotated_constructor`, and classes and functions defined outside
these sources: `Quota.parse`, `Host`, `kube_connect`, the repositories, the executors and the
tasks.

A call binds its keyword arguments to the callee's parameters: a keyword the callee lacks, or a
required parameter that no keyword gives, raises `TypeError`. A callable defined outside these
sources is modelled by what it builds, an object known by the keyword arguments it was called
with; its own checks are not in these sources.
-/

namespace PyDataTask.Declarative

open Python

/-- What a parser returns. -/
inductive Value where
  | none
  | bool (value : Bool)
  | int (value : Int)
  | str (value : String)
  /-- The loaded value itself, as `lambda x: x` returns it. -/
  | loaded (value : Yaml)
  /-- The enum member of this name. -/
  | member (name : String)
  /-- A class attribute of an enum that is not a member. -/
  | attribute (name : String)
  /-- The object a picker's options hold under this key. -/
  | option (key : String)
  /-- `pydatatask.task.STDOUT`. -/
  | stdout
  | list (items : List Value)
  | dict (entries : List (String × Value))
  /-- A `datetime.timedelta`, by the three fields it keeps. -/
  | timedelta (days seconds microseconds : Int)
  /-- The async generator function a `_build_*` function returns, by its name and the values it
  captures. -/
  | closure (name : String) (captured : List (String × Value))

/-! ## Binding keyword arguments -/

/-- Calling a function whose parameters are `params`, each with its default (`none` for a
required one), with keyword arguments only: each parameter's value, or `TypeError`. -/
def bindKeywords (params : List (String × Option Value)) (kwargs : List (String × Value)) :
    Except PyExc (List (String × Value)) :=
  if kwargs.all fun arg => params.any (·.1 == arg.1) then
    params.mapM fun (param, default) =>
      match kwargs.lookup param <|> default with
      | some value => .ok (param, value)
      | none => .error .typeError
  else .error .typeError

/-- The value `bindKeywords` gives a parameter, `None` for a name it does not bind. -/
def argument (args : List (String × Value)) (param : String) : Value := (args.lookup param).getD .none

/-- A duration in microseconds as `timedelta` keeps it: whole days, seconds in `[0, 86400)` and
microseconds in `[0, 10⁶)`, or `OverflowError` beyond `999999999` days either way. -/
def timedeltaOfMicroseconds (total : Int) : Except PyExc Value :=
  let days := total / 86400000000
  if days < -999999999 ∨ 999999999 < days then .error .overflowError
  else .ok (.timedelta days (total % 86400000000 / 1000000) (total % 1000000))

/-- The parameters of `timedelta`, in order. -/
def timedeltaParams : List String :=
  ["days", "seconds", "microseconds", "milliseconds", "minutes", "hours", "weeks"]

/-- `timedelta(days=0, seconds=0, microseconds=0, milliseconds=0, minutes=0, hours=0, weeks=0)`
on integer arguments; another type of argument raises `TypeError`. -/
def timedelta (kwargs : List (String × Value)) : Except PyExc Value := do
  let args ← bindKeywords (timedeltaParams.map fun param => (param, some (.int 0))) kwargs
  let amount := fun param => match argument args param with
    | .int value => Except.ok value
    | _ => .error .typeError
  let days ← amount "days"
  let seconds ← amount "seconds"
  let microseconds ← amount "microseconds"
  let milliseconds ← amount "milliseconds"
  let minutes ← amount "minutes"
  let hours ← amount "hours"
  let weeks ← amount "weeks"
  timedeltaOfMicroseconds
    (((((weeks * 7 + days) * 24 + hours) * 60 + minutes) * 60 + seconds) * 1000000 +
      milliseconds * 1000 + microseconds)

/-! ### The duration its arguments name -/

/-- A `_build_*` function that binds its arguments and returns its generator function
`generator`, which captures them. -/
def buildConnection (generator : String) (params : List (String × Option Value))
    (kwargs : List (String × Value)) : Except PyExc Value := do
  let args ← bindKeywords params kwargs
  pure (.closure generator args)

/-- `_build_s3_connection(endpoint, username, password)`: the generator function `minio`. -/
def buildS3Connection : List (String × Value) → Except PyExc Value :=
  buildConnection "minio" [("endpoint", none), ("username", none), ("password", none)]

/-- What `_build_docker_connection` reads from the machine it runs on. -/
structure DockerEnv where
  /-- `os.path.expanduser("~/.docker/config.json")`. -/
  defaultConfigFile : String
  /-- `base64.b64decode(docker_config["auths"][domain]["auth"]).decode()`, where `docker_config`
  is the JSON that `config_file` holds, or what opening, loading, indexing or decoding raises. -/
  auth : Value → Value → Except PyExc String

/-- `_build_docker_connection(domain, username=None, password=None, config_file=None,
default_config_file=False)`: the generator function `docker`, with the credentials of the
config file if one is named, else with those given. -/
def buildDockerConnection (env : DockerEnv) (kwargs : List (String × Value)) : Except PyExc Value := do
  let args ← bindKeywords [("domain", none), ("username", some .none), ("password", some .none),
    ("config_file", some .none), ("default_config_file", some (.bool false))] kwargs
  let domain := argument args "domain"
  -- `parse_bool` gives the flag
  let configFile : Value := match argument args "default_config_file" with
    | .bool true => .str env.defaultConfigFile
    | _ => argument args "config_file"
  match configFile with
  | Value.none =>
      match argument args "username", argument args "password" with
      | .none, _ | _, .none =>
          throw (.valueError "Must provide username and password or a config file for DockerRegistry")
      | username, password =>
          pure (.closure "docker" [("domain", domain), ("username", username), ("password", password)])
  | configFile =>
      match (← env.auth configFile domain).splitOn ":" with
      | [username, password] =>
          pure (.closure "docker" [("domain", domain), ("username", Value.str username),
            ("password", Value.str password)])
      | parts =>
          throw (.valueError (if parts.length < 2
            then "not enough values to unpack (expected 2, got " ++ toString parts.length ++ ")"
            else "too many values to unpack (expected 2)"))

/-- `_build_mongo_connection(url, database)`: the generator function `mongo`. -/
def buildMongoConnection : List (String × Value) → Except PyExc Value :=
  buildConnection "mongo" [("url", none), ("database", none)]

/-- `_build_ssh_connection(hostname, username, password=None, key=None, port=22)`: the generator
function `ssh`. -/
def buildSshConnection : List (String × Value) → Except PyExc Value :=
  buildConnection "ssh" [("hostname", none), ("username", none), ("password", some .none),
    ("key", some .none), ("port", some (.int 22))]

/-! ## `make_annotated_constructor` -/

def updateLengthError (index length : Nat) : PyExc :=
  .valueError ("dictionary update sequence element #" ++ toString index ++ " has length " ++
    toString length ++ "; 2 is required")

/-- What `d.update` raises at the item of index `index` of its iterable, if anything: a string
or a container of two items (a dict by its keys) is a pair, whose first item must be hashable. -/
def pairError (index : Nat) : Yaml → Option PyExc
  | .scalar (.str text) => if text.length = 2 then none else some (updateLengthError index text.length)
  | .scalar _ => some .typeError
  | .list [.scalar _, _] => none
  | .list [_, _] => some .typeError
  | .list items => some (updateLengthError index items.length)
  | .dict entries => if entries.length = 2 then none else some (updateLengthError index entries.length)

def pairsError (index : Nat) : List Yaml → Option PyExc
  | [] => none
  | item :: rest => pairError index item <|> pairsError (index + 1) rest

/-- What `d.update(other)` raises for a loaded `other`, if anything: a dict is read by its keys,
anything else must iterate over pairs, a string over its characters. -/
def updateError : Yaml → Option PyExc
  | .dict _ => none
  | .list items => pairsError 0 items
  | .scalar (.str text) => pairsError 0 (text.toList.map fun c => .scalar (.str (String.singleton c)))
  | .scalar _ => some .typeError

/-- `inner_constructor(**kwargs)` of `make_annotated_constructor(name, constructor, schema)`:
the annotations are popped, the rest passed to `constructor`, and its result's annotations
updated with them. -/
def innerConstructor (constructor : List (String × Value) → Except PyExc Value)
    (kwargs : List (String × Value)) : Except PyExc Value := do
  -- `kwargs.pop("annotations", {})`: `schema["annotations"]` is `lambda x: x`, so a popped
  -- value is a loaded one
  let annotations : Yaml := match kwargs.lookup "annotations" with
    | some (.loaded thing) => thing
    | _ => .dict []
  let result ← constructor (kwargs.filter (·.1 ≠ "annotations"))
  match updateError annotations with
  | some e => throw e
  | none => pure result

/-! ## The constructors of the builtin schemas -/

/-- A callable that `make_constructor` is given. -/
inductive Constructor where
  /-- A class or a function defined outside these sources. -/
  | external
  /-- `datetime.timedelta`. -/
  | timedelta
  | buildS3Connection
  | buildDockerConnection (env : DockerEnv)
  | buildMongoConnection
  | buildSshConnection
  /-- The `inner_constructor` that `make_annotated_constructor` wraps around a constructor. -/
  | annotated (constructor : Constructor)

/-- `constructor(**kwargs)`. -/
def Constructor.call : Constructor → List (String × Value) → Except PyExc Value
  | .external, kwargs => .ok (.dict kwargs)
  | .timedelta, kwargs => Declarative.timedelta kwargs
  | .buildS3Connection, kwargs => Declarative.buildS3Connection kwargs
  | .buildDockerConnection env, kwargs => Declarative.buildDockerConnection env kwargs
  | .buildMongoConnection, kwargs => Declarative.buildMongoConnection kwargs
  | .buildSshConnection, kwargs => Declarative.buildSshConnection kwargs
  | .annotated constructor, kwargs => innerConstructor constructor.call kwargs

end PyDataTask.Declarative
