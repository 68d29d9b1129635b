import PyDataTask.Declarative.Parser

/-!
# The builtin schemas

The parsers `declarative.py` builds from the combinators: the module-level constructors, and
the dispatchers of `build_repository_picker`, `build_executor_picker`,
`build_ephemeral_picker` and `build_task_picker`. A picker's options are the keys of the
dictionary the builder receives, and `HostOS` and `LinkKind`, defined outside these sources,
are parameters. Dispatcher kinds that entry points add are not modelled.
-/

namespace PyDataTask.Declarative

open Python

/-- `quota_constructor`, which calls `Quota.parse`. -/
def quotaConstructor : Parser :=
  .construct "quota" .external [("cpu", .str), ("mem", .str), ("launches", .str)]

/-- The schema of `timedelta_constructor`. -/
def timedeltaSchema : List (String × Parser) :=
  [("days", .int), ("seconds", .int), ("microseconds", .int), ("milliseconds", .int),
    ("minutes", .int), ("hours", .int), ("weeks", .int)]

def timedeltaConstructor : Parser := .construct "timedelta" .timedelta timedeltaSchema

/-- `make_annotated_constructor(name, constructor, schema)`, which first sets
`schema["annotations"] = lambda x: x`. -/
def makeAnnotatedConstructor (name : String) (constructor : Constructor)
    (schema : List (String × Parser)) : Parser :=
  .construct name (.annotated constructor) (PyDict.setEntries schema "annotations" .identity)

/-- `host_constructor`. -/
def hostConstructor (hostOS : EnumClass) : Parser :=
  .construct "Host" .external [("name", .str), ("os", .enum hostOS)]

section Builders

variable (repos executors quotas hosts ephemerals : List String) (linkKind : EnumClass)

def buildRepositoryPicker : Parser :=
  .dispatcher "Repository" [
    ("InProcessMetadata", makeAnnotatedConstructor "InProcessMetadataRepository" .external []),
    ("InProcessBlob", makeAnnotatedConstructor "InProcessBlobRepository" .external []),
    ("File", makeAnnotatedConstructor "FileRepository" .external
      [("basedir", .str), ("extension", .str), ("case_insensitive", .bool)]),
    ("Directory", makeAnnotatedConstructor "DirectoryRepository" .external
      [("basedir", .str), ("extension", .str), ("case_insensitive", .bool), ("discard_empty", .bool)]),
    ("YamlFile", makeAnnotatedConstructor "YamlMetadataFileRepository" .external
      [("basedir", .str), ("extension", .str), ("case_insensitive", .bool)]),
    ("S3Bucket", makeAnnotatedConstructor "S3BucketRepository" .external
      [("client", .picker "S3Connection" ephemerals), ("bucket", .str), ("prefix", .str),
        ("suffix", .str), ("mimetype", .str), ("incluster_endpoint", .str)]),
    ("YamlMetadataS3Bucket", makeAnnotatedConstructor "YamlMetadataS3Repository" .external
      [("client", .picker "S3Connection" ephemerals), ("bucket", .str), ("prefix", .str),
        ("suffix", .str), ("mimetype", .str), ("incluster_endpoint", .str)]),
    ("DockerRegistry", makeAnnotatedConstructor "DockerRepository" .external
      [("registry", .picker "DockerRegistry" ephemerals), ("domain", .str), ("repository", .str)]),
    ("MongoMetadata", makeAnnotatedConstructor "MongoMetadataRepository" .external
      [("database", .picker "MongoDatabase" ephemerals), ("collection", .str)])]

def buildExecutorPicker : Parser :=
  .dispatcher "Executor" [
    ("TempLinux", .construct "InProcessLocalLinuxManager" .external [("app", .str), ("local_path", .str)]),
    ("LocalLinux", .construct "LocalLinuxManager" .external [("app", .str), ("local_path", .str)]),
    ("SSHLinux", .construct "SSHLinuxManager" .external
      [("host", .picker "Host" hosts), ("app", .str), ("remote_path", .str),
        ("ssh", .picker "SSHConnection" ephemerals)]),
    ("Kubernetes", .construct "PodManager" .external
      [("host", .picker "Host" hosts), ("app", .str), ("namespace", .str),
        ("connection", .picker "KubeConnection" ephemerals)]),
    ("Docker", .construct "DockerContainerManager" .external
      [("host", .picker "Host" hosts), ("app", .str), ("url", .str)])]

def buildEphemeralPicker (env : DockerEnv) : Parser :=
  .dispatcher "Ephemeral" [
    ("S3Connection", .construct "S3Connection" .buildS3Connection
      [("endpoint", .str), ("username", .str), ("password", .str)]),
    ("DockerRegistry", .construct "DockerRegistry" (.buildDockerConnection env)
      [("domain", .str), ("username", .str), ("password", .str), ("config_file", .str),
        ("default_config_file", .bool)]),
    ("MongoDatabase", .construct "MongoDatabase" .buildMongoConnection [("url", .str), ("database", .str)]),
    ("SSHConnection", .construct "SSHConnection" .buildSshConnection
      [("hostname", .str), ("username", .str), ("password", .str), ("key", .str), ("port", .int)]),
    ("KubeConnection", .construct "KubeConnection" .external [("config_file", .str), ("context", .str)])]

/-- `link_constructor` of `build_task_picker`. -/
def linkConstructor : Parser :=
  .typeddict "Link" [
    ("repo", .picker "Repository" repos), ("kind", .enum linkKind), ("key", .optStr),
    ("multi_meta", .optStr), ("is_input", .bool), ("is_output", .bool), ("is_status", .bool),
    ("inhibits_start", .bool), ("required_for_start", .bool), ("inhibits_output", .bool),
    ("required_for_output", .bool)]

/-- `links_constructor` of `build_task_picker`. -/
def linksConstructor : Parser :=
  .dict "links" (linkConstructor repos linkKind)

/-- The `kinds` of `build_task_picker`. -/
def taskKinds : List (String × Parser) := [
  ("Process", makeAnnotatedConstructor "ProcessTask" .external [
    ("name", .str), ("template", .str), ("executor", .picker "Executor" executors),
    ("quota_manager", .picker "QuotaManager" quotas), ("job_quota", quotaConstructor),
    ("pids", .picker "Repository" repos), ("window", timedeltaConstructor),
    ("timeout", timedeltaConstructor), ("environ", .dict "environ" .str),
    ("long_running", .bool), ("done", .picker "Repository" repos),
    ("stdin", .picker "Repository" repos), ("stdout", .picker "Repository" repos),
    ("stderr", .stdoutOrPicker "Repository" repos), ("ready", .picker "Repository" repos),
    ("links", linksConstructor repos linkKind)]),
  ("Kubernetes", makeAnnotatedConstructor "KubeTask" .external [
    ("name", .str), ("executor", .picker "Executor" executors),
    ("quota_manager", .picker "QuotaManager" quotas), ("template", .str),
    ("logs", .picker "Repository" repos), ("done", .picker "Repository" repos),
    ("window", timedeltaConstructor), ("timeout", timedeltaConstructor),
    ("env", .dict "environ" .str), ("ready", .picker "Repository" repos),
    ("links", linksConstructor repos linkKind), ("long_running", .bool)]),
  ("Container", makeAnnotatedConstructor "ContainerTask" .external [
    ("name", .str), ("image", .str), ("template", .str),
    ("executor", .picker "Executor" executors), ("entrypoint", .list "entrypoint" .str),
    ("quota_manager", .picker "QuotaManager" quotas), ("job_quota", quotaConstructor),
    ("window", timedeltaConstructor), ("timeout", timedeltaConstructor),
    ("environ", .dict "environ" .str), ("logs", .picker "Repository" repos),
    ("done", .picker "Repository" repos), ("ready", .picker "Repository" repos),
    ("links", linksConstructor repos linkKind), ("privileged", .bool), ("tty", .bool),
    ("long_running", .bool)])]

/-- `dispatcher` of `build_task_picker`. -/
def taskDispatcher : Parser :=
  .dispatcher "Task" (taskKinds repos executors quotas linkKind)

end Builders

end PyDataTask.Declarative
