import PyDataTask.Python.Builtins
import PyDataTask.Python.Decimal
import PyDataTask.Executor.Basic
import PyDataTask.Executor.Coroutine
import PyDataTask.Executor.Interleaving
import PyDataTask.Executor.Accounting
import PyDataTask.Executor.Sequential
import PyDataTask.Executor.Warnings
import PyDataTask.Executor.Pods
import PyDataTask.Ephemeral.Session
import PyDataTask.Ephemeral.Lifecycle
import PyDataTask.Declarative.Yaml
import PyDataTask.Declarative.Constructors
import PyDataTask.Declarative.Parser
import PyDataTask.Declarative.Schemas
import PyDataTask.Declarative.Typing
import PyDataTask.Declarative.TaskPicker
import PyDataTask.Declarative.Separation
