import Flowboard.Double.Basic
import Flowboard.Host.Basic
import Flowboard.Json.Record
import Flowboard.Json.Text
import Flowboard.Order.Strategy
import Flowboard.Text.Blank
import Flowboard.Text.Integer
import Flowboard.Text.Symbol

/-! Settings, from the environment or from a JSON text. -/
namespace Flowboard

/-- Where the server listens. -/
structure ServerConfig where
  host : String
  port : Fin (twoTo 16)
  deriving DecidableEq, Repr

/-- How workflows are compiled and run. -/
structure ExecutionConfig where
  interpreter : String
  timeoutSecs : Fin (twoTo 64)
  ordering : Strategy
  deriving DecidableEq, Repr

structure Config where
  server : ServerConfig
  execution : ExecutionConfig
  deriving DecidableEq, Repr

/-- The longest time that one run may take. -/
def ExecutionConfig.limit (c : ExecutionConfig) : Span :=
  .ofSeconds c.timeoutSecs.val

/-- Variables of the environment, whose values are bytes. -/
abbrev Environment := Table (List UInt8)

/-- The value of a variable, if it is set and is text. -/
def Environment.text? (env : Environment) (name : String) : Option String :=
  (env.get? name).bind Text.decode?

namespace Config

def defaultPort : Fin (twoTo 16) := ⟨5000, by decide⟩

def defaultTimeoutSecs : Fin (twoTo 64) := ⟨30, by decide⟩

/-- A numeral below `bound`, or else a default. -/
def numeralOr {bound : Nat} (default : Fin bound) (s : List Char) : Fin bound :=
  match Text.readUnsigned bound s with
  | .ok n => if h : n < bound then ⟨n, h⟩ else default
  | .error _ => default

/-- The port of a text, which must not have blanks around the numeral. -/
def portOf (text : Option String) : Fin (twoTo 16) :=
  match text with
  | some s => numeralOr defaultPort s.toList
  | none => defaultPort

/-- The time limit of a text, which may have blanks around the numeral. Zero would end every run at
once and is not taken. -/
def timeoutSecsOf (text : Option String) : Fin (twoTo 64) :=
  match text with
  | some s =>
    let n := numeralOr defaultTimeoutSecs (Text.trim s.toList)
    if n.val = 0 then defaultTimeoutSecs else n
  | none => defaultTimeoutSecs

/-- The strategy of a text; what names none stands for the spatial one. -/
def orderingOf (text : Option String) : Strategy :=
  match text with
  | some s =>
    match Strategy.ofName s with
    | .ok strategy => strategy
    | .error _ => .spatial
  | none => .spatial

/-- The settings of an environment. -/
def ofEnvironment (env : Environment) : Config where
  server :=
    { host := (env.text? "AGENTBLOCKS_HOST").getD "0.0.0.0"
      port := portOf (env.text? "AGENTBLOCKS_PORT") }
  execution :=
    { interpreter := (env.text? "AGENTBLOCKS_INTERPRETER").getD "python3"
      timeoutSecs := timeoutSecsOf (env.text? "AGENTBLOCKS_EXEC_TIMEOUT_SECS")
      ordering := orderingOf (env.text? "AGENTBLOCKS_ORDERING") }

/-- The address to listen on. -/
def bindAddress (c : Config) : String :=
  c.server.host ++ ":" ++ String.ofList (Nat.toDigits 10 c.server.port.val)

end Config

namespace ServerConfig

structure Draft where
  host : Option String
  port : Option (Fin (twoTo 16))

def record : Record Draft ServerConfig where
  name := "ServerConfig"
  fields :=
    [.of "host" true Decoder.string (·.host) fun d v => { d with host := some v },
     .of "port" true (Decoder.unsigned (twoTo 16) "u16") (·.port)
      fun d v => { d with port := some v }]
  strict := false
  empty := ⟨none, none⟩
  build d := do
    let host ← Record.require "host" d.host
    let port ← Record.require "port" d.port
    .ok ⟨host, port⟩

def json (c : ServerConfig) : Json :=
  .object [("host", .string c.host), ("port", .number (.natural (c.port.castLE (by decide))))]

end ServerConfig

namespace ExecutionConfig

structure Draft where
  interpreter : Option String
  timeoutSecs : Option (Fin (twoTo 64))
  ordering : Option Strategy

/-- The strategies by the words that stand for them. -/
def orderings : List (String × Strategy) :=
  [("spatial", .spatial), ("dependency", .dependency)]

def record : Record Draft ExecutionConfig where
  name := "ExecutionConfig"
  fields :=
    [.of "interpreter" true Decoder.string (·.interpreter)
      fun d v => { d with interpreter := some v },
     .of "timeout_secs" true (Decoder.unsigned (twoTo 64) "u64") (·.timeoutSecs)
      fun d v => { d with timeoutSecs := some v },
     .of "ordering" true (Decoder.choice orderings) (·.ordering)
      fun d v => { d with ordering := some v }]
  strict := false
  empty := ⟨none, none, none⟩
  build d := do
    let interpreter ← Record.require "interpreter" d.interpreter
    let timeoutSecs ← Record.require "timeout_secs" d.timeoutSecs
    let ordering ← Record.require "ordering" d.ordering
    .ok ⟨interpreter, timeoutSecs, ordering⟩

def json (c : ExecutionConfig) : Json :=
  .object
    [("interpreter", .string c.interpreter), ("timeout_secs", .number (.natural c.timeoutSecs)),
     ("ordering", .string c.ordering.name)]

end ExecutionConfig

namespace Config

structure Draft where
  server : Option ServerConfig
  execution : Option ExecutionConfig

def record : Record Draft Config where
  name := "Config"
  fields :=
    [.of "server" true ServerConfig.record.decoder (·.server)
      fun d v => { d with server := some v },
     .of "execution" true ExecutionConfig.record.decoder (·.execution)
      fun d v => { d with execution := some v }]
  strict := false
  empty := ⟨none, none⟩
  build d := do
    let server ← Record.require "server" d.server
    let execution ← Record.require "execution" d.execution
    .ok ⟨server, execution⟩

/-- The settings of a JSON text. -/
def parse (text : String) : Except Fault Config :=
  match record.decoder.ofText text with
  | .ok c => .ok c
  | .error e => .error e.fault

def json (c : Config) : Json :=
  .object [("server", c.server.json), ("execution", c.execution.json)]

end Config

end Flowboard
