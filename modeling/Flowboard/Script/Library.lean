import Flowboard.Script.Collection

/-! Modules: the names in them and what they stand for. -/
namespace Flowboard.Script

def moduleFunctions : List (String × List String) :=
  [("math", ["acos", "acosh", "asin", "asinh", "atan", "atan2", "atanh", "cbrt", "ceil", "comb",
      "copysign", "cos", "cosh", "degrees", "dist", "erf", "erfc", "exp", "exp2", "expm1", "fabs",
      "factorial", "floor", "fmod", "frexp", "fsum", "gamma", "gcd", "hypot", "isclose",
      "isfinite", "isinf", "isnan", "isqrt", "lcm", "ldexp", "lgamma", "log", "log10", "log1p",
      "log2", "modf", "nextafter", "perm", "pow", "prod", "radians", "remainder", "sin", "sinh",
      "sqrt", "tan", "tanh", "trunc", "ulp"]),
   ("sys", ["exit", "getdefaultencoding", "getrecursionlimit", "intern",
      "setrecursionlimit", "stderr", "stdin", "stdout", "__stdout__", "__stderr__", "exc_info",
      "getrefcount", "set_int_max_str_digits", "getfilesystemencoding", "settrace",
      "excepthook", "get_int_max_str_digits", "is_finalizing", "_getframe",
      "getswitchinterval", "setswitchinterval", "gettrace"]),
   ("posix", ["_exit", "abort", "access", "chdir", "chmod", "close", "cpu_count", "dup", "dup2",
      "exec", "fork", "fstat", "fsync", "ftruncate", "getcwd", "getegid", "geteuid", "getgid",
      "getpgid", "getpgrp", "getpid", "getppid", "getsid", "getuid", "isatty", "kill", "killpg",
      "link", "listdir", "lseek", "mkdir", "nice", "open", "pipe", "read", "readlink", "rename",
      "rmdir", "setpgid", "setsid", "stat", "strerror", "symlink", "system", "umask", "unlink",
      "urandom", "utime", "waitpid", "write"]),
   ("posixpath", ["basename", "dirname", "isabs", "join", "normpath", "split", "splitext"]),
   ("_clock", ["monotonic", "perf_counter", "process_time", "sleep", "time", "time_ns",
      "monotonic_ns", "perf_counter_ns"]),
   ("_moments", ["local", "place", "seconds", "text", "zone"]),
   ("_signal", ["alarm", "getitimer", "getsignal", "pause", "raise_signal", "setitimer", "signal"]),
   ("_json", ["encode", "decode", "quote"]),
   ("collections", ["Counter", "OrderedDict", "defaultdict", "deque"]),
   ("_collections", ["tuple_class", "make"]),
   ("_search", ["compile", "find", "spans"]),
   ("_threads", ["start", "wait", "current"]),
   ("itertools", ["accumulate", "chain", "combinations", "combinations_with_replacement", "count",
      "cycle", "dropwhile", "filterfalse", "groupby", "islice", "pairwise", "permutations",
      "product", "repeat", "starmap", "takewhile", "tee", "zip_longest"]),
   ("functools", ["partial", "reduce"]),
   ("operator", ["add", "and_", "attrgetter", "concat", "contains", "eq", "floordiv", "ge",
      "getitem", "gt", "index", "invert", "itemgetter", "le", "lt", "methodcaller", "mod", "mul",
      "ne", "neg", "not_", "or_", "pos", "pow", "sub", "truediv", "truth", "xor"]),
   ("io", ["open"]),
   ("copy", ["copy", "deepcopy"]),
   ("_bits", ["float_bytes", "bytes_float"]),
   ("_flate", ["adler32", "crc32", "deflate", "inflate"]),
   ("_digest", ["blake", "digest", "long"]),
   ("_chance", ["below", "bits", "make", "real", "seed", "set", "words"]),
   ("_braces", ["first", "piece", "step"]),
   ("_base", ["encode16", "encode32", "encode64"]),
   ("_marks", ["name", "named", "normal", "number", "trait"]),
   ("_weak", ["at", "look", "lookers"]),
   ("_process", ["emit", "find", "start", "text"]),
   ("atexit", ["register", "unregister"]),
   ("bisect", ["bisect", "bisect_left", "bisect_right", "insort", "insort_left",
      "insort_right"]),
   ("heapq", ["heapify", "heappop", "heappush", "nlargest", "nsmallest", "heapreplace",
      "heappushpop", "merge"]),
   ("gc", ["collect", "disable", "enable"]),
   ("__future__", ["annotations", "division", "print_function"]),
   ("builtins", [])]

/-- The text of a module, if it is written in the language of scripts itself. -/
def moduleText? (name : String) : Action (Option String) := do
  return (← get).library name

def isModule (name : String) : Action Bool := do
  return (moduleFunctions.lookup name).isSome || (← moduleText? name).isSome

def moduleConstant? (module name : String) : Action (Option Value) := do
  let texts (xs : List String) : Action (Option Value) := do
    return some (← Action.list (xs.map .str))
  match module, name with
  | "os.path", "__name__" => return some (.str "posixpath")
  | _, "__name__" => return some (.str module)
  | "math", "pi" => return some (.float 3.141592653589793)
  | "math", "e" => return some (.float 2.718281828459045)
  | "math", "tau" => return some (.float 6.283185307179586)
  | "math", "inf" => return some (.float (1.0 / 0.0))
  | "math", "nan" => return some (.float (0.0 / 0.0))
  | "sys", "argv" => texts (← get).args
  | "sys", "path" => texts ["/tmp", "/usr/lib/python3.11"]
  | "sys", "modules" =>
    let loaded := ["sys", "builtins"] ++ (← get).modules.toList.map (·.1)
    let d := loaded.foldl (fun d n => Dict.set d n (.module n)) Dict.empty
    return some (← Action.allocate (.dict d .plain))
  | "sys", "_generic_alias" => return some (.builtin "types.GenericAlias")
  | "_collections", "deque" => return some (.builtin "collections.deque")
  | "posix", "environ" =>
    let d := (← get).environment.foldl (fun d (n, v) => Dict.set d n (.str v)) Dict.empty
    return some (← Action.allocate (.dict d .plain))
  | _, _ => return none

def share (module name : String) (v : Value) : Action Unit :=
  modify fun w =>
    match w.modules.get? module with
    | some i =>
      { w with
        scopes := w.scopes.modify i fun s => { s with bindings := s.bindings.insert name v }
        shared := w.shared.insert (module ++ "." ++ name) v }
    | none => { w with shared := w.shared.insert (module ++ "." ++ name) v }

/-- What the text of a module binds a name to. -/
def preludeValue? (module name : String) : Action (Option Value) := do
  let w ← get
  return (w.modules.get? module).bind fun i => (w.scopes[i]?).bind fun s => s.bindings.get? name

def coreFunctions : List String :=
  ["abs", "all", "any", "ascii", "bin", "breakpoint", "callable", "chr", "delattr", "dir",
   "divmod", "eval", "exec", "exit", "format", "getattr", "globals", "hasattr", "hash", "hex",
   "id", "input", "isinstance", "issubclass", "iter", "len", "locals", "max", "min", "next", "oct",
   "open", "ord", "pow", "print", "quit", "repr", "round", "setattr", "sorted", "sum", "vars",
   "__import__", "__build_class__", "copyright", "credits", "license", "help", "compile"]

def coreTypes : List String :=
  ["bool", "bytearray", "bytes", "classmethod", "complex", "dict", "enumerate", "filter", "float",
   "frozenset", "int", "list", "map", "memoryview", "object", "property", "range", "reversed",
   "set", "slice", "staticmethod", "str", "super", "tuple", "type", "zip"]

/-- What a name stands for that the script does not bind. -/
def coreValue? (name : String) : Option Value :=
  match name with
  | "NotImplemented" => some .unsupported
  | "Ellipsis" => some .ellipsis
  | "__debug__" => some (.bool true)
  | "IOError" => some (.builtin "OSError")
  | "EnvironmentError" => some (.builtin "OSError")
  | name =>
    if coreFunctions.contains name then some (.builtin name)
    else if coreTypes.contains name then some (.builtin name)
    else if isException name && !name.any (· == '.') then some (.builtin name)
    else none

def moduleAttribute? (module name : String) : Action (Option Value) := do
  match (← preludeValue? module name).or ((← get).shared.get? (module ++ "." ++ name)) with
  | some v => return some v
  | none =>
    match ← moduleConstant? module name with
    | some (.ref i) =>
      if name ≠ "modules" then share module name (.ref i)
      return some (.ref i)
    | some v => return some v
    | none =>
      if (moduleFunctions.lookup module).any (·.contains name) then
        return some (.builtin (module ++ "." ++ name))
      else if (← moduleText? (module ++ "." ++ name)).isSome then
        if (← get).modules.contains (module ++ "." ++ name) then
          return some (.module (module ++ "." ++ name))
        else return none
      else if module = "builtins" then return coreValue? name
      else return none

def allNames (k : Calls) (module : String) : Action (List String) := do
  let own ← match (← get).modules.get? module with
    | none => pure []
    | some i =>
      let bound := ((← get).scopes[i]?.map fun s => s.bindings.toList).getD []
      match bound.lookup "__all__" with
      | some v =>
        pure ((← itemsOf k v).filterMap fun
          | .str s => some s
          | _ => none)
      | none => pure ((bound.map (·.1)).filter fun n => !n.startsWith "_" && !n.startsWith ".")
  return ((moduleFunctions.lookup module).getD []).filter (fun n => !n.startsWith "_") ++ own

end Flowboard.Script
