import TableGateway.Dialect.Sqlite
import TableGateway.Pool.Basic

/-!
# Settings of databases

Settings name the pools of an application, each with its backend, the lifetime of its connections
in seconds and its size. Pools are built from them by name; a pool that cannot be built is named
in the error.
-/

namespace TableGateway

/-- Where a SQLite database is, and how long a statement waits for it when it is locked. -/
structure SqliteOptions where
  path : String
  busyTimeoutMs : UInt64 := 5000
  deriving DecidableEq, Repr

/-- The settings of one pool. -/
structure PoolSettings where
  backend : SqliteOptions
  /-- Seconds after which a returned connection is closed; zero for no limit. -/
  lifetime : UInt64 := 0
  poolSize : UInt64 := 10
  deriving DecidableEq, Repr

namespace PoolSettings

/-- The configuration of the pool. -/
def config (s : PoolSettings) : Pool.Config where
  size := s.poolSize.toNat
  lifetime := s.lifetime.toNat * 1000

/-- The pool, without connections. -/
def build {β : Type} (s : PoolSettings) : Except Failure (Pool β) :=
  Pool.create s.config Sqlite.dialect

end PoolSettings

/-- The pools of an application by name. -/
abbrev Databases (β : Type) := Registry String (Pool β)

namespace Databases

variable {β : Type}

/-- The pool of a name. -/
def find (databases : Databases β) (name : String) : Except Error (Pool β) :=
  match databases.get? name with
  | some pool => .ok pool
  | none => .error (.unknownPool name)

/-- The dialect of the pool of a name. -/
def dialect (databases : Databases β) (name : String) : Except Error Dialect := do
  let pool ← databases.find name
  return pool.dialect

/-- Says which pool a configuration error is about. -/
def blame (name : String) : Failure → Failure
  | .error (.invalidConfig message) =>
    .error (.invalidConfig ("pool `" ++ name ++ "`: " ++ message))
  | other => other

/-- Adds the pool of an entry, or says why there is none. -/
def addSettings (databases : Databases β) (entry : String × PoolSettings) :
    Except Failure (Databases β) :=
  match entry.2.build with
  | .ok pool => .ok (databases.insert entry.1 pool)
  | .error failure => .error (blame entry.1 failure)

/-- Builds the pools of settings, in the given order, up to the first that fails. -/
def ofSettings (entries : List (String × PoolSettings)) : Except Failure (Databases β) :=
  entries.foldlM addSettings .empty

end Databases

end TableGateway
