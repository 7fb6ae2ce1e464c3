import TableGateway.Error

/-!
# Pool configuration

How many connections a pool may have and how old one may become. Times are in milliseconds; a
lifetime of zero sets no limit.
-/

namespace TableGateway

/-- How a request of a caller ends when it cannot be served. -/
inductive Failure where
  /-- The caller is told what went wrong. -/
  | error (e : Error)
  /-- A promise of the caller is broken, which ends the calling task. -/
  | abort (message : String)
  deriving DecidableEq, Repr

/-- A span of time as shown to a person: seconds with their fraction from one second on,
milliseconds below, and nothing at all as `0ns`. -/
def durationText (ms : Nat) : String :=
  let seconds := ms / 1000
  let rest := ms % 1000
  if ms = 0 then "0ns"
  else if seconds = 0 then toString rest ++ "ms"
  else if rest = 0 then toString seconds ++ "s"
  else
    let digits := (toString (1000 + rest)).toList.drop 1
    let trimmed := (digits.reverse.dropWhile fun c => c == '0').reverse
    toString seconds ++ "." ++ String.ofList trimmed ++ "s"

namespace Pool

/-- Sizing and recycling options of a pool. -/
structure Config where
  /-- The most connections the pool has at any time. -/
  size : Nat := 10
  /-- The age in milliseconds from which a returned connection is closed; zero for no limit. -/
  lifetime : Nat := 0
  deriving DecidableEq, Repr

namespace Config

/-- The most permits an admission queue can hand out. -/
def maxPermits : Nat := 0x1fffffffffffffff

/-- A pool needs a size that is not zero, and no more than an admission queue can count. -/
def validate (c : Config) : Except Failure Unit :=
  if c.size = 0 then .error (.error (.invalidConfig "pool size must be greater than 0"))
  else if maxPermits < c.size then
    .error (.abort ("more than " ++ toString maxPermits ++ " permits"))
  else .ok ()

/-- The options as shown to a person. -/
def display (c : Config) : String :=
  "PoolConfig \x7b size: " ++ toString c.size ++ ", lifetime: "
    ++ durationText c.lifetime ++ " \x7d"

end Config

end Pool

end TableGateway
