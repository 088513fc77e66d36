import Intake.Database.Address
import Intake.Settings.Setting

/-!
# The engine

One engine is kept and shared. It is made anew only when another address is asked for. Without any address
the current engine is as good as any; an empty address stands for the one that the variables give. How
connections are pooled depends on where the database lives: one shared connection for a database in memory,
a queue of connections for a file, one connection a thread otherwise.

An engine is replaced in three steps, of which the middle one may fail:

        close the connections of the kept engine ──▶ make a new one ──▶ record its address

A failure leaves the engine and its address in place, but the connections are closed by then. The engine
opens others when it is used again, and a database in memory ends with the connections that held it.
-/

namespace Intake.Database

/-- How the connections of an engine are kept. -/
inductive Pool where
  | shared
  | queue
  | perThread
  deriving DecidableEq

/-- An engine: the number under which it was made, its address, its pool, and where its database lives. -/
structure Engine where
  serial : Nat
  url : Text
  pool : Pool
  isInMemory : Bool
  deriving DecidableEq

/-- What is kept between calls: the engine, if any, beside it the address that it was made for, how many
were made, and the engines whose connections were closed, one entry for each time. -/
structure Cache where
  engine : Option Engine
  url : Option Text
  made : Nat
  closed : List Engine

/-- No engine yet. -/
def Cache.empty : Cache := ⟨none, none, 0, []⟩

/-- What stands behind an engine: the file of its address, or one of the databases in memory that came and
went with its connections. -/
inductive Backing where
  | file (url : Text)
  | memory (serial lifetime : Nat)
  deriving DecidableEq

/-- The database that an engine opens now. -/
def Cache.backing (c : Cache) (e : Engine) : Backing :=
  if e.isInMemory then .memory e.serial (c.closed.count e) else .file e.url

/-- The pool for a usable address. -/
def poolFor (url : Text) (a : Address) : Pool :=
  if ("sqlite" : Text).isPrefixOf url && inMemory.occursIn url then .shared
  else if a.isInMemory then .perThread
  else .queue

/-- The address that the variables give. -/
def variableUrl (w : Settings.World) : Text :=
  (Settings.firstGiven [w.valueOf? "TEST_DATABASE_URL", w.valueOf? "DATABASE_URL",
    some Settings.defaultDatabase]).getD []

/-- The address that a request for an engine means. -/
def resolved (fallback : Text) : Option Text → Text
  | some (c :: cs) => c :: cs
  | _ => fallback

/-- Closes the connections of the engine that is kept. -/
def Cache.dispose (c : Cache) : Cache := { c with closed := c.closed ++ c.engine.toList }

/-- Makes an engine for an address and keeps it. -/
def Cache.create (url : Text) (c : Cache) : Except SetupError Engine × Cache :=
  match Address.usable url with
  | .error e => (.error e, c)
  | .ok a =>
    let engine : Engine := ⟨c.made, url, poolFor url a, a.isInMemory⟩
    (.ok engine, { c with engine := some engine, made := c.made + 1 })

/-- Records the address that the kept engine was made for. -/
def Cache.record (url : Text) (c : Cache) : Cache := { c with url := some url }

/-- Replaces the engine by one for an address. -/
def Cache.replace (url : Text) (c : Cache) : Except SetupError Engine × Cache :=
  match c.dispose.create url with
  | (.error e, c) => (.error e, c)
  | (.ok engine, c) => (.ok engine, c.record url)

/-- The engine for an address. -/
def Cache.acquire (fallback : Text) (url : Option Text) (c : Cache) : Except SetupError Engine × Cache :=
  match c.engine with
  | none => c.replace (resolved fallback url)
  | some engine =>
    if url.isNone || c.url == some (resolved fallback url) then (.ok engine, c)
    else c.replace (resolved fallback url)

/-- The engines for several addresses, one after the other. -/
def Cache.acquireAll (fallback : Text) : List (Option Text) → Cache → List (Except SetupError Engine)
  | [], _ => []
  | url :: rest, c =>
    let r := c.acquire fallback url
    r.1 :: acquireAll fallback rest r.2

/-! ### First laws -/

namespace Cache

/-- A replacement that fails leaves everything but the connections as it was. -/
theorem replace_of_error {url : Text} {err : SetupError} (h : Address.usable url = .error err) (c : Cache) :
    c.replace url = (.error err, c.dispose) := by
  rw [replace, create, h]

/-- A replacement that succeeds. -/
theorem replace_of_ok {url : Text} {a : Address} (h : Address.usable url = .ok a) (c : Cache) :
    c.replace url = (.ok ⟨c.made, url, poolFor url a, a.isInMemory⟩,
      ⟨some ⟨c.made, url, poolFor url a, a.isInMemory⟩, some url, c.made + 1,
        c.closed ++ c.engine.toList⟩) := by
  rw [replace, create, h]
  rfl

end Cache

end Intake.Database
