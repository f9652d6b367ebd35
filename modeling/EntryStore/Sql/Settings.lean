/-!
# Settings

How connections to a database are made and how statements are watched, with the values that
hold unless others are given.
-/

namespace EntryStore.Sql

/-- How a database journals the changes that are under way. -/
inductive JournalMode where
  | delete
  | truncate
  | persist
  | memory
  /-- a log that is written ahead, which lets readers run next to a writer -/
  | wal
  | off
  deriving DecidableEq, Repr

/-- The settings of a pool of connections. -/
structure PoolSettings where
  maxConnections : UInt32 := 5
  /-- seconds to wait for a free connection -/
  acquireTimeout : UInt64 := 30
  /-- seconds after which an idle connection is closed, if ever -/
  idleTimeout : Option UInt64 := some 600
  /-- milliseconds that a statement waits for a lock -/
  busyTimeout : UInt64 := 5000
  /-- whether a database that does not exist is created -/
  createIfMissing : Bool := true
  journalMode : JournalMode := .wal
  /-- how many prepared statements a connection keeps -/
  statementCacheCapacity : UInt64 := 100
  deriving DecidableEq, Repr

/-- The settings under which statements are watched. -/
structure WatchSettings where
  /-- milliseconds after which a statement counts as slow -/
  slowThreshold : UInt64 := 1000
  /-- how much of a statement's text is shown -/
  previewLength : UInt64 := 100
  deriving DecidableEq, Repr

end EntryStore.Sql
