import PerOxo.Lib.Cql

/-!
# Keyspace, tables and sessions of chat-service

`migrations/migration.rs` and the session that `main.rs` builds. `runDatabaseMigrations`
creates the keyspace `affinity` and, on a session switched to it, the tables by their bare
names; it also opens an application session with that keyspace, which it returns. `main`
drops that one and builds its own, without a keyspace (`mainSession`).
-/

set_option autoImplicit false

namespace PerOxo.ChatService

open Cql

/-- What the migrations change of the cluster. -/
structure Cluster where
  keyspaces : List String
  tables : Schema

/-- `SessionBuilder::build`, with or without a `use_keyspace`. -/
def buildSession (useKeyspace : Option String) : Session := .exact useKeyspace

def createKeyspace (c : Cluster) : Cluster :=
  if "affinity" ∈ c.keyspaces then c else { c with keyspaces := "affinity" :: c.keyspaces }

def useKeyspace (s : Session) (c : Cluster) : Except DbError Session :=
  if "affinity" ∈ c.keyspaces then .ok { s with keyspace := some "affinity" }
  else .error .noKeyspace

/-- `CREATE TABLE IF NOT EXISTS name (cols)`. -/
def createTable (s : Session) (name : String) (cols : Columns) (c : Cluster) :
    Except DbError Cluster :=
  match s.resolve ⟨none, name⟩ with
  | .error e => .error e
  | .ok key =>
      match c.tables.lookup key with
      | some _ => .ok c
      | none => .ok { c with tables := c.tables.insert key cols }

def createProjectsTable (s : Session) : Cluster → Except DbError Cluster :=
  createTable s "projects"
    [("project_id", .text), ("name", .text), ("created_at", .timestamp)]

def createDirectMessagesTable (s : Session) : Cluster → Except DbError Cluster :=
  createTable s "direct_messages"
    [("project_id", .text), ("conversation_id", .text), ("message_id", .timeuuid),
      ("sender_id", .text), ("recipient_id", .text), ("message_text", .text),
      ("created_at", .timestamp)]

def createUserConversationsTable (s : Session) : Cluster → Except DbError Cluster :=
  createTable s "user_conversations"
    [("project_id", .text), ("user_id", .text), ("conversation_id", .text),
      ("last_message", .timestamp)]

def createDmLookupTable (s : Session) : Cluster → Except DbError Cluster :=
  createTable s "dm_lookup"
    [("project_id", .text), ("user_id_1", .text), ("user_id_2", .text),
      ("conversation_id", .text), ("created_at", .timestamp)]

def createRoomMessagesTable (s : Session) : Cluster → Except DbError Cluster :=
  createTable s "room_messages"
    [("project_id", .text), ("room_id", .text), ("message_id", .timeuuid),
      ("sender_id", .text), ("content", .text), ("created_at", .timestamp)]

def createProjectRoomsTable (s : Session) : Cluster → Except DbError Cluster :=
  createTable s "project_rooms"
    [("project_id", .text), ("room_id", .text), ("last_activity", .timestamp)]

def createTables (s : Session) (c : Cluster) : Except DbError Cluster := do
  let c ← createProjectsTable s c
  let c ← createDirectMessagesTable s c
  let c ← createUserConversationsTable s c
  let c ← createDmLookupTable s c
  let c ← createRoomMessagesTable s c
  createProjectRoomsTable s c

def runMigrations (s : Session) (c : Cluster) : Except DbError Cluster := do
  let c := createKeyspace c
  let s ← useKeyspace s c
  createTables s c

def runDatabaseMigrations (c : Cluster) : Except DbError (Cluster × Session) := do
  let c ← runMigrations (buildSession none) c
  return (c, buildSession (some "affinity"))

/-- The session `main` serves requests with: a second one, built after the migrations. -/
def mainSession : Session := buildSession none

/-- What a statement is run on: the tables, the session, and how the driver's errors print. -/
structure Db where
  schema : Schema
  session : Session
  display : DbError → String

/-- The deployment: a fresh cluster after `runDatabaseMigrations`, and `main`'s session. -/
def deployed (display : DbError → String) : Except DbError Db := do
  let (c, _) ← runDatabaseMigrations ⟨[], ∅⟩
  return ⟨c.tables, mainSession, display⟩

/-- The tables the migrations leave on a fresh cluster. -/
def migratedTables : Schema :=
  match runDatabaseMigrations ⟨[], ∅⟩ with
  | .ok (c, _) => c.tables
  | .error _ => ∅

theorem deployed_eq (display : DbError → String) :
    deployed display = .ok ⟨migratedTables, mainSession, display⟩ := rfl

/-- The deployment, every error printed alike. -/
def mainDb : Db := ⟨migratedTables, mainSession, fun _ => "database error"⟩

/-- The migrated tables on a session that has their keyspace, with a driver that also takes a
`Uuid` for a `timeuuid`: here all statements of chat-service are admitted. -/
def lenientDb : Db where
  schema := migratedTables
  session := ⟨some "affinity", fun r t => r.counterpart == t || (r == .uuid && t == .timeuuid)⟩
  display _ := "database error"

end PerOxo.ChatService
