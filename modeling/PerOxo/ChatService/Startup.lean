import PerOxo.ChatService.Queries
import PerOxo.Lib.Arena
import PerOxo.Lib.Machine

/-!
# Processes that start

`main.rs` of chat-service up to its server: the statements of `run_database_migrations` one after
the other, then the session for the requests and `prepare_queries`. Other processes that start run
theirs in between. A statement is atomic; one that fails may have been carried out, and ends its
process. A process that crashes is one that takes no more steps.
-/

set_option autoImplicit false

namespace PerOxo.ChatService

open Cql

/-- What a process does next. -/
inductive StartPhase
  | connecting
  | creatingKeyspace (session : Session)
  | usingKeyspace (session : Session)
  /-- So many of the tables have been created. -/
  | creatingTables (session : Session) (created : Nat)
  | buildingSession
  | preparing (session : Session)
  | serving (session : Session)
  | failed (error : DbError)

/-- The statements of `create_tables`, in their order. -/
def tableStatements : List (Session → Cluster → Except DbError Cluster) :=
  [createProjectsTable, createDirectMessagesTable, createUserConversationsTable,
    createDmLookupTable, createRoomMessagesTable, createProjectRoomsTable]

/-- The session that `run_database_migrations` returns, which `main` drops. -/
def appSession (c : Cluster) : Except DbError Session := useKeyspace (buildSession none) c

/-- What a process does to the cluster, and what it does then. -/
def StartPhase.perform (c : Cluster) : StartPhase → Option (Except DbError (Cluster × StartPhase))
  | .connecting => some (.ok (c, .creatingKeyspace (buildSession none)))
  | .creatingKeyspace session => some (.ok (createKeyspace c, .usingKeyspace session))
  | .usingKeyspace session =>
      some ((useKeyspace session c).map fun session => (c, .creatingTables session 0))
  | .creatingTables session n =>
      match tableStatements[n]? with
      | some create => some ((create session c).map fun c => (c, .creatingTables session (n + 1)))
      | none => some ((appSession c).map fun _ => (c, .buildingSession))
  | .buildingSession => some (.ok (c, .preparing mainSession))
  | .preparing session =>
      some ((session.prepare c.tables qFetchAfterMessageId).map fun () => (c, .serving session))
  | .serving _ => none
  | .failed _ => none

structure StartupsState where
  cluster : Cluster
  processes : Arena StartPhase

inductive StartupsAction
  | start
  | perform (i : Nat) (fault : Option Fault)

namespace StartupsState

/-- How the statement of a process ends. -/
def outcome (c : Cluster) :
    Except DbError (Cluster × StartPhase) → Option Fault → Cluster × StartPhase
  | .error e, _ => (c, .failed e)
  | .ok (c', phase), none => (c', phase)
  | .ok (c', _), some fault => (if fault.applied then c' else c, .failed fault.error)

def step (s : StartupsState) : StartupsAction → Option StartupsState
  | .start => some { s with processes := s.processes.alloc .connecting }
  | .perform i fault =>
      match s.processes.get? i with
      | some phase => (phase.perform s.cluster).map fun result =>
          let (cluster, phase) := outcome s.cluster result fault
          { cluster, processes := s.processes.modify i fun _ => phase }
      | none => none

end StartupsState

/-- The driver's database for the requests to a process that serves. -/
def StartupsState.db? (s : StartupsState) (display : DbError → String) (i : Nat) : Option Db :=
  match s.processes.get? i with
  | some (.serving session) => some ⟨s.cluster.tables, session, display⟩
  | _ => none

/-- What is left of a start. -/
def StartPhase.left : StartPhase → Nat
  | .connecting => tableStatements.length + 6
  | .creatingKeyspace _ => tableStatements.length + 5
  | .usingKeyspace _ => tableStatements.length + 4
  | .creatingTables _ n => tableStatements.length - n + 3
  | .buildingSession => 2
  | .preparing _ => 1
  | .serving _ => 0
  | .failed _ => 0

end PerOxo.ChatService
