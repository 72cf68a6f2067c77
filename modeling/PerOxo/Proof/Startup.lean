import PerOxo.Actors.System
import PerOxo.ChatService.Conversations
import PerOxo.ChatService.Startup

/-!
# Starting while others start

The statements of the migrations only add what is not there yet, and what they add is always the
same. So a process that starts is never refused, whatever other processes do and wherever they stop
(`StartPhase.performed`), and one that serves finds the tables as on a cluster where it has been
alone: the requests to any of them are those of one deployment (`rollout`).
-/

set_option autoImplicit false

namespace PerOxo

namespace ChatService

open Cql

/-! ## Clusters -/

/-- The tables of the migrations, in the order of their statements. -/
def tableNames : List String :=
  ["projects", "direct_messages", "user_conversations", "dm_lookup", "room_messages",
    "project_rooms"]

namespace Cluster

/-- The table is there, as the migrations leave it. -/
def Has (c : Cluster) (name : String) : Prop :=
  c.tables.lookup ("affinity", name) = migratedTables.lookup ("affinity", name)

/-- A table of the migrations that is there has the columns they give it. -/
def Compatible (c : Cluster) : Prop :=
  ∀ name ∈ tableNames, c.tables.lookup ("affinity", name) = none ∨ c.Has name

/-- Nothing goes away. -/
structure Grows (c c' : Cluster) : Prop where
  keyspaces : ∀ name ∈ c.keyspaces, name ∈ c'.keyspaces
  tables : ∀ key cols, c.tables.lookup key = some cols → c'.tables.lookup key = some cols

theorem Grows.refl (c : Cluster) : c.Grows c := ⟨fun _ => id, fun _ _ => id⟩

structure Migrated (c : Cluster) : Prop where
  keyspace : "affinity" ∈ c.keyspaces
  tables : ∀ name ∈ tableNames, c.Has name

theorem exists_migrated {name : String} (hn : name ∈ tableNames) :
    ∃ cols, migratedTables.lookup ("affinity", name) = some cols := by
  simp only [tableNames, List.mem_cons, List.not_mem_nil, or_false] at hn
  rcases hn with rfl | rfl | rfl | rfl | rfl | rfl <;> exact ⟨_, rfl⟩

variable {c c' : Cluster} {name : String}

theorem Has.mono (h : c.Has name) (hn : name ∈ tableNames) (hg : c.Grows c') : c'.Has name := by
  obtain ⟨cols, hcols⟩ := exists_migrated hn
  exact (hg.tables _ _ (h.trans hcols)).trans hcols.symm

theorem Migrated.mono (h : c.Migrated) (hg : c.Grows c') : c'.Migrated :=
  ⟨hg.keyspaces _ h.keyspace, fun name hn => (h.tables name hn).mono hn hg⟩

end Cluster

/-! ## Statements -/

section Statements

variable {c c' : Cluster} {session : Session}

theorem createKeyspace_spec (c : Cluster) :
    c.Grows (createKeyspace c) ∧ (createKeyspace c).tables = c.tables ∧
      "affinity" ∈ (createKeyspace c).keyspaces := by
  unfold createKeyspace
  split
  · next h => exact ⟨.refl c, rfl, h⟩
  · exact ⟨⟨fun name hn => List.mem_cons_of_mem _ hn, fun _ _ hk => hk⟩, rfl, List.mem_cons_self⟩

theorem useKeyspace_spec (h : "affinity" ∈ c.keyspaces) :
    useKeyspace session c = .ok { session with keyspace := some "affinity" } := if_pos h

/-- A table of the migrations is created, or is there already. -/
theorem createTable_spec {name : String} {cols : Columns} (hs : session.keyspace = some "affinity")
    (hn : name ∈ tableNames) (hm : migratedTables.lookup ("affinity", name) = some cols)
    (hc : c.Compatible) : ∃ c', createTable session name cols c = .ok c' ∧ c.Grows c' ∧
      c'.Compatible ∧ c'.Has name := by
  have hr : session.resolve ⟨none, name⟩ = .ok ("affinity", name) := by
    rw [Session.resolve, hs]
  unfold createTable
  rw [hr]
  cases hl : c.tables.lookup ("affinity", name) with
  | some cols' =>
    have hhas : c.Has name := (hc name hn).resolve_left (by rw [hl]; exact Option.some_ne_none _)
    exact ⟨c, by simp only [hl], .refl c, hc, hhas⟩
  | none =>
    refine ⟨{ c with tables := c.tables.insert ("affinity", name) cols }, by simp only [hl],
      ⟨fun _ => id, fun key cols' hk => ?_⟩, fun other ho => ?_, ?_⟩
    · rw [HashMap.lookup_insert_eq, if_neg]
      · exact hk
      · rintro rfl
        rw [hl] at hk
        cases hk
    · unfold Cluster.Has
      rw [HashMap.lookup_insert_eq]
      by_cases he : other = name
      · subst he
        rw [if_pos rfl]
        exact .inr hm.symm
      · rw [if_neg fun h => he (Prod.mk.inj h).2]
        exact hc other ho
    · unfold Cluster.Has
      rw [HashMap.lookup_insert_eq, if_pos rfl, hm]

/-- The statements are those of the tables, in the same order. -/
theorem tableStatements_get : ∀ {n : Nat} {create : Session → Cluster → Except DbError Cluster},
    tableStatements[n]? = some create → ∃ name cols, tableNames[n]? = some name ∧
      migratedTables.lookup ("affinity", name) = some cols ∧
      create = fun session => createTable session name cols
  | 0, _, rfl => ⟨_, _, rfl, rfl, rfl⟩
  | 1, _, rfl => ⟨_, _, rfl, rfl, rfl⟩
  | 2, _, rfl => ⟨_, _, rfl, rfl, rfl⟩
  | 3, _, rfl => ⟨_, _, rfl, rfl, rfl⟩
  | 4, _, rfl => ⟨_, _, rfl, rfl, rfl⟩
  | 5, _, rfl => ⟨_, _, rfl, rfl, rfl⟩
  | _ + 6, _, h => by cases h

end Statements

/-! ## A process -/

/-- What a process that has come so far relies on. -/
def StartPhase.Reached (c : Cluster) : StartPhase → Prop
  | .connecting => True
  | .creatingKeyspace _ => True
  | .usingKeyspace _ => "affinity" ∈ c.keyspaces
  | .creatingTables session n => session.keyspace = some "affinity" ∧ "affinity" ∈ c.keyspaces ∧
      ∀ name ∈ tableNames.take n, c.Has name
  | .buildingSession => c.Migrated
  | .preparing session => session = mainSession ∧ c.Migrated
  | .serving session => session = mainSession ∧ c.Migrated
  | .failed _ => True

section Process

variable {c c' : Cluster} {phase : StartPhase}

/-- What others do meanwhile does not matter. -/
theorem StartPhase.Reached.mono (h : phase.Reached c) (hg : c.Grows c') : phase.Reached c' := by
  cases phase with
  | usingKeyspace session => exact hg.keyspaces _ h
  | creatingTables session n =>
    obtain ⟨hs, hk, ht⟩ := h
    exact ⟨hs, hg.keyspaces _ hk, fun name hn =>
      (ht name hn).mono (List.mem_of_mem_take hn) hg⟩
  | buildingSession => exact Cluster.Migrated.mono h hg
  | preparing session => exact ⟨h.1, h.2.mono hg⟩
  | serving session => exact ⟨h.1, h.2.mono hg⟩
  | _ => trivial

/-- On a migrated cluster a session sees, of the tables of the migrations, what they have left. -/
theorem Cluster.Migrated.accept_eq (h : c.Migrated) {session : Session} {st : Statement}
    (hst : ∀ key, session.resolve st.table = .ok key → ∃ name ∈ tableNames,
      key = ("affinity", name)) :
    session.accept c.tables st = session.accept migratedTables st := by
  refine Session.accept_congr fun key hr => ?_
  obtain ⟨name, hn, rfl⟩ := hst key hr
  exact h.tables name hn

/-- **No statement is refused**, and the process is one step further. -/
theorem StartPhase.performed (hc : c.Compatible) (hp : phase.Reached c)
    {result : Except DbError (Cluster × StartPhase)} (h : phase.perform c = some result) :
    ∃ c' phase', result = .ok (c', phase') ∧ c.Grows c' ∧ c'.Compatible ∧ phase'.Reached c' ∧
      phase'.left + 1 = phase.left ∧ ∀ e, phase' ≠ .failed e := by
  cases phase with
  | connecting =>
    obtain rfl := Option.some.inj h
    exact ⟨c, _, rfl, .refl c, hc, trivial, rfl, nofun⟩
  | creatingKeyspace session =>
    obtain rfl := Option.some.inj h
    obtain ⟨hg, ht, hk⟩ := createKeyspace_spec c
    refine ⟨_, _, rfl, hg, fun name hn => ?_, hk, rfl, nofun⟩
    rw [Cluster.Has, ht]
    exact hc name hn
  | usingKeyspace session =>
    obtain rfl := Option.some.inj h
    rw [useKeyspace_spec hp]
    exact ⟨c, _, rfl, .refl c, hc, ⟨rfl, hp, fun name hn => by cases hn⟩, rfl, nofun⟩
  | creatingTables session n =>
    obtain ⟨hs, hk, ht⟩ := hp
    simp only [perform] at h
    split at h
    · next create hcreate =>
      obtain rfl := Option.some.inj h
      obtain ⟨name, cols, hname, hm, rfl⟩ := tableStatements_get hcreate
      obtain ⟨c', he, hg, hc', hhas⟩ := createTable_spec hs (List.mem_of_getElem? hname) hm hc
      have hlt : n < tableStatements.length := (List.getElem?_eq_some_iff.mp hcreate).1
      refine ⟨c', .creatingTables session (n + 1), congrArg _ he, hg, hc',
        ⟨hs, hg.keyspaces _ hk, fun other ho => ?_⟩, ?_, nofun⟩
      · rw [List.take_add_one, hname] at ho
        rcases List.mem_append.mp ho with ho | ho
        · exact (ht other ho).mono (List.mem_of_mem_take ho) hg
        · rw [List.mem_singleton.mp ho]
          exact hhas
      · simp only [left]
        omega
    · next hnone =>
      obtain rfl := Option.some.inj h
      have hle : tableStatements.length ≤ n := List.getElem?_eq_none_iff.mp hnone
      refine ⟨c, .buildingSession, by rw [appSession, useKeyspace_spec hk]; rfl, .refl c, hc,
        ⟨hk, fun name hn => ?_⟩, ?_, nofun⟩
      · exact ht name (by rwa [List.take_of_length_le (show tableNames.length ≤ n from hle)])
      · simp only [left]
        omega
  | buildingSession =>
    obtain rfl := Option.some.inj h
    exact ⟨c, _, rfl, .refl c, hc, ⟨rfl, hp⟩, rfl, nofun⟩
  | preparing session =>
    obtain ⟨rfl, hm⟩ := hp
    obtain rfl := Option.some.inj h
    have hprepare : mainSession.prepare c.tables qFetchAfterMessageId = .ok () := by
      refine (hm.accept_eq ?_).trans rfl
      rintro key ⟨⟩
      exact ⟨"direct_messages", by decide, rfl⟩
    rw [hprepare]
    exact ⟨c, _, rfl, .refl c, hc, ⟨rfl, hm⟩, rfl, nofun⟩
  | serving session => cases h
  | failed e => cases h

end Process

/-! ## The processes together -/

structure StartupsState.Sound (s : StartupsState) : Prop where
  compatible : s.cluster.Compatible
  reached : ∀ i phase, s.processes.get? i = some phase → phase.Reached s.cluster

section Processes

variable {s s' : StartupsState}

theorem StartPhase.outcome_spec {c : Cluster} {phase : StartPhase} (hc : c.Compatible)
    (hp : phase.Reached c) {result : Except DbError (Cluster × StartPhase)}
    (h : phase.perform c = some result) (fault : Option Fault) :
    let next := StartupsState.outcome c result fault
    c.Grows next.1 ∧ next.1.Compatible ∧ next.2.Reached next.1 := by
  obtain ⟨c', phase', rfl, hg, hc', hp', -, -⟩ := performed hc hp h
  cases fault with
  | none => exact ⟨hg, hc', hp'⟩
  | some f =>
    -- The process is over, and its statement has been carried out or not.
    simp only [StartupsState.outcome]
    split
    · exact ⟨hg, hc', trivial⟩
    · exact ⟨.refl c, hc, trivial⟩

theorem StartupsState.Sound.step {act : StartupsAction} (hi : s.Sound) (h : s.step act = some s') :
    s'.Sound := by
  cases act with
  | start =>
    obtain rfl := Option.some.inj h
    refine ⟨hi.compatible, fun i phase hp => ?_⟩
    rcases Arena.get?_alloc_eq_some.mp hp with ⟨-, rfl⟩ | hp
    · trivial
    · exact hi.reached i phase hp
  | perform i fault =>
    simp only [StartupsState.step] at h
    split at h
    · next phase hphase =>
      obtain ⟨result, hresult, rfl⟩ := Option.map_eq_some_iff.mp h
      obtain ⟨hg, hc, hp⟩ :=
        StartPhase.outcome_spec hi.compatible (hi.reached i phase hphase) hresult fault
      refine ⟨hc, fun j other ho => ?_⟩
      rcases Arena.get?_modify_eq_some.mp ho with ⟨rfl, -, -, rfl⟩ | ⟨-, ho⟩
      · exact hp
      · exact (hi.reached j other ho).mono hg
    · cases h

theorem StartPhase.exists_perform {phase : StartPhase} (c : Cluster) (h : phase.left ≠ 0) :
    ∃ result, phase.perform c = some result := by
  cases phase with
  | creatingTables session n =>
    simp only [perform]
    cases tableStatements[n]? <;> exact ⟨_, rfl⟩
  | serving session => exact absurd rfl h
  | failed e => exact absurd rfl h
  | _ => exact ⟨_, rfl⟩

/-- A process that nothing has failed for takes its next step. -/
theorem StartupsState.Sound.perform_next (hi : s.Sound) {i : Nat} {phase : StartPhase}
    (hp : s.processes.get? i = some phase) (hl : phase.left ≠ 0) : ∃ s' phase',
      s.step (.perform i none) = some s' ∧ s'.processes.get? i = some phase' ∧
        phase'.left + 1 = phase.left ∧ ∀ e, phase' ≠ .failed e := by
  obtain ⟨result, hresult⟩ := StartPhase.exists_perform s.cluster hl
  obtain ⟨c', phase', rfl, -, -, -, hleft, hok⟩ :=
    StartPhase.performed hi.compatible (hi.reached i phase hp) hresult
  refine ⟨⟨c', s.processes.modify i fun _ => phase'⟩, phase', ?_, Arena.get?_modify_self hp, hleft,
    hok⟩
  simp only [StartupsState.step, hp, hresult]
  rfl

theorem StartPhase.serving_of_left {c : Cluster} {phase : StartPhase} (hp : phase.Reached c)
    (hl : phase.left = 0) (hf : ∀ e, phase ≠ .failed e) : phase = .serving mainSession := by
  cases phase with
  | serving session => rw [hp.1]
  | failed e => exact absurd rfl (hf e)
  | _ => simp [left] at hl

end Processes

/-! ## Requests -/

/-- The statements of the requests. -/
def statements : List Statement :=
  [selectUserConversations, selectConversationHistory, selectPaginatedMessages false,
    selectPaginatedMessages true, selectPaginatedRoomMessages false,
    selectPaginatedRoomMessages true, qFetchAfterMessageId, insertDirectMessage,
    insertUserConversation, insertRoomMessage, updateProjectRoom, selectDmLookup, insertDmLookup]

/-- The two databases admit the same, and print errors alike. -/
structure Db.Agrees (db db' : Db) : Prop where
  display : db.display = db'.display
  admits : ∀ st ∈ statements, db.session.accept db.schema st = db'.session.accept db'.schema st

/-- On a migrated cluster the requests see what the migrations leave. -/
theorem Cluster.Migrated.agrees {c : Cluster} (hm : c.Migrated) (display : DbError → String) :
    Db.Agrees ⟨c.tables, mainSession, display⟩ ⟨migratedTables, mainSession, display⟩ := by
  refine ⟨rfl, fun st hst => hm.accept_eq fun key hr => ?_⟩
  have htable : ∀ st ∈ statements, st.table.keyspace = none ∨
      st.table.keyspace = some "affinity" ∧ st.table.name ∈ tableNames := by decide
  rcases htable st hst with hnone | ⟨hks, hname⟩
  · simp [Session.resolve, hnone, mainSession, buildSession, Session.exact] at hr
  · simp only [Session.resolve, hks, Except.ok.injEq] at hr
    exact ⟨_, hname, hr.symm⟩

namespace Db.Agrees

variable {db db' : Db}

theorem query_eq (h : db.Agrees db') {st : Statement} (hst : st ∈ statements)
    (fault : Option Fault) : db.query fault st = db'.query fault st := by
  unfold Db.query
  rw [h.admits st hst]

theorem batch_eq (h : db.Agrees db') {sts : List Statement} (hsts : ∀ st ∈ sts, st ∈ statements)
    (fault : Option Fault) (apply : Store → Store) (store : Store) :
    db.batch fault sts apply store = db'.batch fault sts apply store := by
  have hacc : db.session.acceptBatch db.schema sts = db'.session.acceptBatch db'.schema sts :=
    Session.acceptBatch_congr fun st hst => h.admits st (hsts st hst)
  unfold Db.batch
  rw [hacc]

/-! ### The handlers -/

theorem writeDm_eq (h : db.Agrees db') :
    ChatServiceImpl.writeDm db = ChatServiceImpl.writeDm db' := by
  funext fault store req
  have hbatch : ∀ m, writeDirectMessage db fault m store = writeDirectMessage db' fault m store :=
    fun m => h.batch_eq (by simp [statements]) fault _ store
  have hresponse : writeResponse db = writeResponse db' := by
    funext r
    cases r <;> simp [writeResponse, h.display]
  simp only [ChatServiceImpl.writeDm, hbatch, hresponse]

theorem writeRoomMessage_eq (h : db.Agrees db') :
    ChatServiceImpl.writeRoomMessage db = ChatServiceImpl.writeRoomMessage db' := by
  funext fault store req
  have hbatch : ∀ m, writeRoomMessage db fault m store = writeRoomMessage db' fault m store :=
    fun m => h.batch_eq (by simp [statements]) fault _ store
  have hresponse : writeResponse db = writeResponse db' := by
    funext r
    cases r <;> simp [writeResponse, h.display]
  simp only [ChatServiceImpl.writeRoomMessage, hbatch, hresponse]

theorem getPaginatedMessages_eq (h : db.Agrees db') :
    ChatServiceImpl.getPaginatedMessages db = ChatServiceImpl.getPaginatedMessages db' := by
  funext fault store req
  have hquery : ∀ b, db.query fault (selectPaginatedMessages b) =
      db'.query fault (selectPaginatedMessages b) := fun b =>
    h.query_eq (by cases b <;> simp [statements]) fault
  simp only [ChatServiceImpl.getPaginatedMessages, fetchPaginatedMessages, hquery, h.display]

theorem getPaginatedRoomMessages_eq (h : db.Agrees db') :
    ChatServiceImpl.getPaginatedRoomMessages db = ChatServiceImpl.getPaginatedRoomMessages db' := by
  funext fault store req
  have hquery : ∀ b, db.query fault (selectPaginatedRoomMessages b) =
      db'.query fault (selectPaginatedRoomMessages b) := fun b =>
    h.query_eq (by cases b <;> simp [statements]) fault
  simp only [ChatServiceImpl.getPaginatedRoomMessages, fetchPaginatedRoomMessages, hquery,
    h.display]

theorem syncMessages_eq (h : db.Agrees db') :
    ChatServiceImpl.syncMessages db = ChatServiceImpl.syncMessages db' := by
  funext fault store req
  have hquery := h.query_eq (show qFetchAfterMessageId ∈ statements by simp [statements]) fault
  simp only [ChatServiceImpl.syncMessages, fetchMessagesAfter, hquery, h.display]

theorem fetchConversationHistory_eq (h : db.Agrees db') :
    ChatServiceImpl.fetchConversationHistory db = ChatServiceImpl.fetchConversationHistory db' := by
  funext fault store req
  have hquery := h.query_eq (show selectConversationHistory ∈ statements by simp [statements]) fault
  simp only [ChatServiceImpl.fetchConversationHistory, fetchConversationHistory, hquery, h.display]

theorem fetchUserConversations_eq (h : db.Agrees db') :
    ChatServiceImpl.fetchUserConversations db = ChatServiceImpl.fetchUserConversations db' := by
  funext fault store req
  have hquery := h.query_eq (show selectUserConversations ∈ statements by simp [statements]) fault
  simp only [ChatServiceImpl.fetchUserConversations, fetchUserConversations, hquery, h.display]

theorem getSertSystem_eq (h : db.Agrees db') (store : Store) :
    getSertSystem db store = getSertSystem db' store := by
  have hselect : ∀ fault st p a b,
      getsertSelect db fault st p a b = getsertSelect db' fault st p a b := by
    intro fault st p a b
    rw [getsertSelect, getsertSelect, h.query_eq (by simp [statements]) fault]
  have hinsert : ∀ fault p a b id now st,
      getsertInsert db fault p a b id now st = getsertInsert db' fault p a b id now st :=
    fun fault p a b id now st => h.batch_eq (by simp [statements]) fault _ st
  have hresponse : getSertConversationResponse db = getSertConversationResponse db' := by
    funext r
    cases r <;> simp [getSertConversationResponse, h.display]
  have hstep : GetSertState.step db = GetSertState.step db' := by
    funext s act
    cases act with
    | call request => rfl
    | select k fault => simp only [GetSertState.step, GetSertState.selectStep, hselect, hresponse]
    | insert k fault newId now =>
      simp only [GetSertState.step, GetSertState.insertStep, hinsert, hresponse]
  rw [getSertSystem, getSertSystem, hstep]

end Db.Agrees

end ChatService

open ChatService Cql

/-- The server of PerOxo does not see which of two databases chat-service uses. -/
theorem ChatService.Db.Agrees.system_eq {db db' : Db} (h : db.Agrees db') (store : Store) :
    system db store = system db' store := by
  have hserve : ∀ request : WriteRequest, ∀ fault st,
      request.serve db fault st = request.serve db' fault st := by
    intro request fault st
    cases request with
    | dm req => rw [WriteRequest.serve, WriteRequest.serve, h.writeDm_eq]
    | room req => rw [WriteRequest.serve, WriteRequest.serve, h.writeRoomMessage_eq]
  have hstep : State.step db = State.step db' := by
    funext s act
    cases act with
    | serveWrite c fault => simp only [State.step, State.serveWrite, hserve]
    | serveHistory t fault =>
      simp only [State.step, State.serveHistory, h.getPaginatedMessages_eq]
    | serveSync t fault => simp only [State.step, State.serveSync, h.syncMessages_eq]
    | _ => rfl
  rw [system, system, hstep]

/-! ## A deployment -/

/-- Processes of chat-service that start, and the server of PerOxo. -/
structure Deployment where
  startups : StartupsState
  server : State

inductive DeploymentAction
  | startup (act : StartupsAction)
  /-- A step of the server, whose requests the process `i` gets. -/
  | serve (i : Nat) (act : Action)

def Deployment.step (display : DbError → String) (s : Deployment) :
    DeploymentAction → Option Deployment
  | .startup act => (s.startups.step act).map fun startups => { s with startups }
  | .serve i act =>
      (s.startups.db? display i).bind fun db =>
        (s.server.step db act).map fun server => { s with server }

/-- Nothing has started yet on a cluster. -/
def deploymentSystem (display : DbError → String) (c : Cluster) (store : Store) :
    Machine Deployment DeploymentAction where
  init := ⟨⟨c, .empty⟩, .start store⟩
  step := Deployment.step display

def DeploymentAction.server : DeploymentAction → List Action
  | .startup _ => []
  | .serve _ act => [act]

section Rollout

variable {display : DbError → String} {c : Cluster} {store : Store} {t : Deployment}
  {acts : List DeploymentAction}

/-- A process that nothing fails for any more comes to serve by its own statements. -/
theorem comes_up {i : Nat} {phase : StartPhase} (hi : t.startups.Sound)
    (hp : t.startups.processes.get? i = some phase) (hf : ∀ e, phase ≠ .failed e) :
    ∃ u, (deploymentSystem display c store).Run t
        (List.replicate phase.left (.startup (.perform i none))) u ∧ u.server = t.server ∧
      u.startups.processes.get? i = some (.serving mainSession) := by
  induction hl : phase.left generalizing phase t with
  | zero =>
    obtain rfl := StartPhase.serving_of_left (hi.reached i phase hp) hl hf
    exact ⟨t, .nil t, rfl, hp⟩
  | succ n ih =>
    obtain ⟨s', phase', hs, hp', hleft, hf'⟩ :=
      hi.perform_next hp (by rw [hl]; exact Nat.succ_ne_zero n)
    obtain ⟨u, hu, hserver, hserving⟩ :=
      ih (t := { t with startups := s' }) (hi.step hs) hp' hf' (by omega)
    refine ⟨u, .cons ?_ hu, hserver, hserving⟩
    exact Option.map_eq_some_iff.mpr ⟨s', hs, rfl⟩

/-- What a deployment has come to. -/
structure RolledOut (display : DbError → String) (c : Cluster) (store : Store)
    (acts : List DeploymentAction) (t : Deployment) : Prop where
  /-- The server has run as over one deployment that was complete from the beginning. -/
  simulates : (system ⟨migratedTables, mainSession, display⟩ store).Run (.start store)
    (acts.flatMap (·.server)) t.server
  unrefused : ∀ i phase e, t.startups.processes.get? i = some phase →
    phase.perform t.startups.cluster ≠ some (.error e)
  comesUp : ∀ i phase, t.startups.processes.get? i = some phase → (∀ e, phase ≠ .failed e) →
    ∃ u, (deploymentSystem display c store).Run t
        (List.replicate phase.left (.startup (.perform i none))) u ∧ u.server = t.server ∧
      u.startups.processes.get? i = some (.serving mainSession)
  /-- All processes that serve answer the other requests alike. -/
  alike : ∀ i db, t.startups.db? display i = some db → ∀ st,
    getSertSystem db st = getSertSystem ⟨migratedTables, mainSession, display⟩ st ∧
    ChatServiceImpl.getPaginatedRoomMessages db =
      ChatServiceImpl.getPaginatedRoomMessages ⟨migratedTables, mainSession, display⟩ ∧
    ChatServiceImpl.fetchConversationHistory db =
      ChatServiceImpl.fetchConversationHistory ⟨migratedTables, mainSession, display⟩ ∧
    ChatServiceImpl.fetchUserConversations db =
      ChatServiceImpl.fetchUserConversations ⟨migratedTables, mainSession, display⟩

theorem ChatService.StartupsState.Sound.agrees {s : StartupsState} (hi : s.Sound) {i : Nat}
    {db : Db} (h : s.db? display i = some db) : db.Agrees ⟨migratedTables, mainSession, display⟩ := by
  unfold StartupsState.db? at h
  split at h
  · next session hp =>
    obtain rfl := Option.some.inj h
    obtain ⟨rfl, hm⟩ := hi.reached i _ hp
    exact hm.agrees display
  · cases h

/-- A step of the deployment is one of the server over the complete one, or none. -/
theorem deployment_step (s : Deployment) (act : DeploymentAction) (s' : Deployment) (server : State)
    (h : (deploymentSystem display c store).step s act = some s')
    (hr : s.startups.Sound ∧ server = s.server) : ∃ server',
      (system ⟨migratedTables, mainSession, display⟩ store).Run server act.server server' ∧
        s'.startups.Sound ∧ server' = s'.server := by
  obtain ⟨hi, rfl⟩ := hr
  cases act with
  | startup act =>
    obtain ⟨startups, hs, rfl⟩ := Option.map_eq_some_iff.mp h
    exact ⟨s.server, .nil _, hi.step hs, rfl⟩
  | serve i act =>
    obtain ⟨db, hdb, h⟩ := Option.bind_eq_some_iff.mp h
    obtain ⟨server', hs, rfl⟩ := Option.map_eq_some_iff.mp h
    refine ⟨server', .cons ?_ (.nil _), hi, rfl⟩
    rw [← (hi.agrees hdb).system_eq store]
    exact hs

/-- **Rolling out.** Any number of processes start on a cluster, with the statements of all of them
in any order, failing and crashing anywhere, while others serve already: no statement is ever
refused, each process that nothing fails for comes to serve, and to the server it is all one
deployment. -/
theorem rollout (hc : c.Compatible)
    (h : (deploymentSystem display c store).Run ⟨⟨c, .empty⟩, .start store⟩ acts t) :
    RolledOut display c store acts t := by
  obtain ⟨server, hrun, hsound, rfl⟩ := h.simulates_collect
    (N := system ⟨migratedTables, mainSession, display⟩ store)
    (R := fun s server => s.startups.Sound ∧ server = s.server) (f := fun _ act => act.server)
    deployment_step (w := .start store) ⟨⟨hc, fun i phase hp => by cases hp⟩, rfl⟩
  rw [h.collect_labels] at hrun
  constructor
  · exact hrun
  · intro i phase e hp hperform
    obtain ⟨c', phase', he, -⟩ :=
      StartPhase.performed hsound.compatible (hsound.reached i phase hp) hperform
    cases he
  · exact fun i phase hp hf => comes_up hsound hp hf
  · intro i db hdb st
    have ha := hsound.agrees hdb
    exact ⟨ha.getSertSystem_eq st, ha.getPaginatedRoomMessages_eq, ha.fetchConversationHistory_eq,
      ha.fetchUserConversations_eq⟩

end Rollout

/-- Of two processes the one fails after two tables; the other serves a user. -/
def twoStarts : List DeploymentAction :=
  [.startup .start, .startup .start] ++ List.replicate 5 (.startup (.perform 0 none)) ++
    List.replicate 12 (.startup (.perform 1 none)) ++
    [.startup (.perform 0 (some ⟨.failed "timeout", true⟩)), .serve 1 (.connect ⟨"acme", "alice"⟩),
      .serve 1 (.router 0 0), .serve 1 (.finishCreation 0)]

theorem rollout_twoStarts :
    ∃ t, (deploymentSystem (fun _ => "database error") ⟨["system"], ∅⟩ .empty).exec
        ⟨⟨⟨["system"], ∅⟩, .empty⟩, .start .empty⟩ twoStarts = some t ∧
      t.server.router.onlineUsers = [⟨"acme", "alice"⟩] ∧
      RolledOut (fun _ => "database error") ⟨["system"], ∅⟩ .empty twoStarts t := by
  obtain ⟨t, ht, honline⟩ := Option.map_eq_some_iff.mp
    (show ((deploymentSystem (fun _ => "database error") ⟨["system"], ∅⟩ .empty).exec
        ⟨⟨⟨["system"], ∅⟩, .empty⟩, .start .empty⟩ twoStarts).map (·.server.router.onlineUsers) =
      some [⟨"acme", "alice"⟩] from rfl)
  have hc : Cluster.Compatible ⟨["system"], ∅⟩ := fun name hn => .inl (AList.lookup_empty _)
  exact ⟨t, ht, honline, rollout hc (Machine.run_of_exec ht)⟩

end PerOxo
