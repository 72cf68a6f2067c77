import PerOxo.Proof.Steps

/-!
# Registration

Which session is registered for a user, over all runs. An `UnregisterUser` names a user and
not a session, so that it takes off the right registration rests on an invariant that ties
the router's map, the sessions and the messages still in the mailbox together.

The part of the state this is about is `Registry`. A step of the system does one of seven
things to it, or nothing (`State.registry_step`), and `Registry.Ok` is kept by each of them.
-/

set_option autoImplicit false

namespace PerOxo

/-! ## The view -/

structure Registry where
  users : HashMap TenantUserId SessionId
  onlineUsers : List TenantUserId
  mailbox : List (Envelope RouterMessage)
  processed : List (Envelope RouterMessage)
  sessions : Arena UserSession

def State.registry (s : State) : Registry where
  users := s.router.users
  onlineUsers := s.router.onlineUsers
  mailbox := s.mailbox
  processed := s.processed
  sessions := s.sessions

def RouterMessage.isRegister : RouterMessage → Bool
  | .registerUser _ _ _ => true
  | _ => false

def RouterMessage.isUnregister : RouterMessage → Bool
  | .unregisterUser _ => true
  | _ => false

/-- What the receive task of a session of `u` sends to the router: always in the name of `u`,
and with its own channel. -/
inductive Requests (sid : SessionId) (u : TenantUserId) : RouterMessage → Prop
  | sendDirectMessage (conversationId : String) (toUser : TenantUserId) (content : String)
      (id : Uuid) (k : Option AckId) :
      Requests sid u (.sendDirectMessage conversationId u toUser content id k)
  | getPaginatedMessages (projectId : String) (messageId : Option Uuid)
      (conversationId : String) (k : HistoryId) :
      Requests sid u (.getPaginatedMessages projectId messageId conversationId k)
  | sendRoomMessage (roomId content : String) (id : Uuid) (k : Option AckId) :
      Requests sid u (.sendRoomMessage roomId u content id k)
  | joinRoom (roomId : String) (j : JoinId) : Requests sid u (.joinRoom u roomId sid j)
  | syncMessages (projectId conversationId : String) (messageId : Uuid) (k : SyncId) :
      Requests sid u (.syncMessages projectId conversationId messageId k)

theorem Requests.isRegister {sid : SessionId} {u : TenantUserId} {m : RouterMessage}
    (h : Requests sid u m) : m.isRegister = false := by
  cases h <;> rfl

theorem Requests.isUnregister {sid : SessionId} {u : TenantUserId} {m : RouterMessage}
    (h : Requests sid u m) : m.isUnregister = false := by
  cases h <;> rfl

namespace Registry

def post (r : Registry) (origin : SessionId) (m : RouterMessage) : Registry :=
  { r with mailbox := r.mailbox ++ [⟨origin, m⟩] }

def modifySession (r : Registry) (sid : SessionId) (f : UserSession → UserSession) : Registry :=
  { r with sessions := r.sessions.modify sid f }

def take (r : Registry) (e : Envelope RouterMessage) (rest : List (Envelope RouterMessage)) :
    Registry :=
  { r with mailbox := rest, processed := r.processed ++ [e] }

def reply (r : Registry) (sid : SessionId) (res : Except String Unit) : Registry :=
  r.modifySession sid fun u => { u with registration := u.registration.send res }

/-- What the router does about registrations. -/
def handle (r : Registry) : RouterMessage → Registry
  | .registerUser u sender respondTo =>
      match r.users.lookup u with
      | some _ => r.reply respondTo (.error "User already online")
      | none =>
          { r with
            users := r.users.insert u sender
            onlineUsers := r.onlineUsers ++ [u] }.reply respondTo (.ok ())
  | .unregisterUser u =>
      match r.users.lookup u with
      | some _ =>
          { r with users := r.users.erase u, onlineUsers := r.onlineUsers.filter (· ≠ u) }
      | none => r
  | _ => r

/-- The router itself sends nothing to its own mailbox. -/
theorem handle_mailbox (r : Registry) (m : RouterMessage) : (r.handle m).mailbox = r.mailbox := by
  cases m with
  | registerUser u sender respondTo =>
    simp only [handle]
    split <;> rfl
  | unregisterUser u =>
    simp only [handle]
    split <;> rfl
  | _ => rfl

theorem handle_processed (r : Registry) (m : RouterMessage) :
    (r.handle m).processed = r.processed := by
  cases m with
  | registerUser u sender respondTo =>
    simp only [handle]
    split <;> rfl
  | unregisterUser u =>
    simp only [handle]
    split <;> rfl
  | _ => rfl

/-- A change of a session that leaves alone who it is and how far its creation has come. -/
def Internal (f : UserSession → UserSession) : Prop :=
  ∀ u, (f u).tenantUserId = u.tenantUserId ∧ (f u).phase = u.phase ∧
    (f u).registration = u.registration

/-- What a step of the system does to the registry. -/
inductive Step (r : Registry) : Registry → Prop
  | connect (u : TenantUserId) :
      Step r ({ r with sessions := r.sessions.alloc ⟨u, .creating, .pending, .idle, .idle⟩ }.post
        r.sessions.next (.registerUser u r.sessions.next r.sessions.next))
  | start {sid : SessionId} {u : UserSession} (found : r.sessions.get? sid = some u)
      (creating : u.phase = .creating) (accepted : u.registration = .sent (.ok ())) :
      Step r (r.modifySession sid fun u =>
        { u with phase := .running, sendTask := .running, recvTask := .running })
  | fail {sid : SessionId} {u : UserSession} (e : String)
      (found : r.sessions.get? sid = some u) (creating : u.phase = .creating)
      (answered : u.registration ≠ .pending) (rejected : u.registration ≠ .sent (.ok ())) :
      Step r (r.modifySession sid fun u => { u with phase := .failed e })
  | request {sid : SessionId} {u : UserSession} {m : RouterMessage}
      (found : r.sessions.get? sid = some u) (requests : Requests sid u.tenantUserId m) :
      Step r (r.post sid m)
  | task {sid : SessionId} {u : UserSession} {f : UserSession → UserSession}
      (found : r.sessions.get? sid = some u) (internal : Internal f)
      (idle : u.recvTask = .idle → (f u).recvTask = .idle) : Step r (r.modifySession sid f)
  | finish {sid : SessionId} {u : UserSession} (found : r.sessions.get? sid = some u)
      (running : u.phase = .running) :
      Step r ((r.modifySession sid fun u => { u with
        phase := .ended, sendTask := u.sendTask.abort, recvTask := u.recvTask.abort }).post sid
          (.unregisterUser u.tenantUserId))
  | route {e : Envelope RouterMessage} {rest : List (Envelope RouterMessage)}
      (next : r.mailbox = e :: rest) : Step r ((r.take e rest).handle e.message)

end Registry

/-! ## What the steps of the system do to it -/

namespace State

theorem registry_handle (s : State) (o : SessionId) (p n : Int) (m : RouterMessage) :
    (s.handleRouterMessage o p n m).registry = s.registry.handle m := by
  generalize h : s.handleRouterMessage o p n m = t
  have hv : s.registry.users = s.router.users := rfl
  cases handledByRouter h with
  | refusedRegistration sender respondTo online =>
    simp only [Registry.handle, hv, online]
    rfl
  | registered sender respondTo offline =>
    simp only [Registry.handle, hv, offline]
    rfl
  | unregistered online =>
    simp only [Registry.handle, hv, online]
    rfl
  | notRegistered offline => simp only [Registry.handle, hv, offline]
  | _ => rfl

theorem registry_handleMessage (s : State) (a : ActorId) (r : RoomActor) (p : Int)
    (m : RoomMessage) : (s.handleMessage a r p m).registry = s.registry := by
  generalize h : s.handleMessage a r p m = t
  cases handledByRoom h <;> rfl

/-- A frame of a session is a request of it, or leaves the registry alone. -/
theorem registry_handleFrame {s t : State} {sid : SessionId} {u : UserSession} {id : Uuid}
    {text : Option ChatMessage} (hu : s.sessions.get? sid = some u)
    (h : s.handleFrame sid u.tenantUserId id text = t) :
    t.registry = s.registry ∨ s.registry.Step t.registry := by
  cases framed h with
  | ignored text => exact .inl rfl
  | direct c v m i => exact .inr (.request hu (.sendDirectMessage _ _ _ _ _))
  | history p i c => exact .inr (.request hu (.getPaginatedMessages _ _ _ _))
  | room roomId content i => exact .inr (.request hu (.sendRoomMessage _ _ _ _))
  | join roomId => exact .inr (.request hu (.joinRoom _ _))
  | sync p c i => exact .inr (.request hu (.syncMessages _ _ _ _))

/-- **What a step does to the registry**: nothing, or one of the steps of `Registry.Step`. -/
theorem registry_step {db : ChatService.Db} {s s' : State} {a : Action}
    (h : s.step db a = some s') :
    s'.registry = s.registry ∨ s.registry.Step s'.registry := by
  cases stepped h with
  | connected u => exact .inr (.connect u)
  | started found creating accepted => exact .inr (.start found creating accepted)
  | failed e found creating answered rejected =>
    exact .inr (.fail e found creating answered rejected)
  | framed found active fresh result => exact registry_handleFrame found result
  | recvEnded found active =>
    refine .inr (.task found (fun u => ⟨rfl, rfl, rfl⟩) fun hi => ?_)
    rw [hi] at active
    exact absurd active (by decide)
  | sendFailed found active =>
    exact .inr (.task found (fun u => ⟨rfl, rfl, rfl⟩) fun hi => hi)
  | sendEnded found active =>
    exact .inr (.task found (fun u => ⟨rfl, rfl, rfl⟩) fun hi => hi)
  | ended found running finished => exact .inr (.finish found running)
  | routed next result =>
    rw [← result, registry_handle]
    exact .inr (.route next)
  | @roomHandled a r e rest p t found alive next result =>
    rw [← result]
    exact .inl (registry_handleMessage _ a r p e.message)
  | _ => exact .inl rfl

end State

/-! ## The invariant -/

namespace Registry

/-- How many messages of a session in `l` satisfy `p`. -/
def countFrom (p : RouterMessage → Bool) (sid : SessionId) (l : List (Envelope RouterMessage)) :
    Nat :=
  l.countP fun e => decide (e.origin = sid) && p e.message

/-- A registration or unregistration names the user, and the sender, of the session it
comes from. -/
def Names (sid : SessionId) (u : TenantUserId) : RouterMessage → Prop
  | .registerUser v sender respondTo => v = u ∧ sender = sid ∧ respondTo = sid
  | .unregisterUser v => v = u
  | _ => True

/-- The envelope comes from a session and names it rightly. -/
def Named (sessions : Arena UserSession) (e : Envelope RouterMessage) : Prop :=
  ∃ u, sessions.get? e.origin = some u ∧ Names e.origin u.tenantUserId e.message

/-- The registration of the session was accepted. -/
def Accepted (r : Registry) (sid : SessionId) (v : TenantUserId) : Prop :=
  ∃ u, r.sessions.get? sid = some u ∧ u.tenantUserId = v ∧ u.registration = .sent (.ok ())

/-- What holds of a session, its messages in the mailbox and those the router has taken. -/
structure SessionOk (r : Registry) (sid : SessionId) (u : UserSession) : Prop where
  /-- It waits exactly as long as its `RegisterUser` is in the mailbox. -/
  registers : countFrom RouterMessage.isRegister sid r.mailbox =
    if u.registration = .pending then 1 else 0
  /-- It sends an `UnregisterUser` when it ends, and only then. -/
  unregisters : countFrom RouterMessage.isUnregister sid r.mailbox +
      countFrom RouterMessage.isUnregister sid r.processed = if u.phase = .ended then 1 else 0
  accepted : u.phase = .running ∨ u.phase = .ended → u.registration = .sent (.ok ())
  rejected : ∀ e, u.phase = .failed e →
    u.registration ≠ .pending ∧ u.registration ≠ .sent (.ok ())
  /-- Before it runs, it has no receive task. -/
  idle : u.phase = .creating → u.recvTask = .idle

structure Ok (r : Registry) : Prop where
  names : ∀ e ∈ r.mailbox, Named r.sessions e
  namesProcessed : ∀ e ∈ r.processed, Named r.sessions e
  session : ∀ sid u, r.sessions.get? sid = some u → r.SessionOk sid u
  users : ∀ v sid, r.users.lookup v = some sid ↔ r.Accepted sid v ∧
    countFrom RouterMessage.isUnregister sid r.processed = 0

theorem countFrom_cons (p : RouterMessage → Bool) (sid : SessionId)
    (e : Envelope RouterMessage) (l : List (Envelope RouterMessage)) :
    countFrom p sid (e :: l) =
      countFrom p sid l + if e.origin = sid ∧ p e.message = true then 1 else 0 := by
  simp [countFrom, List.countP_cons]

theorem countFrom_snoc (p : RouterMessage → Bool) (sid : SessionId)
    (e : Envelope RouterMessage) (l : List (Envelope RouterMessage)) :
    countFrom p sid (l ++ [e]) =
      countFrom p sid l + if e.origin = sid ∧ p e.message = true then 1 else 0 := by
  simp [countFrom, List.countP_append, List.countP_cons]

theorem countFrom_eq_zero {p : RouterMessage → Bool} {sid : SessionId}
    {l : List (Envelope RouterMessage)} :
    countFrom p sid l = 0 ↔ ∀ e ∈ l, e.origin = sid → p e.message = false := by
  simp [countFrom, List.countP_eq_zero]

/-- A session nothing has been heard of. -/
theorem Ok.countFrom_next {r : Registry} (h : r.Ok) (p : RouterMessage → Bool) :
    countFrom p r.sessions.next r.mailbox = 0 ∧ countFrom p r.sessions.next r.processed = 0 := by
  constructor
  · refine countFrom_eq_zero.mpr fun e he ho => ?_
    obtain ⟨u, hu, -⟩ := h.names e he
    rw [ho, Arena.get?_next] at hu
    cases hu
  · refine countFrom_eq_zero.mpr fun e he ho => ?_
    obtain ⟨u, hu, -⟩ := h.namesProcessed e he
    rw [ho, Arena.get?_next] at hu
    cases hu

/-! ### Sending, and changing a session -/

theorem Named.alloc {sessions : Arena UserSession} {e : Envelope RouterMessage}
    (h : Named sessions e) (u : UserSession) : Named (sessions.alloc u) e :=
  let ⟨w, hw, hn⟩ := h
  ⟨w, Arena.get?_alloc_of_some hw, hn⟩

theorem Named.modify {sessions : Arena UserSession} {e : Envelope RouterMessage}
    (h : Named sessions e) (sid : SessionId) {f : UserSession → UserSession}
    (hid : ∀ u, (f u).tenantUserId = u.tenantUserId) : Named (sessions.modify sid f) e := by
  obtain ⟨u, hu, hn⟩ := h
  exact Arena.exists_modify hu hn fun _ => by rw [hid]; exact hn

/-- Who is accepted depends only on what `f` keeps. -/
theorem accepted_modify {r : Registry} {sid sid' : SessionId} {v : TenantUserId}
    {f : UserSession → UserSession} (hid : ∀ u, (f u).tenantUserId = u.tenantUserId)
    (hreg : ∀ u, (f u).registration = u.registration) :
    (r.modifySession sid f).Accepted sid' v ↔ r.Accepted sid' v := by
  simp only [Accepted, modifySession, Arena.get?_modify]
  by_cases ho : sid' = sid
  · simp [ho, hid, hreg]
  · simp [ho]

/-- A step that changes how a session is doing inside. -/
theorem Ok.modified {r : Registry} (h : r.Ok) {sid : SessionId}
    {f : UserSession → UserSession} (hid : ∀ u, (f u).tenantUserId = u.tenantUserId)
    (hreg : ∀ u, (f u).registration = u.registration)
    (hs : ∀ u, r.sessions.get? sid = some u → r.SessionOk sid (f u)) :
    (r.modifySession sid f).Ok := by
  refine ⟨fun e he => (h.names e he).modify sid hid,
    fun e he => (h.namesProcessed e he).modify sid hid, fun sid' u' hu' => ?_, fun v sid' => ?_⟩
  · rcases Arena.get?_modify_eq_some.mp hu' with ⟨rfl, u, hu, rfl⟩ | ⟨-, hu⟩
    · exact ⟨(hs u hu).registers, (hs u hu).unregisters, (hs u hu).accepted, (hs u hu).rejected,
        (hs u hu).idle⟩
    · have ho := h.session sid' u' hu
      exact ⟨ho.registers, ho.unregisters, ho.accepted, ho.rejected, ho.idle⟩
  · exact (h.users v sid').trans (and_congr_left fun _ => (accepted_modify hid hreg).symm)

/-- Posting a message that has nothing to do with registration. -/
theorem Ok.request {r : Registry} (h : r.Ok) {sid : SessionId} {u : UserSession}
    {m : RouterMessage} (hu : r.sessions.get? sid = some u) (hr : m.isRegister = false)
    (hn : m.isUnregister = false) : (r.post sid m).Ok := by
  refine ⟨fun e he => ?_, h.namesProcessed, fun sid' u' hu' => ?_, h.users⟩
  · rcases List.mem_append.mp he with he | he
    · exact h.names e he
    · obtain rfl := List.mem_singleton.mp he
      refine ⟨u, hu, ?_⟩
      cases m <;> trivial
  · have ho := h.session sid' u' hu'
    refine ⟨?_, ?_, ho.accepted, ho.rejected, ho.idle⟩
    · simp only [post, countFrom_snoc, hr]
      simpa using ho.registers
    · simp only [post, countFrom_snoc, hn]
      simpa using ho.unregisters

theorem Ok.connect {r : Registry} (h : r.Ok) (v : TenantUserId) :
    ({ r with sessions := r.sessions.alloc ⟨v, .creating, .pending, .idle, .idle⟩ }.post
      r.sessions.next (.registerUser v r.sessions.next r.sessions.next)).Ok := by
  have hnew := h.countFrom_next
  refine ⟨fun e he => ?_, fun e he => (h.namesProcessed e he).alloc _, fun sid u hu => ?_,
    fun w sid => ?_⟩
  · rcases List.mem_append.mp he with he | he
    · exact (h.names e he).alloc _
    · obtain rfl := List.mem_singleton.mp he
      exact ⟨_, Arena.get?_alloc_self, rfl, rfl, rfl⟩
  · rcases Arena.get?_alloc_eq_some.mp hu with ⟨rfl, rfl⟩ | hu
    · refine ⟨?_, ?_, by simp, by simp, fun _ => rfl⟩
      · simp [post, countFrom_snoc, (hnew _).1, RouterMessage.isRegister]
      · simp [post, countFrom_snoc, (hnew _).1, (hnew _).2, RouterMessage.isUnregister]
    · have ho := h.session sid u hu
      have hne : r.sessions.next ≠ sid := (Nat.ne_of_lt (Arena.lt_next_of_get? hu)).symm
      refine ⟨?_, ?_, ho.accepted, ho.rejected, ho.idle⟩
      · simpa [post, countFrom_snoc, hne] using ho.registers
      · simpa [post, countFrom_snoc, hne] using ho.unregisters
  · refine (h.users w sid).trans (and_congr_left fun _ => ?_)
    constructor
    · rintro ⟨u, hu, hw, ha⟩
      exact ⟨u, Arena.get?_alloc_of_some hu, hw, ha⟩
    · rintro ⟨u, hu, hw, ha⟩
      rcases Arena.get?_alloc_eq_some.mp hu with ⟨-, rfl⟩ | hu
      · cases ha
      · exact ⟨u, hu, hw, ha⟩

theorem Ok.finish {r : Registry} (h : r.Ok) {sid : SessionId} {u : UserSession}
    {f : UserSession → UserSession} (hu : r.sessions.get? sid = some u)
    (hp : u.phase = .running) (hid : ∀ u, (f u).tenantUserId = u.tenantUserId)
    (hreg : ∀ u, (f u).registration = u.registration) (hend : ∀ u, (f u).phase = .ended) :
    ((r.modifySession sid f).post sid (.unregisterUser u.tenantUserId)).Ok := by
  have ho := h.session sid u hu
  have hacc := ho.accepted (.inl hp)
  refine ⟨fun e he => ?_, fun e he => (h.namesProcessed e he).modify sid hid,
    fun sid' u' hu' => ?_, fun w sid' => ?_⟩
  · rcases List.mem_append.mp he with he | he
    · exact (h.names e he).modify sid hid
    · obtain rfl := List.mem_singleton.mp he
      exact ⟨f u, Arena.get?_modify_self hu, (hid u).symm⟩
  · rcases Arena.get?_modify_eq_some.mp hu' with ⟨rfl, w, hw, rfl⟩ | ⟨hne, hu'⟩
    · obtain rfl : w = u := Option.some.inj (hw.symm.trans hu)
      have h0 := ho.unregisters
      rw [if_neg (by rw [hp]; simp)] at h0
      refine ⟨?_, ?_, fun _ => by rw [hreg, hacc], fun e he => ?_, fun hc => ?_⟩
      · simpa [post, modifySession, countFrom_snoc, RouterMessage.isRegister, hreg] using
          ho.registers
      · simp only [post, modifySession, countFrom_snoc, hend]
        simp [RouterMessage.isUnregister]
        omega
      · rw [hend] at he
        cases he
      · rw [hend] at hc
        cases hc
    · have ho' := h.session sid' u' hu'
      refine ⟨?_, ?_, ho'.accepted, ho'.rejected, ho'.idle⟩
      · simpa [post, modifySession, countFrom_snoc, Ne.symm hne] using ho'.registers
      · simpa [post, modifySession, countFrom_snoc, Ne.symm hne] using ho'.unregisters
  · exact (h.users w sid').trans (and_congr_left fun _ => (accepted_modify hid hreg).symm)

/-! ### The router's steps -/

section Route

variable {r : Registry} {e : Envelope RouterMessage} {rest : List (Envelope RouterMessage)}
  {u : UserSession} {v : TenantUserId}

/-- Everything in the two lists of the registry after the router has taken `e`. -/
theorem Ok.named_take (h : r.Ok) (hm : r.mailbox = e :: rest) :
    (∀ x ∈ rest, Named r.sessions x) ∧ ∀ x ∈ r.processed ++ [e], Named r.sessions x := by
  refine ⟨fun x hx => h.names x (by rw [hm]; exact List.mem_cons_of_mem _ hx), fun x hx => ?_⟩
  rcases List.mem_append.mp hx with hx | hx
  · exact h.namesProcessed x hx
  · rw [List.mem_singleton.mp hx]
    exact h.names e (by rw [hm]; exact List.mem_cons_self)

/-- A session whose `RegisterUser` is next waits for the reply, and has sent nothing else
about its registration. -/
theorem Ok.of_register_next (h : r.Ok) (hm : r.mailbox = e :: rest)
    (hu : r.sessions.get? e.origin = some u) (he : e.message.isRegister = true) :
    u.registration = .pending ∧ countFrom RouterMessage.isRegister e.origin rest = 0 ∧
      countFrom RouterMessage.isUnregister e.origin r.processed = 0 := by
  have ho := h.session _ u hu
  have hreg := ho.registers
  rw [hm, countFrom_cons, if_pos ⟨rfl, he⟩] at hreg
  have hp : u.registration = .pending := by
    by_contra hn
    rw [if_neg hn] at hreg
    omega
  rw [if_pos hp] at hreg
  have hun := ho.unregisters
  rw [if_neg (fun hend => by have := ho.accepted (.inr hend); rw [hp] at this; cases this)] at hun
  exact ⟨hp, by omega, by omega⟩

/-- A session whose `UnregisterUser` is next is the one that is registered. -/
theorem Ok.of_unregister_next (h : r.Ok) (hm : r.mailbox = e :: rest)
    (he : e.message = .unregisterUser v) :
    r.Accepted e.origin v ∧ countFrom RouterMessage.isUnregister e.origin r.processed = 0 ∧
      r.users.lookup v = some e.origin := by
  obtain ⟨u, hu, hn⟩ := h.names e (by rw [hm]; exact List.mem_cons_self)
  rw [he] at hn
  have ho := h.session _ u hu
  have hun := ho.unregisters
  rw [hm, countFrom_cons, if_pos ⟨rfl, by rw [he]; rfl⟩] at hun
  have hend : u.phase = .ended := by
    by_contra hne
    rw [if_neg hne] at hun
    omega
  rw [if_pos hend] at hun
  have hacc : r.Accepted e.origin v := ⟨u, hu, hn.symm, ho.accepted (.inr hend)⟩
  have h0 : countFrom RouterMessage.isUnregister e.origin r.processed = 0 := by omega
  exact ⟨hacc, h0, (h.users v e.origin).mpr ⟨hacc, h0⟩⟩

/-- The router takes a message that is not about registration. -/
theorem Ok.take (h : r.Ok) (hm : r.mailbox = e :: rest) (hr : e.message.isRegister = false)
    (hn : e.message.isUnregister = false) : (r.take e rest).Ok := by
  have hnames := h.named_take hm
  refine ⟨hnames.1, hnames.2, fun sid u hu => ?_, fun w sid => ?_⟩
  · have ho := h.session sid u hu
    have h1 := ho.registers
    have h2 := ho.unregisters
    simp only [hm, countFrom_cons, hr, hn] at h1 h2
    refine ⟨by simpa [Registry.take] using h1, ?_, ho.accepted, ho.rejected, ho.idle⟩
    simp only [Registry.take, countFrom_snoc, hn]
    simpa using h2
  · refine (h.users w sid).trans (and_congr_right fun _ => ?_)
    simp [Registry.take, countFrom_snoc, hn]

/-- The router answers a `RegisterUser`; `us` is its map afterwards. -/
theorem Ok.answer (h : r.Ok) (hm : r.mailbox = e :: rest) (hr : e.message.isRegister = true)
    (hn : e.message.isUnregister = false) {res : Except String Unit}
    {us : HashMap TenantUserId SessionId} {online : List TenantUserId}
    (hus : ∀ w sid, us.lookup w = some sid ↔
      (r.users.lookup w = some sid ∧ sid ≠ e.origin) ∨
        (sid = e.origin ∧ res = .ok () ∧
          ∃ u, r.sessions.get? e.origin = some u ∧ u.tenantUserId = w)) :
    ({ r.take e rest with users := us, onlineUsers := online }.reply e.origin res).Ok := by
  obtain ⟨u, hu, -⟩ := h.names e (by rw [hm]; exact List.mem_cons_self)
  obtain ⟨hp, hrest, hproc⟩ := h.of_register_next hm hu hr
  have hnames := h.named_take hm
  refine ⟨fun x hx => (hnames.1 x hx).modify _ fun _ => rfl,
    fun x hx => (hnames.2 x hx).modify _ fun _ => rfl, fun sid u' hu' => ?_, fun w sid => ?_⟩
  · rcases Arena.get?_modify_eq_some.mp hu' with ⟨rfl, w, hw, rfl⟩ | ⟨hne, hu'⟩
    · obtain rfl : w = u := Option.some.inj (hw.symm.trans hu)
      have ho := h.session _ w hw
      have hend : ¬ (w.phase = .running ∨ w.phase = .ended) := fun hc => by
        have := ho.accepted hc
        rw [hp] at this
        cases this
      refine ⟨?_, ?_, fun hc => absurd hc hend, fun x hx => absurd hp (ho.rejected x hx).1,
        ho.idle⟩
      · simpa [reply, modifySession, Registry.take, hp] using hrest
      · have hun := ho.unregisters
        rw [hm, countFrom_cons] at hun
        simpa [reply, modifySession, Registry.take, countFrom_snoc, hn] using hun
    · have ho := h.session sid u' hu'
      have h1 := ho.registers
      have h2 := ho.unregisters
      rw [hm, countFrom_cons] at h1 h2
      refine ⟨?_, ?_, ho.accepted, ho.rejected, ho.idle⟩
      · simpa [reply, modifySession, Registry.take, Ne.symm hne] using h1
      · simpa [reply, modifySession, Registry.take, countFrom_snoc, hn] using h2
  · refine (hus w sid).trans ?_
    simp only [reply, modifySession, Registry.take, Accepted, countFrom_snoc, hn]
    by_cases ho : sid = e.origin
    · subst ho
      simp only [Arena.get?_modify_self hu, Option.some.injEq, ne_eq, not_true_eq_false,
        and_false, true_and, false_or, hproc, hu, exists_eq_left', hp, Oneshot.send_pending,
        Oneshot.sent.injEq]
      simp [and_comm]
    · simp only [Arena.get?_modify_ne ho, h.users w sid, Accepted]
      simp [ho]

theorem Ok.register (h : r.Ok) (hm : r.mailbox = e :: rest) {sender respondTo : SessionId}
    (he : e.message = .registerUser v sender respondTo) :
    ((r.take e rest).handle e.message).Ok := by
  obtain ⟨u, hu, hn⟩ := h.names e (by rw [hm]; exact List.mem_cons_self)
  rw [he] at hn
  obtain ⟨hv, hsender, hrespond⟩ := hn
  have hr : e.message.isRegister = true := by rw [he]; rfl
  obtain ⟨hp, -, -⟩ := h.of_register_next hm hu hr
  -- While it waits, the session is not in the map.
  have habsent : ∀ w, r.users.lookup w ≠ some e.origin := fun w hw => by
    obtain ⟨⟨u', hu', -, hacc⟩, -⟩ := (h.users w e.origin).mp hw
    obtain rfl : u' = u := Option.some.inj (hu'.symm.trans hu)
    rw [hp] at hacc
    cases hacc
  have hun : e.message.isUnregister = false := by rw [he]; rfl
  rw [he, handle, hsender, hrespond]
  have hv' : (r.take e rest).users = r.users := rfl
  rw [hv']
  cases hl : r.users.lookup v with
  | some sid' =>
    refine h.answer hm hr hun fun w sid => ?_
    constructor
    · exact fun hw => .inl ⟨hw, fun hs => habsent w (hs ▸ hw)⟩
    · rintro (⟨hw, -⟩ | ⟨-, hc, -⟩)
      · exact hw
      · cases hc
  | none =>
    refine h.answer hm hr hun fun w sid => ?_
    rw [HashMap.lookup_insert_eq]
    by_cases hw : w = v
    · subst hw
      rw [if_pos rfl]
      constructor
      · exact fun hs => .inr ⟨(Option.some.inj hs).symm, rfl, u, hu, hv.symm⟩
      · rintro (⟨hs, -⟩ | ⟨hs, -⟩)
        · rw [hl] at hs
          cases hs
        · rw [hs]
    · rw [if_neg hw]
      constructor
      · exact fun hs => .inl ⟨hs, fun ho => habsent w (ho ▸ hs)⟩
      · rintro (⟨hs, -⟩ | ⟨-, -, u', hu', hw'⟩)
        · exact hs
        · obtain rfl : u' = u := Option.some.inj (hu'.symm.trans hu)
          exact absurd (hw'.symm.trans hv.symm) hw

theorem Ok.unregister (h : r.Ok) (hm : r.mailbox = e :: rest)
    (he : e.message = .unregisterUser v) : ((r.take e rest).handle e.message).Ok := by
  obtain ⟨⟨u, hu, huv, hacc⟩, h0, hl⟩ := h.of_unregister_next hm he
  have hnames := h.named_take hm
  have hv' : (r.take e rest).users = r.users := rfl
  simp only [he, handle, hv', hl]
  refine ⟨hnames.1, hnames.2, fun sid u' hu' => ?_, fun w sid => ?_⟩
  · have ho := h.session sid u' hu'
    have h1 := ho.registers
    have h2 := ho.unregisters
    rw [hm, countFrom_cons] at h1 h2
    refine ⟨?_, ?_, ho.accepted, ho.rejected, ho.idle⟩
    · simpa [Registry.take, he, RouterMessage.isRegister] using h1
    · simp only [Registry.take, countFrom_snoc]
      omega
  · rw [HashMap.lookup_erase_eq]
    simp only [Registry.take, countFrom_snoc, he, RouterMessage.isUnregister, and_true]
    by_cases hw : w = v
    · subst hw
      rw [if_pos rfl]
      refine ⟨fun hc => absurd hc (by simp), fun ⟨ha, hc⟩ => ?_⟩
      by_cases hs : e.origin = sid
      · rw [if_pos hs] at hc
        omega
      · rw [if_neg hs] at hc
        exact absurd (Option.some.inj (hl.symm.trans ((h.users w sid).mpr ⟨ha, hc⟩))) hs
    · rw [if_neg hw]
      refine (h.users w sid).trans (and_congr_right fun ⟨u', hu', hw', _⟩ => ?_)
      have hs : e.origin ≠ sid := fun hs => by
        subst hs
        obtain rfl : u' = u := Option.some.inj (hu'.symm.trans hu)
        exact hw (hw'.symm.trans huv)
      simp [hs]

end Route

/-- **Every step keeps the invariant.** -/
theorem Step.ok {r r' : Registry} (hs : r.Step r') (h : r.Ok) : r'.Ok := by
  cases hs with
  | connect u => exact h.connect u
  | start found creating accepted =>
    rename_i sid u
    refine h.modified (fun _ => rfl) (fun _ => rfl) fun w hw => ?_
    obtain rfl : w = u := Option.some.inj (hw.symm.trans found)
    have ho := h.session sid w hw
    have hun := ho.unregisters
    rw [if_neg (by rw [creating]; simp)] at hun
    exact ⟨ho.registers, by simpa using hun, fun _ => accepted,
      fun e he => absurd he (by simp), fun hc => absurd hc (by simp)⟩
  | fail e found creating answered rejected =>
    rename_i sid u
    refine h.modified (fun _ => rfl) (fun _ => rfl) fun w hw => ?_
    obtain rfl : w = u := Option.some.inj (hw.symm.trans found)
    have ho := h.session sid w hw
    have hun := ho.unregisters
    rw [if_neg (by rw [creating]; simp)] at hun
    exact ⟨ho.registers, by simpa using hun, fun hc => by simp at hc,
      fun _ _ => ⟨answered, rejected⟩, fun hc => absurd hc (by simp)⟩
  | request found requests => exact h.request found requests.isRegister requests.isUnregister
  | task found internal idle =>
    rename_i sid u f
    refine h.modified (fun u => (internal u).1) (fun u => (internal u).2.2) fun w hw => ?_
    obtain rfl : w = u := Option.some.inj (hw.symm.trans found)
    have ho := h.session _ w hw
    obtain ⟨hid, hph, hreg⟩ := internal w
    refine ⟨hreg ▸ ho.registers, hph ▸ ho.unregisters, ?_, ?_, ?_⟩
    · rw [hph, hreg]
      exact ho.accepted
    · rw [hph, hreg]
      exact ho.rejected
    · rw [hph]
      exact fun hc => idle (ho.idle hc)
  | finish found running =>
    exact h.finish found running (fun _ => rfl) (fun _ => rfl) fun _ => rfl
  | @route e rest next =>
    cases he : e.message with
    | registerUser v sender respondTo => exact he ▸ h.register next he
    | unregisterUser v => exact he ▸ h.unregister next he
    | _ => exact h.take next (by rw [he]; rfl) (by rw [he]; rfl)

end Registry

theorem registry_start (store : ChatService.Store) : (State.start store).registry.Ok := by
  refine ⟨fun e he => ?_, fun e he => ?_, fun sid u hu => ?_, fun v sid => ?_⟩
  · cases he
  · cases he
  · cases hu
  · constructor
    · intro hc
      cases hc
    · rintro ⟨⟨u, hu, -⟩, -⟩
      cases hu

/-- Every reachable state of the system satisfies the invariant. -/
theorem registry_ok {db : ChatService.Db} {store : ChatService.Store} {s : State}
    (h : (system db store).Reachable s) : s.registry.Ok := by
  refine h.invariant (I := fun s => s.registry.Ok) (registry_start store) fun s a s' _ hs hi => ?_
  rcases State.registry_step hs with he | hstep
  · rw [he]
    exact hi
  · exact hstep.ok hi

/-! ## Exclusive registration -/

/-- The registration of `sid` for `v` was accepted, and the router has not yet processed its
`UnregisterUser`. -/
def State.Registered (s : State) (sid : SessionId) (v : TenantUserId) : Prop :=
  (∃ u, s.sessions.get? sid = some u ∧ u.tenantUserId = v ∧ u.registration = .sent (.ok ())) ∧
    ∀ e ∈ s.processed, e.origin = sid → e.message.isUnregister = false

theorem registered_iff {db : ChatService.Db} {store : ChatService.Store} {s : State}
    (h : (system db store).Reachable s) (v : TenantUserId) (sid : SessionId) :
    s.router.users.lookup v = some sid ↔ s.Registered sid v :=
  ((registry_ok h).users v sid).trans (and_congr_right fun _ => Registry.countFrom_eq_zero)

/-- At most one session at a time, and nothing but its own end unregisters it. -/
structure ExclusiveRegistration (db : ChatService.Db) (s : State) : Prop where
  /-- The stored sender is that of a registered session. -/
  stored : ∀ v sid, s.router.users.lookup v = some sid → s.Registered sid v
  /-- There is no second one. -/
  unique : ∀ v sid sid', s.Registered sid v → s.Registered sid' v → sid = sid'
  /-- An `UnregisterUser` removes the registration of the session it comes from, and no other. -/
  removal : ∀ sid v rest persistAt now, s.mailbox = ⟨sid, .unregisterUser v⟩ :: rest →
    s.router.users.lookup v = some sid ∧ ∃ s', s.step db (.router persistAt now) = some s' ∧
      s'.router.users.lookup v = none ∧
      ∀ w, w ≠ v → s'.router.users.lookup w = s.router.users.lookup w
  /-- A rejected registration changes nothing but the reply. -/
  rejection : ∀ e rest v sender respondTo sid' persistAt now,
    s.mailbox = e :: rest → e.message = .registerUser v sender respondTo →
    s.router.users.lookup v = some sid' → ∃ s', s.step db (.router persistAt now) = some s' ∧
      s'.router.users = s.router.users ∧ s'.router.onlineUsers = s.router.onlineUsers ∧
      ∃ u, s'.sessions.get? e.origin = some u ∧
        u.registration = .sent (.error "User already online")
  /-- A rejected session never sends an `UnregisterUser`. -/
  silent : ∀ sid u e, s.sessions.get? sid = some u → u.registration = .sent (.error e) →
    ∀ m ∈ s.mailbox ++ s.processed, m.origin = sid → m.message.isUnregister = false

/-- **Registration is exclusive** in every reachable state. -/
theorem registration_exclusive {db : ChatService.Db} {store : ChatService.Store} {s : State}
    (h : (system db store).Reachable s) : ExclusiveRegistration db s := by
  have hok := registry_ok h
  refine ⟨fun v sid => (registered_iff h v sid).mp, fun v sid sid' hs hs' => ?_,
    fun sid v rest persistAt now hm => ?_,
    fun e rest v sender respondTo sid' persistAt now hm he hl => ?_,
    fun sid u x hu hr m hmem ho => ?_⟩
  · exact Option.some.inj (((registered_iff h v sid).mpr hs).symm.trans
      ((registered_iff h v sid').mpr hs'))
  · obtain ⟨-, -, hl⟩ := hok.of_unregister_next (e := ⟨sid, .unregisterUser v⟩) hm rfl
    have hl' : s.router.users.lookup v = some sid := hl
    refine ⟨hl', (s.takeRouterMessage ⟨sid, .unregisterUser v⟩ rest).handleUnregisterUser v,
      ?_, ?_, ?_⟩
    · simp [State.step, State.routerStep, hm, State.handleRouterMessage]
    · simp [State.handleUnregisterUser, State.takeRouterMessage, hl']
    · intro w hw
      simp [State.handleUnregisterUser, State.takeRouterMessage, hl', hw]
  · obtain ⟨u, hu, hn⟩ := hok.names e (by rw [show s.registry.mailbox = _ from hm]; simp)
    have hu' : s.sessions.get? e.origin = some u := hu
    obtain ⟨hp, -, -⟩ := hok.of_register_next hm hu (by rw [he]; rfl)
    rw [he] at hn
    obtain ⟨-, -, hrespond⟩ := hn
    refine ⟨(s.takeRouterMessage e rest).respondRegister respondTo (.error "User already online"),
      ?_, rfl, rfl, ?_⟩
    · simp [State.step, State.routerStep, hm, State.handleRouterMessage, he,
        State.handleRegisterUser, State.takeRouterMessage, hl]
    · rw [hrespond]
      exact ⟨_, Arena.get?_modify_self hu', by simp [hp]⟩
  · have hs := hok.session sid u hu
    have hun := hs.unregisters
    rw [if_neg fun hend => by have := hs.accepted (.inr hend); rw [hr] at this; cases this] at hun
    rcases List.mem_append.mp hmem with hmem | hmem
    · exact Registry.countFrom_eq_zero.mp (Nat.eq_zero_of_add_eq_zero_right hun) m hmem ho
    · exact Registry.countFrom_eq_zero.mp (Nat.eq_zero_of_add_eq_zero_left hun) m hmem ho

/-! A fast reconnect: the old session of `alice` has ended and its `UnregisterUser` waits in
the mailbox, behind the registration of a new one. -/

def scratchDb : ChatService.Db := ⟨∅, .exact none, fun _ => "database error"⟩

def alice : TenantUserId := ⟨"acme", "alice"⟩

def bob : TenantUserId := ⟨"globex", "bob"⟩

def fastReconnect : List Action :=
  [.connect alice, .router 0 0, .finishCreation 0, .connect alice, .recvTaskEnd 0, .endSession 0]

/-- The second attempt will be rejected; the first one's `UnregisterUser` removes its own
registration only. -/
theorem registration_exclusive_fastReconnect :
    ∃ s, (system scratchDb .empty).exec (.start .empty) fastReconnect = some s ∧
      s.mailbox = [⟨1, .registerUser alice 1 1⟩, ⟨0, .unregisterUser alice⟩] ∧
      ExclusiveRegistration scratchDb s := by
  obtain ⟨s, hs, hm⟩ := Option.map_eq_some_iff.mp
    (show ((system scratchDb .empty).exec (.start .empty) fastReconnect).map (·.mailbox) =
      some [⟨1, .registerUser alice 1 1⟩, ⟨0, .unregisterUser alice⟩] from rfl)
  exact ⟨s, hs, hm, registration_exclusive (Machine.reachable_of_exec hs)⟩

end PerOxo
