import PerOxo.Proof.Registry

/-!
# Who is online

The router keeps the registered users twice, as the keys of a map and as a vector. Through every
sequence of messages both say the same, and what they say can be read off the messages and the
replies alone: `registered`.
-/

set_option autoImplicit false

namespace PerOxo

open ChatService

/-! ## The history -/

/-- A message that the router has taken; a `RegisterUser` with the reply to it. -/
inductive Handled
  | register (u : TenantUserId) (reply : Except String Unit)
  | unregister (u : TenantUserId)
  | other
  deriving DecidableEq

/-- What the router sends to the `respond_to` of a `RegisterUser`. -/
def State.registerReply (s : State) (u : TenantUserId) : Except String Unit :=
  if (s.router.users.lookup u).isSome then .error "User already online" else .ok ()

def State.answered (s : State) : RouterMessage → Handled
  | .registerUser u _ _ => .register u (s.registerReply u)
  | .unregisterUser u => .unregister u
  | _ => .other

/-- The message that the step handles. -/
def State.handled (s : State) : RouterAction → List Handled
  | .handle _ _ => (s.mailbox.head?.map fun e => s.answered e.message).toList
  | .others _ _ => []

/-- The user registers anew or unregisters later on. -/
def Superseded (u : TenantUserId) (rest : List Handled) : Prop :=
  .register u (.ok ()) ∈ rest ∨ .unregister u ∈ rest

instance (u : TenantUserId) (rest : List Handled) : Decidable (Superseded u rest) :=
  inferInstanceAs (Decidable (_ ∨ _))

/-- The users whose latest accepted `RegisterUser` is not followed by an `UnregisterUser` of theirs,
in the order of these registrations. -/
def registered : List Handled → List TenantUserId
  | [] => []
  | .register u (.ok ()) :: rest =>
      if Superseded u rest then registered rest else u :: registered rest
  | _ :: rest => registered rest

/-! ## One message more -/

section Snoc

variable {u : TenantUserId} {l : List Handled} {e : Handled}

theorem superseded_snoc : Superseded u (l ++ [e]) ↔
    Superseded u l ∨ e = .register u (.ok ()) ∨ e = .unregister u := by
  simp only [Superseded, List.mem_append, List.mem_singleton, @eq_comm _ e]
  tauto

theorem registered_cons (h : ∀ u, e ≠ .register u (.ok ())) :
    registered (e :: l) = registered l := by
  cases e with
  | register u reply =>
    cases reply with
    | error t => rfl
    | ok x => exact absurd rfl (h u)
  | unregister u => rfl
  | other => rfl

/-- Only an accepted `RegisterUser` and an `UnregisterUser` count. -/
theorem registered_snoc_of_ne (hr : ∀ u, e ≠ .register u (.ok ())) (hu : ∀ u, e ≠ .unregister u) :
    registered (l ++ [e]) = registered l := by
  induction l with
  | nil => exact registered_cons hr
  | cons x l ih =>
    by_cases hx : ∃ v, x = .register v (.ok ())
    · obtain ⟨v, rfl⟩ := hx
      have hsup : Superseded v (l ++ [e]) ↔ Superseded v l := by
        rw [superseded_snoc]
        exact or_iff_left fun h => h.elim (hr v) (hu v)
      simp only [List.cons_append, registered, hsup, ih]
    · have hne : ∀ v, x ≠ .register v (.ok ()) := fun v hv => hx ⟨v, hv⟩
      rw [List.cons_append, registered_cons hne, registered_cons hne, ih]

/-- What a user sends about its registration takes it out of its old place. -/
theorem registered_snoc (he : e = .register u (.ok ()) ∨ e = .unregister u) :
    registered (l ++ [e]) = (registered l).filter (· ≠ u) ++ registered [e] := by
  induction l with
  | nil => rfl
  | cons x l ih =>
    by_cases hx : ∃ v, x = .register v (.ok ())
    · obtain ⟨v, rfl⟩ := hx
      have hsup : Superseded v (l ++ [e]) ↔ Superseded v l ∨ u = v := by
        rw [superseded_snoc]
        rcases he with rfl | rfl <;> simp
      simp only [List.cons_append, registered, hsup, ih]
      by_cases hv : Superseded v l
      · simp [hv]
      · by_cases huv : u = v
        · simp [hv, huv]
        · simp [hv, huv, Ne.symm huv]
    · have hne : ∀ v, x ≠ .register v (.ok ()) := fun v hv => hx ⟨v, hv⟩
      rw [List.cons_append, registered_cons hne, registered_cons hne, ih]

end Snoc

/-! ## One step of the router -/

/-- The vector is what the history says, and holds the keys of the map. -/
structure Online (hist : List Handled) (s : State) : Prop where
  nodup : s.router.onlineUsers.Nodup
  keys : ∀ u, u ∈ s.router.onlineUsers ↔ ∃ sender, s.router.users.lookup u = some sender
  history : s.router.onlineUsers = registered hist

section Step

variable {hist : List Handled} {s s' : State} {u : TenantUserId}

/-- A user is accepted exactly if it is not in the list. -/
theorem Online.registerReply (hi : Online hist s) :
    s.registerReply u = .ok () ↔ u ∉ registered hist := by
  rw [← hi.history, hi.keys]
  unfold State.registerReply
  cases s.router.users.lookup u with
  | none => simp
  | some sender => simp

theorem Online.congr (hi : Online hist s) (hr : s'.router = s.router) : Online hist s' := by
  refine ⟨?_, fun u => ?_, ?_⟩
  · exact hr ▸ hi.nodup
  · rw [hr]
    exact hi.keys u
  · exact hr ▸ hi.history

/-- Who is not a key of the map is not in the list. -/
theorem Online.filter_of_offline (hi : Online hist s) (offline : s.router.users.lookup u = none) :
    (registered hist).filter (· ≠ u) = registered hist := by
  rw [← hi.history]
  refine List.filter_eq_self.mpr fun v hv => decide_eq_true ?_
  rintro rfl
  obtain ⟨sender, hl⟩ := (hi.keys v).mp hv
  cases offline.symm.trans hl

theorem Online.handled (hi : Online hist s) (o : SessionId) (p n : Int) (m : RouterMessage) :
    Online (hist ++ [s.answered m]) (s.handleRouterMessage o p n m) := by
  generalize hs' : s.handleRouterMessage o p n m = s'
  have hother : (∀ u, s.answered m ≠ .register u (.ok ())) → (∀ u, s.answered m ≠ .unregister u) →
      s'.router.users = s.router.users → s'.router.onlineUsers = s.router.onlineUsers →
      Online (hist ++ [s.answered m]) s' := by
    intro hr hu husers honline
    refine ⟨honline ▸ hi.nodup, fun u => ?_, ?_⟩
    · rw [honline, husers]
      exact hi.keys u
    · rw [honline, registered_snoc_of_ne hr hu]
      exact hi.history
  cases State.handledByRouter hs' with
  | @refusedRegistration u sid sender respondTo online =>
    have hreply : s.registerReply u = .error "User already online" := by
      simp [State.registerReply, online]
    refine hother (fun v hv => ?_) (fun v hv => ?_) rfl rfl
    · rw [State.answered, hreply] at hv
      cases hv
    · cases hv
  | @registered u sender respondTo offline =>
    have hnew : u ∉ s.router.onlineUsers := by
      rw [hi.keys, offline]
      simp
    have hreply : s.registerReply u = .ok () := by simp [State.registerReply, offline]
    refine ⟨?_, fun v => ?_, ?_⟩
    · show (s.router.onlineUsers ++ [u]).Nodup
      exact List.concat_eq_append ▸ hi.nodup.concat hnew
    · show v ∈ s.router.onlineUsers ++ [u] ↔ ∃ sid, (s.router.users.insert u sender).lookup v = some sid
      rw [List.mem_append, List.mem_singleton, HashMap.lookup_insert_eq, hi.keys]
      by_cases hv : v = u
      · simp [hv]
      · simp [hv]
    · show s.router.onlineUsers ++ [u] = _
      rw [State.answered, hreply, registered_snoc (.inl rfl), hi.filter_of_offline offline,
        hi.history]
      rfl
  | @unregistered u sid online =>
    refine ⟨hi.nodup.filter _, fun v => ?_, ?_⟩
    · show v ∈ s.router.onlineUsers.filter (· ≠ u) ↔ ∃ sid, (s.router.users.erase u).lookup v = some sid
      rw [List.mem_filter, HashMap.lookup_erase_eq, hi.keys]
      by_cases hv : v = u
      · simp [hv]
      · simp [hv]
    · show s.router.onlineUsers.filter (· ≠ u) = _
      rw [State.answered, registered_snoc (.inr rfl), hi.history]
      exact (List.append_nil _).symm
  | @notRegistered u offline =>
    refine ⟨hi.nodup, hi.keys, ?_⟩
    rw [State.answered, registered_snoc (.inr rfl), hi.filter_of_offline offline, hi.history]
    exact (List.append_nil _).symm
  | _ => exact hother nofun nofun rfl rfl

theorem State.routerStep_of_mailbox {e : Envelope RouterMessage} {rest : List (Envelope RouterMessage)}
    (hm : s.mailbox = e :: rest) (p n : Int) : s.routerStep p n =
      some ((s.takeRouterMessage e rest).handleRouterMessage e.origin p n e.message) := by
  rw [State.routerStep, hm]

theorem State.handled_of_mailbox {e : Envelope RouterMessage} {rest : List (Envelope RouterMessage)}
    (hm : s.mailbox = e :: rest) (p n : Int) :
    s.handled (.handle p n) = [s.answered e.message] := by
  rw [State.handled, hm]
  rfl

theorem Online.step {act : RouterAction} (hi : Online hist s) (h : act.step s = some s') :
    Online (hist ++ s.handled act) s' := by
  cases act with
  | handle p n =>
    obtain ⟨e, rest, hm, rfl⟩ := State.routerStep_some h
    have htaken : Online hist (s.takeRouterMessage e rest) := hi.congr rfl
    rw [State.handled_of_mailbox hm]
    exact htaken.handled e.origin p n e.message
  | others f own =>
    obtain rfl := Option.some.inj h
    rw [State.handled, List.append_nil]
    exact hi.congr (own s)

theorem Online.start (store : Store) : Online [] (.start store) where
  nodup := List.nodup_nil
  keys u := by simp [State.start, MessageRouter.new]
  history := rfl

/-! ## The replies -/

/-- What the router knows after a history, and what it replies to a `RegisterUser` or a
`GetOnlineUsers` that comes next. The channel for the reply is open: each message has its own. -/
structure RegistryRefines (hist : List Handled) (s : State) : Prop where
  online : Online hist s
  registers : ∀ persistAt now e rest u sender respondTo ses, s.mailbox = e :: rest →
    e.message = .registerUser u sender respondTo → s.sessions.get? respondTo = some ses →
    ses.registration = .pending → ∃ s' reply, s.routerStep persistAt now = some s' ∧
      s.handled (.handle persistAt now) = [.register u reply] ∧
      s'.sessions.get? respondTo = some { ses with registration := .sent reply } ∧
      (reply = .ok () ↔ u ∉ registered hist)
  lists : ∀ persistAt now e rest respondTo, s.mailbox = e :: rest →
    e.message = .getOnlineUsers respondTo → s.onlineLists.get? respondTo = some .pending →
    ∃ s', s.routerStep persistAt now = some s' ∧
      s'.onlineLists.get? respondTo = some (.sent (registered hist))

theorem State.handleRegisterUser_sessions (sender respondTo : SessionId) :
    (s.handleRegisterUser u sender respondTo).sessions = s.sessions.modify respondTo fun ses =>
      { ses with registration := ses.registration.send (s.registerReply u) } := by
  unfold State.handleRegisterUser State.registerReply
  cases s.router.users.lookup u <;> rfl

theorem Online.refines (hi : Online hist s) : RegistryRefines hist s := by
  refine ⟨hi, fun p n e rest u sender k ses hm he hs hp => ?_, fun p n e rest k hm he hl => ?_⟩
  · refine ⟨_, s.registerReply u, State.routerStep_of_mailbox hm p n, ?_, ?_, hi.registerReply⟩
    · rw [State.handled_of_mailbox hm, he]
      rfl
    · rw [he]
      refine (congrArg (·.get? k) (State.handleRegisterUser_sessions (s := s.takeRouterMessage e rest)
        sender k)).trans ((Arena.get?_modify_self hs).trans ?_)
      rw [hp]
      rfl
  · refine ⟨_, State.routerStep_of_mailbox hm p n, ?_⟩
    rw [he]
    show (s.onlineLists.modify k (·.send s.router.onlineUsers)).get? k = _
    rw [Arena.get?_modify_self hl, hi.history]
    rfl

end Step

/-! ## Runs -/

/-- **The registry is a function of the history**: through every sequence of messages, whatever else
goes on. -/
theorem registry_refinement {store : Store} {acts : List RouterAction} {t : State}
    (h : (routerSystem store).Run (.start store) acts t) :
    RegistryRefines ((routerSystem store).collect State.handled (.start store) acts) t :=
  (h.invariant_collect (I := Online) (fun _ _ _ _ hs hi => hi.step hs) [] (.start store)).refines

/-- A message is sent to the router. -/
def RouterAction.post (origin : SessionId) (m : RouterMessage) : RouterAction :=
  .others (·.sendRouter origin m) fun _ => rfl

/-- Four connections wait for the reply to their `RegisterUser`, and one `GetOnlineUsers` is asked.
`alice` comes twice before she goes, and once more; `bob` goes before he comes. -/
def comeAndGoAgain : List RouterAction :=
  [.others (fun s => { s with
      sessions := ⟨List.replicate 4 ⟨alice, .creating, .pending, .idle, .idle⟩⟩
      onlineLists := ⟨[.pending]⟩ }) fun _ => rfl,
    .post 0 (.registerUser alice 0 0), .post 1 (.registerUser alice 1 1),
    .post 2 (.unregisterUser ⟨"acme", "bob"⟩), .post 2 (.registerUser ⟨"acme", "bob"⟩ 2 2),
    .post 0 (.joinRoom alice "lobby" 0 0), .post 0 (.unregisterUser alice),
    .post 3 (.registerUser alice 3 3), .post 0 (.getOnlineUsers 0)] ++
  List.replicate 7 (.handle 0 0)

theorem registry_refinement_comeAndGoAgain :
    ∃ t, (routerSystem .empty).exec (.start .empty) comeAndGoAgain = some t ∧
      t.mailbox = [⟨0, .getOnlineUsers 0⟩] ∧
      t.router.onlineUsers = [⟨"acme", "bob"⟩, alice] ∧
      t.sessions.rows.map (·.registration) = [.sent (.ok ()), .sent (.error "User already online"),
        .sent (.ok ()), .sent (.ok ())] ∧
      RegistryRefines [.register alice (.ok ()), .register alice (.error "User already online"),
        .unregister ⟨"acme", "bob"⟩, .register ⟨"acme", "bob"⟩ (.ok ()), .other, .unregister alice,
        .register alice (.ok ())] t := by
  obtain ⟨t, ht, hf⟩ := Option.map_eq_some_iff.mp
    (show ((routerSystem .empty).exec (.start .empty) comeAndGoAgain).map (fun t =>
        (t.mailbox, t.router.onlineUsers, t.sessions.rows.map (·.registration))) =
      some ([⟨0, .getOnlineUsers 0⟩], [⟨"acme", "bob"⟩, alice],
        [.sent (.ok ()), .sent (.error "User already online"), .sent (.ok ()), .sent (.ok ())])
      from rfl)
  obtain ⟨hm, hf⟩ := Prod.mk.inj hf
  obtain ⟨ho, hr⟩ := Prod.mk.inj hf
  exact ⟨t, ht, hm, ho, hr, registry_refinement (Machine.run_of_exec ht)⟩

/-! ## The server -/

/-- The message that the router handles in a step of the server. -/
def State.handledIn (s : State) : Action → List Handled
  | .router persistAt now => s.handled (.handle persistAt now)
  | _ => []

/-- Only the router changes its fields. -/
theorem router_step {db : Db} {s s' : State} {act : Action} (h : s.step db act = some s') :
    (∃ p n, act = .router p n ∧ s.routerStep p n = some s') ∨
      (s.handledIn act = [] ∧ s'.router = s.router) := by
  cases State.stepped h with
  | routed next result =>
    exact .inl ⟨_, _, rfl, result ▸ State.routerStep_of_mailbox next _ _⟩
  | framed found active fresh result =>
    refine .inr ⟨rfl, ?_⟩
    cases State.framed result <;> rfl
  | @roomHandled a r e rest p t found alive next result =>
    obtain ⟨o, m⟩ := e
    refine .inr ⟨rfl, ?_⟩
    cases State.handledByRoom result <;> rfl
  | _ => exact .inr ⟨rfl, rfl⟩

/-- The server's router is the router among others: what it knows is right in every run. -/
theorem server_registry {db : Db} {store : Store} {acts : List Action} {t : State}
    (h : (system db store).Run (.start store) acts t) :
    RegistryRefines ((system db store).collect State.handledIn (.start store) acts) t := by
  refine (h.invariant_collect (I := Online) (fun hist s act s' hs hi => ?_) [] (.start store)).refines
  rcases router_step hs with ⟨p, n, rfl, hrouter⟩ | ⟨hnone, hkept⟩
  · have hstep : RouterAction.step s (.handle p n) = some s' := hrouter
    exact hi.step hstep
  · rw [hnone, List.append_nil]
    exact hi.congr hkept

end PerOxo
