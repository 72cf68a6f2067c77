import PerOxo.Actors.Socket
import PerOxo.Proof.LastWord

/-!
# Which frames are handled

A session's receive task is to handle the texts of its stream up to a `Close`, an error or the
end, and the session is to go on that long. The loop ends at **any** frame that is no text: so
it does what it is to as long as it polls no `Binary`, `Ping` or `Pong` (`frames_handled_iff`).
-/

set_option autoImplicit false

namespace PerOxo

open ChatService

/-! ## Streams -/

def Item.text? : Item → Option (Option ChatMessage)
  | .ok (.text text) => some text
  | _ => none

def Item.ofText (text : Option ChatMessage) : Item := .ok (.text text)

/-- The end of the stream, an error or a `Close`. -/
def Terminates : Option Item → Bool
  | none => true
  | some (.error _) => true
  | some (.ok .close) => true
  | some (.ok _) => false

/-- A `Binary`, a `Ping` or a `Pong`. -/
def Item.isPassing : Item → Bool
  | .ok .binary => true
  | .ok .ping => true
  | .ok .pong => true
  | _ => false

theorem terminates_of_passing {x : Item} (h : x.isPassing = true) : Terminates (some x) = false := by
  cases x with
  | error e => cases h
  | ok m =>
    cases m with
    | text text => cases h
    | close => cases h
    | _ => rfl

theorem terminates_or_passing {item : Option Item} (h : ∀ text, item ≠ some (.ok (.text text))) :
    Terminates item = true ∨ ∃ x, item = some x ∧ x.isPassing = true := by
  cases item with
  | none => exact .inl rfl
  | some x =>
    cases x with
    | error e => exact .inl rfl
    | ok m =>
      cases m with
      | text text => exact absurd rfl (h text)
      | close => exact .inl rfl
      | _ => exact .inr ⟨_, rfl, rfl⟩

/-- The texts of a stream up to its end. -/
def textsBefore (l : List Item) : List (Option ChatMessage) :=
  (l.takeWhile fun x => !Terminates (some x)).filterMap Item.text?

theorem textsBefore_append (texts : List (Option ChatMessage)) (l : List Item) :
    textsBefore (texts.map Item.ofText ++ l) = texts ++ textsBefore l := by
  induction texts with
  | nil => rfl
  | cons text texts ih =>
    have hfirst : textsBefore (Item.ofText text :: (texts.map Item.ofText ++ l)) =
        text :: textsBefore (texts.map Item.ofText ++ l) := rfl
    rw [List.map_cons, List.cons_append, hfirst, ih, List.cons_append]

theorem textsBefore_of_terminates {l : List Item} (h : Terminates l[0]? = true) :
    textsBefore l = [] := by
  cases l with
  | nil => rfl
  | cons x l =>
    have hx : Terminates (some x) = true := h
    rw [textsBefore, List.takeWhile_cons_of_neg (by simp [hx])]
    rfl

/-! ## Sessions and their streams -/

section Handled

variable {incoming : Incoming} {sid : SessionId} {s : SocketState}

/-- The receive task has come to the end of its stream. -/
def SocketState.Terminated (incoming : Incoming) (s : SocketState) (sid : SessionId) : Prop :=
  ∃ i < s.polled sid, Terminates (incoming sid)[i]? = true

/-- The session is over only at the end of its stream, or when its send task is. -/
def SocketState.StaysOpen (incoming : Incoming) (s : SocketState) (sid : SessionId) : Prop :=
  ∀ u, s.server.sessions.get? sid = some u → u.recvTask = .finished ∨ u.phase = .ended →
    s.Terminated incoming sid ∨ u.sendTask = .finished

/-- The session has handled the texts of its stream one after the other, and all of them where
it has come to the end; and it is over only then, or when its send task is. -/
structure FramesHandled (incoming : Incoming) (sid : SessionId) (s : SocketState) : Prop where
  inOrder : s.handled sid <+: textsBefore (incoming sid)
  complete : s.Terminated incoming sid → s.handled sid = textsBefore (incoming sid)
  staysOpen : s.StaysOpen incoming sid

/-- The step is not one in which the session's receive task polls a `Binary`, a `Ping` or a
`Pong`, unless its send task is over. -/
def PollsNoOther (incoming : Incoming) (sid : SessionId) (s : SocketState) (act : SocketAction) :
    Prop :=
  ∀ id x u, act = .recv sid id → s.next incoming sid = some x → x.isPassing = true →
    s.server.sessions.get? sid = some u → u.sendTask = .finished

/-- The invariant: what has been polled is the texts that have been handled, and at most one item
after them, with which the task has ended. -/
structure Reading (incoming : Incoming) (sid : SessionId) (s : SocketState) : Prop where
  sessions : Sessions s.server
  texts : (s.handled sid).map Item.ofText <+: incoming sid
  bounded : s.polled sid ≤ (s.handled sid).length + 1
  reading : (∀ u, s.server.sessions.get? sid = some u → u.recvTask ≠ .finished) →
    s.polled sid = (s.handled sid).length
  /-- Only the end of the send task aborts a receive task. -/
  aborting : ∀ u, s.server.sessions.get? sid = some u → u.recvTask = .aborting →
    u.sendTask = .finished

theorem Reading.terminated_iff (h : Reading incoming sid s) : s.Terminated incoming sid ↔
    s.polled sid = (s.handled sid).length + 1 ∧
      Terminates (incoming sid)[(s.handled sid).length]? = true := by
  obtain ⟨rest, hrest⟩ := h.texts
  constructor
  · intro ht
    obtain ⟨i, hi, hterm⟩ := ht
    have hlen : (s.handled sid).length ≤ i := by
      by_contra hlt
      have hlt := not_le.mp hlt
      rw [← hrest, List.getElem?_append_left (by simpa using hlt), List.getElem?_map,
        List.getElem?_eq_getElem hlt] at hterm
      cases hterm
    have hbound := h.bounded
    obtain rfl : i = (s.handled sid).length := by omega
    exact ⟨by omega, hterm⟩
  · intro ht
    exact ⟨_, by omega, ht.2⟩

/-- The order of the texts is never wrong. -/
theorem Reading.framesHandled_iff (h : Reading incoming sid s) :
    FramesHandled incoming sid s ↔ s.StaysOpen incoming sid := by
  constructor
  · intro hf
    exact hf.staysOpen
  · intro hopen
    have hterm := h.terminated_iff
    obtain ⟨rest, hrest⟩ := h.texts
    refine ⟨?_, ?_, hopen⟩
    · rw [← hrest, textsBefore_append]
      exact List.prefix_append _ _
    · intro ht
      obtain ⟨-, hlast⟩ := hterm.mp ht
      rw [← hrest, List.getElem?_append_right (by simp), List.length_map, Nat.sub_self] at hlast
      rw [← hrest, textsBefore_append, textsBefore_of_terminates hlast, List.append_nil]

end Handled

/-! ## Steps -/

section Step

variable {db : Db} {incoming : Incoming} {sid : SessionId}

theorem TaskState.not_finished {t : TaskState} (h : t.Active) : t ≠ .finished := by
  rcases h with rfl | rfl <;> decide

theorem TaskState.abort_eq_aborting {t : TaskState} (h : t.abort = .aborting) :
    t = .running ∨ t = .aborting := by
  cases t with
  | running => exact .inl rfl
  | aborting => exact .inr rfl
  | _ => cases h

/-- A receive task that is over stays so. -/
theorem recv_finished_step {s s' : State} {act : Action} (hi : Sessions s)
    (h : s.step db act = some s') {u : UserSession} (hu : s.sessions.get? sid = some u)
    (hf : u.recvTask = .finished) :
    ∃ u', s'.sessions.get? sid = some u' ∧ u'.recvTask = .finished := by
  obtain ⟨u', hu', rfl | hmove⟩ := session_kept h hu
  · exact ⟨u', hu', hf⟩
  · refine ⟨u', hu', ?_⟩
    cases hmove with
    | answered r => exact hf
    | started creating =>
      have hidle := (hi.registry.session sid u hu).idle creating
      exact absurd (hidle.symm.trans hf) (by decide)
    | failed creating e => exact hf
    | recvEnded active => rfl
    | sendEnded active => exact hf
    | ended running finished => simp only [hf, TaskState.abort]

/-- Only the end of the send task aborts the receive task. -/
theorem aborting_step {s s' : State} {act : Action} (h : s.step db act = some s')
    (hi : ∀ u, s.sessions.get? sid = some u → u.recvTask = .aborting → u.sendTask = .finished) :
    ∀ u, s'.sessions.get? sid = some u → u.recvTask = .aborting → u.sendTask = .finished := by
  intro u' hu' hab
  rcases session_moved h hu' with ⟨-, v, rfl⟩ | ⟨u, hu, rfl | move⟩
  · cases hab
  · exact hi u' hu hab
  · cases move with
    | answered r => exact hi u hu hab
    | started creating => cases hab
    | failed creating e => exact hi u hu hab
    | recvEnded active => cases hab
    | sendEnded active => rfl
    | ended running finished =>
      have hsend : u.sendTask = .finished := by
        rcases TaskState.abort_eq_aborting hab with hrun | hab
        · exact finished.resolve_right (by simp [hrun])
        · exact hi u hu hab
      simp only [hsend, TaskState.abort]

/-- A step in which nothing is polled from the session's stream. -/
theorem Reading.server {s s' : SocketState} {act : Action} (h : Reading incoming sid s)
    (hs : s.server.step db act = some s'.server) (hp : s'.polled sid = s.polled sid)
    (hh : s'.handled sid = s.handled sid) : Reading incoming sid s' := by
  refine ⟨h.sessions.step hs, ?_, ?_, ?_, aborting_step hs h.aborting⟩
  · rw [hh]
    exact h.texts
  · rw [hp, hh]
    exact h.bounded
  · intro hn
    rw [hp, hh]
    apply h.reading
    intro u hu hf
    obtain ⟨u', hu', hf'⟩ := recv_finished_step h.sessions hs hu hf
    exact hn u' hu' hf'

/-- The next item is behind the texts that have been handled. -/
theorem Reading.next_eq {s : SocketState} (h : Reading incoming sid s) {u : UserSession}
    (found : s.server.sessions.get? sid = some u) (active : u.recvTask.Active) :
    s.polled sid = (s.handled sid).length ∧
      s.next incoming sid = (incoming sid)[(s.handled sid).length]? := by
  have hpolled : s.polled sid = (s.handled sid).length := by
    apply h.reading
    intro w hw
    obtain rfl := Option.some.inj (hw.symm.trans found)
    exact TaskState.not_finished active
  exact ⟨hpolled, by rw [SocketState.next, hpolled]⟩

theorem Reading.step {s s' : SocketState} {act : SocketAction} (h : Reading incoming sid s)
    (hs : s.step db incoming act = some s') : Reading incoming sid s' := by
  cases SocketState.stepped hs with
  | @text sid' id text t item result =>
    by_cases hsid : sid' = sid
    · subst hsid
      cases State.stepped result with
      | framed found active fresh handles =>
        obtain ⟨hpolled, hnext⟩ := h.next_eq found active
        obtain ⟨rest, hrest⟩ := h.texts
        rw [hnext, ← hrest, List.getElem?_append_right (by simp), List.length_map, Nat.sub_self] at item
        obtain ⟨rest, rfl⟩ : ∃ rest', rest = Item.ofText text :: rest' := by
          cases rest with
          | nil => cases item
          | cons x rest => exact ⟨rest, by rw [Option.some.inj item]; rfl⟩
        refine ⟨h.sessions.step result, ?_, ?_, ?_, aborting_step result h.aborting⟩
        · refine ⟨rest, ?_⟩
          simp only [Function.update_self]
          rw [← hrest]
          simp
        · simp [hpolled]
        · intro _
          simp [hpolled]
    · have hne := Ne.symm hsid
      exact h.server result (Function.update_of_ne hne _ _) (Function.update_of_ne hne _ _)
  | @stopped sid' id t item result =>
    by_cases hsid : sid' = sid
    · subst hsid
      cases State.stepped result with
      | recvEnded found active =>
        obtain ⟨hpolled, -⟩ := h.next_eq found active
        refine ⟨h.sessions.step result, h.texts, ?_, ?_, aborting_step result h.aborting⟩
        · simp [hpolled]
        · intro hn
          exact absurd rfl (hn _ (Arena.get?_modify_self found))
    · exact h.server result (Function.update_of_ne (Ne.symm hsid) _ _) rfl
  | server allowed result => exact h.server result rfl rfl

theorem SocketState.Terminated.mono {s s' : SocketState} (h : s.Terminated incoming sid)
    (hp : s.polled sid ≤ s'.polled sid) : s'.Terminated incoming sid :=
  let ⟨i, hi, hterm⟩ := h
  ⟨i, hi.trans_le hp, hterm⟩

/-- A session is kept open by all that does not end its receive task. -/
theorem staysOpen_of_moved {s s' : SocketState} {act : Action}
    (hs : s.server.step db act = some s'.server) (hp : s.polled sid ≤ s'.polled sid)
    (hact : act = .recvTaskEnd sid → ∀ u, s.server.sessions.get? sid = some u →
      u.sendTask = .finished)
    (ho : s.StaysOpen incoming sid) : s'.StaysOpen incoming sid := by
  intro u' hu' hover
  have hstill : ∀ u, s.server.sessions.get? sid = some u →
      u.recvTask = .finished ∨ u.phase = .ended →
        s'.Terminated incoming sid ∨ u.sendTask = .finished :=
    fun u hu hover => (ho u hu hover).imp_left fun ht => ht.mono hp
  rcases session_moved hs hu' with ⟨-, v, rfl⟩ | ⟨u, hu, rfl | move⟩
  · rcases hover with hc | hc <;> cases hc
  · exact hstill u' hu hover
  · cases move with
    | answered r => exact hstill u hu hover
    | started creating => rcases hover with hc | hc <;> cases hc
    | failed creating e =>
      exact hstill u hu (hover.imp_right fun hc => by cases hc)
    | recvEnded active => exact .inr (hact rfl u hu)
    | sendEnded active => exact .inr rfl
    | ended running finished =>
      rcases finished with hsend | hrecv
      · exact .inr (by simp only [hsend, TaskState.abort])
      · exact (hstill u hu (.inl hrecv)).imp_right fun hsend => by
          simp only [hsend, TaskState.abort]

/-- **One step keeps a session open exactly if it polls no other frame.** -/
theorem staysOpen_step {s s' : SocketState} {act : SocketAction} (h : Reading incoming sid s)
    (hs : s.step db incoming act = some s') (ho : s.StaysOpen incoming sid) :
    s'.StaysOpen incoming sid ↔ PollsNoOther incoming sid s act := by
  have hstep := h.step hs
  cases SocketState.stepped hs with
  | @text sid' id text t item result =>
    constructor
    · intro _ id' x u ha hx hpassing _
      obtain ⟨rfl, -⟩ := SocketAction.recv.inj ha
      obtain rfl := Option.some.inj (item.symm.trans hx)
      cases hpassing
    · intro _
      refine staysOpen_of_moved result ?_ (by simp) ho
      by_cases hsid : sid' = sid
      · subst hsid
        simp
      · exact (Function.update_of_ne (Ne.symm hsid) _ _).ge
  | @server act t allowed result =>
    constructor
    · intro _ id' x u ha
      cases ha
    · intro _
      refine staysOpen_of_moved result le_rfl ?_ ho
      rintro rfl u hu
      have hab : u.recvTask = .aborting := by simpa [SocketState.allows, hu] using allowed
      exact h.aborting u hu hab
  | @stopped sid' id t item result =>
    by_cases hsid : sid' = sid
    · subst hsid
      cases State.stepped result with
      | @recvEnded _ u found active =>
        obtain ⟨hpolled, hnext⟩ := h.next_eq found active
        have hu' : (s.server.endRecvTask sid').sessions.get? sid' =
            some { u with recvTask := .finished } := Arena.get?_modify_self found
        constructor
        · intro hopen id' x w _ hx hpassing hw
          obtain rfl := Option.some.inj (hw.symm.trans found)
          rcases hopen _ hu' (.inl rfl) with hterm | hsend
          · obtain ⟨-, hlast⟩ := hstep.terminated_iff.mp hterm
            rw [← hnext, hx, terminates_of_passing hpassing] at hlast
            cases hlast
          · exact hsend
        · intro hpolls w hw _
          obtain rfl := Option.some.inj (hw.symm.trans hu')
          rcases terminates_or_passing item with hterm | ⟨x, hx, hpassing⟩
          · refine .inl (hstep.terminated_iff.mpr ⟨?_, ?_⟩)
            · simp [hpolled]
            · rw [← hnext]
              exact hterm
          · exact .inr (hpolls id x u rfl hx hpassing found)
    · constructor
      · intro _ id' x u ha
        exact absurd (SocketAction.recv.inj ha).1 hsid
      · intro _
        have hne := Ne.symm hsid
        refine staysOpen_of_moved result (Function.update_of_ne hne _ _).ge ?_ ho
        intro ha
        exact absurd (Action.recvTaskEnd.inj ha) hsid

end Step

/-- **Which frames are handled.** In every run over any streams: a session handles the texts of
its stream in order, each once, all of them up to the end of the stream, and ends only there or
with its send task, in every state of the run exactly if in no step its receive task polls a
`Binary`, a `Ping` or a `Pong` while the send task is not over. -/
theorem frames_handled_iff {db : Db} {store : Store} {incoming : Incoming}
    {acts : List SocketAction} {t : SocketState}
    (h : (socketSystem db store incoming).Run (.start store) acts t) (sid : SessionId) :
    (socketSystem db store incoming).Always (FramesHandled incoming sid) (.start store) acts ↔
      (socketSystem db store incoming).Meets (PollsNoOther incoming sid) (.start store) acts := by
  have hstart : Reading incoming sid (.start store) := by
    refine ⟨sessions_start store, List.nil_prefix, Nat.zero_le _, fun _ => rfl, ?_⟩
    intro u hu
    simp [SocketState.start, State.start] at hu
  apply h.always_iff_meets (J := Reading incoming sid) (fun _ _ _ hs hj => hj.step hs)
  · intro s act s' hs hj hp
    rw [(hj.step hs).framesHandled_iff]
    exact staysOpen_step hj hs hp.staysOpen
  · exact hstart
  · rw [hstart.framesHandled_iff]
    intro u hu
    simp [SocketState.start, State.start] at hu

/-- `alice` joins a room and closes her socket. -/
def joinAndClose : Incoming := fun _ => [.ok (.text (some (.joinRoom "lobby"))), .ok .close]

def readTwice : List SocketAction :=
  [.server (.connect alice), .server (.router 0 0), .server (.finishCreation 0),
    .recv 0 (.ofTime 1), .recv 0 (.ofTime 2)]

theorem frames_handled_iff_joinAndClose :
    ∃ t, (socketSystem scratchDb .empty joinAndClose).exec (.start .empty) readTwice = some t ∧
      t.handled 0 = [some (.joinRoom "lobby")] ∧
      ((socketSystem scratchDb .empty joinAndClose).Always (FramesHandled joinAndClose 0)
          (.start .empty) readTwice ↔
        (socketSystem scratchDb .empty joinAndClose).Meets (PollsNoOther joinAndClose 0)
          (.start .empty) readTwice) := by
  obtain ⟨t, ht, hh⟩ := Option.map_eq_some_iff.mp
    (show ((socketSystem scratchDb .empty joinAndClose).exec (.start .empty) readTwice).map
      (·.handled 0) = some [some (.joinRoom "lobby")] from rfl)
  exact ⟨t, ht, hh, frames_handled_iff (Machine.run_of_exec ht) 0⟩

/-- Before the join there is a `Ping` on its way. -/
def pingAndJoin : Incoming := fun _ => [.ok .ping, .ok (.text (some (.joinRoom "lobby")))]

/-- The session is over, and the join has not been handled. -/
theorem ping_ends_session :
    ∃ t, (socketSystem scratchDb .empty pingAndJoin).exec (.start .empty)
        [.server (.connect alice), .server (.router 0 0), .server (.finishCreation 0),
          .recv 0 (.ofTime 1), .server (.endSession 0)] = some t ∧
      t.handled 0 = [] ∧ textsBefore (pingAndJoin 0) = [some (.joinRoom "lobby")] ∧
      ¬ FramesHandled pingAndJoin 0 t := by
  obtain ⟨t, ht, hf⟩ := Option.map_eq_some_iff.mp
    (show ((socketSystem scratchDb .empty pingAndJoin).exec (.start .empty)
        [.server (.connect alice), .server (.router 0 0), .server (.finishCreation 0),
          .recv 0 (.ofTime 1), .server (.endSession 0)]).map
        (fun s => ((s.server.sessions.get? 0).map fun u => (u.phase, u.sendTask), s.polled 0,
          s.handled 0)) = some (some (.ended, .aborting), 1, []) from rfl)
  obtain ⟨hses, hpolled, hh⟩ := Prod.mk.inj hf |>.imp_right Prod.mk.inj
  refine ⟨t, ht, hh, rfl, ?_⟩
  intro hframes
  obtain ⟨u, hu, htasks⟩ := Option.map_eq_some_iff.mp hses
  obtain ⟨hphase, hsend⟩ := Prod.mk.inj htasks
  rcases hframes.staysOpen u hu (.inr hphase) with ⟨i, hi, hterm⟩ | hover
  · rw [hpolled] at hi
    obtain rfl : i = 0 := by omega
    cases hterm
  · rw [hsend] at hover
    cases hover

end PerOxo
