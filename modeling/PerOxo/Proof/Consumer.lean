import PerOxo.RabbitConsumer.Consumer

/-!
# What the consumer may lose

A payload is acknowledged once its write has been tried. Where the write has failed it is
acknowledged all the same (`acknowledged_unwritten`), and nothing has it any more; this is the only
way to lose a payload that parses (`consumer_keeps`).
-/

set_option autoImplicit false

namespace PerOxo.RabbitConsumer

variable {P M K R : Type} [DecidableEq K]

/-- The message is the payload of one that has been queued. -/
def ConsumerState.Queued (H : MessageHandler P M K R) (s : ConsumerState P) (m : M) : Prop :=
  ∃ i msg, s.messages.get? i = some msg ∧ H.fromSlice msg.payload = .ok m

/-- There is a row under the key of the message, and what it says has been queued: it is the row
of this message where no other one has its key. -/
def ConsumerState.Stored (H : MessageHandler P M K R) (s : ConsumerState P) (m : M) : Prop :=
  ∃ m', s.Queued H m' ∧ H.key m' = H.key m ∧
    (H.table s.tables).lookup (H.key m) = some (H.row m')

/-- The write of a delivery of the message has failed. -/
def ConsumerState.WriteFailed (s : ConsumerState P) (i : Nat) : Prop :=
  ∃ d del f, s.deliveries.get? d = some del ∧ del.message = i ∧ del.written = some (some f)

/-- The keys of the payloads that have been queued, each once. -/
def ConsumerState.queuedKeys (H : MessageHandler P M K R) (s : ConsumerState P) : List K :=
  (s.messages.rows.filterMap fun msg => (H.fromSlice msg.payload).toOption.map H.key).dedup

/-- The write of the delivery has been tried. Where it has returned `Ok`, or an error after it was
applied, the message is stored. -/
def ConsumerState.WriteTried (H : MessageHandler P M K R) (s : ConsumerState P) (del : Delivery P)
    (m : M) : Prop :=
  (del.written = some none ∧ s.Stored H m) ∨
    ∃ f, del.written = some (some f) ∧ (f.applied = true → s.Stored H m)

/-- What becomes of the payloads, over a table that was there before. -/
structure Custody (H : MessageHandler P M K R) (tables : Tables) (s : ConsumerState P) : Prop where
  /-- A delivery is acknowledged only after its own write has been tried: it has stored the row, or
  it has failed. -/
  acknowledged : ∀ d del m, s.deliveries.get? d = some del → del.phase = .finished →
    H.fromSlice del.data = .ok m → s.WriteTried H del m
  kept : ∀ i msg m, s.messages.get? i = some msg → H.fromSlice msg.payload = .ok m →
    msg.state = .queued ∨ (∃ d, msg.state = .unacked d) ∨ s.Stored H m ∨ s.WriteFailed i
  rows : ∀ k r, (H.table s.tables).lookup k = some r →
    (H.table tables).lookup k = some r ∨ ∃ m, s.Queued H m ∧ H.key m = k ∧ H.row m = r
  /-- Of all deliveries of the payloads with a key there is a single row. -/
  single : (H.table s.tables).entries.length ≤
    (H.table tables).entries.length + (s.queuedKeys H).length

/-! ## What a step keeps -/

section Step

variable {H : MessageHandler P M K R} {s s' : ConsumerState P} {act : ConsumerAction P}

theorem payload_step (h : s.step H act = some s') {i : Nat} {msg : QueuedMessage P}
    (hi : s.messages.get? i = some msg) :
    ∃ msg', s'.messages.get? i = some msg' ∧ msg'.payload = msg.payload := by
  have hset : ∀ j state, ∃ msg',
      (s.messages.modify j fun msg => { msg with state := state }).get? i = some msg' ∧
        msg'.payload = msg.payload := by
    intro j state
    exact Arena.exists_modify hi rfl fun _ => rfl
  cases ConsumerState.stepped h with
  | published payload => exact ⟨msg, Arena.get?_alloc_of_some hi, rfl⟩
  | delivered found => exact hset _ _
  | rejected | written | failed | finished => exact ⟨msg, hi, rfl⟩
  | acked => exact hset _ _
  | requeued => exact hset _ _

theorem queued_step (h : s.step H act = some s') {m : M} (hm : s.Queued H m) : s'.Queued H m := by
  obtain ⟨i, msg, hi, hp⟩ := hm
  obtain ⟨msg', hi', hpay⟩ := payload_step h hi
  exact ⟨i, msg', hi', hpay ▸ hp⟩

/-- What a delivery has is from a message of the queue. -/
def DataQueued (s : ConsumerState P) : Prop :=
  ∀ d del, s.deliveries.get? d = some del →
    ∃ msg, s.messages.get? del.message = some msg ∧ msg.payload = del.data

/-- What a delivery has it keeps. -/
theorem delivery_source (h : s.step H act = some s') {d : Nat} {del : Delivery P}
    (hd : s'.deliveries.get? d = some del) :
    (∃ before, s.deliveries.get? d = some before ∧ before.message = del.message ∧
      before.data = del.data) ∨
    ∃ msg, s.messages.get? del.message = some msg ∧ msg.payload = del.data := by
  have hset : ∀ {o phase written}, (s.setDelivery o phase written).deliveries.get? d = some del →
      ∃ before, s.deliveries.get? d = some before ∧ before.message = del.message ∧
        before.data = del.data := by
    intro o phase written hd
    obtain ⟨-, before, hb, rfl⟩ | ⟨-, hb⟩ := Arena.get?_modify_eq_some.mp hd
    · exact ⟨before, hb, rfl, rfl⟩
    · exact ⟨del, hb, rfl, rfl⟩
  cases ConsumerState.stepped h with
  | published | requeued => exact .inl ⟨del, hd, rfl, rfl⟩
  | delivered found =>
    obtain ⟨-, rfl⟩ | hb := Arena.get?_alloc_eq_some.mp hd
    · exact .inr ⟨_, found, rfl⟩
    · exact .inl ⟨del, hb, rfl, rfl⟩
  | rejected | written | failed | acked | finished => exact .inl (hset hd)

theorem dataQueued_step (h : s.step H act = some s') (hs : DataQueued s) : DataQueued s' := by
  intro d del hd
  have hmsg : ∃ msg, s.messages.get? del.message = some msg ∧ msg.payload = del.data := by
    obtain ⟨before, hb, hi, hp⟩ | hmsg := delivery_source h hd
    · exact hi ▸ hp ▸ hs d before hb
    · exact hmsg
  obtain ⟨msg, hi, hp⟩ := hmsg
  obtain ⟨msg', hi', hp'⟩ := payload_step h hi
  exact ⟨msg', hi', hp'.trans hp⟩

theorem table_step (h : s.step H act = some s') (hs : DataQueued s) :
    H.table s'.tables = H.table s.tables ∨
      ∃ m, s.Queued H m ∧ H.table s'.tables = (H.table s.tables).insert (H.key m) (H.row m) := by
  cases ConsumerState.stepped h with
  | @written d i data m _ _ found parsed =>
    obtain ⟨msg, hi, hp⟩ := hs d _ found
    exact .inr ⟨m, ⟨i, msg, hi, (congrArg H.fromSlice hp).trans parsed⟩, H.table_write m s.tables⟩
  | published | delivered | rejected | failed | acked | finished | requeued => exact .inl rfl

theorem stored_step (h : s.step H act = some s') (hs : DataQueued s) {m : M}
    (hm : s.Stored H m) : s'.Stored H m := by
  obtain ⟨m₀, hq, hk, hrow⟩ := hm
  obtain heq | ⟨m₁, hq₁, heq⟩ := table_step h hs
  · exact ⟨m₀, queued_step h hq, hk, heq ▸ hrow⟩
  · -- A row that replaces the one there is of a message with the same key.
    by_cases hkey : H.key m = H.key m₁
    · refine ⟨m₁, queued_step h hq₁, hkey.symm, ?_⟩
      rw [heq, hkey]
      exact AList.lookup_insert _
    · refine ⟨m₀, queued_step h hq, hk, ?_⟩
      rw [heq, AList.lookup_insert_ne hkey]
      exact hrow

theorem writeTried_step (h : s.step H act = some s') (hs : DataQueued s) {before del : Delivery P}
    (hw : before.written = del.written) {m : M} (ht : s.WriteTried H before m) :
    s'.WriteTried H del m := by
  rcases ht with ⟨hwritten, hstored⟩ | ⟨f, hwritten, hstored⟩
  · exact .inl ⟨hw ▸ hwritten, stored_step h hs hstored⟩
  · exact .inr ⟨f, hw ▸ hwritten, fun hf => stored_step h hs (hstored hf)⟩

/-- A message that has been processed has had its write tried. -/
def Tried (H : MessageHandler P M K R) (s : ConsumerState P) : Prop :=
  ∀ d del m, s.deliveries.get? d = some del → del.phase ≠ .received →
    H.fromSlice del.data = .ok m → s.WriteTried H del m

theorem tried_step (h : s.step H act = some s') (hs : DataQueued s) (ht : Tried H s) :
    Tried H s' := by
  intro d del m hd hphase hm
  have hold : ∀ before, s.deliveries.get? d = some before → before.phase ≠ .received →
      before.data = del.data → before.written = del.written → s'.WriteTried H del m := by
    intro before hb hp hdata hwritten
    exact writeTried_step h hs hwritten (ht d before m hb hp (hdata ▸ hm))
  cases ConsumerState.stepped h with
  | published | requeued => exact hold del hd hphase rfl rfl
  | delivered =>
    obtain ⟨-, rfl⟩ | hb := Arena.get?_alloc_eq_some.mp hd
    · exact (hphase rfl).elim
    · exact hold del hb hphase rfl rfl
  | rejected found parsed =>
    obtain ⟨rfl, before, hb, rfl⟩ | ⟨-, hb⟩ := Arena.get?_modify_eq_some.mp hd
    · obtain rfl := Option.some.inj (found.symm.trans hb)
      cases parsed.symm.trans hm
    · exact hold del hb hphase rfl rfl
  | @written o i data m₀ fault _ found parsed applied =>
    obtain ⟨rfl, before, hb, rfl⟩ | ⟨-, hb⟩ := Arena.get?_modify_eq_some.mp hd
    · obtain rfl := Option.some.inj (found.symm.trans hb)
      obtain rfl : m₀ = m := Except.ok.inj (parsed.symm.trans hm)
      obtain ⟨msg, hi, hp⟩ := hs d _ found
      have hqueued := queued_step h ⟨i, msg, hi, (congrArg H.fromSlice hp).trans parsed⟩
      have hrow := (congrArg (AList.lookup (H.key m₀)) (H.table_write m₀ s.tables)).trans
        (AList.lookup_insert _)
      cases fault with
      | none => exact .inl ⟨rfl, m₀, hqueued, rfl, hrow⟩
      | some f => exact .inr ⟨f, rfl, fun _ => ⟨m₀, hqueued, rfl, hrow⟩⟩
    · exact hold del hb hphase rfl rfl
  | @failed o _ _ _ f _ found parsed notApplied =>
    obtain ⟨rfl, before, hb, rfl⟩ | ⟨-, hb⟩ := Arena.get?_modify_eq_some.mp hd
    · exact .inr ⟨f, rfl, fun hf => absurd (notApplied.symm.trans hf) nofun⟩
    · exact hold del hb hphase rfl rfl
  | acked found | finished found =>
    obtain ⟨rfl, before, hb, rfl⟩ | ⟨-, hb⟩ := Arena.get?_modify_eq_some.mp hd
    · obtain rfl := Option.some.inj (found.symm.trans hb)
      exact hold _ hb nofun rfl rfl
    · exact hold del hb hphase rfl rfl

/-- An acknowledged message has been acknowledged by one of its deliveries. -/
def AckedByDelivery (s : ConsumerState P) : Prop :=
  ∀ i msg, s.messages.get? i = some msg → msg.state = .acked →
    ∃ d del, s.deliveries.get? d = some del ∧ del.message = i ∧ del.phase = .finished

theorem finished_step (h : s.step H act = some s') {d : Nat} {del : Delivery P}
    (hd : s.deliveries.get? d = some del) (hphase : del.phase = .finished) :
    s'.deliveries.get? d = some del := by
  have hset : ∀ {o before phase written}, s.deliveries.get? o = some before →
      before.phase ≠ .finished → (s.setDelivery o phase written).deliveries.get? d = some del := by
    intro o before phase written ho hp
    refine (Arena.get?_modify_ne ?_).trans hd
    rintro rfl
    obtain rfl := Option.some.inj (ho.symm.trans hd)
    exact hp hphase
  cases ConsumerState.stepped h with
  | published | requeued => exact hd
  | delivered => exact Arena.get?_alloc_of_some hd
  | rejected found | written found | failed found => exact hset found nofun
  | acked found | finished found => exact hset found nofun

theorem ackedByDelivery_step (h : s.step H act = some s') (ha : AckedByDelivery s) :
    AckedByDelivery s' := by
  intro i msg hi hacked
  have hold : ∀ before, s.messages.get? i = some before → before.state = .acked →
      ∃ d del, s'.deliveries.get? d = some del ∧ del.message = i ∧ del.phase = .finished := by
    intro before hb hstate
    obtain ⟨d, del, hd, hmsg, hphase⟩ := ha i before hb hstate
    exact ⟨d, del, finished_step h hd hphase, hmsg, hphase⟩
  cases ConsumerState.stepped h with
  | published =>
    obtain ⟨-, rfl⟩ | hb := Arena.get?_alloc_eq_some.mp hi
    · cases hacked
    · exact hold msg hb hacked
  | delivered | requeued =>
    obtain ⟨-, before, -, rfl⟩ | ⟨-, hb⟩ := Arena.get?_modify_eq_some.mp hi
    · cases hacked
    · exact hold msg hb hacked
  | rejected | written | failed | finished => exact hold msg hi hacked
  | @acked d _ _ _ _ _ found =>
    obtain ⟨rfl, -⟩ | ⟨-, hb⟩ := Arena.get?_modify_eq_some.mp hi
    · exact ⟨d, _, Arena.get?_modify_self found, rfl, rfl⟩
    · exact hold msg hb hacked

def RowsQueued (H : MessageHandler P M K R) (tables : Tables) (s : ConsumerState P) : Prop :=
  ∀ k r, (H.table s.tables).lookup k = some r →
    (H.table tables).lookup k = some r ∨ ∃ m, s.Queued H m ∧ H.key m = k ∧ H.row m = r

theorem rowsQueued_step {tables : Tables} (h : s.step H act = some s') (hs : DataQueued s)
    (hr : RowsQueued H tables s) : RowsQueued H tables s' := by
  intro k r hk
  have hold : (H.table s.tables).lookup k = some r →
      (H.table tables).lookup k = some r ∨ ∃ m, s'.Queued H m ∧ H.key m = k ∧ H.row m = r := by
    intro hk
    obtain hk | ⟨m, hq, hm⟩ := hr k r hk
    · exact .inl hk
    · exact .inr ⟨m, queued_step h hq, hm⟩
  obtain heq | ⟨m, hq, heq⟩ := table_step h hs
  · exact hold (heq ▸ hk)
  · rw [heq, HashMap.lookup_insert_eq] at hk
    split at hk
    · next hkey => exact .inr ⟨m, queued_step h hq, hkey.symm, Option.some.inj hk⟩
    · exact hold hk

end Step

/-! ## Every run -/

section Run

variable {H : MessageHandler P M K R} {tables : Tables} {s : ConsumerState P}

/-- What every step keeps. -/
structure InCustody (H : MessageHandler P M K R) (tables : Tables) (s : ConsumerState P) :
    Prop where
  data : DataQueued s
  tried : Tried H s
  acked : AckedByDelivery s
  rows : RowsQueued H tables s

theorem inCustody_start : InCustody H tables (.start tables) where
  data _ _ hd := nomatch hd
  tried _ _ _ hd := nomatch hd
  acked _ _ hi := nomatch hi
  rows _ _ hk := .inl hk

theorem inCustody_step {s' : ConsumerState P} {act : ConsumerAction P}
    (h : s.step H act = some s') (hs : InCustody H tables s) : InCustody H tables s' where
  data := dataQueued_step h hs.data
  tried := tried_step h hs.data hs.tried
  acked := ackedByDelivery_step h hs.acked
  rows := rowsQueued_step h hs.data hs.rows

theorem reachable_inCustody (h : (consumerSystem H tables).Reachable s) : InCustody H tables s :=
  h.invariant (I := InCustody H tables) inCustody_start fun _ _ _ _ hstep hs => inCustody_step hstep hs

/-- Its delivery has been acknowledged, so its write has been tried. -/
theorem InCustody.stored_or_failed (hs : InCustody H tables s) {i : Nat} {msg : QueuedMessage P}
    {m : M} (hi : s.messages.get? i = some msg) (hm : H.fromSlice msg.payload = .ok m)
    (hacked : msg.state = .acked) : s.Stored H m ∨ s.WriteFailed i := by
  obtain ⟨d, del, hd, rfl, hphase⟩ := hs.acked i msg hi hacked
  obtain ⟨msg', hi', hp⟩ := hs.data d del hd
  obtain rfl := Option.some.inj (hi.symm.trans hi')
  obtain ⟨-, hstored⟩ | ⟨f, hf, -⟩ := hs.tried d del m hd (hphase ▸ nofun) (hp ▸ hm)
  · exact .inl hstored
  · exact .inr ⟨d, del, f, hd, rfl, hf⟩

theorem mem_queuedKeys {k : K} :
    k ∈ s.queuedKeys H ↔ ∃ m, s.Queued H m ∧ H.key m = k := by
  unfold ConsumerState.queuedKeys
  rw [List.mem_dedup, List.mem_filterMap]
  constructor
  · rintro ⟨msg, hmem, hk⟩
    obtain ⟨i, hi⟩ := List.mem_iff_getElem?.mp hmem
    cases hp : H.fromSlice msg.payload with
    | error e =>
      rw [hp] at hk
      cases hk
    | ok m =>
      rw [hp] at hk
      exact ⟨m, ⟨i, msg, hi, hp⟩, Option.some.inj hk⟩
  · rintro ⟨m, ⟨i, msg, hi, hp⟩, rfl⟩
    refine ⟨msg, List.mem_of_getElem? hi, ?_⟩
    rw [hp]
    rfl

/-- A table has a key once, and each is of a row before or of a queued payload. -/
theorem RowsQueued.single (hr : RowsQueued H tables s) :
    (H.table s.tables).entries.length ≤
      (H.table tables).entries.length + (s.queuedKeys H).length := by
  have hsub : (H.table s.tables).keys ⊆ (H.table tables).keys ++ s.queuedKeys H := by
    intro k hk
    obtain ⟨r, hlookup⟩ := Option.isSome_iff_exists.mp (AList.lookup_isSome.mpr hk)
    obtain hbefore | ⟨m, hq, hkey, -⟩ := hr k r hlookup
    · have hmem : k ∈ (H.table tables).keys :=
        AList.lookup_isSome.mp (Option.isSome_iff_exists.mpr ⟨r, hbefore⟩)
      exact List.mem_append_left _ hmem
    · exact List.mem_append_right _ (mem_queuedKeys.mpr ⟨m, hq, hkey⟩)
  have hlength : (H.table s.tables).keys.length ≤
      ((H.table tables).keys ++ s.queuedKeys H).length :=
    ((H.table s.tables).keys_nodup.subperm hsub).length_le
  simpa [AList.keys, List.keys] using hlength

end Run

/-- A payload that parses is acknowledged only after its write has been tried. So it is queued,
unacked or stored, or the write of one of its deliveries has failed; and however often a payload is
delivered, it has a single row. -/
theorem consumer_keeps (H : MessageHandler P M K R) (tables : Tables) {s : ConsumerState P}
    (h : (consumerSystem H tables).Reachable s) : Custody H tables s := by
  have hs := reachable_inCustody h
  refine ⟨fun d del m hd hphase => hs.tried d del m hd (hphase ▸ nofun), fun i msg m hi hm => ?_,
    hs.rows, hs.rows.single⟩
  cases hstate : msg.state with
  | queued => exact .inl rfl
  | unacked d => exact .inr (.inl ⟨d, rfl⟩)
  | acked => exact .inr (.inr (hs.stored_or_failed hi hm hstate))

/-! ## Two runs -/

/-- The write fails, and the payload is acknowledged. -/
def writeFails (payload : P) : List (ConsumerAction P) :=
  [.publish payload, .deliver 0, .process 0 (some ⟨"unavailable", false⟩), .ack 0 true]

theorem exec_writeFails {H : MessageHandler P M K R} {payload : P} {m : M} (tables : Tables)
    (hm : H.fromSlice payload = .ok m) :
    (consumerSystem H tables).exec (.start tables) (writeFails payload) =
      some ⟨⟨[⟨payload, .acked⟩]⟩,
        ⟨[⟨0, payload, .finished, some (some ⟨"unavailable", false⟩)⟩]⟩, tables⟩ := by
  simp [writeFails, Machine.exec, consumerSystem, ConsumerState.step, ConsumerState.start,
    ConsumerState.deliver, ConsumerState.Idle, ConsumerState.process, ConsumerState.ack,
    ConsumerState.sendAck, ConsumerState.IsUnacked, ConsumerState.setMessage,
    ConsumerState.setDelivery, MessageHandler.processMessage, Arena.get?, Arena.alloc,
    Arena.modify, Arena.empty, Arena.next, hm]

/-- The first acknowledgement is lost, and the payload is delivered again. -/
def ackFails (payload : P) : List (ConsumerAction P) :=
  [.publish payload, .deliver 0, .process 0 none, .ack 0 false, .requeue 0, .deliver 0,
    .process 1 none, .ack 1 true]

theorem exec_ackFails {H : MessageHandler P M K R} {payload : P} {m : M} (tables : Tables)
    (hm : H.fromSlice payload = .ok m) :
    (consumerSystem H tables).exec (.start tables) (ackFails payload) =
      some ⟨⟨[⟨payload, .acked⟩]⟩,
        ⟨[⟨0, payload, .finished, some none⟩, ⟨0, payload, .finished, some none⟩]⟩,
        H.write m (H.write m tables)⟩ := by
  simp [ackFails, Machine.exec, consumerSystem, ConsumerState.step, ConsumerState.start,
    ConsumerState.deliver, ConsumerState.Idle, ConsumerState.process, ConsumerState.ack,
    ConsumerState.sendAck, ConsumerState.IsUnacked, ConsumerState.setMessage,
    ConsumerState.setDelivery, ConsumerState.requeue, MessageHandler.processMessage, Arena.get?,
    Arena.alloc, Arena.modify, Arena.empty, Arena.next, hm]

def hello : DirectMessage := ⟨"1_2", .ofTime 1, 1, 2, "hello", 1700000000000⟩

def helloRoom : RoomMessage := ⟨"lobby", .ofTime 1, 1, "hello", 1700000000000⟩

theorem fromSlice_hello :
    (directMessageHandler DirectMessage.ofJson).fromSlice hello.toJson = .ok hello := by
  rw [fromSlice_directMessageHandler]
  exact DirectMessage.ofJson_toJson ⟨by decide, by decide, by decide⟩

theorem fromSlice_helloRoom :
    (roomMessageHandler RoomMessage.ofJson).fromSlice helloRoom.toJson = .ok helloRoom := by
  rw [fromSlice_roomMessageHandler]
  exact RoomMessage.ofJson_toJson ⟨by decide, by decide⟩

/-- The payload is acknowledged and not stored. -/
theorem acknowledged_unwritten :
    (∃ s, (consumerSystem (directMessageHandler DirectMessage.ofJson) .empty).exec (.start .empty)
        (writeFails hello.toJson) = some s ∧
      (directMessageHandler DirectMessage.ofJson).fromSlice hello.toJson = .ok hello ∧
      s.messages.get? 0 = some ⟨hello.toJson, .acked⟩ ∧
      s.tables.directMessages.lookup (hello.conversationId, hello.messageId) = none) ∧
    ∃ s, (consumerSystem (roomMessageHandler RoomMessage.ofJson) .empty).exec (.start .empty)
        (writeFails helloRoom.toJson) = some s ∧
      (roomMessageHandler RoomMessage.ofJson).fromSlice helloRoom.toJson = .ok helloRoom ∧
      s.messages.get? 0 = some ⟨helloRoom.toJson, .acked⟩ ∧
      s.tables.roomMessages.lookup (helloRoom.roomId, helloRoom.messageId) = none :=
  ⟨⟨_, exec_writeFails .empty fromSlice_hello, fromSlice_hello, rfl, rfl⟩,
    ⟨_, exec_writeFails .empty fromSlice_helloRoom, fromSlice_helloRoom, rfl, rfl⟩⟩

theorem consumer_keeps_ackFails :
    (∃ s, (consumerSystem (directMessageHandler DirectMessage.ofJson) .empty).exec (.start .empty)
        (ackFails hello.toJson) = some s ∧
      s.messages.get? 0 = some ⟨hello.toJson, .acked⟩ ∧
      s.tables.directMessages.entries = [⟨(hello.conversationId, hello.messageId), hello.row⟩] ∧
      Custody (directMessageHandler DirectMessage.ofJson) .empty s) ∧
    ∃ s, (consumerSystem (roomMessageHandler RoomMessage.ofJson) .empty).exec (.start .empty)
        (ackFails helloRoom.toJson) = some s ∧
      s.messages.get? 0 = some ⟨helloRoom.toJson, .acked⟩ ∧
      s.tables.roomMessages.entries =
        [⟨(helloRoom.roomId, helloRoom.messageId), helloRoom.row⟩] ∧
      Custody (roomMessageHandler RoomMessage.ofJson) .empty s := by
  have hdirect := exec_ackFails .empty fromSlice_hello
  have hroom := exec_ackFails .empty fromSlice_helloRoom
  exact ⟨⟨_, hdirect, rfl, rfl, consumer_keeps _ _ (Machine.reachable_of_exec hdirect)⟩,
    ⟨_, hroom, rfl, rfl, consumer_keeps _ _ (Machine.reachable_of_exec hroom)⟩⟩

end PerOxo.RabbitConsumer
