import PerOxo.Lib.UuidText
import PerOxo.Proof.HasMore

/-!
# The order of a conversation in the `mongo_db` build

MongoDB sorts a conversation by the texts of its ids, and the text of an id begins with the low 32
bits of its time. So the history is in the order of time exactly as long as these bits, from a
message to a later one, do not fall back (`mongo_chronological_iff`); they do so every 2^32 ticks of
100 ns, a little over seven minutes.
-/

set_option autoImplicit false

namespace PerOxo.MongoDb

/-- The ids of the messages of a conversation. -/
def messageIds (db : Database) (conversationId : String) : List Uuid :=
  (db.directMessages conversationId).rows.map fun doc => messageIdOf doc.1

theorem messageIdText_lt {t t' : MessageIdText} :
    t < t' ↔ (messageIdOf t).toString < (messageIdOf t').toString := by
  conv_lhs => rw [← messageIdText_messageIdOf t, ← messageIdText_messageIdOf t']
  rfl

section Order

variable {db : Database} {projectId conversationId : String}

/-- **In which order a walk receives messages**: what holds of any two of them is what holds of any
two ids in the order of their texts. -/
theorem pairwise_mongoWalk_iff (R : Uuid → Uuid → Prop) :
    (∀ cursor out, MongoWalk db projectId conversationId cursor out →
      out.Pairwise fun m m' => R m.messageId m'.messageId) ↔
    ∀ u ∈ messageIds db conversationId, ∀ v ∈ messageIds db conversationId,
      v.toString < u.toString → R u v := by
  constructor
  · intro h u hu v hv hlt
    obtain ⟨x, hx, rfl⟩ := List.mem_map.mp hu
    obtain ⟨y, hy, rfl⟩ := List.mem_map.mp hv
    obtain ⟨out, hwalk⟩ := exists_mongoWalk db projectId conversationId none
    have hpair := h none out hwalk
    rw [mongoWalk_eq hwalk, Option.map_none, Clustered.downFrom_none, List.pairwise_map,
      List.pairwise_reverse] at hpair
    have hsub := Clustered.sublist_of_lt hy hx (messageIdText_lt.mpr hlt)
    exact (List.pairwise_cons.mp (hpair.sublist hsub)).1 x List.mem_cons_self
  · intro h cursor out hwalk
    rw [mongoWalk_eq hwalk, List.pairwise_map]
    have hdesc := Clustered.downFrom_descending (db.directMessages conversationId)
      (cursor.map messageIdText)
    refine hdesc.imp_of_mem fun {x y} hx hy hlt => ?_
    have hx := (Clustered.mem_downFrom.mp hx).1
    have hy := (Clustered.mem_downFrom.mp hy).1
    exact h _ (List.mem_map_of_mem hx) _ (List.mem_map_of_mem hy) (messageIdText_lt.mp hlt)

/-! ## The order of time -/

/-- The history of the conversation is in the order of time, from the newest message to the
oldest. -/
structure Chronological (db : Database) (projectId conversationId : String) : Prop where
  newestFirst : ∀ cursor out, MongoWalk db projectId conversationId cursor out →
    out.Pairwise fun m m' => m'.messageId.timestamp ≤ m.messageId.timestamp
  /-- In the order of a `timeuuid` column. -/
  descending : ∀ cursor out, MongoWalk db projectId conversationId cursor out →
    out.Pairwise fun m m' => m'.messageId < m.messageId
  /-- And the same as over Scylla, where the ids of the conversation are the same. -/
  asScylla : ∀ (scylla : ChatService.Db) (store : ChatService.Store),
    (∀ u, u ∈ (conversation projectId conversationId store).rows.map (·.1) ↔
      u ∈ messageIds db conversationId) →
    ∀ cursor : Option Uuid, (∀ u ∈ cursor, u ∈ messageIds db conversationId) →
    ∀ out out', MongoWalk db projectId conversationId cursor out →
      ScyllaWalk scylla store projectId conversationId cursor out' →
      out.map (·.messageId) = out'.map (·.messageId)

/-- The texts of the ids are in the order of time. -/
structure KeepsTimeOrder (ids : List Uuid) : Prop where
  noneFallsBack : ∀ u ∈ ids, ∀ v ∈ ids, ¬ Uuid.FallsBack u.timestamp v.timestamp
  /-- What stands after the time, where it decides, is in the same order with and without signs. -/
  sameTime : ∀ u ∈ ids, ∀ v ∈ ids, u.timestamp = v.timestamp → u.nodeDigits < v.nodeDigits →
    u.signedNodeDigits < v.signedNodeDigits

section Ids

variable {ids : List Uuid}

theorem newestFirst_iff (hv : ∀ u ∈ ids, u.digit 12 = 1) :
    (∀ u ∈ ids, ∀ v ∈ ids, v.toString < u.toString → v.timestamp ≤ u.timestamp) ↔
      ∀ u ∈ ids, ∀ v ∈ ids, ¬ Uuid.FallsBack u.timestamp v.timestamp := by
  constructor
  · intro h u hu v hv' hfall
    have hlt := (Uuid.toString_lt_iff ((hv v hv').trans (hv u hu).symm)).mpr (.inl hfall.textBelow)
    exact (h u hu v hv' hlt).not_gt hfall.1
  · intro h u hu v hv' hlt
    by_contra hnewer
    rcases Uuid.fallsBack_or_textBelow (not_le.mp hnewer) with hfall | hbelow
    · exact h u hu v hv' hfall
    · exact hlt.asymm
        ((Uuid.toString_lt_iff ((hv u hu).trans (hv v hv').symm)).mpr (.inl hbelow))

theorem descending_iff (hv : ∀ u ∈ ids, u.digit 12 = 1) :
    (∀ u ∈ ids, ∀ v ∈ ids, v.toString < u.toString → v < u) ↔ KeepsTimeOrder ids := by
  have hver : ∀ u ∈ ids, ∀ v ∈ ids, u.digit 12 = v.digit 12 := fun u hu v hv' =>
    (hv u hu).trans (hv v hv').symm
  constructor
  · intro h
    refine ⟨(newestFirst_iff hv).mp fun u hu v hv' hlt => ?_, fun u hu v hv' htime hnode => ?_⟩
    · rcases (Uuid.lt_iff_timestamp (hver v hv' u hu)).mp (h u hu v hv' hlt) with h | h
      · exact h.le
      · exact h.1.le
    · have hlt := (Uuid.toString_lt_iff (hver u hu v hv')).mpr (.inr ⟨htime, hnode⟩)
      rcases (Uuid.lt_iff_timestamp (hver u hu v hv')).mp (h v hv' u hu hlt) with h | h
      · exact absurd htime h.ne
      · exact h.2
  · intro h u hu v hv' hlt
    have hle := (newestFirst_iff hv).mpr h.noneFallsBack u hu v hv' hlt
    rw [Uuid.lt_iff_timestamp (hver v hv' u hu)]
    rcases hle.lt_or_eq with hlt' | htime
    · exact .inl hlt'
    · rcases (Uuid.toString_lt_iff (hver v hv' u hu)).mp hlt with hbelow | ⟨-, hnode⟩
      · rw [htime] at hbelow
        exact absurd hbelow hbelow.asymm
      · exact .inr ⟨htime, h.sameTime v hv' u hu htime hnode⟩

/-- Where the texts are in the order of time, nothing else distinguishes the two orders. -/
theorem KeepsTimeOrder.lt_iff (h : KeepsTimeOrder ids) (hv : ∀ u ∈ ids, u.digit 12 = 1) {u v : Uuid}
    (hu : u ∈ ids) (hv' : v ∈ ids) : v.toString < u.toString ↔ v < u := by
  have hdesc := (descending_iff hv).mpr h
  refine ⟨hdesc u hu v hv', fun hlt => ?_⟩
  rcases lt_trichotomy v.toString u.toString with htext | htext | htext
  · exact htext
  · exact absurd (Uuid.toString_injective htext) hlt.ne
  · exact absurd (hdesc v hv' u hu htext) hlt.asymm

end Ids

/-- What a walk receives. -/
theorem mem_mongoWalk {cursor : Option Uuid} {out : List ResponseDirectMessage}
    (h : MongoWalk db projectId conversationId cursor out) (u : Uuid) :
    u ∈ out.map (·.messageId) ↔
      u ∈ messageIds db conversationId ∧ ∀ c ∈ cursor, u.toString < c.toString := by
  have hbelow : ∀ t : MessageIdText, Clustered.Below (cursor.map messageIdText) t ↔
      ∀ c ∈ cursor, (messageIdOf t).toString < c.toString := by
    intro t
    cases cursor with
    | none => simp
    | some c => simp [messageIdText_lt]
  rw [mongoWalk_eq h, List.map_map]
  constructor
  · intro hu
    obtain ⟨x, hx, rfl⟩ := List.mem_map.mp hu
    obtain ⟨hx, hc⟩ := Clustered.mem_downFrom.mp hx
    exact ⟨List.mem_map_of_mem hx, (hbelow x.1).mp hc⟩
  · rintro ⟨hu, hc⟩
    obtain ⟨x, hx, rfl⟩ := List.mem_map.mp hu
    exact List.mem_map.mpr ⟨x, Clustered.mem_downFrom.mpr ⟨hx, (hbelow x.1).mpr hc⟩, rfl⟩

theorem mongoWalk_ids {out : List ResponseDirectMessage}
    (h : MongoWalk db projectId conversationId none out) :
    out.map (·.messageId) = (messageIds db conversationId).reverse := by
  rw [mongoWalk_eq h, Option.map_none, Clustered.downFrom_none, List.map_map, List.map_reverse]
  rfl

theorem scyllaWalk_ids {scylla : ChatService.Db} {store : ChatService.Store} {cursor : Option Uuid}
    {out : List ResponseDirectMessage}
    (h : ScyllaWalk scylla store projectId conversationId cursor out) :
    out.map (·.messageId) =
      ((conversation projectId conversationId store).downFrom cursor).map (·.1) := by
  obtain ⟨n, hwalk⟩ := h
  rw [clientWalk_const hwalk, clientMessages, List.map_map]
  rfl

theorem KeepsTimeOrder.asScylla (h : KeepsTimeOrder (messageIds db conversationId))
    (hv : ∀ u ∈ messageIds db conversationId, u.digit 12 = 1) {scylla : ChatService.Db}
    {store : ChatService.Store}
    (hids : ∀ u, u ∈ (conversation projectId conversationId store).rows.map (·.1) ↔
      u ∈ messageIds db conversationId)
    {cursor : Option Uuid} (hcursor : ∀ u ∈ cursor, u ∈ messageIds db conversationId)
    {out out' : List ResponseDirectMessage}
    (hwalk : MongoWalk db projectId conversationId cursor out)
    (hscylla : ScyllaWalk scylla store projectId conversationId cursor out') :
    out.map (·.messageId) = out'.map (·.messageId) := by
  have hdesc : (out.map (·.messageId)).Pairwise (· > ·) :=
    List.pairwise_map.mpr
      ((pairwise_mongoWalk_iff fun u v => v < u).mpr ((descending_iff hv).mpr h) _ _ hwalk)
  have hdesc' : (out'.map (·.messageId)).Pairwise (· > ·) := by
    rw [scyllaWalk_ids hscylla]
    exact List.pairwise_map.mpr (Clustered.downFrom_descending _ _)
  refine hdesc.eq_of_mem_iff hdesc' fun u => ?_
  rw [mem_mongoWalk hwalk, scyllaWalk_ids hscylla, ← hids]
  simp only [List.mem_map, Clustered.mem_downFrom]
  constructor
  · rintro ⟨⟨x, hx, rfl⟩, hc⟩
    have hmem := (hids x.1).mp (List.mem_map_of_mem hx)
    exact ⟨x, ⟨hx, fun c hcc => (h.lt_iff hv (hcursor c hcc) hmem).mp (hc c hcc)⟩, rfl⟩
  · rintro ⟨x, ⟨hx, hc⟩, rfl⟩
    have hmem := (hids x.1).mp (List.mem_map_of_mem hx)
    exact ⟨⟨x, hx, rfl⟩, fun c hcc => (h.lt_iff hv (hcursor c hcc) hmem).mpr (hc c hcc)⟩

/-- **The order of the history.** From every cursor there is a walk. All walks receive the messages
newest first exactly if the texts of their ids never fall back, and in the order of Scylla exactly
if moreover the ids of one time are in the same order with and without signs. -/
theorem mongo_chronological_iff (hv : ∀ u ∈ messageIds db conversationId, u.digit 12 = 1) :
    (∀ cursor, ∃ out, MongoWalk db projectId conversationId cursor out) ∧
    ((∀ cursor out, MongoWalk db projectId conversationId cursor out →
        out.Pairwise fun m m' => m'.messageId.timestamp ≤ m.messageId.timestamp) ↔
      ∀ u ∈ messageIds db conversationId, ∀ v ∈ messageIds db conversationId,
        ¬ Uuid.FallsBack u.timestamp v.timestamp) ∧
    (Chronological db projectId conversationId ↔
      KeepsTimeOrder (messageIds db conversationId)) := by
  have hdesc : (∀ cursor out, MongoWalk db projectId conversationId cursor out →
      out.Pairwise fun m m' => m'.messageId < m.messageId) ↔ _ :=
    (pairwise_mongoWalk_iff fun u v => v < u).trans (descending_iff hv)
  have hnewest : (∀ cursor out, MongoWalk db projectId conversationId cursor out →
      out.Pairwise fun m m' => m'.messageId.timestamp ≤ m.messageId.timestamp) ↔ _ :=
    (pairwise_mongoWalk_iff fun u v => v.timestamp ≤ u.timestamp).trans (newestFirst_iff hv)
  refine ⟨exists_mongoWalk db projectId conversationId, hnewest, ?_⟩
  constructor
  · intro h
    exact hdesc.mp h.descending
  · intro h
    exact ⟨hnewest.mpr h.noneFallsBack, hdesc.mpr h, fun scylla store hids cursor hcursor out out' =>
      h.asScylla hv hids hcursor⟩

end Order

def atTime (t : Nat) : PersistDirectMessage :=
  ⟨"12_7", ⟨"acme", "7"⟩, ⟨"acme", "12"⟩, "hi", .ofTimestamp t, 5⟩

/-- Of two messages that are three seconds apart, the older one comes first. -/
theorem not_chronological_fallsBack :
    ∃ db, (mongoSystem documented noMessages).exec noMessages
        [(atTime 0x1f0a0c1ff000000, none), (atTime 0x1f0a0c201000000, none)] = some db ∧
      (∀ u ∈ messageIds db "12_7", u.digit 12 = 1) ∧
      (∃ out, MongoWalk db "acme" "12_7" none out ∧
        out.map (·.messageId.timestamp) = [0x1f0a0c1ff000000, 0x1f0a0c201000000]) ∧
      ¬ Chronological db "acme" "12_7" := by
  obtain ⟨db, hdb, hids⟩ := Option.map_eq_some_iff.mp
    (show ((mongoSystem documented noMessages).exec noMessages
        [(atTime 0x1f0a0c1ff000000, none), (atTime 0x1f0a0c201000000, none)]).map
          (fun db => messageIds db "12_7") =
        some [.ofTimestamp 0x1f0a0c201000000, .ofTimestamp 0x1f0a0c1ff000000] from rfl)
  obtain ⟨out, hwalk⟩ := exists_mongoWalk db "acme" "12_7" none
  have hout : out.map (·.messageId.timestamp) = [0x1f0a0c1ff000000, 0x1f0a0c201000000] := by
    rw [show (fun m : ResponseDirectMessage => m.messageId.timestamp) =
      Uuid.timestamp ∘ (·.messageId) from rfl, ← List.map_map, mongoWalk_ids hwalk, hids]
    decide
  refine ⟨db, hdb, ?_, ⟨out, hwalk, hout⟩, fun h => ?_⟩
  · rw [hids]
    decide
  · have hpair : (out.map (·.messageId.timestamp)).Pairwise (· ≥ ·) :=
      List.pairwise_map.mpr (h.newestFirst none out hwalk)
    rw [hout] at hpair
    revert hpair
    decide

/-- Two messages one second later: both are on the same side. -/
theorem mongo_chronological_iff_oneWindow :
    ∃ db, (mongoSystem documented noMessages).exec noMessages
        [(atTime 0x1f0a0c201000000, none), (atTime 0x1f0a0c201989680, none)] = some db ∧
      KeepsTimeOrder (messageIds db "12_7") ∧
      (∀ cursor, ∃ out, MongoWalk db "acme" "12_7" cursor out) ∧
      ((∀ cursor out, MongoWalk db "acme" "12_7" cursor out →
          out.Pairwise fun m m' => m'.messageId.timestamp ≤ m.messageId.timestamp) ↔
        ∀ u ∈ messageIds db "12_7", ∀ v ∈ messageIds db "12_7",
          ¬ Uuid.FallsBack u.timestamp v.timestamp) ∧
      (Chronological db "acme" "12_7" ↔ KeepsTimeOrder (messageIds db "12_7")) := by
  obtain ⟨db, hdb, hids⟩ := Option.map_eq_some_iff.mp
    (show ((mongoSystem documented noMessages).exec noMessages
        [(atTime 0x1f0a0c201000000, none), (atTime 0x1f0a0c201989680, none)]).map
          (fun db => messageIds db "12_7") =
        some [.ofTimestamp 0x1f0a0c201000000, .ofTimestamp 0x1f0a0c201989680] from rfl)
  refine ⟨db, hdb, ⟨?_, ?_⟩, mongo_chronological_iff ?_⟩
  · rw [hids]
    decide
  · rw [hids]
    decide
  · rw [hids]
    decide

end PerOxo.MongoDb
