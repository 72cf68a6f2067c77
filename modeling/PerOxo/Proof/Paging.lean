import PerOxo.Proof.History

/-!
# Walking through a conversation

A client reads a conversation page after page: the first time without a cursor, then with the
cursor of the response before, as long as that says there is more. `ClientWalk` is such a
walk, over the stores its requests find. It is a walk over the pages of a partition, and
`page_walk_complete` is what it receives.
-/

set_option autoImplicit false

namespace PerOxo

open ChatService PersistenceService

section Walk

variable {db : Db} {projectId conversationId : String}

/-- Page after page until one says there is no more. All calls succeed. -/
inductive ClientWalk (db : Db) (projectId conversationId : String) :
    Option Uuid → List Store → List ResponseDirectMessage → Prop
  | last {cursor next : Option Uuid} {store : Store} {fault : Option Fault}
      {newV4 : Proto.DirectMessage → Uuid} {messages : List ResponseDirectMessage}
      (reply : ReadKind.history.reply db fault newV4 store
        (getPaginatedMessagesRequest projectId cursor conversationId) =
          .ok (.chatHistoryResponse messages false next)) :
      ClientWalk db projectId conversationId cursor [store] messages
  | more {cursor next : Option Uuid} {store : Store} {stores : List Store}
      {fault : Option Fault} {newV4 : Proto.DirectMessage → Uuid}
      {messages out : List ResponseDirectMessage}
      (reply : ReadKind.history.reply db fault newV4 store
        (getPaginatedMessagesRequest projectId cursor conversationId) =
          .ok (.chatHistoryResponse messages true next))
      (rest : ClientWalk db projectId conversationId next stores out) :
      ClientWalk db projectId conversationId cursor (store :: stores) (messages ++ out)

/-- The rows of the conversation. -/
abbrev conversation (projectId conversationId : String) (store : Store) :
    Clustered Uuid DirectMessageRow :=
  store.directMessages (projectId, conversationId)

/-- The response says that there is more exactly if it brings something, and its cursor is then
the last id of what it brings. -/
theorem historyPage_more {rows : List (Uuid × DirectMessageRow)}
    {messages : List ResponseDirectMessage} {next : Option Uuid}
    (h : .chatHistoryResponse messages true next = historyPage conversationId rows) :
    messages = clientMessages conversationId rows ∧
      ∃ last, rows.getLast? = some last ∧ next = some last.1 := by
  simp only [historyPage, ChatMessage.chatHistoryResponse.injEq] at h
  obtain ⟨hms, hmore, hnext⟩ := h
  refine ⟨hms, ?_⟩
  cases hl : rows.getLast? with
  | none =>
    obtain rfl := List.getLast?_eq_none_iff.mp hl
    cases hmore
  | some last =>
    rw [hl] at hnext
    exact ⟨last, rfl, hnext⟩

theorem historyPage_of_getLast {rows : List (Uuid × DirectMessageRow)}
    {last : Uuid × DirectMessageRow} (h : rows.getLast? = some last) :
    historyPage conversationId rows =
      .chatHistoryResponse (clientMessages conversationId rows) true (some last.1) := by
  cases rows with
  | nil => simp at h
  | cons x xs => simp [historyPage, h]

theorem historyPage_last {rows : List (Uuid × DirectMessageRow)}
    {messages : List ResponseDirectMessage} {next : Option Uuid}
    (h : .chatHistoryResponse messages false next = historyPage conversationId rows) :
    messages = [] ∧ rows = [] := by
  simp only [historyPage, ChatMessage.chatHistoryResponse.injEq] at h
  obtain ⟨hms, hmore, -⟩ := h
  cases rows with
  | nil => exact ⟨hms, rfl⟩
  | cons x xs => cases hmore

/-- What the client does is a walk over the conversation. -/
theorem walk_of_clientWalk {cursor : Option Uuid} {stores : List Store}
    {out : List ResponseDirectMessage}
    (h : ClientWalk db projectId conversationId cursor stores out) :
    ∃ rows, Clustered.Walk pageLimit cursor (stores.map (conversation projectId conversationId))
      rows ∧ out = clientMessages conversationId rows := by
  induction h with
  | last reply =>
    obtain ⟨rfl, hrows⟩ := historyPage_last (history_reply_ok reply)
    exact ⟨[], .stop hrows, rfl⟩
  | more reply rest ih =>
    obtain ⟨rfl, last, hlast, rfl⟩ := historyPage_more (history_reply_ok reply)
    obtain ⟨rows, hwalk, rfl⟩ := ih
    exact ⟨_, .turn hlast hwalk, by simp [clientMessages]⟩

/-- Where all calls succeed, a walk over the conversation is one of the client. -/
theorem clientWalk_of_walk {cursor : Option Uuid} {stores : List Store}
    {rows : List (Uuid × DirectMessageRow)}
    (h : Clustered.Walk pageLimit cursor (stores.map (conversation projectId conversationId)) rows)
    (hok : ∀ store ∈ stores, ∀ cursor, ∃ fault newV4 m, ReadKind.history.reply db fault newV4 store
      (getPaginatedMessagesRequest projectId cursor conversationId) = .ok m) :
    ClientWalk db projectId conversationId cursor stores (clientMessages conversationId rows) := by
  generalize hts : stores.map (conversation projectId conversationId) = ts at h
  induction h generalizing stores with
  | stop empty =>
    obtain ⟨store, hstore, ht⟩ := List.map_eq_singleton_iff.mp hts
    subst hstore ht
    obtain ⟨fault, newV4, m, hm⟩ := hok store List.mem_cons_self _
    have hpage := history_reply_ok hm
    rw [empty] at hpage
    subst hpage
    exact .last hm
  | turn page rest ih =>
    obtain ⟨store, stores', rfl, rfl, rfl⟩ := List.map_eq_cons_iff.mp hts
    obtain ⟨fault, newV4, m, hm⟩ := hok store List.mem_cons_self _
    have hpage := history_reply_ok hm
    have hrest := ih (fun store hs => hok store (List.mem_cons_of_mem _ hs)) rfl
    rw [clientMessages, List.map_append]
    obtain rfl := hpage.trans (historyPage_of_getLast page)
    exact .more hm hrest

/-! ## What a walk receives -/

/-- What the client has received in a walk over the first `n` of the stores. -/
structure Received (projectId conversationId : String) (stores : Nat → Store) (n : Nat)
    (out : List ResponseDirectMessage) : Prop where
  descending : out.Pairwise fun a b => b.messageId < a.messageId
  /-- What was stored at the start, once. -/
  complete : ∀ m, StoredIn (stores 0) projectId conversationId m → out.count m = 1
  sound : ∀ m ∈ out, ∃ i < n, StoredIn (stores i) projectId conversationId m
  unchanged : (∀ i < n, stores i = stores 0) →
    out = clientMessages conversationId (conversation projectId conversationId (stores 0)).rows.reverse

theorem received_of_walk {stores : Nat → Store} {n : Nat}
    {rows : List (Uuid × DirectMessageRow)}
    (h : Clustered.Walk pageLimit none
      (((List.range n).map stores).map (conversation projectId conversationId)) rows)
    (hgrow : ∀ i x, x ∈ (conversation projectId conversationId (stores i)).rows →
      x ∈ (conversation projectId conversationId (stores (i + 1))).rows) :
    Received projectId conversationId stores n (clientMessages conversationId rows) := by
  have hpos : 0 < pageLimit := by decide
  -- What is there at the start stays there.
  have hlater : ∀ i x, x ∈ (conversation projectId conversationId (stores 0)).rows →
      x ∈ (conversation projectId conversationId (stores i)).rows := by
    intro i
    induction i with
    | zero => exact fun x hx => hx
    | succ i ih => exact fun x hx => hgrow i x (ih x hx)
  have hdesc : (clientMessages conversationId rows).Pairwise fun a b => b.messageId < a.messageId :=
    List.pairwise_map.mpr h.descending
  refine ⟨hdesc, ?_, ?_, ?_⟩
  · rintro m ⟨x, hx, rfl⟩
    have hmem : x ∈ rows := by
      apply h.complete hpos _ (Clustered.below_none _)
      intro t ht
      simp only [List.map_map, List.mem_map] at ht
      obtain ⟨i, -, rfl⟩ := ht
      exact hlater i x hx
    have hnodup : (clientMessages conversationId rows).Nodup :=
      hdesc.imp fun hlt heq => absurd (congrArg _ heq) hlt.ne'
    exact List.count_eq_one_of_mem hnodup (List.mem_map_of_mem hmem)
  · intro m hm
    obtain ⟨x, hx, rfl⟩ := List.mem_map.mp hm
    obtain ⟨t, ht, hxt⟩ := h.sound x hx
    simp only [List.map_map, List.mem_map, List.mem_range] at ht
    obtain ⟨i, hi, rfl⟩ := ht
    exact ⟨i, hi, x, hxt, rfl⟩
  · intro hconst
    have hrows : rows = (conversation projectId conversationId (stores 0)).downFrom none := by
      apply h.eq_of_const hpos
      intro t ht
      simp only [List.map_map, List.mem_map, List.mem_range] at ht
      obtain ⟨i, hi, rfl⟩ := ht
      simp [hconst i hi]
    rw [hrows, Clustered.downFrom_none]

/-- **The page walk.** Whatever is inserted into the conversation between the requests, a client
that walks through it while all calls succeed comes to an end, and has then received every
message stored at the start exactly once, none twice, and all in strictly descending order of
their ids; over an unchanged store it has received what is stored and nothing else. The cursor
arrives as it was sent, in both directions. -/
theorem page_walk_complete {stores : Nat → Store}
    (hgrow : ∀ i x, x ∈ (conversation projectId conversationId (stores i)).rows →
      x ∈ (conversation projectId conversationId (stores (i + 1))).rows)
    (hok : ∀ i cursor, ∃ fault newV4 m, ReadKind.history.reply db fault newV4 (stores i)
      (getPaginatedMessagesRequest projectId cursor conversationId) = .ok m) :
    (∃ n out, ClientWalk db projectId conversationId none ((List.range n).map stores) out) ∧
    (∀ n out, ClientWalk db projectId conversationId none ((List.range n).map stores) out →
      Received projectId conversationId stores n out) ∧
    (∀ cursor, parseCursor
      (getPaginatedMessagesRequest projectId cursor conversationId).cursorMessageId = .ok cursor) ∧
    ∀ newV4 rows, (paginatedMessagesResult newV4 (.ok (pageResponse (·.messageId)
        protoDirectMessage (rows.map (dbMessage conversationId))))).map
        State.chatHistoryResponse = .ok (.chatHistoryResponse (clientMessages conversationId rows)
          (!rows.isEmpty) (rows.getLast?.map (·.1))) := by
  refine ⟨?_, ?_, parseCursor_request projectId conversationId,
    fun newV4 rows => chatHistoryResponse_page conversationId rows⟩
  · obtain ⟨n, rows, hwalk⟩ := Clustered.Walk.exists_of_wellFounded pageLimit none
      fun i => conversation projectId conversationId (stores i)
    have hwalk' : Clustered.Walk pageLimit none
        (((List.range n).map stores).map (conversation projectId conversationId)) rows := by
      rw [List.map_map]
      exact hwalk
    refine ⟨n, _, clientWalk_of_walk hwalk' ?_⟩
    intro store hs cursor
    obtain ⟨i, -, rfl⟩ := List.mem_map.mp hs
    exact hok i cursor
  · intro n out hout
    obtain ⟨rows, hwalk, rfl⟩ := walk_of_clientWalk hout
    exact received_of_walk hwalk hgrow

end Walk

/-- Where every statement is admitted, all calls can succeed. -/
theorem lenient_history_ok {store : Store} {projectId conversationId : String}
    (hp : projectId ≠ "") (hc : conversationId ≠ "") (cursor : Option Uuid) :
    ∃ fault newV4 m, ReadKind.history.reply lenientDb fault newV4 store
      (getPaginatedMessagesRequest projectId cursor conversationId) = .ok m := by
  have hquery : ∀ b, lenientDb.query none (selectPaginatedMessages b) = .ok () := by decide
  refine ⟨none, fun _ => .ofTime 0, ?_⟩
  simp [history_reply, hquery, hp, hc]

def oneMessage : Store :=
  Store.empty.applyDirectMessage ⟨"acme", "c", .ofTime 1, "alice", "carol", "hi", 5⟩

/-- After the first request there is a second message. -/
def growing : Nat → Store
  | 0 => oneMessage
  | _ + 1 => oneMessage.applyDirectMessage ⟨"acme", "c", .ofTime 2, "carol", "alice", "hello", 6⟩

theorem page_walk_complete_growing :
    (∃ n out, ClientWalk lenientDb "acme" "c" none ((List.range n).map growing) out) ∧
    (∀ n out, ClientWalk lenientDb "acme" "c" none ((List.range n).map growing) out →
      Received "acme" "c" growing n out) ∧
    (∀ cursor, parseCursor (getPaginatedMessagesRequest "acme" cursor "c").cursorMessageId =
      .ok cursor) ∧
    ∀ newV4 rows, (paginatedMessagesResult newV4 (.ok (pageResponse (·.messageId)
        protoDirectMessage (rows.map (dbMessage "c"))))).map State.chatHistoryResponse =
      .ok (.chatHistoryResponse (clientMessages "c" rows) (!rows.isEmpty)
        (rows.getLast?.map (·.1))) := by
  apply page_walk_complete
  · intro i x hx
    cases i with
    | succ i => exact hx
    | zero =>
      have hrows : (conversation "acme" "c" (growing 0)).rows =
          [(.ofTime 1, ⟨"alice", "carol", "hi", 5⟩)] := rfl
      have hrows' : (conversation "acme" "c" (growing 1)).rows =
          [(.ofTime 1, ⟨"alice", "carol", "hi", 5⟩), (.ofTime 2, ⟨"carol", "alice", "hello", 6⟩)] :=
        rfl
      rw [hrows] at hx
      rw [hrows']
      exact List.mem_cons.mpr (.inl (List.mem_singleton.mp hx))
  · intro i cursor
    exact lenient_history_ok (by decide) (by decide) cursor

end PerOxo
