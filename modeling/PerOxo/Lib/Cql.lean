import PerOxo.Lib.HashMap

/-!
# What a CQL session admits

A statement names a table, with or without a keyspace, and gives a host type to each column
it binds and to each column it reads back. Whether the session runs it is decided here,
apart from what it then does to the rows:

* an unqualified table resolves against the keyspace of the session, and is rejected where
  the session has none;
* the table and every named column must exist;
* every host type must convert to the type of its column. Which conversions there are is a
  field of the session; `Session.exact` is the driver that allows only exact counterparts.
-/

set_option autoImplicit false

namespace Cql

inductive CqlType
  | text
  | uuid
  | timeuuid
  | timestamp
  deriving DecidableEq, Repr

/-- The host types values are bound as and decoded into. -/
inductive RustType
  | string
  | uuid
  | cqlTimeuuid
  | cqlTimestamp
  deriving DecidableEq, Repr

/-- The column type a host type is the exact counterpart of. -/
def RustType.counterpart : RustType → CqlType
  | .string => .text
  | .uuid => .uuid
  | .cqlTimeuuid => .timeuuid
  | .cqlTimestamp => .timestamp

structure TableRef where
  keyspace : Option String
  name : String
  deriving DecidableEq, Repr

structure Statement where
  table : TableRef
  /-- The columns that markers are written to or compared with. -/
  binds : List (String × RustType)
  /-- The selected columns and what they are decoded into. -/
  reads : List (String × RustType) := []

abbrev Columns := List (String × CqlType)

/-- The tables of a cluster, by keyspace and name. -/
abbrev Schema := HashMap (String × String) Columns

inductive DbError
  | noKeyspace
  | noTable (keyspace name : String)
  | noColumn (column : String)
  | typeMismatch (column : String) (rust : RustType) (cql : CqlType)
  /-- The cluster or the connection to it failed. -/
  | failed (message : String)
  deriving DecidableEq, Repr

structure Session where
  keyspace : Option String
  converts : RustType → CqlType → Bool

namespace Session

/-- A session whose driver converts between exact counterparts only. -/
def exact (keyspace : Option String) : Session where
  keyspace := keyspace
  converts r t := r.counterpart == t

def resolve (s : Session) (t : TableRef) : Except DbError (String × String) :=
  match t.keyspace, s.keyspace with
  | some ks, _ => .ok (ks, t.name)
  | none, some ks => .ok (ks, t.name)
  | none, none => .error .noKeyspace

/-- Check the host types against the columns, in order. -/
def checkColumns (s : Session) (cols : Columns) : List (String × RustType) → Except DbError Unit
  | [] => .ok ()
  | (c, r) :: rest =>
      match cols.lookup c with
      | none => .error (.noColumn c)
      | some t => if s.converts r t then s.checkColumns cols rest else .error (.typeMismatch c r t)

def accept (s : Session) (schema : Schema) (st : Statement) : Except DbError Unit :=
  match s.resolve st.table with
  | .error e => .error e
  | .ok key =>
      match schema.lookup key with
      | none => .error (.noTable key.1 key.2)
      | some cols => s.checkColumns cols (st.binds ++ st.reads)

/-- A batch is admitted when each of its statements is. -/
def acceptBatch (s : Session) (schema : Schema) : List Statement → Except DbError Unit
  | [] => .ok ()
  | st :: rest =>
      match s.accept schema st with
      | .error e => .error e
      | .ok () => s.acceptBatch schema rest

/-- A statement is prepared: it is looked at without the host types. -/
def prepare (s : Session) (schema : Schema) (st : Statement) : Except DbError Unit :=
  { s with converts := fun _ _ => true }.accept schema st

/-- A session looks at one table only. -/
theorem accept_congr {s : Session} {schema schema' : Schema} {st : Statement}
    (h : ∀ key, s.resolve st.table = .ok key → schema.lookup key = schema'.lookup key) :
    s.accept schema st = s.accept schema' st := by
  unfold accept
  cases hr : s.resolve st.table with
  | error e => rfl
  | ok key => simp only [h key hr]

theorem acceptBatch_congr {s s' : Session} {schema schema' : Schema} {sts : List Statement}
    (h : ∀ st ∈ sts, s.accept schema st = s'.accept schema' st) :
    s.acceptBatch schema sts = s'.acceptBatch schema' sts := by
  induction sts with
  | nil => rfl
  | cons st rest ih =>
    simp only [acceptBatch]
    rw [h st List.mem_cons_self, ih fun st' hst => h st' (List.mem_cons_of_mem st hst)]

theorem accept_unqualified {s : Session} {schema : Schema} {st : Statement}
    (hs : s.keyspace = none) (ht : st.table.keyspace = none) :
    s.accept schema st = .error .noKeyspace := by
  simp [accept, resolve, hs, ht]

end Session

end Cql
