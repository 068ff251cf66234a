/-
  The statements as they are sent do what `Records.Database` says of them.

  What the code sends is a text and a tuple: the columns stand in one module (`_persistence.py`), the
  values in another (`_record_processing.py`), and nothing but their positions says which belongs to
  which.  Two values in each other's place, or a column that is missing from a `SET` list, and neither
  Python nor PostgreSQL need complain.  `Records.Database` speaks of named values and of whole rows;
  everything proved over it would go on holding of a loader whose tuples are shifted.

  Here the two meet.  A table of columns may hold rows the loader never wrote, with columns it does not
  know, so equality is not what relates the two sides; `Stands` is, and it says of each row what its
  columns hold.

  * **`Stands`** — tables read by their columns stand for a database: under each key the row of the
    record, every column of the statement accounted for.
  * **Each statement** — its parameters stand at their columns' positions (`sends_entityParams`), so it
    goes through when the casts of `Records.Database` do; and its `SET` list leaves nothing of the old
    row (`refreshing_entityUpsert`), so the row it stores is the record's.
  * **`positional_run_refines`** — hence whole histories of messages, with what they leave alone: a
    simulation over the run (`run_rel`), where each side fails exactly when the other does.

  The four kinds of records differ in their columns only.  What is proved of a kind is proved once, from
  the facts about its lists that are decided by running them (`columnType_scalar`, `columns_entityUpsert`).
-/
import MusicBrainzLoader.Records.Import
import MusicBrainzLoader.Records.Reconciliation
import MusicBrainzLoader.Records.Sent

namespace Records

open Upsert (Row Source insertRow keyOf)

/-! ## What the tables stand for -/

/-- The scalar columns of an entity table, besides its key and its Discogs id. -/
def EntityKind.scalarColumns : EntityKind → List String
  | .artist => ["name", "sort_name", "type", "gender", "begin_date", "end_date", "ended", "area",
      "begin_area", "end_area", "disambiguation"]
  | .label => ["name", "type", "label_code", "begin_date", "end_date", "ended", "area",
      "disambiguation"]
  | .releaseGroup => ["name", "type", "first_release_date", "disambiguation"]
  | .release => ["name", "barcode", "status", "release_group_mbid"]

/-- A row of an entity table, and the record it stands for: every column of the statement is one of
    these.  The names of the record's columns are part of it, so that a record with a column too
    many or too few stands for nothing. -/
structure EntityRep (kind : EntityKind) (mbid : Uuid) (row : Row String Stored) (e : EntityRow) :
    Prop where
  mbid : row "mbid" = some (.uuid mbid)
  columns : ∀ p ∈ e.columns, row p.1 = some (.scalar p.2)
  documents : ∀ p ∈ e.documents, row p.1 = some (.document p.2)
  discogsId : row kind.discogsColumn = some (.bigint e.discogsId)
  gmItemId : row "gm_item_id" = some (.item e.gmItemId)
  updatedAt : row "updated_at" = some (.instant e.updatedAt)
  scalars : e.columns.map (·.1) = kind.scalarColumns
  jsonbs : e.documents.map (·.1) = kind.documentColumns

/-- What a relationship is stored under, as its columns hold it. -/
def RelationshipKey.raw (key : RelationshipKey) : List (Option Stored) :=
  [some (.uuid key.sourceMbid), some (.uuid key.targetMbid), some (.scalar key.sourceEntityType),
    some (.scalar key.targetEntityType), some (.scalar key.relationshipType),
    some (.scalar key.beginDate), some (.scalar key.endDate), some (.document key.attributes)]

/-- A row of `musicbrainz.relationships`: its key is what it is stored under, and the two columns
    besides are the record's. -/
structure RelationshipRep (key : RelationshipKey) (row : Row String Stored) (r : RelationshipRow) :
    Prop where
  key : keyOf (relationshipUpsert true).key row = key.raw
  ended : row "ended" = some (.scalar r.ended)
  updatedAt : row "updated_at" = some (.instant r.updatedAt)

/-- What an external link is stored under. -/
def ExternalLinkKey.raw (key : ExternalLinkKey) : List (Option Stored) :=
  [some (.uuid key.mbid), some (.scalar key.entityType), some (.scalar key.serviceName),
    some (.scalar key.url)]

/-- A row of `musicbrainz.external_links`: all of it but `updated_at` is its key. -/
structure ExternalLinkRep (key : ExternalLinkKey) (row : Row String Stored) (r : ExternalLinkRow) :
    Prop where
  key : keyOf (externalLinkUpsert true).key row = key.raw
  updatedAt : row "updated_at" = some (.instant r.updatedAt)

/-- What an entity is stored under. -/
def rawMbid (mbid : Uuid) : List (Option Stored) := [some (.uuid mbid)]

/-- Two MBIDs are two keys. -/
theorem rawMbid_injective : Function.Injective rawMbid := by
  intro mbid mbid' h
  simpa [rawMbid] using h

/-- The tables by their columns stand for those of records.  The media, the events and the aliases
    are the same tables on both sides; only the statements with a column list have two readings. -/
structure Stands (raw : RawDatabase) (db : Database) : Prop where
  entities : ∀ kind, Upsert.Represents rawMbid (EntityRep kind) (raw.entities kind) (db.entities kind)
  relationships : Upsert.Represents RelationshipKey.raw RelationshipRep raw.relationships
    db.relationships
  externalLinks : Upsert.Represents ExternalLinkKey.raw ExternalLinkRep raw.externalLinks
    db.externalLinks
  mediaFamilies : raw.others.mediaFamilies = db.mediaFamilies
  media : raw.others.media = db.media
  issuedOn : raw.others.issuedOn = db.issuedOn
  linkEvents : raw.others.linkEvents = db.linkEvents
  aliases : raw.others.aliases = db.aliases

/-! ## What is assigned

  A statement of any table: its parameters are cast one by one to the types of their columns, and the
  row that is inserted holds what came of it. Nothing here knows which table it is. -/

section Assigned

variable {casts : Casts} {schema : Schema} {columns : List String} {params : List Param}
  {assigned : List (String × Stored)}

/-- A traversal succeeds when each of its steps does. -/
theorem exists_mapM {α β : Type} {f : α → Option β} {xs : List α} :
    (∃ ys, xs.mapM f = some ys) ↔ ∀ x ∈ xs, ∃ y, f x = some y := by
  induction xs with
  | nil => exact ⟨nofun, fun _ => ⟨[], rfl⟩⟩
  | cons x xs ih =>
    rw [List.forall_mem_cons, ← ih]
    constructor
    · rintro ⟨ys, hys⟩
      rw [List.mapM_cons] at hys
      obtain ⟨y, hy, hys⟩ := Option.bind_eq_some_iff.mp hys
      obtain ⟨ys, hys, -⟩ := Option.bind_eq_some_iff.mp hys
      exact ⟨⟨y, hy⟩, ys, hys⟩
    · rintro ⟨⟨y, hy⟩, ys, hys⟩
      refine ⟨y :: ys, ?_⟩
      rw [List.mapM_cons, hy]
      show (xs.mapM f >>= fun ys => pure (y :: ys)) = _
      rw [hys]
      rfl

/-- The values are those of the columns' parameters. -/
theorem mem_assigned (h : casts.assignAll schema columns params = some assigned) {c : String}
    {stored : Stored} : (c, stored) ∈ assigned ↔
      ∃ param, (c, param) ∈ columns.zip params ∧ casts.assign schema c param = some stored := by
  unfold Casts.assignAll at h
  split at h
  next =>
    rw [mem_of_mapM h]
    constructor
    · rintro ⟨⟨c', param⟩, hmem, heq⟩
      obtain ⟨stored', hstored, heq⟩ := Option.map_eq_some_iff.mp heq
      cases heq
      exact ⟨param, hmem, hstored⟩
    · rintro ⟨param, hmem, hstored⟩
      refine ⟨(c, param), hmem, ?_⟩
      show (casts.assign schema c param).map _ = _
      rw [hstored]
      rfl
  next => cases h

/-- A traversal that keeps the names. -/
theorem names_of_mapM {α β : Type} {f : String × α → Option β} {xs : List (String × α)}
    {ys : List (String × β)} (h : (xs.mapM fun x => (f x).map fun y => (x.1, y)) = some ys) :
    ys.map (·.1) = xs.map (·.1) := by
  induction xs generalizing ys with
  | nil =>
    obtain rfl := Option.some.inj h
    rfl
  | cons x xs ih =>
    rw [List.mapM_cons] at h
    obtain ⟨y, hy, h⟩ := Option.bind_eq_some_iff.mp h
    obtain ⟨rest, hrest, h⟩ := Option.bind_eq_some_iff.mp h
    obtain ⟨value, -, rfl⟩ := Option.map_eq_some_iff.mp hy
    obtain rfl := Option.some.inj h
    rw [List.map_cons, List.map_cons, ih hrest]

/-- Each column of the list is assigned, once. -/
theorem names_assigned (h : casts.assignAll schema columns params = some assigned) :
    assigned.map (·.1) = columns := by
  unfold Casts.assignAll at h
  split at h
  next hlength =>
    rw [names_of_mapM h, List.map_fst_zip hlength.le]
  next => cases h

/-- The statement runs when every parameter is of its column's type. -/
theorem exists_assigned (hlength : columns.length = params.length) :
    (∃ assigned, casts.assignAll schema columns params = some assigned) ↔
      ∀ p ∈ columns.zip params, ∃ stored, casts.assign schema p.1 p.2 = some stored := by
  unfold Casts.assignAll
  rw [if_pos hlength, exists_mapM]
  refine forall_congr' fun p => forall_congr' fun _ => ?_
  constructor
  · rintro ⟨y, hy⟩
    obtain ⟨stored, hstored, -⟩ := Option.map_eq_some_iff.mp hy
    exact ⟨stored, hstored⟩
  · rintro ⟨stored, hstored⟩
    exact ⟨(p.1, stored), by show (casts.assign schema p.1 p.2).map _ = _; rw [hstored]; rfl⟩

/-- A column of the row that is inserted holds its own parameter: the parameter at the column's
    position in the list, cast to the column's type.  That each column stands in the list once is
    what makes "its" parameter one. -/
theorem inserted_of_param (now : Instant) {c : String} {param : Param} {stored : Stored}
    (h : casts.assignAll schema columns params = some assigned) (hnodup : columns.Nodup)
    (hmem : (c, param) ∈ columns.zip params) (hstored : casts.assign schema c param = some stored) :
    insertRow (defaults now) assigned c = some stored := by
  apply Upsert.insertRow_of_mem
  · rw [names_assigned h]
    exact hnodup
  · exact (mem_assigned h).mpr ⟨param, hmem, hstored⟩

/-- `updated_at` is no parameter: it is the column's default, the time of the transaction. -/
theorem inserted_updatedAt {now : Instant} (h : casts.assignAll schema columns params = some assigned)
    (hmem : "updated_at" ∉ columns) :
    insertRow (defaults now) assigned "updated_at" = some (.instant now) := by
  rw [Upsert.insertRow_of_notMem (by rw [names_assigned h]; exact hmem)]
  rfl

variable {c : String} {j : Json}

/-- Casting to each type of column. -/
theorem assign_uuid (hc : schema.columnType c = .uuid) :
    casts.assign schema c (.plain (.json j)) = (casts.uuid j).map .uuid := by
  unfold Casts.assign
  rw [hc]

theorem assign_scalar (hc : schema.columnType c = .scalar) :
    casts.assign schema c (.plain (.json j)) = (casts.scalar schema.name c j).map .scalar := by
  unfold Casts.assign
  rw [hc]

theorem assign_jsonb (hc : schema.columnType c = .jsonb) :
    casts.assign schema c (.jsonb (.json j)) = some (.document j) := by
  unfold Casts.assign
  rw [hc]

theorem assign_bigint (hc : schema.columnType c = .bigint) :
    casts.assign schema c (.plain (.json j)) = (casts.bigint j).map .bigint := by
  unfold Casts.assign
  rw [hc]

theorem assign_item (hc : schema.columnType c = .item) (i : Option Item) :
    casts.assign schema c (.plain (.item i)) = some (.item i) := by
  unfold Casts.assign
  rw [hc]

/-- A parameter goes into its column when its cast goes through. -/
theorem exists_assign_uuid (hc : schema.columnType c = .uuid) :
    (∃ stored, casts.assign schema c (.plain (.json j)) = some stored) ↔
      ∃ mbid, casts.uuid j = some mbid := by
  rw [assign_uuid hc]
  cases casts.uuid j <;> simp

theorem exists_assign_scalar (hc : schema.columnType c = .scalar) :
    (∃ stored, casts.assign schema c (.plain (.json j)) = some stored) ↔
      ∃ value, casts.scalar schema.name c j = some value := by
  rw [assign_scalar hc]
  cases casts.scalar schema.name c j <;> simp

end Assigned

/-! ## An entity's statement

  The columns of an entity are of five kinds: its key, its scalars, its Discogs id, its documents and
  its native item. `Sends` says that the parameters are the record's values under these names, in any
  order; that the tuple the code builds, cut into its slices, is such parameters is
  `sends_entityParams`. -/

/-- The columns' parameters, by the names `Records.Mapping` gives them. -/
def pairs (kind : EntityKind) (v : EntityValues) : List (String × Param) :=
  ("mbid", .plain (.json v.mbid)) :: v.columns.map (fun p => (p.1, .plain (.json p.2))) ++
    (kind.discogsColumn, .plain (.json v.discogsId)) ::
      v.documents.map (fun p => (p.1, .jsonb (.json p.2))) ++ [("gm_item_id", .plain (.item v.gmItemId))]

/-- A statement's parameters are these values. -/
structure Sends (kind : EntityKind) (params : List Param) (v : EntityValues) : Prop where
  length : params.length = (entityUpsert kind).statement.columns.length + 2
  columns : ∀ p, p ∈ (entityUpsert kind).statement.columns.zip
    (params.take (entityUpsert kind).statement.columns.length) ↔ p ∈ pairs kind v
  mbid : params[(entityUpsert kind).statement.columns.length]? = some (.plain (.json v.mbid))
  sourceRef : params[(entityUpsert kind).statement.columns.length + 1]? =
    some (.plain (.json (.str v.sourceRef)))
  scalars : v.columns.map (·.1) = kind.scalarColumns
  jsonbs : v.documents.map (·.1) = kind.documentColumns

/-- **The tuples and their slices**: each parameter stands at its column's position.  The tuple of
    each kind is cut by its own slice expression and zipped with its own column list, and the pairs
    are then the record's values under their names; for three kinds in the order `Records.Mapping`
    has them, for release groups in another, which is why `Sends` asks for the pairs and not for a
    list. -/
theorem sends_entityParams (ext : Externals) (kind : EntityKind) (record : Json)
    (gmItemId : Option Item) :
    ∃ params, entityParams kind (entityTuple ext kind record gmItemId) (sourceRef record) =
      some params ∧ Sends kind params (entityValues ext kind record gmItemId) := by
  cases kind with
  | artist => exact ⟨_, rfl, rfl, fun p => Iff.rfl, rfl, rfl, rfl, rfl⟩
  | label => exact ⟨_, rfl, rfl, fun p => Iff.rfl, rfl, rfl, rfl, rfl⟩
  | release => exact ⟨_, rfl, rfl, fun p => Iff.rfl, rfl, rfl, rfl, rfl⟩
  | releaseGroup =>
    refine ⟨_, rfl, rfl, fun p => ?_, rfl, rfl, rfl, rfl⟩
    -- The secondary types are sent before the columns that follow them.
    have hperm (a b c d e f g : String × Param) (rest : List (String × Param)) :
        (a :: b :: c :: d :: e :: f :: g :: rest).Perm (a :: b :: c :: e :: f :: g :: d :: rest) :=
      (((@List.perm_middle _ d [e, f, g] rest).symm.cons c).cons b).cons a
    exact (hperm _ _ _ _ _ _ _ _).mem_iff

/-- The types of an entity's columns, decided on the four kinds. -/
theorem columnType_mbid (kind : EntityKind) : kind.schema.columnType "mbid" = .uuid := rfl

/-- The kind's own Discogs column, which is named after the kind. -/
theorem columnType_discogs (kind : EntityKind) :
    kind.schema.columnType kind.discogsColumn = .bigint := by
  cases kind <;> rfl

/-- The native item's. -/
theorem columnType_item (kind : EntityKind) : kind.schema.columnType "gm_item_id" = .item := by
  cases kind <;> rfl

/-- The scalars', each of them. -/
theorem columnType_scalar (kind : EntityKind) :
    ∀ c ∈ kind.scalarColumns, kind.schema.columnType c = .scalar := by
  cases kind <;> decide

/-- The documents'. -/
theorem columnType_jsonb (kind : EntityKind) :
    ∀ c ∈ kind.documentColumns, kind.schema.columnType c = .jsonb := by
  cases kind <;> decide

/-- **The `SET` lists leave nothing out.** Decided for each kind by looking at the lists: every
    column but the key is set to what was sent, none twice, and `updated_at`, which is no parameter,
    is set to `NOW()`. -/
theorem refreshing_entityUpsert (kind : EntityKind) :
    (entityUpsert kind).statement.Refreshing ∧ (entityUpsert kind).statement.columns.Nodup ∧
      "updated_at" ∉ (entityUpsert kind).statement.columns ∧
      (entityUpsert kind).statement.sets.lookup "updated_at" = some .now := by
  cases kind <;> decide

/-- What an upsert returns and is keyed by. -/
theorem returning_entityUpsert (kind : EntityKind) :
    (entityUpsert kind).returning = kind.discogsColumn ∧
      (entityUpsert kind).entityKind = kind.identityKind ∧
      (entityUpsert kind).statement.key = ["mbid"] := by
  cases kind <;> exact ⟨rfl, rfl, rfl⟩

/-- Every column of the row is one of the statement's. -/
theorem columns_entityUpsert (kind : EntityKind) :
    "mbid" ∈ (entityUpsert kind).statement.columns ∧
      kind.discogsColumn ∈ (entityUpsert kind).statement.columns ∧
      "gm_item_id" ∈ (entityUpsert kind).statement.columns ∧
      (∀ c ∈ kind.scalarColumns, c ∈ (entityUpsert kind).statement.columns) ∧
      ∀ c ∈ kind.documentColumns, c ∈ (entityUpsert kind).statement.columns := by
  cases kind <;> decide

section Entity

variable {casts : Casts} {kind : EntityKind} {params : List Param} {v : EntityValues} {now : Instant}
  {assigned : List (String × Stored)}

/-- A value's column has the type the statement casts it to. -/
theorem Sends.scalar (h : Sends kind params v) (q : String × Json) (hq : q ∈ v.columns) :
    kind.schema.columnType q.1 = .scalar :=
  columnType_scalar kind q.1 (h.scalars ▸ List.mem_map_of_mem hq)

/-- A document's column is a `jsonb` one, so the parameter has to be wrapped, and it is. -/
theorem Sends.jsonb (h : Sends kind params v) (q : String × Json) (hq : q ∈ v.documents) :
    kind.schema.columnType q.1 = .jsonb :=
  columnType_jsonb kind q.1 (h.jsonbs ▸ List.mem_map_of_mem hq)

/-- The five kinds of columns. -/
theorem mem_pairs {p : String × Param} : p ∈ pairs kind v ↔
    p = ("mbid", .plain (.json v.mbid)) ∨ (∃ q ∈ v.columns, (q.1, .plain (.json q.2)) = p) ∨
      p = (kind.discogsColumn, .plain (.json v.discogsId)) ∨
      (∃ q ∈ v.documents, (q.1, .jsonb (.json q.2)) = p) ∨
      p = ("gm_item_id", .plain (.item v.gmItemId)) := by
  simp only [pairs, List.cons_append, List.mem_cons, List.mem_append, List.mem_map, List.not_mem_nil,
    or_false, or_assoc]

/-- The columns are assigned when the casts of `Records.Database` go through.  So the two sides fail
    together: a value that PostgreSQL would refuse is refused under its name and at its position. -/
theorem Sends.exists_assigned (h : Sends kind params v) :
    (∃ assigned, casts.assignAll kind.schema (entityUpsert kind).statement.columns
        (params.take (entityUpsert kind).statement.columns.length) = some assigned) ↔
      (∃ mbid, casts.uuid v.mbid = some mbid) ∧
        (∃ columns, casts.columns kind.table v.columns = some columns) ∧
        ∃ discogsId, casts.bigint v.discogsId = some discogsId := by
  have hlength : (entityUpsert kind).statement.columns.length =
      (params.take (entityUpsert kind).statement.columns.length).length := by
    rw [List.length_take, h.length]
    omega
  rw [Records.exists_assigned hlength]
  -- Both sides are about one assignment after the other; a document and a graph item are always
  -- assignable.
  simp only [h.columns, Casts.columns, exists_mapM]
  constructor
  · intro hall
    refine ⟨?_, fun q hq => ?_, ?_⟩
    -- The MBID, the scalar columns, and the Discogs id: the parameters each of them is sent as.
    · obtain ⟨stored, hstored⟩ := hall _ (mem_pairs.mpr (.inl rfl))
      rw [assign_uuid (columnType_mbid kind)] at hstored
      obtain ⟨mbid, hmbid, -⟩ := Option.map_eq_some_iff.mp hstored
      exact ⟨mbid, hmbid⟩
    · obtain ⟨stored, hstored⟩ := hall _ (mem_pairs.mpr (.inr (.inl ⟨q, hq, rfl⟩)))
      rw [assign_scalar (h.scalar q hq)] at hstored
      obtain ⟨value, hvalue, -⟩ := Option.map_eq_some_iff.mp hstored
      exact ⟨(q.1, value), congrArg (Option.map fun stored => (q.1, stored)) hvalue⟩
    · obtain ⟨stored, hstored⟩ := hall _ (mem_pairs.mpr (.inr (.inr (.inl rfl))))
      rw [assign_bigint (columnType_discogs kind)] at hstored
      obtain ⟨discogsId, hdiscogs, -⟩ := Option.map_eq_some_iff.mp hstored
      exact ⟨discogsId, hdiscogs⟩
  · rintro ⟨⟨mbid, hmbid⟩, hcolumns, discogsId, hdiscogs⟩ p hp
    -- The five groups of the parameter list, in its order.
    rcases mem_pairs.mp hp with rfl | ⟨q, hq, rfl⟩ | rfl | ⟨q, hq, rfl⟩ | rfl
    · exact ⟨.uuid mbid, by rw [assign_uuid (columnType_mbid kind), hmbid]; rfl⟩
    · obtain ⟨y, hy⟩ := hcolumns q hq
      obtain ⟨value, hvalue, -⟩ := Option.map_eq_some_iff.mp hy
      refine ⟨.scalar value, ?_⟩
      rw [assign_scalar (h.scalar q hq)]
      exact congrArg (Option.map Stored.scalar) hvalue
    · exact ⟨.bigint discogsId, by rw [assign_bigint (columnType_discogs kind), hdiscogs]; rfl⟩
    · exact ⟨.document q.2, assign_jsonb (h.jsonb q hq)⟩
    · exact ⟨.item v.gmItemId, assign_item (columnType_item kind) _⟩

/-- **The row that is sent** is the one the record stands for.  Column by column: each of the pairs
    is in the row, under its name, with the value its cast gave; what is left is `updated_at`, which
    is the default. -/
theorem Sends.rep (h : Sends kind params v)
    (hassigned : casts.assignAll kind.schema (entityUpsert kind).statement.columns
      (params.take (entityUpsert kind).statement.columns.length) = some assigned)
    {mbid : Uuid} {columns : List (String × Json)} {discogsId : Option Int}
    (hmbid : casts.uuid v.mbid = some mbid)
    (hcolumns : casts.columns kind.table v.columns = some columns)
    (hdiscogs : casts.bigint v.discogsId = some discogsId) :
    EntityRep kind mbid (insertRow (defaults now) assigned)
      ⟨columns, v.documents, discogsId, v.gmItemId, now⟩ := by
  obtain ⟨-, hnodup, hupdatedAt, -⟩ := refreshing_entityUpsert kind
  -- Each of the pairs is in the row.
  have hholds {c : String} {param : Param} {stored : Stored} (hmem : (c, param) ∈ pairs kind v)
      (hstored : casts.assign kind.schema c param = some stored) :
      insertRow (defaults now) assigned c = some stored :=
    inserted_of_param now hassigned hnodup ((h.columns _).mpr hmem) hstored
  refine ⟨?_, fun p hp => ?_, fun p hp => ?_, ?_, ?_, ?_, (names_of_mapM hcolumns).trans h.scalars,
    h.jsonbs⟩
  · exact hholds (mem_pairs.mpr (.inl rfl)) (by rw [assign_uuid (columnType_mbid kind), hmbid]; rfl)
  · obtain ⟨q, hq, heq⟩ := (mem_of_mapM hcolumns p).mp hp
    obtain ⟨value, hvalue, rfl⟩ := Option.map_eq_some_iff.mp heq
    refine hholds (mem_pairs.mpr (.inr (.inl ⟨q, hq, rfl⟩))) ?_
    rw [assign_scalar (h.scalar q hq)]
    exact congrArg (Option.map Stored.scalar) hvalue
  · exact hholds (mem_pairs.mpr (.inr (.inr (.inr (.inl ⟨p, hp, rfl⟩))))) (assign_jsonb (h.jsonb p hp))
  · exact hholds (mem_pairs.mpr (.inr (.inr (.inl rfl))))
      (by rw [assign_bigint (columnType_discogs kind), hdiscogs]; rfl)
  · exact hholds (mem_pairs.mpr (.inr (.inr (.inr (.inr rfl))))) (assign_item (columnType_item kind) _)
  · exact inserted_updatedAt hassigned hupdatedAt

/-- What is stored, over whatever was there.  On an empty place that is the row as it was inserted;
    on a conflict it is the row its `SET` list makes, and nothing of the old row is in the
    statement's columns. -/
theorem EntityRep.stored {mbid : Uuid} {new : Row String Stored} {e : EntityRow}
    {old : Option (Row String Stored)} {old' : Option EntityRow} (hnew : EntityRep kind mbid new e)
    (hupdatedAt : e.updatedAt = now) (hold : Option.Rel (EntityRep kind mbid) old old') :
    EntityRep kind mbid ((entityUpsert kind).statement.stored (.instant now) new old) e := by
  obtain ⟨hrefreshing, -, -, hnow⟩ := refreshing_entityUpsert kind
  obtain ⟨-, -, hkey⟩ := returning_entityUpsert kind
  obtain ⟨hmbid, hdiscogs, hitem, hscalars, hjsonbs⟩ := columns_entityUpsert kind
  -- Every column that is sent is in the SET list, so the row that was there does not show through.
  have hsame (c : String) (hc : c ∈ (entityUpsert kind).statement.columns) :
      (entityUpsert kind).statement.stored (.instant now) new old c = new c := by
    refine Upsert.stored_of_mem hrefreshing (fun row hrow => ?_) hc
    subst hrow
    cases hold with
    | some hrep =>
      rw [hkey]
      -- The row that is replaced is the one under the same key.
      show [row "mbid"] = [new "mbid"]
      rw [hrep.mbid, hnew.mbid]
  refine ⟨(hsame _ hmbid).trans hnew.mbid, fun p hp => ?_, fun p hp => ?_,
    (hsame _ hdiscogs).trans hnew.discogsId, (hsame _ hitem).trans hnew.gmItemId, ?_, hnew.scalars,
    hnew.jsonbs⟩
  · have hmem : p.1 ∈ kind.scalarColumns := hnew.scalars ▸ List.mem_map_of_mem hp
    exact (hsame _ (hscalars _ hmem)).trans (hnew.columns p hp)
  · have hmem : p.1 ∈ kind.documentColumns := hnew.jsonbs ▸ List.mem_map_of_mem hp
    exact (hsame _ (hjsonbs _ hmem)).trans (hnew.documents p hp)
  -- `updated_at` is not sent: it is the default of a new row and is set to `now()` in an old one.
  · rw [hupdatedAt]
    exact Upsert.stored_of_now hnow (hupdatedAt ▸ hnew.updatedAt)

/-- The event that is recorded is read off the two rows.  `RETURNING` and the select of the old row
    name a column each; that both are the kind's Discogs column, and that the row is the one of this
    MBID, is decided by the lists. -/
theorem event_eq_linkEvent {mbid : Uuid} {stored : Row String Stored} {e : EntityRow}
    {old : Option (Row String Stored)} {old' : Option EntityRow} {sourceRef : String}
    (hstored : EntityRep kind mbid stored e) (hold : Option.Rel (EntityRep kind mbid) old old') :
    (entityUpsert kind).event now old stored sourceRef =
      linkEvent kind mbid old' e.discogsId sourceRef now := by
  obtain ⟨hreturning, hkind, -⟩ := returning_entityUpsert kind
  -- A new row has no link event.
  cases hold with
  | none => rfl
  | some hrep =>
    rename_i row row'
    -- What `RETURNING` gives of the old and of the new row is their Discogs id.
    have hbefore : bigintOf (row (entityUpsert kind).returning) = row'.discogsId := by
      rw [hreturning, hrep.discogsId]
      rfl
    have hafter : bigintOf (stored (entityUpsert kind).returning) = e.discogsId := by
      rw [hreturning, hstored.discogsId]
      rfl
    have hmbid : uuidOf (stored "mbid") = mbid := by
      rw [hstored.mbid]
      rfl
    simp only [EntityUpsert.event, linkEvent, Option.bind_eq_bind, Option.bind_some, hbefore, hafter,
      hmbid, hkind]
    -- `IS DISTINCT FROM` holds the event back; otherwise its kind is the CASE, branch by branch.
    by_cases hsame : row'.discogsId = e.discogsId
    · rw [if_pos hsame, hsame]
      simp
    · rw [if_neg hsame]
      have hevent : (if row'.discogsId = none then LinkEventKind.linkAdded
          else if e.discogsId = none then .linkRemoved else .linkChanged) =
          linkEventKind row'.discogsId e.discogsId := by
        cases row'.discogsId with
        | none => rfl
        | some before => cases e.discogsId <;> rfl
      simp [guard, hsame, hevent]

/-- **An entity's upsert**, as it is sent and as `Records.Database` has it.  Either every parameter
    can be assigned, and then both sides store the same row and record the same event; or some cast
    fails, and then both sides fail. -/
theorem rel_upsertEntity {refresh : Bool} {raw : RawDatabase} {db : Database} (hstands : Stands raw db)
    (h : Sends kind params v) :
    Option.Rel Stands (execRaw casts refresh now raw (.upsertEntity kind params))
      (exec casts refresh now db (.upsertEntity kind v)) := by
  -- Either every parameter can be assigned, and then the row stands for the entity's; or the statement
  -- fails, and so does the named one.
  by_cases hcasts : ∃ assigned, casts.assignAll kind.schema (entityUpsert kind).statement.columns
      (params.take (entityUpsert kind).statement.columns.length) = some assigned
  · obtain ⟨⟨mbid, hmbid⟩, ⟨columns, hcolumns⟩, discogsId, hdiscogs⟩ := h.exists_assigned.mp hcasts
    obtain ⟨assigned, hassigned⟩ := hcasts
    have hnew : EntityRep kind mbid (insertRow (defaults now) assigned)
        ⟨columns, v.documents, discogsId, v.gmItemId, now⟩ := h.rep hassigned hmbid hcolumns hdiscogs
    -- The conflict target is the MBID column, whatever the statement sends beside it.
    have hkey : keyOf (entityUpsert kind).statement.key (insertRow (defaults now) assigned) =
        rawMbid mbid := by
      obtain ⟨-, -, hkey⟩ := returning_entityUpsert kind
      rw [hkey]
      show [insertRow (defaults now) assigned "mbid"] = _
      rw [hnew.mbid]
      rfl
    have hold := hstands.entities kind mbid
    have hstored := hnew.stored rfl hold
    have hraw : execRaw casts refresh now raw (.upsertEntity kind params) = some { raw with
        entities := Function.update raw.entities kind ((raw.entities kind).upsert (rawMbid mbid)
          ((entityUpsert kind).statement.stored (.instant now) (insertRow (defaults now) assigned)))
        others := { raw.others with
          linkEvents := insertLinkEvent raw.others.linkEvents (linkEvent kind mbid
            ((db.entities kind).lookup mbid) discogsId v.sourceRef now) } } := by
      -- The third part of the statement, over the row as it was and as it is stored.
      have hevent : (entityUpsert kind).event now ((raw.entities kind).lookup (rawMbid mbid))
          ((entityUpsert kind).statement.stored (.instant now) (insertRow (defaults now) assigned)
            ((raw.entities kind).lookup (rawMbid mbid))) v.sourceRef =
          linkEvent kind mbid ((db.entities kind).lookup mbid) discogsId v.sourceRef now :=
        event_eq_linkEvent hstored hold
      simp only [execRaw, EntityUpsert.execute, Upsert.Statement.exec, hassigned, h.mbid, h.sourceRef,
        h.length, hmbid, hkey, Option.bind_eq_bind, Option.bind_some, guard, if_true]
      rw [← hevent, hkey]
      rfl
    rw [hraw, exec_upsertEntity.mpr ⟨mbid, columns, discogsId, hmbid, hcolumns, hdiscogs, rfl⟩]
    -- One table and the link events are written.
    refine .some ⟨fun kind' => ?_, hstands.relationships, hstands.externalLinks,
      hstands.mediaFamilies, hstands.media, hstands.issuedOn, ?_, hstands.aliases⟩
    -- Only the kind's own table.
    · by_cases hkind : kind' = kind
      · subst hkind
        show Upsert.Represents rawMbid _ (Function.update raw.entities kind' _ kind')
          (Function.update db.entities kind' _ kind')
        rw [Function.update_self, Function.update_self]
        exact (hstands.entities kind').upsert rawMbid_injective fun old old' hold =>
          hnew.stored rfl hold
      · show Upsert.Represents rawMbid _ (Function.update raw.entities kind _ kind')
          (Function.update db.entities kind _ kind')
        rw [Function.update_of_ne hkind, Function.update_of_ne hkind]
        exact hstands.entities kind'
    · show insertLinkEvent raw.others.linkEvents _ = insertLinkEvent db.linkEvents _
      rw [hstands.linkEvents]
  -- One of the parameters cannot be assigned; the named statement makes the same casts.
  · have hnone : casts.assignAll kind.schema (entityUpsert kind).statement.columns
        (params.take (entityUpsert kind).statement.columns.length) = none :=
      Option.eq_none_iff_forall_ne_some.mpr fun assigned heq => hcasts ⟨assigned, heq⟩
    have hraw : execRaw casts refresh now raw (.upsertEntity kind params) = none := by
      simp only [execRaw, EntityUpsert.execute, hnone, Option.bind_eq_bind, Option.bind_none]
    have habs : exec casts refresh now db (.upsertEntity kind v) = none := by
      refine Option.eq_none_iff_forall_ne_some.mpr fun db' heq => hcasts (h.exists_assigned.mpr ?_)
      obtain ⟨mbid, columns, discogsId, hmbid, hcolumns, hdiscogs, -⟩ := exec_upsertEntity.mp heq
      exact ⟨⟨mbid, hmbid⟩, ⟨columns, hcolumns⟩, discogsId, hdiscogs⟩
    rw [hraw, habs]
    exact .none

end Entity

/-! ## The child rows' statements

  The two child tables have one statement each, with or without the refresh. Their keys are several
  columns, so that two keys are one row when all of them agree (`relationshipKey_raw_injective`). -/

section Children

variable {casts : Casts} {refresh : Bool} {now : Instant} {raw : RawDatabase} {db : Database}

/-- The relationships' `SET` list, with the refresh and without. -/
theorem refreshing_relationshipUpsert (refresh : Bool) :
    (relationshipUpsert refresh).Refreshing ∧ (relationshipUpsert refresh).columns.Nodup ∧
      "updated_at" ∉ (relationshipUpsert refresh).columns ∧
      (relationshipUpsert refresh).key ⊆ (relationshipUpsert refresh).columns ∧
      (relationshipUpsert refresh).sets.lookup "updated_at" = if refresh then some .now else none := by
  cases refresh <;> decide

/-- The external links'. -/
theorem refreshing_externalLinkUpsert (refresh : Bool) :
    (externalLinkUpsert refresh).Refreshing ∧ (externalLinkUpsert refresh).columns.Nodup ∧
      "updated_at" ∉ (externalLinkUpsert refresh).columns ∧
      (externalLinkUpsert refresh).key ⊆ (externalLinkUpsert refresh).columns ∧
      (externalLinkUpsert refresh).sets.lookup "updated_at" = if refresh then some .now else none := by
  cases refresh <;> decide

/-- Two natural keys are two keys of columns. -/
theorem relationshipKey_raw_injective : Function.Injective RelationshipKey.raw := by
  intro key key' h
  cases key
  cases key'
  simp only [RelationshipKey.raw, List.cons.injEq, Option.some.injEq, Stored.uuid.injEq,
    Stored.scalar.injEq, Stored.document.injEq] at h
  obtain ⟨h1, h2, h3, h4, h5, h6, h7, h8, -⟩ := h
  rw [h1, h2, h3, h4, h5, h6, h7, h8]

/-- And two links' keys are two keys of columns. -/
theorem externalLinkKey_raw_injective : Function.Injective ExternalLinkKey.raw := by
  intro key key' h
  cases key
  cases key'
  simp only [ExternalLinkKey.raw, List.cons.injEq, Option.some.injEq, Stored.uuid.injEq,
    Stored.scalar.injEq] at h
  obtain ⟨h1, h2, h3, h4, -⟩ := h
  rw [h1, h2, h3, h4]

/-- `updated_at`, refreshed or kept.  Without the refresh the column is in neither list, so a row
    that is there keeps its own, and a new one has the default. -/
theorem stored_updatedAt {s : Upsert.Statement String} {new : Row String Stored}
    {old : Option (Row String Stored)} {old' : Option Instant}
    (hsets : s.sets.lookup "updated_at" = if refresh then some .now else none)
    (hnew : new "updated_at" = some (.instant now))
    (hold : Option.Rel (fun row at' => row "updated_at" = some (.instant at')) old old') :
    s.stored (.instant now) new old "updated_at" = some (.instant (stamp refresh now old')) := by
  cases refresh with
  | true => exact Upsert.stored_of_now hsets hnew
  | false =>
    cases hold with
    | none => exact hnew
    | some hrow => exact (Upsert.stored_of_notMem hsets).trans hrow

/-- The parameters of a relationship, by their columns.  One tuple and one column list serve both
    statements, and the sixth value is the one that is wrapped. -/
theorem relationshipParams_zip (refresh : Bool) {v : RelationshipValues} {params : List Param}
    (h : relationshipParams v.tuple = some params) :
    (relationshipUpsert refresh).columns.length = params.length ∧
    (relationshipUpsert refresh).columns.zip params =
      [("source_mbid", .plain (.json v.sourceMbid)),
        ("source_entity_type", .plain (.json v.sourceEntityType)),
        ("target_mbid", .plain (.json v.targetMbid)),
        ("target_entity_type", .plain (.json v.targetEntityType)),
        ("relationship_type", .plain (.json v.relationshipType)),
        ("attributes", .jsonb (.json v.attributes)), ("begin_date", .plain (.json v.beginDate)),
        ("end_date", .plain (.json v.endDate)), ("ended", .plain (.json v.ended))] := by
  obtain rfl := Option.some.inj h
  exact ⟨rfl, rfl⟩

/-- A row is cast when its key and its `ended` are. -/
theorem relationship_eq_some {v : RelationshipValues} {key : RelationshipKey} {ended : Json} :
    casts.relationship v = some (key, ended) ↔ casts.relationshipKey v = some key ∧
      casts.scalar "musicbrainz.relationships" "ended" v.ended = some ended := by
  simp only [Casts.relationship, Option.bind_eq_bind, Option.bind_eq_some_iff, Option.pure_def,
    Option.some.injEq, Prod.mk.injEq]
  constructor
  · rintro ⟨_, hkey, _, hended, rfl, rfl⟩
    exact ⟨hkey, hended⟩
  · rintro ⟨hkey, hended⟩
    exact ⟨key, hkey, ended, hended, rfl, rfl⟩

/-- A relationship's columns are assigned when its values are cast, eight of them to the key and the
    ninth to `ended`. -/
theorem exists_assigned_relationship (refresh : Bool) {v : RelationshipValues} {params : List Param}
    (h : relationshipParams v.tuple = some params) :
    (∃ assigned, casts.assignAll relationshipsSchema (relationshipUpsert refresh).columns params =
        some assigned) ↔ ∃ row, casts.relationship v = some row := by
  obtain ⟨hlength, hzip⟩ := relationshipParams_zip refresh h
  rw [exists_assigned hlength, hzip]
  simp only [List.forall_mem_cons, List.not_mem_nil, false_implies, implies_true, and_true]
  rw [exists_assign_uuid rfl, exists_assign_scalar rfl, exists_assign_uuid rfl,
    exists_assign_scalar rfl, exists_assign_scalar rfl, exists_assign_scalar rfl,
    exists_assign_scalar rfl, exists_assign_scalar rfl]
  constructor
  · rintro ⟨⟨_, h1⟩, ⟨_, h2⟩, ⟨_, h3⟩, ⟨_, h4⟩, ⟨_, h5⟩, -, ⟨_, h6⟩, ⟨_, h7⟩, ended, hended⟩
    have hkey : casts.relationshipKey v = some ⟨_, _, _, _, _, v.attributes, _, _⟩ :=
      relationshipKey_eq_some.mpr ⟨h1, h2, h3, h4, h5, rfl, h6, h7⟩
    exact ⟨_, relationship_eq_some.mpr ⟨hkey, hended⟩⟩
  · rintro ⟨⟨key, ended⟩, hrow⟩
    obtain ⟨hkey, hended⟩ := relationship_eq_some.mp hrow
    obtain ⟨h1, h2, h3, h4, h5, -, h6, h7⟩ := relationshipKey_eq_some.mp hkey
    exact ⟨⟨_, h1⟩, ⟨_, h2⟩, ⟨_, h3⟩, ⟨_, h4⟩, ⟨_, h5⟩, ⟨_, assign_jsonb rfl⟩, ⟨_, h6⟩, ⟨_, h7⟩, _,
      hended⟩

/-- The row a relationship inserts. -/
theorem inserted_relationship {v : RelationshipValues} {params : List Param}
    {assigned : List (String × Stored)} {key : RelationshipKey} {ended : Json}
    (h : relationshipParams v.tuple = some params)
    (hassigned : casts.assignAll relationshipsSchema (relationshipUpsert refresh).columns params =
      some assigned) (hrow : casts.relationship v = some (key, ended)) :
    RelationshipRep key (insertRow (defaults now) assigned) ⟨ended, now⟩ := by
  -- The parameters under their columns, in which the members of the key are found by name.
  obtain ⟨-, hzip⟩ := relationshipParams_zip refresh h
  obtain ⟨-, hnodup, hupdatedAt, -, -⟩ := refreshing_relationshipUpsert refresh
  obtain ⟨hkey, hended⟩ := relationship_eq_some.mp hrow
  obtain ⟨h1, h2, h3, h4, h5, h6, h7, h8⟩ := relationshipKey_eq_some.mp hkey
  have huuid (c : String) {j : Json} {mbid : Uuid} (hc : relationshipsSchema.columnType c = .uuid)
      (hmbid : casts.uuid j = some mbid)
      (hmem : (c, Param.plain (.json j)) ∈ (relationshipUpsert refresh).columns.zip params) :=
    inserted_of_param now hassigned hnodup hmem
      ((assign_uuid hc).trans (congrArg (Option.map Stored.uuid) hmbid))
  have hscalar (c : String) {j value : Json} (hc : relationshipsSchema.columnType c = .scalar)
      (hvalue : casts.scalar "musicbrainz.relationships" c j = some value)
      (hmem : (c, Param.plain (.json j)) ∈ (relationshipUpsert refresh).columns.zip params) :=
    inserted_of_param now hassigned hnodup hmem
      ((assign_scalar hc).trans (congrArg (Option.map Stored.scalar) hvalue))
  have hattributes : insertRow (defaults now) assigned "attributes" =
      some (.document v.attributes) :=
    inserted_of_param now hassigned hnodup (by rw [hzip]; simp) (assign_jsonb rfl)
  refine ⟨?_, hscalar "ended" rfl hended (by rw [hzip]; simp),
    inserted_updatedAt hassigned hupdatedAt⟩
  -- The raw key, column by column.
  show [insertRow _ assigned "source_mbid", insertRow _ assigned "target_mbid",
    insertRow _ assigned "source_entity_type", insertRow _ assigned "target_entity_type",
    insertRow _ assigned "relationship_type", insertRow _ assigned "begin_date",
    insertRow _ assigned "end_date", insertRow _ assigned "attributes"] = _
  rw [huuid "source_mbid" rfl h1 (by rw [hzip]; simp), huuid "target_mbid" rfl h3 (by rw [hzip]; simp),
    hscalar "source_entity_type" rfl h2 (by rw [hzip]; simp),
    hscalar "target_entity_type" rfl h4 (by rw [hzip]; simp),
    hscalar "relationship_type" rfl h5 (by rw [hzip]; simp),
    hscalar "begin_date" rfl h7 (by rw [hzip]; simp), hscalar "end_date" rfl h8 (by rw [hzip]; simp),
    hattributes, h6]
  rfl

/-- **A relationship's upsert.** The conflict is on the function of eight columns and not on a
    column, so the row that is met is the one under the same key; the statement then has only
    `ended` and `updated_at` to set. -/
theorem rel_upsertRelationship (hstands : Stands raw db) {v : RelationshipValues}
    {params : List Param} (h : relationshipParams v.tuple = some params) :
    Option.Rel Stands (execRaw casts refresh now raw (.upsertRelationship params))
      (exec casts refresh now db (.upsertRelationship v)) := by
  obtain ⟨hrefreshing, -, -, hsub, hsets⟩ := refreshing_relationshipUpsert refresh
  -- Castable or not, on both sides.
  by_cases hcasts : ∃ row, casts.relationship v = some row
  · obtain ⟨assigned, hassigned⟩ := (exists_assigned_relationship refresh h).mpr hcasts
    obtain ⟨⟨key, ended⟩, hrow⟩ := hcasts
    have hnew : RelationshipRep key (insertRow (defaults now) assigned) ⟨ended, now⟩ :=
      inserted_relationship h hassigned hrow
    have hraw : execRaw casts refresh now raw (.upsertRelationship params) = some { raw with
        relationships := (relationshipUpsert refresh).exec (defaults now) (.instant now) assigned
          raw.relationships } := by
      simp only [execRaw, Casts.execute, hassigned, Option.bind_eq_bind, Option.bind_some,
        Option.pure_def]
    have habs : exec casts refresh now db (.upsertRelationship v) = some { db with
        relationships := upsertRelationshipRow refresh now db.relationships (key, ended) } := by
      simp only [exec, hrow, Option.bind_eq_bind, Option.bind_some, Option.pure_def]
    rw [hraw, habs]
    refine .some ⟨hstands.entities, ?_, hstands.externalLinks, hstands.mediaFamilies, hstands.media,
      hstands.issuedOn, hstands.linkEvents, hstands.aliases⟩
    -- The key's columns are those of the conflict target, so the row found is the key's.
    refine hstands.relationships.exec relationshipKey_raw_injective hrefreshing hsub hnew.key
      (fun row r hrep => hrep.key) fun old old' hold hkey hsame => ⟨hkey, ?_, ?_⟩
    · have hended : "ended" ∈ (relationshipUpsert true).columns := by decide
      exact (hsame "ended" hended).trans hnew.ended
    -- `updated_at` is stamped when the refresh is on, and otherwise is what it was.
    · refine stored_updatedAt hsets hnew.updatedAt ?_
      cases hold with
      | none => exact .none
      | some hrep => exact .some hrep.updatedAt
  · have hnone : casts.assignAll relationshipsSchema (relationshipUpsert refresh).columns params =
        none :=
      Option.eq_none_iff_forall_ne_some.mpr fun assigned heq =>
        hcasts ((exists_assigned_relationship refresh h).mp ⟨assigned, heq⟩)
    have hrow : casts.relationship v = none :=
      Option.eq_none_iff_forall_ne_some.mpr fun row heq => hcasts ⟨row, heq⟩
    have hraw : execRaw casts refresh now raw (.upsertRelationship params) = none := by
      simp only [execRaw, Casts.execute, hnone, Option.bind_eq_bind, Option.bind_none]
    have habs : exec casts refresh now db (.upsertRelationship v) = none := by
      simp only [exec, hrow, Option.bind_eq_bind, Option.bind_none]
    rw [hraw, habs]
    exact .none

/-- The parameters of an external link, by their columns. -/
theorem externalLinkParams_zip (refresh : Bool) (v : ExternalLinkValues) :
    (externalLinkUpsert refresh).columns.length = (v.tuple.map Param.plain).length ∧
    (externalLinkUpsert refresh).columns.zip (v.tuple.map Param.plain) =
      [("mbid", .plain (.json v.mbid)), ("entity_type", .plain (.json v.entityType)),
        ("url", .plain (.json v.url)), ("service_name", .plain (.json v.serviceName))] :=
  ⟨rfl, rfl⟩

/-- An external link's columns are assigned when its values are cast. -/
theorem exists_assigned_externalLink (refresh : Bool) (v : ExternalLinkValues) :
    (∃ assigned, casts.assignAll externalLinksSchema (externalLinkUpsert refresh).columns
        (v.tuple.map .plain) = some assigned) ↔ ∃ key, casts.externalLinkKey v = some key := by
  obtain ⟨hlength, hzip⟩ := externalLinkParams_zip refresh v
  rw [exists_assigned hlength, hzip]
  simp only [List.forall_mem_cons, List.not_mem_nil, false_implies, implies_true, and_true]
  rw [exists_assign_uuid rfl, exists_assign_scalar rfl, exists_assign_scalar rfl,
    exists_assign_scalar rfl]
  constructor
  · rintro ⟨⟨_, h1⟩, ⟨_, h2⟩, ⟨_, h3⟩, _, h4⟩
    have hkey : casts.externalLinkKey v = some ⟨_, _, _, _⟩ :=
      externalLinkKey_eq_some.mpr ⟨h1, h2, h4, h3⟩
    exact ⟨_, hkey⟩
  · rintro ⟨key, hkey⟩
    obtain ⟨h1, h2, h3, h4⟩ := externalLinkKey_eq_some.mp hkey
    exact ⟨⟨_, h1⟩, ⟨_, h2⟩, ⟨_, h4⟩, _, h3⟩

/-- The row an external link inserts. -/
theorem inserted_externalLink {v : ExternalLinkValues} {assigned : List (String × Stored)}
    {key : ExternalLinkKey}
    (hassigned : casts.assignAll externalLinksSchema (externalLinkUpsert refresh).columns
      (v.tuple.map .plain) = some assigned) (hkey : casts.externalLinkKey v = some key) :
    ExternalLinkRep key (insertRow (defaults now) assigned) ⟨now⟩ := by
  -- A link's parameters are its key and nothing else.
  obtain ⟨-, hzip⟩ := externalLinkParams_zip refresh v
  obtain ⟨-, hnodup, hupdatedAt, -, -⟩ := refreshing_externalLinkUpsert refresh
  obtain ⟨h1, h2, h3, h4⟩ := externalLinkKey_eq_some.mp hkey
  have hmbid : insertRow (defaults now) assigned "mbid" = some (.uuid key.mbid) :=
    inserted_of_param now hassigned hnodup (by rw [hzip]; simp)
      ((assign_uuid rfl).trans (congrArg (Option.map Stored.uuid) h1))
  have hscalar (c : String) {j value : Json} (hc : externalLinksSchema.columnType c = .scalar)
      (hvalue : casts.scalar "musicbrainz.external_links" c j = some value)
      (hmem : (c, Param.plain (.json j)) ∈ (externalLinkUpsert refresh).columns.zip
        (v.tuple.map .plain)) :=
    inserted_of_param now hassigned hnodup hmem
      ((assign_scalar hc).trans (congrArg (Option.map Stored.scalar) hvalue))
  refine ⟨?_, inserted_updatedAt hassigned hupdatedAt⟩
  show [insertRow _ assigned "mbid", insertRow _ assigned "entity_type",
    insertRow _ assigned "service_name", insertRow _ assigned "url"] = _
  rw [hmbid, hscalar "entity_type" rfl h2 (by rw [hzip]; simp),
    hscalar "service_name" rfl h3 (by rw [hzip]; simp), hscalar "url" rfl h4 (by rw [hzip]; simp)]
  rfl

/-- **An external link's upsert.** All four columns are the key, so on a conflict the statement sets
    one of them to what it is, and `updated_at` only with the refresh. -/
theorem rel_upsertExternalLink (hstands : Stands raw db) (v : ExternalLinkValues) :
    Option.Rel Stands (execRaw casts refresh now raw (.upsertExternalLink (v.tuple.map .plain)))
      (exec casts refresh now db (.upsertExternalLink v)) := by
  obtain ⟨hrefreshing, -, -, hsub, hsets⟩ := refreshing_externalLinkUpsert refresh
  by_cases hcasts : ∃ key, casts.externalLinkKey v = some key
  · obtain ⟨assigned, hassigned⟩ := (exists_assigned_externalLink refresh v).mpr hcasts
    obtain ⟨key, hkey⟩ := hcasts
    have hnew : ExternalLinkRep key (insertRow (defaults now) assigned) ⟨now⟩ :=
      inserted_externalLink hassigned hkey
    have hraw : execRaw casts refresh now raw (.upsertExternalLink (v.tuple.map .plain)) =
        some { raw with
          externalLinks := (externalLinkUpsert refresh).exec (defaults now) (.instant now) assigned
            raw.externalLinks } := by
      simp only [execRaw, Casts.execute, hassigned, Option.bind_eq_bind, Option.bind_some,
        Option.pure_def]
    have habs : exec casts refresh now db (.upsertExternalLink v) = some { db with
        externalLinks := upsertExternalLinkRow refresh now db.externalLinks key } := by
      simp only [exec, hkey, Option.bind_eq_bind, Option.bind_some, Option.pure_def]
    rw [hraw, habs]
    refine .some ⟨hstands.entities, hstands.relationships, ?_, hstands.mediaFamilies, hstands.media,
      hstands.issuedOn, hstands.linkEvents, hstands.aliases⟩
    -- With every column in the key there is nothing to set but `updated_at`.
    refine hstands.externalLinks.exec externalLinkKey_raw_injective hrefreshing hsub hnew.key
      (fun row r hrep => hrep.key) fun old old' hold hstored _ => ⟨hstored, ?_⟩
    refine stored_updatedAt hsets hnew.updatedAt ?_
    cases hold with
    | none => exact .none
    | some hrep => exact .some hrep.updatedAt
  · have hnone : casts.assignAll externalLinksSchema (externalLinkUpsert refresh).columns
        (v.tuple.map .plain) = none :=
      Option.eq_none_iff_forall_ne_some.mpr fun assigned heq =>
        hcasts ((exists_assigned_externalLink refresh v).mp ⟨assigned, heq⟩)
    have hkey : casts.externalLinkKey v = none :=
      Option.eq_none_iff_forall_ne_some.mpr fun key heq => hcasts ⟨key, heq⟩
    have hraw : execRaw casts refresh now raw (.upsertExternalLink (v.tuple.map .plain)) = none := by
      simp only [execRaw, Casts.execute, hnone, Option.bind_eq_bind, Option.bind_none]
    have habs : exec casts refresh now db (.upsertExternalLink v) = none := by
      simp only [exec, hkey, Option.bind_eq_bind, Option.bind_none]
    rw [hraw, habs]
    exact .none

end Children

/-! ## A record's transaction

  The statements one after the other. Those on the shared media are the same on both sides. -/

section Process

variable {ext : Externals} {casts : Casts} {kind : EntityKind} {refresh : Bool} {record : Json}
  {now : Instant} {raw : RawDatabase} {db : Database}

/-- A statement on the shared media, or on their lock. -/
def Statement.onMedia : Statement → Bool
  | .lockReleaseMedia _ _ => true
  | .upsertMediaFamily _ => true
  | .upsertMedium _ _ _ => true
  | .deleteReleaseMedia _ _ => true
  | .insertReleaseMedium _ _ _ _ => true
  | _ => false

/-- A statement on the media is one and the same on both sides. -/
theorem rel_media (hstands : Stands raw db) {s : Statement} (hmedia : s.onMedia = true) :
    Option.Rel Stands (execRaw casts refresh now raw (.media s)) (exec casts refresh now db s) := by
  cases s with
  -- The media statements are the same ones on both sides, over tables that are equal.
  | lockReleaseMedia releaseId source => exact .some hstands
  | upsertMediaFamily name =>
    refine .some ⟨hstands.entities, hstands.relationships, hstands.externalLinks, ?_, hstands.media,
      hstands.issuedOn, hstands.linkEvents, hstands.aliases⟩
    exact congrArg (Table.insertIfAbsent name ()) hstands.mediaFamilies
  | upsertMedium mediumId family label =>
    refine .some ⟨hstands.entities, hstands.relationships, hstands.externalLinks,
      hstands.mediaFamilies, ?_, hstands.issuedOn, hstands.linkEvents, hstands.aliases⟩
    exact congrArg (Table.insertIfAbsent mediumId _) hstands.media
  | deleteReleaseMedia releaseId source =>
    refine .some ⟨hstands.entities, hstands.relationships, hstands.externalLinks,
      hstands.mediaFamilies, hstands.media, ?_, hstands.linkEvents, hstands.aliases⟩
    exact congrArg (Table.deleteWhere _) hstands.issuedOn
  | insertReleaseMedium releaseId mediumId source qty =>
    simp only [execRaw, exec, hstands.issuedOn]
    cases db.issuedOn.insertNew ⟨releaseId, mediumId, source⟩ qty with
    | none => exact .none
    | some issuedOn =>
      exact .some ⟨hstands.entities, hstands.relationships, hstands.externalLinks,
        hstands.mediaFamilies, hstands.media, rfl, hstands.linkEvents, hstands.aliases⟩
  | _ => cases hmedia

/-- The lock a release takes first is the media's. -/
theorem onMedia_firstLock (kind : EntityKind) (record : Json) :
    ∀ s ∈ firstLock kind record, s.onMedia = true := by
  unfold firstLock
  split <;> simp [Statement.onMedia]

/-- So are the statements of `write_release_media`. -/
theorem onMedia_mediaStatements {statements : List Statement}
    (h : mediaStatements ext kind record = some statements) : ∀ s ∈ statements, s.onMedia = true := by
  unfold mediaStatements releaseMediaStatements at h
  split at h
  · split at h
    · obtain rfl := Option.some.inj h
      simp
    · obtain ⟨rows, -, h⟩ := Option.bind_eq_some_iff.mp h
      obtain rfl := Option.some.inj h
      intro s hs
      simp only [List.mem_append, List.mem_map, List.mem_cons, List.not_mem_nil, or_false] at hs
      rcases hs with ((⟨_, -, rfl⟩ | ⟨_, -, rfl⟩) | rfl | rfl) | ⟨_, -, rfl⟩ <;> rfl
  · obtain rfl := Option.some.inj h
    simp

/-- A statement as it is sent does what `Records.Database` says of it: from tables that stand for a
    database, both come to such tables again, or both fail. -/
def Encodes (casts : Casts) (refresh : Bool) (now : Instant) (r : RawStatement) (s : Statement) :
    Prop :=
  ∀ raw db, Stands raw db →
    Option.Rel Stands (execRaw casts refresh now raw r) (exec casts refresh now db s)

/-- **The pipeline**: as it is sent, statement by statement.  The two sides read the record's lists
    in the same order, so a list that cannot be read stops both; after that the statements
    correspond one to one. -/
theorem rel_rawStatements (ext : Externals) (kind : EntityKind) (refresh : Bool) (record : Json)
    (now : Instant) (gmItemId : Option Item) :
    Option.Rel (List.Forall₂ (Encodes ext.casts refresh now)) (rawStatements ext kind record gmItemId)
      (recordStatements ext kind record gmItemId) := by
  obtain ⟨params, hparams, hsends⟩ := sends_entityParams ext kind record gmItemId
  have hentity : Encodes ext.casts refresh now (.upsertEntity kind params)
      (.upsertEntity kind (entityValues ext kind record gmItemId)) :=
    fun raw db hstands => rel_upsertEntity hstands hsends
  -- The tuples of relationships always have the part that is wrapped.
  have hrows (rows : List RelationshipValues) :
      rows.mapM (fun row => relationshipParams row.tuple) =
        some (rows.map fun row => (relationshipParams row.tuple).getD []) :=
    List.mapM_pure
  simp only [rawStatements, recordStatements, childStatements, hparams, Option.bind_eq_bind,
    Option.bind_some, Option.pure_def, hrows]
  -- Where a list cannot be read neither side sends anything; otherwise the statements correspond in
  -- their order: entity, media, relationships, links.
  cases hmedia : mediaStatements ext kind record with
  | none => exact .none
  | some media =>
    cases relationshipRows (mbid record) kind.entityType (record.getD "relations" (.arr [])) with
    | none => exact .none
    | some relationships =>
      cases externalLinkRows (mbid record) kind.entityType (record.getD "external_links" (.arr [])) with
      | none => exact .none
      | some links =>
        refine .some (.cons hentity ?_)
        -- Each of them by its own lemma.
        have hmedia : List.Forall₂ (Encodes ext.casts refresh now) (media.map .media) media := by
          rw [List.forall₂_map_left_iff, List.forall₂_same]
          intro s hs raw db hstands
          exact rel_media hstands (onMedia_mediaStatements hmedia s hs)
        have hrelationships : List.Forall₂ (Encodes ext.casts refresh now)
            ((relationships.map fun row => (relationshipParams row.tuple).getD []).map
              .upsertRelationship) (relationships.map .upsertRelationship) := by
          rw [List.forall₂_map_left_iff, List.forall₂_map_left_iff, List.forall₂_map_right_iff,
            List.forall₂_same]
          intro v _ raw db hstands
          exact rel_upsertRelationship hstands rfl
        have hlinks : List.Forall₂ (Encodes ext.casts refresh now)
            (links.map fun row => .upsertExternalLink (row.tuple.map .plain))
            (links.map .upsertExternalLink) := by
          rw [List.forall₂_map_left_iff, List.forall₂_map_right_iff, List.forall₂_same]
          intro v _ raw db hstands
          exact rel_upsertExternalLink hstands v
        show List.Forall₂ _ _ (media ++ (relationships.map .upsertRelationship ++
          links.map .upsertExternalLink))
        rw [← List.append_assoc]
        exact List.rel_append (List.rel_append hmedia hrelationships) hlinks

/-- Related statements, one after the other. -/
theorem rel_runRaw (hstands : Stands raw db) {rs : List RawStatement} {ss : List Statement}
    (h : List.Forall₂ (Encodes casts refresh now) rs ss) :
    Option.Rel Stands (Runs.run (execRaw casts refresh now) raw rs)
      (execAll casts refresh now db ss) := by
  rw [execAll, ← Runs.run_eq_foldlM]
  exact Runs.run_rel (fun raw db r s hstands hencodes => hencodes raw db hstands) h hstands

/-- Other aliases are others for both. -/
theorem Stands.withAliases (h : Stands raw db) (aliases : Aliases) :
    Stands { raw with others := { raw.others with aliases } } { db with aliases } :=
  ⟨h.entities, h.relationships, h.externalLinks, h.mediaFamilies, h.media, h.issuedOn, h.linkEvents,
    rfl⟩

/-- **One record's transaction**, as it is sent and as `Records.Process` has it.  The native id is
    resolved before anything is sent and is the same for both, and so are the identifiers attached
    at the end. -/
theorem rel_rawProcess (hstands : Stands raw db) :
    Option.Rel Stands (rawProcess ext kind refresh record now raw)
      (process ext kind refresh record now db) := by
  -- The media lock comes first on both sides.
  have hlock : Option.Rel Stands
      (Runs.run (execRaw ext.casts refresh now) raw ((firstLock kind record).map .media))
      (execAll ext.casts refresh now db (firstLock kind record)) := by
    refine rel_runRaw hstands ?_
    rw [List.forall₂_map_left_iff, List.forall₂_same]
    intro s hs raw db hstands
    exact rel_media hstands (onMedia_firstLock kind record s hs)
  simp only [rawProcess, process, Option.bind_eq_bind]
  -- Stage by stage: where one side has failed the other has, and else the tables still stand for each
  -- other.
  generalize Runs.run _ raw _ = locked, execAll _ _ _ db _ = locked' at hlock ⊢
  cases hlock with
  | none => exact .none
  | some hstands =>
    rename_i raw₁ db₁
    have hpipeline := rel_rawStatements ext kind refresh record now
      -- The two resolve the native id over the same aliases, so the statements are about one item.
      (recordIdentity ext kind db₁.aliases record).2
    simp only [Option.bind_some, hstands.aliases]
    generalize rawStatements ext kind record _ = rs, recordStatements ext kind record _ = ss
      at hpipeline ⊢
    cases hpipeline with
    | none => exact .none
    | some hencodes =>
      have hrun := rel_runRaw (hstands.withAliases (recordIdentity ext kind db₁.aliases record).1)
        hencodes
      simp only [Option.bind_some]
      generalize Runs.run _ _ _ = ran, execAll _ _ _ _ _ = ran' at hrun ⊢
      cases hrun with
      | none => exact .none
      | some hstands =>
        simp only [Option.bind_some, hstands.aliases]
        -- The identifiers' aliases are attached in the same table.
        cases attachAliases ext kind _ record _ with
        | none => exact .none
        | some aliases => exact .some (hstands.withAliases aliases)

end Process

/-! ## Whole runs

  Besides the simulation: the loader deletes nothing on the way, and writes no column it does not name. -/

/-- No row is gone, and no column that is not the loader's has changed.  The tables may have both:
    columns another service writes, and rows nobody has sent. -/
structure OthersKept (raw raw' : RawDatabase) : Prop where
  entities : ∀ kind, Upsert.Untouched ("updated_at" :: (entityUpsert kind).statement.columns)
    (raw.entities kind) (raw'.entities kind)
  relationships : Upsert.Untouched ("updated_at" :: (relationshipUpsert true).columns)
    raw.relationships raw'.relationships
  externalLinks : Upsert.Untouched ("updated_at" :: (externalLinkUpsert true).columns)
    raw.externalLinks raw'.externalLinks

section Runs

variable {ext : Externals} {casts : Casts} {refresh : Bool} {now : Instant}
  {raw raw' raw'' : RawDatabase}

/-- Nothing has happened. -/
theorem OthersKept.refl (raw : RawDatabase) : OthersKept raw raw :=
  ⟨fun _ => .refl _ _, .refl _ _, .refl _ _⟩

/-- What two stretches leave alone both of them do. -/
theorem OthersKept.trans (h : OthersKept raw raw') (h' : OthersKept raw' raw'') :
    OthersKept raw raw'' :=
  ⟨fun kind => (h.entities kind).trans (h'.entities kind), h.relationships.trans h'.relationships,
    h.externalLinks.trans h'.externalLinks⟩

/-- A `SET` list names nothing but the statement's columns, so a column it does not name keeps what
    it held. -/
theorem sets_of_notMem {s : Upsert.Statement String} {columns : List String}
    (h : ∀ c ∈ s.sets.map (·.1), c ∈ columns) (c : String) (hc : c ∉ columns) :
    s.sets.lookup c = none := by
  rw [List.lookup_eq_none_iff]
  intro p hp
  refine bne_iff_ne.mpr fun heq => hc ?_
  subst heq
  exact h p.1 (List.mem_map_of_mem hp)

/-- What an entity's statement does to its table. -/
theorem execute_table {u : EntityUpsert} {schema : Schema} {params : List Param} {t t' : RawTable}
    {events events' : List LinkEvent}
    (h : u.execute casts schema now params t events = some (t', events')) :
    ∃ assigned, t' = u.statement.exec (defaults now) (.instant now) assigned t := by
  obtain ⟨assigned, -, h⟩ := Option.bind_eq_some_iff.mp h
  refine ⟨assigned, ?_⟩
  obtain ⟨param, -, h⟩ := Option.bind_eq_some_iff.mp h
  split at h
  · obtain ⟨ref, -, h⟩ := Option.bind_eq_some_iff.mp h
    split at h
    · obtain ⟨-, -, h⟩ := Option.bind_eq_some_iff.mp h
      obtain ⟨mbid, -, h⟩ := Option.bind_eq_some_iff.mp h
      exact (Prod.mk.inj (Option.some.inj h)).1.symm
    · cases h
  · cases h

/-- One statement leaves every other row, and every other column of its own. -/
theorem othersKept_execRaw {r : RawStatement} (h : execRaw casts refresh now raw r = some raw') :
    OthersKept raw raw' := by
  cases r with
  | upsertEntity kind params =>
    obtain ⟨⟨t, events⟩, ht, h⟩ := Option.bind_eq_some_iff.mp h
    obtain ⟨assigned, rfl⟩ := execute_table ht
    obtain rfl := Option.some.inj h
    -- An upsert writes one table, and in it the columns it sends and sets.
    refine ⟨fun kind' => ?_, .refl _ _, .refl _ _⟩
    by_cases hkind : kind' = kind
    · subst hkind
      show Upsert.Untouched _ _ (Function.update raw.entities kind' _ kind')
      rw [Function.update_self]
      refine Upsert.untouched_exec (sets_of_notMem ?_)
      -- No other column is in its lists, for each kind.
      cases kind' <;> decide
    · show Upsert.Untouched _ _ (Function.update raw.entities kind _ kind')
      rw [Function.update_of_ne hkind]
      exact .refl _ _
  | upsertRelationship params =>
    obtain ⟨t, ht, h⟩ := Option.bind_eq_some_iff.mp h
    obtain ⟨assigned, -, ht⟩ := Option.bind_eq_some_iff.mp ht
    obtain rfl := Option.some.inj ht
    obtain rfl := Option.some.inj h
    refine ⟨fun _ => .refl _ _, Upsert.untouched_exec (sets_of_notMem ?_), .refl _ _⟩
    cases refresh <;> decide
  | upsertExternalLink params =>
    obtain ⟨t, ht, h⟩ := Option.bind_eq_some_iff.mp h
    obtain ⟨assigned, -, ht⟩ := Option.bind_eq_some_iff.mp ht
    obtain rfl := Option.some.inj ht
    obtain rfl := Option.some.inj h
    refine ⟨fun _ => .refl _ _, .refl _ _, Upsert.untouched_exec (sets_of_notMem ?_)⟩
    cases refresh <;> decide
  | media s =>
    obtain ⟨others, -, h⟩ := Option.bind_eq_some_iff.mp h
    obtain rfl := Option.some.inj h
    exact ⟨fun _ => .refl _ _, .refl _ _, .refl _ _⟩

/-- And so does a list of them. -/
theorem othersKept_runRaw {rs : List RawStatement}
    (h : Runs.run (execRaw casts refresh now) raw rs = some raw') : OthersKept raw raw' :=
  Runs.run_invariant (fun _ _ _ hkept hstep => hkept.trans (othersKept_execRaw hstep)) (.refl raw) h

/-- And a transaction. -/
theorem othersKept_rawProcess {kind : EntityKind} {record : Json}
    (h : rawProcess ext kind refresh record now raw = some raw') : OthersKept raw raw' := by
  obtain ⟨raw₁, hlock, h⟩ := Option.bind_eq_some_iff.mp h
  obtain ⟨statements, -, h⟩ := Option.bind_eq_some_iff.mp h
  obtain ⟨raw₂, hrun, h⟩ := Option.bind_eq_some_iff.mp h
  obtain ⟨aliases, -, h⟩ := Option.bind_eq_some_iff.mp h
  obtain rfl := Option.some.inj h
  have hkept := (othersKept_runRaw hlock).trans
    ⟨(othersKept_runRaw hrun).entities, (othersKept_runRaw hrun).relationships,
      (othersKept_runRaw hrun).externalLinks⟩
  exact ⟨hkept.entities, hkept.relationships, hkept.externalLinks⟩

/-- A message's transaction, as it is sent. -/
def handleRaw (ext : Externals) (refresh : Bool) (raw : RawDatabase) (m : Message) :
    Option RawDatabase :=
  rawProcess ext m.kind refresh m.record m.start raw

/-- **The statements as they are sent are those the results speak of**: over any history of messages,
    from tables that stand for a database, the tuples, their slices and the column and `SET` lists go
    through exactly when the statements of `Records.Database` do, and leave tables that stand for the
    database these leave, whatever rows there were before; and no row is gone, and no column that is
    not the loader's has changed. -/
theorem positional_run_refines (ext : Externals) (refresh : Bool) (messages : List Message)
    (raw : RawDatabase) (db : Database) (hstands : Stands raw db) :
    Option.Rel Stands (Runs.run (handleRaw ext refresh) raw messages)
        (afterMessages ext refresh db messages) ∧
      ∀ raw', Runs.run (handleRaw ext refresh) raw messages = some raw' → OthersKept raw raw' := by
  constructor
  · have hsame : List.Forall₂ Eq messages messages := List.forall₂_same.mpr fun _ _ => rfl
    refine Runs.run_rel (fun raw db m m' hstands heq => ?_) hsame hstands
    subst heq
    exact rel_rawProcess hstands
  · intro raw' hrun
    exact Runs.run_invariant (fun _ _ _ hkept hstep => hkept.trans (othersKept_rawProcess hstep))
      (OthersKept.refl raw) hrun

/-- Empty tables stand for an empty database. -/
theorem stands_empty : Stands {} {} := by
  have hempty {κ ρ : Type} [DecidableEq κ] (rawKey : κ → List (Option Stored))
      (rep : κ → Row String Stored → ρ → Prop) : Upsert.Represents rawKey rep ∅ ∅ := by
    intro k
    rw [Finmap.lookup_empty, Finmap.lookup_empty]
    exact .none
  exact ⟨fun _ => hempty _ _, hempty _ _, hempty _ _, rfl, rfl, rfl, rfl, rfl⟩

theorem positional_run_of_four_messages :
    ∃ raw db, Runs.run (handleRaw sampleExternals true) {} sampleHistory = some raw ∧
      afterMessages sampleExternals true {} sampleHistory = some db ∧ Stands raw db := by
  have hrun : (afterMessages sampleExternals true {} sampleHistory).isSome = true := by
    decide +kernel
  have hrel := (positional_run_refines sampleExternals true sampleHistory {} {} stands_empty).1
  generalize Runs.run _ _ _ = ran, afterMessages _ _ _ _ = ran' at hrel hrun ⊢
  cases hrel with
  | some hstands => exact ⟨_, _, rfl, rfl, hstands⟩
  | none => cases hrun

end Runs

end Records
