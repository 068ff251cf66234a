/-
  `process_artist`, `process_label`, `process_release` and `process_release_group`: one record, one
  transaction.

  1. **Identity** — `nativeId` (`_native_id`) and `attachIdentifierAliases`, over the alias table.
  2. **`process`** — the whole transaction: the media lock of a release, the native id, the
     pipeline's statements, and a release's identifier aliases.  `none` rolls everything back.
  3. **`Plan`** — what a record comes to once its values are cast, independently of the database.
     `process_eq_some` is the one description of a transaction the theorems about histories use: it
     says what each table holds afterwards, table by table.

  A transaction is a list of statements, and the theorems about histories are about tables.  Between
  the two stands `process_eq_some`.  Its proof is bookkeeping of one kind: the statements come in
  blocks, each block writes one table (`execAll_relationships`, `execAll_externalLinks`,
  `execAll_media` and so on, each by induction on its values), and a block reads no table that an
  earlier one writes, so the blocks are put side by side by `execAll_append_eq_some`.

  The one exception is the native id, which the identity calls decide before anything is written;
  and the one statement that could fail in a plan is the plain insert into `graph.issued_on`.  It
  does not, since the block's media are distinct and its range has just been emptied
  (`execAll_issuedOn`).
-/
import MusicBrainzLoader.Lib.Iso8601
import MusicBrainzLoader.Records.Mapping

namespace Records

/-! ## Identity -/

/-- `_native_id`. -/
def nativeId (identity : Identity) (aliases : Aliases) (entityKind : String) (mbid discogsId : Json) :
    Aliases × Option Item :=
  if !mbid.truthy then (aliases, none)
  else
    let musicbrainzRef : AliasRef := ⟨"musicbrainz", entityKind, mbid⟩
    if discogsId.truthy then
      let discogsRef : AliasRef := ⟨"discogs", entityKind, .str discogsId.pyStr⟩
      match identity.resolve aliases discogsRef with
      | (aliases, some nativeId) =>
        let (aliases, attached) := identity.attach aliases [(musicbrainzRef, nativeId)]
        (aliases, some ((attached.lookup musicbrainzRef).getD nativeId))
      | (aliases, none) => identity.resolve aliases musicbrainzRef
    else identity.resolve aliases musicbrainzRef

/-- One item of an identifiers block (`_identifier_item`). -/
def identifierItem (identifierType value sourceField : String) : Json :=
  .obj [("description", .null),
    ("source", .obj [("field", .str sourceField), ("provider", .str "musicbrainz"), ("type", .null)]),
    ("type", .str identifierType), ("value", .str value)]

/-- A string that is not blank. -/
def nonBlank : Json → Option String
  | .str s => if Json.strip s = "" then none else some s
  | _ => none

/-- The catalogue number an entry of `catalog_numbers` names. -/
def catalogNumber (entry : Json) : Option String :=
  if entry.isObj then nonBlank (entry.get "catalog_number") else none

/-- `_legacy_identifiers_block`; `none` when the release has neither field. -/
def legacyIdentifiersBlock (record : Json) : Option Json :=
  let barcodes := (nonBlank (record.get "barcode")).toList.map (identifierItem "barcode" · "barcode")
  let entries := match record.get "catalog_numbers" with
    | .arr entries => entries
    | _ => []
  let numbers := (entries.filterMap catalogNumber).map
    (identifierItem "catalog_number" · "label-info[].catalog-number")
  let items := barcodes ++ numbers
  if items = [] then none
  else some (.obj [("aliases", .arr []), ("identifiers_version", .str "1"), ("items", .arr items),
    ("types", .arr (items.map (·.get "type")).dedup), ("unmapped", .obj [("types", .arr [])])])

/-- The refs `_attach_identifier_aliases` attaches: of the producer's block when the record has
    one, of a legacy block otherwise. -/
def identifierRefs (ext : Externals) (record : Json) : Option (List AliasRef) :=
  if record.has "identifiers" then ext.aliasRefsForRelease (record.get "identifiers")
  else match legacyIdentifiersBlock record with
    | none => some []
    | some block => ext.aliasRefsForRelease block

/-- `_attach_identifier_aliases`: the conflicts it counts are telemetry. -/
def attachIdentifierAliases (ext : Externals) (aliases : Aliases) (record : Json)
    (nativeId : Option Item) : Option Aliases :=
  match nativeId with
  | none => some aliases
  | some item => do
    let refs ← identifierRefs ext record
    if refs = [] then return aliases
    return (ext.identity.attach aliases (refs.dedup.map fun ref => (ref, item))).1

/-! ## The transaction -/

/-- A release takes its media lock before anything else. -/
def firstLock (kind : EntityKind) (record : Json) : List Statement :=
  match kind, record.get "discogs_release_id" with
  | .release, .null => []
  | .release, discogsReleaseId => [.lockReleaseMedia discogsReleaseId.pyStr MEDIA_SOURCE]
  | _, _ => []

/-- The aliases after the pipeline: only a release attaches more. -/
def attachAliases (ext : Externals) (kind : EntityKind) (aliases : Aliases) (record : Json)
    (nativeId : Option Item) : Option Aliases :=
  match kind with
  | .release => attachIdentifierAliases ext aliases record nativeId
  | _ => some aliases

/-- The native id of a record of this kind, and the aliases after resolving it. -/
def recordIdentity (ext : Externals) (kind : EntityKind) (aliases : Aliases) (record : Json) :
    Aliases × Option Item :=
  nativeId ext.identity aliases kind.identityKind (mbid record) (record.get kind.discogsColumn)

/-- **One record's transaction**, at `NOW() = now`. -/
def process (ext : Externals) (kind : EntityKind) (refresh : Bool) (record : Json) (now : Instant)
    (db : Database) : Option Database := do
  let db ← execAll ext.casts refresh now db (firstLock kind record)
  let (aliases, gmItemId) := recordIdentity ext kind db.aliases record
  let statements ← recordStatements ext kind record gmItemId
  let db ← execAll ext.casts refresh now { db with aliases } statements
  let aliases ← attachAliases ext kind db.aliases record gmItemId
  return { db with aliases }

/-- The statements a record's transaction sends, one after the other, as far as its code comes: a
    list that cannot be read ends it there. -/
def sentStatements (ext : Externals) (kind : EntityKind) (record : Json) (gmItemId : Option Item) :
    List Statement :=
  firstLock kind record ++ .upsertEntity kind (entityValues ext kind record gmItemId) ::
    match mediaStatements ext kind record with
    | none => []
    | some media => media ++
      match relationshipRows (mbid record) kind.entityType (record.getD "relations" (.arr [])) with
      | none => []
      | some relationships => relationships.map .upsertRelationship ++
        match externalLinkRows (mbid record) kind.entityType (record.getD "external_links" (.arr [])) with
        | none => []
        | some links => links.map .upsertExternalLink

/-- A transaction that can commit has sent its lock and its pipeline.  This checks `sentStatements`, which
    reads off each source list how far a record comes, against `recordStatements`, which has all of them
    or none. -/
theorem sentStatements_eq {ext : Externals} {kind : EntityKind} {record : Json} {gm : Option Item}
    {statements : List Statement} (h : recordStatements ext kind record gm = some statements) :
    sentStatements ext kind record gm = firstLock kind record ++ statements := by
  obtain ⟨media, hmedia, h⟩ := Option.bind_eq_some_iff.mp h
  obtain ⟨children, hchildren, h⟩ := Option.bind_eq_some_iff.mp h
  obtain ⟨relationships, hrelationships, hchildren⟩ := Option.bind_eq_some_iff.mp hchildren
  obtain ⟨links, hlinks, hchildren⟩ := Option.bind_eq_some_iff.mp hchildren
  obtain rfl := Option.some.inj hchildren
  obtain rfl := Option.some.inj h
  unfold sentStatements
  simp only [hmedia, hrelationships, hlinks, List.cons_append]

/-! ## What a record comes to -/

/-- A release's media: the release key, and its rows. -/
structure MediaPlan where
  releaseId : String
  rows : List MediaRow

/-- A record with its values cast: what its transaction will write, whatever the database holds. -/
structure Plan where
  mbid : Uuid
  columns : List (String × Json)
  documents : List (String × Json)
  discogsId : Option Int
  media : Option MediaPlan
  relationships : List (RelationshipKey × Json)
  externalLinks : List ExternalLinkKey

/-- The media rows a record writes. -/
def mediaPlan (ext : Externals) (kind : EntityKind) (record : Json) : Option (Option MediaPlan) :=
  match kind, record.get "discogs_release_id" with
  | .release, .null => some none
  | .release, discogsReleaseId => do
    let rows ← mediaEdgeRows ext (releaseMediaBlock ext record)
    return some ⟨discogsReleaseId.pyStr, rows⟩
  | _, _ => some none

/-- The values of a record, cast; none when a cast fails. -/
def plan (ext : Externals) (kind : EntityKind) (record : Json) : Option Plan := do
  let media ← mediaPlan ext kind record
  let relationshipValues ←
    relationshipRows (mbid record) kind.entityType (record.getD "relations" (.arr []))
  let linkValues ←
    externalLinkRows (mbid record) kind.entityType (record.getD "external_links" (.arr []))
  let values := entityValues ext kind record none
  let mbid ← ext.casts.uuid values.mbid
  let columns ← ext.casts.columns kind.table values.columns
  let discogsId ← ext.casts.bigint values.discogsId
  let relationships ← relationshipValues.mapM ext.casts.relationship
  let externalLinks ← linkValues.mapM ext.casts.externalLinkKey
  return { mbid, columns, documents := values.documents, discogsId, media, relationships, externalLinks }

/-! ## What a plan writes, table by table -/

/-- The row of the entity table. -/
def Plan.entityRow (pl : Plan) (gmItemId : Option Item) (now : Instant) : EntityRow where
  columns := pl.columns
  documents := pl.documents
  discogsId := pl.discogsId
  gmItemId := gmItemId
  updatedAt := now

/-- The relationship rows, upserted in order. -/
def Plan.applyRelationships (pl : Plan) (refresh : Bool) (now : Instant)
    (t : Table RelationshipKey RelationshipRow) : Table RelationshipKey RelationshipRow :=
  pl.relationships.foldl (upsertRelationshipRow refresh now) t

/-- The external-link rows, upserted in order. -/
def Plan.applyExternalLinks (pl : Plan) (refresh : Bool) (now : Instant)
    (t : Table ExternalLinkKey ExternalLinkRow) : Table ExternalLinkKey ExternalLinkRow :=
  pl.externalLinks.foldl (upsertExternalLinkRow refresh now) t

/-- The statements of a release's media. -/
def MediaPlan.statements (m : MediaPlan) : List Statement :=
  ((m.rows.map (·.family)).dedup.insertionSort (· ≤ ·)).map .upsertMediaFamily ++
    m.rows.map (fun row => .upsertMedium row.medium row.family row.label) ++
    [.lockReleaseMedia m.releaseId MEDIA_SOURCE, .deleteReleaseMedia m.releaseId MEDIA_SOURCE] ++
    m.rows.map (fun row => .insertReleaseMedium m.releaseId row.medium MEDIA_SOURCE row.qty)

/-- The media families, topped up in order. -/
def MediaPlan.applyFamilies (m : MediaPlan) (t : Table String Unit) : Table String Unit :=
  t.insertAllIfAbsent (((m.rows.map (·.family)).dedup.insertionSort (· ≤ ·)).map (·, ()))

/-- The plan's rows of `graph.medium`, under their keys. -/
def mediumRows (rows : List MediaRow) : List (String × MediumRow) :=
  rows.map fun row => (row.medium, ⟨row.family, row.label⟩)

/-- The media, topped up in order. -/
def MediaPlan.applyMedia (m : MediaPlan) (t : Table String MediumRow) : Table String MediumRow :=
  t.insertAllIfAbsent (mediumRows m.rows)

/-- The plan's rows of `graph.issued_on`, under their keys. -/
def mediaEdges (releaseId : String) (rows : List MediaRow) : List (IssuedOnKey × Nat) :=
  rows.map fun row => (⟨releaseId, row.medium, MEDIA_SOURCE⟩, row.qty)

/-- The rows of one release and source replaced by the plan's. -/
def MediaPlan.applyIssuedOn (m : MediaPlan) (t : Table IssuedOnKey Nat) : Table IssuedOnKey Nat :=
  (t.deleteWhere fun key _ => key.releaseId = m.releaseId ∧ key.source = MEDIA_SOURCE).insertAll
    (mediaEdges m.releaseId m.rows)

/-- The database after the plan's statements, with this native id on the entity row and these
    aliases. -/
def Plan.apply (pl : Plan) (kind : EntityKind) (refresh : Bool) (now : Instant) (sourceRef : String)
    (gmItemId : Option Item) (aliases : Aliases) (db : Database) : Database where
  entities := Function.update db.entities kind
    ((db.entities kind).insert pl.mbid (pl.entityRow gmItemId now))
  relationships := pl.applyRelationships refresh now db.relationships
  externalLinks := pl.applyExternalLinks refresh now db.externalLinks
  mediaFamilies := pl.media.elim db.mediaFamilies fun m => m.applyFamilies db.mediaFamilies
  media := pl.media.elim db.media fun m => m.applyMedia db.media
  issuedOn := pl.media.elim db.issuedOn fun m => m.applyIssuedOn db.issuedOn
  linkEvents := insertLinkEvent db.linkEvents
    (linkEvent kind pl.mbid ((db.entities kind).lookup pl.mbid) pl.discogsId sourceRef now)
  aliases := aliases

/-! ## Each block of statements writes one table -/

section Blocks

variable {casts : Casts} {refresh : Bool} {now : Instant} {db db' : Database}

/-- The entity upsert: its row, and the event when the old row held another id. -/
theorem exec_upsertEntity {kind : EntityKind} {v : EntityValues} :
    exec casts refresh now db (.upsertEntity kind v) = some db' ↔
      ∃ mbid columns discogsId, casts.uuid v.mbid = some mbid ∧
        casts.columns kind.table v.columns = some columns ∧
        casts.bigint v.discogsId = some discogsId ∧
        db' = { db with
          entities := Function.update db.entities kind ((db.entities kind).insert mbid
            ⟨columns, v.documents, discogsId, v.gmItemId, now⟩)
          linkEvents := insertLinkEvent db.linkEvents
            (linkEvent kind mbid ((db.entities kind).lookup mbid) discogsId v.sourceRef now) } := by
  simp only [exec, Casts.entityRow, Option.bind_eq_bind, Option.bind_assoc, Option.bind_some,
    Option.bind_eq_some_iff, Option.pure_def, Option.some.injEq]
  constructor
  · rintro ⟨mbid, hmbid, columns, hcolumns, discogsId, hdiscogs, rfl⟩
    exact ⟨mbid, columns, discogsId, hmbid, hcolumns, hdiscogs, rfl⟩
  · rintro ⟨mbid, columns, discogsId, hmbid, hcolumns, hdiscogs, rfl⟩
    exact ⟨mbid, hmbid, columns, hcolumns, discogsId, hdiscogs, rfl⟩

/-- The relationships, upserted one after the other. -/
theorem execAll_relationships {values : List RelationshipValues} :
    execAll casts refresh now db (values.map .upsertRelationship) = some db' ↔
      ∃ rows, values.mapM casts.relationship = some rows ∧
        db' = { db with
          relationships := rows.foldl (upsertRelationshipRow refresh now) db.relationships } := by
  -- Row by row, each cast before it is stored.
  induction values generalizing db with
  | nil => simp [execAll_nil, eq_comm]
  | cons v values ih =>
    rw [List.map_cons, execAll_cons_eq_some, List.mapM_cons]
    constructor
    · rintro ⟨d, hd, hrest⟩
      obtain ⟨row, hrow, hd⟩ := Option.bind_eq_some_iff.mp hd
      obtain rfl := Option.some.inj hd
      obtain ⟨rows, hrows, rfl⟩ := ih.mp hrest
      exact ⟨row :: rows, by simp [hrow, hrows], rfl⟩
    · rintro ⟨rows, hrows, rfl⟩
      obtain ⟨row, hrow, hrows⟩ := Option.bind_eq_some_iff.mp hrows
      obtain ⟨rest, hrest, hrows⟩ := Option.bind_eq_some_iff.mp hrows
      obtain rfl := Option.some.inj hrows
      refine ⟨{ db with relationships := upsertRelationshipRow refresh now db.relationships row },
        ?_, ih.mpr ⟨rest, hrest, rfl⟩⟩
      simp [exec, hrow]

/-- The external links. -/
theorem execAll_externalLinks {values : List ExternalLinkValues} :
    execAll casts refresh now db (values.map .upsertExternalLink) = some db' ↔
      ∃ keys, values.mapM casts.externalLinkKey = some keys ∧
        db' = { db with
          externalLinks := keys.foldl (upsertExternalLinkRow refresh now) db.externalLinks } := by
  induction values generalizing db with
  | nil => simp [execAll_nil, eq_comm]
  | cons v values ih =>
    rw [List.map_cons, execAll_cons_eq_some, List.mapM_cons]
    constructor
    · rintro ⟨d, hd, hrest⟩
      obtain ⟨key, hkey, hd⟩ := Option.bind_eq_some_iff.mp hd
      obtain rfl := Option.some.inj hd
      obtain ⟨keys, hkeys, rfl⟩ := ih.mp hrest
      exact ⟨key :: keys, by simp [hkey, hkeys], rfl⟩
    · rintro ⟨keys, hkeys, rfl⟩
      obtain ⟨key, hkey, hkeys⟩ := Option.bind_eq_some_iff.mp hkeys
      obtain ⟨rest, hrest, hkeys⟩ := Option.bind_eq_some_iff.mp hkeys
      obtain rfl := Option.some.inj hkeys
      refine ⟨{ db with externalLinks := upsertExternalLinkRow refresh now db.externalLinks key },
        ?_, ih.mpr ⟨rest, hrest, rfl⟩⟩
      simp [exec, hkey]

/-- The families of its media. -/
theorem execAll_mediaFamilies {names : List String} :
    execAll casts refresh now db (names.map .upsertMediaFamily) = some
      { db with mediaFamilies := db.mediaFamilies.insertAllIfAbsent (names.map (·, ())) } := by
  induction names generalizing db with
  | nil => rfl
  | cons name names ih => exact execAll_cons_eq_some.mpr ⟨_, rfl, ih⟩

/-- Its media. -/
theorem execAll_media {rows : List MediaRow} :
    execAll casts refresh now db (rows.map fun row => .upsertMedium row.medium row.family row.label) =
      some { db with media := db.media.insertAllIfAbsent (mediumRows rows) } := by
  induction rows generalizing db with
  | nil => rfl
  | cons row rows ih => exact execAll_cons_eq_some.mpr ⟨_, rfl, ih⟩

/-- Plain inserts of distinct media into an emptied range never conflict. -/
theorem execAll_issuedOn {releaseId : String} {rows : List MediaRow}
    (hnodup : (rows.map (·.medium)).Nodup)
    (hempty : ∀ row ∈ rows, (⟨releaseId, row.medium, MEDIA_SOURCE⟩ : IssuedOnKey) ∉ db.issuedOn) :
    execAll casts refresh now db
        (rows.map fun row => .insertReleaseMedium releaseId row.medium MEDIA_SOURCE row.qty) =
      some { db with issuedOn := db.issuedOn.insertAll (mediaEdges releaseId rows) } := by
  -- Insert by insert: the keys are new, for the delete has emptied the range and the media are
  -- distinct.
  induction rows generalizing db with
  | nil => rfl
  | cons row rows ih =>
    rw [List.map_cons, List.nodup_cons] at hnodup
    refine execAll_cons_eq_some.mpr
      ⟨{ db with issuedOn := db.issuedOn.insert ⟨releaseId, row.medium, MEDIA_SOURCE⟩ row.qty }, ?_, ?_⟩
    · have hnew : db.issuedOn.insertNew ⟨releaseId, row.medium, MEDIA_SOURCE⟩ row.qty =
          some (db.issuedOn.insert ⟨releaseId, row.medium, MEDIA_SOURCE⟩ row.qty) :=
        Table.insertNew_eq_some.mpr ⟨hempty row List.mem_cons_self, rfl⟩
      simp only [exec, hnew]
      rfl
    · refine ih hnodup.2 fun row' hrow' => ?_
      show (⟨releaseId, row'.medium, MEDIA_SOURCE⟩ : IssuedOnKey) ∉ db.issuedOn.insert _ row.qty
      have hne : row'.medium ≠ row.medium := by
        intro heq
        exact hnodup.1 (heq ▸ List.mem_map_of_mem (f := (·.medium)) hrow')
      rw [Finmap.mem_insert, not_or]
      exact ⟨fun heq => hne (by simpa using heq), hempty row' (List.mem_cons_of_mem _ hrow')⟩

/-- A release's media statements write the three media tables as its plan says. -/
theorem execAll_mediaPlan {m : MediaPlan} (hnodup : (m.rows.map (·.medium)).Nodup) :
    execAll casts refresh now db m.statements = some { db with
      mediaFamilies := m.applyFamilies db.mediaFamilies
      media := m.applyMedia db.media
      issuedOn := m.applyIssuedOn db.issuedOn } := by
  have hemptied : ∀ row ∈ m.rows, (⟨m.releaseId, row.medium, MEDIA_SOURCE⟩ : IssuedOnKey) ∉
      db.issuedOn.deleteWhere fun key _ =>
        key.releaseId = m.releaseId ∧ key.source = MEDIA_SOURCE := by
    intro row _ hmem
    obtain ⟨qty, -, hkept⟩ := Table.mem_deleteWhere.mp hmem
    simp at hkept
  refine execAll_append_eq_some.mpr ⟨_, execAll_append_eq_some.mpr ⟨_,
    execAll_append_eq_some.mpr ⟨_, execAll_mediaFamilies, execAll_media⟩, rfl⟩, ?_⟩
  exact execAll_issuedOn hnodup hemptied

end Blocks

/-- What a release sends for its media is its plan's. -/
theorem mediaStatements_eq (ext : Externals) (kind : EntityKind) (record : Json) :
    mediaStatements ext kind record =
      (mediaPlan ext kind record).map fun media => media.elim [] MediaPlan.statements := by
  cases kind with
  | release =>
    simp only [mediaStatements, mediaPlan, releaseMediaStatements]
    cases record.get "discogs_release_id" with
    | null => rfl
    | _ => cases mediaEdgeRows ext (releaseMediaBlock ext record) <;> rfl
  | _ => rfl

/-- A planned media block has distinct media. -/
theorem mediaPlan_nodup {ext : Externals} {kind : EntityKind} {record : Json} {m : MediaPlan}
    (h : mediaPlan ext kind record = some (some m)) : (m.rows.map (·.medium)).Nodup := by
  unfold mediaPlan at h
  split at h
  · cases h
  · obtain ⟨rows, hrows, hm⟩ := Option.bind_eq_some_iff.mp h
    obtain rfl := Option.some.inj (Option.some.inj hm)
    exact mediaEdgeRows_nodup hrows
  · cases h

/-- The statements of a record, spelled out. -/
theorem recordStatements_eq_some {ext : Externals} {kind : EntityKind} {record : Json}
    {gm : Option Item} {statements : List Statement} :
    recordStatements ext kind record gm = some statements ↔
      ∃ media relationships links, mediaPlan ext kind record = some media ∧
        relationshipRows (mbid record) kind.entityType (record.getD "relations" (.arr [])) =
          some relationships ∧
        externalLinkRows (mbid record) kind.entityType (record.getD "external_links" (.arr [])) =
          some links ∧
        statements = .upsertEntity kind (entityValues ext kind record gm) ::
          (media.elim [] MediaPlan.statements ++
            (relationships.map .upsertRelationship ++ links.map .upsertExternalLink)) := by
  simp only [recordStatements, childStatements, mediaStatements_eq, Option.bind_eq_bind,
    Option.bind_assoc, Option.bind_some, Option.bind_eq_some_iff, Option.map_eq_some_iff,
    Option.pure_def, Option.some.injEq, List.cons_append]
  constructor
  · rintro ⟨_, ⟨media, hmedia, rfl⟩, rels, hrels, links, hlinks, rfl⟩
    exact ⟨media, rels, links, hmedia, hrels, hlinks, rfl⟩
  · rintro ⟨media, rels, links, hmedia, hrels, hlinks, rfl⟩
    exact ⟨_, ⟨media, hmedia, rfl⟩, rels, hrels, links, hlinks, rfl⟩

/-- A plan, spelled out. -/
theorem plan_eq_some {ext : Externals} {kind : EntityKind} {record : Json} {pl : Plan} :
    plan ext kind record = some pl ↔
      ∃ relationshipValues linkValues,
        mediaPlan ext kind record = some pl.media ∧
        relationshipRows (mbid record) kind.entityType (record.getD "relations" (.arr [])) =
          some relationshipValues ∧
        externalLinkRows (mbid record) kind.entityType (record.getD "external_links" (.arr [])) =
          some linkValues ∧
        ext.casts.uuid (mbid record) = some pl.mbid ∧
        ext.casts.columns kind.table (entityValues ext kind record none).columns = some pl.columns ∧
        ext.casts.bigint (record.get kind.discogsColumn) = some pl.discogsId ∧
        relationshipValues.mapM ext.casts.relationship = some pl.relationships ∧
        linkValues.mapM ext.casts.externalLinkKey = some pl.externalLinks ∧
        pl.documents = (entityValues ext kind record none).documents := by
  simp only [plan, entityValues_mbid, entityValues_discogsId, Option.bind_eq_bind,
    Option.bind_eq_some_iff, Option.pure_def, Option.some.injEq]
  constructor
  -- A plan is the nine readings put together, in the order of the casts.
  · rintro ⟨media, hmedia, rels, hrels, links, hlinks, id, hid, cols, hcols, dis, hdis, keys, hkeys,
      lkeys, hlkeys, rfl⟩
    exact ⟨rels, links, hmedia, hrels, hlinks, hid, hcols, hdis, hkeys, hlkeys, rfl⟩
  · rintro ⟨rels, links, hmedia, hrels, hlinks, hid, hcols, hdis, hkeys, hlkeys, hdocs⟩
    refine ⟨_, hmedia, rels, hrels, links, hlinks, _, hid, _, hcols, _, hdis, _, hkeys, _, hlkeys, ?_⟩
    rw [← hdocs]

/-- Only the native id of the entity row depends on the identity calls. -/
theorem entityValues_columns (ext : Externals) (kind : EntityKind) (record : Json)
    (gm : Option Item) :
    (entityValues ext kind record gm).columns = (entityValues ext kind record none).columns ∧
      (entityValues ext kind record gm).documents =
        (entityValues ext kind record none).documents := by
  cases kind <;> exact ⟨rfl, rfl⟩

/-- What running a record's statements comes to: its plan, applied. -/
theorem execAll_recordStatements {ext : Externals} {kind : EntityKind} {refresh : Bool}
    {record : Json} {now : Instant} {gm : Option Item} {db d : Database} :
    (∃ statements, recordStatements ext kind record gm = some statements ∧
        execAll ext.casts refresh now db statements = some d) ↔
      ∃ pl, plan ext kind record = some pl ∧
        d = pl.apply kind refresh now (sourceRef record) gm db.aliases db := by
  obtain ⟨hcols, hdocs⟩ := entityValues_columns ext kind record gm
  -- The media cannot fail here: their keys are distinct and their range is empty.
  have hmediaRun (media : Option MediaPlan) (hmedia : mediaPlan ext kind record = some media)
      (e : Database) : execAll ext.casts refresh now e (media.elim [] MediaPlan.statements) =
        some { e with
          mediaFamilies := media.elim e.mediaFamilies fun m => m.applyFamilies e.mediaFamilies
          media := media.elim e.media fun m => m.applyMedia e.media
          issuedOn := media.elim e.issuedOn fun m => m.applyIssuedOn e.issuedOn } := by
    cases media with
    | none => rfl
    | some m => exact execAll_mediaPlan (mediaPlan_nodup hmedia)
  constructor
  -- The statements go through one after the other, and each is the part of the plan that it writes.
  · rintro ⟨statements, hstatements, hrun⟩
    obtain ⟨media, rels, links, hmedia, hrels, hlinks, rfl⟩ := recordStatements_eq_some.mp hstatements
    obtain ⟨d₁, hentity, hrun⟩ := execAll_cons_eq_some.mp hrun
    obtain ⟨d₂, hmediaStep, hrun⟩ := execAll_append_eq_some.mp hrun
    obtain ⟨d₃, hrelStep, hlinkStep⟩ := execAll_append_eq_some.mp hrun
    obtain ⟨id, cols, dis, hid, hcolumns, hdis, rfl⟩ := exec_upsertEntity.mp hentity
    rw [hmediaRun media hmedia] at hmediaStep
    obtain rfl := Option.some.inj hmediaStep
    obtain ⟨keys, hkeys, rfl⟩ := execAll_relationships.mp hrelStep
    obtain ⟨lkeys, hlkeys, rfl⟩ := execAll_externalLinks.mp hlinkStep
    rw [entityValues_mbid] at hid
    rw [entityValues_discogsId] at hdis
    rw [hcols] at hcolumns
    refine ⟨⟨id, cols, (entityValues ext kind record none).documents, dis, media, keys, lkeys⟩,
      plan_eq_some.mpr ⟨rels, links, hmedia, hrels, hlinks, hid, hcolumns, hdis, hkeys, hlkeys, rfl⟩,
      ?_⟩
    simp only [Plan.apply, Plan.entityRow, Plan.applyRelationships, Plan.applyExternalLinks, hdocs,
      entityValues_gmItemId, entityValues_sourceRef]
  -- And a plan's parts go through, in the same order.
  · rintro ⟨pl, hpl, rfl⟩
    obtain ⟨rels, links, hmedia, hrels, hlinks, hid, hcolumns, hdis, hkeys, hlkeys, hpdocs⟩ :=
      plan_eq_some.mp hpl
    refine ⟨_, recordStatements_eq_some.mpr ⟨pl.media, rels, links, hmedia, hrels, hlinks, rfl⟩,
      execAll_cons_eq_some.mpr ⟨_, exec_upsertEntity.mpr ⟨pl.mbid, pl.columns, pl.discogsId,
        by rw [entityValues_mbid]; exact hid, by rw [hcols]; exact hcolumns,
        by rw [entityValues_discogsId]; exact hdis, rfl⟩,
      execAll_append_eq_some.mpr ⟨_, hmediaRun pl.media hmedia _, execAll_append_eq_some.mpr
        ⟨_, execAll_relationships.mpr ⟨pl.relationships, hkeys, rfl⟩, ?_⟩⟩⟩⟩
    refine execAll_externalLinks.mpr ⟨pl.externalLinks, hlkeys, ?_⟩
    simp only [Plan.apply, Plan.entityRow, Plan.applyRelationships, Plan.applyExternalLinks, hdocs,
      hpdocs, entityValues_gmItemId, entityValues_sourceRef]

/-- The media lock changes nothing. -/
theorem execAll_firstLock (casts : Casts) (refresh : Bool) (now : Instant) (db : Database)
    (kind : EntityKind) (record : Json) :
    execAll casts refresh now db (firstLock kind record) = some db := by
  unfold firstLock
  split <;> rfl

/-- **The one description of a transaction**: it commits when the record has a plan and its
    identifiers are readable, and then each table holds what the plan writes to it. -/
theorem process_eq_some {ext : Externals} {kind : EntityKind} {refresh : Bool} {record : Json}
    {now : Instant} {db db' : Database} :
    process ext kind refresh record now db = some db' ↔
      ∃ pl aliases, plan ext kind record = some pl ∧
        attachAliases ext kind (recordIdentity ext kind db.aliases record).1 record
          (recordIdentity ext kind db.aliases record).2 = some aliases ∧
        db' = pl.apply kind refresh now (sourceRef record)
          (recordIdentity ext kind db.aliases record).2 aliases db := by
  simp only [process, execAll_firstLock, Option.bind_eq_bind, Option.bind_some,
    Option.bind_eq_some_iff, Option.pure_def, Option.some.injEq]
  constructor
  · rintro ⟨statements, hstatements, d, hrun, aliases, haliases, rfl⟩
    obtain ⟨pl, hpl, rfl⟩ := execAll_recordStatements.mp ⟨statements, hstatements, hrun⟩
    exact ⟨pl, aliases, hpl, haliases, rfl⟩
  · rintro ⟨pl, aliases, hpl, haliases, rfl⟩
    obtain ⟨statements, hstatements, hrun⟩ := execAll_recordStatements.mpr ⟨pl, hpl, rfl⟩
    exact ⟨statements, hstatements, _, hrun, aliases, haliases, rfl⟩

/-! ## A concrete instance

  The parameters on the inputs of a well-formed record: canonical UUID text, integer or decimal
  Discogs ids, an identity service that mints for MusicBrainz references only. -/

/-- A decimal numeral. -/
def decimal? (cs : List Char) : Option Int :=
  if cs = [] then none
  else cs.foldlM (fun n c => (Iso8601.digit? c).map fun d => 10 * n + (d : Int)) 0

def sampleCasts : Casts where
  uuid
    | .str s => if s.toList.length = 36 then some s else none
    | _ => none
  bigint
    | .null => some none
    | .int n => some (some n)
    | .str s => (decimal? s.toList).map some
    | _ => none
  scalar _ _ value := some value

def sampleIdentity : Identity where
  resolve aliases ref :=
    match aliases.lookup ref with
    | some item => (aliases, some item)
    | none =>
      if ref.provider = "musicbrainz" then (aliases.insert ref aliases.count, some aliases.count)
      else (aliases, none)
  attach aliases refs :=
    let aliases := refs.foldl (fun t ref => t.insertIfAbsent ref.1 ref.2) aliases
    (aliases, refs.filterMap fun ref => (aliases.lookup ref.1).map fun item => (ref.1, item))

def sampleExternals : Externals where
  casts := sampleCasts
  identity := sampleIdentity
  aliasRefsForRelease _ := some []
  mediaMapper _ := .obj [("items", .arr [])]
  mediumLabel _ := none

end Records
