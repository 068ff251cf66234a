/-
  What an import leaves in the tables.

  Every record is a transaction of its own.  Each of its statements overwrites a row, tops one up or
  replaces a release's range, and what it writes is decided by the record alone; so a history of
  committed messages comes to ONE bulk load of all their rows, table by table
  (`import_is_one_bulk_load`).

  What a table holds is then read off the messages: the last one decides an entity's row, a
  relationship's `ended` and a release's edges, the first one a medium's row.  Messages that do not
  compete for a row may therefore come in any order (`import_order_does_not_matter`), and the graph's
  vocabulary only grows (`vocabulary_is_kept`).

  Not all of a row is decided by the record.  The native id is the identity service's, a child row's
  `updated_at` depends on the refresh and on what was there, and the link events on the row before; so
  the tables are compared without these (`forgetItem`, `forgetUpdatedAt`), and the events have a section
  of their own.  What is left of a message is the same whatever the tables hold, which makes the run a
  fold over the messages (`run_reads`), and a fold over one table at a time.

  The order then matters exactly where a fold's steps do not commute.  For rows under different keys they
  do; `Apart` says when two messages have no key in common, or agree on it.
-/
import MusicBrainzLoader.Records.Ledger
import MusicBrainzLoader.Records.Media
import MusicBrainzLoader.Records.Redelivery

namespace Records

open Runs

/-! ## What a message brings -/

/-- An entity row without its native id, which the identity service decides. -/
def EntityRow.forgetItem (row : EntityRow) : EntityRow := { row with gmItemId := none }

/-- What a message's record comes to. -/
def Message.plan (ext : Externals) (m : Message) : Option Plan := Records.plan ext m.kind m.record

def Message.mediaPlan (ext : Externals) (m : Message) : Option MediaPlan :=
  (m.plan ext).bind (·.media)

/-- The rows a message brings each table, under their keys. -/
def Message.entityRows (ext : Externals) (kind : EntityKind) (m : Message) : List (Uuid × EntityRow) :=
  if m.kind = kind then (m.plan ext).toList.map fun pl => (pl.mbid, pl.entityRow none m.start) else []

def Message.relationshipRows (ext : Externals) (m : Message) :
    List (RelationshipKey × RelationshipRow) :=
  (m.plan ext).elim [] fun pl => pl.relationships.map fun row => (row.1, ⟨row.2, m.start⟩)

def Message.externalLinkRows (ext : Externals) (m : Message) :
    List (ExternalLinkKey × ExternalLinkRow) :=
  (m.plan ext).elim [] fun pl => pl.externalLinks.map fun key => (key, ⟨m.start⟩)

def Message.familyRows (ext : Externals) (m : Message) : List (String × Unit) :=
  (m.mediaPlan ext).elim [] fun media =>
    ((media.rows.map (·.family)).dedup.insertionSort (· ≤ ·)).map (·, ())

def Message.mediumRows (ext : Externals) (m : Message) : List (String × MediumRow) :=
  (m.mediaPlan ext).elim [] fun media => Records.mediumRows media.rows

/-- The media of the last message that wrote a release's edges. -/
def lastMedia (ext : Externals) (releaseId : String) (messages : List Message) : Option MediaPlan :=
  ((messages.filterMap (Message.mediaPlan ext)).filter (·.releaseId = releaseId)).getLast?

/-- **The tables after a bulk load** of all the messages' rows.  Without the refresh a child row keeps
    the `updated_at` it was inserted with. -/
structure BulkLoaded (ext : Externals) (refresh : Bool) (messages : List Message) (db db' : Database) :
    Prop where
  entities : ∀ kind, (db'.entities kind).mapRows EntityRow.forgetItem =
    ((db.entities kind).mapRows EntityRow.forgetItem).insertAll
      (messages.flatMap (Message.entityRows ext kind))
  relationships : db'.relationships.mapRows RelationshipRow.forgetUpdatedAt =
    (db.relationships.mapRows RelationshipRow.forgetUpdatedAt).insertAll
      ((messages.flatMap (Message.relationshipRows ext)).map fun row => (row.1, row.2.forgetUpdatedAt))
  externalLinks : db'.externalLinks.mapRows ExternalLinkRow.forgetUpdatedAt =
    (db.externalLinks.mapRows ExternalLinkRow.forgetUpdatedAt).insertAll
      ((messages.flatMap (Message.externalLinkRows ext)).map fun row => (row.1, row.2.forgetUpdatedAt))
  refreshed : refresh = true →
    db'.relationships = db.relationships.insertAll (messages.flatMap (Message.relationshipRows ext)) ∧
      db'.externalLinks = db.externalLinks.insertAll (messages.flatMap (Message.externalLinkRows ext))
  mediaFamilies : db'.mediaFamilies =
    db.mediaFamilies.insertAllIfAbsent (messages.flatMap (Message.familyRows ext))
  media : db'.media = db.media.insertAllIfAbsent (messages.flatMap (Message.mediumRows ext))
  issuedOn : ∀ key, db'.issuedOn.lookup key =
    if key.source = MEDIA_SOURCE then
      (lastMedia ext key.releaseId messages).elim (db.issuedOn.lookup key) fun media =>
        rowQty media.rows key.mediumId
    else db.issuedOn.lookup key

/-! ## One message

  One lemma for each table: what a committed message makes of it, whatever it held. -/

section Step

variable {ext : Externals} {refresh : Bool} {db db' : Database} {m : Message}

/-- A committed message applies its plan, with some native id. -/
theorem handle_plan (h : handle ext refresh db m = some db') :
    ∃ pl gm aliases, m.plan ext = some pl ∧
      db' = pl.apply m.kind refresh m.start (sourceRef m.record) gm aliases db := by
  obtain ⟨pl, aliases, hpl, -, rfl⟩ := process_eq_some.mp h
  exact ⟨pl, _, aliases, hpl, rfl⟩

/-- An entity's row is the message's, but for its native id. -/
theorem entities_handle (h : handle ext refresh db m = some db') (kind : EntityKind) :
    (db'.entities kind).mapRows EntityRow.forgetItem =
      ((db.entities kind).mapRows EntityRow.forgetItem).insertAll (m.entityRows ext kind) := by
  obtain ⟨pl, gm, aliases, hpl, rfl⟩ := handle_plan h
  unfold Message.entityRows
  by_cases hk : m.kind = kind
  · subst hk
    rw [if_pos rfl, hpl]
    show Table.mapRows _ (Function.update db.entities m.kind _ m.kind) = _
    rw [Function.update_self, Table.mapRows_insert]
    rfl
  · rw [if_neg hk]
    show Table.mapRows _ (Function.update db.entities m.kind _ kind) = _
    rw [Function.update_of_ne (Ne.symm hk)]
    rfl

/-- Relationships are upserted by their natural keys. -/
theorem relationships_handle (h : handle ext refresh db m = some db') :
    db'.relationships.mapRows RelationshipRow.forgetUpdatedAt =
      (db.relationships.mapRows RelationshipRow.forgetUpdatedAt).insertAll
        ((m.relationshipRows ext).map fun row => (row.1, row.2.forgetUpdatedAt)) := by
  obtain ⟨pl, gm, aliases, hpl, rfl⟩ := handle_plan h
  unfold Message.relationshipRows
  rw [hpl]
  show Table.mapRows _ (pl.applyRelationships refresh m.start db.relationships) = _
  rw [Plan.applyRelationships, forget_relationships, Option.elim, List.map_map]
  rfl

/-- And so are external links. -/
theorem externalLinks_handle (h : handle ext refresh db m = some db') :
    db'.externalLinks.mapRows ExternalLinkRow.forgetUpdatedAt =
      (db.externalLinks.mapRows ExternalLinkRow.forgetUpdatedAt).insertAll
        ((m.externalLinkRows ext).map fun row => (row.1, row.2.forgetUpdatedAt)) := by
  obtain ⟨pl, gm, aliases, hpl, rfl⟩ := handle_plan h
  unfold Message.externalLinkRows
  rw [hpl]
  show Table.mapRows _ (pl.applyExternalLinks refresh m.start db.externalLinks) = _
  rw [Plan.applyExternalLinks, forget_externalLinks, Option.elim, List.map_map]
  rfl

/-- With the refresh on, a child row is overwritten whole. -/
theorem refreshed_handle (h : handle ext true db m = some db') :
    db'.relationships = db.relationships.insertAll (m.relationshipRows ext) ∧
      db'.externalLinks = db.externalLinks.insertAll (m.externalLinkRows ext) := by
  obtain ⟨pl, gm, aliases, hpl, rfl⟩ := handle_plan h
  unfold Message.relationshipRows Message.externalLinkRows Table.insertAll
  rw [hpl, Option.elim, Option.elim, List.foldl_map, List.foldl_map]
  exact ⟨rfl, rfl⟩

/-- A family that is there already is left alone. -/
theorem mediaFamilies_handle (h : handle ext refresh db m = some db') :
    db'.mediaFamilies = db.mediaFamilies.insertAllIfAbsent (m.familyRows ext) := by
  obtain ⟨pl, gm, aliases, hpl, rfl⟩ := handle_plan h
  unfold Message.familyRows Message.mediaPlan
  rw [hpl]
  show pl.media.elim db.mediaFamilies _ = _
  cases hmedia : pl.media with
  | none => rw [Option.bind_some, hmedia]; rfl
  | some media => rw [Option.bind_some, hmedia]; rfl

/-- And so is a medium. -/
theorem media_handle (h : handle ext refresh db m = some db') :
    db'.media = db.media.insertAllIfAbsent (m.mediumRows ext) := by
  obtain ⟨pl, gm, aliases, hpl, rfl⟩ := handle_plan h
  unfold Message.mediumRows Message.mediaPlan
  rw [hpl]
  show pl.media.elim db.media _ = _
  cases hmedia : pl.media with
  | none => rw [Option.bind_some, hmedia]; rfl
  | some media => rw [Option.bind_some, hmedia]; rfl

/-- A planned message's media are distinct. -/
theorem mediaPlan_distinct {media : MediaPlan} (h : m.mediaPlan ext = some media) :
    (media.rows.map (·.medium)).Nodup := by
  obtain ⟨pl, hpl, hmedia⟩ := Option.bind_eq_some_iff.mp h
  obtain ⟨-, -, hplan, -⟩ := plan_eq_some.mp hpl
  rw [hmedia] at hplan
  exact mediaPlan_nodup hplan

/-- Another source's edges are out of the range's reach. -/
theorem lookup_applyIssuedOn_other (media : MediaPlan) (t : Table IssuedOnKey Nat) {key : IssuedOnKey}
    (hsource : key.source ≠ MEDIA_SOURCE) : (media.applyIssuedOn t).lookup key = t.lookup key := by
  have habsent : key ∉ (mediaEdges media.releaseId media.rows).map (·.1) := by
    intro hmem
    obtain ⟨edge, hedge, rfl⟩ := List.mem_map.mp hmem
    obtain ⟨row, -, rfl⟩ := List.mem_map.mp hedge
    exact hsource rfl
  rw [MediaPlan.applyIssuedOn, Table.lookup_insertAll_of_notMem habsent, Table.lookup_deleteWhere]
  cases t.lookup key with
  | none => rfl
  | some qty => simp [Option.filter, hsource]

/-- A message replaces the edges of its own release and source, and no others. -/
theorem issuedOn_handle (h : handle ext refresh db m = some db') (key : IssuedOnKey) :
    db'.issuedOn.lookup key =
      if key.source = MEDIA_SOURCE then
        ((m.mediaPlan ext).filter (·.releaseId = key.releaseId)).elim (db.issuedOn.lookup key)
          fun media => rowQty media.rows key.mediumId
      else db.issuedOn.lookup key := by
  have hdistinct : ∀ media, m.mediaPlan ext = some media → (media.rows.map (·.medium)).Nodup :=
    fun _ hmedia => mediaPlan_distinct hmedia
  obtain ⟨pl, gm, aliases, hpl, rfl⟩ := handle_plan h
  have hplan : m.mediaPlan ext = pl.media := by
    unfold Message.mediaPlan
    rw [hpl]
    rfl
  rw [hplan] at hdistinct ⊢
  -- Of the statements only the media's touch the edges.
  show (pl.media.elim db.issuedOn fun media => media.applyIssuedOn db.issuedOn).lookup key = _
  cases hmedia : pl.media with
  | none =>
    show db.issuedOn.lookup key = if _ then db.issuedOn.lookup key else _
    rw [ite_self]
  | some media =>
    show (media.applyIssuedOn db.issuedOn).lookup key = _
    -- The media of a release replace its edges of their own source, and no other's.
    by_cases hsource : key.source = MEDIA_SOURCE
    · rw [if_pos hsource]
      obtain ⟨releaseId, medium, source⟩ := key
      obtain rfl : source = MEDIA_SOURCE := hsource
      rw [lookup_applyIssuedOn (hdistinct media hmedia)]
      by_cases hrelease : media.releaseId = releaseId
      · simp [Option.filter, hrelease]
      · simp [Option.filter, hrelease, Ne.symm hrelease]
    · rw [if_neg hsource, lookup_applyIssuedOn_other media db.issuedOn hsource]

end Step

/-! ## A whole import -/

section Import

variable {ext : Externals} {refresh : Bool} {db db' : Database} {messages : List Message}

/-- The last message has the say, if it names the release. -/
theorem lastMedia_concat (releaseId : String) (messages : List Message) (m : Message) :
    lastMedia ext releaseId (messages ++ [m]) =
      ((m.mediaPlan ext).filter (·.releaseId = releaseId)).or (lastMedia ext releaseId messages) := by
  unfold lastMedia
  rw [List.filterMap_append, List.filter_append, List.getLast?_append]
  congr 1
  cases hmedia : m.mediaPlan ext with
  | none => rw [List.filterMap_cons_none hmedia]; rfl
  | some media =>
    rw [List.filterMap_cons_some hmedia]
    by_cases hrelease : media.releaseId = releaseId <;> simp [Option.filter, hrelease]

/-- A release's edges are the last ones written for it. -/
theorem issuedOn_run (hrun : afterMessages ext refresh db messages = some db') (key : IssuedOnKey) :
    db'.issuedOn.lookup key =
      if key.source = MEDIA_SOURCE then
        (lastMedia ext key.releaseId messages).elim (db.issuedOn.lookup key) fun media =>
          rowQty media.rows key.mediumId
      else db.issuedOn.lookup key := by
  induction messages using List.reverseRecOn generalizing db' with
  | nil =>
    obtain rfl := Option.some.inj hrun
    show _ = if _ then db.issuedOn.lookup key else _
    rw [ite_self]
  | append_singleton messages m ih =>
    obtain ⟨d, hd, hstep⟩ := run_concat.mp hrun
    rw [issuedOn_handle hstep key, ih hd, lastMedia_concat]
    by_cases hsource : key.source = MEDIA_SOURCE
    · rw [if_pos hsource, if_pos hsource, if_pos hsource]
      cases (m.mediaPlan ext).filter (·.releaseId = key.releaseId) <;> rfl
    · rw [if_neg hsource, if_neg hsource, if_neg hsource]

/-- **An import is one bulk load.**  Whatever the tables held, after any history of committed messages
    each of them holds what a single batch of all the messages' rows would have left: an entity's row
    and a relationship's `ended` are the last message's, a media family and a medium the first one's,
    the edges of a release those of the last message that named it, and no other source's edge is
    touched. -/
theorem import_is_one_bulk_load (ext : Externals) (refresh : Bool) (db db' : Database)
    (messages : List Message) (hrun : afterMessages ext refresh db messages = some db') :
    BulkLoaded ext refresh messages db db' := by
  constructor
  -- Every table is a reading that one message changes in a way of its own: `run_reads` carries the
  -- change over a history, and what is left is to join the writes into one batch.
  · intro kind
    rw [← Table.foldl_insertAll]
    exact run_reads (fun db => (db.entities kind).mapRows EntityRow.forgetItem)
      (fun t m => t.insertAll (m.entityRows ext kind)) (fun _ _ _ h => entities_handle h kind) hrun
  · rw [List.map_flatMap, ← Table.foldl_insertAll]
    exact run_reads (fun db => db.relationships.mapRows RelationshipRow.forgetUpdatedAt)
      (fun t m => t.insertAll
        ((m.relationshipRows ext).map fun row => (row.1, row.2.forgetUpdatedAt)))
      (fun _ _ _ h => relationships_handle h) hrun
  · rw [List.map_flatMap, ← Table.foldl_insertAll]
    exact run_reads (fun db => db.externalLinks.mapRows ExternalLinkRow.forgetUpdatedAt)
      (fun t m => t.insertAll
        ((m.externalLinkRows ext).map fun row => (row.1, row.2.forgetUpdatedAt)))
      (fun _ _ _ h => externalLinks_handle h) hrun
  -- With the refresh on the timestamps are the last writer's as well.
  · rintro rfl
    rw [← Table.foldl_insertAll, ← Table.foldl_insertAll]
    exact ⟨run_reads Database.relationships _ (fun _ _ _ h => (refreshed_handle h).1) hrun,
      run_reads Database.externalLinks _ (fun _ _ _ h => (refreshed_handle h).2) hrun⟩
  -- What is there already stays, so the first message counts.
  · rw [← Table.foldl_insertAllIfAbsent]
    exact run_reads Database.mediaFamilies _ (fun _ _ _ h => mediaFamilies_handle h) hrun
  · rw [← Table.foldl_insertAllIfAbsent]
    exact run_reads Database.media _ (fun _ _ _ h => media_handle h) hrun
  -- The edges are replaced and not added to: they are read off the last media of each release.
  · exact issuedOn_run hrun

end Import

/-- An artist, a label of the same relationship, and two releases on one medium. -/
def sampleHistory : List Message :=
  [⟨.artist, .obj [("id", .str "11111111-1111-4111-8111-111111111111"), ("name", .str "Artist"),
      ("relations", .arr [.obj [("target_mbid", .str "22222222-2222-4222-8222-222222222222"),
        ("target_type", .str "label"), ("type", .str "contract")]])], 1, 2⟩,
    ⟨.label, .obj [("id", .str "22222222-2222-4222-8222-222222222222"),
      ("relations", .arr [.obj [("direction", .str "backward"),
        ("target_mbid", .str "11111111-1111-4111-8111-111111111111"),
        ("target_type", .str "artist"), ("type", .str "contract")]])], 2, 3⟩,
    ⟨.release, releaseMessage "33333333-3333-4333-8333-333333333333" (.int 7) "lp" 2, 3, 4⟩,
    ⟨.release, releaseMessage "44444444-4444-4444-8444-444444444444" (.int 8) "lp" 1, 4, 5⟩]

theorem bulk_load_of_four_messages :
    ∃ db, afterMessages sampleExternals true {} sampleHistory = some db ∧
      BulkLoaded sampleExternals true sampleHistory {} db := by
  have hrun : (afterMessages sampleExternals true {} sampleHistory).isSome = true := by
    decide +kernel
  obtain ⟨db, hdb⟩ := Option.isSome_iff_exists.mp hrun
  exact ⟨db, hdb, import_is_one_bulk_load sampleExternals true {} db sampleHistory hdb⟩

/-! ## The order of the messages

  The events are the one table whose rows depend on others: a message records what its entity's link
  was. Among messages for different entities that is what it was before the import. -/

/-- Two messages that do not compete for a row: they are for different entities and different Discogs
    releases, and agree on what they both report. -/
structure Apart (ext : Externals) (m m' : Message) : Prop where
  entities : m.kind = m'.kind → ext.casts.uuid (mbid m.record) ≠ ext.casts.uuid (mbid m'.record)
  releases : ∀ media ∈ m.mediaPlan ext, ∀ media' ∈ m'.mediaPlan ext, media.releaseId ≠ media'.releaseId
  relationships : ∀ row ∈ m.relationshipRows ext, ∀ row' ∈ m'.relationshipRows ext,
    row.1 = row'.1 → row.2.ended = row'.2.ended
  media : ∀ row ∈ m.mediumRows ext, ∀ row' ∈ m'.mediumRows ext, row.1 = row'.1 → row.2 = row'.2

instance (ext : Externals) (m m' : Message) : Decidable (Apart ext m m') :=
  decidable_of_iff
    ((m.kind = m'.kind → ext.casts.uuid (mbid m.record) ≠ ext.casts.uuid (mbid m'.record)) ∧
      (∀ media ∈ m.mediaPlan ext, ∀ media' ∈ m'.mediaPlan ext, media.releaseId ≠ media'.releaseId) ∧
      (∀ row ∈ m.relationshipRows ext, ∀ row' ∈ m'.relationshipRows ext,
        row.1 = row'.1 → row.2.ended = row'.2.ended) ∧
      ∀ row ∈ m.mediumRows ext, ∀ row' ∈ m'.mediumRows ext, row.1 = row'.1 → row.2 = row'.2)
    ⟨fun ⟨h₁, h₂, h₃, h₄⟩ => ⟨h₁, h₂, h₃, h₄⟩, fun h => ⟨h.1, h.2, h.3, h.4⟩⟩

/-- The event a message would record if no other message named its entity. -/
def Message.ownEvent (ext : Externals) (db : Database) (m : Message) : Option LinkEvent :=
  (m.plan ext).bind fun pl =>
    (linkEvent m.kind pl.mbid ((db.entities m.kind).lookup pl.mbid) pl.discogsId (sourceRef m.record)
      m.start).filter fun e => decide (¬ ∃ e' ∈ db.linkEvents, e'.sameKey e)

section Order

variable {ext : Externals} {refresh : Bool} {db db' : Database} {m m' : Message}
  {messages : List Message}

/-- It does not matter which of the two comes first. -/
theorem Apart.symm (h : Apart ext m m') : Apart ext m' m where
  entities hkind := (h.entities hkind.symm).symm
  releases media hmedia media' hmedia' := (h.releases media' hmedia' media hmedia).symm
  relationships row hrow row' hrow' hkey := (h.relationships row' hrow' row hrow hkey.symm).symm
  media row hrow row' hrow' hkey := (h.media row' hrow' row hrow hkey.symm).symm

instance : Std.Symm (Apart ext) := ⟨fun _ _ => Apart.symm⟩

/-- A message names the entity of its plan. -/
theorem names_of_plan {pl : Plan} (hpl : m.plan ext = some pl) :
    m.names ext m.kind pl.mbid = true := by
  obtain ⟨-, -, -, -, -, hid, -⟩ := plan_eq_some.mp hpl
  simp [Message.names, hid]

/-- No entity is named by both. -/
theorem Apart.names (h : Apart ext m m') {kind : EntityKind} {id : Uuid}
    (hm : m.names ext kind id = true) : m'.names ext kind id = false := by
  obtain ⟨hkind, hid⟩ := of_decide_eq_true hm
  refine decide_eq_false ?_
  rintro ⟨hkind', hid'⟩
  exact h.entities (hkind.trans hkind'.symm) (hid.trans hid'.symm)

/-- The row of an entity that no message named is as it was. -/
theorem lookup_unnamed (hrun : afterMessages ext refresh db messages = some db') {kind : EntityKind}
    {id : Uuid} (hunnamed : ∀ m ∈ messages, m.names ext kind id = false) :
    (db'.entities kind).lookup id = (db.entities kind).lookup id := by
  induction messages using List.reverseRecOn generalizing db' with
  | nil =>
    obtain rfl := Option.some.inj hrun
    rfl
  | append_singleton messages m ih =>
    obtain ⟨d, hd, hstep⟩ := run_concat.mp hrun
    have hm : m.names ext kind id = false :=
      hunnamed m (List.mem_append_right _ (List.mem_singleton_self m))
    rw [(handle_other hstep hm).1]
    exact ih hd fun m' hm' => hunnamed m' (List.mem_append_left _ hm')

/-- The event of a message, and its entity. -/
theorem ownEvent_names {e : LinkEvent} (h : m.ownEvent ext db = some e) :
    ∃ kind, e.entityKind = kind.identityKind ∧ m.names ext kind e.externalId = true := by
  obtain ⟨pl, hpl, he⟩ := Option.bind_eq_some_iff.mp h
  obtain ⟨he, -⟩ := Option.filter_eq_some_iff.mp he
  obtain ⟨row, -, -, rfl⟩ := linkEvent_eq_some.mp he
  exact ⟨m.kind, rfl, names_of_plan hpl⟩

/-- Messages for different entities record their own events, whatever came before. -/
theorem linkEvents_run (hapart : messages.Pairwise (Apart ext))
    (hrun : afterMessages ext refresh db messages = some db') :
    db'.linkEvents = db.linkEvents ++ messages.filterMap (Message.ownEvent ext db) := by
  induction messages using List.reverseRecOn generalizing db' with
  | nil =>
    obtain rfl := Option.some.inj hrun
    exact (List.append_nil _).symm
  | append_singleton messages m ih =>
    obtain ⟨d, hd, hstep⟩ := run_concat.mp hrun
    obtain ⟨hbefore, -, hlast⟩ := List.pairwise_append.mp hapart
    obtain ⟨pl, gm, aliases, hpl, rfl⟩ := handle_plan hstep
    have hfresh : ∀ m' ∈ messages, m'.names ext m.kind pl.mbid = false := by
      intro m' hm'
      by_contra hnames
      have hnot := (hlast m' hm' m (List.mem_singleton_self m)).names (eq_true_of_ne_false hnames)
      rw [names_of_plan hpl] at hnot
      cases hnot
    have hrow : (d.entities m.kind).lookup pl.mbid = (db.entities m.kind).lookup pl.mbid :=
      lookup_unnamed hd hfresh
    rw [List.filterMap_append, ← List.append_assoc, ← ih hbefore hd]
    show insertLinkEvent d.linkEvents (linkEvent m.kind pl.mbid ((d.entities m.kind).lookup pl.mbid)
      pl.discogsId (sourceRef m.record) m.start) = d.linkEvents ++ _
    have hown : m.ownEvent ext db = (linkEvent m.kind pl.mbid ((db.entities m.kind).lookup pl.mbid)
        pl.discogsId (sourceRef m.record) m.start).filter
          fun e => decide (¬ ∃ e' ∈ db.linkEvents, e'.sameKey e) := by
      unfold Message.ownEvent
      rw [hpl]
      rfl
    rw [hrow]
    cases hevent : linkEvent m.kind pl.mbid ((db.entities m.kind).lookup pl.mbid) pl.discogsId
        (sourceRef m.record) m.start with
    | none =>
      rw [hevent] at hown
      rw [List.filterMap_cons_none hown]
      exact (List.append_nil _).symm
    | some e =>
      rw [hevent] at hown
      -- The idempotence key can only be held by an event from before the import.
      have hsame : (∃ e' ∈ d.linkEvents, e'.sameKey e) ↔ ∃ e' ∈ db.linkEvents, e'.sameKey e := by
        rw [ih hbefore hd]
        constructor
        · rintro ⟨e', he', hkey⟩
          rcases List.mem_append.mp he' with he' | he'
          · exact ⟨e', he', hkey⟩
          · obtain ⟨m', hm', hown'⟩ := List.mem_filterMap.mp he'
            obtain ⟨kind, hkind, hnames⟩ := ownEvent_names hown'
            obtain ⟨row, -, -, rfl⟩ := linkEvent_eq_some.mp hevent
            obtain ⟨-, -, -, hentity, hid, -⟩ := hkey
            obtain rfl : kind = m.kind := identityKind_injective (hkind.symm.trans hentity)
            rw [hid, hfresh m' hm'] at hnames
            cases hnames
        · rintro ⟨e', he', hkey⟩
          exact ⟨e', List.mem_append_left _ he', hkey⟩
      show (if ∃ e' ∈ d.linkEvents, e'.sameKey e then d.linkEvents else d.linkEvents ++ [e]) = _
      by_cases hheld : ∃ e' ∈ db.linkEvents, e'.sameKey e
      · rw [if_pos (hsame.mpr hheld)]
        have hnone : m.ownEvent ext db = none := by
          rw [hown]
          simp [Option.filter, hheld]
        rw [List.filterMap_cons_none hnone]
        exact (List.append_nil _).symm
      · rw [if_neg fun hd => hheld (hsame.mp hd)]
        have hsome : m.ownEvent ext db = some e := by
          rw [hown]
          simp [Option.filter, hheld]
        rw [List.filterMap_cons_some hsome]
        rfl

/-- The ranges of two releases are replaced in either order. -/
theorem applyIssuedOn_comm {a b : MediaPlan} (hne : a.releaseId ≠ b.releaseId)
    (ha : (a.rows.map (·.medium)).Nodup) (hb : (b.rows.map (·.medium)).Nodup)
    (t : Table IssuedOnKey Nat) :
    b.applyIssuedOn (a.applyIssuedOn t) = a.applyIssuedOn (b.applyIssuedOn t) := by
  refine Table.ext_lookup fun key => ?_
  by_cases hsource : key.source = MEDIA_SOURCE
  · obtain ⟨releaseId, medium, source⟩ := key
    obtain rfl : source = MEDIA_SOURCE := hsource
    rw [lookup_applyIssuedOn hb, lookup_applyIssuedOn ha, lookup_applyIssuedOn ha,
      lookup_applyIssuedOn hb]
    by_cases hrelease : releaseId = a.releaseId
    · have hother : releaseId ≠ b.releaseId := fun h => hne (hrelease.symm.trans h)
      rw [if_pos hrelease, if_neg hother, if_pos hrelease]
    · rw [if_neg hrelease, if_neg hrelease]
  · rw [lookup_applyIssuedOn_other b _ hsource, lookup_applyIssuedOn_other a _ hsource,
      lookup_applyIssuedOn_other a _ hsource, lookup_applyIssuedOn_other b _ hsource]

/-- A message's edges, as one update of the table. -/
theorem issuedOn_eq (h : handle ext refresh db m = some db') :
    db'.issuedOn = (m.mediaPlan ext).elim db.issuedOn fun media => media.applyIssuedOn db.issuedOn := by
  obtain ⟨pl, gm, aliases, hpl, rfl⟩ := handle_plan h
  unfold Message.mediaPlan
  rw [hpl]
  rfl

/-- Messages for different entities write different rows. -/
theorem entityRows_apart (h : Apart ext m m') (kind : EntityKind) :
    ∀ row ∈ m.entityRows ext kind, ∀ row' ∈ m'.entityRows ext kind, row.1 ≠ row'.1 := by
  intro row hrow row' hrow' hid
  unfold Message.entityRows at hrow hrow'
  split at hrow
  next hk =>
    split at hrow'
    next hk' =>
      obtain ⟨pl, hpl, rfl⟩ := List.mem_map.mp hrow
      obtain ⟨pl', hpl', rfl⟩ := List.mem_map.mp hrow'
      have hnames := names_of_plan (Option.mem_toList.mp hpl)
      have hnames' := names_of_plan (Option.mem_toList.mp hpl')
      rw [hk] at hnames
      have hsame : pl.mbid = pl'.mbid := hid
      rw [hk', ← hsame, h.names hnames] at hnames'
      cases hnames'
    next => cases hrow'
  next => cases hrow

/-- The same tables, but for the native ids, the `updated_at` of child rows and the order of the link
    events. -/
structure SameImport (d d' : Database) : Prop where
  entities : ∀ kind, (d.entities kind).mapRows EntityRow.forgetItem =
    (d'.entities kind).mapRows EntityRow.forgetItem
  relationships : d.relationships.mapRows RelationshipRow.forgetUpdatedAt =
    d'.relationships.mapRows RelationshipRow.forgetUpdatedAt
  externalLinks : d.externalLinks.mapRows ExternalLinkRow.forgetUpdatedAt =
    d'.externalLinks.mapRows ExternalLinkRow.forgetUpdatedAt
  mediaFamilies : d.mediaFamilies = d'.mediaFamilies
  media : d.media = d'.media
  issuedOn : d.issuedOn = d'.issuedOn
  linkEvents : d.linkEvents.Perm d'.linkEvents

/-- **The order of an import does not matter** where its messages do not compete for a row: whatever
    the tables held, the same messages in another order leave the same tables. -/
theorem import_order_does_not_matter (ext : Externals) (refresh : Bool) (db d d' : Database)
    (messages messages' : List Message) (hapart : messages.Pairwise (Apart ext))
    (hperm : messages.Perm messages') (hrun : afterMessages ext refresh db messages = some d)
    (hrun' : afterMessages ext refresh db messages' = some d') : SameImport d d' := by
  -- Equal messages need not be apart, for their order does not matter either.
  have hcompete : ∀ m ∈ messages, ∀ m' ∈ messages, m ≠ m' → Apart ext m m' :=
    fun m hm m' hm' hne => hapart.forall hm hm' hne
  -- Table by table, two messages that are apart write in either order: their rows are different, or
  -- agree.
  constructor
  · intro kind
    refine run_reads_perm (fun db => (db.entities kind).mapRows EntityRow.forgetItem)
      (fun t m => t.insertAll (m.entityRows ext kind)) (fun _ _ _ h => entities_handle h kind) hperm
      (fun m hm m' hm' hne t => ?_) hrun hrun'
    apply Table.insertAll_comm
    intro row hrow row' hrow' hkey
    -- Apart, they are of different entities.
    exact absurd hkey (entityRows_apart (hcompete m hm m' hm' hne) kind row hrow row' hrow')
  · refine run_reads_perm (fun db => db.relationships.mapRows RelationshipRow.forgetUpdatedAt)
      (fun t m => t.insertAll
        ((m.relationshipRows ext).map fun row => (row.1, row.2.forgetUpdatedAt)))
      (fun _ _ _ h => relationships_handle h) hperm (fun m hm m' hm' hne t => ?_) hrun hrun'
    apply Table.insertAll_comm
    intro stored hstored stored' hstored' hkey
    obtain ⟨row, hrow, rfl⟩ := List.mem_map.mp hstored
    obtain ⟨row', hrow', rfl⟩ := List.mem_map.mp hstored'
    -- One relationship may be both theirs, and then they agree on it.
    have hended := (hcompete m hm m' hm' hne).relationships row hrow row' hrow' hkey
    show (⟨row.2.ended, 0⟩ : RelationshipRow) = ⟨row'.2.ended, 0⟩
    rw [hended]
  · refine run_reads_perm (fun db => db.externalLinks.mapRows ExternalLinkRow.forgetUpdatedAt)
      (fun t m => t.insertAll
        ((m.externalLinkRows ext).map fun row => (row.1, row.2.forgetUpdatedAt)))
      (fun _ _ _ h => externalLinks_handle h) hperm (fun m hm m' hm' hne t => ?_) hrun hrun'
    apply Table.insertAll_comm
    intro stored hstored stored' hstored' _
    obtain ⟨row, -, rfl⟩ := List.mem_map.mp hstored
    obtain ⟨row', -, rfl⟩ := List.mem_map.mp hstored'
    rfl
  · refine run_reads_perm Database.mediaFamilies (fun t m => t.insertAllIfAbsent (m.familyRows ext))
      (fun _ _ _ h => mediaFamilies_handle h) hperm (fun m hm m' hm' hne t => ?_) hrun hrun'
    apply Table.insertAllIfAbsent_comm
    exact fun row hrow row' hrow' hkey => rfl
  · refine run_reads_perm Database.media (fun t m => t.insertAllIfAbsent (m.mediumRows ext))
      (fun _ _ _ h => media_handle h) hperm (fun m hm m' hm' hne t => ?_) hrun hrun'
    exact Table.insertAllIfAbsent_comm (hcompete m hm m' hm' hne).media t
  · refine run_reads_perm Database.issuedOn
      (fun t m => (m.mediaPlan ext).elim t fun media => media.applyIssuedOn t)
      (fun _ _ _ h => issuedOn_eq h) hperm (fun m hm m' hm' hne t => ?_) hrun hrun'
    cases hmedia : m.mediaPlan ext with
    | none => rfl
    | some media =>
      cases hmedia' : m'.mediaPlan ext with
      | none => rfl
      | some media' =>
        exact applyIssuedOn_comm ((hcompete m hm m' hm' hne).releases media hmedia media' hmedia')
          (mediaPlan_distinct hmedia) (mediaPlan_distinct hmedia') t
  -- Link events are listed in the order of the messages; as a collection they are the same.
  · have hapart' := (hperm.pairwise_iff fun h => Apart.symm h).mp hapart
    rw [linkEvents_run hapart hrun, linkEvents_run hapart' hrun']
    exact (hperm.filterMap _).append_left db.linkEvents

end Order

theorem four_messages_in_either_order :
    ∃ d d', afterMessages sampleExternals true {} sampleHistory = some d ∧
      afterMessages sampleExternals true {} sampleHistory.reverse = some d' ∧ SameImport d d' := by
  have hrun : (afterMessages sampleExternals true {} sampleHistory).isSome = true := by
    decide +kernel
  have hrun' : (afterMessages sampleExternals true {} sampleHistory.reverse).isSome = true := by
    decide +kernel
  obtain ⟨d, hd⟩ := Option.isSome_iff_exists.mp hrun
  obtain ⟨d', hd'⟩ := Option.isSome_iff_exists.mp hrun'
  refine ⟨d, d', hd, hd', ?_⟩
  exact import_order_does_not_matter sampleExternals true {} d d' sampleHistory sampleHistory.reverse
    (by decide +kernel) (List.reverse_perm _).symm hd hd'

/-! ## The media vocabulary

  The statements that write an edge stand after those that write its medium and the medium's family, in
  the same transaction. -/

/-- The graph has no foreign keys; this is what they would say: an edge's medium is in `graph.medium`,
    a medium's family in `graph.media_family`. -/
structure Vocabulary (db : Database) : Prop where
  edges : ∀ key qty, db.issuedOn.lookup key = some qty → key.mediumId ∈ db.media
  families : ∀ medium row, db.media.lookup medium = some row → row.family ∈ db.mediaFamilies

/-- The vocabulary of `d` is in `d'`, each medium with the family and the label it had. -/
structure Tops (d d' : Database) : Prop where
  families : ∀ name ∈ d.mediaFamilies, name ∈ d'.mediaFamilies
  media : ∀ medium row, d.media.lookup medium = some row → d'.media.lookup medium = some row

section Vocabulary

variable {ext : Externals} {refresh : Bool} {db db' : Database} {m : Message}

/-- What is topped up twice is topped up. -/
theorem Tops.trans {d d' d'' : Database} (h : Tops d d') (h' : Tops d' d'') : Tops d d'' :=
  ⟨fun name hname => h'.families name (h.families name hname),
    fun medium row hrow => h'.media medium row (h.media medium row hrow)⟩

/-- A message adds media and families, and changes none. -/
theorem tops_handle (h : handle ext refresh db m = some db') : Tops db db' := by
  constructor
  · intro name hname
    rw [mediaFamilies_handle h, Table.mem_insertAllIfAbsent]
    exact .inl hname
  · intro medium row hrow
    rw [media_handle h, Table.lookup_insertAllIfAbsent, hrow]
    rfl

/-- A message's media and their families. -/
theorem familyRows_of_mediumRows {medium : String} {row : MediumRow}
    (h : (medium, row) ∈ m.mediumRows ext) : row.family ∈ (m.familyRows ext).map (·.1) := by
  unfold Message.mediumRows at h
  unfold Message.familyRows
  cases hmedia : m.mediaPlan ext with
  | none =>
    rw [hmedia] at h
    cases h
  | some media =>
    rw [hmedia] at h
    obtain ⟨mediaRow, hmediaRow, heq⟩ := List.mem_map.mp h
    obtain ⟨rfl, rfl⟩ := Prod.mk.inj heq
    show mediaRow.family ∈ (((media.rows.map (·.family)).dedup.insertionSort (· ≤ ·)).map (·, ())).map (·.1)
    rw [List.map_map]
    show mediaRow.family ∈ ((media.rows.map (·.family)).dedup.insertionSort (· ≤ ·)).map id
    rw [List.map_id, List.mem_insertionSort, List.mem_dedup]
    exact List.mem_map_of_mem hmediaRow

/-- The medium of an edge a message writes is one of its media. -/
theorem medium_of_edge {media : MediaPlan} (hmedia : m.mediaPlan ext = some media) {medium : String}
    {qty : Nat} (h : rowQty media.rows medium = some qty) :
    medium ∈ (m.mediumRows ext).map (·.1) := by
  obtain ⟨row, hrow, rfl, -⟩ := (rowQty_eq_some (mediaPlan_distinct hmedia)).mp h
  unfold Message.mediumRows
  rw [hmedia]
  exact List.mem_map_of_mem (List.mem_map_of_mem hrow)

/-- A message writes an edge only with its medium, and a medium only with its family. -/
theorem vocabulary_handle (hdb : Vocabulary db) (h : handle ext refresh db m = some db') :
    Vocabulary db' := by
  constructor
  · intro key qty hedge
    rw [media_handle h, Table.mem_insertAllIfAbsent]
    rw [issuedOn_handle h key] at hedge
    split at hedge
    · cases hmedia : (m.mediaPlan ext).filter (·.releaseId = key.releaseId) with
      | none =>
        rw [hmedia] at hedge
        exact .inl (hdb.edges key qty hedge)
      | some media =>
        rw [hmedia] at hedge
        exact .inr (medium_of_edge (Option.filter_eq_some_iff.mp hmedia).1 hedge)
    · exact .inl (hdb.edges key qty hedge)
  · intro medium row hrow
    rw [mediaFamilies_handle h, Table.mem_insertAllIfAbsent]
    rw [media_handle h, Table.lookup_insertAllIfAbsent] at hrow
    rcases Option.or_eq_some_iff.mp hrow with hold | ⟨-, hnew⟩
    · exact .inl (hdb.families medium row hold)
    · exact .inr (familyRows_of_mediumRows (Table.mem_of_lookup hnew))

end Vocabulary

/-- **The vocabulary is kept**: after any history of committed messages every edge still names a known
    medium of a known family, whoever wrote the edge, and no medium was lost or written over. -/
theorem vocabulary_is_kept (ext : Externals) (refresh : Bool) (db db' : Database)
    (messages : List Message) (hdb : Vocabulary db)
    (hrun : afterMessages ext refresh db messages = some db') : Vocabulary db' ∧ Tops db db' := by
  have hstart : Vocabulary db ∧ Tops db db := ⟨hdb, fun _ h => h, fun _ _ h => h⟩
  have hstep : ∀ d m d', Vocabulary d ∧ Tops db d → handle ext refresh d m = some d' →
      Vocabulary d' ∧ Tops db d' := by
    rintro d m d' ⟨hvocabulary, htops⟩ h
    exact ⟨vocabulary_handle hvocabulary h, htops.trans (tops_handle h)⟩
  exact run_invariant hstep hstart hrun

theorem vocabulary_of_four_messages :
    ∃ db, afterMessages sampleExternals true {} sampleHistory = some db ∧ Vocabulary db ∧ Tops {} db := by
  have hrun : (afterMessages sampleExternals true {} sampleHistory).isSome = true := by
    decide +kernel
  obtain ⟨db, hdb⟩ := Option.isSome_iff_exists.mp hrun
  have hempty : Vocabulary {} := by
    constructor
    · intro key qty h
      rw [show ({} : Database).issuedOn = ∅ from rfl, Finmap.lookup_empty] at h
      cases h
    · intro medium row h
      rw [show ({} : Database).media = ∅ from rfl, Finmap.lookup_empty] at h
      cases h
  exact ⟨db, hdb, vocabulary_is_kept sampleExternals true {} db sampleHistory hempty hdb⟩

end Records
