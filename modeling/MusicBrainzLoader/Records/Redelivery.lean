/-
  Redelivery is idempotent: processing a record twice leaves what processing it once left.

  Up to `updated_at`, each table after a transaction is a function of the table before and of the
  record's plan, and that function is a fixed point after one application:

  * the entity row and the child rows OVERWRITE, and are read off the last row of their batch;
  * the media vocabulary YIELDS to what is there;
  * `graph.issued_on` empties the range it then fills;
  * the ledger compares with the row the first pass stored, so the second adds nothing;
  * the identity calls find every reference the first pass resolved (`nativeId_again`).

  That each piece is a fixed point is not enough by itself: the second pass starts from a database
  in which ALL of them have been applied.  The native id is where this matters.  The first pass may
  have minted an item, or linked the MusicBrainz alias to the item of a Discogs reference; the
  second finds the alias there and asks nothing else, so the same item comes out by another of the
  three ways (`nativeId_again`, which is by the cases of the first pass).  The id it writes is then
  the id that is stored, so there is no change for the ledger to record.

  Nothing is assumed of two calls at different times beyond what the code relies on: a reference
  once attached is found, and no call changes what it names (`Identity.Lawful`).
-/
import MusicBrainzLoader.Records.Process

namespace Records

/-! ## What is assumed of `common.identity` -/

/-- The documented behaviour of the two identity calls. -/
structure Identity.Lawful (identity : Identity) : Prop where
  /-- A reference's existing item is returned, and nothing changes. -/
  resolve_existing : ∀ aliases ref item, aliases.lookup ref = some item →
    identity.resolve aliases ref = (aliases, some item)
  /-- The answer is the item the reference names afterwards. -/
  resolve_answer : ∀ aliases ref,
    (identity.resolve aliases ref).2 = (identity.resolve aliases ref).1.lookup ref
  /-- No other reference is touched. -/
  resolve_frame : ∀ aliases ref other, other ≠ ref →
    (identity.resolve aliases ref).1.lookup other = aliases.lookup other
  /-- Whether an item is minted for a reference without one depends on the reference. -/
  resolve_mints : ∀ aliases aliases' ref, (identity.resolve aliases ref).2 = none →
    aliases'.lookup ref = none → (identity.resolve aliases' ref).2 = none
  /-- A reference is inserted only when it is absent. -/
  attach_lookup : ∀ aliases refs ref, (refs.map Prod.fst).Nodup →
    (identity.attach aliases refs).1.lookup ref = (aliases.lookup ref).or (refs.lookup ref)
  /-- The answer is the item each listed reference names afterwards. -/
  attach_answer : ∀ aliases refs ref, (refs.map Prod.fst).Nodup → ref ∈ refs.map Prod.fst →
    (identity.attach aliases refs).2.lookup ref = (identity.attach aliases refs).1.lookup ref

/-- What holds of each call, whatever the calls before it minted: nothing is overwritten. -/
structure Identity.Additive (identity : Identity) : Prop where
  /-- A reference's existing item is returned, and nothing changes. -/
  resolve_existing : ∀ aliases ref item, aliases.lookup ref = some item →
    identity.resolve aliases ref = (aliases, some item)
  /-- The answer is the item the reference names afterwards, if one was minted. -/
  resolve_answer : ∀ aliases ref,
    (identity.resolve aliases ref).2 = (identity.resolve aliases ref).1.lookup ref
  /-- No other reference is touched. -/
  resolve_frame : ∀ aliases ref other, other ≠ ref →
    (identity.resolve aliases ref).1.lookup other = aliases.lookup other
  /-- A reference is inserted only when it is absent. -/
  attach_lookup : ∀ aliases refs ref, (refs.map Prod.fst).Nodup →
    (identity.attach aliases refs).1.lookup ref = (aliases.lookup ref).or (refs.lookup ref)
  /-- The answer is the item each listed reference names afterwards. -/
  attach_answer : ∀ aliases refs ref, (refs.map Prod.fst).Nodup → ref ∈ refs.map Prod.fst →
    (identity.attach aliases refs).2.lookup ref = (identity.attach aliases refs).1.lookup ref

/-- A MusicBrainz alias that is resolved and not there is minted: "resolves its own MusicBrainz alias,
    which mints a catalog item on a miss" (docs/musicbrainz-sync.md). -/
def Identity.Mints (identity : Identity) : Prop :=
  ∀ aliases entityKind externalId,
    (identity.resolve aliases ⟨"musicbrainz", entityKind, externalId⟩).2 ≠ none

/-- A lawful service overwrites nothing. -/
theorem Identity.Lawful.additive {identity : Identity} (law : identity.Lawful) : identity.Additive where
  resolve_existing := law.resolve_existing
  resolve_answer := law.resolve_answer
  resolve_frame := law.resolve_frame
  attach_lookup := law.attach_lookup
  attach_answer := law.attach_answer

/-! ## The identity calls again -/

section Additive

variable {identity : Identity} (law : identity.Additive)

include law

/-- Attaching references that are all there changes nothing. -/
theorem attach_present {aliases : Aliases} {refs : List (AliasRef × Item)}
    (hnodup : (refs.map Prod.fst).Nodup)
    (hpresent : ∀ ref ∈ refs.map Prod.fst, aliases.lookup ref ≠ none) :
    (identity.attach aliases refs).1 = aliases := by
  refine Table.ext_lookup fun ref => ?_
  rw [law.attach_lookup aliases refs ref hnodup]
  cases hlook : aliases.lookup ref with
  | some item => rfl
  | none =>
    have hout : ref ∉ refs.map Prod.fst := fun hmem => hpresent ref hmem hlook
    rw [Option.none_or, List.lookup_eq_none_iff]
    intro p hp
    exact bne_iff_ne.mpr fun heq => hout (heq ▸ List.mem_map_of_mem hp)

/-- Attaching one reference answers the item it names afterwards. -/
theorem attach_one (aliases : Aliases) (ref : AliasRef) (item : Item) :
    ((identity.attach aliases [(ref, item)]).2.lookup ref).getD item =
        (aliases.lookup ref).getD item ∧
      (identity.attach aliases [(ref, item)]).1.lookup ref =
        some ((aliases.lookup ref).getD item) := by
  have hnodup : ([(ref, item)].map Prod.fst).Nodup := List.nodup_singleton ref
  have hlook := law.attach_lookup aliases [(ref, item)] ref hnodup
  have hitem : [(ref, item)].lookup ref = some item := List.lookup_cons_self
  rw [hitem] at hlook
  have hanswer := law.attach_answer aliases [(ref, item)] ref hnodup (List.mem_singleton_self ref)
  rw [hanswer, hlook]
  cases aliases.lookup ref <;> exact ⟨rfl, rfl⟩

/-- Attaching one reference that is there already changes nothing, and answers its item. -/
theorem attach_one_present {aliases : Aliases} {ref : AliasRef} {item : Item} (other : Item)
    (h : aliases.lookup ref = some item) :
    (identity.attach aliases [(ref, other)]).1 = aliases ∧
      ((identity.attach aliases [(ref, other)]).2.lookup ref).getD other = item := by
  constructor
  · refine attach_present law (List.nodup_singleton ref) fun ref' hmem => ?_
    obtain rfl := List.mem_singleton.mp hmem
    rw [h]
    exact Option.some_ne_none item
  · rw [(attach_one law aliases ref other).1, h]
    rfl

end Additive

/-- With a Discogs id, the MusicBrainz reference is attached to the Discogs item if there is one. -/
theorem nativeId_discogs (identity : Identity) {entityKind : String} {mbid discogsId : Json}
    (hmbid : mbid.truthy = true) (hdiscogs : discogsId.truthy = true) {ref discogsRef : AliasRef}
    (href : ref = ⟨"musicbrainz", entityKind, mbid⟩)
    (hdref : discogsRef = ⟨"discogs", entityKind, .str discogsId.pyStr⟩) (a : Aliases) :
    nativeId identity a entityKind mbid discogsId =
      match (identity.resolve a discogsRef).2 with
      | some item =>
        ((identity.attach (identity.resolve a discogsRef).1 [(ref, item)]).1,
          some (((identity.attach (identity.resolve a discogsRef).1 [(ref, item)]).2.lookup ref).getD
            item))
      | none => identity.resolve (identity.resolve a discogsRef).1 ref := by
  subst href hdref
  simp only [nativeId, hmbid, hdiscogs, Bool.not_true, Bool.false_eq_true, if_false, if_true]
  cases hr : identity.resolve a ⟨"discogs", entityKind, .str discogsId.pyStr⟩ with
  | mk left answer => cases answer <;> rfl

section Identity

variable {identity : Identity} (law : identity.Lawful)

include law

/-- A call that answered nothing left the aliases alone, and so does the same call later. -/
theorem resolve_again {aliases aliases' : Aliases} {ref : AliasRef}
    (h : (identity.resolve aliases ref).2 = none) (hnone : aliases'.lookup ref = none) :
    identity.resolve aliases' ref = (aliases', none) := by
  have hanswer : (identity.resolve aliases' ref).2 = none := law.resolve_mints aliases aliases' ref h hnone
  have hsame : (identity.resolve aliases' ref).1 = aliases' := by
    refine Table.ext_lookup fun other => ?_
    by_cases hother : other = ref
    · rw [hother, ← law.resolve_answer, hanswer, hnone]
    · exact law.resolve_frame aliases' ref other hother
  rw [← hanswer]
  exact Prod.ext hsame rfl

/-- Resolving a reference again, on aliases that extend what the first call left, and are just that
    when it found no item. -/
theorem resolve_later {aliases later : Aliases} {ref : AliasRef}
    (hextends : ∀ r item, (identity.resolve aliases ref).1.lookup r = some item →
      later.lookup r = some item)
    (hnone : (identity.resolve aliases ref).2 = none → later = (identity.resolve aliases ref).1) :
    identity.resolve later ref = (later, (identity.resolve aliases ref).2) := by
  have hanswer := law.resolve_answer aliases ref
  cases hitem : (identity.resolve aliases ref).2 with
  | some item =>
    rw [hitem] at hanswer
    exact law.resolve_existing later ref item (hextends ref item hanswer.symm)
  | none =>
    rw [hitem] at hanswer
    refine resolve_again law hitem ?_
    rw [hnone hitem]
    exact hanswer.symm

/-- **Resolving the native id again** finds the item of the first time, on any later aliases: those
    that extend what the first call left, and are just that when it found no item. -/
theorem nativeId_again {aliases later : Aliases} {entityKind : String} {mbid discogsId : Json}
    (hextends : ∀ ref item,
      (nativeId identity aliases entityKind mbid discogsId).1.lookup ref = some item →
      later.lookup ref = some item)
    (hnone : (nativeId identity aliases entityKind mbid discogsId).2 = none →
      later = (nativeId identity aliases entityKind mbid discogsId).1) :
    nativeId identity later entityKind mbid discogsId =
      (later, (nativeId identity aliases entityKind mbid discogsId).2) := by
  by_cases hmbid : mbid.truthy = true
  swap
  · simp only [nativeId, hmbid, Bool.not_false, if_true]
  by_cases hdiscogs : discogsId.truthy = true
  swap
  · -- No Discogs id: the MusicBrainz reference is resolved both times.
    simp only [nativeId, hmbid, hdiscogs, Bool.not_true, Bool.false_eq_true, if_false] at hextends hnone ⊢
    exact resolve_later law hextends hnone
  set ref : AliasRef := ⟨"musicbrainz", entityKind, mbid⟩ with href
  set discogsRef : AliasRef := ⟨"discogs", entityKind, .str discogsId.pyStr⟩ with hdref
  have hne : discogsRef ≠ ref := by simp [href, hdref]
  have hunfold := nativeId_discogs identity hmbid hdiscogs href hdref
  have hanswer := law.resolve_answer aliases discogsRef
  rw [hunfold aliases] at hextends hnone ⊢
  cases hitem : (identity.resolve aliases discogsRef).2 with
  | some item =>
    -- The Discogs item was found: the MusicBrainz reference names an item from then on.
    rw [hitem] at hextends hnone hanswer
    dsimp only at hextends hnone ⊢
    set found := (identity.resolve aliases discogsRef).1 with hfound
    obtain ⟨hattached, hown⟩ := attach_one law.additive found ref item
    have hlater : later.lookup ref = some ((found.lookup ref).getD item) := hextends _ _ hown
    have hlaterDiscogs : later.lookup discogsRef = some item := by
      refine hextends _ _ ?_
      rw [law.attach_lookup found [(ref, item)] discogsRef (List.nodup_singleton ref), ← hanswer]
      rfl
    rw [hunfold later, law.resolve_existing later discogsRef item hlaterDiscogs]
    obtain ⟨hsame, hagain⟩ := attach_one_present law.additive item hlater
    dsimp only
    rw [hsame, hagain, hattached]
  | none =>
    -- No Discogs item: the MusicBrainz reference was resolved.
    rw [hitem] at hextends hnone hanswer
    dsimp only at hextends hnone ⊢
    set left := (identity.resolve aliases discogsRef).1 with hleft
    have hown := resolve_later law hextends hnone
    rw [hunfold later]
    cases hlook : later.lookup discogsRef with
    | none =>
      rw [resolve_again law hitem hlook]
      exact hown
    | some item =>
      -- Attached since, with this record's own item: the MusicBrainz reference has one.
      rw [law.resolve_existing later discogsRef item hlook]
      dsimp only
      cases hnative : (identity.resolve left ref).2 with
      | none =>
        have hsame := hnone hnative
        have hframe := law.resolve_frame left ref discogsRef hne
        rw [hsame, hframe, ← hanswer] at hlook
        cases hlook
      | some native =>
        have hrefItem : later.lookup ref = some native := by
          refine hextends _ _ ?_
          rw [← law.resolve_answer, hnative]
        obtain ⟨hsame, hagain⟩ := attach_one_present law.additive item hrefItem
        rw [hsame, hagain]

end Identity

/-- Attaching a record's identifiers extends the aliases, and doing it again changes nothing. -/
theorem attachAliases_again {ext : Externals} (law : ext.identity.Additive) {kind : EntityKind}
    {record : Json} {native : Option Item} {aliases attached : Aliases}
    (h : attachAliases ext kind aliases record native = some attached) :
    (∀ ref item, aliases.lookup ref = some item → attached.lookup ref = some item) ∧
      (native = none → attached = aliases) ∧
      attachAliases ext kind attached record native = some attached := by
  -- Only a release has identifiers to attach, and only to the item it has.
  cases kind with
  | release =>
    cases native with
    | none =>
      obtain rfl := Option.some.inj h
      exact ⟨fun _ _ h => h, fun _ => rfl, rfl⟩
    | some item =>
      obtain ⟨refs, hrefs, hattach⟩ := Option.bind_eq_some_iff.mp h
      -- The refs are the record's own, whatever the table holds.
      have hagain (later : Aliases) : attachAliases ext .release later record (some item) =
          if refs = [] then some later
          else some (ext.identity.attach later (refs.dedup.map fun ref => (ref, item))).1 := by
        simp only [attachAliases, attachIdentifierAliases, hrefs]
        rfl
      by_cases hempty : refs = []
      · rw [hagain aliases, if_pos hempty] at h
        obtain rfl := Option.some.inj h
        exact ⟨fun _ _ h => h, nofun, by rw [hagain, if_pos hempty]⟩
      · rw [hagain aliases, if_neg hempty] at h
        obtain rfl := Option.some.inj h
        have hnodup : ((refs.dedup.map fun ref => (ref, item)).map Prod.fst).Nodup := by
          rw [List.map_map]
          show (refs.dedup.map id).Nodup
          rw [List.map_id]
          exact List.nodup_dedup refs
        -- An attach keeps what is there; and the second time all of it is there.
        refine ⟨fun ref item' hlook => ?_, nofun, ?_⟩
        · rw [law.attach_lookup _ _ ref hnodup, hlook]
          rfl
        · rw [hagain, if_neg hempty]
          refine congrArg some (attach_present law hnodup fun ref hmem => ?_)
          rw [law.attach_lookup _ _ ref hnodup]
          intro hlook
          obtain ⟨-, hout⟩ := Option.or_eq_none_iff.mp hlook
          obtain ⟨p, hp, rfl⟩ := List.mem_map.mp hmem
          exact absurd (List.lookup_eq_none_iff.mp hout p hp) (by simp)
  | _ =>
    obtain rfl := Option.some.inj h
    exact ⟨fun _ _ h => h, fun _ => rfl, rfl⟩

/-! ## The tables again -/

/-- What redelivery changes of a row is its `updated_at`. -/
def EntityRow.forgetUpdatedAt (row : EntityRow) : EntityRow := { row with updatedAt := 0 }

def RelationshipRow.forgetUpdatedAt (row : RelationshipRow) : RelationshipRow := ⟨row.ended, 0⟩

def ExternalLinkRow.forgetUpdatedAt (_ : ExternalLinkRow) : ExternalLinkRow := ⟨0⟩

/-- The database without its `updated_at` values. -/
def Database.forgetUpdatedAt (db : Database) : Database :=
  { db with
    entities := fun kind => (db.entities kind).mapRows EntityRow.forgetUpdatedAt
    relationships := db.relationships.mapRows RelationshipRow.forgetUpdatedAt
    externalLinks := db.externalLinks.mapRows ExternalLinkRow.forgetUpdatedAt }

/-- Without `updated_at`, a batch of relationship upserts overwrites. -/
theorem forget_relationships (refresh : Bool) (now : Instant) (rows : List (RelationshipKey × Json))
    (t : Table RelationshipKey RelationshipRow) :
    Table.mapRows RelationshipRow.forgetUpdatedAt
        (rows.foldl (upsertRelationshipRow refresh now) t) =
      (t.mapRows RelationshipRow.forgetUpdatedAt).insertAll
        (rows.map fun row => (row.1, ⟨row.2, 0⟩)) := by
  induction rows generalizing t with
  | nil => rfl
  | cons row rows ih =>
    rw [List.foldl_cons, ih, upsertRelationshipRow, Table.upsert, Table.mapRows_insert]
    rfl

/-- An external link is its key, but for that. -/
theorem forget_externalLinks (refresh : Bool) (now : Instant) (keys : List ExternalLinkKey)
    (t : Table ExternalLinkKey ExternalLinkRow) :
    Table.mapRows ExternalLinkRow.forgetUpdatedAt
        (keys.foldl (upsertExternalLinkRow refresh now) t) =
      (t.mapRows ExternalLinkRow.forgetUpdatedAt).insertAll (keys.map fun key => (key, ⟨0⟩)) := by
  induction keys generalizing t with
  | nil => rfl
  | cons key keys ih =>
    rw [List.foldl_cons, ih, upsertExternalLinkRow, Table.upsert, Table.mapRows_insert]
    rfl

/-- The media rows of a release are the same after replacing them again. -/
theorem applyIssuedOn_again (m : MediaPlan) (t : Table IssuedOnKey Nat) :
    m.applyIssuedOn (m.applyIssuedOn t) = m.applyIssuedOn t := by
  refine Table.ext_lookup fun key => ?_
  unfold MediaPlan.applyIssuedOn
  rw [Table.lookup_insertAll, Table.lookup_insertAll, Table.lookup_deleteWhere,
    Table.lookup_insertAll, Table.lookup_deleteWhere]
  cases hbatch : (mediaEdges m.releaseId m.rows).reverse.lookup key with
  | some qty => rfl
  | none =>
    simp only [Option.none_or]
    cases t.lookup key with
    | none => rfl
    | some qty =>
      by_cases hrange : key.releaseId = m.releaseId ∧ key.source = MEDIA_SOURCE <;>
        simp [Option.filter, hrange]

/-- An upsert that stores the id the row holds records no event. -/
theorem linkEvent_unchanged {kind : EntityKind} {id : Uuid} {row : EntityRow} {ref : String}
    {now : Instant} : linkEvent kind id (some row) row.discogsId ref now = none := by
  simp [linkEvent]

/-- A plan applied again, at another time, changes nothing but `updated_at`. -/
theorem apply_again (pl : Plan) (kind : EntityKind) (refresh₁ refresh₂ : Bool) (now₁ now₂ : Instant)
    (ref : String) (gm : Option Item) (aliases : Aliases) (db : Database) :
    (pl.apply kind refresh₂ now₂ ref gm aliases
        (pl.apply kind refresh₁ now₁ ref gm aliases db)).forgetUpdatedAt =
      (pl.apply kind refresh₁ now₁ ref gm aliases db).forgetUpdatedAt := by
  -- Table by table. The `updated_at` columns aside, each row is written as it was.
  refine Database.ext' (fun k => ?_) ?_ ?_ ?_ ?_ ?_ ?_ rfl
  · by_cases hk : k = kind
    · subst hk
      refine Table.ext_lookup fun id => ?_
      simp only [Database.forgetUpdatedAt, Plan.apply, Function.update_self, Table.lookup_mapRows,
        Table.lookup_insert_eq]
      split <;> rfl
    · simp only [Database.forgetUpdatedAt, Plan.apply, Function.update_of_ne hk]
  · simp only [Database.forgetUpdatedAt, Plan.apply, Plan.applyRelationships, forget_relationships,
      Table.insertAll_insertAll]
  · simp only [Database.forgetUpdatedAt, Plan.apply, Plan.applyExternalLinks, forget_externalLinks,
      Table.insertAll_insertAll]
  -- The vocabulary is there already, and the edges are replaced by themselves.
  · cases hm : pl.media with
    | none => simp only [Database.forgetUpdatedAt, Plan.apply, hm, Option.elim]
    | some m =>
      simp only [Database.forgetUpdatedAt, Plan.apply, hm, Option.elim, MediaPlan.applyFamilies,
        Table.insertAllIfAbsent_insertAllIfAbsent]
  · cases hm : pl.media with
    | none => simp only [Database.forgetUpdatedAt, Plan.apply, hm, Option.elim]
    | some m =>
      simp only [Database.forgetUpdatedAt, Plan.apply, hm, Option.elim, MediaPlan.applyMedia,
        Table.insertAllIfAbsent_insertAllIfAbsent]
  · cases hm : pl.media with
    | none => simp only [Database.forgetUpdatedAt, Plan.apply, hm, Option.elim]
    | some m =>
      simp only [Database.forgetUpdatedAt, Plan.apply, hm, Option.elim, applyIssuedOn_again]
  -- The second time the row has the id already, so there is no event.
  · have hevent : linkEvent kind pl.mbid (some (pl.entityRow gm now₁)) pl.discogsId ref now₂ = none :=
      linkEvent_unchanged
    simp only [Database.forgetUpdatedAt, Plan.apply, Function.update_self, Finmap.lookup_insert,
      hevent]
    rfl

/-- **Redelivery is idempotent**: after a committed pass, a second pass of the same record commits,
    changes nothing but `updated_at` values, and adds no link event. -/
theorem redelivery_is_idempotent (ext : Externals) (law : ext.identity.Lawful) (kind : EntityKind)
    (refresh₁ refresh₂ : Bool) (record : Json) (now₁ now₂ : Instant) (db once : Database)
    (h : process ext kind refresh₁ record now₁ db = some once) :
    ∃ twice, process ext kind refresh₂ record now₂ once = some twice ∧
      twice.forgetUpdatedAt = once.forgetUpdatedAt ∧ twice.linkEvents = once.linkEvents := by
  obtain ⟨pl, aliases, hpl, haliases, rfl⟩ := process_eq_some.mp h
  obtain ⟨hextends, hnone, hattach⟩ := attachAliases_again law.additive haliases
  -- The native id is the same, and no call changes an alias.
  have hid : recordIdentity ext kind aliases record =
      (aliases, (recordIdentity ext kind db.aliases record).2) := nativeId_again law hextends hnone
  have hsame := apply_again pl kind refresh₁ refresh₂ now₁ now₂ (sourceRef record)
    (recordIdentity ext kind db.aliases record).2 aliases db
  have hevents := congrArg Database.linkEvents hsame
  refine ⟨_, process_eq_some.mpr ⟨pl, aliases, hpl, ?_, ?_⟩, hsame, hevents⟩
  · show attachAliases ext kind (recordIdentity ext kind aliases record).1 record
      (recordIdentity ext kind aliases record).2 = some aliases
    rw [hid]
    exact hattach
  · show _ = pl.apply kind refresh₂ now₂ (sourceRef record)
      (recordIdentity ext kind aliases record).2 aliases _
    rw [hid]

/-! ## On a release with everything -/

/-- The answers of `sampleIdentity.attach`, read off the table it leaves. -/
theorem sampleIdentity_answers (aliases : Aliases) (refs : List (AliasRef × Item)) (ref : AliasRef)
    (h : ref ∈ refs.map Prod.fst) :
    (refs.filterMap fun r => (aliases.lookup r.1).map fun item => (r.1, item)).lookup ref =
      aliases.lookup ref := by
  induction refs with
  | nil => cases h
  | cons r refs ih =>
    by_cases heq : ref = r.1
    · subst heq
      -- The first answer for a ref is the table's, and so is every later one.
      cases hlook : aliases.lookup r.1 with
      | some item => simp [hlook]
      | none =>
        rw [List.lookup_eq_none_iff]
        intro p hp
        obtain ⟨r', -, hr'⟩ := List.mem_filterMap.mp hp
        obtain ⟨item, hitem, rfl⟩ := Option.map_eq_some_iff.mp hr'
        refine bne_iff_ne.mpr fun heq => ?_
        rw [heq, hitem] at hlook
        cases hlook
    · have htail : ref ∈ refs.map Prod.fst := by
        rcases List.mem_cons.mp h with h | h
        · exact absurd h heq
        · exact h
      have hbeq : (ref == r.1) = false := beq_eq_false_iff_ne.mpr heq
      rw [List.filterMap_cons]
      cases hlook : aliases.lookup r.1 with
      | none => simpa [hlook] using ih htail
      | some item => simpa [hlook, List.lookup_cons, hbeq] using ih htail

theorem sampleIdentity_lawful : sampleIdentity.Lawful where
  resolve_existing aliases ref item h := by simp [sampleIdentity, h]
  resolve_answer aliases ref := by
    cases h : aliases.lookup ref with
    | some item => simp [sampleIdentity, h]
    | none => by_cases hp : ref.provider = "musicbrainz" <;> simp [sampleIdentity, h, hp]
  resolve_frame aliases ref other hne := by
    cases h : aliases.lookup ref with
    | some item => simp [sampleIdentity, h]
    | none =>
      by_cases hp : ref.provider = "musicbrainz"
      · simp [sampleIdentity, h, hp, Finmap.lookup_insert_of_ne _ hne]
      · simp [sampleIdentity, h, hp]
  resolve_mints aliases aliases' ref hnone hlook := by
    cases h : aliases.lookup ref with
    | some item => simp [sampleIdentity, h] at hnone
    | none => by_cases hp : ref.provider = "musicbrainz" <;> simp_all [sampleIdentity]
  attach_lookup aliases refs ref _ := Table.lookup_insertAllIfAbsent refs aliases ref
  attach_answer aliases refs ref _ hmem := sampleIdentity_answers _ refs ref hmem

/-- A release with a Discogs link, a two-entry medium, a relationship and two links. -/
def sampleRelease : Json :=
  .obj [("discogs_release_id", .int 910000001),
    ("external_links", .arr [.obj [("service", .str "wikidata"), ("url", .str "https://example.org/a")],
      .obj [("service", .str "wikidata"), ("url", .str "https://example.org/a")]]),
    ("id", .str "5b1c7e0a-2f4d-4a6b-8c3e-9d0f1a2b3c4d"),
    ("media", .obj [("items", .arr [
      .obj [("family", .str "vinyl"), ("medium", .str "lp"), ("qty", .int 1)],
      .obj [("family", .str "vinyl"), ("medium", .str "lp"), ("qty", .int 1)]])]),
    ("relations", .arr [.obj [("target_mbid", .str "6c2d8f1b-3a5e-4b7c-9d4f-0e1a2b3c4d5e"),
      ("target_type", .str "artist"), ("type", .str "producer")]])]

theorem redelivery_of_a_release :
    ∃ once twice, process sampleExternals .release true sampleRelease 1 {} = some once ∧
      process sampleExternals .release true sampleRelease 2 once = some twice ∧
      twice.forgetUpdatedAt = once.forgetUpdatedAt ∧ twice.linkEvents = once.linkEvents := by
  have hrun : (process sampleExternals .release true sampleRelease 1 {}).isSome = true := by
    decide +kernel
  obtain ⟨once, honce⟩ := Option.isSome_iff_exists.mp hrun
  obtain ⟨twice, htwice, hsame⟩ := redelivery_is_idempotent sampleExternals sampleIdentity_lawful
    .release true true sampleRelease 1 2 {} once honce
  exact ⟨once, twice, honce, htwice, hsame⟩

end Records
