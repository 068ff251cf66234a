/-
  Which entity an acknowledged record is written under.

  The handler validates the body's `id`; the processors read `mbid`, and `id` only where there is no
  `mbid`.  A record that carries both is therefore written under its `mbid`, whatever `id` was
  validated (`written_iff_validated`).

  "Written under" is several things at once: the entity row's key, the alias its native id is kept
  under, the external links, and one end of each relationship, which of the two depends on the entry.
  All of them come from the one MBID the processor has read, three of them through a cast and the alias
  as it stands; so what they denote is what the MBID does, as far as casting a UUID keeps it
  (`ReadsUuids`).

  Where no other `mbid` is there the two identifiers are one value, and nothing has to be assumed.
  Where one is, a row can be compared with the validated `id` only through what both denote: texts
  differ, a cast normalizes, and the alias is not cast at all.  So the statement is about numbers,
  `WrittenUnder` says that each of the four places denotes one, and the alias, which stands for the
  MBID as it is, carries the equivalence back from the rows to the record (`writtenUnder_iff`).
-/
import MusicBrainzLoader.Delivery.Handler
import MusicBrainzLoader.Records.NativeIds
import MusicBrainzLoader.Records.Reconciliation

namespace Delivery

open Purge (DataType)
open Records

/-! ## An acknowledged record -/

/-- The rest of the record path: the processor in its transaction.  `none` is a call that does not
    acknowledge. -/
def transact (ext : Externals) (refresh : Bool) (now : Records.Instant) (db : Database) :
    Handled → Option (Database × DeliveryResult)
  | .processing kind data => (process ext kind refresh data now db).map fun db =>
      (db, { settlement := .ack, outcome := "processed" })
  | _ => none

/-- A committed transaction acknowledges. -/
theorem transact_processing {ext : Externals} {refresh : Bool} {now : Records.Instant}
    {db db' : Database} {kind : EntityKind} {data : Json}
    (h : process ext kind refresh data now db = some db') :
    transact ext refresh now db (.processing kind data) =
      some (db', { settlement := .ack, outcome := "processed" }) := by
  show (process ext kind refresh data now db).map _ = _
  rw [h]
  rfl

/-- The row a complete entry of `relations` becomes, and the entry. -/
structure Reports (ext : Externals) (kind : EntityKind) (data entry : Json)
    (row : RelationshipKey × Json) : Prop where
  entry_mem : ∃ entries, (data.getD "relations" (.arr [])).iter? = some entries ∧ entry ∈ entries
  written : ∃ values, relationshipRow (mbid data) kind.entityType entry = some (some values) ∧
    ext.casts.relationship values = some row

/-- The record's own endpoint: the source, unless the entry reports the other direction. -/
def ownEndpoint (entry : Json) (key : RelationshipKey) : Uuid :=
  if entry.get "direction" = .str "backward" then key.targetMbid else key.sourceMbid

/-- **Everything a record's plan is written under denotes `n`**: its entity row, the `musicbrainz` alias
    its native id is kept under, its external links, and its own endpoint of each relationship. -/
structure WrittenUnder (ext : Externals) (kind : EntityKind) (data : Json) (pl : Plan) (n : Int) :
    Prop where
  entity : Uuid.parse pl.mbid = some n
  musicbrainzAlias : uuidOf (NativeIds.Tx.mk kind data .starting none ∅).ref.externalId = some n
  externalLinks : ∀ key ∈ pl.externalLinks, Uuid.parse key.mbid = some n
  relationships : ∀ row ∈ pl.relationships, (∃ entry, Reports ext kind data entry row) ∧
    ∀ entry, Reports ext kind data entry row → Uuid.parse (ownEndpoint entry row.1) = some n

/-- What PostgreSQL's `uuid` input accepts is a string `uuid.UUID` reads too, and what it stores denotes
    the same UUID. -/
def ReadsUuids (casts : Casts) : Prop :=
  ∀ value uuid, casts.uuid value = some uuid → ∃ n, uuidOf value = some n ∧ Uuid.parse uuid = some n

/-! ## What the rows carry -/

section Rows

variable {ext : Externals} {kind : EntityKind} {data : Json} {pl : Plan} {n : Int}

/-- A stored UUID denotes what the value did. -/
theorem ReadsUuids.stored (hcasts : ReadsUuids ext.casts) {value : Json} {uuid : Uuid}
    (hvalue : uuidOf value = some n) (hcast : ext.casts.uuid value = some uuid) :
    Uuid.parse uuid = some n := by
  obtain ⟨m, hread, hstored⟩ := hcasts value uuid hcast
  rw [hvalue] at hread
  rw [hstored, hread]

/-- A relationship row carries the record's MBID at the end the entry's direction says. -/
theorem ownEndpoint_cast {entry : Json} {row : RelationshipKey × Json}
    (h : Reports ext kind data entry row) :
    ext.casts.uuid (mbid data) = some (ownEndpoint entry row.1) := by
  obtain ⟨values, hrow, hcast⟩ := h.written
  obtain ⟨key, hkey, hcast⟩ := Option.bind_eq_some_iff.mp hcast
  obtain ⟨ended, -, hcast⟩ := Option.bind_eq_some_iff.mp hcast
  obtain rfl := Option.some.inj hcast
  have hnames := relationshipRow_key.mp ⟨values, hrow, hkey⟩
  have hsource := hnames.sourceMbid
  have htarget := hnames.targetMbid
  rw [sourceEnd_mbid] at hsource
  rw [targetEnd_mbid] at htarget
  rw [mbid_eq_ownMbid]
  unfold ownEndpoint
  by_cases hbackward : entry.get "direction" = .str "backward"
  · rw [if_pos hbackward] at htarget ⊢
    exact htarget
  · rw [if_neg hbackward] at hsource ⊢
    exact hsource

/-- Every relationship row comes from an entry. -/
theorem exists_reports {values : List RelationshipValues}
    (hrows : relationshipRows (mbid data) kind.entityType (data.getD "relations" (.arr [])) =
      some values)
    (hcasts : values.mapM ext.casts.relationship = some pl.relationships)
    {row : RelationshipKey × Json} (hrow : row ∈ pl.relationships) :
    ∃ entry, Reports ext kind data entry row := by
  obtain ⟨v, hv, hcast⟩ := (mem_of_mapM hcasts row).mp hrow
  obtain ⟨entries, entry, hentries, hentry, hmade⟩ := (mem_of_filtered hrows v).mp hv
  exact ⟨entry, ⟨entries, hentries, hentry⟩, v, hmade, hcast⟩

/-- An external link carries the record's MBID. -/
theorem externalLink_cast {values : List ExternalLinkValues}
    (hrows : externalLinkRows (mbid data) kind.entityType (data.getD "external_links" (.arr [])) =
      some values)
    (hcasts : values.mapM ext.casts.externalLinkKey = some pl.externalLinks)
    {key : ExternalLinkKey} (hkey : key ∈ pl.externalLinks) :
    ext.casts.uuid (mbid data) = some key.mbid := by
  obtain ⟨v, hv, hcast⟩ := (mem_of_mapM hcasts key).mp hkey
  obtain ⟨_, entry, -, -, hmade⟩ := (mem_of_filtered hrows v).mp hv
  rw [mbid_eq_ownMbid]
  exact (externalLinkRow_key.mp ⟨v, hmade, hcast⟩).mbid

/-- A plan is written under what its record's MBID denotes, all of it. -/
theorem writtenUnder_iff (hcasts : ReadsUuids ext.casts) (hplan : plan ext kind data = some pl) :
    WrittenUnder ext kind data pl n ↔ uuidOf (mbid data) = some n := by
  obtain ⟨relationshipValues, linkValues, -, hrelationships, hlinks, hmbid, -, -, hrelationshipCasts,
    hlinkCasts, -⟩ := plan_eq_some.mp hplan
  constructor
  · -- The alias is kept under the record's MBID as it stands, without a cast.
    intro h
    exact h.musicbrainzAlias
  · intro hdenotes
    refine ⟨hcasts.stored hdenotes hmbid, hdenotes, fun key hkey => ?_, fun row hrow => ⟨?_, ?_⟩⟩
    · exact hcasts.stored hdenotes (externalLink_cast hlinks hlinkCasts hkey)
    · exact exists_reports hrelationships hrelationshipCasts hrow
    · exact fun entry hreports => hcasts.stored hdenotes (ownEndpoint_cast hreports)

/-- The MBID the processors read denotes what the `id` does, as long as no other `mbid` is there. -/
theorem uuidOf_mbid_iff (hid : uuidOf (data.get "id") = some n) :
    uuidOf (mbid data) = some n ↔ data.has "mbid" = false ∨ uuidOf (data.get "mbid") = some n := by
  cases data with
  | obj members =>
    show uuidOf ((members.lookup "mbid").getD ((members.lookup "id").getD (.str ""))) = some n ↔
      (members.lookup "mbid").isSome = false ∨ uuidOf ((members.lookup "mbid").getD .null) = some n
    -- `record.get("mbid", record.get("id", ""))`: a null `mbid` is read too, and names no UUID.
    cases members.lookup "mbid" with
    | some value => simp
    | none =>
      have hread : uuidOf ((members.lookup "id").getD .null) = some n := hid
      cases hmember : members.lookup "id" with
      | none =>
        rw [hmember] at hread
        cases hread
      | some value =>
        rw [hmember] at hread
        simpa using hread
  | _ => cases hid

end Rows

/-! ## What the handler acknowledges -/

section Acknowledged

variable {loads : Loads} {ext : Externals} {delay : Nat} {s : Service} {body : ByteArray}
  {dataType : DataType} {refresh : Bool} {now : Records.Instant} {db : Database}

/-- A record that reaches its processor has an `id` that names a UUID. -/
theorem handleRecord_processing {kind : EntityKind} {data data' : Json}
    (h : (handleRecord s dataType data).2 = .processing kind data') :
    data' = data ∧ ∃ n, uuidOf (data.get "id") = some n := by
  unfold handleRecord at h
  split at h
  · cases h
  split at h
  · cases h
  split at h
  · cases h
  rename_i huuid
  split at h
  · cases h
  split at h
  · cases h
  split at h
  · cases h
  cases h
  have hsome : uuidOf (data.get "id") ≠ none := fun hnone => huuid (Option.isNone_iff_eq_none.mpr hnone)
  exact ⟨rfl, Option.ne_none_iff_exists'.mp hsome⟩

/-- Whatever the message, a processor runs only under a validated `id`. -/
theorem processing_id {kind : EntityKind} {data : Json}
    (h : (handleDataMessage loads delay s body dataType).2 = .processing kind data) :
    ∃ n, uuidOf (data.get "id") = some n := by
  unfold handleDataMessage at h
  split at h
  · cases h
  split at h
  · cases h
  split at h
  · cases h
  split at h
  · cases h
  obtain ⟨rfl, hid⟩ := handleRecord_processing h
  exact hid

/-- **What the handler validated is what is written, exactly when the record carries no other `mbid`.**
    For a delivery acknowledged as processed: the record, the UUID its `id` denotes, and what its
    transaction wrote. -/
theorem written_iff_validated (hcasts : ReadsUuids ext.casts) {db' : Database} {result : DeliveryResult}
    (hack : transact ext refresh now db (handleDataMessage loads delay s body dataType).2 =
      some (db', result)) :
    ∃ kind data n pl aliases,
      (handleDataMessage loads delay s body dataType).2 = .processing kind data ∧
        uuidOf (data.get "id") = some n ∧ plan ext kind data = some pl ∧
        db' = pl.apply kind refresh now (sourceRef data) (recordIdentity ext kind db.aliases data).2
          aliases db ∧
        (WrittenUnder ext kind data pl n ↔
          data.has "mbid" = false ∨ uuidOf (data.get "mbid") = some n) := by
  -- Only what is handed to a processor commits anything.
  cases hhandled : (handleDataMessage loads delay s body dataType).2 with
  | processing kind data =>
    rw [hhandled] at hack
    obtain ⟨after, hprocess, heq⟩ := Option.map_eq_some_iff.mp hack
    obtain ⟨rfl, -⟩ := Prod.mk.inj heq
    -- The processor's transaction has a plan, and validation has read the `id`.
    obtain ⟨pl, aliases, hplan, -, rfl⟩ := process_eq_some.mp hprocess
    obtain ⟨n, hid⟩ := processing_id hhandled
    refine ⟨kind, data, n, pl, aliases, rfl, hid, hplan, rfl, ?_⟩
    rw [writtenUnder_iff hcasts hplan, uuidOf_mbid_iff hid]
  | _ =>
    rw [hhandled] at hack
    cases hack

end Acknowledged

/-! ## A record with two identifiers -/

/-- The casts of a database that stores canonical UUID text. -/
def uuidExternals : Externals :=
  { sampleExternals with casts := { sampleCasts with
      uuid := fun value => (sampleCasts.uuid value).filter fun uuid => (Uuid.parse uuid).isSome } }

/-- These casts read what `uuid.UUID` reads. -/
theorem uuidExternals_reads : ReadsUuids uuidExternals.casts := by
  intro value uuid h
  obtain ⟨hcast, hparse⟩ := Option.filter_eq_some_iff.mp h
  obtain ⟨n, hn⟩ := Option.isSome_iff_exists.mp hparse
  cases value with
  | str text =>
    have htext : (if text.toList.length = 36 then some text else none) = some uuid := hcast
    split at htext
    · obtain rfl := Option.some.inj htext
      exact ⟨n, (uuidOf_str text).trans hn, hn⟩
    · cases htext
  | _ => cases hcast

/-- An artist whose `id` and `mbid` differ. -/
def twoIdentifiers : Json :=
  .obj [("id", .str "5b1c7e0a-2f4d-4a6b-8c3e-9d0f1a2b3c4d"),
    ("mbid", .str "6c2d8f1b-3a5e-4b7c-9d4f-0e1a2b3c4d5e"), ("name", .str "Artist")]

theorem twoIdentifiers_committed :
    (process uuidExternals .artist true twoIdentifiers 1 {}).isSome = true := by
  decide +kernel

/-- It is acknowledged as processed, and written under the `mbid` nobody validated. -/
theorem twoIdentifiers_written :
    ∃ db' pl aliases,
      transact uuidExternals true 1 {}
          (handleDataMessage (fun _ => .ok twoIdentifiers) 0 {} ByteArray.empty "artists").2 =
        some (db', { settlement := .ack, outcome := "processed" }) ∧
      plan uuidExternals .artist twoIdentifiers = some pl ∧
      db' = pl.apply .artist true 1 (sourceRef twoIdentifiers)
        (recordIdentity uuidExternals .artist ∅ twoIdentifiers).2 aliases {} ∧
      (uuidOf (twoIdentifiers.get "id")).isSome ∧
      ¬ ∃ n, uuidOf (twoIdentifiers.get "id") = some n ∧
        WrittenUnder uuidExternals .artist twoIdentifiers pl n := by
  obtain ⟨db', hprocess⟩ := Option.isSome_iff_exists.mp twoIdentifiers_committed
  obtain ⟨pl, aliases, hplan, -, hdb⟩ := process_eq_some.mp hprocess
  refine ⟨db', pl, aliases, ?_, hplan, hdb, by decide +kernel, ?_⟩
  -- Validation passes it: the `id` is a UUID.
  · have hhandled : (handleDataMessage (fun _ => .ok twoIdentifiers) 0 {} ByteArray.empty
        "artists").2 = .processing .artist twoIdentifiers := by
      decide +kernel
    rw [hhandled]
    exact transact_processing hprocess
  -- What it is written under is the `mbid`, which is another one.
  · rintro ⟨n, hid, hwritten⟩
    have hmbid : uuidOf (mbid twoIdentifiers) = some n := hwritten.musicbrainzAlias
    have hdiffer : uuidOf (mbid twoIdentifiers) ≠ uuidOf (twoIdentifiers.get "id") := by
      decide +kernel
    exact hdiffer (hmbid.trans hid.symm)

/-- An artist with an `id` only, with a relation each way and a link. -/
def oneIdentifier : Json :=
  .obj [("external_links", .arr [.obj [("service", .str "wikidata"),
      ("url", .str "https://example.org/a")]]),
    ("id", .str "5b1c7e0a-2f4d-4a6b-8c3e-9d0f1a2b3c4d"), ("name", .str "Artist"),
    ("relations", .arr [
      .obj [("target_mbid", .str "6c2d8f1b-3a5e-4b7c-9d4f-0e1a2b3c4d5e"),
        ("target_type", .str "label"), ("type", .str "founder")],
      .obj [("direction", .str "backward"),
        ("target_mbid", .str "7d3e9a2c-4b6f-4c8d-8e5a-1f2b3c4d5e6f"),
        ("target_type", .str "artist"), ("type", .str "tribute")]])]

/-- It is written under its `id`: the row, the link and the artist's end of both relations. -/
theorem oneIdentifier_written :
    ∃ n pl aliases,
      uuidOf (oneIdentifier.get "id") = some n ∧
      plan uuidExternals .artist oneIdentifier = some pl ∧
      process uuidExternals .artist true oneIdentifier 1 {} =
        some (pl.apply .artist true 1 (sourceRef oneIdentifier)
          (recordIdentity uuidExternals .artist ∅ oneIdentifier).2 aliases {}) ∧
      pl.relationships.length = 2 ∧ pl.externalLinks.length = 1 ∧
      WrittenUnder uuidExternals .artist oneIdentifier pl n := by
  have hrun : (process uuidExternals .artist true oneIdentifier 1 {}).isSome = true := by
    decide +kernel
  obtain ⟨db', hprocess⟩ := Option.isSome_iff_exists.mp hrun
  have hhandled : (handleDataMessage (fun _ => .ok oneIdentifier) 0 {} ByteArray.empty
      "artists").2 = .processing .artist oneIdentifier := by
    decide +kernel
  have hack : transact uuidExternals true 1 {} (handleDataMessage (fun _ => .ok oneIdentifier) 0 {}
      ByteArray.empty "artists").2 = some (db', { settlement := .ack, outcome := "processed" }) := by
    rw [hhandled]
    exact transact_processing hprocess
  -- How many rows it comes to is evaluated; that they are under the `id` is the theorem's.
  have hrows : (plan uuidExternals .artist oneIdentifier).map (fun pl =>
      (pl.relationships.length, pl.externalLinks.length)) = some (2, 1) := by
    decide +kernel
  obtain ⟨kind, data, n, pl, aliases, hprocessing, hid, hplan, rfl, hiff⟩ :=
    written_iff_validated uuidExternals_reads hack
  obtain ⟨rfl, rfl⟩ := Handled.processing.inj (hhandled.symm.trans hprocessing)
  rw [hplan] at hrows
  obtain ⟨hrelationships, hlinks⟩ := Prod.mk.inj (Option.some.inj hrows)
  exact ⟨n, pl, aliases, hid, hplan, hprocess, hrelationships, hlinks, hiff.mpr (.inl rfl)⟩

end Delivery
