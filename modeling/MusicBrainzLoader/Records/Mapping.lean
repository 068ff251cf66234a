/-
  From a record message to the statements its transaction runs (`_record_processing.py`).

  * the small readings: `mbid`, `canonicalEntityType`, `lifeSpan`, `storedData`, `sourceRef`;
  * `relationshipRows`, `externalLinkRows` — the child rows, incomplete entries filtered out;
  * `mediaEdgeRows`, `releaseMediaBlock` — the MusicBrainz half of `graph.issued_on`;
  * `entityValues` — the parameters of each kind's upsert;
  * `recordStatements` — the whole pipeline of one record, in order.

  `none` is a Python exception (a list entry that is not an object, an unhashable type, a value that
  cannot be iterated), which aborts the record's transaction.  `Externals` gathers the code that is
  not in this repository.

  Nothing is cast here and nothing is read from the database, so each function is the source's,
  branch by branch, with the reads in its order: `Json.get` for `dict.get`, `Json.truthy` for a bare
  test, `Json.iter` for a loop.  Where the source would raise on a malformed message the branch
  answers `none`, and it is the caller's `none` too; a reader can follow a malformed record through
  to the statement it stops at.

  The lemmas at the end of a block are of two kinds only: what a comprehension keeps (`mem_of_mapM`,
  `mem_of_filtered`), and that `media_edge_rows` keeps one row per medium.  What the rows mean is
  proved in the modules about relationships, links and media.
-/
import Mathlib.Data.List.Sort
import Mathlib.Data.String.Basic
import MusicBrainzLoader.Records.Database

namespace Records

/-! ## Code from elsewhere -/

/-- `common.identity`: each call takes the alias table and leaves another one. -/
structure Identity where
  /-- `resolve_aliases(conn, [ref]).get(ref)`. -/
  resolve : Aliases → AliasRef → Aliases × Option Item
  /-- `attach_aliases(conn, refs)`: the refs with the item to attach each to, distinct. -/
  attach : Aliases → List (AliasRef × Item) → Aliases × List (AliasRef × Item)

/-- What the processors use of other packages. -/
structure Externals where
  casts : Casts
  identity : Identity
  /-- `common.identifiers.alias_refs_for_release`; `none` when it rejects the block. -/
  aliasRefsForRelease : Json → Option (List AliasRef)
  /-- The media mapper the processor is constructed with. -/
  mediaMapper : Json → Json
  /-- `common.media.medium_label`; `none` is the `KeyError`. -/
  mediumLabel : String → Option String

/-! ## Small readings of a record -/

/-- `record.get("mbid", record.get("id", ""))`. -/
def mbid (record : Json) : Json := record.getD "mbid" (record.getD "id" (.str ""))

/-- `_canonical_entity_type`; a list or an object is unhashable. -/
def canonicalEntityType : Json → Option Json
  | .str "release_group" => some (.str "release-group")
  | .arr _ => none
  | .obj _ => none
  | entityType => some entityType

/-- `_source_ref`. -/
def sourceRef (record : Json) : String :=
  match record.get "dump_version" with
  | .str version => if version = "" then "unversioned" else version
  | _ => "unversioned"

/-- `_stored_data`. -/
def storedData (record : Json) : Json := record.without ["relations", "external_links"]

/-- `_life_span`. -/
def lifeSpan (record : Json) : Json :=
  if (record.get "life_span").isObj then record.get "life_span" else .obj []

/-! ## Child rows -/

/-- A relationship entry with its three required fields. -/
def completeRelationship (relationship : Json) : Bool :=
  (relationship.get "target_mbid").truthy && (relationship.get "target_type").truthy &&
    (relationship.get "type").truthy

/-- One entry of `relations`: the row it becomes, none when it is incomplete. -/
def relationshipRow (sourceMbid : Json) (sourceType : String) (relationship : Json) :
    Option (Option RelationshipValues) :=
  if !relationship.isObj then none
  else if !completeRelationship relationship then some none
  else do
    let targetType ← canonicalEntityType (relationship.get "target_type")
    let target := relationship.get "target_mbid"
    let backward := relationship.get "direction" = .str "backward"
    return some {
      sourceMbid := if backward then target else sourceMbid
      sourceEntityType := if backward then targetType else .str sourceType
      targetMbid := if backward then sourceMbid else target
      targetEntityType := if backward then .str sourceType else targetType
      relationshipType := relationship.getD "type" (.str "")
      attributes := relationship.getOr "attributes" (.arr [])
      beginDate := relationship.get "begin_date"
      endDate := relationship.get "end_date"
      ended := relationship.getOr "ended" (.bool false) }

/-- The rows `insert_relationships` writes. -/
def relationshipRows (sourceMbid : Json) (sourceType : String) (relationships : Json) :
    Option (List RelationshipValues) := do
  let rows ← (← relationships.iter?).mapM (relationshipRow sourceMbid sourceType)
  return rows.filterMap id

/-- One entry of `external_links`. -/
def externalLinkRow (mbid : Json) (entityType : String) (link : Json) :
    Option (Option ExternalLinkValues) :=
  if !link.isObj then none
  else if !((link.get "url").truthy && (link.get "service").truthy) then some none
  else some (some {
    mbid
    entityType := .str entityType
    url := link.getD "url" (.str "")
    serviceName := link.getD "service" (.str "") })

/-- The rows `insert_external_links` writes. -/
def externalLinkRows (mbid : Json) (entityType : String) (links : Json) :
    Option (List ExternalLinkValues) := do
  let rows ← (← links.iter?).mapM (externalLinkRow mbid entityType)
  return rows.filterMap id

/-- What a traversal of a list collects. -/
theorem mem_of_mapM {α β : Type} {f : α → Option β} {xs : List α} {ys : List β}
    (h : xs.mapM f = some ys) (y : β) : y ∈ ys ↔ ∃ x ∈ xs, f x = some y := by
  induction xs generalizing ys with
  | nil =>
    obtain rfl := Option.some.inj h
    simp
  | cons x xs ih =>
    rw [List.mapM_cons] at h
    obtain ⟨z, hz, h⟩ := Option.bind_eq_some_iff.mp h
    obtain ⟨zs, hzs, h⟩ := Option.bind_eq_some_iff.mp h
    obtain rfl := Option.some.inj h
    rw [List.mem_cons, ih hzs]
    constructor
    · rintro (rfl | ⟨x', hx', hy⟩)
      · exact ⟨x, List.mem_cons_self, hz⟩
      · exact ⟨x', List.mem_cons_of_mem _ hx', hy⟩
    · rintro ⟨x', hx', hy⟩
      rcases List.mem_cons.mp hx' with rfl | hx'
      · exact Or.inl (Option.some.inj (hy.symm.trans hz))
      · exact Or.inr ⟨x', hx', hy⟩

/-- The rows a filtering traversal keeps. -/
theorem mem_of_filtered {β : Type} {f : Json → Option (Option β)} {j : Json} {rows : List β}
    (h : (do let rows ← (← j.iter?).mapM f; return rows.filterMap id) = some rows) (v : β) :
    v ∈ rows ↔ ∃ entries entry, j.iter? = some entries ∧ entry ∈ entries ∧ f entry = some (some v) := by
  obtain ⟨entries, hentries, h⟩ := Option.bind_eq_some_iff.mp h
  obtain ⟨options, hoptions, h⟩ := Option.bind_eq_some_iff.mp h
  obtain rfl := Option.some.inj h
  rw [List.mem_filterMap]
  constructor
  · rintro ⟨option, hmem, hv⟩
    obtain rfl : option = some v := hv
    obtain ⟨entry, hentry, hf⟩ := (mem_of_mapM hoptions _).mp hmem
    exact ⟨entries, entry, hentries, hentry, hf⟩
  · rintro ⟨entries', entry, hentries', hentry, hf⟩
    obtain rfl : entries = entries' := Option.some.inj (hentries.symm.trans hentries')
    exact ⟨some v, (mem_of_mapM hoptions _).mpr ⟨entry, hentry, hf⟩, rfl⟩

/-! ## Release media -/

/-- `MEDIA_SOURCE`. -/
def MEDIA_SOURCE : String := "musicbrainz"

/-- `_medium_quantity`: a boolean, a non-integer and a value out of range count as one. -/
def mediumQuantity : Json → Nat
  | .int n => if 1 ≤ n ∧ n ≤ 999999999 then n.toNat else 1
  | _ => 1

/-- One row of `media_edge_rows`. -/
structure MediaRow where
  medium : String
  family : String
  label : String
  qty : Nat
deriving DecidableEq

/-- What a media item contributes: nothing unless its medium and family are non-empty strings. -/
def mediaEntry (item : Json) : Option (String × String × Nat) :=
  match item.isObj, item.get "medium", item.get "family" with
  | true, .str medium, .str family =>
    if medium = "" ∨ family = "" then none
    else some (medium, family, mediumQuantity (item.get "qty"))
  | _, _, _ => none

/-- `_medium_label`: an id the vocabulary lacks is its own label. -/
def Externals.label (ext : Externals) (medium : String) : String :=
  (ext.mediumLabel medium).getD medium

/-- The rows so far, with one more entry counted in. -/
def addMediaEntry (ext : Externals) (rows : List MediaRow) (entry : String × String × Nat) :
    List MediaRow :=
  if rows.any (·.medium = entry.1) then
    rows.map fun row => if row.medium = entry.1 then { row with qty := row.qty + entry.2.2 } else row
  else rows ++ [⟨entry.1, entry.2.1, ext.label entry.1, entry.2.2⟩]

/-- The items of a media block: `media.get("items") or []`. -/
def mediaItems (media : Json) : Option (List Json) :=
  if (media.get "items").truthy then (media.get "items").iter? else some []

/-- `media_edge_rows`: one row per medium, ordered by medium. -/
def mediaEdgeRows (ext : Externals) (media : Json) : Option (List MediaRow) := do
  let rows := ((← mediaItems media).filterMap mediaEntry).foldl (addMediaEntry ext) []
  return rows.insertionSort fun a b => a.medium ≤ b.medium

/-- Counting an entry in keeps one row per medium. -/
theorem addMediaEntry_nodup (ext : Externals) {rows : List MediaRow} (entry : String × String × Nat)
    (h : (rows.map (·.medium)).Nodup) : ((addMediaEntry ext rows entry).map (·.medium)).Nodup := by
  unfold addMediaEntry
  split
  · have hsame : (rows.map fun row =>
        if row.medium = entry.1 then { row with qty := row.qty + entry.2.2 } else row).map
          (·.medium) = rows.map (·.medium) := by
      rw [List.map_map]
      refine List.map_congr_left fun row _ => ?_
      show (if row.medium = entry.1 then { row with qty := row.qty + entry.2.2 } else row).medium = _
      split <;> rfl
    rw [hsame]
    exact h
  · rename_i hnew
    rw [List.map_append, List.nodup_append]
    refine ⟨h, List.nodup_singleton _, ?_⟩
    rintro a ha b hb rfl
    obtain ⟨row, hrow, rfl⟩ := List.mem_map.mp ha
    have hb : row.medium = entry.1 := by simpa using hb
    exact hnew (List.any_eq_true.mpr ⟨row, hrow, by simpa using hb⟩)

theorem foldl_addMediaEntry_nodup (ext : Externals) (entries : List (String × String × Nat))
    {rows : List MediaRow} (h : (rows.map (·.medium)).Nodup) :
    ((entries.foldl (addMediaEntry ext) rows).map (·.medium)).Nodup := by
  induction entries generalizing rows with
  | nil => exact h
  | cons entry entries ih => exact ih (addMediaEntry_nodup ext entry h)

/-- A block's rows have distinct media, so the insert never meets a primary key twice. -/
theorem mediaEdgeRows_nodup {ext : Externals} {media : Json} {rows : List MediaRow}
    (h : mediaEdgeRows ext media = some rows) : (rows.map (·.medium)).Nodup := by
  obtain ⟨items, -, hrows⟩ := Option.bind_eq_some_iff.mp h
  obtain rfl := Option.some.inj hrows
  have hperm := List.perm_insertionSort (fun a b : MediaRow => a.medium ≤ b.medium)
    ((items.filterMap mediaEntry).foldl (addMediaEntry ext) [])
  rw [(hperm.map (·.medium)).nodup_iff]
  exact foldl_addMediaEntry_nodup ext _ List.nodup_nil

/-- `release_media_block`: the producer's block, or one derived for a legacy event. -/
def releaseMediaBlock (ext : Externals) (record : Json) : Json :=
  if (record.get "media").isObj then record.get "media"
  else
    let mediaRaw := record.get "media_raw"
    ext.mediaMapper (.obj [("media", if mediaRaw.truthy then mediaRaw else .arr []),
      ("packaging", record.get "packaging"), ("release_group", record.get "release_group"),
      ("status", record.get "status")])

/-- The statements of `write_release_media`: none without a Discogs release key. -/
def releaseMediaStatements (ext : Externals) (record media : Json) : Option (List Statement) :=
  match record.get "discogs_release_id" with
  | .null => some []
  | discogsReleaseId => do
    let releaseId := discogsReleaseId.pyStr
    let rows ← mediaEdgeRows ext media
    let families := (rows.map (·.family)).dedup.insertionSort (· ≤ ·)
    return families.map .upsertMediaFamily ++
      rows.map (fun row => .upsertMedium row.medium row.family row.label) ++
      [.lockReleaseMedia releaseId MEDIA_SOURCE, .deleteReleaseMedia releaseId MEDIA_SOURCE] ++
      rows.map (fun row => .insertReleaseMedium releaseId row.medium MEDIA_SOURCE row.qty)

/-! ## Entity rows -/

/-- `record.get(field, "")` for each of the fields, under its column's name. -/
def textColumns (record : Json) (fields : List (String × String)) : List (String × Json) :=
  fields.map fun (column, field) => (column, record.getD field (.str ""))

/-- `begin_date`, `end_date` and `ended`, falling back to the life span. -/
def spanColumns (record : Json) : List (String × Json) :=
  let span := lifeSpan record
  [("begin_date", record.getOr "begin_date" (span.get "begin")),
    ("end_date", record.getOr "end_date" (span.get "end")),
    ("ended", record.getOr "ended" (span.getOr "ended" (.bool false)))]

/-- The parameters `process_artist` upserts. -/
def artistValues (record : Json) (gmItemId : Option Item) : EntityValues where
  mbid := mbid record
  columns := textColumns record [("name", "name"), ("sort_name", "sort_name"), ("type", "mb_type"),
      ("gender", "gender")] ++ spanColumns record ++
    textColumns record [("area", "area"), ("begin_area", "begin_area"), ("end_area", "end_area"),
      ("disambiguation", "disambiguation")]
  documents := [("aliases", record.getOr "aliases" (.arr [])), ("tags", record.getOr "tags" (.arr [])),
    ("data", storedData record)]
  discogsId := record.get "discogs_artist_id"
  gmItemId
  sourceRef := sourceRef record

/-- The parameters `process_label` upserts. -/
def labelValues (record : Json) (gmItemId : Option Item) : EntityValues where
  mbid := mbid record
  columns := textColumns record [("name", "name"), ("type", "mb_type")] ++
    [("label_code", record.get "label_code")] ++ spanColumns record ++
    textColumns record [("area", "area"), ("disambiguation", "disambiguation")]
  documents := [("data", storedData record)]
  discogsId := record.get "discogs_label_id"
  gmItemId
  sourceRef := sourceRef record

/-- The parameters `process_release` upserts. -/
def releaseValues (record media : Json) (gmItemId : Option Item) : EntityValues where
  mbid := mbid record
  columns := textColumns record [("name", "name")] ++ [("barcode", record.get "barcode")] ++
    textColumns record [("status", "status")] ++
    [("release_group_mbid", record.get "release_group_mbid")]
  documents := [("media", media), ("data", storedData record)]
  discogsId := record.get "discogs_release_id"
  gmItemId
  sourceRef := sourceRef record

/-- The parameters `process_release_group` upserts. -/
def releaseGroupValues (record : Json) (gmItemId : Option Item) : EntityValues where
  mbid := mbid record
  columns := textColumns record [("name", "name"), ("type", "mb_type")] ++
    [("first_release_date", record.get "first_release_date")] ++
    textColumns record [("disambiguation", "disambiguation")]
  documents := [("secondary_types", record.getOr "secondary_types" (.arr [])),
    ("data", storedData record)]
  discogsId := record.get "discogs_master_id"
  gmItemId
  sourceRef := sourceRef record

/-- The upsert of each kind. -/
def entityValues (ext : Externals) (kind : EntityKind) (record : Json) (gmItemId : Option Item) :
    EntityValues :=
  match kind with
  | .artist => artistValues record gmItemId
  | .label => labelValues record gmItemId
  | .releaseGroup => releaseGroupValues record gmItemId
  | .release => releaseValues record (releaseMediaBlock ext record) gmItemId

@[simp] theorem entityValues_mbid (ext : Externals) (kind : EntityKind) (record : Json)
    (gm : Option Item) : (entityValues ext kind record gm).mbid = mbid record := by
  cases kind <;> rfl

@[simp] theorem entityValues_discogsId (ext : Externals) (kind : EntityKind) (record : Json)
    (gm : Option Item) :
    (entityValues ext kind record gm).discogsId = record.get kind.discogsColumn := by
  cases kind <;> rfl

@[simp] theorem entityValues_gmItemId (ext : Externals) (kind : EntityKind) (record : Json)
    (gm : Option Item) : (entityValues ext kind record gm).gmItemId = gm := by
  cases kind <;> rfl

@[simp] theorem entityValues_sourceRef (ext : Externals) (kind : EntityKind) (record : Json)
    (gm : Option Item) : (entityValues ext kind record gm).sourceRef = sourceRef record := by
  cases kind <;> rfl

/-! ## The pipeline of a record -/

/-- The child rows of a record. -/
def childStatements (kind : EntityKind) (record : Json) : Option (List Statement) := do
  let relationships ←
    relationshipRows (mbid record) kind.entityType (record.getD "relations" (.arr []))
  let links ← externalLinkRows (mbid record) kind.entityType (record.getD "external_links" (.arr []))
  return relationships.map .upsertRelationship ++ links.map .upsertExternalLink

/-- A release's media statements; the other kinds have none. -/
def mediaStatements (ext : Externals) (kind : EntityKind) (record : Json) : Option (List Statement) :=
  match kind with
  | .release => releaseMediaStatements ext record (releaseMediaBlock ext record)
  | _ => some []

/-- Everything a record's pipeline sends, in order. -/
def recordStatements (ext : Externals) (kind : EntityKind) (record : Json) (gmItemId : Option Item) :
    Option (List Statement) := do
  let media ← mediaStatements ext kind record
  let children ← childStatements kind record
  return .upsertEntity kind (entityValues ext kind record gmItemId) :: media ++ children

end Records
