/-
  The natural keys a record carries, stated on the message, and the code's rows.

  `CarriesRelationship` and `CarriesLink` say which keys a message stands for: which entries count,
  which end is the source, how a type is spelled, what an absent list of attributes means.  None of the
  code's own readings stands in them, so that a slip in the filter, the swap or a default would make
  what is proved of them false and not just move with it.

  The two differ in what they leave out.  The statement knows only well-formed members: a list of
  entries, each naming what it must.  The code loops over whatever `relations` holds, raises on an entry
  that is no object, and looks up types before it knows they are text.  `mem_iter_getD` closes that gap:
  what a loop meets among objects is what a list holds, since looping over an object or a text meets
  texts.  `relationshipRow_key` and `externalLinkRow_key` are then about one entry at a time.
-/
import MusicBrainzLoader.Records.Mirrored

namespace Records

/-! ## What a record carries -/

/-- The MBID a record goes by: its `mbid`, or else its `id`, or else the empty text. -/
def ownMbid (record : Json) : Json :=
  if record.has "mbid" then record.get "mbid"
  else if record.has "id" then record.get "id"
  else .str ""

/-- The value says something: it is not null, not false, not zero and not empty. -/
def Filled (value : Json) : Prop :=
  value ∉ ([.null, .bool false, .int 0, .float "0.0", .float "-0.0", .str "", .arr [], .obj []] :
    List Json)

/-- The value is neither a list nor an object. -/
def Plain (value : Json) : Prop := (∀ items, value ≠ .arr items) ∧ ∀ members, value ≠ .obj members

instance : DecidablePred Filled := fun value => inferInstanceAs (Decidable (value ∉ _))

instance : DecidablePred Plain
  | .arr items => isFalse fun h => h.1 items rfl
  | .obj members => isFalse fun h => h.2 members rfl
  | .null | .bool _ | .int _ | .float _ | .str _ =>
    isTrue ⟨fun _ => Json.noConfusion, fun _ => Json.noConfusion⟩

/-- The record's own end of its relationships. -/
def ownEnd (kind : EntityKind) (record : Json) : Endpoint := ⟨ownMbid record, .str kind.entityType⟩

/-- The end an entry names. -/
def namedEnd (entry : Json) : Endpoint := ⟨entry.get "target_mbid", entry.get "target_type"⟩

/-- Where the relationship of an entry starts: at the record, unless the entry is backward. -/
def sourceEnd (kind : EntityKind) (record entry : Json) : Endpoint :=
  if entry.get "direction" = .str "backward" then namedEnd entry else ownEnd kind record

/-- Where it ends. -/
def targetEnd (kind : EntityKind) (record entry : Json) : Endpoint :=
  if entry.get "direction" = .str "backward" then ownEnd kind record else namedEnd entry

/-- The key an entry of `relations` stands for.  It stands for one only when it names its target, the
    target's type and its own type. -/
structure NamesRelationship (casts : Casts) (kind : EntityKind) (record entry : Json)
    (key : RelationshipKey) : Prop where
  namesTarget : Filled (entry.get "target_mbid")
  namesTargetType : Filled (entry.get "target_type") ∧ Plain (entry.get "target_type")
  namesType : Filled (entry.get "type")
  sourceMbid : casts.uuid (sourceEnd kind record entry).mbid = some key.sourceMbid
  sourceEntityType : casts.scalar "musicbrainz.relationships" "source_entity_type"
    (canonical (sourceEnd kind record entry).entityType) = some key.sourceEntityType
  targetMbid : casts.uuid (targetEnd kind record entry).mbid = some key.targetMbid
  targetEntityType : casts.scalar "musicbrainz.relationships" "target_entity_type"
    (canonical (targetEnd kind record entry).entityType) = some key.targetEntityType
  relationshipType : casts.scalar "musicbrainz.relationships" "relationship_type"
    (entry.get "type") = some key.relationshipType
  /-- Absent and null attributes are none. -/
  attributes : (entry.get "attributes" = .null ∧ key.attributes = .arr []) ∨
    (entry.get "attributes" ≠ .null ∧ key.attributes = entry.get "attributes")
  beginDate : casts.scalar "musicbrainz.relationships" "begin_date" (entry.get "begin_date") =
    some key.beginDate
  endDate : casts.scalar "musicbrainz.relationships" "end_date" (entry.get "end_date") =
    some key.endDate

/-- The record has an entry that stands for the key. -/
def CarriesRelationship (casts : Casts) (kind : EntityKind) (record : Json)
    (key : RelationshipKey) : Prop :=
  ∃ entries entry, record.get "relations" = .arr entries ∧ entry ∈ entries ∧
    NamesRelationship casts kind record entry key

/-- The key an entry of `external_links` stands for, when it has a url and a service. -/
structure NamesLink (casts : Casts) (kind : EntityKind) (record entry : Json)
    (key : ExternalLinkKey) : Prop where
  namesUrl : Filled (entry.get "url")
  namesService : Filled (entry.get "service")
  mbid : casts.uuid (ownMbid record) = some key.mbid
  entityType : casts.scalar "musicbrainz.external_links" "entity_type" (.str kind.entityType) =
    some key.entityType
  serviceName : casts.scalar "musicbrainz.external_links" "service_name" (entry.get "service") =
    some key.serviceName
  url : casts.scalar "musicbrainz.external_links" "url" (entry.get "url") = some key.url

/-- The record has a link entry that stands for the key. -/
def CarriesLink (casts : Casts) (kind : EntityKind) (record : Json) (key : ExternalLinkKey) : Prop :=
  ∃ entries entry, record.get "external_links" = .arr entries ∧ entry ∈ entries ∧
    NamesLink casts kind record entry key

/-! ## The code's rows are the keys carried -/

/-- A stored key, column by column. -/
theorem relationshipKey_eq_some {casts : Casts} {v : RelationshipValues} {key : RelationshipKey} :
    casts.relationshipKey v = some key ↔
      casts.uuid v.sourceMbid = some key.sourceMbid ∧
      casts.scalar "musicbrainz.relationships" "source_entity_type" v.sourceEntityType =
        some key.sourceEntityType ∧
      casts.uuid v.targetMbid = some key.targetMbid ∧
      casts.scalar "musicbrainz.relationships" "target_entity_type" v.targetEntityType =
        some key.targetEntityType ∧
      casts.scalar "musicbrainz.relationships" "relationship_type" v.relationshipType =
        some key.relationshipType ∧
      v.attributes = key.attributes ∧
      casts.scalar "musicbrainz.relationships" "begin_date" v.beginDate = some key.beginDate ∧
      casts.scalar "musicbrainz.relationships" "end_date" v.endDate = some key.endDate := by
  simp only [Casts.relationshipKey, Option.bind_eq_bind, Option.bind_eq_some_iff, Option.pure_def,
    Option.some.injEq]
  constructor
  · rintro ⟨_, h1, _, h2, _, h3, _, h4, _, h5, _, h6, _, h7, rfl⟩
    exact ⟨h1, h2, h3, h4, h5, rfl, h6, h7⟩
  · rintro ⟨h1, h2, h3, h4, h5, h6, h7, h8⟩
    exact ⟨_, h1, _, h2, _, h3, _, h4, _, h5, _, h7, _, h8, by rw [h6]⟩

/-- A stored link key, column by column. -/
theorem externalLinkKey_eq_some {casts : Casts} {v : ExternalLinkValues} {key : ExternalLinkKey} :
    casts.externalLinkKey v = some key ↔
      casts.uuid v.mbid = some key.mbid ∧
      casts.scalar "musicbrainz.external_links" "entity_type" v.entityType = some key.entityType ∧
      casts.scalar "musicbrainz.external_links" "service_name" v.serviceName =
        some key.serviceName ∧
      casts.scalar "musicbrainz.external_links" "url" v.url = some key.url := by
  simp only [Casts.externalLinkKey, Option.bind_eq_bind, Option.bind_eq_some_iff, Option.pure_def,
    Option.some.injEq]
  constructor
  · rintro ⟨_, h1, _, h2, _, h3, _, h4, rfl⟩
    exact ⟨h1, h2, h3, h4⟩
  · rintro ⟨h1, h2, h3, h4⟩
    exact ⟨_, h1, _, h2, _, h3, _, h4, rfl⟩

/-- Python's truth of a value. -/
theorem truthy_iff (value : Json) : value.truthy = true ↔ Filled value := by
  unfold Filled
  cases value with
  | float repr => simp [Json.truthy, not_or]
  | _ => simp [Json.truthy]

/-- The filter of incomplete entries. -/
theorem completeRelationship_iff (entry : Json) :
    completeRelationship entry = true ↔ Filled (entry.get "target_mbid") ∧
      Filled (entry.get "target_type") ∧ Filled (entry.get "type") := by
  unfold completeRelationship
  rw [Bool.and_eq_true, Bool.and_eq_true, truthy_iff, truthy_iff, truthy_iff, and_assoc]

/-- A filled member is there, in an object. -/
theorem isObj_of_filled {entry : Json} {key : String} (h : Filled (entry.get key)) :
    entry.isObj = true := by
  cases entry with
  | obj members => rfl
  | _ => exact absurd (List.mem_cons_self) h

/-- A type can be looked up unless it is a list or an object. -/
theorem canonicalEntityType_eq_some_iff {t c : Json} :
    canonicalEntityType t = some c ↔ Plain t ∧ canonical t = c := by
  constructor
  · intro h
    refine ⟨⟨?_, ?_⟩, (canonicalEntityType_eq_some h).symm⟩
    · rintro items rfl
      cases h
    · rintro members rfl
      cases h
  · rintro ⟨⟨hitems, hmembers⟩, rfl⟩
    unfold canonicalEntityType canonical
    split
    · rfl
    · rename_i items
      exact absurd rfl (hitems items)
    · rename_i members
      exact absurd rfl (hmembers members)
    · rename_i hother _ _
      have hne : t ≠ .str "release_group" := hother
      rw [if_neg hne]

/-- A processor's own type is canonical. -/
@[simp] theorem canonical_entityType (kind : EntityKind) :
    canonical (.str kind.entityType) = .str kind.entityType := by
  cases kind <;> rfl

/-- The code's two nested defaults read the MBID the record goes by. -/
theorem mbid_eq_ownMbid (record : Json) : mbid record = ownMbid record := by
  unfold mbid ownMbid
  rw [Json.getD_eq_ite, Json.getD_eq_ite]

section Ends

variable (kind : EntityKind) (record entry : Json)

/-- The swap, column by column. -/
theorem sourceEnd_mbid : (sourceEnd kind record entry).mbid =
    if entry.get "direction" = .str "backward" then entry.get "target_mbid"
    else ownMbid record := by
  unfold sourceEnd
  split <;> rfl

theorem targetEnd_mbid : (targetEnd kind record entry).mbid =
    if entry.get "direction" = .str "backward" then ownMbid record
    else entry.get "target_mbid" := by
  unfold targetEnd
  split <;> rfl

theorem canonical_sourceEnd : canonical (sourceEnd kind record entry).entityType =
    if entry.get "direction" = .str "backward" then canonical (entry.get "target_type")
    else .str kind.entityType := by
  unfold sourceEnd
  split
  · rfl
  · exact canonical_entityType kind

theorem canonical_targetEnd : canonical (targetEnd kind record entry).entityType =
    if entry.get "direction" = .str "backward" then .str kind.entityType
    else canonical (entry.get "target_type") := by
  unfold targetEnd
  split
  · exact canonical_entityType kind
  · rfl

end Ends

/-- `_get_or` reads absent and null attributes as none. -/
theorem attributes_getOr (entry attributes : Json) :
    entry.getOr "attributes" (.arr []) = attributes ↔
      (entry.get "attributes" = .null ∧ attributes = .arr []) ∨
        (entry.get "attributes" ≠ .null ∧ attributes = entry.get "attributes") := by
  unfold Json.getOr
  cases h : entry.get "attributes" with
  | null => simp [eq_comm]
  | _ => simp [eq_comm]

/-- What a `for` loop over a member meets among objects is what the member lists: looping over an
    object meets its keys, over a text its characters. -/
theorem mem_iter_getD {record entry : Json} {key : String} (hobj : entry.isObj = true) :
    (∃ entries, (record.getD key (.arr [])).iter? = some entries ∧ entry ∈ entries) ↔
      ∃ entries, record.get key = .arr entries ∧ entry ∈ entries := by
  constructor
  · rintro ⟨entries, hiter, hmem⟩
    -- What can be iterated: a list, the keys of an object, the characters of a string. The latter two
    -- are texts, and name nothing.
    cases hread : record.getD key (.arr []) with
    | arr items =>
      rw [hread] at hiter
      obtain rfl := Option.some.inj hiter
      refine ⟨items, ?_, hmem⟩
      rw [Json.getD_eq_ite] at hread
      split at hread
      · exact hread
      · -- The default lists nothing, and the entry is listed.
        cases hread
        cases hmem
    | obj members =>
      rw [hread] at hiter
      obtain rfl := Option.some.inj hiter
      obtain ⟨member, -, rfl⟩ := List.mem_map.mp hmem
      cases hobj
    | str text =>
      rw [hread] at hiter
      obtain rfl := Option.some.inj hiter
      obtain ⟨c, -, rfl⟩ := List.mem_map.mp hmem
      cases hobj
    | _ =>
      rw [hread] at hiter
      cases hiter
  · rintro ⟨entries, hget, hmem⟩
    have hnull : record.get key ≠ .null := by
      rw [hget]
      exact Json.noConfusion
    refine ⟨entries, ?_, hmem⟩
    rw [Json.getD_of_get hnull, hget]
    rfl

/-- One entry's row and its key, against what the entry stands for. -/
theorem relationshipRow_key {casts : Casts} {kind : EntityKind} {record entry : Json}
    {key : RelationshipKey} :
    (∃ v, relationshipRow (mbid record) kind.entityType entry = some (some v) ∧
        casts.relationshipKey v = some key) ↔
      NamesRelationship casts kind record entry key := by
  unfold relationshipRow
  rw [mbid_eq_ownMbid]
  by_cases hcomplete : completeRelationship entry = true
  · obtain ⟨hmbid, htypeOf, htype⟩ := (completeRelationship_iff entry).mp hcomplete
    have hread : entry.getD "type" (.str "") = entry.get "type" :=
      Json.getD_of_get (Json.ne_null_of_truthy ((truthy_iff _).mpr htype)) _
    rw [isObj_of_filled hmbid, hcomplete, hread]
    cases hcanonical : canonicalEntityType (entry.get "target_type") with
    | none =>
      -- A type that cannot be looked up: the row is not made, and the entry names none.
      simp only [Bool.not_true, Bool.false_eq_true, if_false, Option.bind_eq_bind, Option.bind_none,
        reduceCtorEq, false_and, exists_false, false_iff]
      intro hnames
      have hsome := canonicalEntityType_eq_some_iff.mpr ⟨hnames.namesTargetType.2, rfl⟩
      rw [hcanonical] at hsome
      cases hsome
    | some targetType =>
      obtain ⟨hplain, rfl⟩ := canonicalEntityType_eq_some_iff.mp hcanonical
      simp only [Bool.not_true, Bool.false_eq_true, if_false, Option.bind_eq_bind,
        Option.bind_some, Option.pure_def, Option.some.injEq, exists_eq_left',
        relationshipKey_eq_some, attributes_getOr]
      constructor
      · rintro ⟨h1, h2, h3, h4, h5, h6, h7, h8⟩
        refine ⟨hmbid, ⟨htypeOf, hplain⟩, htype, ?_, ?_, ?_, ?_, h5, h6, h7, h8⟩
        · rw [sourceEnd_mbid]
          simpa using h1
        · rw [canonical_sourceEnd]
          simpa using h2
        · rw [targetEnd_mbid]
          simpa using h3
        · rw [canonical_targetEnd]
          simpa using h4
      · intro h
        have h1 := h.sourceMbid
        have h2 := h.sourceEntityType
        have h3 := h.targetMbid
        have h4 := h.targetEntityType
        rw [sourceEnd_mbid] at h1
        rw [canonical_sourceEnd] at h2
        rw [targetEnd_mbid] at h3
        rw [canonical_targetEnd] at h4
        exact ⟨by simpa using h1, by simpa using h2, by simpa using h3, by simpa using h4,
          h.relationshipType, h.attributes, h.beginDate, h.endDate⟩
  · -- An incomplete entry makes no row, and names none.
    have hnone : ¬ NamesRelationship casts kind record entry key := fun h =>
      hcomplete ((completeRelationship_iff entry).mpr ⟨h.namesTarget, h.namesTargetType.1, h.namesType⟩)
    rw [Bool.not_eq_true] at hcomplete
    rw [hcomplete]
    simp only [hnone, iff_false, not_exists, not_and, Bool.not_false, if_true]
    intro v hrow
    split at hrow <;> cases hrow

/-- **A link's row is made for the keys its entry names.** -/
theorem externalLinkRow_key {casts : Casts} {kind : EntityKind} {record entry : Json}
    {key : ExternalLinkKey} :
    (∃ v, externalLinkRow (mbid record) kind.entityType entry = some (some v) ∧
        casts.externalLinkKey v = some key) ↔ NamesLink casts kind record entry key := by
  unfold externalLinkRow
  rw [mbid_eq_ownMbid]
  -- A link that names both is stored under what it names; any other is skipped.
  by_cases hnamed : Filled (entry.get "url") ∧ Filled (entry.get "service")
  · obtain ⟨hurl, hservice⟩ := hnamed
    have hu : entry.getD "url" (.str "") = entry.get "url" :=
      Json.getD_of_get (Json.ne_null_of_truthy ((truthy_iff _).mpr hurl)) _
    have hs : entry.getD "service" (.str "") = entry.get "service" :=
      Json.getD_of_get (Json.ne_null_of_truthy ((truthy_iff _).mpr hservice)) _
    rw [isObj_of_filled hurl, (truthy_iff _).mpr hurl, (truthy_iff _).mpr hservice, hu, hs]
    simp only [Bool.not_true, Bool.and_self, Bool.false_eq_true, if_false, Option.some.injEq,
      exists_eq_left', externalLinkKey_eq_some]
    constructor
    · rintro ⟨h1, h2, h3, h4⟩
      exact ⟨hurl, hservice, h1, h2, h3, h4⟩
    · intro h
      exact ⟨h.mbid, h.entityType, h.serviceName, h.url⟩
  -- Skipped or not iterable, it stands for no key.
  · have hnone : ¬ NamesLink casts kind record entry key := fun h =>
      hnamed ⟨h.namesUrl, h.namesService⟩
    rw [← truthy_iff, ← truthy_iff, ← Bool.and_eq_true, Bool.not_eq_true] at hnamed
    rw [hnamed]
    simp only [hnone, iff_false, not_exists, not_and, Bool.not_false, if_true]
    intro v hrow
    split at hrow <;> cases hrow

end Records
