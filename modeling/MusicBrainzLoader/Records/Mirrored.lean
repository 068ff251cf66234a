/-
  Both endpoints of a relationship report it, each from its own side, and `insert_relationships` maps
  the two reports to one row.

  `SameRelationship` says what two reports agree on, without the code's row: a backward report states
  the reverse of what a forward one does, an entity type may be spelled either way, and absent
  attributes are empty ones.  The natural keys are equal exactly then.

  Each direction of the equivalence has its own difficulty.  From the reports to the keys, the code
  looks at one report at a time: the swap of a backward entry, the canonical spelling of the entry's
  type (the record's own is canonical already) and the default of its attributes have to come out
  the same from two sides that differ in all three.  From the keys to the reports, nothing may be
  lost on the way: two spellings share a canonical one only if they are of one kind
  (`canonical_eq_iff`), and two attribute values share a default only if both mean none
  (`attributes_eq_iff`).

  A key is eight values as the message has them.  PostgreSQL casts them on storing, so
  equal keys are stored under one key (`relationshipKey_of_naturalKey`); keys that differ may still
  be cast to one, and nothing is said of them.
-/
import MusicBrainzLoader.Records.Mapping

namespace Records

/-! ## `insert_relationships` -/

/-- `_canonical_entity_type`, of a type in text. -/
def canonicalTypeText (entityType : String) : String :=
  if entityType = "release_group" then "release-group" else entityType

/-- The rows `insert_relationships` writes for a source type in either spelling. -/
def insertRelationships (sourceMbid : Json) (sourceType : String) (relationships : Json) :
    Option (List RelationshipValues) :=
  relationshipRows sourceMbid (canonicalTypeText sourceType) relationships

/-- The processors call it with a canonical type, so what the properties below say of a source type in
    either spelling is said of the rows the processors write. -/
theorem insertRelationships_kind (sourceMbid : Json) (kind : EntityKind) (relationships : Json) :
    insertRelationships sourceMbid kind.entityType relationships =
      relationshipRows sourceMbid kind.entityType relationships := by
  cases kind <;> rfl

/-- The parameters of `musicbrainz.relationship_key`. -/
structure NaturalKey where
  sourceMbid : Json
  sourceEntityType : Json
  targetMbid : Json
  targetEntityType : Json
  relationshipType : Json
  attributes : Json
  beginDate : Json
  endDate : Json
deriving DecidableEq

def RelationshipValues.naturalKey (v : RelationshipValues) : NaturalKey where
  sourceMbid := v.sourceMbid
  sourceEntityType := v.sourceEntityType
  targetMbid := v.targetMbid
  targetEntityType := v.targetEntityType
  relationshipType := v.relationshipType
  attributes := v.attributes
  beginDate := v.beginDate
  endDate := v.endDate

/-- What a row is stored under is decided by its natural key. -/
theorem relationshipKey_of_naturalKey (casts : Casts) {v v' : RelationshipValues}
    (h : v.naturalKey = v'.naturalKey) : casts.relationshipKey v = casts.relationshipKey v' := by
  simp only [RelationshipValues.naturalKey, NaturalKey.mk.injEq] at h
  obtain ⟨h1, h2, h3, h4, h5, h6, h7, h8⟩ := h
  unfold Casts.relationshipKey
  rw [h1, h2, h3, h4, h5, h6, h7, h8]

/-! ## Reports -/

/-- A complete report of a relationship, from one of its endpoints. -/
structure Report where
  mbid : Json
  entityType : String
  entry : Json
  isObj : entry.isObj = true
  complete : completeRelationship entry = true
  /-- Its target's type can be looked up. -/
  typed : (canonicalEntityType (entry.get "target_type")).isSome = true
  /-- Its attributes are absent, null or a list. -/
  attributes : entry.get "attributes" = .null ∨ ∃ items, entry.get "attributes" = .arr items

/-- An endpoint as a report names it. -/
structure Endpoint where
  mbid : Json
  entityType : Json

def Report.own (r : Report) : Endpoint := ⟨r.mbid, .str r.entityType⟩

def Report.other (r : Report) : Endpoint := ⟨r.entry.get "target_mbid", r.entry.get "target_type"⟩

def Report.isBackward (r : Report) : Prop := r.entry.get "direction" = .str "backward"

instance (r : Report) : Decidable r.isBackward := inferInstanceAs (Decidable (_ = _))

/-- Where the relationship starts: a backward report reverses it. -/
def Report.source (r : Report) : Endpoint := if r.isBackward then r.other else r.own

def Report.target (r : Report) : Endpoint := if r.isBackward then r.own else r.other

/-- One kind of entity, in either spelling of a release group. -/
def SameType (t t' : Json) : Prop :=
  t = t' ∨ (t = .str "release_group" ∨ t = .str "release-group") ∧
    (t' = .str "release_group" ∨ t' = .str "release-group")

structure SameEndpoint (e e' : Endpoint) : Prop where
  mbid : e.mbid = e'.mbid
  entityType : SameType e.entityType e'.entityType

/-- Equal attributes; absent, null and the empty list are the same. -/
def SameAttributes (a a' : Json) : Prop :=
  a = a' ∨ (a = .null ∨ a = .arr []) ∧ (a' = .null ∨ a' = .arr [])

/-- **Two reports state the same directed relationship.** -/
structure SameRelationship (r r' : Report) : Prop where
  source : SameEndpoint r.source r'.source
  target : SameEndpoint r.target r'.target
  relationshipType : r.entry.get "type" = r'.entry.get "type"
  beginDate : r.entry.get "begin_date" = r'.entry.get "begin_date"
  endDate : r.entry.get "end_date" = r'.entry.get "end_date"
  attributes : SameAttributes (r.entry.get "attributes") (r'.entry.get "attributes")

/-! ## Types, endpoints and attributes -/

/-- The canonical spelling of a type. -/
def canonical (t : Json) : Json := if t = .str "release_group" then .str "release-group" else t

theorem canonicalEntityType_eq_some {t c : Json} (h : canonicalEntityType t = some c) :
    c = canonical t := by
  unfold canonicalEntityType at h
  split at h
  · exact (Option.some.inj h).symm
  · cases h
  · cases h
  · rename_i hother _ _
    have hne : t ≠ .str "release_group" := hother
    obtain rfl := Option.some.inj h
    exact (if_neg hne).symm

theorem canonicalTypeText_eq (entityType : String) :
    Json.str (canonicalTypeText entityType) = canonical (.str entityType) := by
  unfold canonicalTypeText canonical
  by_cases h : entityType = "release_group"
  · rw [if_pos h, if_pos (congrArg Json.str h)]
  · rw [if_neg h, if_neg fun hstr => h (Json.str.inj hstr)]

/-- Two types have one canonical spelling exactly when they are one kind. -/
theorem canonical_eq_iff {t t' : Json} : canonical t = canonical t' ↔ SameType t t' := by
  unfold canonical SameType
  -- Two spellings are one type: each of the two sides has it or not.
  by_cases h : t = .str "release_group"
  · rw [if_pos h]
    by_cases h' : t' = .str "release_group"
    · rw [if_pos h', h, h']
      simp
    · rw [if_neg h', h]
      constructor
      · intro heq
        exact .inr ⟨.inl rfl, .inr heq.symm⟩
      · rintro (heq | ⟨-, heq | heq⟩)
        · exact absurd heq.symm h'
        · exact absurd heq h'
        · exact heq.symm
  · rw [if_neg h]
    by_cases h' : t' = .str "release_group"
    · rw [if_pos h', h']
      constructor
      · intro heq
        exact .inr ⟨.inr heq, .inl rfl⟩
      · rintro (heq | ⟨heq | heq, -⟩)
        · exact absurd heq h
        · exact absurd heq h
        · exact heq
    · rw [if_neg h']
      constructor
      · exact .inl
      · rintro (heq | ⟨heq | heq, heq' | heq'⟩)
        · exact heq
        · exact absurd heq h
        · exact absurd heq h
        · exact absurd heq' h'
        · rw [heq, heq']

/-- The endpoint with its canonical type. -/
def Endpoint.canonical (e : Endpoint) : Json × Json := (e.mbid, Records.canonical e.entityType)

theorem endpoint_canonical_iff {e e' : Endpoint} : e.canonical = e'.canonical ↔ SameEndpoint e e' := by
  unfold Endpoint.canonical
  rw [Prod.mk.injEq, canonical_eq_iff]
  exact ⟨fun h => ⟨h.1, h.2⟩, fun h => ⟨h.mbid, h.entityType⟩⟩

/-- The attributes a row gets. -/
theorem attributes_eq_iff (r r' : Report) :
    r.entry.getOr "attributes" (.arr []) = r'.entry.getOr "attributes" (.arr []) ↔
      SameAttributes (r.entry.get "attributes") (r'.entry.get "attributes") := by
  unfold Json.getOr SameAttributes
  rcases r.attributes with h | ⟨items, h⟩ <;> rcases r'.attributes with h' | ⟨items', h'⟩ <;>
    rw [h, h'] <;> simp [eq_comm]
  -- Two lists: the empty one is equal to itself.
  rintro rfl rfl
  rfl

/-! ## The row of a report -/

/-- The row a report becomes. -/
def Report.values (r : Report) : RelationshipValues where
  sourceMbid := r.source.mbid
  sourceEntityType := canonical r.source.entityType
  targetMbid := r.target.mbid
  targetEntityType := canonical r.target.entityType
  relationshipType := r.entry.get "type"
  attributes := r.entry.getOr "attributes" (.arr [])
  beginDate := r.entry.get "begin_date"
  endDate := r.entry.get "end_date"
  ended := r.entry.getOr "ended" (.bool false)

/-- It is the one the code makes. -/
theorem relationshipRow_report (r : Report) :
    relationshipRow r.mbid (canonicalTypeText r.entityType) r.entry = some (some r.values) := by
  obtain ⟨targetType, htarget⟩ := Option.isSome_iff_exists.mp r.typed
  have hcanonical := canonicalEntityType_eq_some htarget
  have htruthy : (r.entry.get "type").truthy = true := by
    have hcomplete := r.complete
    unfold completeRelationship at hcomplete
    exact (Bool.and_eq_true_iff.mp hcomplete).2
  have htype : r.entry.getD "type" (.str "") = r.entry.get "type" :=
    Json.getD_of_get (Json.ne_null_of_truthy htruthy) _
  unfold relationshipRow
  rw [r.isObj, r.complete, htarget]
  simp only [Bool.not_true, Bool.false_eq_true, if_false, Option.bind_eq_bind, Option.bind_some,
    Option.pure_def, Option.some.injEq, htype, canonicalTypeText_eq, hcanonical]
  unfold Report.values Report.source Report.target Report.isBackward
  by_cases hbackward : r.entry.get "direction" = .str "backward"
  · simp only [hbackward, if_true]
    rfl
  · simp only [hbackward, if_false]
    rfl

/-- A report among others has its row among theirs. -/
theorem report_mem {r : Report} {entries : List Json} {rows : List RelationshipValues}
    (hentry : r.entry ∈ entries)
    (hrows : insertRelationships r.mbid r.entityType (.arr entries) = some rows) :
    r.values ∈ rows := by
  exact (mem_of_filtered hrows r.values).mpr
    ⟨entries, r.entry, rfl, hentry, relationshipRow_report r⟩

theorem insertRelationships_report (r : Report) :
    insertRelationships r.mbid r.entityType (.arr [r.entry]) = some [r.values] := by
  unfold insertRelationships relationshipRows
  simp [Json.iter?, relationshipRow_report]

/-- The natural keys of two reports agree on what the reports agree on. -/
theorem naturalKey_eq_iff (r r' : Report) :
    r.values.naturalKey = r'.values.naturalKey ↔ SameRelationship r r' := by
  have hkey : r.values.naturalKey = r'.values.naturalKey ↔
      r.source.canonical = r'.source.canonical ∧ r.target.canonical = r'.target.canonical ∧
        r.entry.get "type" = r'.entry.get "type" ∧
        r.entry.getOr "attributes" (.arr []) = r'.entry.getOr "attributes" (.arr []) ∧
        r.entry.get "begin_date" = r'.entry.get "begin_date" ∧
        r.entry.get "end_date" = r'.entry.get "end_date" := by
    simp only [RelationshipValues.naturalKey, Report.values, Endpoint.canonical, NaturalKey.mk.injEq,
      Prod.mk.injEq, and_assoc]
  rw [hkey, endpoint_canonical_iff, endpoint_canonical_iff, attributes_eq_iff]
  constructor
  · rintro ⟨hsource, htarget, htype, hattributes, hbegin, hend⟩
    exact ⟨hsource, htarget, htype, hbegin, hend, hattributes⟩
  · intro h
    exact ⟨h.source, h.target, h.relationshipType, h.attributes, h.beginDate, h.endDate⟩

/-- **Mirrored reports meet in one row, and nothing else does.**  Two reports are mapped to one natural
    key exactly when they state the same directed relationship; among other reports of one message each
    keeps its row; and one natural key is one stored row, whatever the casts. -/
theorem mirrored_reports_meet (r r' : Report) :
    ∃ v v', insertRelationships r.mbid r.entityType (.arr [r.entry]) = some [v] ∧
      insertRelationships r'.mbid r'.entityType (.arr [r'.entry]) = some [v'] ∧
      (v.naturalKey = v'.naturalKey ↔ SameRelationship r r') ∧
      (∀ entries rows, r.entry ∈ entries →
        insertRelationships r.mbid r.entityType (.arr entries) = some rows → v ∈ rows) ∧
      (SameRelationship r r' → ∀ casts : Casts, casts.relationshipKey v = casts.relationshipKey v') := by
  refine ⟨r.values, r'.values, insertRelationships_report r, insertRelationships_report r',
    naturalKey_eq_iff r r', fun entries rows => report_mem, fun hsame casts => ?_⟩
  exact relationshipKey_of_naturalKey casts ((naturalKey_eq_iff r r').mpr hsame)

/-- A tribute, from the artist's side and from the release group's. -/
def tributeForward : Report where
  mbid := .str "artist-mbid-1"
  entityType := "artist"
  entry := .obj [("target_mbid", .str "rg-mbid-1"), ("target_type", .str "release_group"),
    ("type", .str "tribute")]
  isObj := rfl
  complete := by decide
  typed := by decide
  attributes := .inl (by decide)

def tributeBackward : Report where
  mbid := .str "rg-mbid-1"
  entityType := "release-group"
  entry := .obj [("attributes", .arr []), ("direction", .str "backward"),
    ("target_mbid", .str "artist-mbid-1"), ("target_type", .str "artist"), ("type", .str "tribute")]
  isObj := rfl
  complete := by decide
  typed := by decide
  attributes := .inr ⟨[], by decide⟩

example : tributeForward.values.naturalKey = tributeBackward.values.naturalKey := by decide

end Records
