/-
  An explicit null means absent, with two exceptions.

  The producer emits a null for every field a dump omits.  Most readings make no difference: `get`
  answers null for both (`ReadsAlike`).  `relations` and `external_links` are read with a default that
  stands for a missing key only, so a null there is iterated, and the transaction fails.

  "For every subset of the fields" is not an induction over the subset.  A nulled record and one without
  the fields are compared reading by reading: whatever a processor looks at, it looks at through `get`
  under a fixed name, or through the list of relations, whose entries are nulled in their turn.  Each
  reading that is made that way comes to the same on both (`*_alike`), hence the two plans, hence the two
  transactions; what is left is to see that the two exceptional lists are read in no other way.

  One field of the record is not the processor's to read, and shows the difference: `data` stores the
  record as it came.  The comparison is therefore up to that column.
-/
import MusicBrainzLoader.Records.Process

namespace Records

/-! ## Nulled and removed fields -/

/-- The optional structured fields of a record. -/
def OPTIONAL_FIELDS : List String :=
  ["aliases", "tags", "secondary_types", "life_span", "begin_date", "end_date", "ended", "relations",
    "external_links", "media", "media_raw", "barcode", "catalog_numbers"]

/-- The optional fields of a relationship. -/
def OPTIONAL_RELATIONSHIP_FIELDS : List String :=
  ["attributes", "ended", "begin_date", "end_date", "direction"]

/-- Each member's value changed. -/
def mapMembers (f : String → Json → Json) : Json → Json
  | .obj members => .obj (members.map fun m => (m.1, f m.1 m.2))
  | j => j

/-- The members named set to null. -/
def nulled (fields : List String) : Json → Json :=
  mapMembers fun key value => if key ∈ fields then .null else value

/-- Each entry of a list changed. -/
def mapEntries (f : Nat → Json → Json) : Json → Json
  | .arr entries => .arr (entries.mapIdx f)
  | j => j

/-- The value of `relations` has its entries changed. -/
def inRelations (f : Nat → Json → Json) (key : String) (value : Json) : Json :=
  if key = "relations" then mapEntries f value else value

/-- Each entry of `relations` changed. -/
def mapRelations (f : Nat → Json → Json) : Json → Json := mapMembers (inRelations f)

/-- A record with these of its fields, and these of its `i`-th relationship's, set to null. -/
def nulledRecord (fields : List String) (entryFields : Nat → List String) (record : Json) : Json :=
  nulled fields (mapRelations (fun i => nulled (entryFields i)) record)

/-- The record without them. -/
def removedRecord (fields : List String) (entryFields : Nat → List String) (record : Json) : Json :=
  (mapRelations (fun i entry => entry.without (entryFields i)) record).without fields

/-- A document without these null members. -/
def dropNulls (fields : List String) : Json → Json
  | .obj members => .obj (members.filter fun m => !(decide (m.1 ∈ fields) && decide (m.2 = .null)))
  | j => j

/-- The stored `data` document without them. -/
def EntityRow.dropNulls (row : EntityRow) (fields : List String) : EntityRow :=
  { row with documents := row.documents.map fun d =>
      if d.1 = "data" then (d.1, Records.dropNulls fields d.2) else d }

/-- **Two transactions on one database come to the same**: neither commits, or both do, and then every
    table holds the same, apart from the null members of the one `data` document they wrote. -/
inductive SameButNulls (fields : List String) (kind : EntityKind) (db : Database) :
    Option Database → Option Database → Prop
  | failed : SameButNulls fields kind db none none
  | committed (d d' : Database) (id : Uuid) (row : EntityRow)
      (hentities : d.entities = Function.update db.entities kind ((db.entities kind).insert id row))
      (hentities' : d'.entities =
        Function.update db.entities kind ((db.entities kind).insert id (row.dropNulls fields)))
      (hrest : { d with entities := d'.entities } = d') :
      SameButNulls fields kind db (some d) (some d')

/-! ## Members -/

/-- Nulling keeps the names. -/
theorem lookup_mapMembers (f : String → Json → Json) (members : List (String × Json)) (key : String) :
    (members.map fun m => (m.1, f m.1 m.2)).lookup key = (members.lookup key).map (f key) := by
  induction members with
  | nil => rfl
  | cons m members ih =>
    rw [List.map_cons, List.lookup_cons, List.lookup_cons, ih]
    cases hkey : key == m.1 with
    | true =>
      obtain rfl := eq_of_beq hkey
      rfl
    | false => rfl

/-- Removing keeps the others. -/
theorem lookup_without (fields : List String) (members : List (String × Json)) (key : String) :
    (members.filter fun m => !fields.contains m.1).lookup key =
      if key ∈ fields then none else members.lookup key := by
  induction members with
  | nil => exact (ite_self _).symm
  | cons m members ih =>
    rw [List.lookup_cons]
    cases hkey : key == m.1 with
    | true =>
      obtain rfl := eq_of_beq hkey
      by_cases hfield : m.1 ∈ fields
      · rw [List.filter_cons_of_neg (by simpa using hfield), ih, if_pos hfield, if_pos hfield]
      · rw [List.filter_cons_of_pos (by simpa using hfield), List.lookup_cons, hkey, if_neg hfield]
    | false =>
      by_cases hfield : m.1 ∈ fields
      · rw [List.filter_cons_of_neg (by simpa using hfield), ih]
      · rw [List.filter_cons_of_pos (by simpa using hfield), List.lookup_cons, hkey, ih]

/-- A nulled member is null if it is there. -/
theorem lookup_nulled (fields : List String) (f : String → Json → Json)
    (members : List (String × Json)) (key : String) :
    ((members.map fun m => (m.1, f m.1 m.2)).map fun m =>
        (m.1, if m.1 ∈ fields then Json.null else m.2)).lookup key =
      (members.lookup key).map fun value => if key ∈ fields then .null else f key value := by
  rw [lookup_mapMembers fun key value => if key ∈ fields then .null else value, lookup_mapMembers,
    Option.map_map]
  rfl

/-- A removed member is not there. -/
theorem lookup_removed (fields : List String) (f : String → Json → Json)
    (members : List (String × Json)) (key : String) :
    ((members.map fun m => (m.1, f m.1 m.2)).filter fun m => !fields.contains m.1).lookup key =
      if key ∈ fields then none else (members.lookup key).map (f key) := by
  rw [lookup_without, lookup_mapMembers]

/-! ## Readings that cannot tell them apart -/

/-- Two values read alike, but for the members to skip: every member through `get`, and the members that
    are not among the fields through any default. -/
structure ReadsAlike (fields skip : List String) (j j' : Json) : Prop where
  isObj : j.isObj = j'.isObj
  get : ∀ key, key ∉ skip → j.get key = j'.get key
  getD : ∀ key, key ∉ fields → key ∉ skip → ∀ default, j.getD key default = j'.getD key default
  has : ∀ key, key ∉ fields → key ∉ skip → j.has key = j'.has key

/-- Nulled and removed members read alike, where the others' values do. -/
theorem readsAlike_mapMembers (fields skip : List String) (f f' : String → Json → Json)
    (hsame : ∀ key, key ∉ skip → f key = f' key) (j : Json) :
    ReadsAlike fields skip (nulled fields (mapMembers f j)) ((mapMembers f' j).without fields) := by
  cases j with
  | obj members =>
    refine ⟨rfl, fun key hkey => ?_, fun key hfield hkey default => ?_, fun key hfield hkey => ?_⟩
    · show Option.getD (List.lookup key _) _ = Option.getD (List.lookup key _) _
      rw [lookup_nulled, lookup_removed, hsame key hkey]
      by_cases hfield : key ∈ fields
      · rw [if_pos hfield]
        cases members.lookup key with
        | none => rfl
        | some value => exact if_pos hfield
      · rw [if_neg hfield]
        simp only [hfield, if_false]
    · show Option.getD (List.lookup key _) _ = Option.getD (List.lookup key _) _
      rw [lookup_nulled, lookup_removed, hsame key hkey, if_neg hfield]
      simp only [hfield, if_false]
    · show Option.isSome (List.lookup key _) = Option.isSome (List.lookup key _)
      rw [lookup_nulled, lookup_removed, if_neg hfield, Option.isSome_map, Option.isSome_map]
  | _ => exact ⟨rfl, fun _ _ => rfl, fun _ _ _ _ => rfl, fun _ _ _ => rfl⟩

/-- Nulled and removed members of one value. -/
theorem readsAlike_nulled (fields : List String) (j : Json) :
    ReadsAlike fields [] (nulled fields j) (j.without fields) := by
  have hsame : mapMembers (fun _ value => value) j = j := by
    cases j with
    | obj members => exact congrArg Json.obj (List.map_id members)
    | _ => rfl
  have halike := readsAlike_mapMembers fields [] (fun _ value => value) (fun _ value => value)
    (fun _ _ => rfl) j
  rw [hsame] at halike
  exact halike

/-- Only `relations` has entries to null. -/
theorem inRelations_of_ne {key : String} (hkey : key ≠ "relations") (f f' : Nat → Json → Json) :
    inRelations f key = inRelations f' key := by
  funext value
  unfold inRelations
  rw [if_neg hkey, if_neg hkey]

/-- The two records: every field but `relations`. -/
theorem readsAlike_record (fields : List String) (entryFields : Nat → List String) (record : Json) :
    ReadsAlike fields ["relations"] (nulledRecord fields entryFields record)
      (removedRecord fields entryFields record) := by
  refine readsAlike_mapMembers fields ["relations"] _ _ (fun key hkey => ?_) record
  exact inRelations_of_ne (fun heq => hkey (heq ▸ List.mem_singleton_self _)) _ _

/-! ## Relationships -/

/-- Two entries that read alike become one row. -/
theorem relationshipRow_alike {fields : List String} (hfields : ∀ f ∈ fields,
    f ∈ OPTIONAL_RELATIONSHIP_FIELDS) {entry entry' : Json} (h : ReadsAlike fields [] entry entry')
    (sourceMbid : Json) (sourceType : String) :
    relationshipRow sourceMbid sourceType entry = relationshipRow sourceMbid sourceType entry' := by
  have hget (key : String) : entry.get key = entry'.get key := h.get key List.not_mem_nil
  have htype : entry.getD "type" (.str "") = entry'.getD "type" (.str "") := by
    refine h.getD "type" (fun hmem => ?_) List.not_mem_nil _
    exact absurd (hfields "type" hmem) (by decide)
  unfold relationshipRow completeRelationship Json.getOr
  rw [h.isObj, htype]
  simp only [hget]

/-- So do the entries of two lists. -/
theorem mapM_entries {fields : Nat → List String}
    (hfields : ∀ i, ∀ f ∈ fields i, f ∈ OPTIONAL_RELATIONSHIP_FIELDS) (sourceMbid : Json)
    (sourceType : String) (entries : List Json) :
    (entries.mapIdx fun i => nulled (fields i)).mapM (relationshipRow sourceMbid sourceType) =
      (entries.mapIdx fun i entry => entry.without (fields i)).mapM
        (relationshipRow sourceMbid sourceType) := by
  induction entries generalizing fields with
  | nil => rfl
  | cons entry entries ih =>
    rw [List.mapIdx_cons, List.mapIdx_cons, List.mapM_cons, List.mapM_cons,
      relationshipRow_alike (hfields 0) (readsAlike_nulled (fields 0) entry),
      ih fun i => hfields (i + 1)]

/-- Entries with nulled fields make the rows that entries without them make. -/
theorem relationshipRows_alike {fields : Nat → List String}
    (hfields : ∀ i, ∀ f ∈ fields i, f ∈ OPTIONAL_RELATIONSHIP_FIELDS) (sourceMbid : Json)
    (sourceType : String) (relationships : Json) :
    relationshipRows sourceMbid sourceType (mapEntries (fun i => nulled (fields i)) relationships) =
      relationshipRows sourceMbid sourceType
        (mapEntries (fun i entry => entry.without (fields i)) relationships) := by
  cases relationships with
  | arr entries =>
    unfold relationshipRows mapEntries Json.iter?
    simp only [Option.bind_eq_bind, Option.bind_some]
    rw [mapM_entries hfields]
  | _ => rfl

/-! ## Records -/

section Record

variable {fields : List String} {record record' : Json}

/-- A member that no optional field names reads alike. -/
theorem ReadsAlike.required (h : ReadsAlike fields ["relations"] record record')
    (hfields : ∀ f ∈ fields, f ∈ OPTIONAL_FIELDS) {key : String} (hkey : key ∉ OPTIONAL_FIELDS)
    (default : Json) : record.getD key default = record'.getD key default := by
  refine h.getD key (fun hmem => hkey (hfields key hmem)) (fun hmem => ?_) default
  obtain rfl := List.mem_singleton.mp hmem
  exact hkey (by decide)

/-- Any other field reads the same. -/
theorem ReadsAlike.optional (h : ReadsAlike fields ["relations"] record record') {key : String}
    (hkey : key ≠ "relations") : record.get key = record'.get key :=
  h.get key fun hmem => hkey (List.mem_singleton.mp hmem)

section Optional

variable (h : ReadsAlike fields ["relations"] record record')

include h

/-- So do the version, the media, the MBID, the identity and the identifiers. -/
theorem sourceRef_alike : sourceRef record = sourceRef record' := by
  unfold sourceRef
  rw [h.optional (by decide)]

/-- A kind's Discogs id is none of the optional fields. -/
theorem discogsId_alike (kind : EntityKind) :
    record.get kind.discogsColumn = record'.get kind.discogsColumn :=
  h.optional (by cases kind <;> decide)

theorem releaseMediaBlock_alike (ext : Externals) :
    releaseMediaBlock ext record = releaseMediaBlock ext record' := by
  unfold releaseMediaBlock
  simp (disch := decide) only [h.optional]

theorem mediaPlan_alike (ext : Externals) (kind : EntityKind) :
    mediaPlan ext kind record = mediaPlan ext kind record' := by
  unfold mediaPlan
  rw [releaseMediaBlock_alike h, h.optional (by decide)]

/-- The documents of an entity row, apart from the null members of `data`. -/
theorem documents_alike (ext : Externals) (kind : EntityKind) (gm : Option Item)
    (hdata : dropNulls fields (storedData record) = storedData record') :
    (entityValues ext kind record gm).documents.map (fun d =>
      if d.1 = "data" then (d.1, dropNulls fields d.2) else d) =
        (entityValues ext kind record' gm).documents := by
  cases kind <;>
    simp (disch := decide) [entityValues, artistValues, labelValues, releaseValues,
      releaseGroupValues, Json.getOr, hdata, h.optional, releaseMediaBlock_alike h]

end Optional

variable (h : ReadsAlike fields ["relations"] record record')
  (hfields : ∀ f ∈ fields, f ∈ OPTIONAL_FIELDS)

include h hfields

theorem mbid_alike : mbid record = mbid record' := by
  unfold mbid
  rw [h.required hfields (by decide), h.required hfields (by decide)]

theorem recordIdentity_alike (ext : Externals) (kind : EntityKind) (aliases : Aliases) :
    recordIdentity ext kind aliases record = recordIdentity ext kind aliases record' := by
  unfold recordIdentity
  rw [mbid_alike h hfields, discogsId_alike h]

theorem identifierRefs_alike (ext : Externals) :
    identifierRefs ext record = identifierRefs ext record' := by
  have hidentifiers : record.has "identifiers" = record'.has "identifiers" :=
    h.has "identifiers" (fun hmem => absurd (hfields _ hmem) (by decide)) (by decide)
  unfold identifierRefs legacyIdentifiersBlock
  rw [hidentifiers]
  simp (disch := decide) only [h.optional]

theorem attachAliases_alike (ext : Externals) (kind : EntityKind) (aliases : Aliases)
    (nativeId : Option Item) :
    attachAliases ext kind aliases record nativeId = attachAliases ext kind aliases record' nativeId := by
  cases kind with
  | release =>
    show attachIdentifierAliases ext aliases record nativeId =
      attachIdentifierAliases ext aliases record' nativeId
    unfold attachIdentifierAliases
    rw [identifierRefs_alike h hfields]
  | _ => rfl

/-- The columns of an entity row. -/
theorem columns_alike (ext : Externals) (kind : EntityKind) (gm : Option Item) :
    (entityValues ext kind record gm).columns = (entityValues ext kind record' gm).columns := by
  cases kind <;>
    simp (disch := decide) only [entityValues, artistValues, labelValues, releaseValues,
      releaseGroupValues, textColumns, spanColumns, lifeSpan, Json.getOr, List.map_cons, List.map_nil,
      h.required hfields, h.optional]

end Record

/-- Members that are not skipped: the null ones dropped, or never there. -/
theorem filter_nulled (fields skip : List String) (f f' : String → Json → Json)
    (hsame : ∀ key, key ∉ skip → f key = f' key) (members : List (String × Json)) :
    (((members.map fun m => (m.1, f m.1 m.2)).map fun m =>
        (m.1, if m.1 ∈ fields then Json.null else m.2)).filter fun m => !skip.contains m.1).filter
          (fun m => !(decide (m.1 ∈ fields) && decide (m.2 = .null))) =
      ((members.map fun m => (m.1, f' m.1 m.2)).filter fun m => !fields.contains m.1).filter
        fun m => !skip.contains m.1 := by
  -- Member by member: skipped, nulled, or kept.
  induction members with
  | nil => rfl
  | cons m members ih =>
    simp only [List.map_cons]
    by_cases hskip : m.1 ∈ skip
    · rw [List.filter_cons_of_neg (by simpa using hskip), ih]
      by_cases hfield : m.1 ∈ fields
      · rw [List.filter_cons_of_neg (by simpa using hfield)]
      · rw [List.filter_cons_of_pos (by simpa using hfield),
          List.filter_cons_of_neg (by simpa using hskip)]
    · rw [List.filter_cons_of_pos (by simpa using hskip)]
      by_cases hfield : m.1 ∈ fields
      · rw [List.filter_cons_of_neg (by simp [hfield]), ih,
          List.filter_cons_of_neg (by simpa using hfield)]
      · rw [List.filter_cons_of_pos (by simp [hfield]), ih,
          List.filter_cons_of_pos (by simpa using hfield),
          List.filter_cons_of_pos (by simpa using hskip), if_neg hfield, hsame m.1 hskip]

/-- The stored `data` document keeps the null members, and is otherwise the same. -/
theorem storedData_nulled (fields : List String) (entryFields : Nat → List String) (record : Json) :
    dropNulls fields (storedData (nulledRecord fields entryFields record)) =
      storedData (removedRecord fields entryFields record) := by
  cases record with
  | obj members =>
    refine congrArg Json.obj (filter_nulled fields ["relations", "external_links"]
      (inRelations _) (inRelations _) (fun key hkey => ?_) members)
    exact inRelations_of_ne (fun heq => hkey (heq ▸ List.mem_cons_self)) _ _
  | _ => rfl

/-! ## The child rows of the two records -/

/-- Neither list of child rows is nulled. -/
def KeepsLists (fields : List String) (record : Json) : Prop :=
  ∀ key ∈ ["relations", "external_links"], key ∈ fields → record.has key = false

instance (fields : List String) (record : Json) : Decidable (KeepsLists fields record) :=
  inferInstanceAs (Decidable (∀ _ ∈ _, _))

section Lists

variable {fields : List String} {entryFields : Nat → List String} {record : Json}

/-- Both records report the same relationships, unless `relations` is nulled. -/
theorem relationships_alike (hentry : ∀ i, ∀ f ∈ entryFields i, f ∈ OPTIONAL_RELATIONSHIP_FIELDS)
    (hkept : KeepsLists fields record) (sourceMbid : Json) (sourceType : String) :
    relationshipRows sourceMbid sourceType
        ((nulledRecord fields entryFields record).getD "relations" (.arr [])) =
      relationshipRows sourceMbid sourceType
        ((removedRecord fields entryFields record).getD "relations" (.arr [])) := by
  cases record with
  | obj members =>
    -- An object's first member of that name is what is read.
    show relationshipRows _ _ (Option.getD (List.lookup "relations" _) _) =
      relationshipRows _ _ (Option.getD (List.lookup "relations" _) _)
    rw [lookup_nulled, lookup_removed]
    have hkept' := hkept "relations" (by decide)
    cases hmember : members.lookup "relations" with
    | none => rw [Option.map_none, Option.map_none, ite_self]
    | some value =>
      -- A list that is there is not among the nulled fields.
      have hfield : "relations" ∉ fields := by
        intro hfield
        have habsent : (members.lookup "relations").isSome = false := hkept' hfield
        rw [hmember] at habsent
        cases habsent
      rw [if_neg hfield]
      show relationshipRows _ _ (if "relations" ∈ fields then _ else _) = _
      rw [if_neg hfield]
      exact relationshipRows_alike hentry sourceMbid sourceType value
  | _ => rfl

/-- So do their external links. -/
theorem externalLinks_alike (hkept : KeepsLists fields record) :
    (nulledRecord fields entryFields record).getD "external_links" (.arr []) =
      (removedRecord fields entryFields record).getD "external_links" (.arr []) := by
  cases record with
  | obj members =>
    show Option.getD (List.lookup "external_links" _) _ = Option.getD (List.lookup "external_links" _) _
    rw [lookup_nulled, lookup_removed]
    have hkept' := hkept "external_links" (by decide)
    cases hmember : members.lookup "external_links" with
    | none => rw [Option.map_none, Option.map_none, ite_self]
    | some value =>
      have hfield : "external_links" ∉ fields := by
        intro hfield
        have habsent : (members.lookup "external_links").isSome = false := hkept' hfield
        rw [hmember] at habsent
        cases habsent
      rw [if_neg hfield]
      exact if_neg hfield
  | _ => rfl

/-- A nulled list reads as null, whatever the default. -/
theorem getD_nulled (entryFields : Nat → List String) {key : String} (hfield : key ∈ fields)
    (hhas : record.has key = true) (default : Json) :
    (nulledRecord fields entryFields record).getD key default = .null := by
  cases record with
  | obj members =>
    show Option.getD (List.lookup key _) _ = _
    rw [lookup_nulled]
    have hpresent : (members.lookup key).isSome = true := hhas
    obtain ⟨value, hmember⟩ := Option.isSome_iff_exists.mp hpresent
    rw [hmember]
    exact if_pos hfield
  | _ => cases hhas

end Lists

/-! ## The two transactions -/

/-- A plan with the null members of its `data` document dropped. -/
def Plan.dropNulls (pl : Plan) (fields : List String) : Plan :=
  { pl with documents := pl.documents.map fun d =>
      if d.1 = "data" then (d.1, Records.dropNulls fields d.2) else d }

section Transactions

variable {ext : Externals} {kind : EntityKind} {refresh : Bool} {now : Instant} {db : Database}
  {record : Json} {fields : List String} {entryFields : Nat → List String}

/-- The plans of the two records. -/
theorem plan_nulled (ext : Externals) (kind : EntityKind) (hfields : ∀ f ∈ fields, f ∈ OPTIONAL_FIELDS)
    (hentry : ∀ i, ∀ f ∈ entryFields i, f ∈ OPTIONAL_RELATIONSHIP_FIELDS)
    (hkept : KeepsLists fields record) :
    (plan ext kind (nulledRecord fields entryFields record)).map (·.dropNulls fields) =
      plan ext kind (removedRecord fields entryFields record) := by
  have halike := readsAlike_record fields entryFields record
  have hdocuments := documents_alike halike ext kind none (storedData_nulled fields entryFields record)
  unfold plan
  rw [mediaPlan_alike halike, mbid_alike halike hfields, relationships_alike hentry hkept,
    externalLinks_alike hkept]
  simp only [entityValues_mbid, entityValues_discogsId, columns_alike halike hfields,
    mbid_alike halike hfields, discogsId_alike halike, Option.bind_eq_bind, Option.map_bind,
    Function.comp_def, Option.pure_def, Option.map_some, Plan.dropNulls, hdocuments]

/-- A nulled list aborts the transaction. -/
theorem keepsLists_of_process {db' : Database}
    (h : process ext kind refresh (nulledRecord fields entryFields record) now db = some db') :
    KeepsLists fields record := by
  obtain ⟨pl, _, hplan, -⟩ := process_eq_some.mp h
  obtain ⟨_, _, -, hrelationships, hlinks, -⟩ := plan_eq_some.mp hplan
  intro key hkey hfield
  by_contra hhas
  have hnull := getD_nulled entryFields hfield (Bool.not_eq_false _ ▸ hhas) (.arr [])
  -- Null is not iterable.
  rcases List.mem_cons.mp hkey with rfl | hkey
  · rw [hnull] at hrelationships
    cases hrelationships
  · obtain rfl := List.mem_singleton.mp hkey
    rw [hnull] at hlinks
    cases hlinks

/-- **Elsewhere a null is an absent field.** -/
theorem sameButNulls_of_keeps (hfields : ∀ f ∈ fields, f ∈ OPTIONAL_FIELDS)
    (hentry : ∀ i, ∀ f ∈ entryFields i, f ∈ OPTIONAL_RELATIONSHIP_FIELDS)
    (hkept : KeepsLists fields record) :
    SameButNulls fields kind db
      (process ext kind refresh (nulledRecord fields entryFields record) now db)
      (process ext kind refresh (removedRecord fields entryFields record) now db) := by
  have halike := readsAlike_record fields entryFields record
  have hplan := plan_nulled ext kind hfields hentry hkept
  have hidentity := recordIdentity_alike halike hfields ext kind db.aliases
  have hattach := attachAliases_alike halike hfields ext kind
  cases hnulled : process ext kind refresh (nulledRecord fields entryFields record) now db with
  | some d =>
    obtain ⟨pl, aliases, hpl, haliases, rfl⟩ := process_eq_some.mp hnulled
    rw [hpl, Option.map_some] at hplan
    rw [hattach, hidentity] at haliases
    have hremoved : process ext kind refresh (removedRecord fields entryFields record) now db =
        some ((pl.dropNulls fields).apply kind refresh now
          (sourceRef (removedRecord fields entryFields record))
          (recordIdentity ext kind db.aliases (removedRecord fields entryFields record)).2 aliases db) :=
      process_eq_some.mpr ⟨pl.dropNulls fields, aliases, hplan.symm, haliases, rfl⟩
    rw [hremoved, hidentity, sourceRef_alike halike]
    exact .committed _ _ pl.mbid _ rfl rfl rfl
  | none =>
    cases hremoved : process ext kind refresh (removedRecord fields entryFields record) now db with
    | none => exact .failed
    | some d =>
      -- A plan of the removed record is one of the nulled record, which would commit as well.
      obtain ⟨pl', aliases, hpl', haliases, -⟩ := process_eq_some.mp hremoved
      rw [hpl'] at hplan
      obtain ⟨pl, hpl, -⟩ := Option.map_eq_some_iff.mp hplan
      rw [← hidentity, ← hattach] at haliases
      have hcommits : process ext kind refresh (nulledRecord fields entryFields record) now db =
          some (pl.apply kind refresh now (sourceRef (nulledRecord fields entryFields record))
            (recordIdentity ext kind db.aliases (nulledRecord fields entryFields record)).2 aliases
            db) :=
        process_eq_some.mpr ⟨pl, aliases, hpl, haliases, rfl⟩
      rw [hnulled] at hcommits
      cases hcommits

/-- **An explicit null means absent, exactly when neither `relations` nor `external_links` is nulled**,
    in a record that commits without those fields; one that does not commit fails both ways. -/
theorem null_means_absent_iff (ext : Externals) (kind : EntityKind) (refresh : Bool) (now : Instant)
    (db : Database) (record : Json) (fields : List String) (entryFields : Nat → List String)
    (hfields : ∀ f ∈ fields, f ∈ OPTIONAL_FIELDS)
    (hentry : ∀ i, ∀ f ∈ entryFields i, f ∈ OPTIONAL_RELATIONSHIP_FIELDS) :
    ((process ext kind refresh (removedRecord fields entryFields record) now db).isSome →
      (SameButNulls fields kind db
        (process ext kind refresh (nulledRecord fields entryFields record) now db)
        (process ext kind refresh (removedRecord fields entryFields record) now db) ↔
          KeepsLists fields record)) ∧
      (process ext kind refresh (removedRecord fields entryFields record) now db = none →
        SameButNulls fields kind db
          (process ext kind refresh (nulledRecord fields entryFields record) now db)
          (process ext kind refresh (removedRecord fields entryFields record) now db)) := by
  constructor
  -- The removed record commits: so the nulled one does too, or they differ, and it does only with its
  -- lists kept.
  · intro hcommits
    obtain ⟨d', hremoved⟩ := Option.isSome_iff_exists.mp hcommits
    refine ⟨fun hsame => ?_, fun hkept => sameButNulls_of_keeps hfields hentry hkept⟩
    cases hnulled : process ext kind refresh (nulledRecord fields entryFields record) now db with
    | some d => exact keepsLists_of_process hnulled
    | none =>
      rw [hnulled, hremoved] at hsame
      cases hsame
  -- The removed record fails: were the nulled one to commit, its lists would be kept, and both would.
  · intro hremoved
    cases hnulled : process ext kind refresh (nulledRecord fields entryFields record) now db with
    | none =>
      rw [hremoved]
      exact .failed
    | some d =>
      rw [← hnulled]
      exact sameButNulls_of_keeps hfields hentry (keepsLists_of_process hnulled)

end Transactions

/-! ## A label without relations -/

/-- A label with nothing the dump would omit. -/
def omittedLabel : Json :=
  .obj [("ended", .bool false), ("id", .str "5b1c7e0a-2f4d-4a6b-8c3e-9d0f1a2b3c4d"),
    ("relations", .arr [])]

/-- With its `relations` null it is not written, and without them it is. -/
theorem omittedLabel_nulled :
    process sampleExternals .label true (nulledRecord ["relations"] (fun _ => []) omittedLabel) 1 {} =
        none ∧
      (process sampleExternals .label true (removedRecord ["relations"] (fun _ => []) omittedLabel) 1
        {}).isSome ∧
      ¬ SameButNulls ["relations"] .label {}
        (process sampleExternals .label true (nulledRecord ["relations"] (fun _ => []) omittedLabel) 1 {})
        (process sampleExternals .label true
          (removedRecord ["relations"] (fun _ => []) omittedLabel) 1 {}) := by
  have hnulled : (process sampleExternals .label true
      (nulledRecord ["relations"] (fun _ => []) omittedLabel) 1 {}).isSome = false := by
    decide +kernel
  have hremoved : (process sampleExternals .label true
      (removedRecord ["relations"] (fun _ => []) omittedLabel) 1 {}).isSome = true := by
    decide +kernel
  have hnone := Option.isSome_eq_false_iff.mp hnulled
  refine ⟨Option.isNone_iff_eq_none.mp hnone, hremoved, fun hsame => ?_⟩
  obtain ⟨d, hd⟩ := Option.isSome_iff_exists.mp hremoved
  rw [Option.isNone_iff_eq_none.mp hnone, hd] at hsame
  cases hsame

/-- With `ended` null it is the label without `ended`. -/
theorem omittedLabel_same :
    SameButNulls ["ended"] .label {}
      (process sampleExternals .label true (nulledRecord ["ended"] (fun _ => []) omittedLabel) 1 {})
      (process sampleExternals .label true (removedRecord ["ended"] (fun _ => []) omittedLabel) 1 {}) := by
  have hremoved : (process sampleExternals .label true
      (removedRecord ["ended"] (fun _ => []) omittedLabel) 1 {}).isSome = true := by
    decide +kernel
  refine ((null_means_absent_iff sampleExternals .label true 1 {} omittedLabel ["ended"] (fun _ => [])
    (by decide) (fun _ f hf => absurd hf List.not_mem_nil)).1 hremoved).mpr (by decide)

end Records
