/-
  `graph.issued_on` against the stored releases.

  Every release message replaces the rows of ONE release id, the one it names, while the schema's
  projection (`projected`) sums over ALL stored releases.  The two agree on an id as long as nothing
  but the id's own messages can change what the projection holds for it:

  * every message names the id in the text PostgreSQL stores it as (`"007"` is stored as 7);
  * no message moves a stored release off the id (its rows would be nobody's to prune);
  * at most one stored release names the id.  With more than one the writers of the range take
    turns, and the last committer's edges win.

  1. **`rowQty`** — the rows of one block, medium by medium: `mediaEdgeRows` computes `blockTotal`.
  2. **`edges_run`** — the rows of an id are those of the last message that named it, in any history.
  3. **`Tracks`** — the invariant that needs the three: that message's release is still stored, under
     the id and with its block.  The rows alone do not carry it, for nothing deletes a row of
     `graph.issued_on` when its release goes elsewhere.
-/
import Mathlib.Algebra.BigOperators.Group.Finset.Basic
import Mathlib.Algebra.GroupWithZero.Nat
import MusicBrainzLoader.Lib.Runs
import MusicBrainzLoader.Records.Process

namespace Records

/-! ## The projection -/

/-- The usable entries of a media block. -/
def mediaEntries (media : Json) : List (String × String × Nat) :=
  ((mediaItems media).getD []).filterMap mediaEntry

/-- The quantities of one medium's entries, summed. -/
def entryTotal (entries : List (String × String × Nat)) (medium : String) : Nat :=
  ((entries.filter (·.1 = medium)).map (·.2.2)).sum

/-- The units of a medium a block counts. -/
def blockTotal (media : Json) (medium : String) : Nat := entryTotal (mediaEntries media) medium

/-- The text the projection groups a stored release under. -/
def EntityRow.releaseId (row : EntityRow) : Option String := row.discogsId.map fun n => toString n

/-- The `media` column. -/
def EntityRow.mediaBlock (row : EntityRow) : Json := (row.documents.lookup "media").getD .null

/-- What one stored release contributes to a release id and a medium. -/
def EntityRow.contributes (row : EntityRow) (releaseId medium : String) : Nat :=
  if row.releaseId = some releaseId then blockTotal row.mediaBlock medium else 0

/-- The units of a medium that the stored releases give a release id. -/
def projectedTotal (releases : Table Uuid EntityRow) (releaseId medium : String) : Nat :=
  ∑ id ∈ releases.keys, ((releases.lookup id).map fun row => row.contributes releaseId medium).getD 0

/-- A group of the projection: an entry counts at least one unit, so a group without units has no
    entry and no row. -/
def group (total : Nat) : Option Nat := if total = 0 then none else some total

/-- **The schema's projection** of the stored releases, row by row. -/
def projected (releases : Table Uuid EntityRow) (releaseId medium : String) : Option Nat :=
  group (projectedTotal releases releaseId medium)

/-- The rows the loader wrote are the projection's. -/
def Agrees (db : Database) : Prop :=
  ∀ releaseId medium, db.issuedOn.lookup ⟨releaseId, medium, MEDIA_SOURCE⟩ =
    projected (db.entities .release) releaseId medium

/-! ## Histories of release messages -/

/-- `process_release`, committed: the message and its `NOW()`. -/
def handleRelease (ext : Externals) (refresh : Bool) (db : Database) (m : Json × Instant) :
    Option Database :=
  process ext .release refresh m.1 m.2 db

/-- The database after a history of release messages, from empty tables. -/
def afterReleases (ext : Externals) (refresh : Bool) (messages : List (Json × Instant)) :
    Option Database :=
  Runs.run (handleRelease ext refresh) {} messages

/-- `str(discogs_release_id)`, the id a message writes its edges under. -/
def releaseKey (record : Json) : Option String :=
  match record.get "discogs_release_id" with
  | .null => none
  | discogsReleaseId => some discogsReleaseId.pyStr

/-- The text of the id a message stores. -/
def storedKey (ext : Externals) (record : Json) : Option String :=
  ((ext.casts.bigint (record.get "discogs_release_id")).getD none).map fun n => toString n

/-- The last message that named the release id. -/
def lastNaming (releaseId : String) (messages : List (Json × Instant)) : Option (Json × Instant) :=
  (messages.filter (releaseKey ·.1 = some releaseId)).getLast?

/-- The quantity a list of rows has for a medium. -/
def rowQty (rows : List MediaRow) (medium : String) : Option Nat :=
  (rows.find? (·.medium = medium)).map (·.qty)

/-- A message keeps to a release id: it writes under the id if and only if it stores it, and it does
    not move a release stored under the id to another one or to none. -/
def Keeps (ext : Externals) (releaseId : String) (db : Database) (m : Json × Instant) : Prop :=
  (releaseKey m.1 = some releaseId ↔ storedKey ext m.1 = some releaseId) ∧
    ∀ id ∈ ext.casts.uuid (mbid m.1), ∀ row ∈ (db.entities .release).lookup id,
      row.releaseId = some releaseId → storedKey ext m.1 = some releaseId

instance (ext : Externals) (releaseId : String) (db : Database) (m : Json × Instant) :
    Decidable (Keeps ext releaseId db m) :=
  inferInstanceAs (Decidable (_ ∧ _))

/-- No two stored releases name the id. -/
def Unshared (db : Database) (releaseId : String) : Prop :=
  ∀ id id' row row', (db.entities .release).lookup id = some row →
    (db.entities .release).lookup id' = some row' → row.releaseId = some releaseId →
      row'.releaseId = some releaseId → id = id'

instance (db : Database) (releaseId : String) : Decidable (Unshared db releaseId) :=
  decidable_of_iff
    (∀ id ∈ (db.entities .release).keys, ∀ id' ∈ (db.entities .release).keys,
      ∀ row ∈ (db.entities .release).lookup id, ∀ row' ∈ (db.entities .release).lookup id',
        row.releaseId = some releaseId → row'.releaseId = some releaseId → id = id') <| by
    constructor
    · intro h id id' row row' hrow hrow'
      have hid := Finmap.mem_keys.mpr (Finmap.mem_of_lookup_eq_some hrow)
      have hid' := Finmap.mem_keys.mpr (Finmap.mem_of_lookup_eq_some hrow')
      exact h id hid id' hid' row hrow row' hrow'
    · intro h id _ id' _ row hrow row' hrow'
      exact h id id' row row' hrow hrow'

/-! ## One block, medium by medium -/

/-- A quantity counts at least one unit. -/
theorem mediumQuantity_pos (value : Json) : 0 < mediumQuantity value := by
  unfold mediumQuantity
  split
  · split <;> omega
  · omega

theorem mediaEntry_pos {item : Json} {entry : String × String × Nat}
    (h : mediaEntry item = some entry) : 0 < entry.2.2 := by
  unfold mediaEntry at h
  split at h
  · split at h
    · cases h
    · obtain rfl := Option.some.inj h
      exact mediumQuantity_pos _
  · cases h

theorem entryTotal_cons (entry : String × String × Nat) (entries : List (String × String × Nat))
    (medium : String) : entryTotal (entry :: entries) medium =
      (if entry.1 = medium then entry.2.2 else 0) + entryTotal entries medium := by
  unfold entryTotal
  by_cases h : entry.1 = medium
  · rw [List.filter_cons_of_pos (by simpa using h), if_pos h, List.map_cons, List.sum_cons]
  · rw [List.filter_cons_of_neg (by simpa using h), if_neg h, Nat.zero_add]

/-- Counting an entry in adds its units to its medium's row. -/
theorem rowQty_addMediaEntry (ext : Externals) {rows : List MediaRow}
    {entry : String × String × Nat} (hpos : 0 < entry.2.2) {medium : String} {n : Nat}
    (h : rowQty rows medium = group n) :
    rowQty (addMediaEntry ext rows entry) medium =
      group (n + if entry.1 = medium then entry.2.2 else 0) := by
  unfold addMediaEntry
  split
  · -- The medium has a row: the map changes that row's quantity and nothing else.
    rename_i hany
    have hsame : ((fun row : MediaRow => decide (row.medium = medium)) ∘ fun row : MediaRow =>
        if row.medium = entry.1 then { row with qty := row.qty + entry.2.2 } else row) =
          fun row => decide (row.medium = medium) := by
      funext row
      show decide ((if row.medium = entry.1 then { row with qty := row.qty + entry.2.2 }
        else row).medium = medium) = _
      split <;> rfl
    unfold rowQty at h ⊢
    rw [List.find?_map, hsame]
    cases hfind : rows.find? (·.medium = medium) with
    | none =>
      -- No row for this medium, and the row there is is another's.
      have hne : entry.1 ≠ medium := by
        rintro rfl
        obtain ⟨row, hrow, hmedium⟩ := List.any_eq_true.mp hany
        exact absurd hmedium (List.find?_eq_none.mp hfind row hrow)
      rw [hfind] at h
      rw [if_neg hne, Nat.add_zero]
      exact h
    | some row =>
      have hrow : row.medium = medium := by simpa using List.find?_some hfind
      rw [hfind] at h
      have hqty : some row.qty = group n := h
      unfold group at hqty ⊢
      split at hqty
      · cases hqty
      · obtain rfl := Option.some.inj hqty
        show some (if row.medium = entry.1 then { row with qty := row.qty + entry.2.2 }
          else row).qty = _
        -- The row's quantity grows if the item is of this medium.
        by_cases he : entry.1 = medium
        · rw [if_pos (hrow.trans he.symm), if_pos he, if_neg (by omega)]
        · rw [if_neg (fun heq => he (heq.symm.trans hrow)), if_neg he, if_neg (by omega)]
          rfl
  · -- A new medium: its row is appended.
    rename_i hany
    unfold rowQty at h ⊢
    rw [List.find?_append]
    -- The appended row is the medium's first, so there was nothing to add to.
    by_cases he : entry.1 = medium
    · have hnone : rows.find? (·.medium = medium) = none := by
        refine List.find?_eq_none.mpr fun row hrow hmedium => hany (List.any_eq_true.mpr ⟨row, hrow, ?_⟩)
        rw [he]
        exact hmedium
      rw [hnone] at h ⊢
      have hzero : n = 0 := by
        by_contra hn
        rw [group, if_neg hn] at h
        cases h
      rw [if_pos he, hzero, Nat.zero_add, group, if_neg (by omega), Option.none_or,
        List.find?_singleton, if_pos (by simpa using he)]
      rfl
    · rw [if_neg he, Nat.add_zero, List.find?_singleton, if_neg (by simpa using he), Option.or_none]
      exact h

theorem rowQty_foldl (ext : Externals) (entries : List (String × String × Nat))
    (hpos : ∀ entry ∈ entries, 0 < entry.2.2) {rows : List MediaRow} {medium : String} {n : Nat}
    (h : rowQty rows medium = group n) :
    rowQty (entries.foldl (addMediaEntry ext) rows) medium = group (n + entryTotal entries medium) := by
  induction entries generalizing rows n with
  | nil => exact h
  | cons entry entries ih =>
    obtain ⟨hhead, htail⟩ := List.forall_mem_cons.mp hpos
    rw [List.foldl_cons, ih htail (rowQty_addMediaEntry ext hhead h), entryTotal_cons, Nat.add_assoc]

/-- With one row per medium, a medium's quantity is its row's. -/
theorem rowQty_eq_some {rows : List MediaRow} (hnodup : (rows.map (·.medium)).Nodup)
    {medium : String} {n : Nat} :
    rowQty rows medium = some n ↔ ∃ row ∈ rows, row.medium = medium ∧ row.qty = n := by
  constructor
  · intro h
    obtain ⟨row, hrow, rfl⟩ := Option.map_eq_some_iff.mp h
    exact ⟨row, List.mem_of_find?_eq_some hrow, by simpa using List.find?_some hrow, rfl⟩
  · rintro ⟨row, hrow, rfl, rfl⟩
    cases hfind : rows.find? (·.medium = row.medium) with
    | none => exact absurd (List.find?_eq_none.mp hfind row hrow) (by simp)
    | some found =>
      have hmedium : found.medium = row.medium := by simpa using List.find?_some hfind
      have hsame : found = row :=
        List.inj_on_of_nodup_map hnodup (List.mem_of_find?_eq_some hfind) hrow hmedium
      rw [rowQty, hfind, hsame]
      rfl

/-- **`media_edge_rows` counts the block**: one row per medium with a usable entry, with the sum of
    their quantities. -/
theorem rowQty_mediaEdgeRows {ext : Externals} {media : Json} {rows : List MediaRow}
    (h : mediaEdgeRows ext media = some rows) (medium : String) :
    rowQty rows medium = group (blockTotal media medium) := by
  have hnodup := mediaEdgeRows_nodup h
  obtain ⟨items, hitems, hrows⟩ := Option.bind_eq_some_iff.mp h
  have hentries : mediaEntries media = items.filterMap mediaEntry := by rw [mediaEntries, hitems]; rfl
  have hpos : ∀ entry ∈ mediaEntries media, 0 < entry.2.2 := by
    rw [hentries]
    intro entry hentry
    obtain ⟨item, -, hitem⟩ := List.mem_filterMap.mp hentry
    exact mediaEntry_pos hitem
  obtain rfl := Option.some.inj hrows
  rw [← hentries] at hnodup ⊢
  have hfold : rowQty ((mediaEntries media).foldl (addMediaEntry ext) []) medium =
      group (blockTotal media medium) := by
    have hnil : rowQty [] medium = group 0 := rfl
    have hcount := rowQty_foldl ext (mediaEntries media) hpos hnil
    rw [Nat.zero_add] at hcount
    exact hcount
  -- Sorting keeps the rows.
  have hperm := List.perm_insertionSort (fun a b : MediaRow => a.medium ≤ b.medium)
    ((mediaEntries media).foldl (addMediaEntry ext) [])
  have hunsorted : (((mediaEntries media).foldl (addMediaEntry ext) []).map (·.medium)).Nodup :=
    (hperm.map _).nodup_iff.mp hnodup
  rw [← hfold]
  refine Option.ext fun n => ?_
  rw [rowQty_eq_some hnodup, rowQty_eq_some hunsorted]
  simp only [hperm.mem_iff]

/-! ## One message -/

/-- Replacing a release id's range: its rows are the plan's, every other id's are as they were. -/
theorem lookup_applyIssuedOn {m : MediaPlan} (hnodup : (m.rows.map (·.medium)).Nodup)
    (t : Table IssuedOnKey Nat) (releaseId medium : String) :
    (m.applyIssuedOn t).lookup ⟨releaseId, medium, MEDIA_SOURCE⟩ =
      if releaseId = m.releaseId then rowQty m.rows medium
      else t.lookup ⟨releaseId, medium, MEDIA_SOURCE⟩ := by
  -- The edges of a release have distinct keys, its rows having distinct media.
  have hkeys : (mediaEdges m.releaseId m.rows).map (·.1) =
      (m.rows.map (·.medium)).map fun medium => ⟨m.releaseId, medium, MEDIA_SOURCE⟩ := by
    simp only [mediaEdges, List.map_map, Function.comp_def]
  have hdistinct : ((mediaEdges m.releaseId m.rows).map (·.1)).Nodup := by
    rw [hkeys]
    refine hnodup.map fun a b hab => ?_
    simpa using hab
  unfold MediaPlan.applyIssuedOn
  by_cases hid : releaseId = m.releaseId
  · subst hid
    rw [if_pos rfl]
    cases hqty : rowQty m.rows medium with
    | some n =>
      obtain ⟨row, hrow, rfl, rfl⟩ := (rowQty_eq_some hnodup).mp hqty
      exact Table.lookup_insertAll_of_mem hdistinct (List.mem_map_of_mem hrow) _
    -- No row, so no insert: the delete has taken what was there.
    | none =>
      have habsent : (⟨m.releaseId, medium, MEDIA_SOURCE⟩ : IssuedOnKey) ∉
          (mediaEdges m.releaseId m.rows).map (·.1) := by
        rw [hkeys]
        rintro hmem
        obtain ⟨medium', hmedium', heq⟩ := List.mem_map.mp hmem
        obtain rfl : medium' = medium := by simpa using heq
        obtain ⟨row, hrow, rfl⟩ := List.mem_map.mp hmedium'
        have hsome := (rowQty_eq_some hnodup).mpr ⟨row, hrow, rfl, rfl⟩
        rw [hqty] at hsome
        cases hsome
      rw [Table.lookup_insertAll_of_notMem habsent, Table.lookup_deleteWhere]
      simp
  · rw [if_neg hid]
    -- Another release's edge is neither inserted nor deleted.
    have habsent : (⟨releaseId, medium, MEDIA_SOURCE⟩ : IssuedOnKey) ∉
        (mediaEdges m.releaseId m.rows).map (·.1) := by
      rw [hkeys]
      rintro hmem
      obtain ⟨medium', -, heq⟩ := List.mem_map.mp hmem
      have hsame : m.releaseId = releaseId := congrArg IssuedOnKey.releaseId heq
      exact hid hsame.symm
    rw [Table.lookup_insertAll_of_notMem habsent, Table.lookup_deleteWhere]
    cases t.lookup ⟨releaseId, medium, MEDIA_SOURCE⟩ <;> simp [Option.filter, hid]

/-- A release's media plan, by the key it names. -/
theorem mediaPlan_release (ext : Externals) (record : Json) :
    mediaPlan ext .release record = match releaseKey record with
      | none => some none
      | some releaseId => (mediaEdgeRows ext (releaseMediaBlock ext record)).map fun rows =>
          some ⟨releaseId, rows⟩ := by
  unfold mediaPlan releaseKey
  cases record.get "discogs_release_id" with
  | null => rfl
  | _ => cases mediaEdgeRows ext (releaseMediaBlock ext record) <;> rfl

section Step

variable {ext : Externals} {refresh : Bool} {db db' : Database} {m : Json × Instant}
  {releaseId : String} {messages : List (Json × Instant)}

/-- A release message stores its row with its block, and replaces the range of the id it names. -/
theorem handleRelease_spec (h : handleRelease ext refresh db m = some db') :
    ∃ id row, ext.casts.uuid (mbid m.1) = some id ∧ row.releaseId = storedKey ext m.1 ∧
      row.mediaBlock = releaseMediaBlock ext m.1 ∧
      db'.entities .release = (db.entities .release).insert id row ∧
      (∀ releaseId, releaseKey m.1 = some releaseId →
        ∃ rows, mediaEdgeRows ext (releaseMediaBlock ext m.1) = some rows ∧
          ∀ medium, db'.issuedOn.lookup ⟨releaseId, medium, MEDIA_SOURCE⟩ = rowQty rows medium) ∧
      (∀ releaseId, releaseKey m.1 ≠ some releaseId → ∀ medium,
        db'.issuedOn.lookup ⟨releaseId, medium, MEDIA_SOURCE⟩ =
          db.issuedOn.lookup ⟨releaseId, medium, MEDIA_SOURCE⟩) := by
  obtain ⟨pl, aliases, hpl, -, rfl⟩ := process_eq_some.mp h
  obtain ⟨rels, links, hmedia, -, -, hid, -, hdis, -, -, hdocs⟩ := plan_eq_some.mp hpl
  let gm := (recordIdentity ext .release db.aliases m.1).2
  refine ⟨pl.mbid, pl.entityRow gm m.2, hid, ?_, ?_, ?_, ?_, ?_⟩
  -- The stored id is the column's cast of the message's, and the block is stored as it was read.
  · have hdiscogs : ext.casts.bigint (m.1.get "discogs_release_id") = some pl.discogsId := hdis
    rw [storedKey, hdiscogs]
    rfl
  · show (pl.documents.lookup "media").getD .null = _
    rw [hdocs]
    rfl
  · exact Function.update_self EntityKind.release _ db.entities
  all_goals
    intro releaseId hkey
    rw [mediaPlan_release] at hmedia
  -- The message names the id: its range is replaced by its rows.
  · rw [hkey] at hmedia
    obtain ⟨rows, hrows, hplan⟩ := Option.map_eq_some_iff.mp hmedia
    refine ⟨rows, hrows, fun medium => ?_⟩
    show (pl.media.elim db.issuedOn fun m => m.applyIssuedOn db.issuedOn).lookup _ = _
    rw [← hplan, Option.elim_some, lookup_applyIssuedOn (mediaEdgeRows_nodup hrows), if_pos rfl]
  -- It names another id, or none, and the range is left alone.
  · intro medium
    show (pl.media.elim db.issuedOn fun m => m.applyIssuedOn db.issuedOn).lookup _ = _
    cases hother : releaseKey m.1 with
    | none =>
      rw [hother] at hmedia
      rw [← Option.some.inj hmedia]
      rfl
    | some other =>
      rw [hother] at hmedia hkey
      obtain ⟨rows, hrows, hplan⟩ := Option.map_eq_some_iff.mp hmedia
      rw [← hplan, Option.elim_some, lookup_applyIssuedOn (mediaEdgeRows_nodup hrows), if_neg]
      exact fun hsame => hkey (congrArg some hsame.symm)

theorem lastNaming_concat : lastNaming releaseId (messages ++ [m]) =
    if releaseKey m.1 = some releaseId then some m else lastNaming releaseId messages := by
  unfold lastNaming
  rw [List.filter_append, List.filter_singleton]
  by_cases h : releaseKey m.1 = some releaseId
  · simp [h]
  · simp [h]

/-- The rows of an id are those of the last message that named it: a message replaces the whole range
    of the id it names, and no other. -/
theorem edges_run (hrun : afterReleases ext refresh messages = some db) (medium : String) :
    db.issuedOn.lookup ⟨releaseId, medium, MEDIA_SOURCE⟩ =
      (lastNaming releaseId messages).bind fun m =>
        (mediaEdgeRows ext (releaseMediaBlock ext m.1)).bind (rowQty · medium) := by
  induction messages using List.reverseRecOn generalizing db with
  | nil =>
    obtain rfl := Option.some.inj hrun
    rfl
  | append_singleton messages m ih =>
    obtain ⟨d, hd, hstep⟩ := Runs.run_concat.mp hrun
    obtain ⟨-, -, -, -, -, -, hnamed, hother⟩ := handleRelease_spec hstep
    rw [lastNaming_concat]
    by_cases hname : releaseKey m.1 = some releaseId
    · obtain ⟨rows, hrows, hedges⟩ := hnamed releaseId hname
      rw [if_pos hname, hedges medium, Option.bind_some, hrows, Option.bind_some]
    · rw [if_neg hname, hother releaseId hname]
      exact ih hd

/-- What a history keeps for one release id: the last message that named it has its release stored
    under the id with its block, and until one names it no release is. -/
structure Tracks (ext : Externals) (releaseId : String) (messages : List (Json × Instant))
    (db : Database) : Prop where
  unnamed : lastNaming releaseId messages = none →
    ∀ id row, (db.entities .release).lookup id = some row → row.releaseId ≠ some releaseId
  stored : ∀ m, lastNaming releaseId messages = some m →
    ∃ id row rows, (db.entities .release).lookup id = some row ∧ row.releaseId = some releaseId ∧
      row.mediaBlock = releaseMediaBlock ext m.1 ∧ mediaEdgeRows ext row.mediaBlock = some rows

/-- One more message that keeps to the id. -/
theorem tracks_step (h : Tracks ext releaseId messages db) (hkeeps : Keeps ext releaseId db m)
    (hstep : handleRelease ext refresh db m = some db') :
    Tracks ext releaseId (messages ++ [m]) db' := by
  obtain ⟨id, row, hid, hkey, hblock, hreleases, hnamed, -⟩ := handleRelease_spec hstep
  obtain ⟨hcanonical, hstays⟩ := hkeeps
  by_cases hname : releaseKey m.1 = some releaseId
  · -- The message names the id: its release is the one stored.
    have hlast : lastNaming releaseId (messages ++ [m]) = some m := by
      rw [lastNaming_concat, if_pos hname]
    obtain ⟨rows, hrows, -⟩ := hnamed releaseId hname
    constructor
    · intro hnone
      rw [hlast] at hnone
      cases hnone
    · intro m' hm'
      obtain rfl : m = m' := Option.some.inj (hlast.symm.trans hm')
      refine ⟨id, row, rows, ?_, hkey.trans (hcanonical.mp hname), hblock, ?_⟩
      · rw [hreleases, Finmap.lookup_insert]
      · rw [hblock]
        exact hrows
  · -- It names another id or none: the release stored last under the id stands, for this one is
    -- stored elsewhere, and over no release of the id.
    have hlast : lastNaming releaseId (messages ++ [m]) = lastNaming releaseId messages := by
      rw [lastNaming_concat, if_neg hname]
    have helsewhere : row.releaseId ≠ some releaseId := by
      rw [hkey]
      exact fun hsame => hname (hcanonical.mpr hsame)
    constructor
    · intro hnone id' row' hrow'
      rw [hlast] at hnone
      rw [hreleases, Table.lookup_insert_eq] at hrow'
      split at hrow'
      · obtain rfl := Option.some.inj hrow'
        exact helsewhere
      · exact h.unnamed hnone id' row' hrow'
    · intro m' hm'
      rw [hlast] at hm'
      obtain ⟨id', row', rows, hrow', hrelease, hrest⟩ := h.stored m' hm'
      have hne : id' ≠ id := by
        rintro rfl
        exact hname (hcanonical.mpr (hstays id' hid row' hrow' hrelease))
      refine ⟨id', row', rows, ?_, hrelease, hrest⟩
      rw [hreleases, Finmap.lookup_insert_of_ne _ hne]
      exact hrow'

theorem tracks_run (hkeeps : Runs.Meets (handleRelease ext refresh) (Keeps ext releaseId) {} messages)
    (hrun : afterReleases ext refresh messages = some db) : Tracks ext releaseId messages db := by
  induction messages using List.reverseRecOn generalizing db with
  | nil =>
    obtain rfl := Option.some.inj hrun
    constructor
    · intro _ id row hrow
      cases hrow
    · intro m hm
      cases hm
  | append_singleton messages m ih =>
    obtain ⟨d, hd, hstep⟩ := Runs.run_concat.mp hrun
    exact tracks_step (ih hkeeps.prefix hd) (hkeeps.suffix hd).head hstep

end Step

/-! ## The projection of an unshared id -/

/-- A release id that one stored release names is projected from that release's block alone. -/
theorem projectedTotal_eq {db : Database} {releaseId medium : String} {id : Uuid} {row : EntityRow}
    (hunshared : Unshared db releaseId) (hrow : (db.entities .release).lookup id = some row)
    (hrelease : row.releaseId = some releaseId) :
    projectedTotal (db.entities .release) releaseId medium = blockTotal row.mediaBlock medium := by
  have hmem : id ∈ (db.entities .release).keys :=
    Finmap.mem_keys.mpr (Finmap.mem_iff.mpr ⟨row, hrow⟩)
  unfold projectedTotal
  rw [Finset.sum_eq_single_of_mem id hmem]
  · rw [hrow]
    show row.contributes releaseId medium = _
    rw [EntityRow.contributes, if_pos hrelease]
  · intro id' _ hne
    cases hrow' : (db.entities .release).lookup id' with
    | none => rfl
    | some row' =>
      show row'.contributes releaseId medium = 0
      rw [EntityRow.contributes, if_neg]
      intro hrelease'
      exact hne (hunshared id' id row' row hrow' hrow hrelease' hrelease)

/-- A release id no stored release names projects to nothing. -/
theorem projected_eq_none {db : Database} {releaseId medium : String}
    (h : ∀ id row, (db.entities .release).lookup id = some row → row.releaseId ≠ some releaseId) :
    projected (db.entities .release) releaseId medium = none := by
  have hzero : projectedTotal (db.entities .release) releaseId medium = 0 := by
    refine Finset.sum_eq_zero fun id _ => ?_
    cases hrow : (db.entities .release).lookup id with
    | none => rfl
    | some row =>
      show row.contributes releaseId medium = 0
      rw [EntityRow.contributes, if_neg (h id row hrow)]
  rw [projected, hzero]
  rfl

/-! ## The edges of a history -/

/-- **The last committer's edges stand, and agree with the projection of an unshared id.**  For every
    history of release messages from empty tables, the rows of a release id are those of the last
    message that named it.  Where the history keeps to the id, there are none once no stored release
    names it, and they are the projection's unless two stored releases share the id. -/
theorem media_edges_follow_the_last_committer (ext : Externals) (refresh : Bool)
    (messages : List (Json × Instant)) (db : Database) (releaseId : String)
    (hrun : afterReleases ext refresh messages = some db) :
    (∀ medium, db.issuedOn.lookup ⟨releaseId, medium, MEDIA_SOURCE⟩ =
      (lastNaming releaseId messages).bind fun m =>
        (mediaEdgeRows ext (releaseMediaBlock ext m.1)).bind (rowQty · medium)) ∧
    (Runs.Meets (handleRelease ext refresh) (Keeps ext releaseId) {} messages →
      ((∀ id row, (db.entities .release).lookup id = some row → row.releaseId ≠ some releaseId) →
        ∀ medium, db.issuedOn.lookup ⟨releaseId, medium, MEDIA_SOURCE⟩ = none) ∧
      (Unshared db releaseId → ∀ medium,
        db.issuedOn.lookup ⟨releaseId, medium, MEDIA_SOURCE⟩ =
          projected (db.entities .release) releaseId medium)) := by
  have hedges (medium : String) : db.issuedOn.lookup ⟨releaseId, medium, MEDIA_SOURCE⟩ =
      (lastNaming releaseId messages).bind fun m =>
        (mediaEdgeRows ext (releaseMediaBlock ext m.1)).bind (rowQty · medium) := edges_run hrun medium
  refine ⟨hedges, fun hkeeps => ?_⟩
  -- Where the history keeps to the id, a stored release that has it is the one whose message named it
  -- last.
  have htracks := tracks_run hkeeps hrun
  cases hlast : lastNaming releaseId messages with
  | none =>
    rw [hlast] at hedges
    refine ⟨fun _ => hedges, fun _ medium => ?_⟩
    rw [hedges medium, projected_eq_none (htracks.unnamed hlast)]
    rfl
  | some m =>
    rw [hlast] at hedges
    obtain ⟨id, row, rows, hrow, hrelease, hblock, hrows⟩ := htracks.stored m hlast
    -- Of an unshared id the projection is that one release's rows.
    refine ⟨fun hunnamed => absurd hrelease (hunnamed id row hrow), fun hunshared medium => ?_⟩
    rw [hedges medium, Option.bind_some, ← hblock, hrows, Option.bind_some,
      rowQty_mediaEdgeRows hrows, projected, projectedTotal_eq hunshared hrow hrelease]

/-- A release with one medium. -/
def releaseMessage (id : String) (discogsReleaseId : Json) (medium : String) (qty : Int) : Json :=
  .obj [("discogs_release_id", discogsReleaseId), ("mbid", .str id),
    ("media", .obj [("items", .arr [.obj [("family", .str "disc"), ("medium", .str medium),
      ("qty", .int qty)]])])]

/-- One release, stored and then reissued on more vinyl; another one keeps its own id. -/
def reissuedRelease : List (Json × Instant) :=
  [(releaseMessage "11111111-1111-4111-8111-111111111111" (.int 7) "vinyl" 1, 1),
    (releaseMessage "22222222-2222-4222-8222-222222222222" (.str "9") "cd" 1, 2),
    (releaseMessage "11111111-1111-4111-8111-111111111111" (.int 7) "vinyl" 2, 3)]

theorem media_edges_of_a_reissued_release :
    ∃ db, afterReleases sampleExternals true reissuedRelease = some db ∧
      (∀ medium, db.issuedOn.lookup ⟨"7", medium, MEDIA_SOURCE⟩ =
        (lastNaming "7" reissuedRelease).bind fun m =>
          (mediaEdgeRows sampleExternals (releaseMediaBlock sampleExternals m.1)).bind
            (rowQty · medium)) ∧
      db.issuedOn.lookup ⟨"7", "vinyl", MEDIA_SOURCE⟩ = some 2 ∧
      ∀ medium, db.issuedOn.lookup ⟨"7", medium, MEDIA_SOURCE⟩ =
        projected (db.entities .release) "7" medium := by
  have hrun : (afterReleases sampleExternals true reissuedRelease).any (fun db =>
      decide (db.issuedOn.lookup ⟨"7", "vinyl", MEDIA_SOURCE⟩ = some 2 ∧ Unshared db "7")) = true := by
    decide +kernel
  obtain ⟨db, hdb, hstored⟩ := (Option.any_eq_true _ _).mp hrun
  obtain ⟨hvinyl, hunshared⟩ := of_decide_eq_true hstored
  obtain ⟨hedges, hagrees⟩ := media_edges_follow_the_last_committer sampleExternals true
    reissuedRelease db "7" hdb
  exact ⟨db, hdb, hedges, hvinyl, (hagrees (by decide +kernel)).2 hunshared⟩

/-- Two releases that share a Discogs id. -/
def sharedRelease : List (Json × Instant) :=
  [(releaseMessage "11111111-1111-4111-8111-111111111111" (.int 7) "vinyl" 1, 1),
    (releaseMessage "22222222-2222-4222-8222-222222222222" (.int 7) "cd" 1, 2)]

/-- A release moved to another Discogs id. -/
def movedRelease : List (Json × Instant) :=
  [(releaseMessage "11111111-1111-4111-8111-111111111111" (.int 7) "vinyl" 1, 1),
    (releaseMessage "11111111-1111-4111-8111-111111111111" (.int 9) "vinyl" 1, 2)]

/-- A release whose id is not in the text it is stored in. -/
def paddedRelease : List (Json × Instant) :=
  [(releaseMessage "11111111-1111-4111-8111-111111111111" (.str "007") "vinyl" 1, 1)]

/-- Each of the three parts the rows and the projection. -/
theorem media_edges_part_from_the_projection :
    [sharedRelease, movedRelease, paddedRelease].Forall fun messages =>
      ∃ db, afterReleases sampleExternals true messages = some db ∧ ¬ Agrees db := by
  have hparts : ∀ messages ∈ [sharedRelease, movedRelease, paddedRelease],
      (afterReleases sampleExternals true messages).any fun db =>
        db.issuedOn.lookup ⟨"7", "vinyl", MEDIA_SOURCE⟩ ≠
          projected (db.entities .release) "7" "vinyl" := by
    decide +kernel
  rw [List.forall_iff_forall_mem]
  intro messages hmessages
  obtain ⟨db, hdb, hne⟩ := (Option.any_eq_true _ _).mp (hparts messages hmessages)
  refine ⟨db, hdb, fun hagrees => ?_⟩
  exact (of_decide_eq_true hne) (hagrees "7" "vinyl")

end Records
