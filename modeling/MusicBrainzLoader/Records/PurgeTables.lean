/-
  One purge call and the tables it reconciles.

  * **The cap** — `_purge_table` counts twice and then deletes, three statements that each see what other
    transactions have committed by then.  Those stamp what they write at or after the boundary, so the
    stale rows only get fewer, and the delete stays under the fraction that was counted.
  * **The transaction** — `purge` against the tables as they are committed and as its own statements see
    them.  An exception anywhere leaves the committed tables and the object as they were; a return has
    committed every table's reconciliation, and settled.

  The fraction is of two counts that never were the tables' at one time: the total is older than the
  stale rows, and both are older than the delete.  Neither has to be small against the table the delete
  finds, which may have grown or shrunk.  What bounds the delete is that its rows are among the stale rows
  counted; so everything rests on stale rows only getting fewer (`childStale_commit_le`), and that is seen
  key by key: no write makes a row stale that was not.
-/
import MusicBrainzLoader.Records.Reconciliation

namespace Records

open Purge (ChildTable PurgeAwait PurgeCall PurgeConfig StaleChildRowPurge)

/-! ## Other transactions -/

/-- A child row that another transaction commits. -/
inductive ChildWrite where
  | relationship (key : RelationshipKey) (row : RelationshipRow)
  | externalLink (key : ExternalLinkKey) (row : ExternalLinkRow)

/-- The `updated_at` it stamps. -/
def ChildWrite.stamp : ChildWrite → Instant
  | .relationship _ row => row.updatedAt
  | .externalLink _ row => row.updatedAt

/-- A write of another transaction.  An upsert stamps the row anew, whether it was there or not; so
    one stamped at or after the boundary can take the staleness from a row and never gives it. -/
def Database.write (db : Database) : ChildWrite → Database
  | .relationship key row => { db with relationships := db.relationships.insert key row }
  | .externalLink key row => { db with externalLinks := db.externalLinks.insert key row }

/-- What the tables are once these writes are committed. -/
def Database.commit (db : Database) (writes : List ChildWrite) : Database :=
  writes.foldl Database.write db

/-! ## One table -/

/-- `stale_count / total_count`; `none` is the `ZeroDivisionError`.  It is kept exact, where the
    source divides to a float. -/
def deleteFraction (stale total : Nat) : Option Rat :=
  if total = 0 then none else some ((stale : Rat) / total)

/-- What `_purge_table` comes to. -/
structure TablePurge where
  db : Database
  deleted : Nat
  refused : Bool

/-- `_purge_table`, with what other transactions commit after its first count and after its second.
    The delete is the third snapshot: it looks for stale rows again, rather than take those counted.
    What is committed after a return is of no concern to it. -/
def purgeTable (cfg : PurgeConfig) (boundary : Instant) (table : ChildTable)
    (first second : List ChildWrite) (db : Database) : Option TablePurge :=
  let total := db.childTotal table
  let db := db.commit first
  let stale := db.childStale boundary table
  let db := db.commit second
  if total = 0 then some ⟨db, 0, false⟩
  else if stale = 0 then some ⟨db, 0, false⟩
  else (deleteFraction stale total).map fun fraction =>
    if cfg.maxDeleteFraction ≤ fraction then ⟨db, 0, true⟩
    else ⟨db.deleteStale boundary table, db.childStale boundary table, false⟩

/-- The awaits of a call, each answered by the tables as they are then.  The tables stand in the
    order in which the awaits see them, one for each await. -/
inductive Goes (cfg : PurgeConfig) : List Database → PurgeCall → PurgeCall → Prop
  | done (call : PurgeCall) : Goes cfg [] call call
  | next {db : Database} {dbs : List Database} {call call' call'' : PurgeCall}
      (hresume : Purge.resume cfg call (.value (answer call.boundary db call.awaiting).1) =
        .suspended call') (hgoes : Goes cfg dbs call' call'') : Goes cfg (db :: dbs) call call''

/-- The fraction is taken of a table that is not empty, so `_purge_table` always returns. -/
theorem purgeTable_eq (cfg : PurgeConfig) (boundary : Instant) (table : ChildTable)
    (first second : List ChildWrite) (db : Database) :
    purgeTable cfg boundary table first second db = some (
      if db.childTotal table = 0 ∨ (db.commit first).childStale boundary table = 0 then
        ⟨(db.commit first).commit second, 0, false⟩
      else if cfg.maxDeleteFraction ≤
          ((db.commit first).childStale boundary table : Rat) / db.childTotal table then
        ⟨(db.commit first).commit second, 0, true⟩
      else ⟨((db.commit first).commit second).deleteStale boundary table,
        ((db.commit first).commit second).childStale boundary table, false⟩) := by
  unfold purgeTable
  dsimp only
  by_cases htotal : db.childTotal table = 0
  · rw [if_pos htotal, if_pos (Or.inl htotal)]
  · rw [if_neg htotal]
    by_cases hstale : (db.commit first).childStale boundary table = 0
    · rw [if_pos hstale, if_pos (Or.inr hstale)]
    · rw [if_neg hstale, if_neg (not_or.mpr ⟨htotal, hstale⟩)]
      unfold deleteFraction
      rw [if_neg htotal, Option.map_some]

/-- `_purge_table` is what `purge` does between two tables.  This checks `purgeTable`, whose three
    snapshots are written out, against the awaits of a call. -/
theorem purgeTable_goes {cfg : PurgeConfig} {boundary : Instant} {table : ChildTable}
    {rest : List ChildTable} {counts : List (ChildTable × Nat)} {first second : List ChildWrite}
    {db : Database} {r : TablePurge} (h : purgeTable cfg boundary table first second db = some r) :
    ∃ n, Goes cfg ([db, db.commit first, (db.commit first).commit second].take n)
      ⟨boundary, .countAll table rest, counts⟩
      ⟨boundary, Purge.nextTable rest, counts ++ [(table, r.deleted)]⟩ := by
  rw [purgeTable_eq] at h
  obtain rfl := Option.some.inj h
  -- One statement, two, or all three: the call goes on with the next table as soon as it knows enough.
  by_cases htotal : db.childTotal table = 0
  · rw [if_pos (Or.inl htotal)]
    exact ⟨1, .next (if_pos htotal) (.done _)⟩
  · by_cases hstale : (db.commit first).childStale boundary table = 0
    · rw [if_pos (Or.inr hstale)]
      exact ⟨2, .next (if_neg htotal) (.next (if_pos (Or.inl hstale)) (.done _))⟩
    · rw [if_neg (not_or.mpr ⟨htotal, hstale⟩)]
      by_cases hcap : cfg.maxDeleteFraction ≤
          ((db.commit first).childStale boundary table : Rat) / db.childTotal table
      · rw [if_pos hcap]
        refine ⟨2, .next (if_neg htotal) (.next (if_pos (Or.inr ?_)) (.done _))⟩
        exact decide_eq_true hcap
      · rw [if_neg hcap]
        refine ⟨3, .next (if_neg htotal) (.next (if_neg ?_) (.next rfl (.done _)))⟩
        -- The fraction it compares is of the two counts, as they were taken.
        rintro (hnone | hrefused)
        · exact hstale hnone
        · exact hcap (of_decide_eq_true hrefused)

/-! ## Stale rows only get fewer -/

section Stale

variable {boundary : Instant} {db : Database}

/-- A write at or after the boundary leaves no more stale rows. -/
theorem childStale_write_le {w : ChildWrite} (hw : boundary ≤ w.stamp) (table : ChildTable) :
    (db.write w).childStale boundary table ≤ db.childStale boundary table := by
  cases w with
  | relationship key row =>
    cases table with
    | externalLinks => exact le_rfl
    -- A relationship that is written is fresh; any other row is as it was.
    | relationships =>
      refine Table.countWhere_le_countWhere ?_
      intro k r hk hold
      have hk : (db.relationships.insert key row).lookup k = some r := hk
      rw [Table.lookup_insert_eq] at hk
      split at hk
      · obtain rfl := Option.some.inj hk
        exact absurd (of_decide_eq_true hold) (not_lt.mpr hw)
      · exact ⟨hk, hold⟩
  | externalLink key row =>
    cases table with
    | relationships => exact le_rfl
    | externalLinks =>
      refine Table.countWhere_le_countWhere ?_
      intro k r hk hold
      have hk : (db.externalLinks.insert key row).lookup k = some r := hk
      rw [Table.lookup_insert_eq] at hk
      split at hk
      · obtain rfl := Option.some.inj hk
        exact absurd (of_decide_eq_true hold) (not_lt.mpr hw)
      · exact ⟨hk, hold⟩

/-- **Stale rows only get fewer** while other transactions commit.  This is what makes the counted
    fraction a bound on what is deleted later. -/
theorem childStale_commit_le {writes : List ChildWrite} (hwrites : ∀ w ∈ writes, boundary ≤ w.stamp)
    (table : ChildTable) :
    (db.commit writes).childStale boundary table ≤ db.childStale boundary table := by
  induction writes generalizing db with
  | nil => exact le_rfl
  | cons w writes ih =>
    have hrest : ((db.write w).commit writes).childStale boundary table ≤
        (db.write w).childStale boundary table := ih fun w' hw' => hwrites w' (List.mem_cons_of_mem _ hw')
    exact hrest.trans (childStale_write_le (hwrites w List.mem_cons_self) table)

/-- After a delete there is none.  The delete and the second count test a row the same way. -/
theorem childStale_deleteStale (table : ChildTable) :
    (db.deleteStale boundary table).childStale boundary table = 0 := by
  cases table with
  | relationships =>
    refine Table.countWhere_eq_zero.mpr fun k r hk => ?_
    exact (Table.lookup_deleteWhere_eq_some.mp hk).2
  | externalLinks =>
    refine Table.countWhere_eq_zero.mpr fun k r hk => ?_
    exact (Table.lookup_deleteWhere_eq_some.mp hk).2

end Stale

/-- With nothing stale there is nothing to remove.  The delete is not even sent: the source returns
    on a zero count, before the fraction is taken. -/
theorem purgeTable_of_none {cfg : PurgeConfig} {boundary : Instant} {table : ChildTable}
    {first second : List ChildWrite} {db : Database} (hnone : db.childStale boundary table = 0)
    (hfirst : ∀ w ∈ first, boundary ≤ w.stamp) :
    purgeTable cfg boundary table first second db =
      some ⟨(db.commit first).commit second, 0, false⟩ := by
  have hstale : (db.commit first).childStale boundary table = 0 := by
    have hle : (db.commit first).childStale boundary table ≤ db.childStale boundary table :=
      childStale_commit_le hfirst table
    omega
  rw [purgeTable_eq, if_pos (Or.inr hstale)]

/-- A delete takes only rows older than the boundary. -/
theorem deleteStale_removes (boundary : Instant) (table : ChildTable) (db : Database) :
    (∀ key row, db.relationships.lookup key = some row →
      key ∉ (db.deleteStale boundary table).relationships → row.updatedAt < boundary) ∧
    (∀ key row, db.externalLinks.lookup key = some row →
      key ∉ (db.deleteStale boundary table).externalLinks → row.updatedAt < boundary) := by
  cases table with
  | relationships =>
    constructor
    · intro key row hrow hgone
      by_contra hold
      exact hgone (Table.mem_deleteWhere.mpr ⟨row, hrow, decide_eq_false hold⟩)
    · exact fun key row hrow hgone => absurd (Finmap.mem_of_lookup_eq_some hrow) hgone
  | externalLinks =>
    constructor
    · exact fun key row hrow hgone => absurd (Finmap.mem_of_lookup_eq_some hrow) hgone
    · intro key row hrow hgone
      by_contra hold
      exact hgone (Table.mem_deleteWhere.mpr ⟨row, hrow, decide_eq_false hold⟩)

/-- **The cap bounds the delete.**  Whatever other transactions commit between the statements of
    `_purge_table`, stamped at or after the boundary, it does not divide by zero; it removes only older
    rows; it removes none when the counted rows are at or over the cap, and otherwise exactly those that
    are still older, fewer than the cap allows; and unless it was refused, nothing is left to remove. -/
theorem cap_bounds_the_delete (cfg : PurgeConfig) (boundary : Instant) (table : ChildTable)
    (first second : List ChildWrite) (db : Database)
    (hfirst : ∀ w ∈ first, boundary ≤ w.stamp) (hsecond : ∀ w ∈ second, boundary ≤ w.stamp) :
    let total := db.childTotal table
    let stale := (db.commit first).childStale boundary table
    let before := (db.commit first).commit second
    ∃ r, purgeTable cfg boundary table first second db = some r ∧
      ((∀ key row, before.relationships.lookup key = some row → key ∉ r.db.relationships →
          row.updatedAt < boundary) ∧
        (∀ key row, before.externalLinks.lookup key = some row → key ∉ r.db.externalLinks →
          row.updatedAt < boundary)) ∧
      (cfg.maxDeleteFraction * total ≤ stale → r.db = before ∧ r.deleted = 0) ∧
      (stale < cfg.maxDeleteFraction * total → r.db = before.deleteStale boundary table ∧
        r.deleted = before.childStale boundary table ∧ r.deleted < cfg.maxDeleteFraction * total) ∧
      (r.refused = false → ∀ between first' second' : List ChildWrite,
        (∀ w ∈ between ++ first' ++ second', boundary ≤ w.stamp) →
          ∃ r', purgeTable cfg boundary table first' second' (r.db.commit between) = some r' ∧
            r'.deleted = 0 ∧ r'.db = ((r.db.commit between).commit first').commit second') := by
  intro total stale before
  have hfewer : before.childStale boundary table ≤ stale := childStale_commit_le hsecond table
  refine ⟨_, purgeTable_eq cfg boundary table first second db, ?_⟩
  -- What a second run finds, once nothing is stale.
  have hagain {after : Database} (hnone : after.childStale boundary table = 0)
      (between first' second' : List ChildWrite)
      (hwrites : ∀ w ∈ between ++ first' ++ second', boundary ≤ w.stamp) :
      ∃ r', purgeTable cfg boundary table first' second' (after.commit between) = some r' ∧
        r'.deleted = 0 ∧ r'.db = ((after.commit between).commit first').commit second' := by
    have hbetween : ∀ w ∈ between, boundary ≤ w.stamp := fun w hw =>
      hwrites w (List.mem_append_left _ (List.mem_append_left _ hw))
    have hfirst' : ∀ w ∈ first', boundary ≤ w.stamp := fun w hw =>
      hwrites w (List.mem_append_left _ (List.mem_append_right _ hw))
    have hstill : (after.commit between).childStale boundary table = 0 := by
      have hle : (after.commit between).childStale boundary table ≤ after.childStale boundary table :=
        childStale_commit_le hbetween table
      omega
    exact ⟨_, purgeTable_of_none hstill hfirst', rfl, rfl⟩
  have hkept : (∀ key row, before.relationships.lookup key = some row →
      key ∉ before.relationships → row.updatedAt < boundary) ∧
      (∀ key row, before.externalLinks.lookup key = some row →
        key ∉ before.externalLinks → row.updatedAt < boundary) :=
    ⟨fun key row hrow hgone => absurd (Finmap.mem_of_lookup_eq_some hrow) hgone,
      fun key row hrow hgone => absurd (Finmap.mem_of_lookup_eq_some hrow) hgone⟩
  by_cases hskip : total = 0 ∨ stale = 0
  · rw [if_pos hskip]
    have hnone : stale = 0 := by
      rcases hskip with htotal | hstale
      · have hempty : db.childStale boundary table = 0 := childStale_of_empty htotal
        have hle : stale ≤ db.childStale boundary table := childStale_commit_le hfirst table
        omega
      · exact hstale
    have hbefore : before.childStale boundary table = 0 := by omega
    refine ⟨hkept, fun _ => ⟨rfl, rfl⟩, ?_, fun _ => hagain hbefore⟩
    intro hunder
    refine ⟨(deleteStale_of_none hbefore).symm, hbefore.symm, ?_⟩
    rw [hnone] at hunder
    exact hunder
  · rw [if_neg hskip]
    obtain ⟨htotal, hstale⟩ := not_or.mp hskip
    have hpos : (0 : Rat) < total := by exact_mod_cast Nat.pos_of_ne_zero htotal
    by_cases hrefused : cfg.maxDeleteFraction ≤ (stale : Rat) / total
    · rw [if_pos hrefused]
      refine ⟨hkept, fun _ => ⟨rfl, rfl⟩, ?_, fun h => Bool.noConfusion h⟩
      intro hunder
      exact absurd ((le_div_iff₀ hpos).mp hrefused) (not_le.mpr hunder)
    · rw [if_neg hrefused]
      refine ⟨deleteStale_removes boundary table before, ?_, ?_,
        fun _ => hagain (childStale_deleteStale table)⟩
      · intro hover
        exact absurd ((le_div_iff₀ hpos).mpr hover) hrefused
      · intro hunder
        refine ⟨rfl, rfl, ?_⟩
        have hle : (before.childStale boundary table : Rat) ≤ stale := by exact_mod_cast hfewer
        exact hle.trans_lt hunder

/-- Three links, two of them older than 10. -/
def threeLinks : Database where
  externalLinks := (((∅ : Table ExternalLinkKey ExternalLinkRow).insert staleLink ⟨1⟩).insert
    { staleLink with serviceName := .str "wikidata" } ⟨2⟩).insert
      { staleLink with serviceName := .str "imdb" } ⟨20⟩

/-- One of the two is refreshed between the second count and the delete, and stays. -/
theorem cap_on_a_refreshed_link :
    ∃ r, purgeTable {} 10 .externalLinks [] [.externalLink staleLink ⟨15⟩] threeLinks = some r ∧
      r.deleted = 1 ∧ staleLink ∈ r.db.externalLinks ∧
      { staleLink with serviceName := .str "wikidata" } ∉ r.db.externalLinks := by
  obtain ⟨r, hr, -, -, hunder, -⟩ := cap_bounds_the_delete {} 10 .externalLinks []
    [.externalLink staleLink ⟨15⟩] threeLinks (by decide) (by decide)
  obtain ⟨hdb, hdeleted, -⟩ := hunder (by decide +kernel)
  refine ⟨r, hr, hdeleted.trans (by decide +kernel), ?_, ?_⟩
  · rw [hdb]
    decide +kernel
  · rw [hdb]
    decide +kernel

/-- Reconciling a table a second time changes nothing. -/
theorem reconcileTable_twice (cfg : PurgeConfig) (boundary : Instant) (db : Database)
    (table : ChildTable) :
    reconcileTable cfg boundary (reconcileTable cfg boundary db table) table =
      reconcileTable cfg boundary db table := by
  by_cases hrefused :
      Purge.refused cfg (db.childTotal table) (db.childStale boundary table) = true
  · have hkept : reconcileTable cfg boundary db table = db := if_pos hrefused
    rw [hkept, hkept]
  · have hdeleted : reconcileTable cfg boundary db table = db.deleteStale boundary table :=
      if_neg hrefused
    rw [hdeleted]
    unfold reconcileTable
    rw [deleteStale_of_none (childStale_deleteStale table), ite_self]

/-! ## The transaction -/

/-- A call driven to its end: the awaits it reached, the counts if it returns, and the tables as
    they are committed then.  Its own statements see what the ones before them did; an exception
    leaves the block, which rolls all of it back.  The fuel is a bound on the awaits, which
    `PurgeAwait.left` counts. -/
def driveCall (cfg : PurgeConfig) (fails : PurgeAwait → Bool) (committed : Database) :
    Nat → PurgeCall → Database → List PurgeAwait × Option (List (ChildTable × Nat)) × Database
  | 0, _, _ => ([], none, committed)
  | fuel + 1, call, working =>
    if fails call.awaiting then ([call.awaiting], none, committed)
    else
      let (n, working) := answer call.boundary working call.awaiting
      match Purge.resume cfg call (.value n) with
      | .suspended call' =>
        let r := driveCall cfg fails committed fuel call' working
        (call.awaiting :: r.1, r.2)
      | .finished deleted => ([call.awaiting], some deleted, working)
      | .raised => ([call.awaiting], none, committed)

/-- How a `purge` call ended. -/
structure PurgeRun where
  reached : List PurgeAwait
  /-- The counts it returns; none when it raises. -/
  result : Option (List (ChildTable × Nat))
  object : StaleChildRowPurge
  db : Database

/-- `purge`, whose awaits fail where `fails` says. -/
def runPurge (cfg : PurgeConfig) (fails : PurgeAwait → Bool) (p : StaleChildRowPurge)
    (db : Database) : PurgeRun :=
  match Purge.start cfg p with
  | .vetoed _ p => ⟨[], some [], p, db⟩
  | .raised => ⟨[], none, p, db⟩
  | .suspended call =>
    let (reached, result, committed) := driveCall cfg fails db (call.awaiting.left cfg) call db
    ⟨reached, result, if result.isSome then p.settle (some call.boundary) else p, committed⟩

section Transaction

variable {cfg : PurgeConfig} {fails : PurgeAwait → Bool} {committed : Database}

/-- A call that returns has committed what it drove to, and one that raises nothing.  The induction
    is on the fuel, with the working tables free: each delete hands other ones on. -/
theorem driveCall_driveOn (fuel : Nat) (call : PurgeCall) (working : Database) :
    (driveCall cfg fails committed fuel call working).2 =
      match driveOn cfg fails fuel call working with
      | some (db, deleted) => (some deleted, db)
      | none => (none, committed) := by
  induction fuel generalizing call working with
  | zero => rfl
  | succ fuel ih =>
    unfold driveCall driveOn
    by_cases hfails : fails call.awaiting = true
    · rw [if_pos hfails, if_pos hfails]
    · rw [if_neg hfails, if_neg hfails]
      dsimp only
      cases hresume : Purge.resume cfg call
          (.value (answer call.boundary working call.awaiting).1) with
      | suspended call' => exact ih call' _
      | finished deleted => rfl
      | raised => rfl

/-- **A call raises exactly when one of its awaits fails**, each of those a healthy call reaches.
    An await behind a failing one is not reached, so what is compared is the healthy call's list;
    the first of it that fails is reached by both. -/
theorem driveCall_raises {fuel : Nat} {call : PurgeCall} (hfuel : call.awaiting.left cfg ≤ fuel)
    (working : Database) :
    (driveCall cfg fails committed fuel call working).2.1 = none ↔
      ∃ awaiting ∈ (driveCall cfg (fun _ => false) committed fuel call working).1,
        fails awaiting = true := by
  -- On the fuel. A healthy run of the same call reaches every await this one would, up to the one that
  -- fails.
  induction fuel generalizing call working with
  | zero =>
    have hpos : 0 < call.awaiting.left cfg := by cases call.awaiting <;> simp [PurgeAwait.left]
    omega
  | succ fuel ih =>
    unfold driveCall
    rw [if_neg Bool.false_ne_true]
    dsimp only
    cases hresume : Purge.resume cfg call
        (.value (answer call.boundary working call.awaiting).1) with
    | suspended call' =>
      -- What is left of the call is its own affair: the rest raises or it does not.
      have hleft := Purge.resume_left hresume
      have henough : call'.awaiting.left cfg ≤ fuel := by omega
      dsimp only
      by_cases hfails : fails call.awaiting = true
      · rw [if_pos hfails]
        exact iff_of_true rfl ⟨_, List.mem_cons_self, hfails⟩
      · rw [if_neg hfails, ih henough]
        constructor
        · rintro ⟨awaiting, hmem, hfail⟩
          exact ⟨awaiting, List.mem_cons_of_mem _ hmem, hfail⟩
        · rintro ⟨awaiting, hmem, hfail⟩
          rcases List.mem_cons.mp hmem with rfl | hmem
          · exact absurd hfail hfails
          · exact ⟨awaiting, hmem, hfail⟩
    -- The last await: nothing but its own failure is left.
    | finished deleted =>
      dsimp only
      by_cases hfails : fails call.awaiting = true
      · rw [if_pos hfails]
        exact iff_of_true rfl ⟨_, List.mem_cons_self, hfails⟩
      · rw [if_neg hfails]
        refine iff_of_false (Option.some_ne_none deleted) ?_
        rintro ⟨awaiting, hmem, hfail⟩
        rw [List.mem_singleton.mp hmem] at hfail
        exact hfails hfail
    | raised => exact absurd hresume (resume_value_ne_raised call _)

end Transaction

section Tables

variable {cfg : PurgeConfig} {boundary : Instant} {db db' : Database}

/-- Reconciling a table reads that table alone. -/
theorem reconcileTable_relationships_congr (h : db.relationships = db'.relationships) :
    (reconcileTable cfg boundary db .relationships).relationships =
      (reconcileTable cfg boundary db' .relationships).relationships := by
  have htotal : db.childTotal .relationships = db'.childTotal .relationships := congrArg Table.count h
  have hstale : db.childStale boundary .relationships = db'.childStale boundary .relationships := by
    simp only [Database.childStale, h]
  rw [reconcileTable_relationships, reconcileTable_relationships, htotal, hstale, h]

/-- A table's reconciliation looks at no other table. -/
theorem reconcileTable_externalLinks_congr (h : db.externalLinks = db'.externalLinks) :
    (reconcileTable cfg boundary db .externalLinks).externalLinks =
      (reconcileTable cfg boundary db' .externalLinks).externalLinks := by
  have htotal : db.childTotal .externalLinks = db'.childTotal .externalLinks := congrArg Table.count h
  have hstale : db.childStale boundary .externalLinks = db'.childStale boundary .externalLinks := by
    simp only [Database.childStale, h]
  rw [reconcileTable_externalLinks, reconcileTable_externalLinks, htotal, hstale, h]

/-- Reconciling tables in turn leaves of each what reconciling it once does.  A table listed twice
    would be reconciled twice, which the second time changes nothing (`reconcileTable_twice`). -/
theorem foldl_reconcileTable_relationships (tables : List ChildTable) (db : Database) :
    (tables.foldl (reconcileTable cfg boundary) db).relationships =
      if .relationships ∈ tables then (reconcileTable cfg boundary db .relationships).relationships
      else db.relationships := by
  induction tables generalizing db with
  | nil => rfl
  | cons table tables ih =>
    rw [List.foldl_cons, ih]
    cases table with
    | externalLinks =>
      have hframe := (reconcileTable_frame cfg boundary db).1
      rw [reconcileTable_relationships_congr hframe, hframe]
      simp
    | relationships =>
      rw [reconcileTable_twice, if_pos List.mem_cons_self, ite_self]

/-- So the tables are reconciled each for itself. -/
theorem foldl_reconcileTable_externalLinks (tables : List ChildTable) (db : Database) :
    (tables.foldl (reconcileTable cfg boundary) db).externalLinks =
      if .externalLinks ∈ tables then (reconcileTable cfg boundary db .externalLinks).externalLinks
      else db.externalLinks := by
  induction tables generalizing db with
  | nil => rfl
  | cons table tables ih =>
    rw [List.foldl_cons, ih]
    cases table with
    | relationships =>
      have hframe := (reconcileTable_frame cfg boundary db).2
      rw [reconcileTable_externalLinks_congr hframe, hframe]
      simp
    | externalLinks =>
      rw [reconcileTable_twice, if_pos List.mem_cons_self, ite_self]

end Tables

/-! ## All or nothing -/

section Outcome

variable {cfg : PurgeConfig} {fails : PurgeAwait → Bool} {p : StaleChildRowPurge} {db : Database}

/-- A call against the tables is the call of `purgeOn`: what it returns and commits when it returns,
    nothing when it raises. -/
theorem runPurge_purgeOn (cfg : PurgeConfig) (fails : PurgeAwait → Bool) (p : StaleChildRowPurge)
    (db : Database) :
    ((runPurge cfg fails p db).result, (runPurge cfg fails p db).object,
        (runPurge cfg fails p db).db) =
      match purgeOn cfg fails p db with
      | some (p', db', deleted) => (some deleted, p', db')
      | none => (none, p, db) := by
  unfold runPurge purgeOn
  cases Purge.start cfg p with
  | vetoed reason p' => rfl
  | raised => rfl
  | suspended call =>
    have hdrive : (driveCall cfg fails db (call.awaiting.left cfg) call db).2 = _ :=
      driveCall_driveOn (call.awaiting.left cfg) call db
    dsimp only
    generalize driveCall cfg fails db (call.awaiting.left cfg) call db = driven at hdrive
    obtain ⟨reached, rest⟩ := driven
    obtain rfl : rest = _ := hdrive
    cases driveOn cfg fails (call.awaiting.left cfg) call db with
    | none => rfl
    | some result => rfl

/-- It raises without an admission, and when one of the awaits of a healthy call fails. -/
theorem runPurge_raises (hveto : p.vetoReason cfg = none) :
    (runPurge cfg fails p db).result = none ↔ cfg.admission = false ∨
      ∃ awaiting ∈ (runPurge cfg (fun _ => false) p db).reached, fails awaiting = true := by
  unfold runPurge
  cases hstart : Purge.start cfg p with
  | vetoed reason p' =>
    rw [(Purge.start_eq_vetoed.mp hstart).1] at hveto
    cases hveto
  -- `start` raises for a missing admission only, once nothing vetoes.
  | raised =>
    refine iff_of_true rfl (Or.inl ?_)
    by_contra hadmission
    obtain ⟨boundary, hboundary⟩ :=
      Option.ne_none_iff_exists'.mp
        (StaleChildRowPurge.isLatched_iff.mp (StaleChildRowPurge.vetoReason_eq_none.mp hveto).1).1
    have hgoes : Purge.start cfg p = .suspended ⟨boundary, .slot, []⟩ :=
      Purge.start_eq_suspended.mpr
        ⟨boundary, hboundary, hveto, Bool.eq_true_of_not_eq_false hadmission, rfl⟩
    rw [hstart] at hgoes
    cases hgoes
  | suspended call =>
    have hadmission := (Purge.start_eq_suspended.mp hstart).choose_spec.2.2.1
    rw [hadmission]
    dsimp only
    rw [driveCall_raises le_rfl]
    simp

/-- **The purge transaction is all or nothing.**  A call that gets past the veto raises exactly when it
    has no admission or one of the awaits it reaches fails.  Then no table lost a row and the object is
    as it was, so that a later call does what a call in its place would have done; otherwise the boundary
    is settled, and each table that is not refused has lost exactly its older rows. -/
theorem purge_is_all_or_nothing (cfg : PurgeConfig) (fails : PurgeAwait → Bool)
    (p : StaleChildRowPurge) (db : Database) (boundary : Instant)
    (hveto : p.vetoReason cfg = none) (hboundary : p.boundary = some boundary) :
    let r := runPurge cfg fails p db
    (r.result = none ↔ cfg.admission = false ∨
      ∃ awaiting ∈ (runPurge cfg (fun _ => false) p db).reached, fails awaiting = true) ∧
    (r.result = none → r.db = db ∧ r.object = p ∧
      ∀ cfg' fails', runPurge cfg' fails' r.object r.db = runPurge cfg' fails' p db) ∧
    (r.result ≠ none → r.object = p.settle (some boundary) ∧
      (r.db.relationships =
        if .relationships ∈ cfg.tables ∧ Purge.refused cfg (db.childTotal .relationships)
            (db.childStale boundary .relationships) = false then
          db.relationships.deleteWhere fun _ row => row.updatedAt < boundary
        else db.relationships) ∧
      r.db.externalLinks =
        if .externalLinks ∈ cfg.tables ∧ Purge.refused cfg (db.childTotal .externalLinks)
            (db.childStale boundary .externalLinks) = false then
          db.externalLinks.deleteWhere fun _ row => row.updatedAt < boundary
        else db.externalLinks) := by
  intro r
  -- The run against the tables is the purge of the earlier results; what it adds is where it stands
  -- when it fails.
  have hpurge := runPurge_purgeOn cfg fails p db
  refine ⟨runPurge_raises hveto, ?_, ?_⟩
  -- An exception: nothing is committed, and the object is the same, so whatever is called next finds
  -- them so.
  · intro hraises
    cases hon : purgeOn cfg fails p db with
    | none =>
      rw [hon] at hpurge
      have hobject : r.object = p := congrArg (·.2.1) hpurge
      have hdb : r.db = db := congrArg (·.2.2) hpurge
      refine ⟨hdb, hobject, ?_⟩
      intro cfg' fails'
      rw [hobject, hdb]
    | some result =>
      rw [hon] at hpurge
      have hresult : r.result = some result.2.2 := congrArg (·.1) hpurge
      rw [hraises] at hresult
      cases hresult
  -- A return: every table has been reconciled, in one transaction.
  · intro hreturns
    cases hon : purgeOn cfg fails p db with
    | none =>
      rw [hon] at hpurge
      exact absurd (congrArg (·.1) hpurge) hreturns
    | some result =>
      obtain ⟨p', db', deleted⟩ := result
      rw [hon] at hpurge
      have hobject : r.object = p' := congrArg (·.2.1) hpurge
      have hdb : r.db = db' := congrArg (·.2.2) hpurge
      obtain ⟨htables, hsettled⟩ := purgeOn_tables hveto hboundary hon
      refine ⟨hobject.trans hsettled, ?_, ?_⟩
      · rw [hdb, htables, foldl_reconcileTable_relationships, reconcileTable_relationships]
        -- A table that is not configured is left alone.
        by_cases hmem : ChildTable.relationships ∈ cfg.tables
        · rw [if_pos hmem]
          cases Purge.refused cfg (db.childTotal .relationships)
              (db.childStale boundary .relationships) <;> simp [hmem]
        · rw [if_neg hmem, if_neg (fun h => hmem h.1)]
      · rw [hdb, htables, foldl_reconcileTable_externalLinks, reconcileTable_externalLinks]
        by_cases hmem : ChildTable.externalLinks ∈ cfg.tables
        · rw [if_pos hmem]
          cases Purge.refused cfg (db.childTotal .externalLinks)
              (db.childStale boundary .externalLinks) <;> simp [hmem]
        · rw [if_neg hmem, if_neg (fun h => hmem h.1)]

/-- `threeLinks`, with one relationship older than 10 and one that is not. -/
def twoStaleTables : Database := { threeLinks with
  relationships := ((∅ : Table RelationshipKey RelationshipRow).insert staleRelationship
    ⟨.bool false, 1⟩).insert { staleRelationship with beginDate := .str "1990" } ⟨.bool false, 20⟩ }
where
  staleRelationship : RelationshipKey := ⟨staleLink.mbid, .str "label", staleLink.mbid, .str "label",
    .str "label ownership", .arr [], .null, .null⟩

/-- The delete of the second table fails and the first table has its row back; a later call deletes
    from both. -/
theorem second_delete_undoes_the_first :
    let fails (awaiting : PurgeAwait) := decide (awaiting.deletes = some .externalLinks)
    let r := runPurge {} fails latchedPurge twoStaleTables
    let again := runPurge {} (fun _ => false) r.object r.db
    r.db = twoStaleTables ∧ r.object = latchedPurge ∧
      again.object.settledBoundary = some 10 ∧
      again.db.relationships.count = 1 ∧ again.db.externalLinks.count = 1 := by
  intro fails r again
  obtain ⟨hraises, hkept, -⟩ := purge_is_all_or_nothing {} fails latchedPurge twoStaleTables 10
    (by decide +kernel) rfl
  have hfailed : r.result = none := hraises.mpr (Or.inr
    ⟨.deleteStale .externalLinks 3 2 [], by decide +kernel, rfl⟩)
  obtain ⟨hdb, hobject, hlater⟩ := hkept hfailed
  have hagain : again = runPurge {} (fun _ => false) latchedPurge twoStaleTables := hlater _ _
  obtain ⟨-, -, hreturns⟩ := purge_is_all_or_nothing {} (fun _ => false) latchedPurge twoStaleTables
    10 (by decide +kernel) rfl
  obtain ⟨hsettled, hrelationships, hlinks⟩ := hreturns (by decide +kernel)
  rw [hagain, hsettled, hrelationships, hlinks]
  exact ⟨hdb, hobject, rfl, by decide +kernel, by decide +kernel⟩

end Outcome

end Records
