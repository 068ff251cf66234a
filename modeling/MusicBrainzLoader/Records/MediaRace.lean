/-
  Releases of one Discogs release that run at the same time.

  `graph.issued_on` under READ COMMITTED, statement by statement:

  * **What a transaction sees** — the committed rows with its own changes laid over them.
  * **Row locks** — a delete waits for a transaction that has changed a row it sees, an insert for one
    that has changed the row under its key.
  * **The advisory lock** — it is held by one transaction at a time, to the end of that transaction.
  * **The plain insert** — it fails on a row that is there.

  Without the advisory lock none of this would come out: a delete sees the rows that are committed when
  it runs, not those a neighbour has inserted and not committed, and the neighbour's insert then fails on
  a row that was not there when its own delete ran.  Row locks do not help where there is no row yet.

  The lock is the first statement of every transaction, so the one that holds it is the only one with
  changes: it runs as if alone (`TxInv`), and the rows of the range are those of the last commit.  A
  transaction alone is one pass over its statements (`issuedAll`), which the statement-by-statement
  machine is compared with; the invariant then only has to say who holds the lock, and that nobody else
  has changed anything.

  One might hope to prove more: that a run of the statements comes to what it comes to with the
  transactions one after the other.  Of the whole database that is false, since other tables have no
  such lock.  It is true of the rows of one range, and `Serial` says so: those rows are what the
  committed transactions, in the order of their commits, make of the initial ones.
-/
import MusicBrainzLoader.Lib.Interleaving
import MusicBrainzLoader.Lib.Runs
import MusicBrainzLoader.Records.Media

namespace Records

namespace MediaRace

open Interleaving

/-! ## Transactions -/

/-- How a transaction stands. -/
inductive Status where
  | running
  /-- A statement failed on the primary key. -/
  | failed
  | ended
deriving DecidableEq

/-- A release in its transaction. -/
structure Tx where
  record : Json
  gmItemId : Option Item
  /-- The statements it has run, and those it still has to. -/
  sent : List Statement := []
  rest : List Statement
  /-- The advisory locks it holds. -/
  held : Finset (String × String) := ∅
  /-- The rows it has inserted or deleted. -/
  changes : Table IssuedOnKey (Option Nat) := ∅
  status : Status := .running

/-- The committed rows, the advisory lock and the transactions. -/
structure State where
  /-- The committed rows. -/
  issuedOn : Table IssuedOnKey Nat
  txs : List Tx := []
  /-- The records whose transactions have committed, oldest first. -/
  committed : List Json := []

/-- The rows a transaction sees. -/
def State.seen (s : State) (tx : Tx) : Table IssuedOnKey Nat := Table.overlay tx.changes s.issuedOn

/-- No other transaction has changed these rows. -/
def unchanged (others : List Tx) (keys : Finset IssuedOnKey) : Bool :=
  others.all fun tx => decide (Disjoint tx.changes.keys keys)

/-- A statement of a transaction, beside the others; none while it has to wait. -/
def run (seen : Table IssuedOnKey Nat) (others : List Tx) (tx : Tx) : Statement → Option Tx
  | .lockReleaseMedia releaseId source =>
    if others.all fun other => decide ((releaseId, source) ∉ other.held) then
      some { tx with held := insert (releaseId, source) tx.held }
    else none
  | .deleteReleaseMedia releaseId source =>
    let hit := seen.keep fun key _ => key.releaseId = releaseId ∧ key.source = source
    if unchanged others hit.keys then
      some { tx with changes := hit.mapRows (fun _ => none) ∪ tx.changes }
    else none
  | .insertReleaseMedium releaseId mediumId source qty =>
    let key : IssuedOnKey := { releaseId, mediumId, source }
    if !unchanged others {key} then none
    else if key ∈ seen then some { tx with status := .failed }
    else some { tx with changes := tx.changes.insert key (some qty) }
  | _ => some tx

/-- A transaction begins, sends its next statement, or ends. -/
inductive Action where
  | begin (record : Json) (gmItemId : Option Item)
  /-- The `i`-th transaction runs its next statement. -/
  | statement (i : Nat)
  | commit (i : Nat)
  | rollback (i : Nat)

/-- A transaction that has come to its end holds nothing. -/
def Tx.closed (tx : Tx) : Tx := { tx with held := ∅, changes := ∅, status := .ended }

/-- Whether the code of a record comes to its end. -/
def completes (ext : Externals) (record : Json) : Bool :=
  (recordStatements ext .release record none).isSome

def step (ext : Externals) (s : State) : Action → Option State
  | .begin record gmItemId => some { s with
      txs := s.txs ++ [{ record, gmItemId, rest := sentStatements ext .release record gmItemId }] }
  | .statement i => do
    let tx ← s.txs[i]?
    match tx.status, tx.rest with
    | .running, statement :: rest =>
      let tx ← run (s.seen tx) (s.txs.eraseIdx i) { tx with sent := tx.sent ++ [statement], rest } statement
      return { s with txs := s.txs.set i tx }
    | _, _ => none
  | .commit i => do
    let tx ← s.txs[i]?
    match tx.status, tx.rest with
    | .running, [] =>
      if completes ext tx.record then
        return { issuedOn := s.seen tx, txs := s.txs.set i tx.closed,
                 committed := s.committed ++ [tx.record] }
      else none
    | _, _ => none
  | .rollback i => s.txs[i]?.map fun tx => { s with txs := s.txs.set i tx.closed }

/-! ## One transaction, alone -/

/-- A statement's effect on the rows. -/
def execIssued (t : Table IssuedOnKey Nat) : Statement → Option (Table IssuedOnKey Nat)
  | .deleteReleaseMedia releaseId source =>
    some (t.deleteWhere fun key _ => key.releaseId = releaseId ∧ key.source = source)
  | .insertReleaseMedium releaseId mediumId source qty =>
    t.insertNew { releaseId, mediumId, source } qty
  | _ => some t

/-- Statements one after the other. -/
def issuedAll (t : Table IssuedOnKey Nat) (statements : List Statement) :
    Option (Table IssuedOnKey Nat) :=
  statements.foldlM execIssued t

section Alone

variable {ext : Externals} {record : Json} {gm : Option Item} {releaseId : String}
  {t u : Table IssuedOnKey Nat}

/-- It is what the statement does to the whole database, on this table. -/
theorem execIssued_exec {casts : Casts} {refresh : Bool} {now : Instant} {db db' : Database}
    {statement : Statement} (h : exec casts refresh now db statement = some db') :
    execIssued db.issuedOn statement = some db'.issuedOn := by
  cases statement with
  -- Of all statements the insert alone can fail at the edges, on a key that is there.
  | insertReleaseMedium releaseId mediumId source qty =>
    obtain ⟨issuedOn, hnew, h⟩ := Option.bind_eq_some_iff.mp h
    obtain rfl := Option.some.inj h
    exact hnew
  | upsertEntity kind values =>
    obtain ⟨row, -, h⟩ := Option.bind_eq_some_iff.mp h
    obtain rfl := Option.some.inj h
    rfl
  | upsertRelationship values =>
    obtain ⟨row, -, h⟩ := Option.bind_eq_some_iff.mp h
    obtain rfl := Option.some.inj h
    rfl
  | upsertExternalLink values =>
    obtain ⟨key, -, h⟩ := Option.bind_eq_some_iff.mp h
    obtain rfl := Option.some.inj h
    rfl
  | _ =>
    obtain rfl := Option.some.inj h
    rfl

/-- What a transaction does to the edges, alone. -/
theorem issuedAll_execAll {casts : Casts} {refresh : Bool} {now : Instant} {db db' : Database}
    {statements : List Statement} (h : execAll casts refresh now db statements = some db') :
    issuedAll db.issuedOn statements = some db'.issuedOn := by
  induction statements generalizing db with
  | nil =>
    obtain rfl := Option.some.inj h
    rfl
  | cons statement statements ih =>
    obtain ⟨d, hd, h⟩ := execAll_cons_eq_some.mp h
    unfold issuedAll
    rw [List.foldlM_cons, execIssued_exec hd]
    exact ih h

/-- Statements one after the other. -/
theorem issuedAll_append {as bs : List Statement} :
    issuedAll t (as ++ bs) = (issuedAll t as).bind fun u => issuedAll u bs := by
  unfold issuedAll
  rw [List.foldlM_append]
  rfl

/-- Statements about other tables. -/
theorem issuedAll_other {statements : List Statement}
    (h : ∀ statement ∈ statements, ∀ t, execIssued t statement = some t) :
    issuedAll t statements = some t := by
  induction statements with
  | nil => rfl
  | cons statement statements ih =>
    unfold issuedAll
    rw [List.foldlM_cons, h statement List.mem_cons_self t]
    exact ih fun other hmem => h other (List.mem_cons_of_mem _ hmem)

/-- A release's media statements replace the range. -/
theorem issuedAll_media {m : MediaPlan} (hnodup : (m.rows.map (·.medium)).Nodup) (ext : Externals) :
    issuedAll t m.statements = some (m.applyIssuedOn t) := by
  have hrun : execAll ext.casts true 0 { issuedOn := t } m.statements = some _ :=
    execAll_mediaPlan hnodup
  exact issuedAll_execAll hrun

/-- The statements of a record, when its code comes to its media and when it does not. -/
theorem sentStatements_release (ext : Externals) (gm : Option Item)
    (hkey : releaseKey record = some releaseId) :
    ∃ others, sentStatements ext .release record gm = .lockReleaseMedia releaseId MEDIA_SOURCE ::
        .upsertEntity .release (entityValues ext .release record gm) :: others ∧
      ((mediaEdgeRows ext (releaseMediaBlock ext record) = none ∧ others = []) ∨
       ∃ rows children, mediaEdgeRows ext (releaseMediaBlock ext record) = some rows ∧
        others = MediaPlan.statements ⟨releaseId, rows⟩ ++ children ∧
        ∀ statement ∈ children, (∃ values, statement = .upsertRelationship values) ∨
          ∃ values, statement = .upsertExternalLink values) := by
  -- A release with an id of its own takes the lock before anything else.
  have hfirst : firstLock .release record = [.lockReleaseMedia releaseId MEDIA_SOURCE] := by
    unfold firstLock
    unfold releaseKey at hkey
    cases hid : record.get "discogs_release_id" <;> rw [hid] at hkey <;> cases hkey <;> rfl
  have hmedia : mediaStatements ext .release record =
      (mediaEdgeRows ext (releaseMediaBlock ext record)).map fun rows =>
        MediaPlan.statements ⟨releaseId, rows⟩ := by
    rw [mediaStatements_eq, mediaPlan_release, hkey, Option.map_map]
    rfl
  unfold sentStatements
  rw [hfirst, hmedia]
  -- And again with its media, between the vocabulary and the edges.
  refine ⟨_, rfl, ?_⟩
  cases hrows : mediaEdgeRows ext (releaseMediaBlock ext record) with
  | none => exact Or.inl ⟨rfl, rfl⟩
  | some rows =>
    refine Or.inr ⟨rows, _, rfl, rfl, fun statement hmem => ?_⟩
    -- Children come after the media, unless a list of theirs is unreadable.
    split at hmem
    · cases hmem
    · rcases List.mem_append.mp hmem with hmem | hmem
      · obtain ⟨values, -, rfl⟩ := List.mem_map.mp hmem
        exact Or.inl ⟨values, rfl⟩
      · split at hmem
        · cases hmem
        · obtain ⟨values, -, rfl⟩ := List.mem_map.mp hmem
          exact Or.inr ⟨values, rfl⟩

/-- A statement that writes `graph.issued_on`, or locks it, keeps to the range. -/
def InRange (releaseId : String) : Statement → Prop
  | .lockReleaseMedia id source | .deleteReleaseMedia id source
  | .insertReleaseMedium id _ source _ => id = releaseId ∧ source = MEDIA_SOURCE
  | _ => True

/-- Whatever a release sends keeps to its range. -/
theorem sent_inRange (hkey : releaseKey record = some releaseId) {statement : Statement}
    (hmem : statement ∈ sentStatements ext .release record gm) : InRange releaseId statement := by
  obtain ⟨others, hsent, hothers⟩ := sentStatements_release ext gm hkey
  rw [hsent] at hmem
  rcases List.mem_cons.mp hmem with rfl | hmem
  · exact ⟨rfl, rfl⟩
  rcases List.mem_cons.mp hmem with rfl | hmem
  · trivial
  rcases hothers with ⟨-, rfl⟩ | ⟨rows, children, -, rfl, hchildren⟩
  · cases hmem
  · rcases List.mem_append.mp hmem with hmem | hmem
    · simp only [MediaPlan.statements, List.mem_append, List.mem_map, List.mem_cons,
        List.not_mem_nil, or_false] at hmem
      rcases hmem with ((⟨_, -, rfl⟩ | ⟨_, -, rfl⟩) | rfl | rfl) | ⟨_, -, rfl⟩
      · trivial
      · trivial
      · exact ⟨rfl, rfl⟩
      · exact ⟨rfl, rfl⟩
      · exact ⟨rfl, rfl⟩
    · rcases hchildren statement hmem with ⟨values, rfl⟩ | ⟨values, rfl⟩ <;> trivial

/-- **Alone, no statement fails**, and one that comes to its end has replaced the range with its
    block's rows. -/
theorem sent_issued (ext : Externals) (gm : Option Item) (hkey : releaseKey record = some releaseId)
    (t : Table IssuedOnKey Nat) :
    ∃ u, issuedAll t (sentStatements ext .release record gm) = some u ∧
      (completes ext record = true → ∃ rows,
        mediaEdgeRows ext (releaseMediaBlock ext record) = some rows ∧
          u = MediaPlan.applyIssuedOn ⟨releaseId, rows⟩ t) := by
  obtain ⟨others, hsent, hothers⟩ := sentStatements_release ext gm hkey
  rw [hsent]
  rcases hothers with ⟨hnone, rfl⟩ | ⟨rows, children, hrows, rfl, hchildren⟩
  · refine ⟨t, rfl, fun hcompletes => ?_⟩
    obtain ⟨statements, hstatements⟩ := Option.isSome_iff_exists.mp hcompletes
    obtain ⟨media, -, -, hmedia, -⟩ := recordStatements_eq_some.mp hstatements
    rw [mediaPlan_release, hkey, hnone] at hmedia
    cases hmedia
  · refine ⟨MediaPlan.applyIssuedOn ⟨releaseId, rows⟩ t, ?_, fun _ => ⟨rows, hrows, rfl⟩⟩
    show issuedAll t (MediaPlan.statements ⟨releaseId, rows⟩ ++ children) = _
    rw [issuedAll_append, issuedAll_media (mediaEdgeRows_nodup hrows) ext, Option.bind_some]
    refine issuedAll_other fun statement hmem t => ?_
    rcases hchildren statement hmem with ⟨values, rfl⟩ | ⟨values, rfl⟩ <;> rfl

end Alone

/-! ## Beside the others -/

/-- The advisory lock of the range. -/
def rangeLock (releaseId : String) : String × String := (releaseId, MEDIA_SOURCE)

/-- A transaction that has sent nothing yet. -/
structure Fresh (tx : Tx) : Prop where
  sent : tx.sent = []
  held : tx.held = ∅
  changes : tx.changes = ∅

/-- A transaction that holds the lock sees what its statements do to the committed rows alone, and has
    changed no row out of the range. -/
structure Holding (releaseId : String) (issuedOn : Table IssuedOnKey Nat) (tx : Tx) : Prop where
  lock : rangeLock releaseId ∈ tx.held
  alone : issuedAll issuedOn tx.sent = some (Table.overlay tx.changes issuedOn)
  inRange : ∀ key ∈ tx.changes, key.releaseId = releaseId ∧ key.source = MEDIA_SOURCE

/-- What holds of each transaction: it holds the lock from its first statement to its end. -/
def TxInv (releaseId : String) (issuedOn : Table IssuedOnKey Nat) (tx : Tx) : Prop :=
  match tx.status with
  | .running => Fresh tx ∨ Holding releaseId issuedOn tx
  | .failed => False
  | .ended => tx.held = ∅ ∧ tx.changes = ∅

/-- The transaction names the release, and has run the statements of its record in their order. -/
structure Faithful (ext : Externals) (releaseId : String) (tx : Tx) : Prop where
  key : releaseKey tx.record = some releaseId
  program : tx.sent ++ tx.rest = sentStatements ext .release tx.record tx.gmItemId

/-- The quantity the range has for a medium after these commits. -/
def lastQty (ext : Externals) (releaseId : String) (initial : Table IssuedOnKey Nat)
    (committed : List Json) (medium : String) : Option Nat :=
  match committed.getLast? with
  | none => initial.lookup ⟨releaseId, medium, MEDIA_SOURCE⟩
  | some record =>
    (mediaEdgeRows ext (releaseMediaBlock ext record)).bind fun rows => rowQty rows medium

structure Serial (ext : Externals) (releaseId : String) (initial : Table IssuedOnKey Nat) (s : State) :
    Prop where
  faithful : ∀ (i : Nat) (tx : Tx), s.txs[i]? = some tx → Faithful ext releaseId tx
  txs : ∀ (i : Nat) (tx : Tx), s.txs[i]? = some tx → TxInv releaseId s.issuedOn tx
  apart : ∀ (i j : Nat) (tx tx' : Tx), i ≠ j → s.txs[i]? = some tx → s.txs[j]? = some tx' →
    rangeLock releaseId ∈ tx.held → rangeLock releaseId ∉ tx'.held
  rows : ∀ medium, s.issuedOn.lookup ⟨releaseId, medium, MEDIA_SOURCE⟩ =
    lastQty ext releaseId initial s.committed medium
  blocks : ∀ record ∈ s.committed,
    ∃ rows, mediaEdgeRows ext (releaseMediaBlock ext record) = some rows
  others : ∀ key : IssuedOnKey, ¬ (key.releaseId = releaseId ∧ key.source = MEDIA_SOURCE) →
    s.issuedOn.lookup key = initial.lookup key

section Beside

variable {ext : Externals} {releaseId : String} {issuedOn seen : Table IssuedOnKey Nat}
  {others : List Tx} {tx tx' : Tx} {statement : Statement} {rest : List Statement}

/-- **What a statement does beside the others.** -/
theorem run_cases (h : run seen others tx statement = some tx') :
    (∃ id source, statement = .lockReleaseMedia id source ∧
      (∀ other ∈ others, (id, source) ∉ other.held) ∧
      tx' = { tx with held := insert (id, source) tx.held }) ∨
    (∃ id source, statement = .deleteReleaseMedia id source ∧ tx' = { tx with
      changes := (seen.keep fun key _ => key.releaseId = id ∧ key.source = source).mapRows
        (fun _ => none) ∪ tx.changes }) ∨
    (∃ id medium source qty, statement = .insertReleaseMedium id medium source qty ∧
      (⟨id, medium, source⟩ : IssuedOnKey) ∈ seen ∧ tx' = { tx with status := .failed }) ∨
    (∃ id medium source qty, statement = .insertReleaseMedium id medium source qty ∧
      (⟨id, medium, source⟩ : IssuedOnKey) ∉ seen ∧
      tx' = { tx with changes := tx.changes.insert ⟨id, medium, source⟩ (some qty) }) ∨
    ((∀ id source, statement ≠ .lockReleaseMedia id source) ∧
      (∀ t, execIssued t statement = some t) ∧ tx' = tx) := by
  cases statement with
  | lockReleaseMedia id source =>
    -- The lock is waited for: it is granted where nobody else holds it.
    simp only [run] at h
    split at h
    · rename_i hfree
      refine Or.inl ⟨id, source, rfl, fun other hother => ?_, (Option.some.inj h).symm⟩
      exact of_decide_eq_true (List.all_eq_true.mp hfree other hother)
    · cases h
  | deleteReleaseMedia id source =>
    simp only [run] at h
    split at h
    · exact Or.inr (Or.inl ⟨id, source, rfl, (Option.some.inj h).symm⟩)
    · cases h
  | insertReleaseMedium id medium source qty =>
    simp only [run] at h
    split at h
    · cases h
    -- A unique violation fails the transaction, and it sends nothing more.
    · split at h
      · rename_i hmem
        exact Or.inr (Or.inr (Or.inl ⟨id, medium, source, qty, rfl, hmem, (Option.some.inj h).symm⟩))
      · rename_i hnew
        exact Or.inr (Or.inr (Or.inr (Or.inl
          ⟨id, medium, source, qty, rfl, hnew, (Option.some.inj h).symm⟩)))
  | _ => exact Or.inr (Or.inr (Or.inr (Or.inr ⟨nofun, fun _ => rfl, (Option.some.inj h).symm⟩)))

/-- **The holder of the lock runs as if alone**: its next statement does not fail. -/
theorem holding_run (h : Holding releaseId issuedOn tx) (hfaithful : Faithful ext releaseId tx)
    (hrest : tx.rest = statement :: rest)
    (hrun : run (Table.overlay tx.changes issuedOn) others
      { tx with sent := tx.sent ++ [statement], rest } statement = some tx') :
    tx'.status = tx.status ∧ tx'.record = tx.record ∧ tx'.gmItemId = tx.gmItemId ∧
      tx'.sent = tx.sent ++ [statement] ∧ tx'.rest = rest ∧ Holding releaseId issuedOn tx' := by
  have hprogram := hfaithful.program
  rw [hrest] at hprogram
  have hmem : statement ∈ sentStatements ext .release tx.record tx.gmItemId := by
    rw [← hprogram]
    exact List.mem_append_right _ List.mem_cons_self
  have hinRange : InRange releaseId statement := sent_inRange hfaithful.key hmem
  -- What it has sent so far, run alone on the committed edges, comes to what it sees. The claim is that
  -- this stays so with the next statement.
  have hsent (u : Table IssuedOnKey Nat)
      (hu : execIssued (Table.overlay tx.changes issuedOn) statement = some u) :
      issuedAll issuedOn (tx.sent ++ [statement]) = some u := by
    rw [issuedAll_append, h.alone, Option.bind_some]
    show (execIssued _ statement).bind some = some u
    rw [hu]
    rfl
  rcases run_cases hrun with ⟨id, source, rfl, -, rfl⟩ | ⟨id, source, rfl, rfl⟩ |
    ⟨id, medium, source, qty, rfl, hmem, rfl⟩ | ⟨id, medium, source, qty, rfl, hnew, rfl⟩ |
    ⟨-, hother, rfl⟩
  -- The lock once more, the delete, an insert on a key that is there, an insert, and a statement that
  -- leaves the edges alone.
  · exact ⟨rfl, rfl, rfl, rfl, rfl, Finset.mem_insert_of_mem h.lock, hsent _ rfl, h.inRange⟩
  · refine ⟨rfl, rfl, rfl, rfl, rfl, h.lock, ?_, ?_⟩
    · refine hsent _ ?_
      rw [Table.overlay_delete]
      rfl
    -- What it has deleted is of its own range, for the statement is.
    · intro key hmem
      rcases Finmap.mem_union.mp hmem with hmem | hmem
      · rw [← Finmap.lookup_isSome, Table.lookup_mapRows, Table.lookup_keep, Option.isSome_map,
          Option.isSome_filter] at hmem
        obtain ⟨qty, -, hhit⟩ := (Option.any_eq_true _ _).mp hmem
        obtain ⟨hid, hsource⟩ := of_decide_eq_true hhit
        exact ⟨hid.trans hinRange.1, hsource.trans hinRange.2⟩
      · exact h.inRange key hmem
  · -- Alone, the same insert succeeds.
    exfalso
    obtain ⟨u, hu, -⟩ := sent_issued ext tx.gmItemId hfaithful.key issuedOn
    rw [← hprogram, issuedAll_append, h.alone, Option.bind_some] at hu
    obtain ⟨v, hv, -⟩ := Option.bind_eq_some_iff.mp hu
    exact (Table.insertNew_eq_some.mp hv).1 hmem
  · refine ⟨rfl, rfl, rfl, rfl, rfl, h.lock, ?_, ?_⟩
    · refine hsent _ ?_
      rw [Table.overlay_insert]
      exact Table.insertNew_eq_some.mpr ⟨hnew, rfl⟩
    -- So is what it inserts.
    · intro key hmem
      rcases Finmap.mem_insert.mp hmem with rfl | hmem
      · exact hinRange
      · exact h.inRange key hmem
  · exact ⟨rfl, rfl, rfl, rfl, rfl, h.lock, hsent _ (hother _), h.inRange⟩

/-- **The first statement takes the lock**, when nobody else holds it. -/
theorem fresh_run (issuedOn : Table IssuedOnKey Nat) (h : Fresh tx) (hfaithful : Faithful ext releaseId tx)
    (hrest : tx.rest = statement :: rest)
    (hrun : run seen others { tx with sent := tx.sent ++ [statement], rest } statement = some tx') :
    tx'.status = tx.status ∧ tx'.record = tx.record ∧ tx'.gmItemId = tx.gmItemId ∧
      tx'.sent = tx.sent ++ [statement] ∧ tx'.rest = rest ∧ Holding releaseId issuedOn tx' ∧
      ∀ other ∈ others, rangeLock releaseId ∉ other.held := by
  have hprogram := hfaithful.program
  obtain ⟨tail, hsent, -⟩ := sentStatements_release ext tx.gmItemId hfaithful.key
  rw [h.sent, List.nil_append, hrest, hsent] at hprogram
  -- Before it holds the lock there is one statement it can send.
  obtain rfl : statement = .lockReleaseMedia releaseId MEDIA_SOURCE := (List.cons.inj hprogram).1
  rcases run_cases hrun with ⟨id, source, heq, hfree, rfl⟩ | ⟨id, source, heq, -⟩ |
    ⟨id, medium, source, qty, heq, -⟩ | ⟨id, medium, source, qty, heq, -⟩ | ⟨hlock, -⟩
  -- Nothing has been changed yet, so what it sees is what is committed by now, whenever it began.
  · obtain ⟨rfl, rfl⟩ := Statement.lockReleaseMedia.inj heq
    refine ⟨rfl, rfl, rfl, rfl, rfl, ⟨Finset.mem_insert_self _ _, ?_, ?_⟩, hfree⟩
    · show issuedAll issuedOn (tx.sent ++ [_]) = some (Table.overlay tx.changes issuedOn)
      rw [h.sent, h.changes, Table.overlay_empty]
      rfl
    · intro key hmem
      have hmem : key ∈ tx.changes := hmem
      rw [h.changes] at hmem
      exact absurd hmem Finmap.notMem_empty
  · cases heq
  · cases heq
  · cases heq
  · exact absurd rfl (hlock releaseId MEDIA_SOURCE)

end Beside

/-! ## Runs -/

section Step

variable {ext : Externals} {releaseId : String} {initial : Table IssuedOnKey Nat} {s s' : State}
  {a : Action}

/-- **What a step does.** -/
theorem step_cases (h : step ext s a = some s') :
    (∃ record gmItemId, a = .begin record gmItemId ∧ s' = { s with txs := s.txs ++
      [{ record, gmItemId, rest := sentStatements ext .release record gmItemId }] }) ∨
    (∃ i tx statement rest tx', a = .statement i ∧ s.txs[i]? = some tx ∧ tx.status = .running ∧
      tx.rest = statement :: rest ∧ run (s.seen tx) (s.txs.eraseIdx i)
        { tx with sent := tx.sent ++ [statement], rest } statement = some tx' ∧
      s' = { s with txs := s.txs.set i tx' }) ∨
    (∃ i tx, a = .commit i ∧ s.txs[i]? = some tx ∧ tx.status = .running ∧ tx.rest = [] ∧
      completes ext tx.record = true ∧
      s' = { issuedOn := s.seen tx, txs := s.txs.set i tx.closed,
             committed := s.committed ++ [tx.record] }) ∨
    (∃ i tx, a = .rollback i ∧ s.txs[i]? = some tx ∧ s' = { s with txs := s.txs.set i tx.closed }) := by
  cases a with
  | begin record gmItemId => exact Or.inl ⟨record, gmItemId, rfl, (Option.some.inj h).symm⟩
  | statement i =>
    obtain ⟨tx, htx, h⟩ := Option.bind_eq_some_iff.mp h
    split at h
    · rename_i statement rest hstatus hrest
      obtain ⟨tx', htx', h⟩ := Option.bind_eq_some_iff.mp h
      exact Or.inr (Or.inl ⟨i, tx, statement, rest, tx', rfl, htx, hstatus, hrest, htx',
        (Option.some.inj h).symm⟩)
    · cases h
  | commit i =>
    obtain ⟨tx, htx, h⟩ := Option.bind_eq_some_iff.mp h
    -- A commit: every statement sent, none failed, and the lists readable to the end.
    split at h
    · rename_i hstatus hrest
      split at h
      · rename_i hcompletes
        exact Or.inr (Or.inr (Or.inl ⟨i, tx, rfl, htx, hstatus, hrest, hcompletes,
          (Option.some.inj h).symm⟩))
      · cases h
    · cases h
  | rollback i =>
    obtain ⟨tx, htx, h⟩ := Option.map_eq_some_iff.mp h
    exact Or.inr (Or.inr (Or.inr ⟨i, tx, rfl, htx, h.symm⟩))

/-- Only the holder of the lock depends on the committed rows. -/
theorem TxInv.of_not_held {issuedOn issuedOn' : Table IssuedOnKey Nat} {tx : Tx}
    (h : TxInv releaseId issuedOn tx) (hnot : rangeLock releaseId ∉ tx.held) :
    TxInv releaseId issuedOn' tx := by
  unfold TxInv at h ⊢
  split <;> rename_i hstatus <;> rw [hstatus] at h
  · exact h.imp_right fun hholding => absurd hholding.lock hnot
  · exact h
  · exact h

/-- One transaction replaced, by one that holds the lock only if it did or nobody else does. -/
theorem Serial.set (h : Serial ext releaseId initial s) {i : Nat} (tx : Tx)
    (hfaithful : Faithful ext releaseId tx) (htx : TxInv releaseId s.issuedOn tx)
    (hlock : rangeLock releaseId ∈ tx.held → ∀ j tx', j ≠ i → s.txs[j]? = some tx' →
      rangeLock releaseId ∉ tx'.held) :
    Serial ext releaseId initial { s with txs := s.txs.set i tx } := by
  refine ⟨?_, ?_, ?_, h.rows, h.blocks, h.others⟩
  · intro j tx' htx'
    rcases getElem?_set_cases htx' with ⟨-, rfl⟩ | ⟨-, hold⟩
    · exact hfaithful
    · exact h.faithful j tx' hold
  · intro j tx' htx'
    rcases getElem?_set_cases htx' with ⟨-, rfl⟩ | ⟨-, hold⟩
    · exact htx
    · exact h.txs j tx' hold
  · refine pairs_set h.apart fun j other hj hother => ⟨?_, fun hmem => hlock hmem j other hj hother⟩
    exact fun hmem hmem' => hlock hmem' j other hj hother hmem

/-- A transaction begins. -/
theorem Serial.join (h : Serial ext releaseId initial s) {record : Json} (gmItemId : Option Item)
    (hkey : releaseKey record = some releaseId) :
    Serial ext releaseId initial { s with txs := s.txs ++
      [{ record, gmItemId, rest := sentStatements ext .release record gmItemId }] } := by
  set new : Tx := { record, gmItemId, rest := sentStatements ext .release record gmItemId }
  refine ⟨?_, ?_, ?_, h.rows, h.blocks, h.others⟩
  · intro j tx htx
    rcases getElem?_concat_cases htx with htx | rfl
    · exact h.faithful j tx htx
    · exact ⟨hkey, rfl⟩
  · intro j tx htx
    rcases getElem?_concat_cases htx with htx | rfl
    · exact h.txs j tx htx
    · exact Or.inl ⟨rfl, rfl, rfl⟩
  · refine pairs_concat h.apart fun tx => ⟨fun _ => Finset.notMem_empty _, ?_⟩
    exact fun hmem => absurd hmem (Finset.notMem_empty _)

/-- An ended transaction has sent what it has sent. -/
theorem Faithful.closed {tx : Tx} (h : Faithful ext releaseId tx) : Faithful ext releaseId tx.closed :=
  ⟨h.key, h.program⟩

/-- **A commit** replaces the range with its record's rows, and no other row. -/
theorem Serial.commit (h : Serial ext releaseId initial s) {i : Nat} {tx : Tx}
    (htx : s.txs[i]? = some tx) (hstatus : tx.status = .running) (hrest : tx.rest = [])
    (hcompletes : completes ext tx.record = true) :
    Serial ext releaseId initial
      ⟨s.seen tx, s.txs.set i tx.closed, s.committed ++ [tx.record]⟩ := by
  have hfaithful := h.faithful i tx htx
  have hprogram : tx.sent = sentStatements ext .release tx.record tx.gmItemId := by
    rw [← hfaithful.program, hrest, List.append_nil]
  -- It has sent the lock, so it holds it.
  have hholding : Holding releaseId s.issuedOn tx := by
    have hinv := h.txs i tx htx
    unfold TxInv at hinv
    rw [hstatus] at hinv
    rcases hinv with hfresh | hholding
    · obtain ⟨tail, hsent, -⟩ := sentStatements_release ext tx.gmItemId hfaithful.key
      rw [← hprogram, hfresh.sent] at hsent
      cases hsent
    · exact hholding
  -- Alone its statements come to the rows of its own record.
  obtain ⟨u, hu, hdone⟩ := sent_issued ext tx.gmItemId hfaithful.key s.issuedOn
  obtain ⟨rows, hrows, rfl⟩ := hdone hcompletes
  rw [← hprogram, hholding.alone] at hu
  have hseen : s.seen tx = MediaPlan.applyIssuedOn ⟨releaseId, rows⟩ s.issuedOn := Option.some.inj hu
  have hset := h.set tx.closed hfaithful.closed (i := i) ⟨rfl, rfl⟩
    (fun hmem => absurd hmem (Finset.notMem_empty _))
  refine ⟨hset.faithful, ?_, hset.apart, ?_, ?_, ?_⟩
  -- The others are apart from it: they do not hold the lock, so they have seen nothing of its range.
  · intro j tx' htx'
    rcases getElem?_set_cases htx' with ⟨-, rfl⟩ | ⟨hj, hold⟩
    · exact ⟨rfl, rfl⟩
    · exact (h.txs j tx' hold).of_not_held (h.apart i j tx tx' hj.symm htx hold hholding.lock)
  -- The committed edges of the range are now this record's.
  · intro medium
    show (s.seen tx).lookup _ = lastQty ext releaseId initial (s.committed ++ [tx.record]) medium
    rw [hseen, lookup_applyIssuedOn (mediaEdgeRows_nodup hrows), if_pos rfl]
    unfold lastQty
    rw [List.getLast?_concat]
    show _ = (mediaEdgeRows ext (releaseMediaBlock ext tx.record)).bind _
    rw [hrows]
    rfl
  · intro record hrecord
    rcases List.mem_append.mp hrecord with hrecord | hrecord
    · exact h.blocks record hrecord
    · rw [List.mem_singleton.mp hrecord]
      exact ⟨rows, hrows⟩
  -- Outside its range it has changed nothing.
  · intro key hout
    have hsame : tx.changes.lookup key = none :=
      Finmap.lookup_eq_none.mpr fun hmem => hout (hholding.inRange key hmem)
    show (Table.overlay tx.changes s.issuedOn).lookup key = initial.lookup key
    rw [Table.lookup_overlay, hsame]
    exact h.others key hout

/-- **One step** keeps the transactions in turn. -/
theorem serial_step (hnames : ∀ record gmItemId, a = .begin record gmItemId →
      releaseKey record = some releaseId) (h : Serial ext releaseId initial s)
    (hstep : step ext s a = some s') : Serial ext releaseId initial s' := by
  rcases step_cases hstep with ⟨record, gmItemId, ha, rfl⟩ |
    ⟨i, tx, statement, rest, tx', -, htx, hstatus, hrest, hrun, rfl⟩ |
    ⟨i, tx, -, htx, hstatus, hrest, hcompletes, rfl⟩ | ⟨i, tx, -, htx, rfl⟩
  · exact h.join gmItemId (hnames record gmItemId ha)
  · have hfaithful := h.faithful i tx htx
    have hinv := h.txs i tx htx
    unfold TxInv at hinv
    rw [hstatus] at hinv
    -- The transaction that runs has the lock, or is about to take it.
    rcases hinv with hfresh | hholding
    · obtain ⟨hstatus', hrecord, hgm, hsent, hrest', hholding, hfree⟩ :=
        fresh_run s.issuedOn hfresh hfaithful hrest hrun
      refine h.set tx' ⟨hrecord ▸ hfaithful.key, ?_⟩ ?_ ?_
      · rw [hrecord, hgm, ← hfaithful.program, hsent, hrest', hrest, List.append_assoc]
        rfl
      · unfold TxInv
        rw [hstatus', hstatus]
        exact Or.inr hholding
      -- Nobody else holds the lock it has just been granted.
      · intro _ j other hj hother
        exact hfree other (List.mem_eraseIdx_iff_getElem?.mpr ⟨j, hj, hother⟩)
    · obtain ⟨hstatus', hrecord, hgm, hsent, hrest', hholding'⟩ :=
        holding_run hholding hfaithful hrest hrun
      refine h.set tx' ⟨hrecord ▸ hfaithful.key, ?_⟩ ?_ ?_
      · rw [hrecord, hgm, ← hfaithful.program, hsent, hrest', hrest, List.append_assoc]
        rfl
      · unfold TxInv
        rw [hstatus', hstatus]
        exact Or.inr hholding'
      · exact fun _ j other hj hother => h.apart i j tx other hj.symm htx hother hholding.lock
  · exact h.commit htx hstatus hrest hcompletes
  · refine h.set tx.closed (h.faithful i tx htx).closed ⟨rfl, rfl⟩ ?_
    exact fun hmem => absurd hmem (Finset.notMem_empty _)

/-- **A whole run**, by induction on its steps. -/
theorem serial_run {actions : List Action} (hnames : ∀ record gmItemId,
      Action.begin record gmItemId ∈ actions → releaseKey record = some releaseId)
    (h : Serial ext releaseId initial s) (hrun : Runs.run (step ext) s actions = some s') :
    Serial ext releaseId initial s' := by
  induction actions generalizing s with
  | nil =>
    obtain rfl := Option.some.inj hrun
    exact h
  | cons a actions ih =>
    obtain ⟨m, ha, hrun⟩ := Runs.run_cons_eq_some.mp hrun
    refine ih (fun record gm hmem => hnames record gm (List.mem_cons_of_mem a hmem)) ?_ hrun
    refine serial_step (fun record gm heq => hnames record gm ?_) h ha
    rw [heq]
    exact List.mem_cons_self

end Step

/-- **Concurrent releases of one Discogs release serialize.**  However transactions that name it
    overlap, and however each ends: none fails on the primary key of `graph.issued_on`; the rows of the
    range are `media_edge_rows` of the last committed one's block, or the initial ones before any has
    committed; and no other row changes. -/
theorem concurrent_releases_serialize (ext : Externals) (releaseId : String)
    (initial : Table IssuedOnKey Nat) (actions : List Action) (s : State)
    (hnames : ∀ record gmItemId, Action.begin record gmItemId ∈ actions →
      releaseKey record = some releaseId)
    (hrun : Runs.run (step ext) { issuedOn := initial } actions = some s) :
    (∀ tx ∈ s.txs, tx.status ≠ .failed) ∧
    (s.committed = [] → ∀ medium, s.issuedOn.lookup ⟨releaseId, medium, MEDIA_SOURCE⟩ =
      initial.lookup ⟨releaseId, medium, MEDIA_SOURCE⟩) ∧
    (∀ record, s.committed.getLast? = some record → ∃ rows,
      mediaEdgeRows ext (releaseMediaBlock ext record) = some rows ∧
        ∀ medium, s.issuedOn.lookup ⟨releaseId, medium, MEDIA_SOURCE⟩ = rowQty rows medium) ∧
    ∀ key : IssuedOnKey, ¬ (key.releaseId = releaseId ∧ key.source = MEDIA_SOURCE) →
      s.issuedOn.lookup key = initial.lookup key := by
  -- The invariant, from a state with no transaction.
  have hserial : Serial ext releaseId initial s := by
    have hstart : Serial ext releaseId initial { issuedOn := initial } :=
      ⟨by simp, by simp, by simp, fun _ => rfl, by simp, fun _ _ => rfl⟩
    exact serial_run hnames hstart hrun
  refine ⟨?_, ?_, ?_, hserial.others⟩
  -- `TxInv` of a failed transaction is false.
  · intro tx htx hfailed
    obtain ⟨i, hi⟩ := List.mem_iff_getElem?.mp htx
    have hinv := hserial.txs i tx hi
    unfold TxInv at hinv
    rw [hfailed] at hinv
    exact hinv
  · intro hnone medium
    rw [hserial.rows medium, lastQty, hnone]
    rfl
  · intro record hlast
    obtain ⟨rows, hrows⟩ := hserial.blocks record (List.mem_of_getLast? hlast)
    refine ⟨rows, hrows, fun medium => ?_⟩
    rw [hserial.rows medium, lastQty, hlast]
    show (mediaEdgeRows ext (releaseMediaBlock ext record)).bind _ = _
    rw [hrows]
    rfl

/-! ## Three releases of one Discogs release -/

/-- The block of the last of them. -/
def lastPressing : Json :=
  releaseMessage "33333333-3333-4333-8333-333333333333" (.int 7) "vinyl" 2

/-- All three are under way when the first commits; the second is rolled back after its prune, and the
    third commits. -/
def threePressings : List Action :=
  [.begin (releaseMessage "11111111-1111-4111-8111-111111111111" (.int 7) "vinyl" 1) none,
    .statement 0,
    .begin (releaseMessage "22222222-2222-4222-8222-222222222222" (.int 7) "cd" 1) none,
    .begin lastPressing none] ++
  List.replicate 6 (.statement 0) ++ [.commit 0] ++ List.replicate 6 (.statement 1) ++
  [.rollback 1] ++ List.replicate 7 (.statement 2) ++ [.commit 2]

theorem three_pressings_serialize :
    ∃ s rows, Runs.run (step sampleExternals) { issuedOn := ∅ } threePressings = some s ∧
      (∀ tx ∈ s.txs, tx.status ≠ .failed) ∧
      mediaEdgeRows sampleExternals (releaseMediaBlock sampleExternals lastPressing) = some rows ∧
      ∀ medium, s.issuedOn.lookup ⟨"7", medium, MEDIA_SOURCE⟩ = rowQty rows medium := by
  have hrun : ((Runs.run (step sampleExternals) { issuedOn := ∅ } threePressings).map fun s =>
      decide (s.committed.getLast? = some lastPressing)) = some true := by
    decide +kernel
  obtain ⟨s, hs, hlast⟩ := Option.map_eq_some_iff.mp hrun
  have hnames : ∀ record gmItemId, Action.begin record gmItemId ∈ threePressings →
      releaseKey record = some "7" := by
    intro record gmItemId hmem
    simp [threePressings, lastPressing] at hmem
    rcases hmem with ⟨rfl, -⟩ | ⟨rfl, -⟩ | ⟨rfl, -⟩ <;> decide +kernel
  obtain ⟨hfailed, -, hrows, -⟩ := concurrent_releases_serialize sampleExternals "7" ∅ threePressings
    s hnames hs
  obtain ⟨rows, hblock, hedges⟩ := hrows lastPressing (of_decide_eq_true hlast)
  exact ⟨s, rows, hs, hfailed, hblock, hedges⟩

end MediaRace

end Records
