/-
  The purge against the records still on their way.

  A record's rows are fresh once it is committed.  A record that is dead-lettered vetoes the purge: by
  the mark its rejection leaves in the object, or, when that process is gone, by its queue's count.  A
  record that is neither, because it is queued, being handled, waiting out a failure or not yet marked,
  is seen by nothing the purge reads.

  `Quiet` rules out starting an unvetoed purge over the old rows of such a record.  In a quiet run no
  step removes a row that a record carries.  The invariant (`Live`) follows the handlers: what a handler
  has read of the dead-letter queues (`unread` is what it has not) is in the object's marks, until the
  boundary is settled; and while a purge call runs, no record carries a row the call could delete.

  The condition is on the state in which a purge starts, and the delete is awaits later; in between
  records commit, are rejected, are dead-lettered, and the process may be restarted with its handlers
  gone.  So "no record carries a row the call could delete" has to be kept over all of these while the
  call runs.  It is, because what a record carries does not change and rows only get fresher
  (`Restamped`): a row that was fresh, or nobody's, when the purge started is no older when it deletes.

  Every step is looked at three times: what it does to the two tables (`Restamped`, `Upserted`,
  `Trimmed`), what it does to the deliveries, and what it lets a handler know.
-/
import MusicBrainzLoader.Service.Machine

namespace Service

open Purge (ChildTable DataType PurgeCall StaleChildRowPurge)
open Records (CarriesLink CarriesRelationship Database EntityKind Externals Instant)

/-! ## The condition -/

/-- The record carries a row older than the boundary. -/
def Overdue (ext : Externals) (db : Database) (boundary : Instant) (d : Delivery) : Prop :=
  (∃ key row, CarriesRelationship ext.casts d.kind d.record key ∧
    db.relationships.lookup key = some row ∧ row.updatedAt < boundary) ∨
  (∃ key row, CarriesLink ext.casts d.kind d.record key ∧
    db.externalLinks.lookup key = some row ∧ row.updatedAt < boundary)

/-- An unvetoed purge starts only when every record that carries a row older than its boundary has
    been committed, or is dead-lettered and marked. -/
def Quiet (ext : Externals) (s : State) (a : Action) : Prop :=
  ∀ p ∈ decided s a, p.vetoReason config = none → ∀ b ∈ p.boundary, ∀ d ∈ s.deliveries,
    Overdue ext s.db b d → d.committed = true ∨ d.stage = .deadLettered

/-- The same whatever the record carries. -/
def Handled (s : State) (a : Action) : Prop :=
  ∀ p ∈ decided s a, p.vetoReason config = none →
    ∀ d ∈ s.deliveries, d.committed = true ∨ d.stage = .deadLettered

instance (s : State) (a : Action) : Decidable (Handled s a) :=
  inferInstanceAs (Decidable (∀ p ∈ decided s a, _))

/-- Where every record is handled there is nothing to lose. -/
theorem quiet_of_handled {ext : Externals} {s : State} {a : Action} (h : Handled s a) :
    Quiet ext s a :=
  fun p hp hveto _ _ d hd _ => h p hp hveto d hd

/-- The extraction's signals name its start, and its records are committed after it. -/
def OfExtraction (boundary : Instant) : Action → Prop
  | .signal _ message => signalled message = some boundary
  | .record _ (.commit now) => boundary ≤ now
  | .record _ (.commitLost now) => boundary ≤ now
  | _ => True

instance (boundary : Instant) : DecidablePred (OfExtraction boundary) := fun a =>
  match a with
  | .signal _ message => inferInstanceAs (Decidable (signalled message = some boundary))
  | .record _ (.commit now) => inferInstanceAs (Decidable (boundary ≤ now))
  | .record _ (.commitLost now) => inferInstanceAs (Decidable (boundary ≤ now))
  | .record _ .deliver | .record _ .reject | .record _ .refuse | .record _ .fail
  | .record _ .requeue | .record _ .deadLetter | .record _ .mark | .record _ .ack
  | .record _ .redeliver | .record _ .replay
  | .resume _ _ | .otherDeadLetters _ _ | .restart => inferInstanceAs (Decidable True)

/-! ## The invariant -/

/-- The dead-letter queues still to be read; one that was read as non-empty counts until its type is
    marked. -/
def HandlerAwait.unread : HandlerAwait → List DataType
  | .openChannel t rest => t :: rest
  | .declareQueue t rest => t :: rest
  | .closeChannel t waiting rest => if waiting = some 0 then rest else t :: rest
  | _ => []

/-- What is not read yet where a handler has come to. -/
def Next.unread : Next → List DataType
  | .await awaiting => awaiting.unread
  | _ => []

/-- What has been read is marked, or the boundary is settled. -/
def ReadIsMarked (s : State) (boundary : Instant) (unread : List DataType) : Prop :=
  ∀ d ∈ s.deliveries, d.stage = .deadLettered → dataTypeOf d.kind ∉ unread →
    dataTypeOf d.kind ∈ s.purge.deadLettered ∨ s.purge.settledBoundary = some boundary

/-- The invariant. -/
structure Live (ext : Externals) (boundary : Instant) (s : State) : Prop where
  collected : s.purge.boundary = none ∨ s.purge.boundary = some boundary
  collecting : s.handlers ≠ [] → s.purge.boundary = some boundary
  reads : ∀ h ∈ s.handlers, ReadIsMarked s boundary h.awaiting.unread
  calls : ∀ h ∈ s.handlers, ∀ call deleted, h.awaiting = .purging call deleted →
    call.boundary = boundary ∧ ∀ d ∈ s.deliveries, ¬ Overdue ext s.db boundary d
  committed : ∀ d ∈ s.deliveries, d.committed = true → ¬ Overdue ext s.db boundary d

/-! ## What happens to the rows -/

section Rows

variable {κ ρ : Type} [DecidableEq κ]

/-- Every row is as it was, or stamped at or after the boundary. -/
def Restamped (stamp : ρ → Instant) (boundary : Instant) (t t' : Table κ ρ) : Prop :=
  ∀ key row, t'.lookup key = some row → boundary ≤ stamp row ∨ t.lookup key = some row

/-- The rows left are rows that were there, and no row at or after the boundary is missing. -/
structure Trimmed (stamp : ρ → Instant) (boundary : Instant) (t t' : Table κ ρ) : Prop where
  left : ∀ key row, t'.lookup key = some row → t.lookup key = some row
  kept : ∀ key row, t.lookup key = some row → boundary ≤ stamp row → t'.lookup key = some row

/-- The carried keys are stamped, the others as they were: what a committed record does. -/
def Upserted (stamp : ρ → Instant) (now : Instant) (carried : κ → Prop) (t t' : Table κ ρ) : Prop :=
  ∀ key, (carried key → ∃ row, t'.lookup key = some row ∧ now ≤ stamp row) ∧
    (¬ carried key → t'.lookup key = t.lookup key)

variable {stamp : ρ → Instant} {boundary now : Instant} {carried : κ → Prop} {t t' t'' : Table κ ρ}

/-- Nothing was deleted. -/
theorem Trimmed.refl (t : Table κ ρ) : Trimmed stamp boundary t t :=
  ⟨fun _ _ h => h, fun _ _ h _ => h⟩

/-- Rows are deleted in turn. -/
theorem Trimmed.trans (h : Trimmed stamp boundary t t') (h' : Trimmed stamp boundary t' t'') :
    Trimmed stamp boundary t t'' := by
  constructor
  · intro key row hrow
    exact h.left key row (h'.left key row hrow)
  · intro key row hrow hstamp
    exact h'.kept key row (h.kept key row hrow hstamp) hstamp

/-- A delete makes no row older. -/
theorem Trimmed.restamped (h : Trimmed stamp boundary t t') : Restamped stamp boundary t t' :=
  fun key row hrow => Or.inr (h.left key row hrow)

/-- Nor does an upsert of a transaction that began after the boundary. -/
theorem Upserted.restamped (h : Upserted stamp now carried t t') (hnow : boundary ≤ now) :
    Restamped stamp boundary t t' := by
  intro key row hrow
  by_cases hcarried : carried key
  · obtain ⟨row', hrow', hstamp⟩ := (h key).1 hcarried
    obtain rfl : row = row' := Option.some.inj (hrow.symm.trans hrow')
    exact Or.inl (hnow.trans hstamp)
  · exact Or.inr (((h key).2 hcarried).symm.trans hrow)

/-- It removes no row. -/
theorem Upserted.mem (h : Upserted stamp now carried t t') {key : κ} (hmem : key ∈ t) :
    key ∈ t' := by
  rw [Finmap.mem_iff] at hmem ⊢
  by_cases hcarried : carried key
  · obtain ⟨row, hrow, -⟩ := (h key).1 hcarried
    exact ⟨row, hrow⟩
  · rw [(h key).2 hcarried]
    exact hmem

/-- The purge's own delete. -/
theorem trimmed_deleteWhere (t : Table κ ρ) :
    Trimmed stamp boundary t (t.deleteWhere fun _ row => stamp row < boundary) := by
  constructor
  · intro key row hrow
    rw [Table.lookup_deleteWhere] at hrow
    exact (Option.filter_eq_some_iff.mp hrow).1
  · intro key row hrow hstamp
    rw [Table.lookup_deleteWhere, hrow]
    simp [Option.filter, hstamp.not_gt]

end Rows

section Database

variable {ext : Externals} {boundary : Instant} {db db' : Database}

/-- A purge's deletes trim both tables. -/
theorem trimmed_deletes (boundary : Instant) (deleted : List ChildTable) (db : Database) :
    Trimmed (·.updatedAt) boundary db.relationships
      (deleted.foldl (fun db table => db.deleteStale boundary table) db).relationships ∧
    Trimmed (·.updatedAt) boundary db.externalLinks
      (deleted.foldl (fun db table => db.deleteStale boundary table) db).externalLinks := by
  induction deleted generalizing db with
  | nil => exact ⟨Trimmed.refl _, Trimmed.refl _⟩
  | cons table deleted ih =>
    obtain ⟨hrelationships, hlinks⟩ := ih (db.deleteStale boundary table)
    rw [List.foldl_cons]
    cases table with
    | relationships => exact ⟨(trimmed_deleteWhere _).trans hrelationships, hlinks⟩
    | externalLinks => exact ⟨hrelationships, (trimmed_deleteWhere _).trans hlinks⟩

/-- A record committed at or after the boundary carries no older row. -/
theorem process_not_overdue {d : Delivery} {now : Instant}
    (h : Records.process ext d.kind true d.record now db = some db') (hnow : boundary ≤ now) :
    ¬ Overdue ext db' boundary d := by
  rintro (⟨key, row, hcarries, hrow, hold⟩ | ⟨key, row, hcarries, hrow, hold⟩)
  · obtain ⟨row', hrow', hstamp⟩ := (Records.process_relationships h key).1 hcarries
    obtain rfl : row = row' := Option.some.inj (hrow.symm.trans hrow')
    exact (hnow.trans hstamp).not_gt hold
  · obtain ⟨row', hrow', hstamp⟩ := (Records.process_externalLinks h key).1 hcarries
    obtain rfl : row = row' := Option.some.inj (hrow.symm.trans hrow')
    exact (hnow.trans hstamp).not_gt hold

/-- Stamped or untouched, a row does not become too old. -/
theorem not_overdue_of_restamped {d : Delivery}
    (hrelationships : Restamped (·.updatedAt) boundary db.relationships db'.relationships)
    (hlinks : Restamped (·.updatedAt) boundary db.externalLinks db'.externalLinks)
    (h : ¬ Overdue ext db boundary d) : ¬ Overdue ext db' boundary d := by
  rintro (⟨key, row, hcarries, hrow, hold⟩ | ⟨key, row, hcarries, hrow, hold⟩)
  · rcases hrelationships key row hrow with hstamp | hbefore
    · exact hstamp.not_gt hold
    · exact h (Or.inl ⟨key, row, hcarries, hbefore, hold⟩)
  · rcases hlinks key row hrow with hstamp | hbefore
    · exact hstamp.not_gt hold
    · exact h (Or.inr ⟨key, row, hcarries, hbefore, hold⟩)

end Database

/-! ## What happens to the deliveries and the database -/

section Step

variable {ext : Externals} {boundary : Instant} {s s' : State} {a : Action}

/-- A handler's code leaves the deliveries alone, and the database until its purge commits. -/
theorem advance_rows (s : State) (h : Handler) (outcome : Outcome) :
    (advance s h outcome).1.deliveries = s.deliveries ∧
    ((advance s h outcome).1.db = s.db ∨ ∃ call deleted, h.awaiting = .purging call deleted ∧
      (advance s h outcome).1.db = (s.commitDeletes call.boundary deleted).db) := by
  obtain ⟨message, awaiting⟩ := h
  have hadvances := advances s message awaiting outcome
  generalize advance s ⟨message, awaiting⟩ outcome = r at hadvances ⊢
  cases hadvances with
  | finished | commitLost => exact ⟨rfl, Or.inr ⟨_, _, rfl, rfl⟩⟩
  | _ => exact ⟨rfl, Or.inl rfl⟩

/-- A signal touches no row and no delivery. -/
theorem receive_rows (s : State) (t : DataType) (message : Json) :
    (receive s t message).1.deliveries = s.deliveries ∧ (receive s t message).1.db = s.db := by
  rw [receive_eq]
  exact ⟨rfl, rfl⟩

/-- Nor does the start of a purge. -/
theorem callPurge_rows (s : State) :
    (callPurge s).1.deliveries = s.deliveries ∧ (callPurge s).1.db = s.db := by
  unfold callPurge
  split <;> exact ⟨rfl, rfl⟩

/-- Nor what follows a stretch of a handler. -/
theorem proceed_rows (r : State × Next) :
    (proceed r).1.deliveries = r.1.deliveries ∧ (proceed r).1.db = r.1.db := by
  obtain ⟨s, next⟩ := r
  cases next with
  | callPurge => exact callPurge_rows s
  | _ => exact ⟨rfl, rfl⟩

/-- **What a step does to the database**: nothing, or it commits a record, or it commits a running
    purge's deletes. -/
theorem step_db (h : step ext true s a = some s') :
    s'.db = s.db ∨
    (∃ d ∈ s.deliveries, ∃ i now, (a = .record i (.commit now) ∨ a = .record i (.commitLost now)) ∧
      Records.process ext d.kind true d.record now s.db = some s'.db) ∨
    (∃ h₀ ∈ s.handlers, ∃ call deleted, h₀.awaiting = .purging call deleted ∧
      s'.db = (s.commitDeletes call.boundary deleted).db) := by
  rcases step_cases h with ⟨i, event, d, rfl, hd, hstep⟩ | ⟨r, message, handlers, hreached, -, rfl, -⟩ |
    ⟨t, n, rfl, rfl⟩ | ⟨rfl, rfl⟩
  -- A record's transaction, committed with its answer or without.
  · obtain ⟨stage, -, ⟨now, db, hevent, hprocess, rfl⟩ | ⟨-, rfl⟩ | ⟨-, rfl⟩⟩ :=
      recordStep_cases hstep
    · refine Or.inr (Or.inl ⟨d, List.mem_of_getElem? hd, i, now, ?_, hprocess⟩)
      rcases hevent with rfl | rfl
      · exact Or.inl rfl
      · exact Or.inr rfl
    · exact Or.inl rfl
    · exact Or.inl rfl
  · have hproceed : (proceed r).1.db = r.1.db := (proceed_rows r).2
    -- A handler's code: its own part, and then what calling `purge` adds, which never touches the rows.
    rcases reached_cases hreached with ⟨t, m, rfl, rfl⟩ | ⟨i, o, h₀, rfl, hh₀, rfl⟩
    · exact Or.inl (hproceed.trans (receive_rows s t m).2)
    · rcases (advance_rows s h₀ o).2 with hsame | ⟨call, deleted, hawaiting, hdeleted⟩
      · exact Or.inl (hproceed.trans hsame)
      · refine Or.inr (Or.inr ⟨h₀, List.mem_of_getElem? hh₀, call, deleted, hawaiting, ?_⟩)
        exact hproceed.trans hdeleted
  · exact Or.inl rfl
  · exact Or.inl rfl

/-- **What a step does to a delivery**: it stays the same record's; it is marked before it counts as
    dead-lettered, unless a restart moved it on; and once committed its record carries no old row. -/
theorem step_deliveries (h : step ext true s a = some s') (hof : OfExtraction boundary a)
    {d' : Delivery} (hmem : d' ∈ s'.deliveries) :
    ∃ d ∈ s.deliveries, d'.kind = d.kind ∧ d'.record = d.record ∧
      (d'.committed = d.committed ∨ ¬ Overdue ext s'.db boundary d') ∧
      (d'.stage = .deadLettered → a = .restart ∨ d.stage = .deadLettered ∨
        dataTypeOf d.kind ∈ s'.purge.deadLettered) := by
  rcases step_cases h with ⟨i, event, d, rfl, hd, hstep⟩ | ⟨r, message, handlers, hreached, -, rfl, -⟩ |
    ⟨t, n, rfl, rfl⟩ | ⟨rfl, rfl⟩
  · obtain ⟨stage, hstage, hcases⟩ := recordStep_cases hstep
    have hd := List.mem_of_getElem? hd
    rcases hcases with ⟨now, db, hevent, hprocess, rfl⟩ | ⟨hevent, rfl⟩ | ⟨hevent, rfl⟩
    -- Committed: the rows are stamped now, which is not before the boundary, so the record is not
    -- overdue. It is no dead letter, for a commit is not what makes one.
    · rcases List.mem_or_eq_of_mem_set hmem with hold | rfl
      · exact ⟨d', hold, rfl, rfl, Or.inl rfl, fun hdead => Or.inr (Or.inl hdead)⟩
      · refine ⟨d, hd, rfl, rfl, Or.inr ?_, ?_⟩
        · rcases hevent with rfl | rfl
          · exact process_not_overdue hprocess hof
          · exact process_not_overdue hprocess hof
        · intro hdead
          obtain rfl : stage = .deadLettered := hdead
          rw [nextStage_deadLettered hstage] at hevent
          rcases hevent with hcommit | hcommit
          · cases hcommit
          · cases hcommit
    -- Marked, before the broker is told or after.
    · rcases List.mem_or_eq_of_mem_set hmem with hold | rfl
      · exact ⟨d', hold, rfl, rfl, Or.inl rfl, fun hdead => Or.inr (Or.inl hdead)⟩
      · refine ⟨d, hd, rfl, rfl, Or.inl rfl, fun _ => Or.inr (Or.inr ?_)⟩
        exact Finset.mem_union_left _ (Finset.mem_singleton_self _)
    -- Moved on in the delivery's own life. To become a dead letter takes the rejection, which has been
    -- marked.
    · rcases List.mem_or_eq_of_mem_set hmem with hold | rfl
      · exact ⟨d', hold, rfl, rfl, Or.inl rfl, fun hdead => Or.inr (Or.inl hdead)⟩
      · refine ⟨d, hd, rfl, rfl, Or.inl rfl, ?_⟩
        intro hdead
        obtain rfl : stage = .deadLettered := hdead
        exact absurd (nextStage_deadLettered hstage) hevent
  -- A handler has no part in the deliveries.
  · have hsame : r.1.deliveries = s.deliveries := by
      rcases reached_cases hreached with ⟨t, m, rfl, rfl⟩ | ⟨i, o, h₀, rfl, -, rfl⟩
      · exact (receive_rows s t m).1
      · exact (advance_rows s h₀ o).1
    have hmem : d' ∈ s.deliveries := by
      rw [← hsame, ← (proceed_rows r).1]
      exact hmem
    exact ⟨d', hmem, rfl, rfl, Or.inl rfl, fun hdead => Or.inr (Or.inl hdead)⟩
  · exact ⟨d', hmem, rfl, rfl, Or.inl rfl, fun hdead => Or.inr (Or.inl hdead)⟩
  -- A restart forgets the marks, so nothing is asked of it: it comes before the next signal is read.
  · obtain ⟨d, hd, rfl⟩ := List.mem_map.mp hmem
    exact ⟨d, hd, rfl, rfl, Or.inl rfl, fun _ => Or.inl rfl⟩

/-! ## What a handler knows -/

/-- A signal that names the boundary keeps it collected. -/
theorem receive_boundary {t : DataType} {message : Json} (hnames : signalled message = some boundary)
    (hcollected : s.purge.boundary = none ∨ s.purge.boundary = some boundary) :
    (receive s t message).1.purge.boundary = some boundary := by
  rw [receive_purge]
  rcases StaleChildRowPurge.recordCompletion_cases s.purge t message with
    ⟨hnone, -⟩ | ⟨b, hb, hcases⟩
  · cases hnames.symm.trans hnone
  · obtain rfl : boundary = b := Option.some.inj (hnames.symm.trans hb)
    rcases hcases with ⟨c, hc, hlt, hrecord⟩ | ⟨-, hrecord⟩ | ⟨hc, hrecord⟩
    · rcases hcollected with hnone | hsome
      · cases hnone.symm.trans hc
      · obtain rfl : boundary = c := Option.some.inj (hsome.symm.trans hc)
        exact absurd hlt (lt_irrefl _)
    · rw [hrecord]
    · rw [hrecord]
      exact hc

/-- A handler leaves the boundary that is collected. -/
theorem advance_boundary (s : State) (h : Handler) (outcome : Outcome) :
    (advance s h outcome).1.purge.boundary = s.purge.boundary := by
  have hpurge := advance_purge s h outcome
  split at hpurge
  · rw [hpurge.2]
    rfl
  · exact hpurge.boundary

/-- And so does what follows it. -/
theorem proceed_boundary (r : State × Next) :
    (proceed r).1.purge.boundary = r.1.purge.boundary := by
  obtain ⟨s, next⟩ := r
  cases next with
  | callPurge =>
    show (callPurge s).1.purge.boundary = s.purge.boundary
    rw [callPurge_purge]
    split <;> rfl
  | _ => rfl

/-- While handlers run, the object they run code on collects the boundary. -/
theorem reached_boundary (hlive : Live ext boundary s) (hof : OfExtraction boundary a)
    {r : State × Next} (hreached : reached s a = some r) :
    r.1.purge.boundary = some boundary := by
  rcases reached_cases hreached with ⟨t, message, rfl, rfl⟩ | ⟨i, o, h₀, rfl, hh₀, rfl⟩
  · exact receive_boundary hof hlive.collected
  · rw [advance_boundary]
    exact hlive.collecting (List.ne_nil_of_mem (List.mem_of_getElem? hh₀))

/-- A step settles the collected boundary, or a running call's. -/
theorem settled_eq_some {b : Instant} (h : settled s a = some b) :
    (∃ p, decided s a = some p ∧ p.boundary = some b) ∨
    ∃ h₀ ∈ s.handlers, ∃ call deleted, h₀.awaiting = .purging call deleted ∧ call.boundary = b := by
  unfold settled at h
  -- A veto that settles has the boundary on the object; a purge that finishes has it in its call.
  split at h
  · rename_i p hdecided
    split at h
    · exact Or.inl ⟨p, hdecided, h⟩
    · cases h
  · rename_i i outcome hnone
    obtain ⟨h₀, hh₀, hfinishing⟩ := Option.bind_eq_some_iff.mp h
    obtain ⟨message, awaiting⟩ := h₀
    refine Or.inr ⟨_, List.mem_of_getElem? hh₀, ?_⟩
    cases awaiting with
    | purging call deleted =>
      cases outcome with
      | answered =>
        simp only [finishing] at hfinishing
        split at hfinishing
        · exact ⟨call, deleted, rfl, Option.some.inj hfinishing⟩
        · cases hfinishing
      | _ => cases hfinishing
    | _ => cases outcome <;> cases hfinishing
  · cases h

/-- **Only the extraction's own boundary is settled.** -/
theorem settled_boundary (hlive : Live ext boundary s) (hof : OfExtraction boundary a) {b : Instant}
    (h : settled s a = some b) : b = boundary := by
  rcases settled_eq_some h with ⟨p, hdecided, hp⟩ | ⟨h₀, hh₀, call, deleted, hawaiting, rfl⟩
  · obtain ⟨r, hreached, -, rfl⟩ := decided_eq_some hdecided
    exact Option.some.inj (hp.symm.trans (reached_boundary hlive hof hreached))
  · exact (hlive.calls h₀ hh₀ call deleted hawaiting).1

/-- A handler that begins to read has everything to read. -/
@[simp] theorem unread_gather (message : Json) (rest : List DataType) :
    (gather message rest).unread = rest := by
  unfold gather
  split
  · rfl
  · split <;> rfl

/-- A mark more, and a type fewer to read. -/
theorem readIsMarked_mark {t : DataType} {rest : List DataType}
    (h : ReadIsMarked s boundary (t :: rest)) : ReadIsMarked (s.mark {t}) boundary rest := by
  intro d hd hdead hread
  by_cases htype : dataTypeOf d.kind = t
  · rw [htype]
    exact Or.inl (Finset.mem_union_left _ (Finset.mem_singleton_self t))
  · rcases h d hd hdead (by simp [htype, hread]) with hmarked | hsettled
    · exact Or.inl (Finset.mem_union_right _ hmarked)
    · exact Or.inr hsettled

/-- A queue that reads as empty holds no record. -/
theorem not_deadLettered_of_waiting {t : DataType} (h : s.deadLettersWaiting t = 0) {d : Delivery}
    (hd : d ∈ s.deliveries) (htype : dataTypeOf d.kind = t) : d.stage ≠ .deadLettered := by
  intro hdead
  have hmem : d ∈ s.deliveries.filter fun d =>
      dataTypeOf d.kind = t ∧ (d.stage = .rejected ∨ d.stage = .deadLettered) :=
    List.mem_filter.mpr ⟨hd, decide_eq_true ⟨htype, Or.inr hdead⟩⟩
  have hpos := List.length_pos_of_mem hmem
  unfold State.deadLettersWaiting at h
  omega

/-- **What a handler has read stays marked** through its own code, up to its purge. -/
theorem readIsMarked_advance {h : Handler} {outcome : Outcome}
    (hread : ReadIsMarked s boundary h.awaiting.unread)
    (hnext : (advance s h outcome).2 ≠ .done) :
    ReadIsMarked (advance s h outcome).1 boundary (advance s h outcome).2.unread := by
  obtain ⟨message, awaiting⟩ := h
  have hadvances := advances s message awaiting outcome
  generalize advance s ⟨message, awaiting⟩ outcome = r at hadvances hnext ⊢
  cases hadvances with
  -- Reading a queue takes its type off the unread ones, and must leave the type marked if anything
  -- waits. A broker that does not answer marks it too.
  | unopened =>
    rw [unread_gather]
    exact readIsMarked_mark hread
  | @counted t rest =>
    have hread : ReadIsMarked s boundary (t :: rest) := hread
    show ReadIsMarked s boundary
      (if some (s.deadLettersWaiting t) = some 0 then rest else t :: rest)
    split
    · -- The queue is empty, so none of its type is dead-lettered.
      rename_i hempty
      intro d hd hdead hunread
      by_cases htype : dataTypeOf d.kind = t
      · exact absurd hdead (not_deadLettered_of_waiting (Option.some.inj hempty) hd htype)
      · exact hread d hd hdead (by simp [htype, hunread])
    · exact hread
  | empty =>
    rw [unread_gather]
    exact hread
  | @waiting t waiting rest _ hne =>
    have hread : ReadIsMarked s boundary (if waiting = some 0 then rest else t :: rest) := hread
    rw [if_neg hne] at hread
    rw [unread_gather]
    exact readIsMarked_mark hread
  | marked =>
    -- Marks that were recorded earlier are put beside the ones read now.
    intro d hd hdead hunread
    rcases hread d hd hdead hunread with hmarked | hsettled
    · exact Or.inl (Finset.mem_union_right _ hmarked)
    · exact Or.inr hsettled
  | recordLost | finished | commitLost | raised => exact absurd rfl hnext
  | _ => exact hread

/-- A call goes on at the boundary it started with. -/
theorem advance_purging {h : Handler} {outcome : Outcome} {call' : PurgeCall}
    {deleted' : List ChildTable}
    (hnext : (advance s h outcome).2 = .await (.purging call' deleted')) :
    (advance s h outcome).1 = s ∧
      ∃ call deleted, h.awaiting = .purging call deleted ∧ call'.boundary = call.boundary := by
  have hgather {rest : List DataType} : gather h.message rest ≠ .await (.purging call' deleted') := by
    intro hg
    rcases gather_eq_await hg with ⟨t, later, heq⟩ | ⟨version, -, heq⟩ <;> cases heq
  obtain ⟨message, awaiting⟩ := h
  have hadvances := advances s message awaiting outcome
  generalize advance s ⟨message, awaiting⟩ outcome = r at hadvances hnext ⊢
  cases hadvances with
  | suspended _ hboundary =>
    cases hnext
    exact ⟨rfl, _, _, rfl, hboundary⟩
  | unopened | empty | waiting => exact absurd hnext hgather
  | _ => cases hnext

/-! ## One step -/

/-- What was read stays marked, whatever task runs. -/
theorem readIsMarked_step (hlive : Live ext boundary s) (hof : OfExtraction boundary a)
    (h : step ext true s a = some s') (hrestart : a ≠ .restart) {unread : List DataType}
    (hread : ReadIsMarked s boundary unread) : ReadIsMarked s' boundary unread := by
  intro d' hd' hdead hunread
  obtain ⟨d, hd, hkind, -, -, hstage⟩ := step_deliveries h hof hd'
  rw [hkind] at hunread ⊢
  rcases hstage hdead with hrestarted | hbefore | hmarked
  · exact absurd hrestarted hrestart
  · rcases step_purge h with hrestarted | ⟨b, hb, hsettled⟩ | ⟨-, hsame, hmarks⟩
    · exact absurd hrestarted hrestart
    · rw [settled_boundary hlive hof hb] at hsettled
      exact Or.inr hsettled
    · rcases hread d hd hbefore hunread with hmarked | hsettled
      · exact Or.inl (hmarks hmarked)
      · exact Or.inr (hsame.trans hsettled)
  · exact Or.inl hmarked

/-- No step makes a row a record carries too old. -/
theorem not_overdue_step (hlive : Live ext boundary s) (hof : OfExtraction boundary a)
    (h : step ext true s a = some s') {d : Delivery} (hd : ¬ Overdue ext s.db boundary d) :
    ¬ Overdue ext s'.db boundary d := by
  rcases step_db h with hsame | ⟨d₀, -, i, now, ha, hprocess⟩ | ⟨h₀, hh₀, call, deleted, hawaiting, hdb⟩
  · rw [hsame]
    exact hd
  · have hnow : boundary ≤ now := by
      rcases ha with rfl | rfl
      · exact hof
      · exact hof
    have hrelationships : Upserted (·.updatedAt) now _ s.db.relationships s'.db.relationships :=
      Records.process_relationships hprocess
    have hlinks : Upserted (·.updatedAt) now _ s.db.externalLinks s'.db.externalLinks :=
      Records.process_externalLinks hprocess
    exact not_overdue_of_restamped (hrelationships.restamped hnow) (hlinks.restamped hnow) hd
  · obtain ⟨hrelationships, hlinks⟩ := trimmed_deletes call.boundary deleted s.db
    rw [(hlive.calls h₀ hh₀ call deleted hawaiting).1] at hrelationships hlinks hdb
    rw [hdb]
    exact not_overdue_of_restamped hrelationships.restamped hlinks.restamped hd

/-- `Overdue` is about the record alone. -/
theorem overdue_congr {db : Database} {d d' : Delivery} (hkind : d'.kind = d.kind)
    (hrecord : d'.record = d.record) : Overdue ext db boundary d' ↔ Overdue ext db boundary d := by
  unfold Overdue
  rw [hkind, hrecord]

/-- **A purge that starts unvetoed in a quiet step has no row of a record's to delete**: a
    dead-lettered record would have been read, and its mark would veto. -/
theorem not_overdue_of_quiet (hlive : Live ext boundary s) (hof : OfExtraction boundary a)
    (hquiet : Quiet ext s a) {p : StaleChildRowPurge} (hdecided : decided s a = some p)
    (hveto : p.vetoReason config = none) : ∀ d ∈ s.deliveries, ¬ Overdue ext s.db boundary d := by
  intro d hd hoverdue
  -- The purge went through, so there was no mark, and its boundary is not settled. A record that is
  -- overdue by then was either committed, and fresh, or is a dead letter, and marked.
  obtain ⟨-, hunsettled, hunmarked, -⟩ := StaleChildRowPurge.vetoReason_eq_none.mp hveto
  obtain ⟨r, hreached, hcall, rfl⟩ := decided_eq_some hdecided
  have hboundary := reached_boundary hlive hof hreached
  rcases hquiet _ hdecided hveto boundary hboundary d hd hoverdue with hcommitted | hdead
  · exact hlive.committed d hd hcommitted hoverdue
  · rcases reached_cases hreached with ⟨t, message, rfl, rfl⟩ | ⟨i, o, h₀, rfl, hh₀, rfl⟩
    · exact hunsettled (receive_callPurge hcall)
    -- Every queue has been read where the handler calls `purge`, so the invariant speaks of all dead
    -- letters.
    · have hnext : (advance s h₀ o).2 ≠ .done := by
        rw [hcall]
        exact Next.noConfusion
      have hread := readIsMarked_advance (hlive.reads h₀ (List.mem_of_getElem? hh₀)) hnext
      rw [hcall] at hread
      have hd : d ∈ (advance s h₀ o).1.deliveries := by
        rw [(advance_rows s h₀ o).1]
        exact hd
      rcases hread d hd hdead List.not_mem_nil with hmarked | hsettled
      · rw [hunmarked] at hmarked
        exact Finset.notMem_empty _ hmarked
      · exact hunsettled (hsettled.trans hboundary.symm)

/-- Every kind of record has its queue. -/
theorem dataTypeOf_mem (kind : EntityKind) : dataTypeOf kind ∈ Purge.MUSICBRAINZ_DATA_TYPES := by
  cases kind <;> decide

/-- The handler a step runs is at an await whose queues read so far are marked. -/
theorem reads_reached (hlive : Live ext boundary s) {r : State × Next} {awaiting : HandlerAwait}
    (hreached : reached s a = some r) (hnext : (proceed r).2 = some awaiting) :
    ReadIsMarked (proceed r).1 boundary awaiting.unread := by
  rcases reached_cases hreached with ⟨t, message, rfl, rfl⟩ | ⟨i, o, h₀, rfl, hh₀, hr⟩
  · -- Nothing is read yet: every type's queue comes first.
    obtain ⟨first, rest, htypes, rfl⟩ := receive_suspends hnext
    intro d _ _ hunread
    have hmem : dataTypeOf d.kind ∈ first :: rest := htypes ▸ dataTypeOf_mem d.kind
    exact absurd hmem hunread
  · have hadvance : (advance s h₀ o).2 ≠ .done →
        ReadIsMarked (advance s h₀ o).1 boundary (advance s h₀ o).2.unread :=
      readIsMarked_advance (hlive.reads h₀ (List.mem_of_getElem? hh₀))
    rw [← hr] at hadvance
    obtain ⟨s₁, next⟩ := r
    cases next with
    | await awaiting' =>
      obtain rfl := Option.some.inj hnext
      exact hadvance Next.noConfusion
    | callPurge =>
      have hread : ReadIsMarked s₁ boundary [] := hadvance Next.noConfusion
      -- The code between the last read and the purge adds no mark and takes none.
      obtain ⟨hveto, call, rfl, -⟩ := callPurge_await hnext
      have hpurge : (callPurge s₁).1.purge = s₁.purge := by
        rw [callPurge_purge, hveto, if_neg (by simp)]
      intro d hd
      show _ → _ → dataTypeOf d.kind ∈ (callPurge s₁).1.purge.deadLettered ∨
        (callPurge s₁).1.purge.settledBoundary = some boundary
      rw [hpurge]
      exact hread d ((callPurge_rows s₁).1 ▸ hd)
    | done => cases hnext

/-- A step's handler comes into a purge call by starting one, or from the await before. -/
theorem calls_reached {r : State × Next} {call : PurgeCall} {deleted : List ChildTable}
    (hreached : reached s a = some r) (hnext : (proceed r).2 = some (.purging call deleted)) :
    (∃ p, decided s a = some p ∧ p.vetoReason config = none ∧ p.boundary = some call.boundary) ∨
    ∃ h₀ ∈ s.handlers, ∃ call₀ deleted₀, h₀.awaiting = .purging call₀ deleted₀ ∧
      call.boundary = call₀.boundary := by
  have hdecided : decided s a = if r.2 = .callPurge then some r.1.purge else none := by
    unfold decided
    rw [hreached]
    rfl
  obtain ⟨s₁, next⟩ := r
  cases next with
  -- A purge that starts here was decided here; one that goes on was under way before.
  | callPurge =>
    obtain ⟨hveto, call', hcall, hboundary⟩ := callPurge_await hnext
    cases hcall
    exact Or.inl ⟨s₁.purge, hdecided, hveto, hboundary⟩
  | await awaiting =>
    obtain rfl := Option.some.inj hnext
    rcases reached_cases hreached with ⟨t, message, rfl, hreceive⟩ | ⟨i, o, h₀, rfl, hh₀, hadvance⟩
    · have hnext : (proceed (receive s t message)).2 = some (.purging call deleted) := by
        rw [← hreceive]
        rfl
      obtain ⟨first, rest, -, heq⟩ := receive_suspends hnext
      cases heq
    · obtain ⟨-, call₀, deleted₀, hawaiting, hboundary⟩ :=
        advance_purging (congrArg Prod.snd hadvance.symm)
      exact Or.inr ⟨h₀, List.mem_of_getElem? hh₀, call₀, deleted₀, hawaiting, hboundary⟩
  | done => cases hnext

/-- What the object collects after a step. -/
theorem collected_step (hlive : Live ext boundary s) (hof : OfExtraction boundary a)
    (h : step ext true s a = some s') :
    (s'.purge.boundary = none ∨ s'.purge.boundary = some boundary) ∧
      (s'.handlers ≠ [] → s'.purge.boundary = some boundary) := by
  rcases step_cases h with ⟨i, event, d, rfl, -, hstep⟩ | ⟨r, message, handlers, hreached, -, rfl, -⟩ |
    ⟨t, n, rfl, rfl⟩ | ⟨rfl, rfl⟩
  · obtain ⟨hgrown, hhandlers, -⟩ := recordStep_frame hstep
    rw [hgrown.boundary, hhandlers]
    exact ⟨hlive.collected, hlive.collecting⟩
  · have hboundary : (proceed r).1.purge.boundary = some boundary :=
      (proceed_boundary r).trans (reached_boundary hlive hof hreached)
    exact ⟨Or.inr hboundary, fun _ => hboundary⟩
  · exact ⟨hlive.collected, hlive.collecting⟩
  · exact ⟨Or.inl rfl, fun hne => absurd rfl hne⟩

/-- **One step of a quiet run keeps the invariant.** -/
theorem live_step (hlive : Live ext boundary s) (hof : OfExtraction boundary a)
    (hquiet : Quiet ext s a) (h : step ext true s a = some s') : Live ext boundary s' := by
  obtain ⟨hcollected, hcollecting⟩ := collected_step hlive hof h
  -- A row that no record can lose before the step, none can lose after it.
  have hsafe (hbefore : ∀ d ∈ s.deliveries, ¬ Overdue ext s.db boundary d) :
      ∀ d ∈ s'.deliveries, ¬ Overdue ext s'.db boundary d := by
    intro d' hd'
    obtain ⟨d, hd, hkind, hrecord, -, -⟩ := step_deliveries h hof hd'
    rw [overdue_congr hkind hrecord]
    exact not_overdue_step hlive hof h (hbefore d hd)
  refine ⟨hcollected, hcollecting, ?_, ?_, ?_⟩
  · intro h' hh'
    rcases step_handlers h hh' with hother | ⟨r, message, awaiting, handlers, hreached, -, hnext, rfl, rfl⟩
    · have hrestart : a ≠ .restart := by
        rintro rfl
        cases hother
      exact readIsMarked_step hlive hof h hrestart (hlive.reads h' (others_subset hother))
    · exact reads_reached hlive hreached hnext
  · intro h' hh' call deleted hawaiting
    rcases step_handlers h hh' with hother | ⟨r, message, awaiting, handlers, hreached, -, hnext, rfl, hs'⟩
    · obtain ⟨hboundary, hbefore⟩ := hlive.calls h' (others_subset hother) call deleted hawaiting
      exact ⟨hboundary, hsafe hbefore⟩
    · obtain rfl : awaiting = .purging call deleted := hawaiting
      rcases calls_reached hreached hnext with ⟨p, hdecided, hveto, hp⟩ |
        ⟨h₀, hh₀, call₀, deleted₀, hawaiting₀, hsame⟩
      · obtain ⟨r', hreached', -, rfl⟩ := decided_eq_some hdecided
        have hboundary := reached_boundary hlive hof hreached'
        exact ⟨Option.some.inj (hp.symm.trans hboundary),
          hsafe (not_overdue_of_quiet hlive hof hquiet hdecided hveto)⟩
      · obtain ⟨hboundary, hbefore⟩ := hlive.calls h₀ hh₀ call₀ deleted₀ hawaiting₀
        exact ⟨hsame.trans hboundary, hsafe hbefore⟩
  · intro d' hd' hcommitted
    obtain ⟨d, hd, hkind, hrecord, hsame | hnot, -⟩ := step_deliveries h hof hd'
    · rw [overdue_congr hkind hrecord]
      exact not_overdue_step hlive hof h (hlive.committed d hd (hsame.symm.trans hcommitted))
    · exact hnot

end Step

/-! ## Runs -/

/-- **The purge spares live rows** in every quiet run over an extraction's records: from a fresh
    process, with its signals all naming its start and its records committed at or after it, no step
    removes a row that one of the records carries. -/
theorem purge_spares_live_rows (ext : Externals) (boundary : Instant) (s₀ s s' : State)
    (actions : List Action) (a : Action) (hpurge : s₀.purge = {}) (hhandlers : s₀.handlers = [])
    (hdeliveries : ∀ d ∈ s₀.deliveries, d.committed = false)
    (hof : ∀ b ∈ actions ++ [a], OfExtraction boundary b)
    (hquiet : Runs.Meets (step ext true) (Quiet ext) s₀ (actions ++ [a]))
    (hrun : Runs.run (step ext true) s₀ actions = some s) (hstep : step ext true s a = some s') :
    ∀ d ∈ s.deliveries,
      (∀ key ∈ s.db.relationships, CarriesRelationship ext.casts d.kind d.record key →
        key ∈ s'.db.relationships) ∧
      (∀ key ∈ s.db.externalLinks, CarriesLink ext.casts d.kind d.record key →
        key ∈ s'.db.externalLinks) := by
  -- At the start nothing is collected, nobody reads, and no record has been committed.
  have hstart : Live ext boundary s₀ := by
    refine ⟨Or.inl ?_, fun hne => absurd hhandlers hne, ?_, ?_, ?_⟩
    · rw [hpurge]
    · rw [hhandlers]
      exact fun h hh => absurd hh List.not_mem_nil
    · rw [hhandlers]
      exact fun h hh => absurd hh List.not_mem_nil
    · intro d hd hcommitted
      rw [hdeliveries d hd] at hcommitted
      cases hcommitted
  have hlive : Live ext boundary s := by
    refine hquiet.prefix.invariant_mem (Live ext boundary) ?_ hstart hrun
    exact fun b hb m m' hlive hquiet hstep =>
      live_step hlive (hof b (List.mem_append_left _ hb)) hquiet hstep
  -- The step is looked at by what it does to the tables: nothing, a record's transaction, or the
  -- deletes of a purge. A transaction removes no row; a purge is the case.
  intro d hd
  rcases step_db hstep with hsame | ⟨d₀, -, i, now, ha, hprocess⟩ |
    ⟨h₀, hh₀, call, deleted, hawaiting, hdb⟩
  · rw [hsame]
    exact ⟨fun _ hmem _ => hmem, fun _ hmem _ => hmem⟩
  · have hrelationships : Upserted (·.updatedAt) now _ s.db.relationships s'.db.relationships :=
      Records.process_relationships hprocess
    have hlinks : Upserted (·.updatedAt) now _ s.db.externalLinks s'.db.externalLinks :=
      Records.process_externalLinks hprocess
    exact ⟨fun _ hmem _ => hrelationships.mem hmem, fun _ hmem _ => hlinks.mem hmem⟩
  -- The invariant at a purge under way: what it deletes is older than its boundary, and no row that a
  -- record carries is.
  · obtain ⟨hboundary, hsafe⟩ := hlive.calls h₀ hh₀ call deleted hawaiting
    obtain ⟨hrelationships, hlinks⟩ := trimmed_deletes call.boundary deleted s.db
    rw [hboundary] at hrelationships hlinks hdb
    rw [hdb]
    constructor
    · intro key hmem hcarries
      obtain ⟨row, hrow⟩ := Finmap.mem_iff.mp hmem
      have hfresh : boundary ≤ row.updatedAt := by
        by_contra hold
        exact hsafe d hd (Or.inl ⟨key, row, hcarries, hrow, not_le.mp hold⟩)
      exact Finmap.mem_iff.mpr ⟨row, hrelationships.kept key row hrow hfresh⟩
    · intro key hmem hcarries
      obtain ⟨row, hrow⟩ := Finmap.mem_iff.mp hmem
      have hfresh : boundary ≤ row.updatedAt := by
        by_contra hold
        exact hsafe d hd (Or.inr ⟨key, row, hcarries, hrow, not_le.mp hold⟩)
      exact Finmap.mem_iff.mpr ⟨row, hlinks.kept key row hrow hfresh⟩

/-- An artist under contract with a label. -/
def signedArtist : Json :=
  .obj [("mbid", .str "11111111-1111-4111-8111-111111111111"),
    ("relations", .arr [Records.memberOf "22222222-2222-4222-8222-222222222222" "forward"])]

/-- February's records: the artist, another label, and two more. -/
def februaryRecords : List Delivery :=
  [{ kind := .artist, record := signedArtist },
    { kind := .label, record := .obj [("mbid", .str "33333333-3333-4333-8333-333333333333"),
      ("relations", .arr [Records.memberOf "22222222-2222-4222-8222-222222222222" "backward"])] },
    { kind := .releaseGroup, record := .obj [("mbid", .str "44444444-4444-4444-8444-444444444444")] },
    { kind := .release, record := .obj [("mbid", .str "55555555-5555-4555-8555-555555555555")] }]

/-- The artist's contract with a label. -/
def contract (label : Records.Uuid) : Records.RelationshipKey where
  sourceMbid := "11111111-1111-4111-8111-111111111111"
  sourceEntityType := .str "artist"
  targetMbid := label
  targetEntityType := .str "label"
  relationshipType := .str "recording contract"
  attributes := .arr []
  beginDate := .null
  endDate := .null

theorem signedArtist_carries :
    CarriesRelationship Records.sampleExternals.casts .artist signedArtist
      (contract "22222222-2222-4222-8222-222222222222") := by
  refine ⟨[Records.memberOf "22222222-2222-4222-8222-222222222222" "forward"],
    Records.memberOf "22222222-2222-4222-8222-222222222222" "forward",
    by decide +kernel, List.mem_singleton_self _, ?_⟩
  constructor
  all_goals decide +kernel

/-- Before February: the contract the artist still has, and one that has ended. -/
def beforeFebruary : State where
  deliveries := februaryRecords
  db.relationships := ["22222222-2222-4222-8222-222222222222",
    "66666666-6666-4666-8666-666666666666"].foldl
      (fun rows label => rows.insert (contract label) ⟨.bool false, 63840000000000000⟩) ∅

/-- A record delivered, committed and acknowledged. -/
def handled (i : Nat) : List Action :=
  [.record i .deliver, .record i (.commit 63842428900000000), .record i .ack]

/-- Every record is committed, the signals follow, and the last one's handler comes to its commit. -/
def healthyFebruary : List Action :=
  (List.range 4).flatMap handled ++ februarySignals ++ answered 0 26

/-- The purge removes the contract that has ended, and spares the rows the records carry. -/
theorem purge_spares_live_rows_of_february :
    ∃ s s' : State,
      Runs.run (step Records.sampleExternals true) beforeFebruary healthyFebruary = some s ∧
      step Records.sampleExternals true s (.resume 0 .answered) = some s' ∧
      contract "66666666-6666-4666-8666-666666666666" ∈ s.db.relationships ∧
      contract "66666666-6666-4666-8666-666666666666" ∉ s'.db.relationships ∧
      ∀ d ∈ s.deliveries,
        (∀ key ∈ s.db.relationships,
          CarriesRelationship Records.sampleExternals.casts d.kind d.record key →
            key ∈ s'.db.relationships) ∧
        (∀ key ∈ s.db.externalLinks,
          CarriesLink Records.sampleExternals.casts d.kind d.record key →
            key ∈ s'.db.externalLinks) := by
  -- The run is evaluated once, to the facts about its two last states.
  have hrun : ((Runs.run (step Records.sampleExternals true) beforeFebruary healthyFebruary).bind
      fun s => (step Records.sampleExternals true s (.resume 0 .answered)).map fun s' =>
        decide (contract "66666666-6666-4666-8666-666666666666" ∈ s.db.relationships ∧
          contract "66666666-6666-4666-8666-666666666666" ∉ s'.db.relationships)) = some true := by
    decide +kernel
  obtain ⟨s, hs, hrun⟩ := Option.bind_eq_some_iff.mp hrun
  obtain ⟨s', hs', hrun⟩ := Option.map_eq_some_iff.mp hrun
  obtain ⟨hbefore, hafter⟩ := of_decide_eq_true hrun
  have hhandled : Runs.Meets (step Records.sampleExternals true) Handled beforeFebruary
      (healthyFebruary ++ [.resume 0 .answered]) := by
    decide +kernel
  -- That the run is quiet is not computed step by step: it follows from how each record stands.
  have hquiet : Runs.Meets (step Records.sampleExternals true) (Quiet Records.sampleExternals)
      beforeFebruary (healthyFebruary ++ [.resume 0 .answered]) :=
    hhandled.mono fun _ _ => quiet_of_handled
  exact ⟨s, s', hs, hs', hbefore, hafter, purge_spares_live_rows Records.sampleExternals
    63842428800000000 beforeFebruary s s' healthyFebruary (.resume 0 .answered) rfl rfl
    (by decide +kernel) (by decide +kernel) hquiet hs hs'⟩

/-- The artist's record fails and waits to be requeued.  The others are committed, and the signals
    follow: nothing is dead-lettered yet. -/
def backedOffFebruary : List Action :=
  [.record 0 .deliver, .record 0 .fail] ++ handled 1 ++ handled 2 ++ handled 3 ++ februarySignals ++
    answered 0 26

/-- The record is requeued, delivered again, and rejected. -/
def rejectedAfterwards : List Action :=
  [.record 0 .requeue, .record 0 .deliver, .record 0 .reject, .record 0 .deadLetter,
    .record 0 .mark]

/-- The purge commits while the artist's record is in backoff, and takes the contract it carries. -/
theorem live_row_is_purged :
    (∀ a ∈ backedOffFebruary ++ .resume 0 .answered :: rejectedAfterwards,
      OfExtraction 63842428800000000 a) ∧
    ∃ (s s' s'' : State) (d d'' : Delivery),
      Runs.run (step Records.sampleExternals true) beforeFebruary backedOffFebruary = some s ∧
      step Records.sampleExternals true s (.resume 0 .answered) = some s' ∧
      Runs.run (step Records.sampleExternals true) s' rejectedAfterwards = some s'' ∧
      s.deliveries[0]? = some d ∧ d.stage = .backoff ∧
      CarriesRelationship Records.sampleExternals.casts d.kind d.record
        (contract "22222222-2222-4222-8222-222222222222") ∧
      contract "22222222-2222-4222-8222-222222222222" ∈ s.db.relationships ∧
      contract "22222222-2222-4222-8222-222222222222" ∉ s'.db.relationships ∧
      s''.deliveries[0]? = some d'' ∧ d''.record = d.record ∧ d''.stage = .deadLettered := by
  refine ⟨by decide +kernel, ?_⟩
  -- The run in three parts: to the purge's commit, the commit, and the record's rejection after it.
  have hrun : ((Runs.run (step Records.sampleExternals true) beforeFebruary backedOffFebruary).bind
      fun s => (step Records.sampleExternals true s (.resume 0 .answered)).bind fun s' =>
        (Runs.run (step Records.sampleExternals true) s' rejectedAfterwards).bind fun s'' =>
          s.deliveries[0]?.bind fun d => s''.deliveries[0]?.map fun d'' =>
            decide ((d.kind = .artist ∧ d.record = signedArtist ∧ d.stage = .backoff) ∧
              contract "22222222-2222-4222-8222-222222222222" ∈ s.db.relationships ∧
              contract "22222222-2222-4222-8222-222222222222" ∉ s'.db.relationships ∧
              d''.record = signedArtist ∧ d''.stage = .deadLettered)) = some true := by
    decide +kernel
  obtain ⟨s, hs, hrun⟩ := Option.bind_eq_some_iff.mp hrun
  obtain ⟨s', hs', hrun⟩ := Option.bind_eq_some_iff.mp hrun
  obtain ⟨s'', hs'', hrun⟩ := Option.bind_eq_some_iff.mp hrun
  obtain ⟨d, hd, hrun⟩ := Option.bind_eq_some_iff.mp hrun
  obtain ⟨d'', hd'', hrun⟩ := Option.map_eq_some_iff.mp hrun
  obtain ⟨⟨hkind, hrecord, hstage⟩, hbefore, hafter, hrecord'', hdead⟩ := of_decide_eq_true hrun
  have hcarries : CarriesRelationship Records.sampleExternals.casts d.kind d.record
      (contract "22222222-2222-4222-8222-222222222222") := by
    rw [hkind, hrecord]
    exact signedArtist_carries
  exact ⟨s, s', s'', d, d'', hs, hs', hs'', hd, hstage, hcarries, hbefore, hafter, hd'',
    hrecord''.trans hrecord.symm, hdead⟩

end Service
