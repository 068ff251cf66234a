/-
  A reconciliation that fails, and the attempt after it.

  One delivery of the last signal, driven alone from await to await.  An exception of
  `dead_letters_waiting` is a veto; any other leaves the handler, which withdraws the type's completion
  and requeues the signal.  What the attempt has found out by then stays: a type whose dead letters
  could not be read, or wait, is marked, and so are the vetoes recorded by an earlier delivery.  Nothing
  else changes, and the next attempt decides as a first one would, with those marks added.

  Two points need care.  "Nothing else changes" is not true at the commit: it may take effect and its
  answer be lost, and then the attempt fails with the rows gone.  So what the tables are is read off the
  trace of the attempt (`lostCommit`, `deletions`): the deletes that came back, at the boundary collected,
  when the commit was the await whose answer was lost, and otherwise nothing.  And a retry reads the rows
  the attempt wrote, so its marks are not the attempt's alone; that they come to no more is what
  `Underway.added` says: under the signal's own key the attempt records marks it holds.
-/
import MusicBrainzLoader.Broker.Completion
import MusicBrainzLoader.Service.RecordedVeto

namespace Service

open Purge (ChildTable DataType MUSICBRAINZ_DATA_TYPES StaleChildRowPurge)
open Records (Database Instant)

/-! ## One delivery, alone -/

/-- An exception at this await leaves the handler: `dead_letters_waiting` swallows its own.  So a
    broker that does not answer costs the attempt nothing but marks, and the database is what makes
    it fail. -/
def escapes : HandlerAwait → Outcome → Bool
  | _, .answered => false
  | .openChannel _ _, _ | .declareQueue _ _, _ | .closeChannel _ _ _, _ => false
  | _, _ => true

/-- How `_reconcile_deleted_child_rows` ended: it returned True, or it failed. -/
inductive Ending where
  | returned
  | failed
deriving DecidableEq

/-- A handler driven from await to await, each coming back as the list says; none when the list does
    not fit. -/
def drive (message : Json) : List Outcome → State × Option HandlerAwait → Option (State × Ending)
  | [], (s, none) => some (s, .returned)
  | outcome :: outcomes, (s, some awaiting) =>
    let r := advance s ⟨message, awaiting⟩ outcome
    if escapes awaiting outcome then
      match outcomes with
      | [] => some (r.1, .failed)
      | _ :: _ => none
    else drive message outcomes (proceed r)
  | _, _ => none

/-- The awaits it comes to, each with how it came back.  What failed and what was deleted is read
    off this list and not off the state, which does not show it. -/
def trace (message : Json) : List Outcome → State × Option HandlerAwait →
    List (HandlerAwait × Outcome)
  | outcome :: outcomes, (s, some awaiting) =>
    (awaiting, outcome) ::
      if escapes awaiting outcome then []
      else trace message outcomes (proceed (advance s ⟨message, awaiting⟩ outcome))
  | _, _ => []

/-- The type whose dead letters are being read at this await. -/
def HandlerAwait.reads : HandlerAwait → Option DataType
  | .openChannel t _ | .declareQueue t _ => some t
  | _ => none

/-- The table the await deletes from. -/
def HandlerAwait.deletes : HandlerAwait → Option ChildTable
  | .purging call _ => call.awaiting.deletes
  | _ => none

/-- The tables an attempt issued a `DELETE` for. -/
def deletions (entries : List (HandlerAwait × Outcome)) : List ChildTable :=
  entries.filterMap (·.1.deletes)

/-- The boundary of a purge whose commit took effect and whose answer was lost.  Any other await of
    the purge is inside the transaction, and its failure rolls it back. -/
def commitLost : HandlerAwait × Outcome → Option Instant
  | (.purging call _, .raisedAfter) =>
    if call.awaiting = .exitStack then some call.boundary else none
  | _ => none

/-- The same, when that is how an attempt ended. -/
def lostCommit (entries : List (HandlerAwait × Outcome)) : Option Instant :=
  entries.getLast?.bind commitLost

/-- What a delivery of an `extraction_complete` leaves: the bookkeeping, the service, and whether the
    signal is acknowledged. -/
structure SignalRun where
  bookkeeping : Broker.State
  service : State
  acknowledged : Bool

/-- `_handle_data_message` for an `extraction_complete`: completion is declared, and withdrawn when the
    reconciliation fails. -/
def handleSignal (delay : Nat) (bookkeeping : Broker.State) (s : State) (t : DataType)
    (message : Json) (outcomes : List Outcome) : Option SignalRun :=
  let declared := Broker.handleDataMessage delay bookkeeping t .extractionComplete
  let i := bookkeeping.reconciling.length
  (drive message outcomes (proceed (receive s t message))).map fun
    | (s, .returned) => ⟨Broker.reconciled delay declared i t true, s, true⟩
    | (s, .failed) => ⟨Broker.reconciled delay declared i t false, s, false⟩

/-- With everything answered, a handler comes to `purge` with this object: what it decides. -/
inductive Decides (message : Json) : State × Next → StaleChildRowPurge → Prop
  | call (s : State) : Decides message (s, .callPurge) s.purge
  | next {s : State} {awaiting : HandlerAwait} {p : StaleChildRowPurge}
      (h : Decides message (advance s ⟨message, awaiting⟩ .answered) p) :
      Decides message (s, .await awaiting) p

/-- An attempt decides with one object, so what is said of the one it decides with is said of all. -/
theorem Decides.unique {message : Json} {r : State × Next} {p q : StaleChildRowPurge}
    (hp : Decides message r p) (hq : Decides message r q) : p = q := by
  induction hp with
  | call s =>
    cases hq
    rfl
  | next _ ih =>
    cases hq with
    | next hq => exact ih hq

/-! ## What an attempt leaves -/

/-- While an attempt is under way: what is collected is as it was, marks are only added, the tables
    are as they were, and the rows hold what they did and, under the signal's own key, marks.  There
    is something to blame for each new mark; what counts as blame is left to the use (`blamed`),
    since it is of the whole trace. -/
structure Underway (blamed : DataType → Prop) (message : Json) (s₀ s : State)
    (p : StaleChildRowPurge) : Prop where
  boundary : s.purge.boundary = p.boundary
  signals : s.purge.signals = p.signals
  settledBoundary : s.purge.settledBoundary = p.settledBoundary
  marks : p.deadLettered ⊆ s.purge.deadLettered
  db : s.db = s₀.db
  deliveries : s.deliveries = s₀.deliveries
  otherDeadLetters : s.otherDeadLetters = s₀.otherDeadLetters
  kept : ∀ version, s₀.recordedVetoes version ⊆ s.recordedVetoes version
  added : ∀ version, extractionKey message = some version →
    s.recordedVetoes version ⊆ s₀.recordedVetoes version ∪ s.purge.deadLettered
  blame : ∀ t ∈ s.purge.deadLettered, t ∈ p.deadLettered ∨ blamed t

/-- What is known at an await of what the handler keeps in its locals: the key it was delivered
    with, the vetoes it has read or is about to write, each with something to blame, and the
    boundary its purge was called for. -/
def Holds (blamed : DataType → Prop) (message : Json) (s : State) (p : StaleChildRowPurge) :
    HandlerAwait → Prop
  | .closeChannel t waiting _ => waiting ≠ some 0 → blamed t
  | .slot version => extractionKey message = some version
  | .readVetoes version => extractionKey message = some version
  | .vetoesRead version vetoes => extractionKey message = some version ∧
    ∀ t ∈ vetoes, t ∈ p.deadLettered ∨ blamed t
  | .recordExtraction version vetoed => extractionKey message = some version ∧
    vetoed ⊆ s.purge.deadLettered
  | .purging call _ => p.boundary = some call.boundary
  | _ => True

/-- The tables a handler's purge has deleted from so far. -/
def HandlerAwait.deleted : HandlerAwait → List ChildTable
  | .purging _ deleted => deleted
  | _ => []

section Attempt

variable {blamed : DataType → Prop} {message : Json} {s₀ s : State} {p : StaleChildRowPurge}

theorem Underway.mark (h : Underway blamed message s₀ s p) {types : Finset DataType}
    (hblame : ∀ t ∈ types, t ∈ p.deadLettered ∨ blamed t) :
    Underway blamed message s₀ (s.mark types) p := by
  refine ⟨h.boundary, h.signals, h.settledBoundary, h.marks.trans Finset.subset_union_right, h.db,
    h.deliveries, h.otherDeadLetters, h.kept, ?_, ?_⟩
  · intro version hkey
    exact (h.added version hkey).trans
      (Finset.union_subset_union_right Finset.subset_union_right)
  · intro t ht
    exact (Finset.mem_union.mp ht).elim (hblame t) (h.blame t)

theorem Underway.recordExtraction (h : Underway blamed message s₀ s p) {version : String}
    {vetoed : Finset DataType} (hkey : extractionKey message = some version)
    (hvetoed : vetoed ⊆ s.purge.deadLettered) :
    Underway blamed message s₀ (s.recordExtraction version vetoed) p := by
  refine ⟨h.boundary, h.signals, h.settledBoundary, h.marks, h.db, h.deliveries,
    h.otherDeadLetters, ?_, ?_, h.blame⟩
  · intro version'
    rw [recordedVetoes_recordExtraction]
    split
    · rename_i hsame
      rw [hsame]
      exact (h.kept version).trans Finset.subset_union_left
    · exact h.kept version'
  · intro version' hkey'
    obtain rfl : version = version' := Option.some.inj (hkey.symm.trans hkey')
    rw [recordedVetoes_recordExtraction, if_pos rfl]
    exact Finset.union_subset (h.added version hkey) (hvetoed.trans Finset.subset_union_right)

theorem holds_gather {rest : List DataType} {awaiting : HandlerAwait} {s : State}
    (h : gather message rest = .await awaiting) : Holds blamed message s p awaiting := by
  rcases gather_eq_await h with ⟨t, later, rfl⟩ | ⟨version, hkey, rfl⟩
  · trivial
  · exact hkey

/-- The gathering goes on, or `purge` is called, or the attempt is over. -/
def Proceeds (blamed : DataType → Prop) (message : Json) (s₀ : State) (p : StaleChildRowPurge) :
    State × Next → Prop
  | (s, .await awaiting) => Underway blamed message s₀ s p ∧ Holds blamed message s p awaiting
  | (s, .callPurge) => Underway blamed message s₀ s p
  | (_, .done) => True

theorem proceeds_gather {rest : List DataType} (h : Underway blamed message s₀ s p) :
    Proceeds blamed message s₀ p (s, gather message rest) := by
  cases hnext : gather message rest with
  | await awaiting => exact ⟨h, holds_gather hnext⟩
  | callPurge => exact h
  | done => trivial

/-- One await that comes back and does not end the attempt. -/
theorem proceeds_advance {awaiting : HandlerAwait} {outcome : Outcome}
    (h : Underway blamed message s₀ s p) (hholds : Holds blamed message s p awaiting)
    (hread : ∀ t ∈ awaiting.reads, outcome ≠ .answered → blamed t)
    (hwaiting : ∀ t, s₀.deadLettersWaiting t ≠ 0 → blamed t)
    (hrow : ∀ version, extractionKey message = some version →
      ∀ t ∈ s₀.recordedVetoes version, blamed t) :
    Proceeds blamed message s₀ p (advance s ⟨message, awaiting⟩ outcome) := by
  have hadvances := advances s message awaiting outcome
  generalize advance s ⟨message, awaiting⟩ outcome = r at hadvances ⊢
  cases hadvances with
  | opened | held => exact ⟨h, hholds⟩
  -- Not answered, which is itself something to blame.
  | @unopened t _ _ hfailed =>
    refine proceeds_gather (h.mark fun t' ht' => Or.inr ?_)
    rw [Finset.mem_singleton.mp ht']
    exact hread t rfl hfailed
  -- Counted: nothing has changed since the attempt began, so what waits now waited then.
  | @counted t =>
    refine ⟨h, fun hne => hwaiting t fun hzero => ?_⟩
    -- The attempt's own code never touches a queue.
    have hsame : s.deadLettersWaiting t = s₀.deadLettersWaiting t := by
      unfold State.deadLettersWaiting
      rw [h.deliveries, h.otherDeadLetters]
    rw [hsame] at hne
    exact hne (congrArg some hzero)
  | @uncounted t _ _ hfailed => exact ⟨h, fun _ => hread t rfl hfailed⟩
  | empty => exact proceeds_gather h
  | waiting hne =>
    refine proceeds_gather (h.mark fun t' ht' => Or.inr ?_)
    rw [Finset.mem_singleton.mp ht']
    exact hholds hne
  -- The row holds what it held, with what this attempt has put there; so what is read was recorded
  -- before, or is among the marks.
  | @read version =>
    refine ⟨h, hholds, fun t ht => ?_⟩
    rcases Finset.mem_union.mp (h.added version hholds ht) with hrecorded | hmarked
    · exact Or.inr (hrow version hholds t hrecorded)
    · exact h.blame t hmarked
  | marked => exact ⟨h.mark hholds.2, hholds.1, Finset.Subset.refl _⟩
  | recorded => exact ⟨h.recordExtraction hholds.1 hholds.2, trivial⟩
  | left => exact h
  | suspended _ hboundary => exact ⟨h, hholds.trans (congrArg some hboundary.symm)⟩
  | recordLost | finished | commitLost | raised => trivial

/-- An attempt that goes on past a step is still under way. -/
theorem underway_proceed {r : State × Next} {awaiting : HandlerAwait}
    (h : Proceeds blamed message s₀ p r) (hnext : (proceed r).2 = some awaiting) :
    Underway blamed message s₀ (proceed r).1 p ∧ Holds blamed message (proceed r).1 p awaiting := by
  obtain ⟨s, next⟩ := r
  cases next with
  | await awaiting' =>
    obtain rfl := Option.some.inj hnext
    exact h
  | callPurge =>
    obtain ⟨-, call, rfl, hboundary⟩ := callPurge_await hnext
    have hsame : (proceed (s, .callPurge)).1 = s := by
      revert hnext
      simp only [proceed, callPurge]
      split <;> simp
    rw [hsame]
    exact ⟨h, h.boundary.symm.trans hboundary⟩
  | done => cases hnext

/-- A step that goes on has deleted what was deleted before it, and what its own await deletes.  So
    at the commit the two lists, of the trace and of the purge, are the same. -/
theorem deleted_proceed {awaiting awaiting' : HandlerAwait} {outcome : Outcome}
    (hnext : (proceed (advance s ⟨message, awaiting⟩ outcome)).2 = some awaiting') :
    awaiting'.deleted = awaiting.deleted ++ awaiting.deletes.toList := by
  have hadvances := advances s message awaiting outcome
  generalize advance s ⟨message, awaiting⟩ outcome = r at hadvances hnext
  -- Before the purge nothing is deleted: the gathering comes to the next queue, the slot or the purge.
  have hgather {s : State} {rest : List DataType}
      (hnext : (proceed (s, gather message rest)).2 = some awaiting') : awaiting'.deleted = [] := by
    cases hgathered : gather message rest with
    | await next =>
      rw [hgathered] at hnext
      obtain rfl : next = awaiting' := Option.some.inj hnext
      rcases gather_eq_await hgathered with ⟨t, later, rfl⟩ | ⟨version, -, rfl⟩ <;> rfl
    | callPurge =>
      rw [hgathered] at hnext
      obtain ⟨-, call, rfl, -⟩ := callPurge_await hnext
      rfl
    | done =>
      rw [hgathered] at hnext
      cases hnext
  cases hadvances with
  | unopened | empty | waiting => exact hgather hnext
  | left =>
    obtain ⟨-, call, rfl, -⟩ := callPurge_await hnext
    rfl
  | opened | counted | uncounted | held | read | marked | recorded | suspended =>
    obtain rfl := Option.some.inj hnext
    rfl
  | recordLost | finished | commitLost | raised => cases hnext

theorem commitLost_eq_some {awaiting : HandlerAwait} {outcome : Outcome} {b : Instant}
    (h : commitLost (awaiting, outcome) = some b) :
    ∃ call deleted, awaiting = .purging call deleted ∧ outcome = .raisedAfter ∧
      call.awaiting = .exitStack ∧ call.boundary = b := by
  unfold commitLost at h
  split at h
  · rename_i call deleted heq
    cases heq
    split at h
    · rename_i hexit
      exact ⟨call, deleted, rfl, rfl, hexit, Option.some.inj h⟩
    · cases h
  · cases h

/-- An await that ends the attempt leaves the state, or took effect before its answer was lost: the
    row was written, or the purge committed. -/
theorem advance_escapes {awaiting : HandlerAwait} {outcome : Outcome}
    (h : Underway blamed message s₀ s p) (hholds : Holds blamed message s p awaiting)
    (hescapes : escapes awaiting outcome = true) :
    ∃ last, Underway blamed message s₀ last p ∧
      (advance s ⟨message, awaiting⟩ outcome).1 =
        (commitLost (awaiting, outcome)).elim last fun b => last.commitDeletes b awaiting.deleted := by
  cases hlost : commitLost (awaiting, outcome) with
  | some b =>
    obtain ⟨call, deleted, rfl, rfl, hexit, rfl⟩ := commitLost_eq_some hlost
    refine ⟨s, h, ?_⟩
    show (if call.awaiting = .exitStack then s.commitDeletes call.boundary deleted else s) = _
    rw [if_pos hexit]
    rfl
  | none =>
    have hadvances := advances s message awaiting outcome
    generalize advance s ⟨message, awaiting⟩ outcome = r at hadvances ⊢
    cases hadvances with
    | recordLost => exact ⟨_, h.recordExtraction hholds.1 hholds.2, rfl⟩
    | @commitLost call deleted hexit =>
      have hsome : commitLost (.purging call deleted, .raisedAfter) = some call.boundary :=
        if_pos hexit
      rw [hlost] at hsome
      cases hsome
    | raised => exact ⟨s, h, rfl⟩
    -- The awaits of `dead_letters_waiting` and the answered ones do not end the attempt.
    | unopened | uncounted | empty | waiting => cases outcome <;> cases hescapes
    | _ => cases hescapes

/-- **What a failed attempt leaves**, by induction on its awaits.  The last is the one that fails;
    all before it went on, and each kept `Underway`. -/
theorem underway_failed {outcomes : List Outcome} {awaiting : HandlerAwait} {after : State}
    (h : Underway blamed message s₀ s p) (hholds : Holds blamed message s p awaiting)
    (hrun : drive message outcomes (s, some awaiting) = some (after, .failed))
    (hread : ∀ entry ∈ trace message outcomes (s, some awaiting), ∀ t ∈ entry.1.reads,
      entry.2 ≠ .answered → blamed t)
    (hwaiting : ∀ t, s₀.deadLettersWaiting t ≠ 0 → blamed t)
    (hrow : ∀ version, extractionKey message = some version →
      ∀ t ∈ s₀.recordedVetoes version, blamed t) :
    ∃ last, Underway blamed message s₀ last p ∧
      (after = (lostCommit (trace message outcomes (s, some awaiting))).elim last fun b =>
        last.commitDeletes b
          (awaiting.deleted ++ deletions (trace message outcomes (s, some awaiting)))) ∧
      ∀ b ∈ lostCommit (trace message outcomes (s, some awaiting)), p.boundary = some b := by
  induction outcomes generalizing s awaiting with
  | nil => cases hrun
  | cons outcome outcomes ih =>
    cases hescapes : escapes awaiting outcome with
    | true =>
      cases outcomes with
      | cons _ _ => simp [drive, hescapes] at hrun
      | nil =>
        obtain rfl : (advance s ⟨message, awaiting⟩ outcome).1 = after := by
          simpa [drive, hescapes] using hrun
        have htrace : trace message [outcome] (s, some awaiting) = [(awaiting, outcome)] := by
          simp [trace, hescapes]
        obtain ⟨last, hlast, hafter⟩ := advance_escapes h hholds hescapes
        rw [htrace]
        refine ⟨last, hlast, ?_, fun b hb => ?_⟩
        · rw [hafter]
          show (commitLost (awaiting, outcome)).elim last _ =
            (commitLost (awaiting, outcome)).elim last _
          cases hlost : commitLost (awaiting, outcome) with
          | none => rfl
          | some b =>
            -- A commit deletes nothing itself.
            obtain ⟨call, deleted, rfl, -, hexit, -⟩ := commitLost_eq_some hlost
            have hnothing : deletions [(HandlerAwait.purging call deleted, outcome)] = [] := by
              simp [deletions, HandlerAwait.deletes, hexit, Purge.PurgeAwait.deletes]
            rw [hnothing, List.append_nil]
        · obtain ⟨call, deleted, rfl, -, -, rfl⟩ := commitLost_eq_some hb
          exact hholds
    | false =>
      have hrest : drive message outcomes (proceed (advance s ⟨message, awaiting⟩ outcome)) =
          some (after, .failed) := by
        simpa [drive, hescapes] using hrun
      have htrace : trace message (outcome :: outcomes) (s, some awaiting) = (awaiting, outcome) ::
          trace message outcomes (proceed (advance s ⟨message, awaiting⟩ outcome)) := by
        simp [trace, hescapes]
      rw [htrace] at hread ⊢
      have hproceeds := proceeds_advance h hholds (hread _ List.mem_cons_self) hwaiting hrow
      obtain ⟨s', next, hproceed⟩ :
          ∃ s' next, proceed (advance s ⟨message, awaiting⟩ outcome) = (s', next) := ⟨_, _, rfl⟩
      cases next with
      | none =>
        -- The handler is at its end, and has not failed.
        rw [hproceed] at hrest
        cases outcomes <;> cases hrest
      | some awaiting' =>
        have hnext : (proceed (advance s ⟨message, awaiting⟩ outcome)).2 = some awaiting' := by
          rw [hproceed]
        obtain ⟨hunderway, hholds'⟩ := underway_proceed hproceeds hnext
        have hdeleted := deleted_proceed hnext
        rw [hproceed] at hrest hunderway hholds' hread ⊢
        obtain ⟨last, hlast, hafter, hboundary⟩ := ih hunderway hholds' hrest
          fun entry hentry => hread entry (List.mem_cons_of_mem _ hentry)
        have hlost : lostCommit ((awaiting, outcome) :: trace message outcomes (s', some awaiting')) =
            lostCommit (trace message outcomes (s', some awaiting')) := by
          cases outcomes with
          | nil => cases hrest
          | cons outcome' outcomes =>
            unfold lostCommit
            rw [trace, List.getLast?_cons_cons]
        have hdeletions : awaiting'.deleted ++
              deletions (trace message outcomes (s', some awaiting')) =
            awaiting.deleted ++
              deletions ((awaiting, outcome) :: trace message outcomes (s', some awaiting')) := by
          rw [hdeleted, List.append_assoc]
          unfold deletions
          rw [List.filterMap_cons]
          cases awaiting.deletes <;> rfl
        rw [hlost, ← hdeletions]
        exact ⟨last, hlast, hafter, hboundary⟩

end Attempt

/-! ## What an attempt decides -/

/-- The types a healthy gathering marks: those recorded under the signal's key, and those read whose
    dead letters wait. -/
def found (message : Json) (s : State) (types : List DataType) : Finset DataType :=
  (extractionKey message).elim ∅ s.recordedVetoes ∪
    (types.filter fun t => s.deadLettersWaiting t ≠ 0).toFinset

theorem mark_mark (s : State) (types types' : Finset DataType) :
    (s.mark types).mark types' = s.mark (types' ∪ types) := by
  unfold State.mark
  rw [Finset.union_assoc]

/-- **What a healthy attempt decides with**: its marks are those it started with and those it finds.
    By induction on the types whose dead letters are still to be read. -/
theorem decides_gather (message : Json) (s : State) (types : List DataType) :
    Decides message (s, gather message types) (s.mark (found message s types)).purge := by
  induction types generalizing s with
  | nil =>
    cases hkey : extractionKey message with
    | none =>
      have hnext : gather message [] = .callPurge := by simp [gather, hkey]
      have hfound : found message s [] = ∅ := by simp [found, hkey]
      rw [hnext, hfound, mark_empty]
      exact .call s
    | some version =>
      have hnext : gather message [] = .await (.slot version) := by simp [gather, hkey]
      have hfound : found message s [] = s.recordedVetoes version := by simp [found, hkey]
      rw [hnext, hfound]
      -- The slot, the row, the end of its transaction, the row's write, the slot again.
      exact .next (.next (.next (.next (.next (.call _)))))
  | cons t types ih =>
    refine .next (.next (.next ?_))
    show Decides message (if some (s.deadLettersWaiting t) = some 0 then s else s.mark {t},
      gather message types) _
    by_cases hwaiting : s.deadLettersWaiting t = 0
    · have hfound : found message s (t :: types) = found message s types := by
        simp [found, hwaiting]
      rw [if_pos (congrArg some hwaiting), hfound]
      exact ih s
    · have hfound : found message s (t :: types) = found message (s.mark {t}) types ∪ {t} := by
        ext t'
        simp only [found, List.filter_cons, hwaiting, ne_eq, not_false_eq_true, decide_true, if_true,
          List.toFinset_cons, Finset.mem_union, Finset.mem_insert, Finset.mem_singleton]
        show _ ↔ (_ ∨ _) ∨ _
        tauto
      rw [if_neg (fun h => hwaiting (Option.some.inj h)), hfound, ← mark_mark]
      exact ih (s.mark {t})

/-- A redelivered signal finds what its first delivery collected, and collects nothing more. -/
theorem recordCompletion_again {p p' : StaleChildRowPurge} {t : DataType} {message : Json}
    (hlatched : (p.recordCompletion t message).isLatched config = true)
    (hboundary : p'.boundary = (p.recordCompletion t message).boundary)
    (hsignals : p'.signals = (p.recordCompletion t message).signals) :
    p'.recordCompletion t message = p' := by
  have hne := (StaleChildRowPurge.isLatched_iff.mp hlatched).1
  rcases StaleChildRowPurge.recordCompletion_cases p t message with
    ⟨-, hp⟩ | ⟨b, hb, ⟨c, hc, hlt, hp⟩ | ⟨-, hp⟩ | ⟨hc, hp⟩⟩
  -- The signals could not be latched if this one had named no boundary.
  · rw [hp] at hne
    exact absurd rfl hne
  all_goals rw [hp] at hboundary hsignals
  -- Ignored the first time, for an older instant, and so again.
  · rw [hc] at hboundary
    simp [StaleChildRowPurge.recordCompletion, hb, StaleChildRowPurge.collect, hboundary, hlt]
  -- Collected the first time, whether it opened the boundary or joined it: the same count is stored
  -- again.
  all_goals
    have hsame : p'.signals.insert t (Purge.reportedCount t message) = p'.signals := by
      rw [hsignals, Finmap.insert_insert]
    have hboundary : p'.boundary = some b := by
      first | exact hboundary | exact hboundary.trans hc
    simp only [StaleChildRowPurge.recordCompletion, hb, StaleChildRowPurge.collect, hboundary,
      Option.any_some, Option.all_some, lt_irrefl, decide_false, hsame]
    show { p' with boundary := some b } = p'
    rw [← hboundary]

/-- The marks an attempt adds to an object.  Nothing else of it differs between an attempt and its
    retry. -/
def withMarks (p : StaleChildRowPurge) (types : Finset DataType) : StaleChildRowPurge :=
  { p with deadLettered := p.deadLettered ∪ types }

theorem eq_withMarks {p p' : StaleChildRowPurge} {types : Finset DataType}
    (hboundary : p'.boundary = p.boundary) (hsignals : p'.signals = p.signals)
    (hsettled : p'.settledBoundary = p.settledBoundary)
    (hmarks : p'.deadLettered = p.deadLettered ∪ types) : p' = withMarks p types := by
  unfold withMarks
  rw [← hboundary, ← hsignals, ← hsettled, ← hmarks]

/-- What a gathering finds in the rows of the latch. -/
theorem mem_found {message : Json} {s : State} {types : List DataType} {t : DataType} :
    t ∈ found message s types ↔
      (∃ version, extractionKey message = some version ∧ t ∈ s.recordedVetoes version) ∨
        (t ∈ types ∧ s.deadLettersWaiting t ≠ 0) := by
  unfold found
  cases extractionKey message with
  | none => simp
  | some version => simp

/-- Two gatherings over the same queues, the second after an attempt that marked what it recorded:
    they decide alike but for the marks.  What the second finds in the rows the first wrote it has
    on the object already. -/
theorem decides_with_marks {message : Json} {first retry : State} (types : List DataType)
    (hboundary : retry.purge.boundary = first.purge.boundary)
    (hsignals : retry.purge.signals = first.purge.signals)
    (hsettled : retry.purge.settledBoundary = first.purge.settledBoundary)
    (hmarks : first.purge.deadLettered ⊆ retry.purge.deadLettered)
    (hqueues : ∀ t, retry.deadLettersWaiting t = first.deadLettersWaiting t)
    (hkept : ∀ version, first.recordedVetoes version ⊆ retry.recordedVetoes version)
    (hadded : ∀ version, extractionKey message = some version →
      retry.recordedVetoes version ⊆ first.recordedVetoes version ∪ retry.purge.deadLettered) :
    ∃ q, Decides message (first, gather message types) q ∧
      Decides message (retry, gather message types)
        (withMarks q (retry.purge.deadLettered \ first.purge.deadLettered)) := by
  -- The two decide on what each has found and been marked with. What the retry finds and the first
  -- attempt does not is in the marks it was given.
  have hsame : (retry.mark (found message retry types)).purge =
      withMarks (first.mark (found message first types)).purge
        (retry.purge.deadLettered \ first.purge.deadLettered) := by
    refine eq_withMarks hboundary hsignals hsettled ?_
    show found message retry types ∪ retry.purge.deadLettered =
      (found message first types ∪ first.purge.deadLettered) ∪
        (retry.purge.deadLettered \ first.purge.deadLettered)
    rw [Finset.union_assoc, Finset.union_sdiff_of_subset hmarks]
    -- Type by type: waiting in both or in neither; and a veto that was recorded since is a mark.
    ext t
    simp only [Finset.mem_union, mem_found, hqueues]
    constructor
    · rintro ((⟨version, hkey, hrecorded⟩ | hwaiting) | hmarked)
      · rcases Finset.mem_union.mp (hadded version hkey hrecorded) with hbefore | hmarked
        · exact Or.inl (Or.inl ⟨version, hkey, hbefore⟩)
        · exact Or.inr hmarked
      · exact Or.inl (Or.inr hwaiting)
      · exact Or.inr hmarked
    · rintro ((⟨version, hkey, hrecorded⟩ | hwaiting) | hmarked)
      · exact Or.inl (Or.inl ⟨version, hkey, hkept version hrecorded⟩)
      · exact Or.inl (Or.inr hwaiting)
      · exact Or.inr hmarked
  refine ⟨_, decides_gather message first types, ?_⟩
  rw [← hsame]
  exact decides_gather message retry types

/-- Why a failed attempt may have marked a type: dead letters of it waited, its veto was recorded before
    under the signal's key, or the reading of its dead letters was not answered. -/
def Blamed (s : State) (message : Json) (entries : List (HandlerAwait × Outcome)) (t : DataType) :
    Prop :=
  s.deadLettersWaiting t ≠ 0 ∨
    (∃ version, extractionKey message = some version ∧ t ∈ s.recordedVetoes version) ∨
    ∃ entry ∈ entries, entry.1.reads = some t ∧ entry.2 ≠ .answered

/-- A first attempt, or one after a failure: the object is latched and not settled. -/
theorem receive_gathers {s : State} {t : DataType} {message : Json}
    (hlatched : (s.purge.recordCompletion t message).isLatched config = true)
    (hunsettled : (s.purge.recordCompletion t message).isSettled = false) :
    receive s t message = ({ s with purge := s.purge.recordCompletion t message },
      gather message Purge.MUSICBRAINZ_DATA_TYPES) := by
  rw [receive_eq, receive_next, if_pos hlatched, if_neg (by rw [hunsettled]; exact Bool.noConfusion)]

/-- What a healthy attempt decides with, from the delivery of its signal on. -/
theorem decides_receive {s : State} {t : DataType} {message : Json}
    (hlatched : (s.purge.recordCompletion t message).isLatched config = true)
    (hunsettled : (s.purge.recordCompletion t message).isSettled = false) :
    Decides message (receive s t message) (withMarks (s.purge.recordCompletion t message)
      (found message s Purge.MUSICBRAINZ_DATA_TYPES)) := by
  rw [receive_gathers hlatched hunsettled]
  unfold withMarks
  rw [Finset.union_comm]
  exact decides_gather message { s with purge := s.purge.recordCompletion t message } _

/-- **A failed attempt only adds marks.**  Whatever await of a reconciliation fails, in whatever way:
    what is collected and what is settled stay, the type is not complete and the signal not
    acknowledged, and both tables are as they were — unless the purge's commit took effect and its answer
    was lost, when they are as the deletes it issued left them.  A type is newly marked only when there
    is something to blame it for.  A later attempt, in any state of the tables and the queues, decides
    as a first one would with those marks added. -/
theorem failed_attempt_only_adds_marks (delay : Nat) (bookkeeping : Broker.State) (s after : State)
    (t : DataType) (message : Json) (outcomes : List Outcome)
    (hlatched : (s.purge.recordCompletion t message).isLatched config = true)
    (hunsettled : (s.purge.recordCompletion t message).isSettled = false)
    (hfailed : drive message outcomes (proceed (receive s t message)) = some (after, .failed)) :
    let entries := trace message outcomes (proceed (receive s t message))
    (∃ b, handleSignal delay bookkeeping s t message outcomes = some ⟨b, after, false⟩ ∧
      t ∉ b.completedFiles) ∧
    (after.db = (lostCommit entries).elim s.db fun b =>
      (s.commitDeletes b (deletions entries)).db) ∧
    (∀ b ∈ lostCommit entries, (s.purge.recordCompletion t message).boundary = some b) ∧
    ∃ gathered,
      after.purge = withMarks (s.purge.recordCompletion t message) gathered ∧
      (∀ t' ∈ gathered, t' ∉ s.purge.deadLettered ∧ Blamed s message entries t') ∧
      ∀ later : State, ∃ q,
        Decides message
          (receive { later with purge := s.purge, latch := s.latch } t message) q ∧
        Decides message
          (receive { later with purge := after.purge, latch := after.latch } t message)
          (withMarks q gathered) := by
  intro entries
  set p := s.purge.recordCompletion t message with hp
  have hentries : entries = trace message outcomes ({ s with purge := p },
      some (.openChannel "artists" ["labels", "release-groups", "releases"])) := by
    show trace message outcomes (proceed (receive s t message)) = _
    rw [receive_gathers hlatched hunsettled]
    rfl
  rw [receive_gathers hlatched hunsettled] at hfailed
  have hstart : Underway (Blamed s message entries) message s { s with purge := p } p :=
    ⟨rfl, rfl, rfl, Finset.Subset.refl _, rfl, rfl, rfl, fun _ => Finset.Subset.refl _,
      fun _ _ => Finset.subset_union_left, fun _ ht => Or.inl ht⟩
  have hholds : Holds (Blamed s message entries) message { s with purge := p } p
      (.openChannel "artists" ["labels", "release-groups", "releases"]) := trivial
  obtain ⟨last, hlast, hafter, hboundary⟩ := underway_failed hstart hholds hfailed
    (fun entry hentry t' ht' hne =>
      Or.inr (Or.inr ⟨entry, hentries.symm ▸ hentry, ht', hne⟩))
    (fun _ hwaiting => Or.inl hwaiting)
    (fun version hkey _ hrecorded => Or.inr (Or.inl ⟨version, hkey, hrecorded⟩))
  -- The first await is a queue's: nothing is deleted before it.
  rw [← hentries] at hafter hboundary
  have hafter : after = (lostCommit entries).elim last fun b =>
      last.commitDeletes b (deletions entries) := hafter
  -- A commit whose answer is lost changes the tables alone.
  have hpurge : after.purge = last.purge := by
    rw [hafter]
    cases lostCommit entries <;> rfl
  have hlatch : after.latch = last.latch := by
    rw [hafter]
    cases lostCommit entries <;> rfl
  have hmarks : p.deadLettered = s.purge.deadLettered :=
    StaleChildRowPurge.recordCompletion_deadLettered t message
  refine ⟨?_, ?_, hboundary, after.purge.deadLettered \ p.deadLettered, ?_, ?_, ?_⟩
  · have hrun : handleSignal delay bookkeeping s t message outcomes = some
        ⟨Broker.reconciled delay (Broker.handleDataMessage delay bookkeeping t .extractionComplete)
          bookkeeping.reconciling.length t false, after, false⟩ := by
      unfold handleSignal
      rw [receive_gathers hlatched hunsettled, hfailed]
      rfl
    refine ⟨_, hrun, ?_⟩
    rw [Broker.completedFiles_reconciled]
    exact Finset.notMem_erase t _
  · rw [hafter]
    cases lostCommit entries with
    | none => exact hlast.db
    | some b =>
      show (deletions entries).foldl (fun db table => db.deleteStale b table) last.db = _
      rw [hlast.db]
      rfl
  · rw [hpurge]
    refine eq_withMarks hlast.boundary hlast.signals hlast.settledBoundary ?_
    exact (Finset.union_sdiff_of_subset hlast.marks).symm
  · intro t' ht'
    obtain ⟨hmarked, hnew⟩ := Finset.mem_sdiff.mp ht'
    rw [hpurge] at hmarked
    exact ⟨hmarks ▸ hnew, (hlast.blame t' hmarked).resolve_left hnew⟩
  · intro later
    rw [hpurge, hlatch]
    have hagain : last.purge.recordCompletion t message = last.purge :=
      recordCompletion_again hlatched hlast.boundary hlast.signals
    have hlatched' : (last.purge.recordCompletion t message).isLatched config = true := by
      rw [hagain]
      unfold StaleChildRowPurge.isLatched
      rw [hlast.boundary, hlast.signals]
      exact hlatched
    have hunsettled' : (last.purge.recordCompletion t message).isSettled = false := by
      rw [hagain]
      unfold StaleChildRowPurge.isSettled
      rw [hlast.boundary, hlast.settledBoundary]
      exact hunsettled
    have hfirst : receive { later with purge := s.purge, latch := s.latch } t message =
        ({ later with purge := p, latch := s.latch },
          gather message Purge.MUSICBRAINZ_DATA_TYPES) := receive_gathers hlatched hunsettled
    have hretry : receive { later with purge := last.purge, latch := last.latch } t message =
        ({ later with purge := last.purge.recordCompletion t message, latch := last.latch },
          gather message Purge.MUSICBRAINZ_DATA_TYPES) := receive_gathers hlatched' hunsettled'
    rw [hagain] at hretry
    rw [hfirst, hretry]
    exact decides_with_marks Purge.MUSICBRAINZ_DATA_TYPES hlast.boundary hlast.signals
      hlast.settledBoundary hlast.marks (fun _ => rfl) hlast.kept hlast.added

/-- February's signal of a type. -/
def februarySignal (t : DataType) : Json :=
  .obj [("record_counts", .obj [(t, .int 1)]), ("started_at", .str "2024-02-01T00:00:00Z"),
    ("type", .str "extraction_complete"), ("version", .str "20240201")]

/-- Three of February's signals have come, and one of two links is from before February. -/
def awaitingReleases : State where
  purge := ["artists", "labels", "release-groups"].foldl
    (fun p t => p.recordCompletion t (februarySignal t)) {}
  db := februaryLinks

/-- How the fourth's attempt goes: every await is answered but the commit of its purge, which took
    effect. -/
def losingTheCommit : List Outcome := List.replicate 26 .answered ++ [.raisedAfter]

/-- The stale link is gone, and nothing else has changed: the retry is not vetoed for it. -/
theorem failed_commit_in_february :
    ∃ after, drive (februarySignal "releases") losingTheCommit
        (proceed (receive awaitingReleases "releases" (februarySignal "releases"))) =
          some (after, .failed) ∧
      after.db = (awaitingReleases.commitDeletes 63842428800000000 [.externalLinks]).db ∧
      after.db.externalLinks ≠ awaitingReleases.db.externalLinks ∧
      after.purge.deadLettered = ∅ ∧ after.recordedVetoes "20240201" = ∅ := by
  -- 26 awaits are answered and the commit's answer is lost.
  let entries := trace (februarySignal "releases") losingTheCommit
    (proceed (receive awaitingReleases "releases" (februarySignal "releases")))
  have hrun : ((drive (februarySignal "releases") losingTheCommit
      (proceed (receive awaitingReleases "releases" (februarySignal "releases")))).map fun r =>
        decide (r.2 = .failed ∧ r.1.recordedVetoes "20240201" = ∅ ∧
          r.1.db.externalLinks ≠ awaitingReleases.db.externalLinks)) = some true := by
    decide +kernel
  -- The run is evaluated for what the theorem does not say: that it fails, and that the links have
  -- changed.
  obtain ⟨⟨after, ending⟩, hdrive, hrun⟩ := Option.map_eq_some_iff.mp hrun
  obtain ⟨hfailed, hrow, hchanged⟩ := of_decide_eq_true hrun
  obtain rfl : ending = .failed := hfailed
  obtain ⟨-, hdb, -, gathered, hpurge, hblamed, -⟩ := failed_attempt_only_adds_marks 0 {}
    awaitingReleases after "releases" (februarySignal "releases") losingTheCommit
    (by decide +kernel) (by decide +kernel) hdrive
  refine ⟨after, hdrive, ?_, hchanged, ?_, hrow⟩
  · have hlost : lostCommit entries = some 63842428800000000 := by decide +kernel
    have hdeleted : deletions entries = [.externalLinks] := by decide +kernel
    rw [hdb, show lostCommit _ = _ from hlost, Option.elim_some, show deletions _ = _ from hdeleted]
  -- Every read was answered, nothing waited and nothing was recorded, so the theorem leaves no type to
  -- blame.
  · have hread : ∀ entry ∈ entries, entry.2 ≠ .answered → entry.1.reads = none := by decide +kernel
    have hnothing : gathered = ∅ := by
      refine Finset.eq_empty_of_forall_notMem fun t ht => ?_
      rcases (hblamed t ht).2 with hwaiting | ⟨version, -, hrecorded⟩ | ⟨entry, hmem, htype, hne⟩
      · exact hwaiting rfl
      · simp [State.recordedVetoes, awaitingReleases] at hrecorded
      · rw [hread entry hmem hne] at htype
        cases htype
    rw [hpurge, hnothing]
    decide +kernel

/-- The broker answers nothing, and then neither does the database. -/
def everythingDown : List Outcome := List.replicate 5 .raised

/-- **The retry does not decide as a first attempt would**: with everything healthy again and not one
    dead letter waiting, a first attempt would purge, and the retry is vetoed. -/
theorem failed_attempt_vetoes_the_retry :
    ∃ after q q', drive (februarySignal "releases") everythingDown
        (proceed (receive awaitingReleases "releases" (februarySignal "releases"))) =
          some (after, .failed) ∧
      after.purge.deadLettered ≠
        (awaitingReleases.purge.recordCompletion "releases" (februarySignal "releases")).deadLettered ∧
      Decides (februarySignal "releases")
        (receive awaitingReleases "releases" (februarySignal "releases")) q ∧
      q.vetoReason config = none ∧
      Decides (februarySignal "releases")
        (receive { awaitingReleases with purge := after.purge, latch := after.latch } "releases"
          (februarySignal "releases")) q' ∧
      q'.vetoReason config ≠ none := by
  -- All queues unread, and the failure is before any decision.
  have hrun : ((drive (februarySignal "releases") everythingDown
      (proceed (receive awaitingReleases "releases" (februarySignal "releases")))).map fun r =>
        let p := r.1.purge.recordCompletion "releases" (februarySignal "releases")
        decide (r.2 = .failed ∧ r.1.purge.deadLettered = Purge.MUSICBRAINZ_DATA_TYPES.toFinset ∧
          p.isLatched config = true ∧ p.isSettled = false)) = some true := by
    decide +kernel
  obtain ⟨⟨after, ending⟩, hdrive, hrun⟩ := Option.map_eq_some_iff.mp hrun
  obtain ⟨hfailed, hmarks, hlatched, hunsettled⟩ := of_decide_eq_true hrun
  obtain rfl : ending = .failed := hfailed
  -- With the broker there, nothing waits and nothing is recorded: the first attempt is not vetoed.
  have hclear : (withMarks (awaitingReleases.purge.recordCompletion "releases"
      (februarySignal "releases")) (found (februarySignal "releases") awaitingReleases
        Purge.MUSICBRAINZ_DATA_TYPES)).vetoReason config = none :=
    StaleChildRowPurge.vetoReason_eq_none.mpr (by decide +kernel)
  have hfirst := decides_receive (by decide +kernel :
    (awaitingReleases.purge.recordCompletion "releases" (februarySignal "releases")).isLatched
      config = true) (by decide +kernel)
  have hretry : Decides (februarySignal "releases") (receive { awaitingReleases with
      purge := after.purge, latch := after.latch } "releases" (februarySignal "releases")) _ :=
    decides_receive hlatched hunsettled
  refine ⟨after, _, _, hdrive, ?_, hfirst, hclear, hretry, ?_⟩
  · rw [show after.purge.deadLettered = _ from hmarks]
    decide +kernel
  -- The retry is, for the marks the failed attempt left.
  · intro hnone
    have hunmarked := (StaleChildRowPurge.vetoReason_eq_none.mp hnone).2.2.1
    have hmarked : "artists" ∈ (after.purge.recordCompletion "releases"
        (februarySignal "releases")).deadLettered := by
      rw [StaleChildRowPurge.recordCompletion_deadLettered,
        show after.purge.deadLettered = _ from hmarks]
      decide +kernel
    exact Finset.notMem_empty "artists" (hunmarked ▸ Finset.mem_union_left _ hmarked)

end Service
