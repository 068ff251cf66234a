/-
  `StaleChildRowPurge` (`_reconciliation.py`): the object that decides, from the four
  `extraction_complete` signals, when the stale rows of the two child tables may be deleted.

  1. **The state** — the boundary being collected, the signals collected for it, the dead-letter
     marks, and the one boundary remembered as settled.
  2. **The synchronous methods** — `recordCompletion`, `recordDeadLetter`, `reset`, and the
     predicates `isLatched`, `isSettled`, `vetoReason`.
  3. **`purge` as a coroutine** — everything up to its first `await` is `start`; each later
     `await` is a `PurgeAwait`, and `resume` says where a call goes with the answer it got.  A call
     captures its boundary when it starts and touches the object again only when it finishes, so
     the object is shared state between the awaits of overlapping calls.

  Fractions are compared exactly (the code divides two counts as floats).

  Nothing here is about a history: what these methods amount to over many calls is for `Purge.Latch`
  (what a latched object has behind it), `Purge.Marks` (what becomes of a mark), `Purge.Collection`
  (the order of signals) and `Purge.Overlap` (calls that run beside each other).  What they all use
  of a single call stands at the end of this file: the four things a signal does, exactly when a
  purge may run, and where a call goes from its start.
-/
import Mathlib.Algebra.Order.Ring.Rat
import Mathlib.Data.Finset.Sort
import Mathlib.Data.String.Basic
import MusicBrainzLoader.Json
import MusicBrainzLoader.Lib.Iso8601
import MusicBrainzLoader.Lib.Table

namespace Purge

/-! ## Configuration -/

/-- A point in time, in microseconds. -/
abbrev Instant := Int

/-- An entity kind, as the queue names spell it. -/
abbrev DataType := String

/-- `MUSICBRAINZ_DATA_TYPES`. -/
def MUSICBRAINZ_DATA_TYPES : List DataType := ["artists", "labels", "release-groups", "releases"]

/-- The child tables `musicbrainz.relationships` and `musicbrainz.external_links`. -/
inductive ChildTable where
  | relationships
  | externalLinks
deriving DecidableEq, Repr

/-- `RECONCILED_TABLES`. -/
def RECONCILED_TABLES : List ChildTable := [.relationships, .externalLinks]

/-- `DEFAULT_MAX_DELETE_FRACTION`. -/
def DEFAULT_MAX_DELETE_FRACTION : Rat := 9 / 10

/-- What `StaleChildRowPurge.__init__` is given and never changes. -/
structure PurgeConfig where
  maxDeleteFraction : Rat := DEFAULT_MAX_DELETE_FRACTION
  tables : List ChildTable := RECONCILED_TABLES
  expectedDataTypes : Finset DataType := MUSICBRAINZ_DATA_TYPES.toFinset
  /-- Whether a write admission was given. -/
  admission : Bool := true

/-! ## The object -/

/-- The mutable fields of `StaleChildRowPurge`. -/
structure StaleChildRowPurge where
  boundary : Option Instant := none
  signals : Table DataType (Option Int) := ∅
  deadLettered : Finset DataType := ∅
  settledBoundary : Option Instant := none
deriving DecidableEq

/-- `parse_started_at`: a naive timestamp is read as UTC, and anything but an ISO-8601 string is
    unusable. -/
def parseStartedAt (startedAt : Json) : Option Instant :=
  match startedAt.asStr? with
  | none => none
  | some s => if s = "" then none else (Iso8601.fromisoformat s.toList).map (·.instant)

/-- The count a signal reports for its own type, when it is an integer. -/
def reportedCount (dataType : DataType) (message : Json) : Option Int :=
  let recordCounts := message.get "record_counts"
  if recordCounts.isObj then (recordCounts.get dataType).asInt? else none

namespace StaleChildRowPurge

/-- `reset`: the settled boundary survives. -/
def reset (p : StaleChildRowPurge) : StaleChildRowPurge :=
  { p with boundary := none, signals := ∅, deadLettered := ∅ }

/-- `record_dead_letter`. -/
def recordDeadLetter (p : StaleChildRowPurge) (dataType : DataType) : StaleChildRowPurge :=
  { p with deadLettered := insert dataType p.deadLettered }

/-- A signal at a usable instant: an older one is ignored, a newer one (or the first) starts a
    fresh collection. -/
def collect (p : StaleChildRowPurge) (dataType : DataType) (startedAt : Instant)
    (count : Option Int) : StaleChildRowPurge :=
  if p.boundary.any (startedAt < ·) then p
  else if p.boundary.all (· < startedAt) then
    { p with boundary := some startedAt, signals := (∅ : Table DataType (Option Int)).insert dataType count }
  else { p with signals := p.signals.insert dataType count }

/-- `record_completion`: an unusable `started_at` drops what was collected. -/
def recordCompletion (p : StaleChildRowPurge) (dataType : DataType) (message : Json) :
    StaleChildRowPurge :=
  match parseStartedAt (message.get "started_at") with
  | none => { p with boundary := none, signals := ∅ }
  | some startedAt => p.collect dataType startedAt (reportedCount dataType message)

/-- `is_latched`: every expected type has signalled for one shared boundary. -/
def isLatched (cfg : PurgeConfig) (p : StaleChildRowPurge) : Bool :=
  p.boundary.isSome && decide (cfg.expectedDataTypes ⊆ p.signals.keys)

/-- `pending_data_types`. -/
def pendingDataTypes (cfg : PurgeConfig) (p : StaleChildRowPurge) : List DataType :=
  (cfg.expectedDataTypes \ p.signals.keys).sort (· ≤ ·)

/-- `is_settled`. -/
def isSettled (p : StaleChildRowPurge) : Bool :=
  p.boundary.isSome && decide (p.settledBoundary = p.boundary)

/-- `_settle`: the boundary is remembered and the marks are cleared. -/
def settle (p : StaleChildRowPurge) (boundary : Option Instant) : StaleChildRowPurge :=
  { p with settledBoundary := boundary, deadLettered := ∅ }

/-- The signalled types whose count is zero or missing. -/
def emptyDataTypes (p : StaleChildRowPurge) : Finset DataType :=
  p.signals.keys.filter fun t => (p.signals.lookup t).any fun count => count.getD 0 = 0

/-- Why a purge must not run. -/
inductive VetoReason where
  | waitingOn (pending : List DataType)
  | alreadySettled
  | deadLettered (types : List DataType)
  | noRecords (types : List DataType)
deriving DecidableEq

/-- The reason as it is logged. -/
def VetoReason.text : VetoReason → String
  | .waitingOn pending =>
    "not every entity type has signalled: still waiting on " ++ (Json.arr (pending.map .str)).pyStr
  | .alreadySettled => "this extraction has already been settled"
  | .deadLettered types =>
    "deliveries were dead-lettered this run: " ++ (Json.arr (types.map .str)).pyStr
  | .noRecords types =>
    "the extractor reported no records for " ++ (Json.arr (types.map .str)).pyStr ++
      " (resumed extraction?)"

/-- `_veto_reason`: the first reason that applies. -/
def vetoReason (cfg : PurgeConfig) (p : StaleChildRowPurge) : Option VetoReason :=
  if !p.isLatched cfg then some (.waitingOn (p.pendingDataTypes cfg))
  else if p.settledBoundary.isSome ∧ p.settledBoundary = p.boundary then some .alreadySettled
  else if p.deadLettered.Nonempty then some (.deadLettered (p.deadLettered.sort (· ≤ ·)))
  else if p.emptyDataTypes.Nonempty then some (.noRecords (p.emptyDataTypes.sort (· ≤ ·)))
  else none

end StaleChildRowPurge

/-! ## `purge`, await by await -/

/-- Where a `purge` call is suspended: what it awaits, and what it still has to do. -/
inductive PurgeAwait where
  | slot
  | connection
  | setAutocommit
  | openTransaction
  | openCursor
  | countAll (table : ChildTable) (rest : List ChildTable)
  | countStale (table : ChildTable) (total : Nat) (rest : List ChildTable)
  | deleteStale (table : ChildTable) (total stale : Nat) (rest : List ChildTable)
  /-- Leaving the `async with` block, which commits. -/
  | exitStack
deriving DecidableEq

/-- A suspended `purge` call: the boundary it captured and the counts it has so far. -/
structure PurgeCall where
  boundary : Instant
  awaiting : PurgeAwait
  deleted : List (ChildTable × Nat) := []
deriving DecidableEq

/-- What an `await` of a `purge` call answers: an exception, or a value (the row count of a
    statement; ignored where the code ignores it). -/
inductive Reply where
  | raised
  | value (n : Nat)
deriving DecidableEq

/-- What a `purge` call does before its first `await`. -/
inductive PurgeStart where
  /-- Vetoed: the call returns at once, leaving the object like this. -/
  | vetoed (reason : StaleChildRowPurge.VetoReason) (p : StaleChildRowPurge)
  | raised
  | suspended (call : PurgeCall)
deriving DecidableEq

/-- `purge` up to its first `await`.  A vetoed boundary is settled if it is latched. -/
def start (cfg : PurgeConfig) (p : StaleChildRowPurge) : PurgeStart :=
  match p.vetoReason cfg, p.boundary with
  | some reason, _ => .vetoed reason (if p.isLatched cfg then p.settle p.boundary else p)
  | none, some boundary => if cfg.admission then .suspended ⟨boundary, .slot, []⟩ else .raised
  -- Not reached: without a boundary the object is not latched.
  | none, none => .raised

/-- The loop over the tables: the next table's first statement, or the end of the block. -/
def nextTable : List ChildTable → PurgeAwait
  | [] => .exitStack
  | table :: rest => .countAll table rest

/-- `delete_fraction >= self._max_delete_fraction`. -/
def refused (cfg : PurgeConfig) (total stale : Nat) : Bool :=
  decide (cfg.maxDeleteFraction ≤ (stale : Rat) / total)

/-- How a call goes on when an `await` answers. -/
inductive Resumed where
  | suspended (call : PurgeCall)
  | finished (deleted : List (ChildTable × Nat))
  | raised
deriving DecidableEq

/-- `purge` from one `await` to the next, `_purge_table` inlined. -/
def resume (cfg : PurgeConfig) (call : PurgeCall) : Reply → Resumed
  | .raised => .raised
  | .value n =>
    let goto (awaiting : PurgeAwait) := Resumed.suspended { call with awaiting }
    let reconciled (table : ChildTable) (deleted : Nat) (rest : List ChildTable) :=
      Resumed.suspended
        { call with awaiting := nextTable rest, deleted := call.deleted ++ [(table, deleted)] }
    match call.awaiting with
    | .slot => goto .connection
    | .connection => goto .setAutocommit
    | .setAutocommit => goto .openTransaction
    | .openTransaction => goto .openCursor
    | .openCursor => goto (nextTable cfg.tables)
    | .countAll table rest =>
      if n = 0 then reconciled table 0 rest else goto (.countStale table n rest)
    | .countStale table total rest =>
      if n = 0 ∨ refused cfg total n then reconciled table 0 rest
      else goto (.deleteStale table total n rest)
    | .deleteStale table _ _ rest => reconciled table n rest
    | .exitStack => .finished call.deleted

/-- The `DELETE` a call issues at this point, as the table it names. -/
def PurgeAwait.deletes : PurgeAwait → Option ChildTable
  | .deleteStale table _ _ _ => some table
  | _ => none

/-! ## What each method does -/

namespace StaleChildRowPurge

variable {cfg : PurgeConfig} {p : StaleChildRowPurge}

/-- Settling the remembered boundary again, with no marks, changes nothing. -/
theorem settle_eq_self {b : Option Instant} (hs : p.settledBoundary = b)
    (hd : p.deadLettered = ∅) : p.settle b = p := by
  subst hs
  unfold settle
  rw [← hd]

/-- The four things a signal can do: drop the collection, be ignored, start a fresh one, or be
    added to it. -/
theorem recordCompletion_cases (p : StaleChildRowPurge) (t : DataType) (message : Json) :
    (parseStartedAt (message.get "started_at") = none ∧
      p.recordCompletion t message = { p with boundary := none, signals := ∅ }) ∨
    ∃ b, parseStartedAt (message.get "started_at") = some b ∧
      ((∃ c, p.boundary = some c ∧ b < c ∧ p.recordCompletion t message = p) ∨
       ((∀ c, p.boundary = some c → c < b) ∧
         p.recordCompletion t message =
          { p with boundary := some b,
                   signals := (∅ : Table DataType (Option Int)).insert t (reportedCount t message) }) ∨
       (p.boundary = some b ∧
         p.recordCompletion t message =
          { p with signals := p.signals.insert t (reportedCount t message) })) := by
  unfold recordCompletion
  cases hb : parseStartedAt (message.get "started_at") with
  | none => exact Or.inl ⟨rfl, rfl⟩
  | some b =>
    refine Or.inr ⟨b, rfl, ?_⟩
    -- With nothing collected any usable signal opens the boundary.
    cases hp : p.boundary with
    | none =>
      refine Or.inr (Or.inl ⟨by simp, ?_⟩)
      simp [collect, hp]
    | some c =>
      -- Older, at it, or newer.
      rcases lt_trichotomy b c with hlt | heq | hgt
      · exact Or.inl ⟨c, rfl, hlt, by simp [collect, hp, hlt]⟩
      · subst heq
        exact Or.inr (Or.inr ⟨rfl, by simp [collect, hp]⟩)
      · refine Or.inr (Or.inl ⟨by simpa using hgt, ?_⟩)
        simp [collect, hp, hgt, hgt.not_gt]

@[simp] theorem recordCompletion_settledBoundary (t : DataType) (message : Json) :
    (p.recordCompletion t message).settledBoundary = p.settledBoundary := by
  rcases recordCompletion_cases p t message with
    ⟨-, h⟩ | ⟨b, -, ⟨c, -, -, h⟩ | ⟨-, h⟩ | ⟨-, h⟩⟩ <;> rw [h]

@[simp] theorem recordCompletion_deadLettered (t : DataType) (message : Json) :
    (p.recordCompletion t message).deadLettered = p.deadLettered := by
  rcases recordCompletion_cases p t message with
    ⟨-, h⟩ | ⟨b, -, ⟨c, -, -, h⟩ | ⟨-, h⟩ | ⟨-, h⟩⟩ <;> rw [h]

theorem isLatched_iff :
    p.isLatched cfg = true ↔ p.boundary ≠ none ∧ cfg.expectedDataTypes ⊆ p.signals.keys := by
  simp [isLatched, Option.isSome_iff_ne_none]

theorem emptyDataTypes_eq_empty :
    p.emptyDataTypes = ∅ ↔
      ∀ t count, p.signals.lookup t = some count → ∃ n, count = some n ∧ n ≠ 0 := by
  simp only [emptyDataTypes, Finset.filter_eq_empty_iff, Finmap.mem_keys]
  constructor
  · intro h t count ht
    have := h (Finmap.mem_of_lookup_eq_some ht)
    rw [ht] at this
    cases count with
    | none => simp at this
    | some n => exact ⟨n, rfl, by simpa using this⟩
  · intro h t _
    cases ht : p.signals.lookup t with
    | none => simp
    | some count =>
      obtain ⟨n, rfl, hn⟩ := h t count ht
      simpa using hn

/-- **When a purge may run**: latched at a boundary other than the settled one, with no marks, and
    every collected count an integer other than zero. -/
theorem vetoReason_eq_none :
    p.vetoReason cfg = none ↔
      p.isLatched cfg = true ∧ p.settledBoundary ≠ p.boundary ∧ p.deadLettered = ∅ ∧
        p.emptyDataTypes = ∅ := by
  unfold vetoReason
  rcases hl : p.isLatched cfg with _ | _
  · simp
  · have hb : p.boundary ≠ none := (isLatched_iff.mp hl).1
    by_cases hs : p.settledBoundary = p.boundary
    · have : p.settledBoundary.isSome := by rw [hs]; exact Option.isSome_iff_ne_none.mpr hb
      simp [hs ▸ this, hs]
    · by_cases hd : p.deadLettered = ∅
      · by_cases he : p.emptyDataTypes = ∅
        · simp [hs, hd, he]
        · simp [hs, hd, he, Finset.nonempty_iff_ne_empty]
      · simp [hs, hd, Finset.nonempty_iff_ne_empty]

end StaleChildRowPurge

/-! ## What starting a call does -/

variable {cfg : PurgeConfig} {p : StaleChildRowPurge}

/-- A call that gets past the veto captures the collected boundary and awaits its slot. -/
theorem start_eq_suspended {call : PurgeCall} :
    start cfg p = .suspended call ↔
      ∃ b, p.boundary = some b ∧ p.vetoReason cfg = none ∧ cfg.admission = true ∧
        call = ⟨b, .slot, []⟩ := by
  unfold start
  cases p.vetoReason cfg with
  | some reason => simp
  | none =>
    cases p.boundary with
    | none => simp
    | some b =>
      cases cfg.admission with
      | false => simp
      | true =>
        simp only [if_true, PurgeStart.suspended.injEq, Option.some.injEq, true_and,
          exists_eq_left']
        exact eq_comm

/-- A vetoed call settles the boundary when it is latched, and leaves the object alone when not. -/
theorem start_eq_vetoed {reason : StaleChildRowPurge.VetoReason} {p' : StaleChildRowPurge} :
    start cfg p = .vetoed reason p' ↔
      p.vetoReason cfg = some reason ∧
        p' = if p.isLatched cfg then p.settle p.boundary else p := by
  unfold start
  cases p.vetoReason cfg with
  | some r =>
    simp only [PurgeStart.vetoed.injEq, Option.some.injEq]
    exact and_congr_right fun _ => eq_comm
  | none =>
    cases p.boundary with
    | none => simp
    | some b => cases cfg.admission <;> simp

/-- A call suspended anywhere keeps the boundary it started with. -/
theorem resume_boundary {call call' : PurgeCall} {reply : Reply}
    (h : resume cfg call reply = .suspended call') : call'.boundary = call.boundary := by
  cases reply with
  | raised => simp [resume] at h
  | value n =>
    simp only [resume] at h
    split at h <;> (try split at h) <;> first | cases h; rfl | simp at h

/-- A call finishes when it leaves its block, and only then. -/
theorem resume_eq_finished {call : PurgeCall} {reply : Reply} {deleted : List (ChildTable × Nat)}
    (h : resume cfg call reply = .finished deleted) :
    ∃ n, reply = .value n ∧ call.awaiting = .exitStack := by
  cases reply with
  | raised => simp [resume] at h
  | value n =>
    refine ⟨n, rfl, ?_⟩
    simp only [resume] at h
    split at h
    case h_9 hexit => exact hexit
    all_goals (try split at h) <;> simp at h

end Purge
