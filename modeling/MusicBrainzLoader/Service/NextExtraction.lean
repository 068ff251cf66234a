/-
  The extraction after a vetoed one.

  The collection tells extractions apart by their start, the latch row by the signals' version.  So an
  extraction that is handled without a rejection, with every dead-letter queue empty, is not vetoed
  exactly when no mark is left from before it and the rows under its own keys hold no veto: a later
  extraction of the same version reads the earlier one's.

  The two directions are of different kinds.

  * **No veto comes from nowhere** — an invariant.  `Clean` says what is so of the object and of the rows
    under the extraction's keys while it is handled, in whatever order its signals, its records, other
    handlers' awaits and restarts come; and a clean latched object has no reason to veto.  Rows under
    other keys may hold anything, and a handler at work may be any of several: each carries what it has
    read (`Handler.Clean`), for a veto that is read is applied to the object only awaits later.
  * **A veto that is recorded comes back** — a run.  That *some* handling is vetoed needs one to be shown,
    from any state, so the run is built piece by piece (`Runs.Drives`): three signals, the last one, the
    dead-letter queues in their order, and the row.  Each piece leaves the next one its state.

  The first needs every healthy step, the second only the ones it takes; both speak of the same
  `decided` object, the one `purge` looks at.
-/
import MusicBrainzLoader.Service.RecordedVeto

namespace Service

open Purge (DataType MUSICBRAINZ_DATA_TYPES StaleChildRowPurge)
open Records (Externals Instant)

/-! ## An extraction without a rejection -/

/-- The signals of one extraction: each names its start, and counts records of its own type.  A
    signal that counts none would veto the purge by itself, and one without a start would end the
    collection. -/
structure Extraction where
  boundary : Instant
  message : DataType → Json
  names : ∀ t ∈ MUSICBRAINZ_DATA_TYPES, signalled (message t) = some boundary
  counts : ∀ t ∈ MUSICBRAINZ_DATA_TYPES, ∃ n, Purge.reportedCount t (message t) = some n ∧ n ≠ 0

/-- A dead-letter queue that is read answers, and none is waiting. -/
def Readable (s : State) (outcome : Outcome) : HandlerAwait → Prop
  | .openChannel _ _ => outcome = .answered
  | .declareQueue t _ => outcome = .answered ∧ s.deadLettersWaiting t = 0
  | _ => True

instance (s : State) (outcome : Outcome) (awaiting : HandlerAwait) :
    Decidable (Readable s outcome awaiting) := by
  unfold Readable
  split <;> infer_instance

/-- A step while it is handled: no delivery is rejected, the signals are its own, and the dead-letter
    queues are readable and empty. -/
def Healthy (e : Extraction) (s : State) : Action → Prop
  | .record _ event => event ≠ .reject ∧ event ≠ .refuse ∧ event ≠ .deadLetter ∧ event ≠ .mark
  | .signal t message => t ∈ MUSICBRAINZ_DATA_TYPES ∧ message = e.message t
  | .resume i outcome => ∀ h ∈ s.handlers[i]?, Readable s outcome h.awaiting
  | .otherDeadLetters _ _ => True
  | .restart => True

instance (e : Extraction) (s : State) (a : Action) : Decidable (Healthy e s a) := by
  unfold Healthy
  split <;> infer_instance

/-- No purge that decides the extraction is vetoed, however it is handled.  Which signal comes last,
    how often one is delivered again and what restarts in between is left to the run. -/
def NeverVetoed (ext : Externals) (refresh : Bool) (e : Extraction) (s₀ : State) : Prop :=
  ∀ actions a s p, Runs.Drives (step ext refresh) (Healthy e) s₀ actions s → Healthy e s a →
    decided s a = some p → p.settledBoundary ≠ some e.boundary → p.vetoReason config = none

/-- The rows under the extraction's keys hold no veto. -/
def CleanRows (e : Extraction) (s : State) : Prop :=
  ∀ t ∈ MUSICBRAINZ_DATA_TYPES, ∀ version, extractionKey (e.message t) = some version →
    s.recordedVetoes version = ∅

/-! ## No veto comes from nowhere

  A step has three parts: what is delivered or answered, what the handler's code does with it up to its
  next await, and a `purge` call if it comes to one. `Reaches` is about the first two. -/

/-- What a handler has read so far vetoes nothing.  It holds it in its locals until `purge`, past
    awaits at which others step; so it is asked of every handler, whatever it is at. -/
def Handler.Clean (h : Handler) : Prop :=
  match h.awaiting with
  | .closeChannel _ waiting _ => waiting = some 0
  | .slot version => extractionKey h.message = some version
  | .readVetoes version => extractionKey h.message = some version
  | .vetoesRead version vetoes => extractionKey h.message = some version ∧ vetoes = ∅
  | .recordExtraction version vetoed => extractionKey h.message = some version ∧ vetoed = ∅
  | _ => True

/-- While the extraction is handled: no marks, no vetoes under its keys, and what is collected of it
    counts records; a handler is at work only once all of it is collected. -/
structure Clean (e : Extraction) (s : State) : Prop where
  marks : s.purge.deadLettered = ∅
  rows : CleanRows e s
  older : ∀ b, s.purge.boundary = some b → b ≤ e.boundary
  collected : s.purge.boundary = some e.boundary → ∀ t count,
    s.purge.signals.lookup t = some count → ∃ n, count = some n ∧ n ≠ 0
  handlers : ∀ h ∈ s.handlers, (∃ t ∈ MUSICBRAINZ_DATA_TYPES, h.message = e.message t) ∧ h.Clean ∧
    s.purge.boundary = some e.boundary ∧ s.purge.isLatched config = true

section Sufficient

variable {ext : Externals} {refresh : Bool} {e : Extraction} {s s' : State} {a : Action}

/-- A handler that begins to read has read nothing yet. -/
theorem clean_gather {message : Json} {rest : List DataType} {awaiting : HandlerAwait}
    (h : gather message rest = .await awaiting) : Handler.Clean ⟨message, awaiting⟩ := by
  rcases gather_eq_await h with ⟨t, later, rfl⟩ | ⟨version, hkey, rfl⟩
  · trivial
  · exact hkey

/-- Recording no veto changes no row. -/
theorem recordedVetoes_record_empty (s : State) (version version' : String) :
    (s.recordExtraction version ∅).recordedVetoes version' = s.recordedVetoes version' := by
  rw [recordedVetoes_recordExtraction, Finset.union_empty]
  split
  · rename_i hsame
    rw [hsame]
  · rfl

/-- What a handler's code leaves: no marks, the same collection, and rows that veto nothing.  The
    row it writes is of the object's marks, of which there are none. -/
theorem clean_advance {h : Handler} {outcome : Outcome} {i : Nat} (hs : Clean e s)
    (hmem : s.handlers[i]? = some h) (hhealthy : Healthy e s (.resume i outcome)) :
    (advance s h outcome).1.purge.deadLettered = ∅ ∧
    (advance s h outcome).1.purge.boundary = s.purge.boundary ∧
    (advance s h outcome).1.purge.signals = s.purge.signals ∧
    CleanRows e (advance s h outcome).1 ∧
    ∀ awaiting, (advance s h outcome).2 = .await awaiting → Handler.Clean ⟨h.message, awaiting⟩ := by
  obtain ⟨⟨t, ht, hown⟩, hclean, -⟩ := hs.handlers h (List.mem_of_getElem? hmem)
  have hhealthy := hhealthy h hmem
  -- Most awaits leave the service as it is.
  have hsame (next : Next)
      (hnext : ∀ awaiting, next = .await awaiting → Handler.Clean ⟨h.message, awaiting⟩) :
      s.purge.deadLettered = ∅ ∧ s.purge.boundary = s.purge.boundary ∧
        s.purge.signals = s.purge.signals ∧ CleanRows e s ∧
        ∀ awaiting, next = .await awaiting → Handler.Clean ⟨h.message, awaiting⟩ :=
    ⟨hs.marks, rfl, rfl, hs.rows, hnext⟩
  have hrows (version : String) : CleanRows e (s.recordExtraction version ∅) := by
    intro t' ht' version' hkey'
    rw [recordedVetoes_record_empty]
    exact hs.rows t' ht' version' hkey'
  obtain ⟨message, awaiting⟩ := h
  have hadvances := advances s message awaiting outcome
  generalize advance s ⟨message, awaiting⟩ outcome = r at hadvances ⊢
  cases hadvances with
  | opened | suspended => exact hsame _ fun _ h => by cases h; trivial
  | unopened hfailed => exact absurd hhealthy hfailed
  | counted =>
    obtain ⟨-, hempty⟩ := hhealthy
    refine hsame _ fun _ h => ?_
    cases h
    exact congrArg some hempty
  | uncounted hfailed => exact absurd hhealthy.1 hfailed
  | empty => exact hsame _ fun _ h => clean_gather h
  | waiting hne => exact absurd hclean hne
  | held => exact hsame _ fun _ h => by cases h; exact hclean
  | read =>
    refine hsame _ fun _ h => ?_
    cases h
    refine ⟨hclean, hs.rows t ht _ ?_⟩
    rw [← hown]
    exact hclean
  | marked =>
    obtain ⟨hkey, rfl⟩ := hclean
    rw [mark_empty]
    refine hsame _ fun _ h => ?_
    cases h
    exact ⟨hkey, hs.marks⟩
  | recorded =>
    obtain ⟨-, rfl⟩ := hclean
    exact ⟨hs.marks, rfl, rfl, hrows _, fun _ h => by cases h; trivial⟩
  | recordLost =>
    obtain ⟨-, rfl⟩ := hclean
    exact ⟨hs.marks, rfl, rfl, hrows _, fun _ h => by cases h⟩
  | left => exact hsame _ fun _ h => by cases h
  | finished => exact ⟨rfl, rfl, rfl, hs.rows, fun _ h => by cases h⟩
  | commitLost => exact ⟨hs.marks, rfl, rfl, hs.rows, fun _ h => by cases h⟩
  | raised => exact hsame _ fun _ h => by cases h

/-- A signal of the extraction starts its collection or is added to it.  It never drops it, as its
    start is never older than the collection's. -/
theorem recordCompletion_own {p : StaleChildRowPurge} {t : DataType}
    (ht : t ∈ MUSICBRAINZ_DATA_TYPES) (holder : ∀ b, p.boundary = some b → b ≤ e.boundary) :
    ∃ n, Purge.reportedCount t (e.message t) = some n ∧ n ≠ 0 ∧
      (p.recordCompletion t (e.message t)).boundary = some e.boundary ∧
      (((∀ b, p.boundary = some b → b < e.boundary) ∧
        (p.recordCompletion t (e.message t)).signals =
          (∅ : Table DataType (Option Int)).insert t (some n)) ∨
       (p.boundary = some e.boundary ∧
        (p.recordCompletion t (e.message t)).signals = p.signals.insert t (some n))) := by
  obtain ⟨n, hn, hne⟩ := e.counts t ht
  refine ⟨n, hn, hne, ?_⟩
  have hnames : Purge.parseStartedAt ((e.message t).get "started_at") = some e.boundary :=
    e.names t ht
  -- The signal names its own extraction's boundary, and none later is collected: it opens that
  -- boundary, or joins it.
  rcases p.recordCompletion_cases t (e.message t) with ⟨hnone, -⟩ | ⟨b, hb, hcases⟩
  · rw [hnames] at hnone
    cases hnone
  · obtain rfl : e.boundary = b := Option.some.inj (hnames.symm.trans hb)
    rcases hcases with ⟨c, hc, hlt, -⟩ | ⟨hlater, heq⟩ | ⟨hsame, heq⟩
    · exact absurd hlt (holder c hc).not_gt
    · rw [heq, hn]
      exact ⟨rfl, Or.inl ⟨hlater, rfl⟩⟩
    · rw [heq, hn]
      exact ⟨hsame, Or.inr ⟨hsame, rfl⟩⟩

/-- How far a clean step's code comes: the collection stays clean, and only a latched one goes on.
    It is kept apart from the `purge` call, which every kind of step may come to. -/
structure Reaches (e : Extraction) (s : State) (r : State × Next) (message : Json) : Prop where
  own : ∃ t ∈ MUSICBRAINZ_DATA_TYPES, message = e.message t
  marks : r.1.purge.deadLettered = ∅
  rows : CleanRows e r.1
  boundary : r.1.purge.boundary = some e.boundary
  collected : ∀ t count, r.1.purge.signals.lookup t = some count → ∃ n, count = some n ∧ n ≠ 0
  latched : s.purge.boundary = some e.boundary ∧ s.purge.isLatched config = true ∨ r.2 ≠ .done →
    r.1.purge.isLatched config = true
  next : ∀ awaiting, r.2 = .await awaiting → Handler.Clean ⟨message, awaiting⟩

theorem reaches_receive {t : DataType} (hs : Clean e s) (ht : t ∈ MUSICBRAINZ_DATA_TYPES) :
    Reaches e s (receive s t (e.message t)) (e.message t) := by
  obtain ⟨n, -, hne, hboundary, hsignals⟩ := recordCompletion_own ht hs.older
  have hpurge := receive_purge s t (e.message t)
  refine ⟨⟨t, ht, rfl⟩, ?_, ?_, ?_, ?_, ?_, ?_⟩
  -- Its veto marks, rows, boundary, counts, latch, and next await, in that order.
  · rw [hpurge, StaleChildRowPurge.recordCompletion_deadLettered]
    exact hs.marks
  · intro t' ht' version hkey
    unfold State.recordedVetoes
    rw [receive_latch]
    exact hs.rows t' ht' version hkey
  · rw [hpurge]
    exact hboundary
  -- Either way the counts that are there are this extraction's, none of them zero.
  · intro t' count hcount
    rw [hpurge] at hcount
    rcases hsignals with ⟨-, heq⟩ | ⟨hsame, heq⟩
    · rw [heq, Table.lookup_insert_eq] at hcount
      split at hcount
      · exact ⟨n, (Option.some.inj hcount).symm, hne⟩
      · cases hcount
    · rw [heq, Table.lookup_insert_eq] at hcount
      split at hcount
      · exact ⟨n, (Option.some.inj hcount).symm, hne⟩
      · exact hs.collected hsame t' count hcount
  · rintro (⟨hb, hlatched⟩ | hgoes)
    · -- Another signal of the collected boundary takes no type away.
      rw [hpurge]
      rcases hsignals with ⟨hlater, -⟩ | ⟨-, heq⟩
      · exact absurd (hlater _ hb) (lt_irrefl _)
      · refine StaleChildRowPurge.isLatched_iff.mpr ⟨by rw [hboundary]; exact Option.some_ne_none _, ?_⟩
        intro t' ht'
        have hmem := (StaleChildRowPurge.isLatched_iff.mp hlatched).2 ht'
        rw [heq, Finmap.mem_keys, Finmap.mem_insert]
        exact Or.inr (Finmap.mem_keys.mp hmem)
    -- It goes on to the queues only where everything has signalled.
    · by_contra hlatched
      rw [hpurge] at hlatched
      rw [receive_next, if_neg hlatched] at hgoes
      exact hgoes rfl
  -- And then it reads the first queue, having nothing read yet.
  · intro awaiting hawaiting
    rw [receive_next] at hawaiting
    split at hawaiting
    · split at hawaiting
      · cases hawaiting
      · exact clean_gather hawaiting
    · cases hawaiting

/-- Whichever healthy step it is. -/
theorem reaches_of_healthy {r : State × Next} {message : Json} (hs : Clean e s)
    (hhealthy : Healthy e s a) (hreached : reached s a = some r)
    (hmessage : stepMessage s a = some message) : Reaches e s r message := by
  rcases reached_cases hreached with ⟨t, m, rfl, rfl⟩ | ⟨i, outcome, h, rfl, hh, rfl⟩
  · obtain ⟨ht, rfl⟩ := hhealthy
    obtain rfl := Option.some.inj hmessage
    exact reaches_receive hs ht
  · rw [stepMessage_resume hh] at hmessage
    obtain rfl := Option.some.inj hmessage
    obtain ⟨hown, -, hboundary, hlatched⟩ := hs.handlers h (List.mem_of_getElem? hh)
    obtain ⟨hmarks, hb, hsignals, hrows, hnext⟩ := clean_advance hs hh hhealthy
    refine ⟨hown, hmarks, hrows, hb.trans hboundary, ?_, ?_, hnext⟩
    · rw [hsignals]
      exact hs.collected hboundary
    · intro _
      unfold StaleChildRowPurge.isLatched at hlatched ⊢
      rw [hb, hsignals]
      exact hlatched

/-- A `purge` call, or none, leaves a clean collection clean. -/
theorem proceed_purge (r : State × Next) (hmarks : r.1.purge.deadLettered = ∅) :
    (proceed r).1.purge.deadLettered = ∅ ∧ (proceed r).1.purge.boundary = r.1.purge.boundary ∧
      (proceed r).1.purge.signals = r.1.purge.signals := by
  obtain ⟨s, next⟩ := r
  cases next with
  | callPurge =>
    show (callPurge s).1.purge.deadLettered = ∅ ∧ (callPurge s).1.purge.boundary = s.purge.boundary ∧
      (callPurge s).1.purge.signals = s.purge.signals
    rw [callPurge_purge]
    split
    · exact ⟨rfl, rfl, rfl⟩
    · exact ⟨hmarks, rfl, rfl⟩
  | _ => exact ⟨hmarks, rfl, rfl⟩

/-- A healthy step keeps everything clean.  A rejection is the one thing that marks a type while
    nothing waits in its queue, and it is the one thing a healthy step is not. -/
theorem clean_step (hs : Clean e s) (hhealthy : Healthy e s a) (h : step ext refresh s a = some s') :
    Clean e s' := by
  rcases step_cases h with ⟨i, event, d, rfl, -, hstep⟩ |
    ⟨r, message, handlers, hreached, hmessage, rfl, hhandlers⟩ | ⟨t, n, rfl, rfl⟩ | ⟨rfl, rfl⟩
  -- A record that is neither rejected nor marked leaves no mark.
  · obtain ⟨hreject, -, -, hmark⟩ := hhealthy
    obtain ⟨stage, -, ⟨now, db, -, -, rfl⟩ | ⟨hevent, -⟩ | ⟨-, rfl⟩⟩ := recordStep_cases hstep
    · exact ⟨hs.marks, hs.rows, hs.older, hs.collected, hs.handlers⟩
    · rcases hevent with hevent | hevent
      · exact absurd hevent hreject
      · exact absurd hevent hmark
    · exact ⟨hs.marks, hs.rows, hs.older, hs.collected, hs.handlers⟩
  -- A handler of this extraction: what its code reached is clean, and `purge` keeps it so.
  · have hreaches := reaches_of_healthy hs hhealthy hreached hmessage
    obtain ⟨hmarks, hboundary, hsignals⟩ := proceed_purge r hreaches.marks
    have hboundary := hboundary.trans hreaches.boundary
    -- The purge, if it is called, leaves the boundary and the signals alone.
    have hlatches (hlatched : r.1.purge.isLatched config = true) :
        (proceed r).1.purge.isLatched config = true := by
      unfold StaleChildRowPurge.isLatched at hlatched ⊢
      rw [hboundary, hsignals, ← hreaches.boundary]
      exact hlatched
    refine ⟨hmarks, ?_, ?_, ?_, ?_⟩
    · intro t ht version hkey
      show ((proceed r).1.latch.lookup version).getD ∅ = ∅
      rw [proceed_latch]
      exact hreaches.rows t ht version hkey
    · intro b hb
      exact (Option.some.inj (hb.symm.trans hboundary)).le
    · intro _ t count hcount
      exact hreaches.collected t count (hsignals ▸ hcount)
    · intro h' hh'
      -- The handlers that were suspended stay latched; the one that ran is latched wherever it goes on.
      rcases hhandlers h' hh' with hother | ⟨awaiting, hawaiting, rfl⟩
      · obtain ⟨hown, hclean, hb, hlatched⟩ := hs.handlers h' (others_subset hother)
        exact ⟨hown, hclean, hboundary, hlatches (hreaches.latched (Or.inl ⟨hb, hlatched⟩))⟩
      · refine ⟨hreaches.own, ?_, hboundary, hlatches (hreaches.latched (Or.inr ?_))⟩
        · obtain ⟨after, next⟩ := r
          cases next with
          | await awaiting' =>
            obtain rfl := Option.some.inj hawaiting
            exact hreaches.next _ rfl
          | callPurge =>
            obtain ⟨-, call, rfl, -⟩ := callPurge_await hawaiting
            trivial
          | done => cases hawaiting
        · rintro hdone
          obtain ⟨after, next⟩ := r
          obtain rfl : next = .done := hdone
          cases hawaiting
  · exact ⟨hs.marks, hs.rows, hs.older, hs.collected, hs.handlers⟩
  -- A restart leaves an empty object and no handler.
  · exact ⟨rfl, hs.rows, fun b hb => (nomatch hb), fun hb => (nomatch hb), fun h hh => (nomatch hh)⟩

/-- A clean purge that is not settled is not vetoed.  The reasons are gone through one by one: it is
    latched, every count is positive, and nothing is marked. -/
theorem not_vetoed_of_clean {p : StaleChildRowPurge} (hs : Clean e s) (hhealthy : Healthy e s a)
    (hdecided : decided s a = some p) (hunsettled : p.settledBoundary ≠ some e.boundary) :
    p.vetoReason config = none := by
  obtain ⟨r, hreached, hcall, rfl⟩ := decided_eq_some hdecided
  obtain ⟨message, hmessage⟩ : ∃ message, stepMessage s a = some message := by
    rcases reached_cases hreached with ⟨t, m, rfl, -⟩ | ⟨i, outcome, h, rfl, hh, -⟩
    · exact ⟨m, rfl⟩
    · exact ⟨h.message, stepMessage_resume hh⟩
  have hreaches := reaches_of_healthy hs hhealthy hreached hmessage
  refine StaleChildRowPurge.vetoReason_eq_none.mpr ⟨?_, ?_, hreaches.marks, ?_⟩
  · exact hreaches.latched (Or.inr (by rw [hcall]; exact Next.noConfusion))
  · rw [hreaches.boundary]
    exact hunsettled
  · exact StaleChildRowPurge.emptyDataTypes_eq_empty.mpr hreaches.collected

end Sufficient

/-! ## A veto that is recorded comes back

  Nothing else is at work in these runs, so the service is its object, its rows and one handler
  (`alone`). -/

section Necessary

variable {s s' : State} (ext : Externals) (refresh : Bool)

/-- The rows under a message's key. -/
def rowsOf (s : State) (message : Json) : Finset DataType :=
  match extractionKey message with
  | none => ∅
  | some version => s.recordedVetoes version

/-- Signals of the other types are collected, and nothing else happens before the last one.  The
    types are taken one at a time, by induction on those still to come. -/
theorem drives_signals {e : Extraction} {last : DataType} (hlast : last ∈ MUSICBRAINZ_DATA_TYPES)
    {types : List DataType} (htypes : ∀ t ∈ types, t ∈ MUSICBRAINZ_DATA_TYPES ∧ t ≠ last)
    (hopen : (∀ b, s.purge.boundary = some b → b < e.boundary) ∨
      s.purge.boundary = some e.boundary ∧ last ∉ s.purge.signals)
    (hnone : s.handlers = []) :
    ∃ p : StaleChildRowPurge,
      Runs.Drives (step ext refresh) (Healthy e) s (types.map fun t => .signal t (e.message t))
        { s with purge := p } ∧
      p.deadLettered = s.purge.deadLettered ∧ p.settledBoundary = s.purge.settledBoundary ∧
      (types ≠ [] ∨ s.purge.boundary = some e.boundary → p.boundary = some e.boundary) ∧
      (∀ t, t ∈ types ∨ s.purge.boundary = some e.boundary ∧ t ∈ s.purge.signals →
        t ∈ p.signals) := by
  -- Along the signals, with the last type still missing: no object is latched before it, so each of
  -- them is handled at once.
  induction types generalizing s with
  | nil =>
    refine ⟨s.purge, .nil s, rfl, rfl, ?_, ?_⟩
    · rintro (hne | hsame)
      · exact absurd rfl hne
      · exact hsame
    · rintro t (ht | ⟨-, ht⟩)
      · cases ht
      · exact ht
  | cons t types ih =>
    obtain ⟨ht, hne⟩ := htypes t List.mem_cons_self
    have holder : ∀ b, s.purge.boundary = some b → b ≤ e.boundary := by
      intro b hb
      rcases hopen with hlater | ⟨hsame, -⟩
      · exact (hlater b hb).le
      · exact (Option.some.inj (hb.symm.trans hsame)).le
    obtain ⟨n, -, -, hboundary, hsignals⟩ := recordCompletion_own ht holder
    let s₁ : State := { s with purge := s.purge.recordCompletion t (e.message t) }
    -- This type is not the missing one, whether it opens the boundary or joins it.
    have hmissing : last ∉ s₁.purge.signals := by
      rcases hsignals with ⟨-, heq⟩ | ⟨hsame, heq⟩
      · show last ∉ (s.purge.recordCompletion t (e.message t)).signals
        rw [heq, Finmap.mem_insert]
        rintro (rfl | hmem)
        · exact hne rfl
        · exact Finmap.notMem_empty hmem
      · show last ∉ (s.purge.recordCompletion t (e.message t)).signals
        rw [heq, Finmap.mem_insert]
        rintro (rfl | hmem)
        · exact hne rfl
        · rcases hopen with hlater | ⟨-, habsent⟩
          · exact absurd (hlater _ hsame) (lt_irrefl _)
          · exact habsent hmem
    -- So it waits for more.
    have hwaits : (s.purge.recordCompletion t (e.message t)).isLatched config ≠ true := by
      intro hlatched
      have hin := (StaleChildRowPurge.isLatched_iff.mp hlatched).2 (List.mem_toFinset.mpr hlast)
      exact hmissing (Finmap.mem_keys.mp hin)
    have hstep : step ext refresh s (.signal t (e.message t)) = some s₁ := by
      have hdone : receive s t (e.message t) = (s₁, .done) := by
        rw [receive_eq, receive_next, if_neg hwaits]
      show some _ = some s₁
      rw [hdone]
      simp [proceed, s₁]
    have hin : t ∈ s₁.purge.signals := by
      show t ∈ (s.purge.recordCompletion t (e.message t)).signals
      rcases hsignals with ⟨-, heq⟩ | ⟨-, heq⟩
      · rw [heq]
        exact Finmap.mem_insert.mpr (Or.inl rfl)
      · rw [heq]
        exact Finmap.mem_insert.mpr (Or.inl rfl)
    -- What has signalled stays signalled, unless this signal opens the boundary.
    have hkeeps (t' : DataType) (hsame : s.purge.boundary = some e.boundary)
        (ht' : t' ∈ s.purge.signals) : t' ∈ s₁.purge.signals := by
      show t' ∈ (s.purge.recordCompletion t (e.message t)).signals
      rcases hsignals with ⟨hlater, -⟩ | ⟨-, heq⟩
      · exact absurd (hlater _ hsame) (lt_irrefl _)
      · rw [heq]
        exact Finmap.mem_insert.mpr (Or.inr ht')
    obtain ⟨p, hdrives, hmarks, hsettled, hnames, hkept⟩ :=
      ih (fun t' ht' => htypes t' (List.mem_cons_of_mem _ ht')) (Or.inr ⟨hboundary, hmissing⟩) hnone
    refine ⟨p, .cons ⟨ht, rfl⟩ hstep hdrives, hmarks.trans ?_, hsettled.trans ?_,
      fun _ => hnames (Or.inr hboundary), ?_⟩
    · exact StaleChildRowPurge.recordCompletion_deadLettered _ _
    · exact StaleChildRowPurge.recordCompletion_settledBoundary _ _
    · rintro t' (ht' | ⟨hsame, ht'⟩)
      · rcases List.mem_cons.mp ht' with rfl | ht'
        · exact hkept _ (Or.inr ⟨hboundary, hin⟩)
        · exact hkept _ (Or.inl ht')
      · exact hkept _ (Or.inr ⟨hboundary, hkeeps t' hsame ht'⟩)

/-- The service with one handler at work. -/
def alone (s : State) (message : Json) (awaiting : HandlerAwait) : State :=
  { s with handlers := [⟨message, awaiting⟩] }

/-- Its await is answered, and it comes to the next. -/
theorem drives_resume {e : Extraction} {message : Json} {awaiting awaiting' : HandlerAwait}
    (hnext : (advance (alone s message awaiting) ⟨message, awaiting⟩ .answered).2 =
      .await awaiting')
    (hhealthy : Healthy e (alone s message awaiting) (.resume 0 .answered)) :
    Runs.Drives (step ext refresh) (Healthy e) (alone s message awaiting) [.resume 0 .answered]
      (alone (advance (alone s message awaiting) ⟨message, awaiting⟩ .answered).1 message
        awaiting') := by
  have hstep (r : State × Next) (hr : r.2 = .await awaiting') :
      { (proceed r).1 with
        handlers := resumed (alone s message awaiting).handlers 0 ⟨message, awaiting⟩ (proceed r).2 } =
          alone r.1 message awaiting' := by
    obtain ⟨after, next⟩ := r
    obtain rfl : next = .await awaiting' := hr
    rfl
  exact .cons hhealthy (congrArg some (hstep _ hnext)) (.nil _)

/-- The dead-letter queues are read, one after the other, and all are empty.  The induction is on
    the types left to read. -/
theorem drives_dead_letters (e : Extraction) (message : Json) (t : DataType) (rest : List DataType)
    (hempty : ∀ t, s.deadLettersWaiting t = 0) :
    ∃ actions last, Runs.Drives (step ext refresh) (Healthy e)
      (alone s message (.openChannel t rest)) actions
      (alone s message (.closeChannel last (some 0) [])) := by
  -- Each queue takes three answers: the channel, the declaration, which finds it empty, and the close.
  have hopen (t : DataType) (rest : List DataType) :
      Runs.Drives (step ext refresh) (Healthy e) (alone s message (.openChannel t rest))
        [.resume 0 .answered] (alone s message (.declareQueue t rest)) := by
    refine drives_resume ext refresh rfl ?_
    intro h hh
    obtain rfl := Option.some.inj hh
    rfl
  have hdeclare (t : DataType) (rest : List DataType) :
      Runs.Drives (step ext refresh) (Healthy e) (alone s message (.declareQueue t rest))
        [.resume 0 .answered] (alone s message (.closeChannel t (some 0) rest)) := by
    refine drives_resume ext refresh ?_ ?_
    · show Next.await (.closeChannel t (some (s.deadLettersWaiting t)) rest) = _
      rw [hempty]
    · intro h hh
      obtain rfl := Option.some.inj hh
      exact ⟨rfl, hempty t⟩
  -- Over the types still to read, with the close of the last one left open.
  induction rest generalizing t with
  | nil => exact ⟨_, t, (hopen t []).append (hdeclare t [])⟩
  | cons t' rest ih =>
    obtain ⟨actions, last, hdrives⟩ := ih t'
    have hclose : Runs.Drives (step ext refresh) (Healthy e)
        (alone s message (.closeChannel t (some 0) (t' :: rest))) [.resume 0 .answered]
        (alone s message (.openChannel t' rest)) := by
      refine drives_resume ext refresh rfl ?_
      intro h hh
      obtain rfl := Option.some.inj hh
      trivial
    exact ⟨_, last,
      (((hopen t _).append (hdeclare t _)).append hclose).append hdrives⟩

/-- A mark that is left, or a veto under the signal's key, is there when it comes to its purge. -/
theorem drives_decided (e : Extraction) (message : Json) (t : DataType)
    (hmarked : s.purge.deadLettered.Nonempty ∨ (rowsOf s message).Nonempty) :
    ∃ actions s₁ p, Runs.Drives (step ext refresh) (Healthy e)
        (alone s message (.closeChannel t (some 0) [])) actions s₁ ∧
      Healthy e s₁ (.resume 0 .answered) ∧ decided s₁ (.resume 0 .answered) = some p ∧
      p.deadLettered.Nonempty ∧ p.settledBoundary = s.purge.settledBoundary := by
  have hhealthy (s : State) (awaiting : HandlerAwait)
      (hawaiting : ∀ t rest, awaiting ≠ .openChannel t rest ∧ awaiting ≠ .declareQueue t rest) :
      Healthy e (alone s message awaiting) (.resume 0 .answered) := by
    intro h hh
    obtain rfl := Option.some.inj hh
    cases awaiting with
    | openChannel t rest => exact absurd rfl (hawaiting t rest).1
    | declareQueue t rest => exact absurd rfl (hawaiting t rest).2
    | _ => trivial
  -- Without a key there is no row to read or write, and the marks it comes with decide.
  cases hkey : extractionKey message with
  | none =>
    refine ⟨[], _, s.purge, .nil _, hhealthy _ _ (by simp), ?_, ?_, rfl⟩
    · show (if gather message [] = .callPurge then some s.purge else none) = some s.purge
      simp [gather, hkey]
    · rcases hmarked with hmarked | hmarked
      · exact hmarked
      · simp [rowsOf, hkey] at hmarked
  -- With one: the slot, the row, its marks, and the row written back.
  | some version =>
    have hslot : Runs.Drives (step ext refresh) (Healthy e)
        (alone s message (.closeChannel t (some 0) [])) [.resume 0 .answered]
        (alone s message (.slot version)) := by
      refine drives_resume ext refresh ?_ (hhealthy _ _ (by simp))
      show gather message [] = _
      simp [gather, hkey]
    have hread : Runs.Drives (step ext refresh) (Healthy e) (alone s message (.slot version))
        [.resume 0 .answered] (alone s message (.readVetoes version)) :=
      drives_resume ext refresh rfl (hhealthy _ _ (by simp))
    have hvetoes : Runs.Drives (step ext refresh) (Healthy e) (alone s message (.readVetoes version))
        [.resume 0 .answered] (alone s message (.vetoesRead version (s.recordedVetoes version))) :=
      drives_resume ext refresh rfl (hhealthy _ _ (by simp))
    let marked := s.mark (s.recordedVetoes version)
    have hmark : Runs.Drives (step ext refresh) (Healthy e)
        (alone s message (.vetoesRead version (s.recordedVetoes version))) [.resume 0 .answered]
        (alone marked message (.recordExtraction version marked.purge.deadLettered)) :=
      drives_resume ext refresh rfl (hhealthy _ _ (by simp))
    let recorded := marked.recordExtraction version marked.purge.deadLettered
    have hrecord : Runs.Drives (step ext refresh) (Healthy e)
        (alone marked message (.recordExtraction version marked.purge.deadLettered))
        [.resume 0 .answered] (alone recorded message .leaveSlot) :=
      drives_resume ext refresh rfl (hhealthy _ _ (by simp))
    refine ⟨_, _, marked.purge,
      (((hslot.append hread).append hvetoes).append hmark).append hrecord,
      hhealthy _ _ (by simp), rfl, ?_, rfl⟩
    -- The handler writes back what it read beside its own marks, so either of the two is enough.
    show (s.recordedVetoes version ∪ s.purge.deadLettered).Nonempty
    rcases hmarked with hmarked | hmarked
    · exact hmarked.mono Finset.subset_union_right
    · have hrow : (s.recordedVetoes version).Nonempty := by simpa [rowsOf, hkey] using hmarked
      exact hrow.mono Finset.subset_union_left

/-- So some handling of the extraction comes to a purge that is vetoed.  Which signal comes last is
    given, as the row that holds a veto may be under its key alone. -/
theorem not_neverVetoed {e : Extraction} (last : DataType) (hnone : s.handlers = [])
    (hlater : ∀ b, s.purge.boundary = some b → b < e.boundary)
    (hunsettled : s.purge.settledBoundary ≠ some e.boundary)
    (hempty : ∀ t, s.deadLettersWaiting t = 0) (hlast : last ∈ MUSICBRAINZ_DATA_TYPES)
    (hmarked : s.purge.deadLettered.Nonempty ∨ (rowsOf s (e.message last)).Nonempty) :
    ¬ NeverVetoed ext refresh e s := by
  let types := MUSICBRAINZ_DATA_TYPES.filter fun t => decide (t ≠ last)
  have htypes : ∀ t ∈ types, t ∈ MUSICBRAINZ_DATA_TYPES ∧ t ≠ last := by
    intro t ht
    obtain ⟨hmem, hne⟩ := List.mem_filter.mp ht
    exact ⟨hmem, of_decide_eq_true hne⟩
  have hothers : types ≠ [] := by
    have hall : ∀ last ∈ MUSICBRAINZ_DATA_TYPES,
        (MUSICBRAINZ_DATA_TYPES.filter fun t => decide (t ≠ last)) ≠ [] := by
      decide +kernel
    exact hall last hlast
  obtain ⟨p, hsignals, hmarks, hsettled, hboundary, hkept⟩ :=
    drives_signals ext refresh hlast htypes (Or.inl hlater) hnone
  have hboundary := hboundary (Or.inl hothers)
  -- The last signal latches the extraction, and its handler reads the dead-letter queues.
  obtain ⟨n, -, -, hb, hinsert⟩ := recordCompletion_own (p := p) hlast
    fun b hb => (Option.some.inj (hb.symm.trans hboundary)).le
  let p' := p.recordCompletion last (e.message last)
  have hlatched : p'.isLatched config = true := by
    refine StaleChildRowPurge.isLatched_iff.mpr ⟨by rw [hb]; exact Option.some_ne_none _, ?_⟩
    intro t ht
    rcases hinsert with ⟨hlater', -⟩ | ⟨-, heq⟩
    · exact absurd (hlater' _ hboundary) (lt_irrefl _)
    · rw [heq, Finmap.mem_keys, Finmap.mem_insert]
      by_cases hsame : t = last
      · exact Or.inl hsame
      · exact Or.inr (hkept t (Or.inl
          (List.mem_filter.mpr ⟨List.mem_toFinset.mp ht, decide_eq_true hsame⟩)))
  have hopen : p'.isSettled ≠ true := by
    intro hsettles
    unfold StaleChildRowPurge.isSettled at hsettles
    have heq := of_decide_eq_true (Bool.and_eq_true_iff.mp hsettles).2
    rw [hb, StaleChildRowPurge.recordCompletion_settledBoundary, hsettled] at heq
    exact hunsettled heq
  have hstep : step ext refresh { s with purge := p } (.signal last (e.message last)) =
      some (alone { s with purge := p' } (e.message last)
        (.openChannel "artists" ["labels", "release-groups", "releases"])) := by
    have hreceive : receive { s with purge := p } last (e.message last) =
        ({ s with purge := p' },
          .await (.openChannel "artists" ["labels", "release-groups", "releases"])) := by
      rw [receive_eq, receive_next, if_pos hlatched, if_neg hopen]
      rfl
    show some _ = some _
    rw [hreceive, hnone]
    rfl
  obtain ⟨reads, t, hreads⟩ := drives_dead_letters (s := { s with purge := p' }) ext refresh e
    (e.message last) "artists" ["labels", "release-groups", "releases"] hempty
  have hmarks' : p'.deadLettered = s.purge.deadLettered :=
    (StaleChildRowPurge.recordCompletion_deadLettered _ _).trans hmarks
  obtain ⟨comes, s₁, q, hcomes, hhealthy, hdecided, hmarked', hsettled'⟩ :=
    drives_decided (s := { s with purge := p' }) ext refresh e (e.message last) t
      (by rw [hmarks']; exact hmarked)
  intro hnever
  have hsignal : Runs.Drives (step ext refresh) (Healthy e) { s with purge := p }
      [.signal last (e.message last)] _ := .cons (And.intro hlast rfl) hstep (.nil _)
  have hveto := hnever _ _ _ q (((hsignals.append hsignal).append hreads).append hcomes) hhealthy
    hdecided ?_
  · rw [(StaleChildRowPurge.vetoReason_eq_none.mp hveto).2.2.1] at hmarked'
    exact Finset.not_nonempty_empty hmarked'
  · rw [hsettled', StaleChildRowPurge.recordCompletion_settledBoundary, hsettled]
    exact hunsettled

end Necessary

/-! ## The next extraction -/

/-- **When an extraction escapes the vetoes before it.**  From a state in which nothing else is being
    handled and nothing of it has been collected or settled: however it is handled, without a rejection
    and with the dead-letter queues readable and empty, its purge is not vetoed if no mark is left and
    the rows under its signals' keys hold no veto, and only then. -/
theorem next_extraction_is_not_vetoed (ext : Externals) (refresh : Bool) (e : Extraction)
    (s₀ : State) (hnone : s₀.handlers = [])
    (hlater : ∀ b, s₀.purge.boundary = some b → b < e.boundary)
    (hunsettled : s₀.purge.settledBoundary ≠ some e.boundary) :
    (s₀.purge.deadLettered = ∅ ∧ CleanRows e s₀ → NeverVetoed ext refresh e s₀) ∧
    ((∀ t, s₀.deadLettersWaiting t = 0) → NeverVetoed ext refresh e s₀ →
      s₀.purge.deadLettered = ∅ ∧ CleanRows e s₀) := by
  constructor
  -- Where nothing is marked or recorded, `Clean` holds at the start, and no healthy step leaves it.
  · rintro ⟨hmarks, hrows⟩ actions a s p hdrives hhealthy hdecided hopen
    have hclean : Clean e s₀ := by
      refine ⟨hmarks, hrows, fun b hb => (hlater b hb).le, ?_, ?_⟩
      · intro hsame
        exact absurd (hlater _ hsame) (lt_irrefl _)
      · rw [hnone]
        exact fun h hh => (nomatch hh)
    have hreached : Clean e s :=
      hdrives.meets.invariant (fun s a s' hs hok => clean_step hs hok) hclean hdrives.run
    exact not_vetoed_of_clean hreached hhealthy hdecided hopen
  -- The converse runs four signals, every queue and the row, in that state: a mark, or a recorded row,
  -- then vetoes the purge that is decided, which `NeverVetoed` denies.
  · intro hempty hnever
    constructor
    · by_contra hmarks
      exact not_neverVetoed ext refresh "artists" hnone hlater hunsettled hempty (by decide)
        (Or.inl (Finset.nonempty_iff_ne_empty.mpr hmarks)) hnever
    · intro t ht version hkey
      by_contra hrow
      have hrows : rowsOf s₀ (e.message t) = s₀.recordedVetoes version := by
        simp [rowsOf, hkey]
      exact not_neverVetoed ext refresh t hnone hlater hunsettled hempty ht
        (Or.inr (by rw [hrows]; exact Finset.nonempty_iff_ne_empty.mpr hrow)) hnever

/-- The extraction of this version and start, with a record of each type. -/
def extractionMessage (version startedAt : String) (t : DataType) : Json :=
  .obj [("record_counts", .obj [(t, .int 1)]), ("started_at", .str startedAt),
    ("type", .str "extraction_complete"), ("version", .str version)]

/-- February's dump, extracted a second time two days later. -/
def februaryAgain : Extraction where
  boundary := 63842601600000000
  message := extractionMessage "20240201" "2024-02-03T00:00:00Z"
  names := by decide +kernel
  counts := by
    have hone : ∀ t ∈ MUSICBRAINZ_DATA_TYPES, Purge.reportedCount t
        (extractionMessage "20240201" "2024-02-03T00:00:00Z" t) = some 1 := by
      decide +kernel
    exact fun t ht => ⟨1, hone t ht, one_ne_zero⟩

/-- January's dump was vetoed, and the veto recorded. -/
def januaryVetoed : State where
  latch := (∅ : Table String (Finset DataType)).insert "20240101" {"labels"}

/-- February's extraction does not read it. -/
theorem february_after_january :
    NeverVetoed Records.sampleExternals true februaryAgain januaryVetoed := by
  have hkey : ∀ t ∈ MUSICBRAINZ_DATA_TYPES,
      extractionKey (februaryAgain.message t) = some "20240201" := by
    decide +kernel
  have hclean := (next_extraction_is_not_vetoed Records.sampleExternals true februaryAgain
    januaryVetoed rfl (fun b hb => (nomatch hb)) (Option.some_ne_none _).symm).1
  refine hclean ⟨rfl, ?_⟩
  intro t ht version hversion
  obtain rfl : "20240201" = version := Option.some.inj ((hkey t ht).symm.trans hversion)
  decide +kernel

/-- February's extraction is vetoed by a dead letter, and settled; the dead letter is cleared. -/
def vetoedFebruary : List Action :=
  .otherDeadLetters "labels" 1 :: februarySignals ++ answered 0 17 ++ [.otherDeadLetters "labels" 0]

/-- The dump is extracted again: nothing is rejected and no dead letter waits, and its purge is vetoed
    by what the first extraction recorded. -/
theorem february_again_is_vetoed :
    ∃ s₀ s p, Runs.run (step Records.sampleExternals true) { db := februaryLinks } vetoedFebruary =
        some s₀ ∧
      s₀.handlers = [] ∧ s₀.purge.deadLettered = ∅ ∧
      s₀.purge.settledBoundary = some 63842428800000000 ∧
      Runs.Drives (step Records.sampleExternals true) (Healthy februaryAgain) s₀
        (MUSICBRAINZ_DATA_TYPES.map (fun t => .signal t (februaryAgain.message t)) ++ answered 0 16)
        s ∧
      Healthy februaryAgain s (.resume 0 .answered) ∧ decided s (.resume 0 .answered) = some p ∧
      p.boundary = some februaryAgain.boundary ∧ p.settledBoundary ≠ some februaryAgain.boundary ∧
      p.deadLettered = {"labels"} ∧ p.vetoReason config ≠ none := by
  -- All that the statement says of the run is evaluated at once; the veto itself follows from the mark.
  have hruns : ((Runs.run (step Records.sampleExternals true) { db := februaryLinks }
      vetoedFebruary).bind fun s₀ => (Runs.run (step Records.sampleExternals true) s₀
        (MUSICBRAINZ_DATA_TYPES.map (fun t => .signal t (februaryAgain.message t)) ++
          answered 0 16)).bind fun s => (decided s (.resume 0 .answered)).map fun p =>
        decide (s₀.handlers.length = 0 ∧ s₀.purge.deadLettered = ∅ ∧
          s₀.purge.settledBoundary = some 63842428800000000 ∧
          Runs.Meets (step Records.sampleExternals true) (Healthy februaryAgain) s₀
            (MUSICBRAINZ_DATA_TYPES.map (fun t => .signal t (februaryAgain.message t)) ++
              answered 0 16) ∧
          Healthy februaryAgain s (.resume 0 .answered) ∧
          p.boundary = some februaryAgain.boundary ∧
          p.settledBoundary ≠ some februaryAgain.boundary ∧ p.deadLettered = {"labels"})) =
            some true := by
    decide +kernel
  obtain ⟨s₀, hs₀, hruns⟩ := Option.bind_eq_some_iff.mp hruns
  obtain ⟨s, hs, hruns⟩ := Option.bind_eq_some_iff.mp hruns
  obtain ⟨p, hp, hruns⟩ := Option.map_eq_some_iff.mp hruns
  obtain ⟨hnone, hmarks, hsettled, hmeets, hhealthy, hboundary, hopen, hmarked⟩ :=
    of_decide_eq_true hruns
  refine ⟨s₀, s, p, hs₀, List.length_eq_zero_iff.mp hnone, hmarks, hsettled, ⟨hmeets, hs⟩,
    hhealthy, hp, hboundary, hopen, hmarked, ?_⟩
  intro hveto
  rw [(StaleChildRowPurge.vetoReason_eq_none.mp hveto).2.2.1] at hmarked
  exact Finset.singleton_ne_empty _ hmarked.symm

end Service
