/-
  The count of consecutive vetoes.

  `consecutive_vetoes` reads the latch rows, newest version first, and counts those that name a vetoing
  type.  A row is written before its purge is decided, and holds the dead-letter marks alone; so the
  count is true of the extractions that were settled as long as each step is `Truthful`: no veto is for
  the record counts alone, no first mark comes between a handler's marks and its purge, and a handler
  records and decides its own extraction, which no purge is deleting or has decided otherwise.

  `Watched` adds to the service what it does not keep itself: how each settled extraction was decided.

  What the count is compared with is about the past, and the rows are all the service remembers of it.
  The rows are by version and the decisions by boundary, a row may be there before its extraction is
  decided, and one that is written twice keeps what it held.  So the invariant (`Tells`) says two things:
  of a decided extraction, that its row tells how it was decided; of a handler on its way to its purge,
  that its row names a type as soon as one is marked.  Where every extraction that is recorded is decided
  only the first is left, and the rows in their order are the decisions in theirs (`InOrder`).
-/
import MusicBrainzLoader.Service.RecordedVeto

namespace Service

open Purge (DataType StaleChildRowPurge)
open Records (Externals Instant)

/-! ## The count -/

/-- The loop of `consecutive_vetoes` over the rows. -/
def countVetoed : List (Finset DataType) → Nat
  | [] => 0
  | vetoed :: rows => if vetoed = ∅ then 0 else countVetoed rows + 1

/-- `consecutive_vetoes`: the rows come `ORDER BY version DESC`. -/
def consecutiveVetoes (latch : Table String (Finset DataType)) : Nat :=
  countVetoed (latch.keysDesc.map fun version => (latch.lookup version).getD ∅)

/-! ## What was decided -/

/-- The service, and how each settled extraction was decided: whether its purge was vetoed. -/
structure Watched where
  service : State
  outcomes : Table Instant Bool

/-- The extraction a step settles, and whether by a veto: a `purge` call that is vetoed for another
    reason than that it is settled already, or one that completes. -/
def verdict (s : State) (a : Action) : Option (Instant × Bool) :=
  match decided s a, a with
  | some p, _ =>
    if p.vetoReason config ≠ none ∧ p.isLatched config = true ∧ p.settledBoundary ≠ p.boundary then
      p.boundary.map (·, true)
    else none
  | none, .resume i outcome => (s.handlers[i]?.bind fun h => finishing h outcome).map (·, false)
  | none, _ => none

/-- A step of the service, watched. -/
def watchedStep (ext : Externals) (refresh : Bool) (w : Watched) (a : Action) : Option Watched :=
  (step ext refresh w.service a).map fun service =>
    { service, outcomes := match verdict w.service a with
        | some (b, vetoed) => w.outcomes.insert b vetoed
        | none => w.outcomes }

/-- How many of the settled extractions, the latest first, were vetoed in a row. -/
def vetoedInARow (outcomes : Table Instant Bool) : Nat :=
  (outcomes.keysDesc.takeWhile fun b => decide (outcomes.lookup b = some true)).length

/-! ## The condition -/

/-- A handler that has taken the marks it records, and not come to its purge. -/
def Handler.committed (h : Handler) : Bool :=
  match h.awaiting with
  | .recordExtraction _ _ | .leaveSlot => true
  | _ => false

/-- A handler whose purge is deleting at this boundary. -/
def Handler.purges (h : Handler) (b : Instant) : Bool :=
  match h.awaiting with
  | .purging call _ => decide (call.boundary = b)
  | _ => false

/-- The handler whose row a step writes, and the vetoes it adds. -/
def recording (s : State) : Action → Option (Handler × Finset DataType)
  | .resume i outcome => s.handlers[i]?.bind fun h =>
    match h.awaiting, outcome with
    | .recordExtraction _ vetoed, .answered => some (h, vetoed)
    | .recordExtraction _ vetoed, .raisedAfter => some (h, vetoed)
    | _, _ => none
  | _ => none

/-- What makes the rows tell the truth, step by step. -/
structure Truthful (ext : Externals) (refresh : Bool) (w : Watched) (a : Action) : Prop where
  /-- No purge is vetoed for its record counts alone. -/
  counts : ∀ p ∈ decided w.service a, p.settledBoundary ≠ p.boundary → p.deadLettered = ∅ →
    p.emptyDataTypes = ∅
  /-- A handler decides the extraction its own signal names. -/
  own : ∀ h ∈ actor w.service a, ∀ p ∈ decided w.service a, p.settledBoundary ≠ p.boundary →
    p.boundary = signalled h.message
  /-- Nothing is settled, and the marks cleared, while a handler of another extraction has read its
      row. -/
  alone : ∀ b ∈ settled w.service a, ∀ h ∈ others w.service a, h.primed = true →
    signalled h.message = some b
  /-- The first mark does not come after a handler has taken the marks it records. -/
  marked : ∀ s' ∈ step ext refresh w.service a, w.service.purge.deadLettered = ∅ →
    s'.purge.deadLettered.Nonempty → ∀ h ∈ others w.service a, h.committed = false
  /-- Vetoes are not recorded for an extraction that was purged, or is being purged. -/
  recorded : ∀ r ∈ recording w.service a, r.2.Nonempty → ∀ b ∈ signalled r.1.message,
    w.outcomes.lookup b ≠ some false ∧ ∀ h ∈ others w.service a, h.purges b = false

instance (ext : Externals) (refresh : Bool) (w : Watched) (a : Action) :
    Decidable (Truthful ext refresh w a) :=
  decidable_of_iff
    ((∀ p ∈ decided w.service a, p.settledBoundary ≠ p.boundary → p.deadLettered = ∅ →
        p.emptyDataTypes = ∅) ∧
      (∀ h ∈ actor w.service a, ∀ p ∈ decided w.service a, p.settledBoundary ≠ p.boundary →
        p.boundary = signalled h.message) ∧
      (∀ b ∈ settled w.service a, ∀ h ∈ others w.service a, h.primed = true →
        signalled h.message = some b) ∧
      (∀ s' ∈ step ext refresh w.service a, w.service.purge.deadLettered = ∅ →
        s'.purge.deadLettered.Nonempty → ∀ h ∈ others w.service a, h.committed = false) ∧
      ∀ r ∈ recording w.service a, r.2.Nonempty → ∀ b ∈ signalled r.1.message,
        w.outcomes.lookup b ≠ some false ∧ ∀ h ∈ others w.service a, h.purges b = false)
    ⟨fun ⟨h1, h2, h3, h4, h5⟩ => ⟨h1, h2, h3, h4, h5⟩,
      fun ⟨h1, h2, h3, h4, h5⟩ => ⟨h1, h2, h3, h4, h5⟩⟩

/-- The signals of a history: each names a start and a version, in the same order. -/
def InOrder (messages : List Json) : Prop :=
  ∀ m ∈ messages, ∀ m' ∈ messages, ∃ b ∈ signalled m, ∃ v ∈ extractionKey m,
    ∃ b' ∈ signalled m', ∃ v' ∈ extractionKey m', (b < b' ↔ v < v')

instance (messages : List Json) : Decidable (InOrder messages) :=
  inferInstanceAs (Decidable (∀ m ∈ messages, ∀ m' ∈ messages, _))

/-- One of the signals carries this start and this version. -/
def Names (messages : List Json) (b : Instant) (version : String) : Prop :=
  ∃ m ∈ messages, signalled m = some b ∧ extractionKey m = some version

/-! ## What the rows tell -/

/-- A handler's own row, on its way to its purge: it has a veto as soon as there is a mark, and none
    while a purge is deleting. -/
def Handler.Tells (messages : List Json) (s : State) (h : Handler) : Prop :=
  match h.awaiting with
  | .recordExtraction _ vetoed => s.purge.deadLettered.Nonempty → vetoed.Nonempty
  | .leaveSlot => ∃ version vetoed, extractionKey h.message = some version ∧
    s.latch.lookup version = some vetoed ∧ (s.purge.deadLettered.Nonempty → vetoed.Nonempty)
  | .purging call _ => ∃ version, Names messages call.boundary version ∧
    s.latch.lookup version = some ∅
  | _ => True

/-- The rows tell how every settled extraction was decided. -/
structure Tells (messages : List Json) (w : Watched) : Prop where
  honoured : ∀ h ∈ w.service.handlers, Honoured messages w.service h
  handlers : ∀ h ∈ w.service.handlers, h.Tells messages w.service
  outcomes : ∀ b vetoed, w.outcomes.lookup b = some vetoed → ∃ version row,
    Names messages b version ∧ w.service.latch.lookup version = some row ∧
      (row.Nonempty ↔ vetoed = true)

section Names

variable {messages : List Json}

/-- Every signal names its extraction, by start and by version. -/
theorem InOrder.names (h : InOrder messages) {m : Json} (hm : m ∈ messages) :
    ∃ b version, signalled m = some b ∧ extractionKey m = some version := by
  obtain ⟨b, hb, version, hversion, -⟩ := h m hm m hm
  exact ⟨b, version, hb, hversion⟩

/-- Starts and versions are in the same order. -/
theorem InOrder.lt_iff (h : InOrder messages) {b b' : Instant} {v v' : String}
    (hn : Names messages b v) (hn' : Names messages b' v') : b < b' ↔ v < v' := by
  obtain ⟨m, hm, hb, hv⟩ := hn
  obtain ⟨m', hm', hb', hv'⟩ := hn'
  obtain ⟨c, hc, u, hu, c', hc', u', hu', hiff⟩ := h m hm m' hm'
  obtain rfl : b = c := Option.some.inj (hb.symm.trans hc)
  obtain rfl : v = u := Option.some.inj (hv.symm.trans hu)
  obtain rfl : b' = c' := Option.some.inj (hb'.symm.trans hc')
  obtain rfl : v' = u' := Option.some.inj (hv'.symm.trans hu')
  exact hiff

/-- So one start has one version, and one version one start. -/
theorem InOrder.eq_iff (h : InOrder messages) {b b' : Instant} {v v' : String}
    (hn : Names messages b v) (hn' : Names messages b' v') : b = b' ↔ v = v' := by
  have hlt := h.lt_iff hn hn'
  have hgt := h.lt_iff hn' hn
  constructor
  · rintro rfl
    rcases lt_trichotomy v v' with hv | hv | hv
    · exact absurd (hlt.mpr hv) (lt_irrefl b)
    · exact hv
    · exact absurd (hgt.mpr hv) (lt_irrefl b)
  · rintro rfl
    rcases lt_trichotomy b b' with hb | hb | hb
    · exact absurd (hlt.mp hb) (lt_irrefl v)
    · exact hb
    · exact absurd (hgt.mp hb) (lt_irrefl v)

/-- And no version is two extractions'. -/
theorem InOrder.oneKey (h : InOrder messages) : OneKey messages := by
  intro m hm m' hm' _ _
  obtain ⟨b, v, hb, hv⟩ := h.names hm
  obtain ⟨b', v', hb', hv'⟩ := h.names hm'
  have hiff := h.eq_iff ⟨m, hm, hb, hv⟩ ⟨m', hm', hb', hv'⟩
  rw [hb, hb', hv, hv', Option.some.injEq, Option.some.injEq]
  exact hiff

end Names

/-! ## One step -/

section Step

variable {ext : Externals} {refresh : Bool} {s s' : State} {a : Action} {messages : List Json}

/-- The loop over the dead-letter queues comes to a queue, or to the slot. -/
theorem gather_await {message : Json} {rest : List DataType} {awaiting : HandlerAwait}
    (hg : gather message rest = .await awaiting) :
    Handler.committed ⟨message, awaiting⟩ = false ∧
      ∀ b, Handler.purges ⟨message, awaiting⟩ b = false := by
  rcases gather_eq_await hg with ⟨t, later, rfl⟩ | ⟨version, -, rfl⟩
  · exact ⟨rfl, fun _ => rfl⟩
  · exact ⟨rfl, fun _ => rfl⟩

/-- What a handler's next await holds of its marks, its row and its purge. -/
theorem advance_await {h : Handler} {outcome : Outcome} {awaiting : HandlerAwait}
    (hnext : (advance s h outcome).2 = .await awaiting) :
    (∃ version vetoes, h.awaiting = .vetoesRead version vetoes ∧
      (advance s h outcome).1 = s.mark vetoes ∧
      awaiting = .recordExtraction version (s.mark vetoes).purge.deadLettered) ∨
    (∃ version vetoed, h.awaiting = .recordExtraction version vetoed ∧
      (advance s h outcome).1 = s.recordExtraction version vetoed ∧ awaiting = .leaveSlot) ∨
    (∃ call call' deleted deleted', h.awaiting = .purging call deleted ∧
      (advance s h outcome).1 = s ∧ awaiting = .purging call' deleted' ∧
      call'.boundary = call.boundary) ∨
    (Handler.committed ⟨h.message, awaiting⟩ = false ∧
      ∀ b, Handler.purges ⟨h.message, awaiting⟩ b = false) := by
  obtain ⟨message, awaiting₀⟩ := h
  have hadvances := advances s message awaiting₀ outcome
  generalize advance s ⟨message, awaiting₀⟩ outcome = r at hadvances hnext ⊢
  cases hadvances with
  -- Before the row is written nothing is promised of it, wherever the handler waits.
  | unopened | empty | waiting => exact Or.inr (Or.inr (Or.inr (gather_await hnext)))
  | opened | counted | uncounted | held | read =>
    obtain rfl := Next.await.inj hnext
    exact Or.inr (Or.inr (Or.inr ⟨rfl, fun _ => rfl⟩))
  -- The mark and what is then to be written are one thing.
  | marked => exact Or.inl ⟨_, _, rfl, rfl, (Next.await.inj hnext).symm⟩
  | recorded => exact Or.inr (Or.inl ⟨_, _, rfl, rfl, (Next.await.inj hnext).symm⟩)
  | suspended _ hboundary =>
    obtain rfl := Next.await.inj hnext
    exact Or.inr (Or.inr (Or.inl ⟨_, _, _, _, rfl, rfl, rfl, hboundary⟩))
  | left | recordLost | finished | commitLost | raised => cases hnext

/-- A step writes the row of the handler that records, or leaves the latch alone. -/
theorem latch_step (h : step ext refresh s a = some s') :
    s'.latch = s.latch ∨
    ∃ h₀ version vetoed, recording s a = some (h₀, vetoed) ∧ h₀ ∈ s.handlers ∧
      h₀.awaiting = .recordExtraction version vetoed ∧
      s'.latch = (s.recordExtraction version vetoed).latch := by
  rcases step_latch h with hsame | ⟨i, o, h₀, version, vetoed, rfl, hh₀, ho, hawaiting, hwritten⟩
  · exact Or.inl hsame
  · refine Or.inr ⟨h₀, version, vetoed, ?_, List.mem_of_getElem? hh₀, hawaiting, hwritten⟩
    show s.handlers[i]?.bind _ = _
    rw [hh₀]
    cases o with
    | raised => exact absurd rfl ho
    | answered | raisedAfter => simp [hawaiting]

/-- A handler that records has its own version's row written. -/
theorem names_of_honoured {h : Handler} (hhonoured : Honoured messages s h) {version : String}
    {vetoed : Finset DataType} (hawaiting : h.awaiting = .recordExtraction version vetoed) :
    ∃ b, signalled h.message = some b ∧ Names messages b version := by
  obtain ⟨b, hb⟩ := Option.ne_none_iff_exists'.mp hhonoured.usable
  have hkeeps := hhonoured.keeps
  unfold KeepsVeto at hkeeps
  rw [hawaiting] at hkeeps
  exact ⟨b, hb, h.message, hhonoured.delivered, hb, hkeeps.1⟩

/-- What a step does to a row: nothing, unless its own extraction's vetoes are added to it. -/
theorem row_step (hinOrder : InOrder messages) (hinv : ∀ h ∈ s.handlers, Honoured messages s h)
    (hstep : step ext refresh s a = some s') {b : Instant} {version : String}
    {row : Finset DataType} (hnames : Names messages b version)
    (hrow : s.latch.lookup version = some row) :
    s'.latch.lookup version = some row ∨
    ∃ h vetoed, recording s a = some (h, vetoed) ∧ vetoed.Nonempty ∧ signalled h.message = some b ∧
      s'.latch.lookup version = some (row ∪ vetoed) := by
  -- Rows are only ever written by a handler, and then their types are added to.
  rcases latch_step hstep with hsame | ⟨h, version₀, vetoed, hrecording, hmem, hawaiting, hwritten⟩
  · rw [hsame]
    exact Or.inl hrow
  · rw [hwritten]
    show (s.latch.insert version₀ (s.recordedVetoes version₀ ∪ vetoed)).lookup version = _ ∨
      ∃ h' vetoed', _ ∧ _ ∧ _ ∧
        (s.latch.insert version₀ (s.recordedVetoes version₀ ∪ vetoed)).lookup version = _
    rw [Table.lookup_insert_eq]
    by_cases heq : version = version₀
    -- A row that names `version` has been written by a handler whose own key that is, so its extraction
    -- is the row's (`InOrder`).
    · subst heq
      obtain ⟨b₀, hb₀, hnames₀⟩ := names_of_honoured (hinv h hmem) hawaiting
      have hsame : b₀ = b := (hinOrder.eq_iff hnames₀ hnames).mpr rfl
      have hold : s.recordedVetoes version = row := by
        unfold State.recordedVetoes
        rw [hrow]
        rfl
      rw [if_pos rfl, hold]
      -- Nothing added leaves the row as it was.
      rcases vetoed.eq_empty_or_nonempty with hnone | hsome
      · rw [hnone, Finset.union_empty]
        exact Or.inl rfl
      · exact Or.inr ⟨h, vetoed, hrecording, hsome, hb₀.trans (congrArg some hsame), rfl⟩
    · rw [if_neg heq]
      exact Or.inl hrow

/-- Only a handler's purge settles an extraction: vetoed at its call, or at its end. -/
theorem verdict_eq_some {b : Instant} {vetoed : Bool} (h : verdict s a = some (b, vetoed)) :
    ∃ i o h₀, a = .resume i o ∧ s.handlers[i]? = some h₀ ∧
      ((vetoed = true ∧ ∃ p, decided s a = some p ∧ p.boundary = some b ∧
          p.vetoReason config ≠ none ∧ p.isLatched config = true ∧
          p.settledBoundary ≠ p.boundary) ∨
        (vetoed = false ∧ finishing h₀ o = some b)) := by
  -- With a decision, the verdict is its veto; without one, a purge that finishes.
  cases hdecided : decided s a with
  | some p =>
    unfold verdict at h
    rw [hdecided] at h
    dsimp only at h
    split at h
    · rename_i hveto
      obtain ⟨b', hb', heq⟩ := Option.map_eq_some_iff.mp h
      cases heq
      obtain ⟨r, hreached, hcall, hpurge⟩ := decided_eq_some hdecided
      -- A signal that comes to `purge` by itself is settled already, and that is no verdict.
      rcases reached_cases hreached with ⟨t, m, rfl, rfl⟩ | ⟨i, o, h₀, rfl, hh₀, -⟩
      · have hsettled := receive_callPurge hcall
        rw [hpurge] at hsettled
        exact absurd hsettled hveto.2.2
      · exact ⟨i, o, h₀, rfl, hh₀, Or.inl ⟨rfl, p, rfl, hb', hveto⟩⟩
    · cases h
  | none =>
    unfold verdict at h
    rw [hdecided] at h
    cases a with
    | resume i o =>
      obtain ⟨b', hb', heq⟩ := Option.map_eq_some_iff.mp h
      cases heq
      obtain ⟨h₀, hh₀, hfinishing⟩ := Option.bind_eq_some_iff.mp hb'
      exact ⟨i, o, h₀, rfl, hh₀, Or.inr ⟨rfl, hfinishing⟩⟩
    | _ => cases h

/-- Nothing is recorded by a handler that awaits something else. -/
theorem recording_eq_some {i : Nat} {o : Outcome} {h₀ h : Handler} {vetoed : Finset DataType}
    (hh₀ : s.handlers[i]? = some h₀) (h : recording s (.resume i o) = some (h, vetoed)) :
    ∃ version vetoed, h₀.awaiting = .recordExtraction version vetoed := by
  obtain ⟨h₁, hh₁, hrecords⟩ := Option.bind_eq_some_iff.mp h
  obtain rfl : h₀ = h₁ := Option.some.inj (hh₀.symm.trans hh₁)
  cases hawaiting : h₀.awaiting with
  | recordExtraction version vetoed' => exact ⟨version, vetoed', rfl⟩
  | _ =>
    rw [hawaiting] at hrecords
    cases hrecords

/-- A purge that leaves its block is at its boundary. -/
theorem finishing_eq_some {h : Handler} {o : Outcome} {b : Instant} (hb : finishing h o = some b) :
    ∃ call deleted, h.awaiting = .purging call deleted ∧ call.boundary = b := by
  obtain ⟨message, awaiting⟩ := h
  cases awaiting with
  | purging call deleted =>
    cases o with
    | answered =>
      have hb : (if call.awaiting = .exitStack then some call.boundary else none) = some b := hb
      split at hb
      · exact ⟨call, deleted, rfl, Option.some.inj hb⟩
      · cases hb
    | _ => cases hb
  | _ => cases o <;> cases hb

end Step

/-! ## The rows keep telling -/

section Tells

variable {ext : Externals} {refresh : Bool} {w w' : Watched} {s' : State} {a : Action}
  {messages : List Json}

/-- A truthful step is orderly: what a recorded veto needs is needed here too. -/
theorem Truthful.orderly (h : Truthful ext refresh w a) : Orderly w.service a := by
  refine ⟨?_, h.alone⟩
  intro h₀ hactor p hdecided hnone
  have hunsettled := (StaleChildRowPurge.vetoReason_eq_none.mp hnone).2.1
  exact h.own h₀ hactor p hdecided hunsettled

/-- Marks that are there after a step were there before it, when a handler it leaves alone has taken
    its marks. -/
theorem marked_before (htruthful : Truthful ext refresh w a)
    (hstep : step ext refresh w.service a = some s') {h : Handler} (hmem : h ∈ others w.service a)
    (hcommitted : h.committed = true) (hmarked : s'.purge.deadLettered.Nonempty) :
    w.service.purge.deadLettered.Nonempty := by
  by_contra hnone
  have hfirst := htruthful.marked s' hstep (Finset.not_nonempty_iff_eq_empty.mp hnone) hmarked h hmem
  rw [hcommitted] at hfirst
  cases hfirst

/-- The handlers a step leaves alone keep telling. -/
theorem tells_others (hinOrder : InOrder messages) (hw : Tells messages w)
    (htruthful : Truthful ext refresh w a) (hstep : step ext refresh w.service a = some s')
    {h : Handler} (hmem : h ∈ others w.service a) : h.Tells messages s' := by
  have htells := hw.handlers h (others_subset hmem)
  have hhonoured := hw.honoured h (others_subset hmem)
  obtain ⟨message, awaiting⟩ := h
  -- Of a handler that is not on the step. Its marks are the object's: the first mark does not come
  -- while it has the row in hand (`marked_before`).
  cases awaiting with
  | recordExtraction version vetoed =>
    intro hmarked
    exact htells (marked_before htruthful hstep hmem rfl hmarked)
  | leaveSlot =>
    obtain ⟨version, vetoed, hkey, hrow, hmarks⟩ := htells
    obtain ⟨b, hb⟩ := Option.ne_none_iff_exists'.mp hhonoured.usable
    have hnames : Names messages b version := ⟨message, hhonoured.delivered, hb, hkey⟩
    -- Its row may have been added to, which loses no type.
    rcases row_step hinOrder hw.honoured hstep hnames hrow with hsame | ⟨-, added, -, -, -, hmore⟩
    · refine ⟨version, vetoed, hkey, hsame, fun hmarked => ?_⟩
      exact hmarks (marked_before htruthful hstep hmem rfl hmarked)
    · refine ⟨version, vetoed ∪ added, hkey, hmore, fun hmarked => ?_⟩
      exact (hmarks (marked_before htruthful hstep hmem rfl hmarked)).mono Finset.subset_union_left
  | purging call deleted =>
    obtain ⟨version, hnames, hrow⟩ := htells
    rcases row_step hinOrder hw.honoured hstep hnames hrow with
      hsame | ⟨h, added, hrecording, hadded, hboundary, -⟩
    · exact ⟨version, hnames, hsame⟩
    -- A row of a purge under way is not added to: that is what `Truthful` asks of a recording.
    · have hquiet := (htruthful.recorded _ hrecording hadded _ hboundary).2 _ hmem
      simp [Handler.purges] at hquiet
  | _ => trivial

/-- A purge that is not vetoed finds its own row empty. -/
theorem tells_callPurge {s : State} {h : Handler} (hhonoured : Honoured messages s h)
    (htells : h.Tells messages s) (hslot : h.awaiting = .leaveSlot)
    (hown : s.purge.settledBoundary ≠ s.purge.boundary → s.purge.boundary = signalled h.message)
    {awaiting : HandlerAwait} (hnext : (callPurge s).2 = some awaiting) :
    ∃ call, awaiting = .purging call [] ∧ ∃ version, Names messages call.boundary version ∧
      s.latch.lookup version = some ∅ := by
  obtain ⟨hveto, call, rfl, hboundary⟩ := callPurge_await hnext
  obtain ⟨-, hunsettled, hmarks, -⟩ := StaleChildRowPurge.vetoReason_eq_none.mp hveto
  -- The object's boundary is the handler's own, so the row is this extraction's.
  have hnamed := hown hunsettled
  unfold Handler.Tells at htells
  rw [hslot] at htells
  obtain ⟨version, vetoed, hkey, hrow, -⟩ := htells
  have hkeeps := hhonoured.keeps
  unfold KeepsVeto at hkeeps
  rw [hslot] at hkeeps
  refine ⟨call, rfl, version, ⟨h.message, hhonoured.delivered, hnamed ▸ hboundary, hkey⟩, ?_⟩
  -- Had the row a type, its veto would be remembered, as a mark or by having settled; and the purge
  -- would not start.
  rcases vetoed.eq_empty_or_nonempty with hnone | hsome
  · rw [hrow, hnone]
  · have hvetoed : Vetoed s version := by
      unfold Vetoed State.recordedVetoes
      rw [hrow]
      exact hsome
    rcases hkeeps version hkey hvetoed with hmarked | hsettled
    · rw [hmarks] at hmarked
      exact absurd hmarked Finset.not_nonempty_empty
    · exact absurd (hsettled.trans hnamed.symm) hunsettled

/-- A handler tells trivially while it has neither taken its marks nor called `purge`. -/
theorem tells_of_idle {message : Json} {awaiting : HandlerAwait} (s : State)
    (hcommitted : Handler.committed ⟨message, awaiting⟩ = false)
    (hpurges : ∀ b, Handler.purges ⟨message, awaiting⟩ b = false) :
    Handler.Tells messages s ⟨message, awaiting⟩ := by
  cases awaiting with
  | purging call deleted => simp [Handler.purges] at hpurges
  | recordExtraction version vetoed => cases hcommitted
  | leaveSlot => cases hcommitted
  | _ => trivial

/-- A handler tells at its next await, in the state that it comes there in. -/
theorem tells_advance {s : State} {h : Handler} {o : Outcome} {awaiting : HandlerAwait}
    (hhonoured : Honoured messages s h) (htells : h.Tells messages s)
    (hnext : (advance s h o).2 = .await awaiting) :
    Handler.Tells messages (advance s h o).1 ⟨h.message, awaiting⟩ := by
  -- Marks made, row written, the next statement of the purge, or an await nothing is promised of.
  rcases advance_await hnext with ⟨version, vetoes, -, hmark, rfl⟩ |
    ⟨version, vetoed, hrecords, hrecord, rfl⟩ |
    ⟨call, call', deleted, deleted', hpurging, hsame, rfl, hboundary⟩ | ⟨hcommitted, hpurges⟩
  · rw [hmark]
    exact id
  · rw [hrecord]
    have hkeeps := hhonoured.keeps
    unfold KeepsVeto at hkeeps
    unfold Handler.Tells at htells
    rw [hrecords] at hkeeps htells
    -- What is written now is what it read with its marks, so the marks are in the row.
    refine ⟨version, s.recordedVetoes version ∪ vetoed, hkeeps.1, ?_, ?_⟩
    · show (s.latch.insert version _).lookup version = _
      rw [Table.lookup_insert_eq, if_pos rfl]
    · intro hmarked
      exact (htells hmarked).mono Finset.subset_union_right
  · rw [hsame]
    unfold Handler.Tells at htells
    rw [hpurging] at htells
    obtain ⟨version, hnames, hrow⟩ := htells
    exact ⟨version, hboundary ▸ hnames, hrow⟩
  · exact tells_of_idle _ hcommitted hpurges

/-- The handler a step runs tells at its next await. -/
theorem tells_acted (hinOrder : InOrder messages) (hw : Tells messages w)
    (htruthful : Truthful ext refresh w a) {r : State × Next} {message : Json}
    {awaiting : HandlerAwait} (hreached : reached w.service a = some r)
    (hmessage : stepMessage w.service a = some message) (hnext : (proceed r).2 = some awaiting) :
    Handler.Tells messages (proceed r).1 ⟨message, awaiting⟩ := by
  -- The handler on the step: a signal begins by reading; one that goes on was covered by `advance`, and
  -- by `purge` if it comes to that.
  rcases reached_cases hreached with ⟨t, m, rfl, rfl⟩ | ⟨i, o, h₀, rfl, hh₀, hadvance⟩
  · obtain ⟨first, rest, -, rfl⟩ := receive_suspends hnext
    trivial
  · rw [stepMessage_resume hh₀] at hmessage
    obtain rfl := Option.some.inj hmessage
    have hmem := List.mem_of_getElem? hh₀
    have hhonoured := hw.honoured h₀ hmem
    have htells := hw.handlers h₀ hmem
    obtain ⟨after, next⟩ := r
    obtain rfl : (advance w.service h₀ o).1 = after := (congrArg Prod.fst hadvance).symm
    have hto : (advance w.service h₀ o).2 = next := (congrArg Prod.snd hadvance).symm
    cases next with
    | done => cases hnext
    | callPurge =>
      -- Out of the slot the object is as the handler left it.
      rcases advance_callPurge hto with ⟨hslot, hsame⟩ | hnokey
      · have hdecided : decided w.service (.resume i o) = some w.service.purge := by
          unfold decided
          rw [hreached, hsame]
          rfl
        rw [hsame] at hnext ⊢
        obtain ⟨call, rfl, version, hnames, hrow⟩ := tells_callPurge hhonoured htells hslot
          (htruthful.own h₀ hh₀ _ hdecided) hnext
        refine ⟨version, hnames, ?_⟩
        rw [proceed_latch]
        exact hrow
      -- Every extraction of the history has a key.
      · obtain ⟨b, version, -, hkey⟩ := hinOrder.names hhonoured.delivered
        rw [hkey] at hnokey
        cases hnokey
    | await next =>
      obtain rfl := Option.some.inj hnext
      exact tells_advance hhonoured htells hto

/-- The rows of the extractions settled before keep telling. -/
theorem tells_outcome (hinOrder : InOrder messages) (hw : Tells messages w)
    (htruthful : Truthful ext refresh w a) (hstep : step ext refresh w.service a = some s')
    {b : Instant} {vetoed : Bool} (hb : w.outcomes.lookup b = some vetoed) :
    ∃ version row, Names messages b version ∧ s'.latch.lookup version = some row ∧
      (row.Nonempty ↔ vetoed = true) := by
  obtain ⟨version, row, hnames, hrow, htells⟩ := hw.outcomes b vetoed hb
  rcases row_step hinOrder hw.honoured hstep hnames hrow with
    hsame | ⟨h, added, hrecording, hadded, hboundary, hmore⟩
  · exact ⟨version, row, hnames, hsame, htells⟩
  · have hopen := (htruthful.recorded _ hrecording hadded b hboundary).1
    have hvetoed : vetoed = true := by
      cases vetoed with
      | true => rfl
      | false => exact absurd hb hopen
    exact ⟨version, row ∪ added, hnames, hmore,
      iff_of_true (hadded.mono Finset.subset_union_right) hvetoed⟩

/-- The row of an extraction that is settled now tells how. -/
theorem tells_verdict (hinOrder : InOrder messages) (hw : Tells messages w)
    (htruthful : Truthful ext refresh w a) (hstep : step ext refresh w.service a = some s')
    {b : Instant} {vetoed : Bool} (hverdict : verdict w.service a = some (b, vetoed)) :
    ∃ version row, Names messages b version ∧ s'.latch.lookup version = some row ∧
      (row.Nonempty ↔ vetoed = true) := by
  -- Decided by a veto, or settled by a purge that completes.
  obtain ⟨i, o, h, rfl, hh, hsettles⟩ := verdict_eq_some hverdict
  have hmem := List.mem_of_getElem? hh
  have htells := hw.handlers h hmem
  have hhonoured := hw.honoured h hmem
  rcases hsettles with ⟨rfl, p, hdecided, hboundary, hveto, hlatched, hunsettled⟩ |
    ⟨rfl, hfinishing⟩
  · -- A veto is for a mark, and the handler's row holds one by then.
    have hnamed := htruthful.own h hh p hdecided hunsettled
    have hmarked : p.deadLettered.Nonempty := by
      by_contra hnone
      have hnone := Finset.not_nonempty_iff_eq_empty.mp hnone
      have hcounts := htruthful.counts p hdecided hunsettled hnone
      exact hveto (StaleChildRowPurge.vetoReason_eq_none.mpr ⟨hlatched, hunsettled, hnone, hcounts⟩)
    obtain ⟨r, hreached, hcall, rfl⟩ := decided_eq_some hdecided
    obtain ⟨h₀, hh₀, rfl⟩ := Option.map_eq_some_iff.mp hreached
    obtain rfl : h = h₀ := Option.some.inj (hh.symm.trans hh₀)
    -- Its row is written by the time it decides, and every mark it had is in it.
    rcases advance_callPurge hcall with ⟨hslot, hsame⟩ | hnokey
    · unfold Handler.Tells at htells
      rw [hslot] at htells
      obtain ⟨version, row, hkey, hrow, hmarks⟩ := htells
      rw [hsame] at hmarked
      have hnames : Names messages b version :=
        ⟨h.message, hhonoured.delivered, hnamed.symm.trans hboundary, hkey⟩
      rcases row_step hinOrder hw.honoured hstep hnames hrow with hrow | ⟨-, added, -, -, -, hmore⟩
      · exact ⟨version, row, hnames, hrow, iff_of_true (hmarks hmarked) rfl⟩
      · exact ⟨version, row ∪ added, hnames, hmore,
          iff_of_true ((hmarks hmarked).mono Finset.subset_union_left) rfl⟩
    · obtain ⟨b', version, -, hkey⟩ := hinOrder.names hhonoured.delivered
      rw [hkey] at hnokey
      cases hnokey
  · -- A purge that completes has found its row empty, and nothing was recorded since.
    obtain ⟨call, deleted, hpurging, rfl⟩ := finishing_eq_some hfinishing
    unfold Handler.Tells at htells
    rw [hpurging] at htells
    obtain ⟨version, hnames, hrow⟩ := htells
    rcases row_step hinOrder hw.honoured hstep hnames hrow with
      hsame | ⟨h', added, hrecording, -⟩
    · refine ⟨version, ∅, hnames, hsame, iff_of_false Finset.not_nonempty_empty ?_⟩
      exact Bool.false_ne_true
    -- The handler on the step is deleting, not recording.
    · obtain ⟨version', vetoed', hrecords⟩ := recording_eq_some hh hrecording
      rw [hpurging] at hrecords
      cases hrecords

/-- **One truthful step keeps the rows telling.** -/
theorem tells_step (hinOrder : InOrder messages) (hdelivered : ∀ m ∈ signalsOf [a], m ∈ messages)
    (hw : Tells messages w) (htruthful : Truthful ext refresh w a)
    (h : watchedStep ext refresh w a = some w') : Tells messages w' := by
  obtain ⟨s', hstep, rfl⟩ := Option.map_eq_some_iff.mp h
  refine ⟨?_, ?_, ?_⟩
  · exact honoured_step hinOrder.oneKey hdelivered hw.honoured htruthful.orderly hstep
  -- A handler after the step was there before, or is the one on the step.
  · intro h' hh'
    rcases step_handlers hstep hh' with hother |
      ⟨r, message, awaiting, handlers, hreached, hmessage, hnext, rfl, rfl⟩
    · exact tells_others hinOrder hw htruthful hstep hother
    · exact tells_acted hinOrder hw htruthful hreached hmessage hnext
  -- The outcomes: the one decided on this step, if any, and the earlier ones, whose rows keep telling.
  · intro b vetoed hb
    dsimp only at hb
    cases hverdict : verdict w.service a with
    | none =>
      rw [hverdict] at hb
      exact tells_outcome hinOrder hw htruthful hstep hb
    | some settles =>
      obtain ⟨b', vetoed'⟩ := settles
      rw [hverdict] at hb
      dsimp only at hb
      rw [Table.lookup_insert_eq] at hb
      -- An extraction that is decided again has the later verdict told.
      split at hb
      · rename_i hsame
        obtain rfl := Option.some.inj hb
        subst hsame
        exact tells_verdict hinOrder hw htruthful hstep hverdict
      · exact tells_outcome hinOrder hw htruthful hstep hb

end Tells

/-! ## The count tells the truth -/

/-- The version of an extraction, from its signals. -/
def versionOf (messages : List Json) (b : Instant) : String :=
  ((messages.find? fun m => decide (signalled m = some b)).bind extractionKey).getD ""

/-- The version of a boundary is the one its signals name. -/
theorem versionOf_eq {messages : List Json} (hinOrder : InOrder messages) {b : Instant}
    {version : String} (hnames : Names messages b version) : versionOf messages b = version := by
  obtain ⟨m, hm, hb, hversion⟩ := hnames
  unfold versionOf
  cases hfind : messages.find? fun m => decide (signalled m = some b) with
  | none =>
    have hnot := List.find?_eq_none.mp hfind m hm
    simp [hb] at hnot
  | some m' =>
    have hm' := List.mem_of_find?_eq_some hfind
    have hfound := List.find?_some hfind
    have hb' : signalled m' = some b := of_decide_eq_true hfound
    obtain ⟨b'', version', hb'', hversion'⟩ := hinOrder.names hm'
    obtain rfl : b = b'' := Option.some.inj (hb'.symm.trans hb'')
    have hsame := (hinOrder.eq_iff ⟨m', hm', hb', hversion'⟩ ⟨m, hm, hb, hversion⟩).mp rfl
    rw [Option.bind_some, hversion', Option.getD_some, hsame]

/-- The loop counts the rows before the first empty one. -/
theorem countVetoed_eq (rows : List (Finset DataType)) :
    countVetoed rows = (rows.takeWhile fun vetoed => decide (vetoed ≠ ∅)).length := by
  induction rows with
  | nil => rfl
  | cons vetoed rows ih =>
    unfold countVetoed
    by_cases hnone : vetoed = ∅
    · simp [hnone]
    · simp [hnone, ih]

/-- Two tests that agree on a list count alike. -/
theorem takeWhile_congr {α : Type} {p q : α → Bool} {l : List α} (h : ∀ x ∈ l, p x = q x) :
    l.takeWhile p = l.takeWhile q := by
  induction l with
  | nil => rfl
  | cons x l ih =>
    rw [List.takeWhile_cons, List.takeWhile_cons, h x List.mem_cons_self,
      ih fun y hy => h y (List.mem_cons_of_mem x hy)]

/-- **The count of consecutive vetoes tells the truth.**  In a history whose extractions have their
    versions in the order of their starts, and whose every step is truthful: once each extraction that
    has a row is settled, `consecutive_vetoes` is the number of the latest settled extractions in a row
    whose purge was vetoed. -/
theorem veto_count_tells_the_truth (ext : Externals) (refresh : Bool) (w₀ w : Watched)
    (actions : List Action) (hfresh : w₀.service.handlers = [] ∧ w₀.service.latch = ∅ ∧ w₀.outcomes = ∅)
    (hinOrder : InOrder (signalsOf actions))
    (htruthful : Runs.Meets (watchedStep ext refresh) (Truthful ext refresh) w₀ actions)
    (hrun : Runs.run (watchedStep ext refresh) w₀ actions = some w)
    (hall : ∀ version ∈ w.service.latch, ∃ b ∈ w.outcomes,
      Names (signalsOf actions) b version) :
    consecutiveVetoes w.service.latch = vetoedInARow w.outcomes := by
  obtain ⟨hnone, hlatch, houtcomes⟩ := hfresh
  have hw : Tells (signalsOf actions) w := by
    refine htruthful.invariant_mem (Tells (signalsOf actions)) ?_ ?_ hrun
    · intro a ha w₁ w₂ hw₁ hok hstep
      refine tells_step hinOrder ?_ hw₁ hok hstep
      intro m hm
      obtain ⟨a', ha', heq⟩ := List.mem_filterMap.mp hm
      obtain rfl := List.mem_singleton.mp ha'
      exact List.mem_filterMap.mpr ⟨a', ha, heq⟩
    · refine ⟨?_, ?_, ?_⟩
      · rw [hnone]
        exact fun h hh => (nomatch hh)
      · rw [hnone]
        exact fun h hh => (nomatch hh)
      · rw [houtcomes]
        exact fun b vetoed hb => (nomatch hb)
  -- The rows are those of the settled extractions, in the order of their starts.
  have hversion (b : Instant) (hb : b ∈ w.outcomes) :
      Names (signalsOf actions) b (versionOf (signalsOf actions) b) := by
    obtain ⟨vetoed, hvetoed⟩ := Option.ne_none_iff_exists'.mp
      (fun h => Finmap.lookup_eq_none.mp h hb)
    obtain ⟨version, -, hnames, -⟩ := hw.outcomes b vetoed hvetoed
    rw [versionOf_eq hinOrder hnames]
    exact hnames
  have hkeys : w.outcomes.keysDesc.map (versionOf (signalsOf actions)) =
      w.service.latch.keysDesc := by
    refine Table.map_keysDesc ?_ ?_
    · intro b hb b' hb' hlt
      exact (hinOrder.lt_iff (hversion b hb) (hversion b' hb')).mp hlt
    · intro version
      constructor
      · intro hrow
        obtain ⟨b, hb, hnames⟩ := hall version hrow
        exact ⟨b, hb, versionOf_eq hinOrder hnames⟩
      · rintro ⟨b, hb, rfl⟩
        obtain ⟨vetoed, hvetoed⟩ := Option.ne_none_iff_exists'.mp
          (fun h => Finmap.lookup_eq_none.mp h hb)
        obtain ⟨version, row, hnames, hrow, -⟩ := hw.outcomes b vetoed hvetoed
        rw [versionOf_eq hinOrder hnames]
        exact Finmap.mem_of_lookup_eq_some hrow
  unfold consecutiveVetoes vetoedInARow
  rw [countVetoed_eq, ← hkeys, List.map_map, List.takeWhile_map, List.length_map]
  refine congrArg List.length (takeWhile_congr ?_)
  intro b hb
  have hb := Table.mem_keysDesc.mp hb
  obtain ⟨vetoed, hvetoed⟩ := Option.ne_none_iff_exists'.mp
    (fun h => Finmap.lookup_eq_none.mp h hb)
  obtain ⟨version, row, hnames, hrow, htells⟩ := hw.outcomes b vetoed hvetoed
  have hfound : (w.service.latch.lookup (versionOf (signalsOf actions) b)).getD ∅ = row := by
    rw [versionOf_eq hinOrder hnames, hrow]
    rfl
  show decide ((w.service.latch.lookup (versionOf (signalsOf actions) b)).getD ∅ ≠ ∅) =
    decide (w.outcomes.lookup b = some true)
  rw [hfound, hvetoed, decide_eq_decide, ← Finset.nonempty_iff_ne_empty, htells, Option.some.injEq]

/-- The service before its first extraction. -/
def unwatched : Watched := ⟨{}, ∅⟩

/-- The starts of January's and February's extractions. -/
def januaryStart : Instant := 63839750400000000

def februaryStart : Instant := 63842428800000000

/-- January's extraction is purged; a dead letter comes, and vetoes February's. -/
def purgedThenVetoed : List Action :=
  januarySignals ++ answered 0 25 ++ .otherDeadLetters "labels" 1 :: februarySignals ++ answered 0 17

theorem veto_count_of_february :
    ∃ w, Runs.run (watchedStep Records.sampleExternals true) unwatched purgedThenVetoed = some w ∧
      w.outcomes.lookup januaryStart = some false ∧
      w.outcomes.lookup februaryStart = some true ∧
      consecutiveVetoes w.service.latch = vetoedInARow w.outcomes := by
  have hruns : ((Runs.run (watchedStep Records.sampleExternals true) unwatched
      purgedThenVetoed).map fun w => decide (
        Runs.Meets (watchedStep Records.sampleExternals true) (Truthful Records.sampleExternals true)
          unwatched purgedThenVetoed ∧
        w.outcomes.lookup januaryStart = some false ∧
        w.outcomes.lookup februaryStart = some true ∧
        (∀ version ∈ w.service.latch.keys, ∃ b ∈ w.outcomes.keys,
          ∃ m ∈ signalsOf purgedThenVetoed, signalled m = some b ∧
            extractionKey m = some version))) = some true := by
    decide +kernel
  obtain ⟨w, hrun, hruns⟩ := Option.map_eq_some_iff.mp hruns
  obtain ⟨htruthful, hjanuary, hfebruary, hall⟩ := of_decide_eq_true hruns
  -- What the theorem asks is decidable, and evaluated with the run.
  refine ⟨w, hrun, hjanuary, hfebruary, ?_⟩
  refine veto_count_tells_the_truth Records.sampleExternals true unwatched w purgedThenVetoed
    ⟨rfl, rfl, rfl⟩ (by decide +kernel) htruthful hrun ?_
  intro version hversion
  obtain ⟨b, hb, hnames⟩ := hall version (Finmap.mem_keys.mpr hversion)
  exact ⟨b, Finmap.mem_keys.mp hb, hnames⟩

/-- February's signals, the labels' without a record. -/
def emptyFebruary : List Action :=
  Purge.MUSICBRAINZ_DATA_TYPES.map (fun t => .signal t
    (.obj [("record_counts", .obj [(t, .int (if t = "labels" then 0 else 1))]),
      ("started_at", .str "2024-02-01T00:00:00Z"), ("type", .str "extraction_complete"),
      ("version", .str "20240201")])) ++ answered 0 17

/-- Its purge is vetoed for the labels' record count, and its row holds no veto. -/
theorem veto_count_misses_a_record_count :
    InOrder (signalsOf emptyFebruary) ∧
    ∃ w, Runs.run (watchedStep Records.sampleExternals true) unwatched emptyFebruary = some w ∧
      w.service.handlers = [] ∧ w.outcomes.lookup februaryStart = some true ∧
      (∀ version ∈ w.service.latch, ∃ b ∈ w.outcomes, Names (signalsOf emptyFebruary) b version) ∧
      consecutiveVetoes w.service.latch = 0 ∧ vetoedInARow w.outcomes = 1 := by
  -- The row is empty because no type was marked, and the purge is vetoed for the counts.
  refine ⟨by decide +kernel, ?_⟩
  have hruns : ((Runs.run (watchedStep Records.sampleExternals true) unwatched
      emptyFebruary).map fun w => decide (w.service.handlers.length = 0 ∧
        w.service.latch = (∅ : Table String (Finset DataType)).insert "20240201" ∅ ∧
        w.outcomes = (∅ : Table Instant Bool).insert februaryStart true ∧
        (∀ version ∈ w.service.latch.keys, ∃ b ∈ w.outcomes.keys,
          ∃ m ∈ signalsOf emptyFebruary, signalled m = some b ∧
            extractionKey m = some version))) = some true := by
    decide +kernel
  obtain ⟨w, hrun, hruns⟩ := Option.map_eq_some_iff.mp hruns
  obtain ⟨hnone, hlatch, houtcomes, hall⟩ := of_decide_eq_true hruns
  refine ⟨w, hrun, List.length_eq_zero_iff.mp hnone, ?_, ?_, ?_, ?_⟩
  · rw [houtcomes]
    exact Finmap.lookup_insert _
  · intro version hversion
    obtain ⟨b, hb, hnames⟩ := hall version (Finmap.mem_keys.mpr hversion)
    exact ⟨b, Finmap.mem_keys.mp hb, hnames⟩
  · rw [hlatch]
    unfold consecutiveVetoes
    rw [Table.keysDesc_single]
    rfl
  · rw [houtcomes]
    unfold vetoedInARow
    rw [Table.keysDesc_single]
    simp [Finmap.lookup_insert]

end Service
