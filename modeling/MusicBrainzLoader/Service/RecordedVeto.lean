/-
  A recorded veto, and the purge that must honour it.

  A handler reads the vetoes recorded for ITS message's extraction, and then starts a purge of the
  COLLECTED boundary, whose marks every purge shares.  Both can part from what it read:

  * another extraction's signals may have moved the boundary, or a straggler of an older extraction
    may have come this far while a newer boundary is collected;
  * a purge of another boundary may have finished in between, and settling clears every mark.

  `Orderly` rules out the two, step by step, and in an orderly run a purge honours the latch row of the
  boundary it decides.  The invariant (`KeepsVeto`) follows one handler: from the moment it has read
  its row, the row's vetoes are remembered, by a mark or by the boundary being settled.

  The difficulty is that the row, the marks and the boundary are three places, written at different
  times.  Between a handler's read of its row and its call of `purge` lie the end of the transaction
  it read in, the writing of the row and the leaving of the slot, and at each of these awaits
  another handler can run.  So "the row holds a veto, hence the purge is vetoed" goes through what
  the handler knows: from its read on (`Handler.primed`) the row's vetoes are first its own and then
  marks of the object.  A mark is only lost by settling, and that is where the second half of
  `Orderly` comes in.
-/
import MusicBrainzLoader.Service.Machine

namespace Service

open Purge (DataType StaleChildRowPurge)
open Records (Database Externals Instant)

/-! ## The condition -/

/-- A handler that has read its latch row and not started its purge. -/
def Handler.primed (h : Handler) : Bool :=
  match h.awaiting with
  | .vetoesRead _ _ | .recordExtraction _ _ | .leaveSlot => true
  | _ => false

/-- A handler starts an unvetoed purge only of the boundary its own signal names, and a boundary is
    settled only while every other handler that has read its row names that boundary too. -/
def Orderly (s : State) (a : Action) : Prop :=
  (∀ h ∈ actor s a, ∀ p ∈ decided s a, p.vetoReason config = none →
    p.boundary = signalled h.message) ∧
  (∀ b ∈ settled s a, ∀ h ∈ others s a, h.primed = true → signalled h.message = some b)

instance (s : State) (a : Action) : Decidable (Orderly s a) := inferInstanceAs (Decidable (_ ∧ _))

/-- The signals among some actions. -/
def signalsOf (actions : List Action) : List Json :=
  actions.filterMap fun
    | .signal _ message => some message
    | _ => none

/-- Usable signals name one boundary exactly when they carry one extraction key. -/
def OneKey (messages : List Json) : Prop :=
  ∀ m ∈ messages, ∀ m' ∈ messages, signalled m ≠ none → signalled m' ≠ none →
    (signalled m = signalled m' ↔ extractionKey m = extractionKey m')

instance (messages : List Json) : Decidable (OneKey messages) :=
  inferInstanceAs (Decidable (∀ m ∈ messages, ∀ m' ∈ messages, _))

/-! ## What a handler keeps -/

/-- The latch row of the version holds a veto. -/
def Vetoed (s : State) (version : String) : Prop := (s.recordedVetoes version).Nonempty

/-- A purge of the message's boundary would be vetoed: by a mark, or as already settled. -/
def Remembered (s : State) (message : Json) : Prop :=
  s.purge.deadLettered.Nonempty ∨ s.purge.settledBoundary = signalled message

/-- What a handler has read of its row is on its way into the object, or there. -/
def KeepsVeto (s : State) (h : Handler) : Prop :=
  match h.awaiting with
  | .slot version => extractionKey h.message = some version
  | .readVetoes version => extractionKey h.message = some version
  | .vetoesRead version vetoes => extractionKey h.message = some version ∧
    (Vetoed s version → vetoes.Nonempty ∨ Remembered s h.message)
  | .recordExtraction version vetoed => extractionKey h.message = some version ∧
    (Vetoed s version ∨ vetoed.Nonempty → Remembered s h.message)
  | .leaveSlot => ∀ version, extractionKey h.message = some version → Vetoed s version →
    Remembered s h.message
  | _ => True

/-- The invariant of a handler. -/
structure Honoured (messages : List Json) (s : State) (h : Handler) : Prop where
  delivered : h.message ∈ messages
  usable : signalled h.message ≠ none
  keeps : KeepsVeto s h

/-- What keeps a handler's row in mind, when another task runs. -/
theorem keepsVeto_frame {s s' : State} {h : Handler} (hkeeps : KeepsVeto s h)
    (hremembered : h.primed = true → Remembered s h.message → Remembered s' h.message)
    (hrow : ∀ version, extractionKey h.message = some version → Vetoed s' version →
      Vetoed s version ∨ Remembered s h.message) : KeepsVeto s' h := by
  obtain ⟨message, awaiting⟩ := h
  cases awaiting with
  -- Between the read and the mark the handler has what was read in hand; a row that is vetoed since
  -- then is one whose veto is remembered.
  | vetoesRead version vetoes =>
    obtain ⟨hkey, hveto⟩ := hkeeps
    refine ⟨hkey, fun hvetoed => ?_⟩
    rcases hrow version hkey hvetoed with hvetoed | hremember
    · rcases hveto hvetoed with hvetoes | hremember
      · exact Or.inl hvetoes
      · exact Or.inr (hremembered rfl hremember)
    · exact Or.inr (hremembered rfl hremember)
  -- What it is about to write is the veto, whoever finds the row afterwards.
  | recordExtraction version vetoed =>
    obtain ⟨hkey, hveto⟩ := hkeeps
    refine ⟨hkey, fun hvetoed => ?_⟩
    rcases hvetoed with hvetoed | hvetoed
    · rcases hrow version hkey hvetoed with hvetoed | hremember
      · exact hremembered rfl (hveto (Or.inl hvetoed))
      · exact hremembered rfl hremember
    · exact hremembered rfl (hveto (Or.inr hvetoed))
  -- Written: nothing is left in hand, and the object remembers.
  | leaveSlot =>
    intro version hkey hvetoed
    rcases hrow version hkey hvetoed with hvetoed | hremember
    · exact hremembered rfl (hkeeps version hkey hvetoed)
    · exact hremembered rfl hremember
  | slot version => exact hkeeps
  | readVetoes version => exact hkeeps
  | _ => trivial

/-! ## What a step does to the latch -/

section Step

variable {ext : Externals} {refresh : Bool} {s s' : State} {a : Action} {messages : List Json}

/-- A handler's code writes its row, or leaves the latch alone. -/
theorem advance_latch (s : State) (h : Handler) (outcome : Outcome) :
    (advance s h outcome).1.latch = s.latch ∨
    ∃ version vetoed, h.awaiting = .recordExtraction version vetoed ∧
      outcome ≠ .raised ∧
      (advance s h outcome).1 = s.recordExtraction version vetoed := by
  obtain ⟨message, awaiting⟩ := h
  have hadvances := advances s message awaiting outcome
  generalize advance s ⟨message, awaiting⟩ outcome = r at hadvances ⊢
  cases hadvances with
  | recorded | recordLost => exact Or.inr ⟨_, _, rfl, Outcome.noConfusion, rfl⟩
  | _ => exact Or.inl rfl

/-- A signal writes no row. -/
theorem receive_latch (s : State) (t : DataType) (message : Json) :
    (receive s t message).1.latch = s.latch := by
  rw [receive_eq]

/-- Nor does what follows a stretch of a handler. -/
theorem proceed_latch (r : State × Next) : (proceed r).1.latch = r.1.latch := by
  obtain ⟨s, next⟩ := r
  cases next with
  | callPurge =>
    show (callPurge s).1.latch = s.latch
    unfold callPurge
    split <;> rfl
  | _ => rfl

/-- Only a handler recording its extraction writes the latch, and it writes its own row. -/
theorem step_latch (h : step ext refresh s a = some s') :
    s'.latch = s.latch ∨
    ∃ i o h₀ version vetoed, a = .resume i o ∧ s.handlers[i]? = some h₀ ∧ o ≠ .raised ∧
      h₀.awaiting = .recordExtraction version vetoed ∧
      s'.latch = (s.recordExtraction version vetoed).latch := by
  rcases step_cases h with ⟨i, event, d, rfl, -, hstep⟩ | ⟨r, message, handlers, hreached, -, rfl, -⟩ |
    ⟨t, n, -, rfl⟩ | ⟨-, rfl⟩
  · exact Or.inl (recordStep_frame hstep).2.2
  · have hproceed : (proceed r).1.latch = r.1.latch := proceed_latch r
    rcases reached_cases hreached with ⟨t, m, rfl, rfl⟩ | ⟨i, o, h₀, rfl, hh₀, rfl⟩
    · exact Or.inl (hproceed.trans (receive_latch s t m))
    · rcases advance_latch s h₀ o with hsame | ⟨version, vetoed, hawaiting, ho, hwritten⟩
      · exact Or.inl (hproceed.trans hsame)
      · refine Or.inr ⟨i, o, h₀, version, vetoed, rfl, hh₀, ho, hawaiting, ?_⟩
        exact hproceed.trans (congrArg State.latch hwritten)
  · exact Or.inl rfl
  · exact Or.inl rfl

/-- The row of a version, after a handler has recorded another one or this one. -/
theorem recordedVetoes_recordExtraction (s : State) (version version' : String)
    (vetoed : Finset DataType) :
    (s.recordExtraction version vetoed).recordedVetoes version' =
      if version' = version then s.recordedVetoes version ∪ vetoed else s.recordedVetoes version' := by
  show ((s.latch.insert version (s.recordedVetoes version ∪ vetoed)).lookup version').getD ∅ = _
  rw [Table.lookup_insert_eq]
  split <;> rfl

/-- A veto that appears in a row was held by the handler that recorded it, and so is remembered. -/
theorem vetoed_step (honeKey : OneKey messages)
    (hinv : ∀ h ∈ s.handlers, Honoured messages s h) (hstep : step ext refresh s a = some s')
    {m : Json} (hm : m ∈ messages) (husable : signalled m ≠ none) {version : String}
    (hkey : extractionKey m = some version) (hvetoed : Vetoed s' version) :
    Vetoed s version ∨ Remembered s m := by
  rcases step_latch hstep with hsame | ⟨i, o, h₀, version₀, vetoed, rfl, hh₀, -, hawaiting, hwritten⟩
  -- Only a handler's own write touches the rows.
  · refine Or.inl ?_
    unfold Vetoed State.recordedVetoes at hvetoed ⊢
    rw [hsame] at hvetoed
    exact hvetoed
  · obtain ⟨hdelivered, husable₀, hkeeps⟩ := hinv h₀ (List.mem_of_getElem? hh₀)
    unfold KeepsVeto at hkeeps
    rw [hawaiting] at hkeeps
    obtain ⟨hkey₀, hremember⟩ := hkeeps
    -- The row that was written: if it is the message's, the two have one key, so one boundary, and the
    -- handler remembers what it wrote.
    have hrow : s'.recordedVetoes version = (s.recordExtraction version₀ vetoed).recordedVetoes version := by
      unfold State.recordedVetoes
      rw [hwritten]
    unfold Vetoed at hvetoed ⊢
    rw [hrow, recordedVetoes_recordExtraction] at hvetoed
    split at hvetoed
    · rename_i hsame
      subst hsame
      have hboundary : signalled m = signalled h₀.message :=
        (honeKey m hm h₀.message hdelivered husable husable₀).mpr (hkey.trans hkey₀.symm)
      rcases Finset.union_nonempty.mp hvetoed with hvetoed | hvetoed
      · exact Or.inl hvetoed
      · refine Or.inr ?_
        unfold Remembered
        rw [hboundary]
        exact hremember (Or.inr hvetoed)
    · exact Or.inl hvetoed

/-- The handlers a step leaves alone keep their rows in mind. -/
theorem honoured_others (honeKey : OneKey messages)
    (hinv : ∀ h ∈ s.handlers, Honoured messages s h) (horderly : Orderly s a)
    (hstep : step ext refresh s a = some s') {h : Handler} (hmem : h ∈ others s a) :
    Honoured messages s' h := by
  obtain ⟨hdelivered, husable, hkeeps⟩ := hinv h (others_subset hmem)
  refine ⟨hdelivered, husable, keepsVeto_frame hkeeps ?_ ?_⟩
  · intro hprimed hremembered
    rcases step_purge hstep with rfl | ⟨b, hsettled, hafter⟩ | ⟨-, hsettled, hmarks⟩
    · cases hmem
    · -- The boundary settled is the handler's own.
      have hown := horderly.2 b hsettled h hmem hprimed
      exact Or.inr (hafter.trans hown.symm)
    · rcases hremembered with hmarked | hsame
      · exact Or.inl (hmarked.mono hmarks)
      · exact Or.inr (hsettled.trans hsame)
  · intro version hkey hvetoed
    exact vetoed_step honeKey hinv hstep hdelivered husable hkey hvetoed

/-- The loop over the dead-letter queues asks for the slot with the message's own key. -/
theorem keepsVeto_gather {message : Json} {rest : List DataType} {awaiting : HandlerAwait}
    (h : gather message rest = .await awaiting) (s : State) : KeepsVeto s ⟨message, awaiting⟩ := by
  rcases gather_eq_await h with ⟨t, later, rfl⟩ | ⟨version, hkey, rfl⟩
  · trivial
  · exact hkey

/-- A handler's next await keeps what it has read of its row. -/
theorem keepsVeto_advance {h : Handler} {outcome : Outcome} {awaiting : HandlerAwait}
    (hkeeps : KeepsVeto s h) (hnext : (proceed (advance s h outcome)).2 = some awaiting) :
    KeepsVeto (proceed (advance s h outcome)).1 ⟨h.message, awaiting⟩ := by
  obtain ⟨message, awaiting₀⟩ := h
  have hadvances := advances s message awaiting₀ outcome
  generalize advance s ⟨message, awaiting₀⟩ outcome = r at hadvances hnext ⊢
  -- Calling `purge` ends the handler's part: nothing is asked of a handler that is deleting.
  have hcall {t : State} (hstep : (callPurge t).2 = some awaiting) (s' : State) :
      KeepsVeto s' ⟨message, awaiting⟩ := by
    obtain ⟨-, call, rfl, -⟩ := callPurge_await hstep
    trivial
  -- The next queue, or the key's row, or no key at all.
  have hgather {t : State} {rest : List DataType}
      (hstep : (proceed (t, gather message rest)).2 = some awaiting) (s' : State) :
      KeepsVeto s' ⟨message, awaiting⟩ := by
    -- With queues to read it goes on reading; with none it goes for the row, or straight to `purge`.
    cases hg : gather message rest with
    | await next =>
      rw [hg] at hstep
      obtain rfl := Option.some.inj hstep
      exact keepsVeto_gather hg s'
    | callPurge =>
      rw [hg] at hstep
      exact hcall hstep s'
    | done =>
      rw [hg] at hstep
      cases hstep
  cases hadvances with
  | opened | counted | uncounted | suspended =>
    obtain rfl := Option.some.inj hnext
    trivial
  | unopened | empty | waiting => exact hgather hnext _
  | held =>
    obtain rfl := Option.some.inj hnext
    exact hkeeps
  | read =>
    obtain rfl := Option.some.inj hnext
    exact ⟨hkeeps, fun hvetoed => Or.inl hvetoed⟩
  | marked =>
    obtain rfl := Option.some.inj hnext
    obtain ⟨hkey, hveto⟩ := hkeeps
    refine ⟨hkey, ?_⟩
    -- The marks it made are its own and the ones read, and the row is to hold them all.
    rintro (hvetoed | hmarked)
    · rcases hveto hvetoed with hvetoes | hmarked | hsame
      · exact Or.inl (hvetoes.mono Finset.subset_union_left)
      · exact Or.inl (hmarked.mono Finset.subset_union_right)
      · exact Or.inr hsame
    · exact Or.inl hmarked
  | @recorded version vetoed =>
    obtain rfl := Option.some.inj hnext
    obtain ⟨hkey, hremember⟩ := hkeeps
    -- What the row holds now is what it held with what was written, and either is remembered.
    intro version' hkey' hvetoed
    obtain rfl : version = version' := Option.some.inj (hkey.symm.trans hkey')
    have hrow : (s.recordedVetoes version ∪ vetoed).Nonempty := by
      have hafter := recordedVetoes_recordExtraction s version version vetoed
      rw [if_pos rfl] at hafter
      rw [← hafter]
      exact hvetoed
    exact hremember (Finset.union_nonempty.mp hrow)
  | left => exact hcall hnext _
  | recordLost | finished | commitLost | raised => cases hnext

/-- A collection that is latched was named by a usable signal: an unusable one drops it. -/
theorem receive_await {t : DataType} {m : Json} {awaiting : HandlerAwait}
    (h : (proceed (receive s t m)).2 = some awaiting) : signalled m ≠ none := by
  intro hunusable
  have hdropped : (s.purge.recordCompletion t m).isLatched config = false := by
    rcases StaleChildRowPurge.recordCompletion_cases s.purge t m with ⟨-, hrecord⟩ | ⟨b, hb, -⟩
    · rw [hrecord]
      rfl
    · rw [signalled, hb] at hunusable
      cases hunusable
  unfold receive at h
  dsimp only at h
  rw [hdropped] at h
  cases h

/-- **One step keeps every handler's row in mind.** -/
theorem honoured_step (honeKey : OneKey messages) (hdelivered : ∀ m ∈ signalsOf [a], m ∈ messages)
    (hinv : ∀ h ∈ s.handlers, Honoured messages s h) (horderly : Orderly s a)
    (hstep : step ext refresh s a = some s') : ∀ h ∈ s'.handlers, Honoured messages s' h := by
  intro h' hh'
  rcases step_handlers hstep hh' with hother |
    ⟨r, message, awaiting, handlers, hreached, hmessage, hnext, rfl, rfl⟩
  · exact honoured_others honeKey hinv horderly hstep hother
  · have hsame (hkeeps : KeepsVeto (proceed r).1 ⟨message, awaiting⟩) :
        KeepsVeto { (proceed r).1 with handlers } ⟨message, awaiting⟩ :=
      keepsVeto_frame hkeeps (fun _ hremembered => hremembered) fun _ _ hvetoed => Or.inl hvetoed
    rcases reached_cases hreached with ⟨t, m, rfl, rfl⟩ | ⟨i, o, h₀, rfl, hh₀, rfl⟩
    · obtain rfl := Option.some.inj hmessage
      refine ⟨hdelivered m (by simp [signalsOf]), receive_await hnext, hsame ?_⟩
      obtain ⟨first, rest, -, rfl⟩ := receive_suspends hnext
      trivial
    · rw [stepMessage_resume hh₀] at hmessage
      obtain rfl := Option.some.inj hmessage
      obtain ⟨hdelivered₀, husable₀, hkeeps₀⟩ := hinv h₀ (List.mem_of_getElem? hh₀)
      exact ⟨hdelivered₀, husable₀, hsame (keepsVeto_advance hkeeps₀ hnext)⟩

/-- A handler purges from its slot, or, without an extraction key, from its last queue. -/
theorem advance_callPurge {h : Handler} {outcome : Outcome}
    (hcall : (advance s h outcome).2 = .callPurge) :
    (h.awaiting = .leaveSlot ∧ (advance s h outcome).1 = s) ∨ extractionKey h.message = none := by
  obtain ⟨message, awaiting⟩ := h
  have hadvances := advances s message awaiting outcome
  generalize advance s ⟨message, awaiting⟩ outcome = r at hadvances hcall ⊢
  cases hadvances with
  | left => exact Or.inl ⟨rfl, rfl⟩
  | unopened | empty | waiting => exact Or.inr (gather_eq_callPurge hcall)
  | _ => cases hcall

end Step

/-! ## Runs -/

/-- **A recorded veto is honoured** in every run whose steps are orderly and whose signals have one
    extraction key for each boundary: a purge that starts deciding a boundary while the latch row of
    its extraction holds a veto is vetoed. -/
theorem recorded_veto_is_honoured (ext : Externals) (refresh : Bool) (s₀ s : State)
    (actions : List Action) (a : Action) (p : StaleChildRowPurge) (m : Json) (boundary : Instant)
    (version : String) (hfresh : s₀.handlers = [])
    (honeKey : OneKey (signalsOf (actions ++ [a])))
    (horderly : Runs.Meets (step ext refresh) Orderly s₀ (actions ++ [a]))
    (hrun : Runs.run (step ext refresh) s₀ actions = some s)
    (hdecided : decided s a = some p) (hboundary : p.boundary = some boundary)
    (hm : m ∈ signalsOf (actions ++ [a])) (hnames : signalled m = some boundary)
    (hkey : extractionKey m = some version) (hvetoed : Vetoed s version) :
    ∃ reason q, Purge.start config p = .vetoed reason q := by
  -- Along the run every handler keeps to its message's veto; no handler of the start has one.
  have hinv : ∀ h ∈ s.handlers, Honoured (signalsOf (actions ++ [a])) s h := by
    refine horderly.prefix.invariant_mem
      (fun s => ∀ h ∈ s.handlers, Honoured (signalsOf (actions ++ [a])) s h) ?_ ?_ hrun
    · intro b hb s₁ s₂ hinv horder hstep
      refine honoured_step honeKey ?_ hinv horder hstep
      intro m' hm'
      obtain ⟨b', hb', heq⟩ := List.mem_filterMap.mp hm'
      obtain rfl := List.mem_singleton.mp hb'
      exact List.mem_filterMap.mpr ⟨b', List.mem_append_left _ hb, heq⟩
    · rw [hfresh]
      exact fun h hh => absurd hh List.not_mem_nil
  have hlast : Orderly s a := (horderly.suffix hrun).head
  have hveto : p.vetoReason config ≠ none := by
    intro hnone
    obtain ⟨-, hunsettled, hunmarked, -⟩ := StaleChildRowPurge.vetoReason_eq_none.mp hnone
    -- A purge decided without a veto comes from a signal, which collects first and is settled; or from
    -- a handler that has read everything, which by then remembers the veto.
    obtain ⟨r, hreached, hcall, rfl⟩ := decided_eq_some hdecided
    rcases reached_cases hreached with ⟨t, message, rfl, rfl⟩ | ⟨i, outcome, h, rfl, hh, rfl⟩
    · exact hunsettled (receive_callPurge hcall)
    · obtain ⟨hdelivered, husable, hkeeps⟩ := hinv h (List.mem_of_getElem? hh)
      have hown : some boundary = signalled h.message :=
        hboundary.symm.trans (hlast.1 h hh _ hdecided hnone)
      -- The handler's boundary is the message's, and one extraction has one key.
      have hmkey : extractionKey h.message = some version := by
        have husablem : signalled m ≠ none := by
          rw [hnames]
          exact Option.some_ne_none boundary
        rw [← hkey]
        exact (honeKey h.message hdelivered m hm husable husablem).mp (hown.symm.trans hnames.symm)
      rcases advance_callPurge hcall with ⟨hslot, hsame⟩ | hnokey
      · unfold KeepsVeto at hkeeps
        rw [hslot] at hkeeps
        rw [hsame] at hunsettled hunmarked hboundary
        -- The veto is remembered: it is a mark, or its boundary is settled. Either vetoes.
        rcases hkeeps version hmkey hvetoed with hmarked | hsettled
        · rw [hunmarked] at hmarked
          exact Finset.not_nonempty_empty hmarked
        · exact hunsettled (hsettled.trans (hown.symm.trans hboundary.symm))
      -- With no key to read it under the handler came straight from the queues, but the message has
      -- one.
      · rw [hmkey] at hnokey
        cases hnokey
  obtain ⟨reason, hreason⟩ := Option.ne_none_iff_exists'.mp hveto
  exact ⟨reason, _, Purge.start_eq_vetoed.mpr ⟨hreason, rfl⟩⟩

/-- All four signals of January's extraction. -/
def januarySignals : List Action :=
  Purge.MUSICBRAINZ_DATA_TYPES.map (signalOf "20240101" "2024-01-01T00:00:00Z")

/-- Two links, the first from before February's extraction, the second from after it. -/
def februaryLinks : Database where
  externalLinks := ((∅ : Table Records.ExternalLinkKey Records.ExternalLinkRow).insert
    Records.staleLink ⟨63840000000000000⟩).insert
      { Records.staleLink with serviceName := .str "wikidata" } ⟨63850000000000000⟩

/-- A dead letter waits when February's fourth signal latches: the veto is recorded, and honoured. -/
theorem recorded_veto_is_honoured_in_february :
    ∃ (s : State) (p : StaleChildRowPurge) (reason : StaleChildRowPurge.VetoReason)
      (q : StaleChildRowPurge),
      Runs.run (step Records.sampleExternals true) { db := februaryLinks }
        (.otherDeadLetters "labels" 1 :: februarySignals ++ answered 0 16) = some s ∧
      decided s (.resume 0 .answered) = some p ∧ Vetoed s "20240201" ∧
      Purge.start config p = .vetoed reason q := by
  -- 16 answers after the fourth signal: the dead letter is counted, the row written, and `purge` next.
  have hrun : ((Runs.run (step Records.sampleExternals true) { db := februaryLinks }
      (.otherDeadLetters "labels" 1 :: februarySignals ++ answered 0 16)).bind fun s =>
        (decided s (.resume 0 .answered)).map fun p =>
          decide (p.boundary = some 63842428800000000 ∧ (s.recordedVetoes "20240201").Nonempty)) =
            some true := by
    decide +kernel
  obtain ⟨s, hs, hrun⟩ := Option.bind_eq_some_iff.mp hrun
  obtain ⟨p, hp, hrun⟩ := Option.map_eq_some_iff.mp hrun
  obtain ⟨hboundary, hvetoed⟩ := of_decide_eq_true hrun
  obtain ⟨reason, q, hstart⟩ := recorded_veto_is_honoured Records.sampleExternals true
    { db := februaryLinks } s (.otherDeadLetters "labels" 1 :: februarySignals ++ answered 0 16)
    (.resume 0 .answered) p
    (.obj [("record_counts", .obj [("labels", .int 1)]),
      ("started_at", .str "2024-02-01T00:00:00Z"), ("type", .str "extraction_complete"),
      ("version", .str "20240201")])
    63842428800000000 "20240201" rfl (by decide +kernel) (by decide +kernel) hs hp hboundary
    (by decide +kernel) (by decide +kernel) (by decide +kernel) hvetoed
  exact ⟨s, p, reason, q, hs, hp, hvetoed, hstart⟩

/-- A purge of January's is still running when February's handler has recorded its veto.  It then
    finishes, and clears the marks. -/
def overlappingPurge : List Action :=
  januarySignals ++ answered 0 17 ++ .otherDeadLetters "labels" 1 :: februarySignals ++
    answered 1 16 ++ answered 0 9

/-- February's veto is recorded, the process restarts, and the dead letter is replayed.  February's
    signals are delivered again, and a straggler of January's overtakes the last of them. -/
def overtakingStraggler : List Action :=
  .otherDeadLetters "labels" 1 :: februarySignals ++ answered 0 16 ++
    [.restart, .otherDeadLetters "labels" 0] ++ februarySignals ++
    [signalOf "20240101" "2024-01-01T00:00:00Z" "artists"] ++ answered 1 16

theorem recorded_veto_is_lost :
    [(overlappingPurge, 0), (overtakingStraggler, 1)].Forall fun run =>
      OneKey (signalsOf run.1) ∧
      ∃ (s s' : State) (p : StaleChildRowPurge),
        Runs.run (step Records.sampleExternals true) { db := februaryLinks } run.1 = some s ∧
        decided s (.resume run.2 .answered) = some p ∧
        p.boundary = signalled (.obj [("started_at", .str "2024-02-01T00:00:00Z")]) ∧
        Vetoed s "20240201" ∧ Records.staleLink ∈ s.db.externalLinks ∧
        Runs.run (step Records.sampleExternals true) s (answered run.2 11) = some s' ∧
        Records.staleLink ∉ s'.db.externalLinks := by
  -- Both runs are evaluated alike: the veto is recorded, the purge deletes all the same.
  have hruns : ∀ run ∈ [(overlappingPurge, 0), (overtakingStraggler, 1)],
      OneKey (signalsOf run.1) ∧
      ((Runs.run (step Records.sampleExternals true) { db := februaryLinks } run.1).bind fun s =>
        (decided s (.resume run.2 .answered)).bind fun p =>
          (Runs.run (step Records.sampleExternals true) s (answered run.2 11)).map fun s' =>
            decide (p.boundary = signalled (.obj [("started_at", .str "2024-02-01T00:00:00Z")]) ∧
              (s.recordedVetoes "20240201").Nonempty ∧
              Records.staleLink ∈ s.db.externalLinks ∧
              Records.staleLink ∉ s'.db.externalLinks)) = some true := by
    decide +kernel
  rw [List.forall_iff_forall_mem]
  intro run hmem
  obtain ⟨honeKey, hrun⟩ := hruns run hmem
  obtain ⟨s, hs, hrun⟩ := Option.bind_eq_some_iff.mp hrun
  obtain ⟨p, hp, hrun⟩ := Option.bind_eq_some_iff.mp hrun
  obtain ⟨s', hs', hrun⟩ := Option.map_eq_some_iff.mp hrun
  obtain ⟨hboundary, hvetoed, hbefore, hafter⟩ := of_decide_eq_true hrun
  exact ⟨honeKey, s, s', p, hs, hp, hboundary, hvetoed, hbefore, hs', hafter⟩

end Service
