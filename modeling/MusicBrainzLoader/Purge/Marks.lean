/-
  Dead-letter marks over histories of non-overlapping calls.

  A mark must veto: between `record_dead_letter` and a later `DELETE` some purge call should have
  decided a boundary that had never been settled before, so that the mark did its work there.  And a
  redelivered signal must not disturb anything: a signal that names a boundary already settled, with
  the purge call the service makes after it, should leave the object and the tables alone.

  Neither holds of every history.  `_settle` clears the marks, and it runs on every veto of a latched
  boundary, the veto for a boundary that is already settled included; marks carry no boundary of their
  own.  So a repeated `extraction_complete` at a settled boundary clears the marks of the NEXT
  extraction's records (`mark_lost_to_a_repeated_signal`).

  What is needed is said of the states before the calls:

  * `PurgeOk`   — a purge call at a boundary settled before finds it still remembered, and no marks.
    Then the veto settles what is settled and clears nothing, and a mark can only go where a new
    boundary is decided (`mark_step`, over a history `mark_kept`).
  * `RepeatOk`  — when the repeated signal arrives, no newer boundary is latched that is still to be
    decided.  The signal is ignored in favour of such a boundary, so the purge call after it is a first
    decision and not the repetition it looks like.  A newer boundary still collecting does no harm: the
    call is vetoed as waiting, and that veto settles nothing.
-/
import MusicBrainzLoader.Purge.Calls

namespace Purge

/-- Some purge call among `calls`, made from `s` on, settled a boundary that had not been settled
    before. -/
def firstDecision (cfg : PurgeConfig) : Tracked → List Call → Bool
  | _, [] => false
  | s, call :: calls =>
    (perform cfg s.obj call).settled.any (fun b => decide (b ∉ s.settled)) ||
      firstDecision cfg (s.next cfg call) calls

/-- **No mark is lost without vetoing**: between a mark and a later purge call that deletes, a
    boundary was decided for the first time. -/
def MarksHonoured (cfg : PurgeConfig) (calls : List Call) : Prop :=
  ∀ before dataType between answers after,
    calls = before ++ .recordDeadLetter dataType :: (between ++ .purge answers :: after) →
    (runPurge cfg answers
      (afterCalls cfg (before ++ .recordDeadLetter dataType :: between)).obj).deletes ≠ [] →
    firstDecision cfg (afterCalls cfg (before ++ [.recordDeadLetter dataType])) between = true

/-- **A repeated signal changes nothing**: an `extraction_complete` naming a boundary already
    settled, and the purge call after it, leave the marks and the settled boundary as they were
    and delete nothing. -/
def RepeatsHarmless (cfg : PurgeConfig) (calls : List Call) : Prop :=
  ∀ before dataType message answers after b,
    calls = before ++ .recordCompletion dataType message :: .purge answers :: after →
    parseStartedAt (message.get "started_at") = some b →
    b ∈ (afterCalls cfg before).settled →
    let p := (afterCalls cfg before).obj
    let purged := runPurge cfg answers (p.recordCompletion dataType message)
    purged.after.deadLettered = p.deadLettered ∧
      purged.after.settledBoundary = p.settledBoundary ∧ purged.deletes = []

/-- A purge call at a boundary that was settled before finds it remembered, and no marks. -/
def PurgeOk (cfg : PurgeConfig) (s : Tracked) : Prop :=
  ∀ b, s.obj.isLatched cfg = true → s.obj.boundary = some b → b ∈ s.settled →
    s.obj.deadLettered = ∅ ∧ s.obj.settledBoundary = some b

instance (cfg : PurgeConfig) (s : Tracked) : Decidable (PurgeOk cfg s) :=
  decidable_of_iff
    (s.obj.isLatched cfg = true → ∀ b ∈ s.obj.boundary, b ∈ s.settled →
      s.obj.deadLettered = ∅ ∧ s.obj.settledBoundary = some b)
    ⟨fun h b hl hb hs => h hl b hb hs, fun h hl b hb hs => h b hl hb hs⟩

/-- Every purge call of the history is made in such a state. -/
abbrev PurgesOk (cfg : PurgeConfig) : Tracked → List Call → Prop :=
  Tracked.Meets cfg fun s call => call.isPurge = true → PurgeOk cfg s

/-- When a signal names a boundary settled before, no newer boundary is latched that has yet to be
    decided. -/
def RepeatOk (cfg : PurgeConfig) (s : Tracked) : Call → Prop
  | .recordCompletion _ message =>
    ∀ b ∈ parseStartedAt (message.get "started_at"), b ∈ s.settled →
      ∀ c ∈ s.obj.boundary, b < c → s.obj.isLatched cfg = true → c ∈ s.settled
  | _ => True

instance (cfg : PurgeConfig) (s : Tracked) : ∀ call, Decidable (RepeatOk cfg s call)
  | .recordCompletion _ message =>
    inferInstanceAs (Decidable (∀ b ∈ parseStartedAt (message.get "started_at"), b ∈ s.settled →
      ∀ c ∈ s.obj.boundary, b < c → s.obj.isLatched cfg = true → c ∈ s.settled))
  | .recordDeadLetter _ | .reset | .purge _ => isTrue trivial

/-- Every signal of the history that a purge call comes right after arrives in such a state. -/
def RepeatsOk (cfg : PurgeConfig) : Tracked → List Call → Prop
  | _, [] => True
  | s, call :: calls =>
    (calls.head?.any Call.isPurge = true → RepeatOk cfg s call) ∧
      RepeatsOk cfg (s.next cfg call) calls

instance decidableRepeatsOk (cfg : PurgeConfig) : ∀ s calls, Decidable (RepeatsOk cfg s calls)
  | _, [] => isTrue trivial
  | s, call :: calls =>
    have := decidableRepeatsOk cfg (s.next cfg call) calls
    inferInstanceAs (Decidable ((calls.head?.any Call.isPurge = true → RepeatOk cfg s call) ∧
      RepeatsOk cfg (s.next cfg call) calls))

/-! ## A mark stays until a boundary is decided -/

section Marks

variable {cfg : PurgeConfig} {s : Tracked} {dataType : DataType}

/-- A call that settles no new boundary leaves a mark in place. -/
theorem mark_step {call : Call} (hmark : dataType ∈ s.obj.deadLettered) (hreset : call ≠ .reset)
    (hok : call.isPurge = true → PurgeOk cfg s)
    (hnew : (perform cfg s.obj call).settled.any (fun b => decide (b ∉ s.settled)) = false) :
    dataType ∈ (s.next cfg call).obj.deadLettered := by
  cases call with
  | recordCompletion t message => simpa [Tracked.next, perform] using hmark
  | recordDeadLetter t => exact Finset.mem_insert_of_mem hmark
  | reset => exact absurd rfl hreset
  | purge answers =>
    cases hs : (runPurge cfg answers s.obj).settled with
    | none =>
      have hsame := runPurge_deadLettered hs
      show dataType ∈ (runPurge cfg answers s.obj).after.deadLettered
      rw [hsame]
      exact hmark
    | some b =>
      -- The boundary was settled before, so the call found no marks: there is one.
      obtain ⟨hl, hb⟩ := runPurge_settled hs
      have hold : b ∈ s.settled := by
        simpa [perform, hs] using hnew
      obtain ⟨hempty, -⟩ := hok rfl b hl hb hold
      rw [hempty] at hmark
      exact absurd hmark (Finset.notMem_empty _)

/-- A mark survives any calls that decide no new boundary. -/
theorem mark_kept {calls : List Call} (hmark : dataType ∈ s.obj.deadLettered)
    (hreset : ∀ call ∈ calls, call ≠ .reset)
    (hok : PurgesOk cfg s calls)
    (hnew : firstDecision cfg s calls = false) :
    dataType ∈ (s.after cfg calls).obj.deadLettered := by
  induction calls generalizing s with
  | nil => exact hmark
  | cons call calls ih =>
    rw [firstDecision, Bool.or_eq_false_iff] at hnew
    have hhere := mark_step hmark (hreset call List.mem_cons_self) hok.head hnew.1
    exact ih hhere (fun c hc => hreset c (List.mem_cons_of_mem _ hc)) (hok.tail rfl) hnew.2

end Marks

/-- A purge call at a settled boundary, in a state that meets the condition, changes nothing. -/
theorem purge_again {cfg : PurgeConfig} {s : Tracked} (hok : PurgeOk cfg s) {b : Instant}
    (hb : s.obj.boundary = some b) (hs : b ∈ s.settled) (answers : PurgeAwait → Reply) :
    runPurge cfg answers s.obj = { after := s.obj, settled := (runPurge cfg answers s.obj).settled } := by
  rcases runPurge_cases cfg answers s.obj with ⟨-, he⟩ | ⟨hl, -, he⟩ | ⟨hv, -⟩ | ⟨hv, -⟩
  · rw [he]
  · obtain ⟨hd, hsb⟩ := hok b hl hb hs
    rw [he, StaleChildRowPurge.settle_eq_self (hsb.trans hb.symm) hd]
  all_goals
    obtain ⟨hl, hne, -⟩ := StaleChildRowPurge.vetoReason_eq_none.mp hv
    exact absurd ((hok b hl hb hs).2.trans hb.symm) hne

theorem marksHonoured_of_purgesOk {cfg : PurgeConfig} {calls : List Call}
    (hreset : ∀ call ∈ calls, call ≠ .reset) (hok : PurgesOk cfg {} calls) :
    MarksHonoured cfg calls := by
  intro before dataType between answers after hcalls hdeletes
  by_contra hnew
  have hmark : dataType ∈ (afterCalls cfg (before ++ [.recordDeadLetter dataType])).obj.deadLettered := by
    rw [afterCalls_concat]
    exact Finset.mem_insert_self _ _
  have hsplit : calls = (before ++ [.recordDeadLetter dataType]) ++
      (between ++ .purge answers :: after) := by rw [hcalls]; simp
  have hbetween : PurgesOk cfg (afterCalls cfg (before ++ [.recordDeadLetter dataType])) between := by
    rw [hsplit] at hok
    exact Runs.Meets.prefix (Tracked.Meets.suffix hok)
  have hkept := mark_kept hmark (fun call hc => hreset call (by rw [hcalls]; simp [hc])) hbetween
    (Bool.eq_false_iff.mpr hnew)
  rw [← afterCalls_append, List.append_assoc, List.singleton_append] at hkept
  obtain ⟨⟨b, table⟩, hmem⟩ := List.exists_mem_of_ne_nil _ hdeletes
  obtain ⟨hv, -⟩ := runPurge_deletes hmem
  have hempty := (StaleChildRowPurge.vetoReason_eq_none.mp hv).2.2.1
  rw [hempty] at hkept
  exact Finset.notMem_empty _ hkept

/-- The condition on the signals holds from any point of the history on. -/
theorem RepeatsOk.suffix {cfg : PurgeConfig} {s : Tracked} {xs ys : List Call}
    (h : RepeatsOk cfg s (xs ++ ys)) : RepeatsOk cfg (s.after cfg xs) ys := by
  induction xs generalizing s with
  | nil => exact h
  | cons call xs ih => exact ih h.2

/-- After a signal the collected boundary is the one it names, or a newer one in whose favour the
    signal was ignored. -/
theorem recordCompletion_collected (p : StaleChildRowPurge) (dataType : DataType) {message : Json}
    {b : Instant} (hb : parseStartedAt (message.get "started_at") = some b) :
    (p.recordCompletion dataType message).boundary = some b ∨
      ∃ c, p.boundary = some c ∧ b < c ∧ p.recordCompletion dataType message = p := by
  rcases StaleChildRowPurge.recordCompletion_cases p dataType message with
    ⟨hnone, -⟩ | ⟨b', hb', hcases⟩
  · rw [hnone] at hb
    cases hb
  · obtain rfl : b' = b := Option.some.inj (hb'.symm.trans hb)
    rcases hcases with ignored | ⟨-, he⟩ | ⟨hsame, he⟩
    · exact Or.inr ignored
    · exact Or.inl (by rw [he])
    · exact Or.inl (by rw [he]; exact hsame)

theorem repeatsHarmless_of_repeatsOk {cfg : PurgeConfig} {calls : List Call}
    (hok : PurgesOk cfg {} calls) (hrepeats : RepeatsOk cfg {} calls) :
    RepeatsHarmless cfg calls := by
  intro before dataType message answers after b hcalls hb hold
  have hsplit : calls = (before ++ [.recordCompletion dataType message]) ++
      .purge answers :: after := by rw [hcalls]; simp
  have hstate : PurgeOk cfg (afterCalls cfg (before ++ [.recordCompletion dataType message])) := by
    rw [hsplit] at hok
    exact (Tracked.Meets.suffix hok).head rfl
  rw [afterCalls_concat] at hstate
  have hsignal : RepeatOk cfg (afterCalls cfg before) (.recordCompletion dataType message) := by
    rw [hcalls] at hrepeats
    exact (RepeatsOk.suffix hrepeats).1 rfl
  set s := afterCalls cfg before with hs
  intro p purged
  have hsettled : ∀ c, (s.next cfg (.recordCompletion dataType message)).obj.boundary = some c →
      c ∈ s.settled → purged.after = p.recordCompletion dataType message ∧ purged.deletes = [] := by
    intro c hc hcs
    have hagain : c ∈ (s.next cfg (.recordCompletion dataType message)).settled := by
      simpa [Tracked.next, perform] using hcs
    have hsame : purged = _ := purge_again hstate hc hagain answers
    rw [hsame]
    exact ⟨rfl, rfl⟩
  have hunchanged : purged.after = p.recordCompletion dataType message ∧ purged.deletes = [] := by
    rcases recordCompletion_collected p dataType hb with hnamed | ⟨c, hc, hlt, hignored⟩
    · exact hsettled b hnamed hold
    · cases hl : p.isLatched cfg with
      | true =>
        -- A newer boundary is latched: by the condition on the signal it has been decided too.
        have hcs : c ∈ s.settled := hsignal b hb hold c hc hlt hl
        exact hsettled c (by rw [← hc]; exact congrArg StaleChildRowPurge.boundary hignored) hcs
      | false =>
        -- A newer boundary is still collecting: the call is vetoed as waiting, and settles nothing.
        rcases runPurge_cases cfg answers (p.recordCompletion dataType message) with
          ⟨-, he⟩ | ⟨hl', -, -⟩ | ⟨hv, -⟩ | ⟨hv, -⟩
        · exact ⟨congrArg Effect.after he, congrArg Effect.deletes he⟩
        · rw [hignored, hl] at hl'
          cases hl'
        all_goals
          have hl' := (StaleChildRowPurge.vetoReason_eq_none.mp hv).1
          rw [hignored, hl] at hl'
          cases hl'
  rw [hunchanged.1]
  exact ⟨StaleChildRowPurge.recordCompletion_deadLettered _ _,
    StaleChildRowPurge.recordCompletion_settledBoundary _ _, hunchanged.2⟩

/-- **Marks veto before they go** in every history of calls (none overlapping, no reset) whose purge
    calls at an already settled boundary find it still remembered and no marks; and repeated signals
    are harmless there, when no newer boundary waits latched for its first decision. -/
theorem marks_veto_before_they_go (cfg : PurgeConfig) (calls : List Call)
    (hreset : ∀ call ∈ calls, call ≠ .reset) (hok : PurgesOk cfg {} calls) :
    MarksHonoured cfg calls ∧ (RepeatsOk cfg {} calls → RepeatsHarmless cfg calls) :=
  ⟨marksHonoured_of_purgesOk hreset hok, repeatsHarmless_of_repeatsOk hok⟩

/-- Two extractions, the first of them redelivering a signal after the second has dead-lettered a
    record: a first extraction is purged, an artist record of the second is rejected, the first
    one's artist signal comes back, and then the second extraction's four signals arrive. -/
def repeatedSignal : List Call :=
  let signals (startedAt : String) : List Call :=
    MUSICBRAINZ_DATA_TYPES.map fun t => .recordCompletion t (extractionComplete startedAt t 5)
  signals "2024-01-01" ++ [.purge healthy, .recordDeadLetter "artists",
    .recordCompletion "artists" (extractionComplete "2024-01-01" "artists" 5), .purge healthy] ++
    signals "2024-02-01" ++ [.purge healthy]

theorem mark_lost_to_a_repeated_signal :
    (∀ call ∈ repeatedSignal, call ≠ .reset) ∧ ¬ MarksHonoured {} repeatedSignal ∧
      ¬ RepeatsHarmless {} repeatedSignal := by
  refine ⟨by simp [repeatedSignal, MUSICBRAINZ_DATA_TYPES], fun h => ?_, fun h => ?_⟩
  · have := h (repeatedSignal.take 5) "artists" ((repeatedSignal.drop 6).take 6) healthy [] rfl
      (by decide +kernel)
    exact absurd this (by decide +kernel)
  · have hsame := h (repeatedSignal.take 6) "artists" _ healthy (repeatedSignal.drop 8)
      63839750400000000 rfl (by decide +kernel) (by decide +kernel)
    exact absurd hsame.1 (by decide +kernel)

/-- January's signal comes back twice: right after its purge, and while February is collecting.  Then
    a label of February is rejected, and vetoes February. -/
def harmlessRepeats : List Call :=
  let signal (startedAt : String) (t : DataType) : Call :=
    .recordCompletion t (extractionComplete startedAt t 5)
  let signals (startedAt : String) : List Call := MUSICBRAINZ_DATA_TYPES.map (signal startedAt)
  signals "2024-01-01" ++ [.purge healthy, signal "2024-01-01" "artists", .purge healthy,
    signal "2024-02-01" "artists", signal "2024-01-01" "artists", .purge healthy,
    .recordDeadLetter "labels"] ++ signals "2024-02-01" ++ [.purge healthy]

theorem marks_veto_before_they_go_harmlessRepeats :
    MarksHonoured {} harmlessRepeats ∧ RepeatsHarmless {} harmlessRepeats := by
  have hreset : ∀ call ∈ harmlessRepeats, call ≠ .reset := by
    simp [harmlessRepeats, MUSICBRAINZ_DATA_TYPES]
  obtain ⟨hmarks, hrepeats⟩ := marks_veto_before_they_go {} harmlessRepeats hreset (by decide +kernel)
  exact ⟨hmarks, hrepeats (by decide +kernel)⟩

end Purge
