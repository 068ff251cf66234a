/-
  Latch soundness over histories of non-overlapping calls, and what a restart changes.

  `CollectedSince cfg B calls` says what must have happened for `B` to be latched: the history ends
  in a stretch that opens with a signal at `B`, holds no reset, no unusable `started_at` and no
  later one, and in which every expected type signalled `B`, last with a nonzero count.

  A restart replaces the object by a fresh one in the middle of a history.  The two objects then
  hear the same calls; `Outlasts old fresh` says how they stay related: whatever the fresh one
  collects, the old one collects too, or it has moved on to a later boundary.

  Latch soundness is no property of one call: an object that is latched says nothing of the calls
  that made it so, and its boundary may have been collected, dropped and collected again.  So the
  invariant `Collecting` relates the object to its history: whatever it holds now, the history since
  the signal that opened the stretch accounts for, signal by signal and count by count
  (`collecting_next`, one case for each call; `collecting_after`, over the history).

  The second law, that a restart only removes purges, holds up to what a restart forgets.  The marks
  and the settled boundary live in memory: a fresh object neither vetoes for a mark made before the
  restart nor refuses a boundary settled before it (`restart_forgets_marks`).  `HeldBack` lists
  these reasons, and `vetoReason_of_outlasts` shows that there are no others.
-/
import MusicBrainzLoader.Purge.Calls

namespace Purge

/-! ## What has been collected -/

/-- The instant a call's signal names: `none` for any other call and an unusable signal. -/
def Call.startedAt : Call → Option Instant
  | .recordCompletion _ message => parseStartedAt (message.get "started_at")
  | _ => none

/-- The call keeps a collection at `B` going: no reset, and no signal that is unusable or names a
    later instant. -/
def Call.Keeps (B : Instant) : Call → Prop
  | .reset => False
  | .recordCompletion _ message =>
    ∃ b, parseStartedAt (message.get "started_at") = some b ∧ b ≤ B
  | _ => True

/-- The count reported by the last signal of a type at `B`, if it sent one. -/
def lastSignal (B : Instant) (dataType : DataType) : List Call → Option (Option Int)
  | [] => none
  | .recordCompletion t message :: calls =>
    (lastSignal B dataType calls).or
      (if t = dataType ∧ parseStartedAt (message.get "started_at") = some B then
        some (reportedCount t message) else none)
  | _ :: calls => lastSignal B dataType calls

/-- The history ends in a stretch, opened by a signal at `B`, that keeps the collection at `B`
    going and in which each expected type's last signal at `B` reported a nonzero count. -/
def CollectedSince (cfg : PurgeConfig) (B : Instant) (calls : List Call) : Prop :=
  ∃ before first since, calls = before ++ first :: since ∧ first.startedAt = some B ∧
    (∀ call ∈ first :: since, call.Keeps B) ∧
    ∀ t ∈ cfg.expectedDataTypes, ∃ message n, .recordCompletion t message ∈ first :: since ∧
      parseStartedAt (message.get "started_at") = some B ∧
      lastSignal B t (first :: since) = some (some n) ∧ n ≠ 0

/-- The last signal of two stretches is the later one's. -/
theorem lastSignal_append (B : Instant) (t : DataType) (xs ys : List Call) :
    lastSignal B t (xs ++ ys) = (lastSignal B t ys).or (lastSignal B t xs) := by
  induction xs with
  | nil => simp [lastSignal]
  | cons call xs ih =>
    cases call with
    | recordCompletion t' message => simp only [List.cons_append, lastSignal, ih, Option.or_assoc]
    | recordDeadLetter t' => exact ih
    | reset => exact ih
    | purge answers => exact ih

/-- A signal can only be the last one at `B` if it was sent. -/
theorem exists_of_lastSignal {B : Instant} {t : DataType} {calls : List Call} {count : Option Int}
    (h : lastSignal B t calls = some count) :
    ∃ message, .recordCompletion t message ∈ calls ∧
      parseStartedAt (message.get "started_at") = some B := by
  -- Down the calls, of which the last signal counts.
  induction calls with
  | nil => cases h
  | cons call calls ih =>
    have later (h : lastSignal B t calls = some count) :
        ∃ message, .recordCompletion t message ∈ call :: calls ∧
          parseStartedAt (message.get "started_at") = some B := by
      obtain ⟨message, hmem, hm⟩ := ih h
      exact ⟨message, List.mem_cons_of_mem call hmem, hm⟩
    cases call with
    | recordCompletion t' message =>
      rw [lastSignal, Option.or_eq_some_iff] at h
      rcases h with h | ⟨-, h⟩
      · exact later h
      · split at h
        · rename_i hsent
          obtain ⟨rfl, hb⟩ := hsent
          exact ⟨message, List.mem_cons_self, hb⟩
        · cases h
    | recordDeadLetter t' => exact later h
    | reset => exact later h
    | purge answers => exact later h

/-! ## The history invariant -/

/-- What the object has collected is what the history since the first collected signal says. -/
def Collecting (p : StaleChildRowPurge) (calls : List Call) : Prop :=
  ∀ B, p.boundary = some B →
    ∃ before first since, calls = before ++ first :: since ∧ first.startedAt = some B ∧
      (∀ call ∈ first :: since, call.Keeps B) ∧
      ∀ t, p.signals.lookup t = lastSignal B t (first :: since)

variable {cfg : PurgeConfig} {p : StaleChildRowPurge} {calls : List Call}

/-- A call that leaves the collection alone extends its stretch. -/
theorem Collecting.extend {p' : StaleChildRowPurge} {call : Call} (h : Collecting p calls)
    (hb : p'.boundary = p.boundary) (hs : p'.signals = p.signals)
    (hkeeps : ∀ B, p.boundary = some B → call.Keeps B)
    (hlast : ∀ B t, p.boundary = some B → lastSignal B t [call] = none) :
    Collecting p' (calls ++ [call]) := by
  intro B hB
  rw [hb] at hB
  obtain ⟨before, first, since, rfl, hfirst, hall, hsig⟩ := h B hB
  refine ⟨before, first, since ++ [call], by simp, hfirst, ?_, fun t => ?_⟩
  · intro c hc
    rw [← List.cons_append, List.mem_append, List.mem_singleton] at hc
    rcases hc with hc | rfl
    · exact hall c hc
    · exact hkeeps B hB
  · rw [hs, hsig t, ← List.cons_append, lastSignal_append, hlast B t hB, Option.none_or]

/-- A signal keeps the invariant: it is one of the four things a signal can do. -/
theorem collecting_recordCompletion (h : Collecting p calls) (t : DataType) (message : Json) :
    Collecting (p.recordCompletion t message) (calls ++ [.recordCompletion t message]) := by
  rcases StaleChildRowPurge.recordCompletion_cases p t message with
    ⟨-, he⟩ | ⟨b, hb, ⟨c, hc, hlt, he⟩ | ⟨-, he⟩ | ⟨hp, he⟩⟩
  · -- Unusable: nothing is collected any more.
    intro B hB
    rw [he] at hB
    cases hB
  · -- Older than the boundary: ignored.
    rw [he]
    refine h.extend rfl rfl ?_ ?_
    · intro B hB
      obtain rfl := Option.some.inj (hc.symm.trans hB)
      exact ⟨b, hb, hlt.le⟩
    · intro B t' hB
      obtain rfl := Option.some.inj (hc.symm.trans hB)
      have : b ≠ c := hlt.ne
      simp [lastSignal, hb, this]
  · -- The first signal of a fresh collection.
    -- It is its own first call, and there is no other.
    intro B hB
    rw [he] at hB
    obtain rfl : b = B := Option.some.inj hB
    refine ⟨calls, _, [], rfl, hb, ?_, fun t' => ?_⟩
    · intro c hc
      rw [List.mem_singleton] at hc
      subst hc
      exact ⟨b, hb, le_refl b⟩
    · rw [he, Table.lookup_insert_eq]
      by_cases ht : t' = t
      · simp [lastSignal, hb, ht]
      · simp [lastSignal, hb, ht, Ne.symm ht]
  · -- One more signal at the boundary.
    intro B hB
    rw [he] at hB
    obtain rfl : b = B := Option.some.inj (hp.symm.trans hB)
    -- The collection goes on from where it started.
    obtain ⟨before, first, since, rfl, hfirst, hall, hsig⟩ := h b hp
    refine ⟨before, first, since ++ [.recordCompletion t message], by simp, hfirst, ?_, fun t' => ?_⟩
    · intro c hc
      rw [← List.cons_append, List.mem_append, List.mem_singleton] at hc
      rcases hc with hc | rfl
      · exact hall c hc
      · exact ⟨b, hb, le_refl b⟩
    -- Its own count is the last one of its type.
    · rw [he, Table.lookup_insert_eq, ← List.cons_append, lastSignal_append, ← hsig t']
      by_cases ht : t' = t
      · simp [lastSignal, hb, ht]
      · simp [lastSignal, hb, ht, Ne.symm ht]

/-- Every call keeps the invariant. -/
theorem collecting_next {s : Tracked} (h : Collecting s.obj calls) (call : Call) :
    Collecting (s.next cfg call).obj (calls ++ [call]) := by
  cases call with
  | recordCompletion t message => exact collecting_recordCompletion h t message
  | recordDeadLetter t =>
    exact h.extend rfl rfl (fun _ _ => trivial) (fun _ _ _ => rfl)
  | reset =>
    intro B hB
    cases hB
  | purge answers =>
    exact h.extend runPurge_boundary runPurge_signals (fun _ _ => trivial) (fun _ _ _ => rfl)

/-- So it holds after any history of calls. -/
theorem collecting_after (cfg : PurgeConfig) (calls : List Call) :
    Collecting (afterCalls cfg calls).obj calls := by
  induction calls using List.reverseRecOn with
  | nil =>
    intro B hB
    cases hB
  | append_singleton calls call ih =>
    rw [afterCalls_concat]
    exact collecting_next ih call

/-- A purge call that is not vetoed has a complete collection behind it. -/
theorem collectedSince_of_unvetoed {B : Instant} (h : Collecting p calls)
    (hv : p.vetoReason cfg = none) (hB : p.boundary = some B) : CollectedSince cfg B calls := by
  obtain ⟨hl, -, -, he⟩ := StaleChildRowPurge.vetoReason_eq_none.mp hv
  obtain ⟨before, first, since, hcalls, hfirst, hall, hsig⟩ := h B hB
  refine ⟨before, first, since, hcalls, hfirst, hall, fun t ht => ?_⟩
  have hmem : t ∈ p.signals := Finmap.mem_keys.mp ((StaleChildRowPurge.isLatched_iff.mp hl).2 ht)
  obtain ⟨count, hcount⟩ := Finmap.mem_iff.mp hmem
  obtain ⟨n, rfl, hn⟩ := StaleChildRowPurge.emptyDataTypes_eq_empty.mp he t count hcount
  have hlast := (hsig t).symm.trans hcount
  obtain ⟨message, hsent, hb⟩ := exists_of_lastSignal hlast
  exact ⟨message, n, hsent, hb, hlast, hn⟩

/-! ## A restart -/

/-- What the fresh object collects the old one collects too, unless it is at a later boundary. -/
def Outlasts (old fresh : StaleChildRowPurge) : Prop :=
  ∀ c, fresh.boundary = some c → ∃ b, old.boundary = some b ∧
    (c < b ∨ b = c ∧ ∀ t count, fresh.signals.lookup t = some count →
      old.signals.lookup t = some count)

/-- What holds a purge of the old object back at a boundary where the fresh one deletes: it has
    moved on, it has settled the boundary, it holds marks, or it holds a signal without a nonzero
    count from a type that is not expected. -/
def HeldBack (cfg : PurgeConfig) (old : StaleChildRowPurge) (B : Instant) : Prop :=
  (∃ b, old.boundary = some b ∧ B < b) ∨ old.settledBoundary = some B ∨
    old.deadLettered ≠ ∅ ∨ ∃ t ∈ old.emptyDataTypes, t ∉ cfg.expectedDataTypes

/-- A signal keeps the old object ahead of the fresh one. -/
theorem outlasts_recordCompletion {old fresh : StaleChildRowPurge} (h : Outlasts old fresh)
    (t : DataType) (message : Json) :
    Outlasts (old.recordCompletion t message) (fresh.recordCompletion t message) := by
  rcases StaleChildRowPurge.recordCompletion_cases fresh t message with
    ⟨-, hf⟩ | ⟨b, hb, hfresh⟩
  -- Unusable: the fresh object has nothing to be outlasted in.
  · intro c hc
    rw [hf] at hc
    cases hc
  -- Usable for one object it is so for the other.
  rcases StaleChildRowPurge.recordCompletion_cases old t message with ⟨hnone, -⟩ | ⟨b', hb', hold⟩
  · rw [hnone] at hb; cases hb
  obtain rfl : b' = b := Option.some.inj (hb'.symm.trans hb)
  intro c hc
  rcases hold with ⟨d, hd, hlt, ho⟩ | ⟨hnew, ho⟩ | ⟨hd, ho⟩ <;> rw [ho]
  · -- The old object ignores the signal: it is at `d`, later than the signal.
    rcases hfresh with ⟨e, he, -, hf⟩ | ⟨-, hf⟩ | ⟨he, hf⟩ <;> rw [hf] at hc ⊢
    · exact h c hc
    · obtain rfl : b' = c := Option.some.inj hc
      exact ⟨d, hd, Or.inl hlt⟩
    · obtain rfl : b' = c := Option.some.inj (he.symm.trans hc)
      exact ⟨d, hd, Or.inl hlt⟩
  · -- The old object starts a fresh collection, so the fresh object does too.
    rcases hfresh with ⟨e, he, hlt, -⟩ | ⟨-, hf⟩ | ⟨he, -⟩
    -- Were the fresh object at a later boundary, the old one would be at it or past it.
    · obtain ⟨d, hd, hed⟩ := h e he
      rcases hed with hed | ⟨rfl, -⟩
      · exact absurd (hlt.trans (hed.trans (hnew d hd))) (lt_irrefl _)
      · exact absurd (hnew d hd) hlt.asymm
    · rw [hf] at hc ⊢
      obtain rfl : b' = c := Option.some.inj hc
      exact ⟨b', rfl, Or.inr ⟨rfl, fun _ _ hlook => hlook⟩⟩
    -- Nor can it be at this one already.
    · obtain ⟨d, hd, hbd⟩ := h b' he
      rcases hbd with hbd | ⟨rfl, -⟩
      · exact absurd hbd (hnew d hd).asymm
      · exact absurd (hnew d hd) (lt_irrefl _)
  · -- The old object adds the signal to its collection.
    rcases hfresh with ⟨e, he, hlt, -⟩ | ⟨-, hf⟩ | ⟨he, hf⟩
    -- At a later boundary it would be past the old object.
    · obtain ⟨d', hd', hcd⟩ := h e he
      obtain rfl := Option.some.inj (hd.symm.trans hd')
      rcases hcd with hcd | ⟨rfl, -⟩
      · exact absurd hlt hcd.asymm
      · exact absurd hlt (lt_irrefl _)
    -- The fresh object starts here, with this one signal, which the old one has too.
    · rw [hf] at hc ⊢
      obtain rfl : b' = c := Option.some.inj hc
      refine ⟨b', hd, Or.inr ⟨rfl, fun t' count hlook => ?_⟩⟩
      rw [Table.lookup_insert_eq] at hlook ⊢
      by_cases ht : t' = t
      · rwa [if_pos ht] at hlook ⊢
      · rw [if_neg ht, Finmap.lookup_empty] at hlook
        cases hlook
    -- Both add it; what the fresh object had besides the old one had.
    · rw [hf] at hc ⊢
      obtain rfl : b' = c := Option.some.inj (he.symm.trans hc)
      refine ⟨b', hd, Or.inr ⟨rfl, fun t' count hlook => ?_⟩⟩
      obtain ⟨d', hd', hcd⟩ := h b' he
      obtain rfl := Option.some.inj (hd.symm.trans hd')
      rw [Table.lookup_insert_eq] at hlook ⊢
      by_cases ht : t' = t
      · rwa [if_pos ht] at hlook ⊢
      · rw [if_neg ht] at hlook ⊢
        rcases hcd with hcd | ⟨-, hsub⟩
        · exact absurd hcd (lt_irrefl _)
        · exact hsub t' count hlook

/-- And so does any other call. -/
theorem outlasts_next {old fresh : Tracked} (h : Outlasts old.obj fresh.obj) (call : Call) :
    Outlasts (old.next cfg call).obj (fresh.next cfg call).obj := by
  cases call with
  | recordCompletion t message => exact outlasts_recordCompletion h t message
  | recordDeadLetter t => exact h
  | reset =>
    intro c hc
    cases hc
  | purge answers =>
    intro c hc
    have hb : (fresh.next cfg (.purge answers)).obj.boundary = fresh.obj.boundary := runPurge_boundary
    have hs : (fresh.next cfg (.purge answers)).obj.signals = fresh.obj.signals := runPurge_signals
    have hb' : (old.next cfg (.purge answers)).obj.boundary = old.obj.boundary := runPurge_boundary
    have hs' : (old.next cfg (.purge answers)).obj.signals = old.obj.signals := runPurge_signals
    rw [hb] at hc
    rw [hb', hs, hs']
    exact h c hc

/-- However long both hear the same calls. -/
theorem outlasts_after {old fresh : Tracked} (h : Outlasts old.obj fresh.obj) (calls : List Call) :
    Outlasts (Tracked.after cfg old calls).obj (Tracked.after cfg fresh calls).obj := by
  induction calls generalizing old fresh with
  | nil => exact h
  | cons call calls ih => exact ih (outlasts_next h call)

/-- Where the fresh object would purge, so would the old one, unless something holds it back. -/
theorem vetoReason_of_outlasts {old fresh : StaleChildRowPurge} {B : Instant}
    (h : Outlasts old fresh) (hv : fresh.vetoReason cfg = none) (hB : fresh.boundary = some B)
    (hfree : ¬ HeldBack cfg old B) : old.vetoReason cfg = none ∧ old.boundary = some B := by
  obtain ⟨hl, -, -, he⟩ := StaleChildRowPurge.vetoReason_eq_none.mp hv
  simp only [HeldBack, not_or, not_exists, not_and, not_not] at hfree
  obtain ⟨hlater, hsettled, hmarks, hempty⟩ := hfree
  -- The old object is at the fresh one's boundary or past it, and past it is what `HeldBack` excludes.
  obtain ⟨b, hb, hcb⟩ := h B hB
  rcases hcb with hlt | ⟨rfl, hsub⟩
  · exact absurd hlt (hlater b hb)
  -- Latched, for every type of the fresh one is there with its count; not settled; and no count is
  -- zero.
  refine ⟨StaleChildRowPurge.vetoReason_eq_none.mpr ⟨?_, ?_, hmarks, ?_⟩, hb⟩
  · rw [StaleChildRowPurge.isLatched_iff]
    refine ⟨by rw [hb]; exact Option.some_ne_none b, fun t ht => ?_⟩
    have hmem := Finmap.mem_keys.mp ((StaleChildRowPurge.isLatched_iff.mp hl).2 ht)
    obtain ⟨count, hcount⟩ := Finmap.mem_iff.mp hmem
    exact Finmap.mem_keys.mpr (Finmap.mem_of_lookup_eq_some (hsub t count hcount))
  · rw [hb]
    exact hsettled
  · rw [Finset.eq_empty_iff_forall_notMem]
    intro t ht
    have hexp := hempty t ht
    have hmem := Finmap.mem_keys.mp ((StaleChildRowPurge.isLatched_iff.mp hl).2 hexp)
    obtain ⟨count, hcount⟩ := Finmap.mem_iff.mp hmem
    obtain ⟨n, rfl, hn⟩ := StaleChildRowPurge.emptyDataTypes_eq_empty.mp he t count hcount
    have hlook := hsub t _ hcount
    rw [StaleChildRowPurge.emptyDataTypes, Finset.mem_filter, hlook] at ht
    exact hn (by simpa using ht.2)

/-! ## The laws -/

/-- **Latch soundness**: a `DELETE` at `B` has a complete collection at `B` behind it, and was
    checked against the settled boundary and the marks. -/
def LatchSound (cfg : PurgeConfig) (calls : List Call) : Prop :=
  ∀ before answers after B table, calls = before ++ .purge answers :: after →
    (B, table) ∈ (runPurge cfg answers (afterCalls cfg before).obj).deletes →
    CollectedSince cfg B before ∧ (afterCalls cfg before).obj.settledBoundary ≠ some B ∧
      (afterCalls cfg before).obj.deadLettered = ∅

/-- **Restart safety**: whenever, after a restart, the fresh object issues a `DELETE`, the object
    that was replaced would have issued the same one. -/
def RestartOnlyRemoves (cfg : PurgeConfig) (calls : List Call) : Prop :=
  ∀ before since answers after, calls = before ++ since ++ .purge answers :: after →
    (runPurge cfg answers (afterCalls cfg since).obj).deletes ≠ [] →
    (runPurge cfg answers (afterCalls cfg since).obj).deletes =
      (runPurge cfg answers (afterCalls cfg (before ++ since)).obj).deletes

/-- Restart safety as it is: the fresh object's `DELETE` has a complete collection SINCE THE RESTART
    behind it, and the replaced object would have issued the same one unless it was held back. -/
def RestartSafe (cfg : PurgeConfig) (calls : List Call) : Prop :=
  ∀ before since answers after B table, calls = before ++ since ++ .purge answers :: after →
    (B, table) ∈ (runPurge cfg answers (afterCalls cfg since).obj).deletes →
    CollectedSince cfg B since ∧
      ((runPurge cfg answers (afterCalls cfg since).obj).deletes =
          (runPurge cfg answers (afterCalls cfg (before ++ since)).obj).deletes ∨
        HeldBack cfg (afterCalls cfg (before ++ since)).obj B)

theorem latchSound (cfg : PurgeConfig) (calls : List Call) : LatchSound cfg calls := by
  intro before answers after B table _ hmem
  obtain ⟨hv, hB⟩ := runPurge_deletes hmem
  obtain ⟨-, hs, hd, -⟩ := StaleChildRowPurge.vetoReason_eq_none.mp hv
  exact ⟨collectedSince_of_unvetoed (collecting_after cfg before) hv hB, hB ▸ hs, hd⟩

theorem restartSafe (cfg : PurgeConfig) (calls : List Call) : RestartSafe cfg calls := by
  intro before since answers after B table _ hmem
  obtain ⟨hv, hB⟩ := runPurge_deletes hmem
  refine ⟨collectedSince_of_unvetoed (collecting_after cfg since) hv hB, ?_⟩
  by_cases hheld : HeldBack cfg (afterCalls cfg (before ++ since)).obj B
  · exact Or.inr hheld
  refine Or.inl ?_
  have hout : Outlasts (afterCalls cfg (before ++ since)).obj (afterCalls cfg since).obj := by
    rw [afterCalls_append]
    exact outlasts_after (fun c hc => by cases hc) since
  obtain ⟨hv', hB'⟩ := vetoReason_of_outlasts hout hv hB hheld
  exact runPurge_deletes_congr hv hv' (hB.trans hB'.symm)

/-- **Latch soundness and restart safety**, for every history of calls. -/
theorem latch_sound_and_restart_safe (cfg : PurgeConfig) (calls : List Call) :
    LatchSound cfg calls ∧ RestartSafe cfg calls :=
  ⟨latchSound cfg calls, restartSafe cfg calls⟩

/-- A record is dead-lettered, the service restarts, and the four signals arrive: the fresh object
    deletes where the mark would have vetoed. -/
theorem restart_forgets_marks :
    ¬ RestartOnlyRemoves {} (.recordDeadLetter "artists" ::
      (MUSICBRAINZ_DATA_TYPES.map fun t =>
        .recordCompletion t (extractionComplete "2024-01-01" t 5)) ++ [.purge healthy]) := by
  intro h
  have hsame := h [.recordDeadLetter "artists"] _ healthy [] rfl (by decide +kernel)
  exact absurd hsame (by decide +kernel)

end Purge
