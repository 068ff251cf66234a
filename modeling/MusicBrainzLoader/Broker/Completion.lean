/-
  When a type counts as complete.

  The messages of one extraction, each queued, handled and acknowledged, over the bookkeeping that their
  handlers do.  A record withdraws its type's completion whenever it is handled, and the completion
  messages put it back; a record that fails near the end is handled again after them, and nothing puts
  completion back then.  So the type is complete, once everything is acknowledged, exactly when a
  completion message was the last of its messages to be delivered.

  Within one type the handlers run in any order, and a record that fails is queued again behind what
  is left; so the type's completion comes and goes, and nothing about the messages handled so far
  decides it.  What does is the last of them to be delivered (`lastDelivered`), and the invariant
  (`Follows`) is about that one alone: a record has withdrawn the completion; a completion message
  has declared it, or a signal of the type is still owed, because its reconciliation failed and
  withdrew the completion again.  Once everything is acknowledged nothing is owed, and what remains
  is the equivalence.

  Idleness is about all four types at once, and needs no more than this for each of them.
-/
import MusicBrainzLoader.Broker.Machine

namespace Broker

open Purge (DataType MUSICBRAINZ_DATA_TYPES)

/-! ## The messages of an extraction -/

/-- A message of the extraction, on the queue of its type. -/
structure Posted where
  dataType : DataType
  message : Message
  known : dataType ∈ MUSICBRAINZ_DATA_TYPES
deriving DecidableEq

/-- Where the delivery of a message stands. -/
inductive Stage where
  | queued
  | handling
  /-- Its handler raised: the delivery waits, and is requeued. -/
  | failed
  /-- Its handler returned, and the broker has not been told. -/
  | handled
  | acknowledged
deriving DecidableEq

/-- Where each message is, and the bookkeeping. -/
structure Import where
  service : State := {}
  /-- The stage of each message, by its position. -/
  stage : Nat → Stage := fun _ => .queued

namespace Import

/-- A message put to another stage. -/
def setStage (s : Import) (i : Nat) (stage : Stage) : Import :=
  { s with stage := Function.update s.stage i stage }

/-- A message is where it was put. -/
@[simp] theorem setStage_same (s : Import) (i : Nat) (stage : Stage) :
    (s.setStage i stage).stage i = stage := by
  simp [setStage]

/-- The others are where they were. -/
theorem setStage_other {i j : Nat} (h : j ≠ i) (s : Import) (stage : Stage) :
    (s.setStage i stage).stage j = s.stage j := by
  simp [setStage, h]

end Import

/-! ## Handling them -/

/-- A handler begins, or ends. -/
inductive Event where
  | deliver (i : Nat)
  /-- The transaction of a record is over. -/
  | processed (i : Nat) (ok : Bool)
  /-- The reconciliation of an `extraction_complete` comes back, the `j`-th under way. -/
  | reconciled (i j : Nat) (ok : Bool)
  /-- After the wait for a failure, or when an acknowledgement is lost. -/
  | requeue (i : Nat)
  | acknowledge (i : Nat)
  | timer (i : Nat) (outcome : TimerOutcome)
deriving DecidableEq

/-- The stage a handler leaves its delivery in. -/
def Stage.after (ok : Bool) : Stage := if ok then .handled else .failed

/-- One event; none when it cannot happen. -/
def importStep (posted : List Posted) (delay : Nat) (s : Import) : Event → Option Import
  | .deliver i => posted[i]?.bind fun m =>
    if s.stage i = .queued then
      let s := { s with service := handleDataMessage delay s.service m.dataType m.message }
      -- `file_complete` awaits nothing.
      some (s.setStage i (if m.message = .fileComplete then .handled else .handling))
    else none
  | .processed i ok => posted[i]?.bind fun m =>
    if m.message = .record ∧ s.stage i = .handling then some (s.setStage i (Stage.after ok))
    else none
  | .reconciled i j ok => posted[i]?.bind fun m =>
    if m.message = .extractionComplete ∧ s.stage i = .handling ∧
        s.service.reconciling[j]? = some m.dataType then
      let s := { s with service := reconciled delay s.service j m.dataType ok }
      some (s.setStage i (Stage.after ok))
    else none
  | .requeue i =>
    if s.stage i = .failed ∨ s.stage i = .handled then some (s.setStage i .queued) else none
  | .acknowledge i => if s.stage i = .handled then some (s.setStage i .acknowledged) else none
  | .timer i outcome =>
    (step delay s.service (.timer i outcome)).map fun service => { s with service }

/-- The message an event delivers to a type's handler. -/
def delivered (posted : List Posted) (t : DataType) : Event → Option Message
  | .deliver i => posted[i]?.bind fun m => if m.dataType = t then some m.message else none
  | _ => none

/-- The last of a type's messages to be delivered. -/
def lastDelivered (posted : List Posted) (t : DataType) (events : List Event) : Option Message :=
  (events.filterMap (delivered posted t)).getLast?

/-- All of a type's messages are acknowledged. -/
def Acknowledged (posted : List Posted) (t : DataType) (s : Import) : Prop :=
  ∀ i m, posted[i]? = some m → m.dataType = t → s.stage i = .acknowledged

/-- The extraction tells the type's end. -/
def Concluded (posted : List Posted) (t : DataType) : Prop :=
  ∃ m ∈ posted, m.dataType = t ∧ m.message ≠ .record

instance (posted : List Posted) (t : DataType) (s : Import) : Decidable (Acknowledged posted t s) :=
  decidable_of_iff (∀ i < posted.length, ∀ m ∈ posted[i]?, m.dataType = t →
      s.stage i = .acknowledged) (by
    constructor
    · intro h i m hm
      exact h i (List.getElem?_eq_some_iff.mp hm).1 m hm
    · exact fun h i _ m hm => h i m hm)

instance (posted : List Posted) (t : DataType) : Decidable (Concluded posted t) :=
  inferInstanceAs (Decidable (∃ m ∈ posted, _))

/-! ## What completes a type -/

section Completed

variable {s s' : State} {delay : Nat} {t : DataType}

/-- Timers are not completions. -/
@[simp] theorem completedFiles_withdrawTimer (s : State) (t : DataType) :
    (withdrawTimer s t).completedFiles = s.completedFiles := by
  unfold withdrawTimer
  split <;> rfl

@[simp] theorem completedFiles_armTimer (delay : Nat) (s : State) (t : DataType) :
    (armTimer delay s t).completedFiles = s.completedFiles := by
  unfold armTimer scheduleConsumerCancellation
  split
  · dsimp only
    split <;> rfl
  · rfl

/-- A delivery: a record withdraws the completion of its type, the other messages declare it. -/
theorem completedFiles_handleDataMessage (delay : Nat) (s : State) (t : DataType) (m : Message) :
    (handleDataMessage delay s t m).completedFiles =
      if m = .record then s.completedFiles.erase t else insert t s.completedFiles := by
  cases m <;> simp [handleDataMessage]

/-- A reconciliation that fails withdraws it. -/
theorem completedFiles_reconciled (delay : Nat) (s : State) (j : Nat) (t : DataType) (ok : Bool) :
    (reconciled delay s j t ok).completedFiles =
      if ok then s.completedFiles else s.completedFiles.erase t := by
  cases ok <;> simp [reconciled]

/-- A timer cancels consumers and closes connections; it completes no type. -/
theorem completedFiles_timer {i : Nat} {outcome : TimerOutcome}
    (h : step delay s (.timer i outcome) = some s') : s'.completedFiles = s.completedFiles := by
  obtain ⟨timer, -, h⟩ := Option.bind_eq_some_iff.mp h
  obtain ⟨r, hr, rfl⟩ := Option.map_eq_some_iff.mp h
  rw [← (closing_timerStep hr).completedFiles]
  unfold resumedTimer
  split <;> rfl

end Completed

/-! ## The last delivery decides -/

/-- A signal of the type still has to be handled, or handled again. -/
def Owes (posted : List Posted) (t : DataType) (s : Import) : Prop :=
  ∃ i m, posted[i]? = some m ∧ m.dataType = t ∧ m.message = .extractionComplete ∧
    (s.stage i = .failed ∨ s.stage i = .queued)

/-- What the last delivery says of the type's completion: a record's, that it is withdrawn; another's,
    that it holds or that a signal is owed. -/
structure Follows (posted : List Posted) (t : DataType) (last : Option Message) (s : Import) :
    Prop where
  record : last = some .record → t ∉ s.service.completedFiles
  control : ∀ m, last = some m → m ≠ .record → t ∈ s.service.completedFiles ∨ Owes posted t s
  untouched : last = none → ∀ i m, posted[i]? = some m → m.dataType = t → s.stage i = .queued

section Last

variable {posted : List Posted} {delay : Nat} {t : DataType} {s s' : Import} {event : Event}

/-- The last delivery of a type is the last of its events. -/
theorem lastDelivered_concat (events : List Event) (event : Event) :
    lastDelivered posted t (events ++ [event]) =
      (delivered posted t event).or (lastDelivered posted t events) := by
  unfold lastDelivered
  rw [List.filterMap_append, List.getLast?_append]
  cases h : delivered posted t event <;> simp [h]

/-- What an event does: it delivers a message, or it leaves what is queued queued and what has failed
    unhandled, and withdraws a type's completion only with a reconciliation that fails. -/
theorem importStep_cases (h : importStep posted delay s event = some s') :
    (∃ i m, event = .deliver i ∧ posted[i]? = some m ∧ s.stage i = .queued ∧
      s'.service.completedFiles = (if m.message = .record then
        s.service.completedFiles.erase m.dataType
        else insert m.dataType s.service.completedFiles) ∧
      (∀ j, j ≠ i → s'.stage j = s.stage j)) ∨
    ((∀ t, delivered posted t event = none) ∧
      (∀ j, s.stage j = .queued → s'.stage j = .queued) ∧
      (∀ j, s.stage j = .failed → s'.stage j = .failed ∨ s'.stage j = .queued) ∧
      (s'.service.completedFiles = s.service.completedFiles ∨
        ∃ i m, posted[i]? = some m ∧ m.message = .extractionComplete ∧ s'.stage i = .failed ∧
          s'.service.completedFiles = s.service.completedFiles.erase m.dataType)) := by
  -- A message that is being handled, or has been, is neither queued nor failed.
  have hmoved (service : State) (i : Nat) (stage : Stage) (hqueued : s.stage i ≠ .queued)
      (hfailed : s.stage i = .failed → stage = .queued) :
      (∀ j, s.stage j = .queued → (Import.setStage ⟨service, s.stage⟩ i stage).stage j = .queued) ∧
      ∀ j, s.stage j = .failed → (Import.setStage ⟨service, s.stage⟩ i stage).stage j = .failed ∨
        (Import.setStage ⟨service, s.stage⟩ i stage).stage j = .queued := by
    constructor
    · intro j hj
      have hne : j ≠ i := fun heq => hqueued (heq ▸ hj)
      rw [Import.setStage_other hne]
      exact hj
    · intro j hj
      by_cases heq : j = i
      · subst heq
        rw [Import.setStage_same]
        exact Or.inr (hfailed hj)
      · rw [Import.setStage_other heq]
        exact Or.inl hj
  cases event with
  | deliver i =>
    obtain ⟨m, hm, h⟩ := Option.bind_eq_some_iff.mp h
    left
    by_cases hqueued : s.stage i = .queued
    · rw [if_pos hqueued] at h
      obtain rfl := Option.some.inj h
      refine ⟨i, m, rfl, hm, hqueued, completedFiles_handleDataMessage _ _ _ _, ?_⟩
      intro j hj
      exact Import.setStage_other hj _ _
    · rw [if_neg hqueued] at h
      cases h
  | processed i ok =>
    obtain ⟨m, hm, h⟩ := Option.bind_eq_some_iff.mp h
    right
    by_cases hhandling : m.message = .record ∧ s.stage i = .handling
    · rw [if_pos hhandling] at h
      obtain rfl := Option.some.inj h
      obtain ⟨hq, hf⟩ := hmoved s.service i (Stage.after ok)
        (by rw [hhandling.2]; decide) (by rw [hhandling.2]; exact Stage.noConfusion)
      exact ⟨fun _ => rfl, hq, hf, Or.inl rfl⟩
    · rw [if_neg hhandling] at h
      cases h
  | reconciled i j ok =>
    obtain ⟨m, hm, h⟩ := Option.bind_eq_some_iff.mp h
    right
    by_cases hhandling : m.message = .extractionComplete ∧ s.stage i = .handling ∧
        s.service.reconciling[j]? = some m.dataType
    · rw [if_pos hhandling] at h
      obtain rfl := Option.some.inj h
      obtain ⟨hq, hf⟩ := hmoved (reconciled delay s.service j m.dataType ok) i
        (Stage.after ok) (by rw [hhandling.2.1]; decide) (by rw [hhandling.2.1]; exact Stage.noConfusion)
      refine ⟨fun _ => rfl, hq, hf, ?_⟩
      have hcompleted := completedFiles_reconciled delay s.service j m.dataType ok
      cases ok with
      | true => exact Or.inl hcompleted
      | false =>
        exact Or.inr ⟨i, m, hm, hhandling.1, Import.setStage_same _ _ _, hcompleted⟩
    · rw [if_neg hhandling] at h
      cases h
  | requeue i =>
    right
    by_cases hdone : s.stage i = .failed ∨ s.stage i = .handled
    · obtain rfl := Option.some.inj ((if_pos hdone).symm.trans h)
      obtain ⟨hq, hf⟩ := hmoved s.service i .queued
        (by rcases hdone with hdone | hdone <;> (rw [hdone]; decide)) (fun _ => rfl)
      exact ⟨fun _ => rfl, hq, hf, Or.inl rfl⟩
    · cases (if_neg hdone).symm.trans h
  | acknowledge i =>
    right
    by_cases hdone : s.stage i = .handled
    · obtain rfl := Option.some.inj ((if_pos hdone).symm.trans h)
      obtain ⟨hq, hf⟩ := hmoved s.service i .acknowledged
        (by rw [hdone]; decide) (by rw [hdone]; exact Stage.noConfusion)
      exact ⟨fun _ => rfl, hq, hf, Or.inl rfl⟩
    · cases (if_neg hdone).symm.trans h
  | timer i outcome =>
    right
    obtain ⟨service, hservice, rfl⟩ := Option.map_eq_some_iff.mp h
    exact ⟨fun _ => rfl, fun _ hj => hj, fun _ hj => Or.inl hj,
      Or.inl (completedFiles_timer hservice)⟩

/-- What the last delivery says stays true, event by event. -/
theorem follows_step {last : Option Message} (hs : Follows posted t last s)
    (h : importStep posted delay s event = some s') :
    Follows posted t ((delivered posted t event).or last) s' := by
  -- A step delivers a message, and perhaps one of this type; or it delivers none, and at most withdraws
  -- the completion of a signal that has failed.
  rcases importStep_cases h with
    ⟨i, m, rfl, hm, -, hcompleted, hother⟩ | ⟨hnone, hqueued, hfailed, hcompleted⟩
  · have hdelivered : delivered posted t (.deliver i) =
        if m.dataType = t then some m.message else none := by
      simp [delivered, hm]
    by_cases htype : m.dataType = t
    · -- The delivery is the last one now, and does as it says.
      rw [hdelivered, if_pos htype, Option.some_or]
      subst htype
      refine ⟨?_, ?_, fun h => (nomatch h)⟩
      · intro hrecord
        rw [hcompleted, if_pos (Option.some.inj hrecord)]
        exact Finset.notMem_erase _ _
      · rintro _ ⟨⟩ hcontrol
        rw [hcompleted, if_neg hcontrol]
        exact Or.inl (Finset.mem_insert_self _ _)
    · rw [hdelivered, if_neg htype, Option.none_or]
      have hmem : t ∈ s'.service.completedFiles ↔ t ∈ s.service.completedFiles := by
        rw [hcompleted]
        split
        · exact Finset.mem_erase.trans (and_iff_right (Ne.symm htype))
        · exact Finset.mem_insert.trans (or_iff_right (Ne.symm htype))
      -- Another type's delivery moves no message of this one.
      have hstays {j : Nat} {m' : Posted} (hm' : posted[j]? = some m') (ht : m'.dataType = t) :
          s'.stage j = s.stage j := by
        apply hother
        rintro rfl
        obtain rfl := Option.some.inj (hm.symm.trans hm')
        exact htype ht
      refine ⟨fun hrecord => hmem.not.mpr (hs.record hrecord), ?_, ?_⟩
      · intro m' hlast hcontrol
        -- An unconcluded signal of this type is still that, as long as nothing of its type is
        -- delivered.
        rcases hs.control m' hlast hcontrol with hin | ⟨j, m'', hm'', ht, hsignal, hstage⟩
        · exact Or.inl (hmem.mpr hin)
        · exact Or.inr ⟨j, m'', hm'', ht, hsignal, by rwa [hstays hm'' ht]⟩
      · intro hlast j m' hm' ht
        rw [hstays hm' ht]
        exact hs.untouched hlast j m' hm' ht
  · rw [hnone t, Option.none_or]
    refine ⟨?_, ?_, ?_⟩
    · intro hrecord hin
      -- No step without a delivery completes a type.
      rcases hcompleted with hsame | ⟨i, m, -, -, -, herased⟩
      · exact hs.record hrecord (hsame ▸ hin)
      · rw [herased] at hin
        exact hs.record hrecord (Finset.mem_of_mem_erase hin)
    · intro m hlast hcontrol
      rcases hs.control m hlast hcontrol with hin | ⟨j, m', hm', ht, hsignal, hstage⟩
      -- The completion that is withdrawn is this type's, whose signal is then the one that owes it; or
      -- another's.
      · rcases hcompleted with hsame | ⟨i, m', hm', hsignal, hstage, herased⟩
        · exact Or.inl (hsame ▸ hin)
        · by_cases ht : m'.dataType = t
          · exact Or.inr ⟨i, m', hm', ht, hsignal, Or.inl hstage⟩
          · rw [herased]
            exact Or.inl (Finset.mem_erase.mpr ⟨Ne.symm ht, hin⟩)
      · refine Or.inr ⟨j, m', hm', ht, hsignal, ?_⟩
        -- A signal that had failed, or was back on its queue, is still one or the other.
        rcases hstage with hstage | hstage
        · exact hfailed j hstage
        · exact Or.inr (hqueued j hstage)
    · intro hlast j m hm ht
      exact hqueued j (hs.untouched hlast j m hm ht)

/-- And so over a run from where everything is queued. -/
theorem follows_run {events : List Event} (hqueued : ∀ i, s.stage i = .queued)
    (hrun : Runs.run (importStep posted delay) s events = some s') :
    Follows posted t (lastDelivered posted t events) s' := by
  induction events using List.reverseRecOn generalizing s' with
  | nil =>
    cases hrun
    exact ⟨fun h => (nomatch h), fun _ h => (nomatch h), fun _ i _ _ _ => hqueued i⟩
  | append_singleton events event ih =>
    obtain ⟨m, hm, hlast⟩ := Runs.run_concat.mp hrun
    rw [lastDelivered_concat]
    exact follows_step (ih hm) hlast

/-- Only the four types are ever complete. -/
theorem completedFiles_known {events : List Event}
    (hknown : s.service.completedFiles ⊆ MUSICBRAINZ_DATA_TYPES.toFinset)
    (hrun : Runs.run (importStep posted delay) s events = some s') :
    s'.service.completedFiles ⊆ MUSICBRAINZ_DATA_TYPES.toFinset := by
  let Known (s : Import) : Prop := s.service.completedFiles ⊆ MUSICBRAINZ_DATA_TYPES.toFinset
  suffices hstep : ∀ s event s', Known s → importStep posted delay s event = some s' → Known s' from
    Runs.run_invariant hstep hknown hrun
  intro s event s' hs hstep
  show s'.service.completedFiles ⊆ _
  rcases importStep_cases hstep with
    ⟨i, m, -, -, -, hcompleted, -⟩ | ⟨-, -, -, hcompleted | ⟨i, m, -, -, -, hcompleted⟩⟩
  · rw [hcompleted]
    split
    · exact (Finset.erase_subset _ _).trans hs
    · exact Finset.insert_subset (List.mem_toFinset.mpr m.known) hs
  · rw [hcompleted]
    exact hs
  · rw [hcompleted]
    exact (Finset.erase_subset _ _).trans hs

/-- A type whose messages are all acknowledged is complete unless a record was the last of them. -/
theorem mem_completedFiles_iff {last : Option Message} (hs : Follows posted t last s)
    (hconcluded : Concluded posted t) (hacked : Acknowledged posted t s) :
    t ∈ s.service.completedFiles ↔ last ≠ some .record := by
  constructor
  · rintro hin hrecord
    exact hs.record hrecord hin
  · intro hlast
    cases last with
    | none =>
      obtain ⟨m, hm, ht, -⟩ := hconcluded
      obtain ⟨i, hi⟩ := List.mem_iff_getElem?.mp hm
      have hqueued := hs.untouched rfl i m hi ht
      rw [hacked i m hi ht] at hqueued
      cases hqueued
    | some m =>
      rcases hs.control m rfl (fun heq => hlast (heq ▸ rfl)) with hin | ⟨i, m', hm', ht, -, hstage⟩
      · exact hin
      · rw [hacked i m' hm' ht] at hstage
        rcases hstage with hstage | hstage <;> cases hstage

end Last

/-! ## Completion and delivery order -/

/-- Idle means the four types complete, once no consumer is left. -/
theorem checkAllConsumersIdle_iff {s : State} (htags : s.consumerTags = ∅)
    (hknown : s.completedFiles ⊆ MUSICBRAINZ_DATA_TYPES.toFinset) :
    checkAllConsumersIdle s = true ↔ ∀ t ∈ MUSICBRAINZ_DATA_TYPES, t ∈ s.completedFiles := by
  have hfour : MUSICBRAINZ_DATA_TYPES.toFinset.card = MUSICBRAINZ_DATA_TYPES.length := by
    decide +kernel
  have hcount : s.consumerTags.count = 0 := Table.count_eq_zero.mpr htags
  unfold checkAllConsumersIdle
  rw [hcount, decide_eq_true rfl, Bool.true_and, decide_eq_true_iff, ← hfour]
  constructor
  · intro hcard t ht
    have hall : s.completedFiles = MUSICBRAINZ_DATA_TYPES.toFinset :=
      Finset.eq_of_subset_of_card_le hknown hcard.le
    rw [hall]
    exact List.mem_toFinset.mpr ht
  · intro hall
    have heq : s.completedFiles = MUSICBRAINZ_DATA_TYPES.toFinset :=
      Finset.Subset.antisymm hknown fun t ht => hall t (List.mem_toFinset.mp ht)
    rw [heq]

/-- **Completion depends on the delivery order.**  However an extraction's messages are handled, fail
    and are handled again: a type whose messages are all acknowledged is complete exactly when the last
    of them to be delivered was not a record.  And when all four types are acknowledged and their
    consumers are gone, the loader is idle exactly when that is so of each. -/
theorem completion_depends_on_the_last_delivery (posted : List Posted) (delay : Nat)
    (s₀ s : Import) (events : List Event) (hqueued : ∀ i, s₀.stage i = .queued)
    (hknown : s₀.service.completedFiles ⊆ MUSICBRAINZ_DATA_TYPES.toFinset)
    (hrun : Runs.run (importStep posted delay) s₀ events = some s) :
    (∀ t, Concluded posted t → Acknowledged posted t s →
      (t ∈ s.service.completedFiles ↔ lastDelivered posted t events ≠ some .record)) ∧
    ((∀ t ∈ MUSICBRAINZ_DATA_TYPES, Concluded posted t ∧ Acknowledged posted t s) →
      s.service.consumerTags = ∅ →
      (checkAllConsumersIdle s.service = true ↔
        ∀ t ∈ MUSICBRAINZ_DATA_TYPES, lastDelivered posted t events ≠ some .record)) := by
  have hone (t : DataType) (hconcluded : Concluded posted t) (hacked : Acknowledged posted t s) :
      t ∈ s.service.completedFiles ↔ lastDelivered posted t events ≠ some .record :=
    mem_completedFiles_iff (follows_run hqueued hrun) hconcluded hacked
  refine ⟨hone, ?_⟩
  intro hall htags
  rw [checkAllConsumersIdle_iff htags (completedFiles_known hknown hrun)]
  exact forall₂_congr fun t ht => hone t (hall t ht).1 (hall t ht).2

/-- The messages of two artists and of the other three types' ends. -/
def twoArtists : List Posted :=
  [⟨"artists", .record, by decide⟩, ⟨"artists", .record, by decide⟩,
    ⟨"artists", .fileComplete, by decide⟩, ⟨"artists", .extractionComplete, by decide⟩,
    ⟨"labels", .extractionComplete, by decide⟩, ⟨"release-groups", .extractionComplete, by decide⟩,
    ⟨"releases", .extractionComplete, by decide⟩]

/-- A message handled without a failure. -/
def handles (i : Nat) : Message → List Event
  | .record => [.deliver i, .processed i true, .acknowledge i]
  | .fileComplete => [.deliver i, .acknowledge i]
  | .extractionComplete => [.deliver i, .reconciled i 0 true, .acknowledge i]

/-- The first artist's record fails, waits, and is handled again, before the completion messages. -/
def failsEarly : List Event :=
  [.deliver 0, .processed 0 false] ++ handles 1 .record ++ [.requeue 0] ++ handles 0 .record ++
    handles 2 .fileComplete ++ ([3, 4, 5, 6].map (handles · .extractionComplete)).flatten

theorem completion_of_two_artists :
    ∃ s, Runs.run (importStep twoArtists 300) {} failsEarly = some s ∧
      (∀ t ∈ MUSICBRAINZ_DATA_TYPES, t ∈ s.service.completedFiles) ∧
      checkAllConsumersIdle s.service = true := by
  have hruns : ((Runs.run (importStep twoArtists 300) {} failsEarly).map fun s =>
      decide ((∀ t ∈ MUSICBRAINZ_DATA_TYPES, Concluded twoArtists t ∧ Acknowledged twoArtists t s) ∧
        s.service.consumerTags = ∅)) = some true := by
    decide +kernel
  obtain ⟨s, hrun, hs⟩ := Option.map_eq_some_iff.mp hruns
  obtain ⟨hall, htags⟩ := of_decide_eq_true hs
  obtain ⟨hone, hidle⟩ := completion_depends_on_the_last_delivery twoArtists 300 {} s failsEarly
    (fun _ => rfl) (Finset.empty_subset _) hrun
  have hlast : ∀ t ∈ MUSICBRAINZ_DATA_TYPES,
      lastDelivered twoArtists t failsEarly ≠ some .record := by
    decide +kernel
  refine ⟨s, hrun, ?_, (hidle hall htags).mpr hlast⟩
  intro t ht
  exact (hone t (hall t ht).1 (hall t ht).2).mpr (hlast t ht)

/-- The first artist's record fails and waits while the completion messages are handled. -/
def failsLate : List Event :=
  [.deliver 0, .processed 0 false] ++ handles 1 .record ++ handles 2 .fileComplete ++
    ([3, 4, 5, 6].map (handles · .extractionComplete)).flatten ++ [.requeue 0] ++ handles 0 .record

theorem completion_lost_to_a_late_record :
    ∃ s, Runs.run (importStep twoArtists 300) {} failsLate = some s ∧
      (∀ t ∈ MUSICBRAINZ_DATA_TYPES, Concluded twoArtists t ∧ Acknowledged twoArtists t s) ∧
      s.service.consumerTags = ∅ ∧
      "artists" ∉ s.service.completedFiles ∧ checkAllConsumersIdle s.service = false := by
  have hruns : ((Runs.run (importStep twoArtists 300) {} failsLate).map fun s =>
      decide ((∀ t ∈ MUSICBRAINZ_DATA_TYPES, Concluded twoArtists t ∧ Acknowledged twoArtists t s) ∧
        s.service.consumerTags = ∅ ∧ "artists" ∉ s.service.completedFiles ∧
        checkAllConsumersIdle s.service = false)) = some true := by
    decide +kernel
  obtain ⟨s, hrun, hs⟩ := Option.map_eq_some_iff.mp hruns
  exact ⟨s, hrun, of_decide_eq_true hs⟩

end Broker
