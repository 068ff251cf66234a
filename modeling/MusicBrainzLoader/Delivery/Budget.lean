/-
  The requeue budget (`_broker_handouts`, `_MusicBrainzFailureClassifier`): how often a message whose
  deliveries keep failing is handed out before it is rejected.

  The loop runs through the broker.  A failed delivery is requeued, the broker hands the message out
  again with a larger count in its headers, and the classifier reads the budget off that count.  So the
  state is the message at the broker, and a step is one hand-out; `settle` is what `run_delivery` does
  with the classifier's answer.

  The broker keeps two counts in the headers, one of all hand-outs and one of failed deliveries, and
  the code takes the larger of those that are there.  The first delivery has neither; from then on
  the count of hand-outs is there, and the other is never larger (`Stamped`).  So what the
  classifier reads is the number of hand-outs before this one (`brokerHandouts_stamped`).  That
  number is not the number of failures: a connection that is lost returns the message unsettled, and
  that counts as a hand-out all the same.  The two agree in a sequence where every hand-out fails
  (`handouts_eq_failures`).

  Errors differ from one delivery to the next, so the budget alone does not say when a sequence
  ends: an error that is a verdict on the record ends it at once, whatever the count.  Hence the
  bound is an upper one (`exists_rejection`, by the least index at which a delivery is rejected),
  and what comes before it is told by the error (`early_rejection`).
-/
import Mathlib.Data.Int.Order.Basic
import Mathlib.Data.Nat.Find
import MusicBrainzLoader.Json
import MusicBrainzLoader.Lib.Runs

namespace Delivery

open Runs

/-! ## The classifier -/

/-- `MAX_REQUEUES`. -/
def MAX_REQUEUES : Nat := 500

inductive FailureKind where
  | transient
  | deterministic
deriving DecidableEq, Repr

inductive Settlement where
  | ack
  | reject
  | requeue
  | defer
deriving DecidableEq, Repr

/-- The exception classes the classifier asks for. -/
inductive ErrorClass where
  | interfaceError
  | operationalError
  | databaseUnavailable
  | dataError
  | integrityError
deriving DecidableEq, Repr

/-- An exception: its type's name, and what the classifier can tell of it. -/
structure Error where
  name : String
  /-- `is_permanent_operational_error`. -/
  permanent : Bool := false
  /-- The classes `isinstance` finds it in. -/
  classes : List ErrorClass := []
deriving DecidableEq, Repr

/-- `ReconciliationFailed`, in none of the classes. -/
def ReconciliationFailed : Error := { name := "ReconciliationFailed" }

/-- `_broker_handouts`: how often the message was handed out before. -/
def brokerHandouts (headers : Json) : Int :=
  if !headers.isObj then 0
  else
    let counts := ["x-acquired-count", "x-delivery-count"].map headers.get
    ((counts.filterMap Json.asInt?).max?).getD 0

/-- `_classify`. -/
def classify (error : Error) : FailureKind :=
  if error.permanent then .deterministic
  else if .interfaceError ∈ error.classes ∨ .operationalError ∈ error.classes ∨
      .databaseUnavailable ∈ error.classes then .transient
  else if .dataError ∈ error.classes ∨ .integrityError ∈ error.classes then .deterministic
  else .transient

/-- `_MusicBrainzFailureClassifier.__call__`. -/
def failureKind (handouts : Int) (error : Error) : FailureKind :=
  if classify error = .transient ∧ (MAX_REQUEUES : Int) ≤ handouts then .deterministic
  else classify error

/-- Which errors are a verdict on the record. -/
theorem classify_deterministic {error : Error} (h : classify error = .deterministic) :
    error.permanent ∨ .dataError ∈ error.classes ∨ .integrityError ∈ error.classes := by
  unfold classify at h
  split at h
  · rename_i hpermanent
    exact .inl hpermanent
  · split at h
    · cases h
    · split at h
      · rename_i hverdict
        exact .inr hverdict
      · cases h

/-- Below the budget the classifier says what the error says. -/
theorem failureKind_below {handouts : Int} (h : handouts < MAX_REQUEUES) (error : Error) :
    failureKind handouts error = classify error := by
  have hwithin : ¬ (MAX_REQUEUES : Int) ≤ handouts := by omega
  exact if_neg fun hspent => hwithin hspent.2

/-- Once it is spent, every error is a verdict. -/
theorem failureKind_spent {handouts : Int} (h : (MAX_REQUEUES : Int) ≤ handouts) (error : Error) :
    failureKind handouts error = .deterministic := by
  unfold failureKind
  cases hkind : classify error with
  | transient => exact if_pos ⟨rfl, h⟩
  | deterministic => exact if_neg fun hspent => FailureKind.noConfusion hspent.1

/-! ## The broker's counts -/

/-- The headers the broker puts on a delivery after this many hand-outs: `x-acquired-count` counts them
    all and is absent from a first delivery; `x-delivery-count` is not larger. -/
def Stamped (handouts : Nat) (headers : Json) : Prop :=
  ((headers.get "x-acquired-count").asInt? = some (handouts : Int) ∨
      handouts = 0 ∧ headers.get "x-acquired-count" = .null) ∧
    (headers.get "x-delivery-count").asInt?.all (· ≤ (handouts : Int))

instance (handouts : Nat) (headers : Json) : Decidable (Stamped handouts headers) :=
  inferInstanceAs (Decidable (_ ∧ _))

/-- The largest of the counts that are there. -/
theorem brokerHandouts_eq (headers : Json) :
    brokerHandouts headers = (((headers.get "x-acquired-count").asInt?.toList ++
      (headers.get "x-delivery-count").asInt?.toList).max?).getD 0 := by
  cases headers with
  | obj members =>
    show (([(Json.obj members).get "x-acquired-count",
      (Json.obj members).get "x-delivery-count"].filterMap Json.asInt?).max?).getD 0 = _
    rw [List.filterMap_cons, List.filterMap_cons, List.filterMap_nil]
    cases ((Json.obj members).get "x-acquired-count").asInt? <;>
      cases ((Json.obj members).get "x-delivery-count").asInt? <;> rfl
  | _ => rfl

/-- The count the classifier reads is the number of hand-outs, from the first redelivery on. -/
theorem brokerHandouts_stamped {handouts : Nat} {headers : Json} (h : Stamped handouts headers) :
    brokerHandouts headers ≤ handouts ∧ (0 < handouts → brokerHandouts headers = handouts) := by
  obtain ⟨hacquired, hdelivery⟩ := h
  rw [brokerHandouts_eq]
  rcases hacquired with hacquired | ⟨rfl, habsent⟩
  · rw [hacquired]
    cases hcount : (headers.get "x-delivery-count").asInt? with
    | none => exact ⟨le_refl _, fun _ => rfl⟩
    | some delivery =>
      rw [hcount] at hdelivery
      have hle : delivery ≤ (handouts : Int) := of_decide_eq_true hdelivery
      have hmax : max (handouts : Int) delivery = handouts := max_eq_left hle
      exact ⟨le_of_eq hmax, fun _ => hmax⟩
  · rw [habsent]
    refine ⟨?_, fun h => absurd h (lt_irrefl 0)⟩
    cases hcount : (headers.get "x-delivery-count").asInt? with
    | none => exact le_refl 0
    | some delivery =>
      rw [hcount] at hdelivery
      exact of_decide_eq_true hdelivery

/-- **The classifier and the broker agree on when the budget is spent.** -/
theorem spent_iff {handouts : Nat} {headers : Json} (h : Stamped handouts headers) :
    (MAX_REQUEUES : Int) ≤ brokerHandouts headers ↔ MAX_REQUEUES ≤ handouts := by
  obtain ⟨hle, heq⟩ := brokerHandouts_stamped h
  constructor
  · intro hspent
    omega
  · intro hspent
    have hpositive : 0 < handouts := by
      have hbudget : 0 < MAX_REQUEUES := by decide
      omega
    have hcount := heq hpositive
    omega

/-! ## A message at the broker -/

structure Message where
  /-- How often it has been handed out. -/
  handouts : Nat := 0
  /-- How many of its deliveries have failed. -/
  failures : Nat := 0
  rejected : Bool := false
deriving DecidableEq, Repr

/-- One hand-out of the message. -/
inductive HandOut where
  /-- Its processing raises. -/
  | failed (headers : Json) (error : Error)
  /-- It comes back unsettled, as when its connection closes. -/
  | returned (headers : Json)
deriving DecidableEq

def HandOut.headers : HandOut → Json
  | .failed headers _ => headers
  | .returned headers => headers

def HandOut.isFailure : HandOut → Bool
  | .failed _ _ => true
  | .returned _ => false

/-- What `run_delivery` does with a failed delivery. -/
def settlement (settle : FailureKind → Settlement) (headers : Json) (error : Error) : Settlement :=
  settle (failureKind (brokerHandouts headers) error)

/-- One hand-out, with the headers that go with it; a rejected message has none. -/
def handOut (settle : FailureKind → Settlement) (m : Message) (h : HandOut) : Option Message :=
  if m.rejected ∨ ¬ Stamped m.handouts h.headers then none
  else match h with
    | .failed headers error => some {
        handouts := m.handouts + 1
        failures := m.failures + 1
        rejected := decide (settlement settle headers error = .reject) }
    | .returned _ => some { m with handouts := m.handouts + 1 }

/-! ## Each hand-out -/

section HandOut

variable {settle : FailureKind → Settlement} {m m' : Message}

theorem handOut_failed {headers : Json} {error : Error} :
    handOut settle m (.failed headers error) = some m' ↔
      m.rejected = false ∧ Stamped m.handouts headers ∧
        m' = ⟨m.handouts + 1, m.failures + 1,
          decide (settlement settle headers error = .reject)⟩ := by
  unfold handOut
  split
  · rename_i hrefused
    constructor
    · intro h
      cases h
    · rintro ⟨hopen, hstamped, -⟩
      rcases hrefused with hrejected | hunstamped
      · rw [hopen] at hrejected
        cases hrejected
      · exact absurd hstamped hunstamped
  · rename_i haccepted
    rw [not_or, not_not, Bool.not_eq_true] at haccepted
    rw [Option.some.injEq]
    exact ⟨fun h => ⟨haccepted.1, haccepted.2, h.symm⟩, fun h => h.2.2.symm⟩

/-- A message that comes back unsettled has only been handed out once more. -/
theorem handOut_returned {headers : Json} (h : handOut settle m (.returned headers) = some m') :
    m.rejected = false ∧ m' = { m with handouts := m.handouts + 1 } := by
  unfold handOut at h
  split at h
  · cases h
  · rename_i haccepted
    rw [not_or, Bool.not_eq_true] at haccepted
    exact ⟨haccepted.1, (Option.some.inj h).symm⟩

/-- A failure once the budget is spent is a rejection. -/
theorem rejected_of_spent (hdeterministic : settle .deterministic = .reject) {headers : Json}
    (error : Error) (hspent : MAX_REQUEUES ≤ m.handouts) (hstamped : Stamped m.handouts headers) :
    settlement settle headers error = .reject := by
  unfold settlement
  rw [failureKind_spent ((spent_iff hstamped).mpr hspent), hdeterministic]

/-- Before that it is what the error says. -/
theorem settlement_of_within (settle : FailureKind → Settlement) {headers : Json} (error : Error)
    (hwithin : m.handouts < MAX_REQUEUES) (hstamped : Stamped m.handouts headers) :
    settlement settle headers error = settle (classify error) := by
  have hbelow : brokerHandouts headers < MAX_REQUEUES := by
    by_contra hspent
    have hreached := (spent_iff hstamped).mp (not_lt.mp hspent)
    omega
  unfold settlement
  rw [failureKind_below hbelow]

/-- What holds of every message: its failures are hand-outs, and while it is not rejected they all fell
    within the budget. -/
structure Within (m : Message) : Prop where
  counted : m.failures ≤ m.handouts
  failures_le : m.failures ≤ MAX_REQUEUES + 1
  unspent : m.rejected = false → m.failures ≤ MAX_REQUEUES

theorem within_handOut (hdeterministic : settle .deterministic = .reject) {h : HandOut}
    (hinv : Within m) (hstep : handOut settle m h = some m') : Within m' := by
  cases h with
  | failed headers error =>
    obtain ⟨hopen, hstamped, rfl⟩ := handOut_failed.mp hstep
    have hbefore := hinv.unspent hopen
    refine ⟨Nat.succ_le_succ hinv.counted, Nat.succ_le_succ hbefore, fun hkept => ?_⟩
    show m.failures + 1 ≤ MAX_REQUEUES
    -- A full budget would have been spent on hand-outs, and this failure rejected.
    by_contra hfull
    have hcounted := hinv.counted
    have hspent : MAX_REQUEUES ≤ m.handouts := by omega
    have hreject := rejected_of_spent hdeterministic error hspent hstamped
    exact absurd hreject (of_decide_eq_false hkept)
  | returned headers =>
    obtain ⟨hopen, rfl⟩ := handOut_returned hstep
    exact ⟨Nat.le_succ_of_le hinv.counted, hinv.failures_le, hinv.unspent⟩

end HandOut

/-! ## Every sequence of hand-outs -/

section Sequences

variable {settle : FailureKind → Settlement}

theorem within_run (hdeterministic : settle .deterministic = .reject) {handOuts : List HandOut}
    {m : Message} (hrun : run (handOut settle) {} handOuts = some m) : Within m :=
  run_invariant (fun _ _ _ hinv hstep => within_handOut hdeterministic hinv hstep)
    ⟨le_refl 0, Nat.zero_le _, fun _ => Nat.zero_le _⟩ hrun

/-- Where every hand-out fails, failures and hand-outs are one count. -/
theorem handouts_eq_failures {handOuts : List HandOut} {m : Message}
    (hrun : run (handOut settle) {} handOuts = some m) (hfail : ∀ h ∈ handOuts, h.isFailure) :
    m.handouts = m.failures := by
  induction handOuts using List.reverseRecOn generalizing m with
  | nil =>
    cases hrun
    rfl
  | append_singleton handOuts h ih =>
    obtain ⟨before, hbefore, hstep⟩ := run_concat.mp hrun
    have heq := ih hbefore fun h hmem => hfail h (List.mem_append_left _ hmem)
    have hlast := hfail h (List.mem_append_right _ (List.mem_singleton_self h))
    cases h with
    | failed headers error =>
      obtain ⟨-, -, rfl⟩ := handOut_failed.mp hstep
      show before.handouts + 1 = before.failures + 1
      omega
    | returned headers => cases hlast

/-- The first `n` deliveries of an endless sequence of failures. -/
def firstFailures (failures : Nat → Json × Error) (n : Nat) : List HandOut :=
  (List.range n).map fun i => .failed (failures i).1 (failures i).2

theorem firstFailures_succ (failures : Nat → Json × Error) (n : Nat) :
    firstFailures failures (n + 1) =
      firstFailures failures n ++ [.failed (failures n).1 (failures n).2] := by
  unfold firstFailures
  rw [List.range_succ, List.map_append]
  rfl

/-- As long as no delivery is rejected, the message goes out again. -/
theorem run_firstFailures {failures : Nat → Json × Error}
    (hstamped : ∀ i, Stamped i (failures i).1) {n : Nat}
    (hkept : ∀ i < n, settlement settle (failures i).1 (failures i).2 ≠ .reject) :
    run (handOut settle) {} (firstFailures failures n) = some ⟨n, n, false⟩ := by
  induction n with
  | zero => rfl
  | succ n ih =>
    rw [firstFailures_succ]
    refine run_concat.mpr ⟨_, ih fun i hi => hkept i (Nat.lt_succ_of_lt hi), ?_⟩
    have hlast := hkept n (Nat.lt_succ_self n)
    refine handOut_failed.mpr ⟨rfl, hstamped n, ?_⟩
    rw [decide_eq_false hlast]

/-- The first rejection ends it. -/
theorem run_firstRejection {failures : Nat → Json × Error}
    (hstamped : ∀ i, Stamped i (failures i).1) {n : Nat}
    (hkept : ∀ i < n, settlement settle (failures i).1 (failures i).2 ≠ .reject)
    (hreject : settlement settle (failures n).1 (failures n).2 = .reject) :
    run (handOut settle) {} (firstFailures failures (n + 1)) = some ⟨n + 1, n + 1, true⟩ := by
  rw [firstFailures_succ]
  refine run_concat.mpr ⟨_, run_firstFailures hstamped hkept, ?_⟩
  refine handOut_failed.mpr ⟨rfl, hstamped n, ?_⟩
  rw [decide_eq_true hreject]

/-- **An endless sequence of failures is cut by a rejection within the budget.** -/
theorem exists_rejection (hdeterministic : settle .deterministic = .reject)
    {failures : Nat → Json × Error} (hstamped : ∀ i, Stamped i (failures i).1) :
    ∃ n, n ≤ MAX_REQUEUES ∧
      run (handOut settle) {} (firstFailures failures (n + 1)) = some ⟨n + 1, n + 1, true⟩ := by
  let rejects (n : Nat) : Prop := settlement settle (failures n).1 (failures n).2 = .reject
  have hbudget : rejects MAX_REQUEUES :=
    rejected_of_spent (m := ⟨MAX_REQUEUES, 0, false⟩) hdeterministic _ (le_refl MAX_REQUEUES)
      (hstamped MAX_REQUEUES)
  have hsome : ∃ n, rejects n := ⟨MAX_REQUEUES, hbudget⟩
  refine ⟨Nat.find hsome, Nat.find_min' hsome hbudget, ?_⟩
  exact run_firstRejection hstamped (fun i hi => Nat.find_min hsome hi) (Nat.find_spec hsome)

/-- A failure that is rejected within the budget is the error's own doing. -/
theorem early_rejection (htransient : settle .transient = .requeue) {m m' : Message} {headers : Json}
    {error : Error} (hstep : handOut settle m (.failed headers error) = some m')
    (hrejected : m'.rejected = true) (hwithin : m.handouts < MAX_REQUEUES) :
    .dataError ∈ error.classes ∨ .integrityError ∈ error.classes ∨ error.permanent = true := by
  obtain ⟨-, hstamped, rfl⟩ := handOut_failed.mp hstep
  have hreject : settle (classify error) = .reject := by
    rw [← settlement_of_within settle error hwithin hstamped]
    exact of_decide_eq_true hrejected
  have hverdict : classify error = .deterministic := by
    cases hkind : classify error with
    | transient =>
      rw [hkind, htransient] at hreject
      cases hreject
    | deterministic => rfl
  rcases classify_deterministic hverdict with hpermanent | hdata | hintegrity
  · exact .inr (.inr hpermanent)
  · exact .inl hdata
  · exact .inr (.inl hintegrity)

/-- A message that fails transiently every time spends the whole budget, and nothing more. -/
theorem run_transient (htransient : settle .transient = .requeue)
    (hdeterministic : settle .deterministic = .reject) {failures : Nat → Json × Error}
    (hstamped : ∀ i, Stamped i (failures i).1)
    (hfailures : ∀ i, classify (failures i).2 = .transient) :
    run (handOut settle) {} (firstFailures failures (MAX_REQUEUES + 1)) =
      some ⟨MAX_REQUEUES + 1, MAX_REQUEUES + 1, true⟩ := by
  refine run_firstRejection hstamped (fun i hi => ?_) ?_
  · have hkept := settlement_of_within (m := ⟨i, i, false⟩) settle (failures i).2 hi (hstamped i)
    rw [hkept, hfailures i, htransient]
    exact Settlement.noConfusion
  · exact rejected_of_spent (m := ⟨MAX_REQUEUES, 0, false⟩) hdeterministic _ (le_refl MAX_REQUEUES)
      (hstamped MAX_REQUEUES)

/-- **The requeue budget ends every retry and ends none early**, where `run_delivery` requeues what is
    transient and rejects what is deterministic.  A message has at most `MAX_REQUEUES + 1` failed
    deliveries, whatever returns it in between; so many hand-outs at most, where each of them fails; an
    endless sequence of failures reaches its rejection by then, and one of transient failures exactly
    then; and with fewer than `MAX_REQUEUES` earlier hand-outs only the error itself is a reason. -/
theorem requeue_budget (htransient : settle .transient = .requeue)
    (hdeterministic : settle .deterministic = .reject) :
    (∀ handOuts m, run (handOut settle) {} handOuts = some m →
      m.failures ≤ MAX_REQUEUES + 1 ∧
        ((∀ h ∈ handOuts, h.isFailure) → m.handouts ≤ MAX_REQUEUES + 1)) ∧
      (∀ failures : Nat → Json × Error, (∀ i, Stamped i (failures i).1) →
        ∃ n, n ≤ MAX_REQUEUES ∧
          run (handOut settle) {} (firstFailures failures (n + 1)) = some ⟨n + 1, n + 1, true⟩) ∧
      (∀ handOuts m headers error m', run (handOut settle) {} handOuts = some m →
        handOut settle m (.failed headers error) = some m' → m'.rejected = true →
          m.handouts < MAX_REQUEUES →
            .dataError ∈ error.classes ∨ .integrityError ∈ error.classes ∨ error.permanent = true) ∧
      (∀ failures : Nat → Json × Error, (∀ i, Stamped i (failures i).1) →
        (∀ i, classify (failures i).2 = .transient) →
          run (handOut settle) {} (firstFailures failures (MAX_REQUEUES + 1)) =
            some ⟨MAX_REQUEUES + 1, MAX_REQUEUES + 1, true⟩) := by
  refine ⟨fun handOuts m hrun => ?_, fun failures hstamped => ?_, ?_, fun failures hstamped => ?_⟩
  -- The count of failures is kept within the budget; with nothing but failures it is the count of hand-
  -- outs.
  · have hinv := within_run hdeterministic hrun
    refine ⟨hinv.failures_le, fun hfail => ?_⟩
    rw [handouts_eq_failures hrun hfail]
    exact hinv.failures_le
  · exact exists_rejection hdeterministic hstamped
  -- Within the budget a rejection is the classifier's own.
  · intro _ m headers error m' _ hstep hrejected hwithin
    exact early_rejection htransient hstep hrejected hwithin
  · exact run_transient htransient hdeterministic hstamped

end Sequences

/-- The runner the loader is deployed with. -/
def sampleSettle : FailureKind → Settlement
  | .transient => .requeue
  | .deterministic => .reject

/-- A reconciliation that never succeeds is dead-lettered at its 501st hand-out. -/
theorem reconciliation_budget :
    run (handOut sampleSettle) {}
        (firstFailures (fun i => (.obj [("x-acquired-count", .int i)], ReconciliationFailed))
          (MAX_REQUEUES + 1)) =
      some ⟨MAX_REQUEUES + 1, MAX_REQUEUES + 1, true⟩ := by
  have htransient : sampleSettle .transient = .requeue := rfl
  have hdeterministic : sampleSettle .deterministic = .reject := rfl
  refine (requeue_budget htransient hdeterministic).2.2.2 _ (fun i => ⟨.inl rfl, ?_⟩) fun _ => ?_
  · rfl
  · rfl

end Delivery
