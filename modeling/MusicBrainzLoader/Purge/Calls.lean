/-
  Sequences of calls on one `StaleChildRowPurge`, none overlapping another.

  A `purge` call is driven through all its awaits by an oracle for their answers, so every way the
  database can behave during the call is one `answers` function.  `perform` says what a call leaves
  behind, which boundary it passed to `_settle`, and which `DELETE`s it issued.

  The object remembers only the last boundary it settled; a `Tracked` object comes with all of them,
  which the laws about whole histories (`Purge.Latch`, `Purge.Marks`) speak about.

  Why an oracle, and not a list of answers: a call's number of awaits depends on the answers it gets
  (a table over the cap has no third statement, a failed statement ends the call), so a list would
  have to be cut to measure for each call.  A function from awaits to answers fits every call, and a
  history quantifies over one such function for each purge call in it.

  `drive` takes fuel, since nothing in what `resume` answers is smaller by its shape.  `left` counts
  the awaits a call can still come to, each `resume` makes it smaller (`resume_left`), and
  `runPurge` starts with exactly that much, so the fuel never runs out (`drive_fuel`).

  Everything later is proved from `runPurge_cases`, the four ways a call can end, and never from
  `drive` itself.
-/
import MusicBrainzLoader.Lib.Runs
import MusicBrainzLoader.Purge.Object

namespace Purge

/-! ## Driving one purge call -/

/-- A bound on the awaits a call still has, this one included. -/
def PurgeAwait.left (cfg : PurgeConfig) : PurgeAwait → Nat
  | .slot => 3 * cfg.tables.length + 6
  | .connection => 3 * cfg.tables.length + 5
  | .setAutocommit => 3 * cfg.tables.length + 4
  | .openTransaction => 3 * cfg.tables.length + 3
  | .openCursor => 3 * cfg.tables.length + 2
  | .countAll _ rest => 3 * rest.length + 4
  | .countStale _ _ rest => 3 * rest.length + 3
  | .deleteStale _ _ _ rest => 3 * rest.length + 2
  | .exitStack => 1

/-- The tables a call issues a `DELETE` for, and whether it reaches the end of its block. -/
def drive (cfg : PurgeConfig) (answers : PurgeAwait → Reply) : Nat → PurgeCall → List ChildTable × Bool
  | 0, _ => ([], false)
  | fuel + 1, call =>
    let issued := call.awaiting.deletes.toList
    match resume cfg call (answers call.awaiting) with
    | .raised => (issued, false)
    | .finished _ => (issued, true)
    | .suspended call' =>
      let rest := drive cfg answers fuel call'
      (issued ++ rest.1, rest.2)

theorem left_nextTable (cfg : PurgeConfig) (tables : List ChildTable) :
    (nextTable tables).left cfg = 3 * tables.length + 1 := by
  cases tables with
  | nil => rfl
  | cons table rest => simp only [nextTable, PurgeAwait.left, List.length_cons]; omega

/-- Every await brings the call closer to its end, so `left` is fuel enough for `drive`. -/
theorem resume_left {cfg : PurgeConfig} {call call' : PurgeCall} {reply : Reply}
    (h : resume cfg call reply = .suspended call') :
    call'.awaiting.left cfg < call.awaiting.left cfg := by
  obtain ⟨boundary, awaiting, deleted⟩ := call
  cases reply with
  | raised => simp [resume] at h
  | value n =>
    cases awaiting <;> simp only [resume] at h <;> (try split at h) <;>
      simp only [Resumed.suspended.injEq, reduceCtorEq] at h <;> subst h <;>
      dsimp only <;> (try rw [left_nextTable]) <;> simp only [PurgeAwait.left] <;> omega

/-- More fuel than the awaits left changes nothing: `drive` never stops a call early.  This checks
    `runPurge`, which gives it exactly that much: what it says of a call is said of its end, and not of
    where the fuel gave out. -/
theorem drive_fuel (cfg : PurgeConfig) (answers : PurgeAwait → Reply) {fuel : Nat} {call : PurgeCall}
    (h : call.awaiting.left cfg ≤ fuel) :
    drive cfg answers fuel call = drive cfg answers (call.awaiting.left cfg) call := by
  -- On the fuel: two amounts that are both enough are compared after one step, where each has one less.
  induction fuel using Nat.strong_induction_on generalizing call with
  | _ fuel ih =>
    have hpos : 0 < call.awaiting.left cfg := by cases call.awaiting <;> simp [PurgeAwait.left]
    obtain ⟨f, rfl⟩ : ∃ f, fuel = f + 1 := ⟨fuel - 1, by omega⟩
    obtain ⟨g, hg⟩ : ∃ g, call.awaiting.left cfg = g + 1 := ⟨call.awaiting.left cfg - 1, by omega⟩
    rw [hg, drive, drive]
    cases hr : resume cfg call (answers call.awaiting) with
    | raised => rfl
    | finished _ => rfl
    | suspended call' =>
      have hlt := resume_left hr
      have hf : drive cfg answers f call' = drive cfg answers g call' := by
        rw [ih f (by omega) (by omega)]
        rcases Nat.lt_or_ge g f with hgf | hgf
        · exact (ih g (by omega) (by omega)).symm
        · have : f = g := by omega
          subst this
          exact (ih f (by omega) (by omega)).symm
      simp only [hf]

/-! ## Performing a call -/

/-- An `extraction_complete` message, with the fields the purge reads. -/
def extractionComplete (startedAt : String) (dataType : DataType) (count : Int) : Json :=
  .obj [("record_counts", .obj [(dataType, .int count)]), ("started_at", .str startedAt),
    ("type", .str "extraction_complete")]

/-- A database that answers every statement: of ten rows one is stale. -/
def healthy : PurgeAwait → Reply
  | .countAll _ _ => .value 10
  | .countStale _ _ _ => .value 1
  | .deleteStale _ _ stale _ => .value stale
  | _ => .value 0

/-- A method call, with its arguments; for `purge`, what its awaits will answer. -/
inductive Call where
  | recordCompletion (dataType : DataType) (message : Json)
  | recordDeadLetter (dataType : DataType)
  | reset
  | purge (answers : PurgeAwait → Reply)

/-- What a call did. -/
structure Effect where
  after : StaleChildRowPurge
  /-- The boundary it settled. -/
  settled : Option Instant := none
  /-- The `DELETE`s it issued, each with the boundary it names. -/
  deletes : List (Instant × ChildTable) := []

/-- A whole `purge` call. -/
def runPurge (cfg : PurgeConfig) (answers : PurgeAwait → Reply) (p : StaleChildRowPurge) : Effect :=
  match start cfg p with
  | .vetoed _ p' => { after := p', settled := if p.isLatched cfg then p.boundary else none }
  | .raised => { after := p }
  | .suspended call =>
    let driven := drive cfg answers (call.awaiting.left cfg) call
    { after := if driven.2 then p.settle call.boundary else p
      settled := if driven.2 then some call.boundary else none
      deletes := driven.1.map fun table => (call.boundary, table) }

def Call.isPurge : Call → Bool
  | .purge _ => true
  | _ => false

def perform (cfg : PurgeConfig) (p : StaleChildRowPurge) : Call → Effect
  | .recordCompletion dataType message => { after := p.recordCompletion dataType message }
  | .recordDeadLetter dataType => { after := p.recordDeadLetter dataType }
  | .reset => { after := p.reset }
  | .purge answers => runPurge cfg answers p

/-- The object, and every boundary it has settled so far (which the object itself forgets). -/
structure Tracked where
  obj : StaleChildRowPurge := {}
  settled : List Instant := []

def Tracked.next (cfg : PurgeConfig) (s : Tracked) (call : Call) : Tracked :=
  let effect := perform cfg s.obj call
  { obj := effect.after, settled := effect.settled.toList ++ s.settled }

/-- The state after a sequence of calls. -/
def Tracked.after (cfg : PurgeConfig) (s : Tracked) (calls : List Call) : Tracked :=
  calls.foldl (Tracked.next cfg) s

/-- `ok` holds of the state before each call of the sequence, and of the call. -/
abbrev Tracked.Meets (cfg : PurgeConfig) (ok : Tracked → Call → Prop) : Tracked → List Call → Prop :=
  Runs.Meets (fun s call => some (s.next cfg call)) ok

/-- The state of a freshly constructed object after a sequence of calls. -/
def afterCalls (cfg : PurgeConfig) (calls : List Call) : Tracked :=
  Tracked.after cfg {} calls

theorem Tracked.after_append (cfg : PurgeConfig) (s : Tracked) (xs ys : List Call) :
    Tracked.after cfg s (xs ++ ys) = Tracked.after cfg (Tracked.after cfg s xs) ys :=
  List.foldl_append

theorem afterCalls_append (cfg : PurgeConfig) (xs ys : List Call) :
    afterCalls cfg (xs ++ ys) = Tracked.after cfg (afterCalls cfg xs) ys :=
  Tracked.after_append cfg _ xs ys

theorem afterCalls_concat (cfg : PurgeConfig) (calls : List Call) (call : Call) :
    afterCalls cfg (calls ++ [call]) = (afterCalls cfg calls).next cfg call :=
  afterCalls_append cfg calls [call]

theorem Tracked.Meets.suffix {cfg : PurgeConfig} {ok : Tracked → Call → Prop} {s : Tracked}
    {xs ys : List Call} (h : Tracked.Meets cfg ok s (xs ++ ys)) :
    Tracked.Meets cfg ok (Tracked.after cfg s xs) ys :=
  Runs.Meets.suffix h (Runs.run_total _ s xs)

/-! ## What a purge call can do -/

section RunPurge

variable {cfg : PurgeConfig} {answers : PurgeAwait → Reply} {p : StaleChildRowPurge}

/-- A purge call ends in one of four ways: vetoed while unlatched (nothing happens), vetoed while
    latched (the boundary is settled), failed (nothing happens), or finished (the boundary it
    captured is settled). -/
theorem runPurge_cases (cfg : PurgeConfig) (answers : PurgeAwait → Reply) (p : StaleChildRowPurge) :
    (p.isLatched cfg = false ∧ runPurge cfg answers p = { after := p }) ∨
    (p.isLatched cfg = true ∧ p.vetoReason cfg ≠ none ∧
      runPurge cfg answers p = { after := p.settle p.boundary, settled := p.boundary }) ∨
    (p.vetoReason cfg = none ∧ (runPurge cfg answers p).after = p ∧
      (runPurge cfg answers p).settled = none) ∨
    (p.vetoReason cfg = none ∧ (runPurge cfg answers p).after = p.settle p.boundary ∧
      (runPurge cfg answers p).settled = p.boundary) := by
  unfold runPurge
  cases hs : start cfg p with
  | vetoed reason p' =>
    obtain ⟨hv, rfl⟩ := start_eq_vetoed.mp hs
    -- Vetoed: latched or not is what decides whether it settles.
    cases hl : p.isLatched cfg with
    | false => exact Or.inl ⟨rfl, by simp⟩
    | true => exact Or.inr (Or.inl ⟨rfl, by simp [hv], by simp⟩)
  | raised =>
    -- Raised at once: for want of an admission, which nothing else precedes but the veto.
    by_cases hv : p.vetoReason cfg = none
    · exact Or.inr (Or.inr (Or.inl ⟨hv, rfl, rfl⟩))
    · obtain ⟨reason, hr⟩ := Option.ne_none_iff_exists'.mp hv
      simp [start, hr] at hs
  | suspended call =>
    obtain ⟨b, hb, hv, -, rfl⟩ := start_eq_suspended.mp hs
    -- Under way: it reaches its last await, or an answer before it raises.
    cases hd : (drive cfg answers (PurgeAwait.left cfg .slot) ⟨b, .slot, []⟩).2 with
    | false => exact Or.inr (Or.inr (Or.inl ⟨hv, by simp [hd], by simp [hd]⟩))
    | true => exact Or.inr (Or.inr (Or.inr ⟨hv, by simp [hd, hb], by simp [hd, hb]⟩))

/-- A purge call leaves the collected boundary alone. -/
@[simp] theorem runPurge_boundary : (runPurge cfg answers p).after.boundary = p.boundary := by
  rcases runPurge_cases cfg answers p with ⟨-, h⟩ | ⟨-, -, h⟩ | ⟨-, h, -⟩ | ⟨-, h, -⟩ <;> rw [h] <;> rfl

/-- A purge call leaves the collected signals alone. -/
@[simp] theorem runPurge_signals : (runPurge cfg answers p).after.signals = p.signals := by
  rcases runPurge_cases cfg answers p with ⟨-, h⟩ | ⟨-, -, h⟩ | ⟨-, h, -⟩ | ⟨-, h, -⟩ <;> rw [h] <;> rfl

/-- Only a call that settles a boundary clears the marks. -/
theorem runPurge_deadLettered (h : (runPurge cfg answers p).settled = none) :
    (runPurge cfg answers p).after = p := by
  rcases runPurge_cases cfg answers p with ⟨-, he⟩ | ⟨hl, -, he⟩ | ⟨-, he, -⟩ | ⟨hv, -, hs⟩
  · rw [he]
  · rw [he] at h
    exact absurd h (StaleChildRowPurge.isLatched_iff.mp hl).1
  · exact he
  · have hl := (StaleChildRowPurge.vetoReason_eq_none.mp hv).1
    exact absurd (hs ▸ h) (StaleChildRowPurge.isLatched_iff.mp hl).1

/-- What a call settles is the latched boundary. -/
theorem runPurge_settled {b : Instant} (h : (runPurge cfg answers p).settled = some b) :
    p.isLatched cfg = true ∧ p.boundary = some b := by
  rcases runPurge_cases cfg answers p with ⟨-, he⟩ | ⟨hl, -, he⟩ | ⟨-, -, he⟩ | ⟨hv, -, he⟩
  · simp [he] at h
  · rw [he] at h
    exact ⟨hl, h⟩
  · simp [he] at h
  · exact ⟨(StaleChildRowPurge.vetoReason_eq_none.mp hv).1, he ▸ h⟩

/-- A `DELETE` names the collected boundary, and only an unvetoed call issues one. -/
theorem runPurge_deletes {b : Instant} {table : ChildTable}
    (h : (b, table) ∈ (runPurge cfg answers p).deletes) :
    p.vetoReason cfg = none ∧ p.boundary = some b := by
  unfold runPurge at h
  cases hs : start cfg p with
  | vetoed reason p' => simp [hs] at h
  | raised => simp [hs] at h
  | suspended call =>
    obtain ⟨c, hc, hv, -, rfl⟩ := start_eq_suspended.mp hs
    simp only [hs, List.mem_map, Prod.mk.injEq] at h
    obtain ⟨-, -, rfl, -⟩ := h
    exact ⟨hv, hc⟩

/-- Two objects that a purge is not vetoed for, with one boundary, issue the same `DELETE`s. -/
theorem runPurge_deletes_congr {q : StaleChildRowPurge} (hp : p.vetoReason cfg = none)
    (hq : q.vetoReason cfg = none) (hb : p.boundary = q.boundary) :
    (runPurge cfg answers p).deletes = (runPurge cfg answers q).deletes := by
  have hstart : start cfg p = start cfg q := by
    simp only [start, hp, hq, hb]
    cases q.boundary <;> rfl
  unfold runPurge
  rw [hstart]
  cases hs : start cfg q with
  | vetoed reason p' => rfl
  | raised => rfl
  | suspended call => rfl

end RunPurge

end Purge
