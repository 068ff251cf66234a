/-
  Collecting the signals.

  `record_completion` is the collection of the latest (`Latest.Collection`), with the boundary as the
  time and a type's count as its entry.  So what a fresh object holds after any number of usable signals
  is read off them as a set, and neither their order, nor their multiplicity, nor the spelling of their
  instants matters.

  That is not how the code proceeds.  It keeps one boundary and one dictionary, drops both when a
  later boundary arrives and ignores what is older, so what it holds in between does depend on the
  order; and it compares parsed instants, while messages carry texts.  The proof goes through the
  events instead:

  * a usable signal is one `Latest.Event` (`collection_recordCompletion`), its instant already read;
  * so a fresh object holds the collection of its signals' events (`collection_collected`, by induction
    from the end of the list), and the library's uniqueness says that a collection is determined by the
    SET of events;
  * two deliveries that say the same things have the same set of events (`mem_events_said`).

  Instants are compared as read, and `said_messageAt` says of the reader that nothing but the
  instant meant goes into them: an offset, a `Z` and a naive timestamp in UTC all come to one.
-/
import MusicBrainzLoader.Lib.Latest
import MusicBrainzLoader.Purge.Object

namespace Purge

/-- A fresh object after these signals, each a type with its message. -/
def collected (signals : List (DataType × Json)) : StaleChildRowPurge :=
  signals.foldl (fun p s => p.recordCompletion s.1 s.2) {}

/-- What a usable signal says: an instant, its type, and the count it reports. -/
def signalEvent (s : DataType × Json) : Option (Latest.Event Instant DataType (Option Int)) :=
  (parseStartedAt (s.2.get "started_at")).map fun startedAt =>
    ⟨startedAt, s.1, reportedCount s.1 s.2⟩

/-- What a signal comes to: its type, its instant, and its count. -/
def said (s : DataType × Json) : DataType × Option Instant × Option Int :=
  (s.1, parseStartedAt (s.2.get "started_at"), reportedCount s.1 s.2)

/-- A signal's message, with its instant as written. -/
def messageAt (recordCounts : Json) (w : Iso8601.Written) : Json :=
  .obj [("record_counts", recordCounts), ("started_at", .str (String.ofList w.text))]

/-- A written instant is usable, and is the instant that is meant. -/
theorem parseStartedAt_text (w : Iso8601.Written) :
    parseStartedAt (.str (String.ofList w.text)) = some w.instant := by
  have hne : String.ofList w.text ≠ "" := by
    intro h
    have hnil : w.text = [] := String.ofList_injective h
    cases hnil
  show (if String.ofList w.text = "" then none else _) = _
  rw [if_neg hne, String.toList_ofList]
  exact Iso8601.instant_text w

/-- **A signal says the same however its instant is written**: with any offset, with `Z`, or naively. -/
theorem said_messageAt (t : DataType) (recordCounts : Json) {w w' : Iso8601.Written}
    (hinstant : w.instant = w'.instant) :
    said (t, messageAt recordCounts w) = said (t, messageAt recordCounts w') := by
  have hsaid (w : Iso8601.Written) : said (t, messageAt recordCounts w) =
      (t, some w.instant, reportedCount t (.obj [("record_counts", recordCounts)])) := by
    show (t, parseStartedAt (.str (String.ofList w.text)), _) = _
    rw [parseStartedAt_text]
    rfl
  rw [hsaid, hsaid, hinstant]

namespace StaleChildRowPurge

/-- The part of the object that the signals write. -/
def collection (p : StaleChildRowPurge) : Latest.Collection Instant DataType (Option Int) :=
  ⟨p.boundary, p.signals⟩

theorem eq_of_collection {p q : StaleChildRowPurge} (hcollection : p.collection = q.collection)
    (hmarks : p.deadLettered = q.deadLettered) (hsettled : p.settledBoundary = q.settledBoundary) :
    p = q := by
  obtain ⟨boundary, signals, deadLettered, settledBoundary⟩ := p
  obtain rfl : boundary = q.boundary := congrArg (·.time) hcollection
  obtain rfl : signals = q.signals := congrArg (·.entries) hcollection
  obtain rfl : deadLettered = q.deadLettered := hmarks
  obtain rfl : settledBoundary = q.settledBoundary := hsettled
  rfl

/-- A signal at a usable instant is one more event. -/
theorem collection_recordCompletion {p : StaleChildRowPurge} {s : DataType × Json}
    {e : Latest.Event Instant DataType (Option Int)} (h : signalEvent s = some e) :
    (p.recordCompletion s.1 s.2).collection = p.collection.add e := by
  obtain ⟨startedAt, hstartedAt, rfl⟩ := Option.map_eq_some_iff.mp h
  unfold recordCompletion
  rw [hstartedAt]
  show (p.collect s.1 startedAt (reportedCount s.1 s.2)).collection = _
  unfold collect Latest.Collection.add collection
  dsimp only
  split
  · rfl
  · split <;> rfl

end StaleChildRowPurge

section Collected

variable {signals : List (DataType × Json)}

/-- Signals touch neither the marks nor the settled boundary. -/
theorem collected_frame (signals : List (DataType × Json)) :
    (collected signals).deadLettered = ∅ ∧ (collected signals).settledBoundary = none := by
  induction signals using List.reverseRecOn with
  | nil => exact ⟨rfl, rfl⟩
  | append_singleton signals s ih =>
    unfold collected
    rw [List.foldl_append]
    constructor
    · exact StaleChildRowPurge.recordCompletion_deadLettered s.1 s.2 |>.trans ih.1
    · exact StaleChildRowPurge.recordCompletion_settledBoundary s.1 s.2 |>.trans ih.2

/-- **A fresh object collects the events of its signals.** -/
theorem collection_collected (husable : ∀ s ∈ signals, signalEvent s ≠ none) :
    (collected signals).collection = Latest.collect (signals.filterMap signalEvent) := by
  induction signals using List.reverseRecOn with
  | nil => rfl
  | append_singleton signals s ih =>
    have hlast : s ∈ signals ++ [s] := List.mem_append_right _ (List.mem_singleton_self s)
    obtain ⟨e, he⟩ := Option.ne_none_iff_exists'.mp (husable s hlast)
    have hstep : collected (signals ++ [s]) = (collected signals).recordCompletion s.1 s.2 := by
      unfold collected
      rw [List.foldl_append]
      rfl
    rw [hstep, StaleChildRowPurge.collection_recordCompletion he,
      ih fun s' hs' => husable s' (List.mem_append_left _ hs'), List.filterMap_append]
    unfold Latest.collect
    rw [List.foldl_append]
    simp [he]

/-- The events of some signals, one by one. -/
theorem mem_events {e : Latest.Event Instant DataType (Option Int)} :
    e ∈ signals.filterMap signalEvent ↔
      ∃ s ∈ signals, s.1 = e.key ∧ parseStartedAt (s.2.get "started_at") = some e.time ∧
        reportedCount s.1 s.2 = e.value := by
  rw [List.mem_filterMap]
  constructor
  · rintro ⟨s, hs, he⟩
    obtain ⟨startedAt, hstartedAt, rfl⟩ := Option.map_eq_some_iff.mp he
    exact ⟨s, hs, rfl, hstartedAt, rfl⟩
  · rintro ⟨s, hs, htype, hstartedAt, hcount⟩
    refine ⟨s, hs, ?_⟩
    unfold signalEvent
    rw [hstartedAt, hcount, htype]
    rfl

theorem mem_events_said {e : Latest.Event Instant DataType (Option Int)} :
    e ∈ signals.filterMap signalEvent ↔
      ∃ s ∈ signals, said s = (e.key, some e.time, e.value) := by
  rw [mem_events]
  unfold said
  simp only [Prod.mk.injEq]

/-- **Signal collection does not depend on arrival order.**  Two deliveries of the same signals, in any
    orders and multiplicities and however their instants are spelled, leave a fresh object the same: at
    the latest instant, with the counts of the types that signalled at it.  Signals are the same when
    they say the same, which two spellings of one instant do. -/
theorem collection_is_order_independent (xs ys : List (DataType × Json))
    (husable : ∀ s ∈ xs ++ ys, parseStartedAt (s.2.get "started_at") ≠ none)
    (hconsistent : ∀ s ∈ xs, ∀ s' ∈ xs, s.1 = s'.1 →
      parseStartedAt (s.2.get "started_at") = parseStartedAt (s'.2.get "started_at") →
        reportedCount s.1 s.2 = reportedCount s'.1 s'.2)
    (hxs : ∀ s ∈ xs, ∃ s' ∈ ys, said s' = said s) (hys : ∀ s ∈ ys, ∃ s' ∈ xs, said s' = said s) :
    (∀ b, (collected xs).boundary = some b ↔
      (∃ s ∈ xs, parseStartedAt (s.2.get "started_at") = some b) ∧
        ∀ s ∈ xs, ∀ b', parseStartedAt (s.2.get "started_at") = some b' → b' ≤ b) ∧
    (∀ t count, (collected xs).signals.lookup t = some count ↔
      ∃ s ∈ xs, s.1 = t ∧ reportedCount s.1 s.2 = count ∧
        (collected xs).boundary = parseStartedAt (s.2.get "started_at")) ∧
    collected xs = collected ys ∧
    (∀ cfg, (collected xs).isLatched cfg = (collected ys).isLatched cfg ∧
      (collected xs).pendingDataTypes cfg = (collected ys).pendingDataTypes cfg ∧
      (collected xs).emptyDataTypes = (collected ys).emptyDataTypes) ∧
    ∀ t recordCounts (w w' : Iso8601.Written), w.instant = w'.instant →
      said (t, messageAt recordCounts w) = said (t, messageAt recordCounts w') := by
  -- The two deliveries come to the same events, in whatever order and however often.
  have hevents : ∀ e, e ∈ xs.filterMap signalEvent ↔ e ∈ ys.filterMap signalEvent := by
    intro e
    rw [mem_events_said, mem_events_said]
    constructor
    · rintro ⟨s, hs, he⟩
      obtain ⟨s', hs', hsaid⟩ := hxs s hs
      exact ⟨s', hs', hsaid.trans he⟩
    · rintro ⟨s, hs, he⟩
      obtain ⟨s', hs', hsaid⟩ := hys s hs
      exact ⟨s', hs', hsaid.trans he⟩
  -- Events of one key and one instant have one count.
  have hconsistentx : Latest.Consistent (xs.filterMap signalEvent) := by
    intro e he e' he' htime hkey
    obtain ⟨s, hs, htype, hstartedAt, hcount⟩ := mem_events.mp he
    obtain ⟨s', hs', htype', hstartedAt', hcount'⟩ := mem_events.mp he'
    rw [← hcount, ← hcount']
    refine hconsistent s hs s' hs' (htype.trans (hkey.trans htype'.symm)) ?_
    rw [hstartedAt, hstartedAt', htime]
  have hconsistenty : Latest.Consistent (ys.filterMap signalEvent) := fun e he e' he' =>
    hconsistentx e ((hevents e).mpr he) e' ((hevents e').mpr he')
  -- A usable signal is an event.
  have hevent (s : DataType × Json) (hs : s ∈ xs ++ ys) : signalEvent s ≠ none := by
    obtain ⟨startedAt, hstartedAt⟩ := Option.ne_none_iff_exists'.mp (husable s hs)
    unfold signalEvent
    rw [hstartedAt]
    exact Option.some_ne_none _
  -- Each collection collects its events; there is only one such collection of a set of events.
  have hx := Latest.collect_collects hconsistentx
  have hy := Latest.collect_collects hconsistenty
  rw [← collection_collected fun s hs => hevent s (List.mem_append_left _ hs)] at hx
  rw [← collection_collected fun s hs => hevent s (List.mem_append_right _ hs)] at hy
  have heq : collected xs = collected ys := by
    have hcollection := hx.unique hy hevents
    -- Collecting touches neither the marks nor what is settled.
    obtain ⟨hmarksx, hsettledx⟩ := collected_frame xs
    obtain ⟨hmarksy, hsettledy⟩ := collected_frame ys
    exact StaleChildRowPurge.eq_of_collection hcollection (hmarksx.trans hmarksy.symm)
      (hsettledx.trans hsettledy.symm)
  refine ⟨?_, ?_, heq, ?_, fun t recordCounts _ _ => said_messageAt t recordCounts⟩
  · intro b
    constructor
    · intro hb
      obtain ⟨e, he, rfl⟩ := hx.reached b hb
      obtain ⟨s, hs, -, hstartedAt, -⟩ := mem_events.mp he
      refine ⟨⟨s, hs, hstartedAt⟩, ?_⟩
      intro s' hs' b' hb'
      exact hx.greatest _ hb ⟨b', s'.1, reportedCount s'.1 s'.2⟩
        (mem_events.mpr ⟨s', hs', rfl, hb', rfl⟩)
    -- The boundary is the instant of some signal and no signal's is later, which leaves one instant.
    · rintro ⟨⟨s, hs, hstartedAt⟩, hlatest⟩
      have he : (⟨b, s.1, reportedCount s.1 s.2⟩ : Latest.Event Instant DataType (Option Int)) ∈
          xs.filterMap signalEvent := mem_events.mpr ⟨s, hs, rfl, hstartedAt, rfl⟩
      cases hb : (collected xs).boundary with
      | none =>
        rw [hx.empty hb] at he
        cases he
      | some b' =>
        obtain ⟨e', he', rfl⟩ := hx.reached b' hb
        obtain ⟨s', hs', -, hstartedAt', -⟩ := mem_events.mp he'
        have hle : b ≤ e'.time := hx.greatest _ hb _ he
        rw [le_antisymm hle (hlatest s' hs' _ hstartedAt')]
  · intro t count
    -- The entries are those of the events at the boundary.
    rw [show (collected xs).signals.lookup t = some count ↔ _ from hx.entries t count]
    constructor
    · rintro ⟨e, he, hb, rfl, rfl⟩
      obtain ⟨s, hs, htype, hstartedAt, hcount⟩ := mem_events.mp he
      exact ⟨s, hs, htype, hcount, hb.trans hstartedAt.symm⟩
    · rintro ⟨s, hs, rfl, rfl, hb⟩
      obtain ⟨startedAt, hstartedAt⟩ :=
        Option.ne_none_iff_exists'.mp (husable s (List.mem_append_left _ hs))
      exact ⟨⟨startedAt, s.1, reportedCount s.1 s.2⟩,
        mem_events.mpr ⟨s, hs, rfl, hstartedAt, rfl⟩, hb.trans hstartedAt, rfl, rfl⟩
  · intro cfg
    rw [heq]
    exact ⟨rfl, rfl, rfl⟩

/-- A signal that reports one record of its type. -/
def oneRecord (startedAt : String) (t : DataType) : DataType × Json :=
  (t, .obj [("record_counts", .obj [(t, .int 1)]), ("started_at", .str startedAt)])

/-- January's signals and then February's. -/
def inOrder : List (DataType × Json) :=
  MUSICBRAINZ_DATA_TYPES.map (oneRecord "2024-01-01T00:00:00Z") ++
    MUSICBRAINZ_DATA_TYPES.map (oneRecord "2024-02-01T00:00:00Z")

/-- February's first, spelled with an offset and then naively, and January's after them. -/
def outOfOrder : List (DataType × Json) :=
  MUSICBRAINZ_DATA_TYPES.reverse.map (oneRecord "2024-02-01T01:00:00+01:00") ++
    MUSICBRAINZ_DATA_TYPES.map (oneRecord "2024-02-01") ++
      MUSICBRAINZ_DATA_TYPES.map (oneRecord "2024-01-01T00:00:00")

theorem collection_of_two_extractions :
    (collected inOrder).boundary = some 63842428800000000 ∧ collected inOrder = collected outOfOrder := by
  obtain ⟨hboundary, -, heq, -⟩ := collection_is_order_independent inOrder outOfOrder
    (by decide +kernel) (by decide +kernel) (by decide +kernel) (by decide +kernel)
  exact ⟨(hboundary 63842428800000000).mpr (by decide +kernel), heq⟩

end Collected

end Purge
