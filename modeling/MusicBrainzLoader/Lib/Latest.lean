/-
  Collecting the latest of a stream of timed entries.

  A collection holds one time and a table of entries.  An event older than the time is ignored, one at
  the time is added, and a newer one starts the collection again.  What that comes to is read off the
  events as a set: the greatest time, and the entries at it.  So neither their order nor their
  multiplicity matters, as long as the events at one time and key carry one value.

  That any two neighbours may be swapped is not so, and is not the proof: with values that differ the
  last one wins, and the condition (`Consistent`) is about all the events, not about two of them.  Instead
  `Collects` says what a collection is of a list of events without mentioning their order; the fold keeps
  it (`Collects.add`), and there is only one such collection of a set of events (`Collects.unique`).

  The entries at the time collected are a table, so what `Collects.unique` concludes is equality and
  not agreement up to order.  Without `Consistent` only the time would be determined; with it, two
  events that write one entry write one value, whichever comes last.
-/
import Mathlib.Data.List.Induction
import MusicBrainzLoader.Lib.Table

namespace Latest

variable {τ κ ρ : Type} [LinearOrder τ] [DecidableEq κ]

/-- A time, a key and a value. -/
structure Event (τ κ ρ : Type) where
  time : τ
  key : κ
  value : ρ
deriving DecidableEq

/-- The time collected, if any, and what was collected at it. -/
structure Collection (τ κ ρ : Type) where
  time : Option τ := none
  entries : Table κ ρ := ∅

/-- One more event. -/
def Collection.add (c : Collection τ κ ρ) (e : Event τ κ ρ) : Collection τ κ ρ :=
  if c.time.any (e.time < ·) then c
  else if c.time.all (· < e.time) then ⟨some e.time, (∅ : Table κ ρ).insert e.key e.value⟩
  else ⟨c.time, c.entries.insert e.key e.value⟩

/-- What a stream of events comes to. -/
def collect (es : List (Event τ κ ρ)) : Collection τ κ ρ := es.foldl Collection.add {}

/-- The events at one time and key carry one value. -/
def Consistent (es : List (Event τ κ ρ)) : Prop :=
  ∀ e ∈ es, ∀ e' ∈ es, e.time = e'.time → e.key = e'.key → e.value = e'.value

/-- A collection is that of the events: their greatest time, if there are any, and the entries at
    it. -/
structure Collects (es : List (Event τ κ ρ)) (c : Collection τ κ ρ) : Prop where
  empty : c.time = none → es = []
  reached : ∀ t, c.time = some t → ∃ e ∈ es, e.time = t
  greatest : ∀ t, c.time = some t → ∀ e ∈ es, e.time ≤ t
  entries : ∀ k v, c.entries.lookup k = some v ↔
    ∃ e ∈ es, c.time = some e.time ∧ e.key = k ∧ e.value = v

section Collects

variable {es es' : List (Event τ κ ρ)} {c c' : Collection τ κ ρ} {e : Event τ κ ρ}

/-- The three things an event can do: be ignored, start the collection again, or be added. -/
theorem add_cases (c : Collection τ κ ρ) (e : Event τ κ ρ) :
    (∃ t, c.time = some t ∧ e.time < t ∧ c.add e = c) ∨
    ((∀ t, c.time = some t → t < e.time) ∧
      c.add e = ⟨some e.time, (∅ : Table κ ρ).insert e.key e.value⟩) ∨
    (c.time = some e.time ∧ c.add e = ⟨some e.time, c.entries.insert e.key e.value⟩) := by
  unfold Collection.add
  cases hc : c.time with
  | none => exact Or.inr (Or.inl ⟨by simp, by simp⟩)
  | some t =>
    rcases lt_trichotomy e.time t with hlt | heq | hgt
    · exact Or.inl ⟨t, rfl, hlt, by simp [hlt]⟩
    · exact Or.inr (Or.inr ⟨by rw [heq], by simp [heq]⟩)
    · exact Or.inr (Or.inl ⟨by simpa using hgt, by simp [hgt, hgt.not_gt]⟩)

/-- An event no older than those before it becomes the greatest. -/
theorem Collects.of_newest (hle : ∀ e' ∈ es, e'.time ≤ e.time) {entries : Table κ ρ}
    (hentries : ∀ k v, entries.lookup k = some v ↔
      ∃ e' ∈ es ++ [e], some e.time = some e'.time ∧ e'.key = k ∧ e'.value = v) :
    Collects (es ++ [e]) ⟨some e.time, entries⟩ := by
  have hlast : e ∈ es ++ [e] := List.mem_append_right _ (List.mem_singleton_self e)
  refine ⟨fun h => (nomatch h), ?_, ?_, hentries⟩
  · rintro t ⟨⟩
    exact ⟨e, hlast, rfl⟩
  · rintro t ⟨⟩ e' he'
    rcases List.mem_append.mp he' with he' | he'
    · exact hle e' he'
    · rw [List.mem_singleton.mp he']

/-- **One more event.** -/
theorem Collects.add (h : Collects es c) (hconsistent : Consistent (es ++ [e])) :
    Collects (es ++ [e]) (c.add e) := by
  have hlast : e ∈ es ++ [e] := List.mem_append_right _ (List.mem_singleton_self e)
  have hbefore (e' : Event τ κ ρ) (he' : e' ∈ es) : e' ∈ es ++ [e] := List.mem_append_left _ he'
  rcases add_cases c e with ⟨t, ht, hlt, hadd⟩ | ⟨hnewer, hadd⟩ | ⟨ht, hadd⟩
  -- Older than the boundary: nothing changes, and the event is no part of what is collected.
  · rw [hadd]
    refine ⟨?_, ?_, ?_, ?_⟩
    · intro hnone
      cases hnone.symm.trans ht
    · intro t' ht'
      obtain ⟨e', he', hat⟩ := h.reached t' ht'
      exact ⟨e', hbefore e' he', hat⟩
    · intro t' ht' e' he'
      obtain rfl : t = t' := Option.some.inj (ht.symm.trans ht')
      rcases List.mem_append.mp he' with he' | he'
      · exact h.greatest t ht e' he'
      · rw [List.mem_singleton.mp he']
        exact hlt.le
    · intro k v
      rw [h.entries]
      constructor
      · rintro ⟨e', he', hrest⟩
        exact ⟨e', hbefore e' he', hrest⟩
      · rintro ⟨e', he', hat, hrest⟩
        rcases List.mem_append.mp he' with he' | he'
        · exact ⟨e', he', hat, hrest⟩
        · obtain rfl := List.mem_singleton.mp he'
          exact absurd (Option.some.inj (ht.symm.trans hat)) hlt.ne'
  -- Newer: whatever was collected is of older events now, and goes.
  · rw [hadd]
    -- With no boundary there was no event at all.
    have holder : ∀ e' ∈ es, e'.time < e.time := by
      intro e' he'
      cases hc : c.time with
      | some t => exact (h.greatest t hc e' he').trans_lt (hnewer t hc)
      | none =>
        rw [h.empty hc] at he'
        cases he'
    -- The event alone is at the new boundary.
    refine Collects.of_newest (fun e' he' => (holder e' he').le) ?_
    intro k v
    rw [Table.lookup_insert_eq]
    constructor
    · intro hrow
      split at hrow
      · rename_i hk
        exact ⟨e, hlast, rfl, hk.symm, Option.some.inj hrow⟩
      · cases hrow
    · rintro ⟨e', he', hat, rfl, rfl⟩
      rcases List.mem_append.mp he' with he' | he'
      · exact absurd (Option.some.inj hat) (holder e' he').ne'
      · rw [List.mem_singleton.mp he', if_pos rfl]
  -- At the boundary: its entry is written, and is the same as any other of that key (`hconsistent`).
  · rw [hadd]
    refine Collects.of_newest (h.greatest e.time ht) ?_
    intro k v
    rw [Table.lookup_insert_eq]
    constructor
    · intro hrow
      split at hrow
      · rename_i hk
        exact ⟨e, hlast, rfl, hk.symm, Option.some.inj hrow⟩
      · obtain ⟨e', he', hat, hrest⟩ := (h.entries k v).mp hrow
        exact ⟨e', hbefore e' he', ht.symm.trans hat, hrest⟩
    · rintro ⟨e', he', hat, rfl, rfl⟩
      -- The entry of its own key is the event's; another key's is what it was.
      split
      · rename_i hk
        exact congrArg some (hconsistent e hlast e' he' (Option.some.inj hat) hk.symm)
      · rename_i hk
        rcases List.mem_append.mp he' with he' | he'
        · exact (h.entries _ _).mpr ⟨e', he', ht.trans hat, rfl, rfl⟩
        · rw [List.mem_singleton.mp he'] at hk
          exact absurd rfl hk

/-- **A stream comes to its greatest time and the entries at it.** -/
theorem collect_collects (hconsistent : Consistent es) : Collects es (collect es) := by
  induction es using List.reverseRecOn with
  | nil =>
    refine ⟨fun _ => rfl, fun t h => (nomatch h), fun t h => (nomatch h), ?_⟩
    intro k v
    constructor
    · intro h
      cases h
    · rintro ⟨e, he, -⟩
      cases he
  | append_singleton es e ih =>
    have hprefix : Consistent es := fun e₁ h₁ e₂ h₂ =>
      hconsistent e₁ (List.mem_append_left _ h₁) e₂ (List.mem_append_left _ h₂)
    unfold collect
    rw [List.foldl_append]
    exact (ih hprefix).add hconsistent

/-- **The events as a set determine the collection.** -/
theorem Collects.unique (h : Collects es c) (h' : Collects es' c') (hsame : ∀ e, e ∈ es ↔ e ∈ es') :
    c = c' := by
  -- The boundary is the greatest time there is, so each collection's is at most the other's.
  have htime : c.time = c'.time := by
    cases hc : c.time with
    | none =>
      cases hc' : c'.time with
      | none => rfl
      | some t' =>
        obtain ⟨e, he, -⟩ := h'.reached t' hc'
        have he := (hsame e).mpr he
        rw [h.empty hc] at he
        cases he
    | some t =>
      obtain ⟨e, he, rfl⟩ := h.reached t hc
      cases hc' : c'.time with
      | none =>
        have he := (hsame e).mp he
        rw [h'.empty hc'] at he
        cases he
      | some t' =>
        obtain ⟨e', he', rfl⟩ := h'.reached t' hc'
        have hle := h'.greatest _ hc' e ((hsame e).mp he)
        have hge := h.greatest _ hc e' ((hsame e').mpr he')
        rw [le_antisymm hle hge]
  -- And the entries are those of the events at it.
  have hentries : c.entries = c'.entries := by
    refine Table.ext_lookup fun k => Option.ext fun v => ?_
    rw [h.entries, h'.entries, htime]
    simp only [hsame]
  obtain ⟨time, entries⟩ := c
  obtain rfl : time = c'.time := htime
  obtain rfl : entries = c'.entries := hentries
  rfl

end Collects

end Latest
