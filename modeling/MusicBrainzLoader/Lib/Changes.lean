/-
  The changes of a history.

  A value that is set again and again leaves a history `a₀, a₁, …, aₙ` of what it was set to.  Its
  CHANGES are the pairs of consecutive different values, in order: what an append-only ledger of
  (before, after) entries should hold.  From them the history can be replayed:

  * each entry's two values differ (`changes_ne`);
  * the entries form a chain, one's after being the next one's before (`changes_isChain`);
  * the chain starts at the first value of the history and ends at the last (`changes_head`,
    `changes_getLast`);
  * no entry means that the value never changed (`changes_eq_nil`).

  Everything is proved from one equation, `changes_concat`: setting one more value adds one entry at
  the end when it differs from the last, and none when it does not.  That is how a ledger is
  written, and it is not how `changes` recurses, which is from the front; so the equation is an
  induction of its own, and what follows about a history by induction from either end needs only it
  and `changes_cons_cons`.
-/
import Mathlib.Data.List.Chain

namespace Changes

variable {α : Type} [DecidableEq α]

/-- The pairs of consecutive different values. -/
def changes : List α → List (α × α)
  | [] => []
  | [_] => []
  | a :: b :: rest => if a = b then changes (b :: rest) else (a, b) :: changes (b :: rest)

theorem changes_cons_cons (a b : α) (rest : List α) :
    changes (a :: b :: rest) =
      if a = b then changes (b :: rest) else (a, b) :: changes (b :: rest) := rfl

/-- One more value adds one entry if it differs from the last one. -/
theorem changes_concat (hist : List α) (last next : α) :
    changes (hist ++ [last] ++ [next]) =
      changes (hist ++ [last]) ++ if last = next then [] else [(last, next)] := by
  -- Along the list; the last pair is the only one that is new.
  induction hist with
  | nil =>
    show (if last = next then changes [next] else (last, next) :: changes [next]) = _
    split <;> rfl
  | cons a hist ih =>
    cases hist with
    | nil =>
      show (if a = last then changes [last, next] else (a, last) :: changes [last, next]) = _
      have h : changes [last, next] = if last = next then [] else [(last, next)] := by
        show (if last = next then changes [next] else (last, next) :: changes [next]) = _
        split <;> rfl
      rw [h]
      show _ = (if a = last then changes [last] else (a, last) :: changes [last]) ++ _
      by_cases hal : a = last
      · rw [if_pos hal, if_pos hal]; rfl
      · rw [if_neg hal, if_neg hal]; rfl
    | cons b hist =>
      have h1 : changes (a :: b :: (hist ++ [last] ++ [next])) = _ := changes_cons_cons a b _
      have h2 : changes (a :: b :: (hist ++ [last])) = _ := changes_cons_cons a b _
      show changes (a :: b :: (hist ++ [last] ++ [next])) = changes (a :: b :: (hist ++ [last])) ++ _
      rw [h1, h2]
      by_cases hab : a = b
      · rw [if_pos hab, if_pos hab]
        exact ih
      · rw [if_neg hab, if_neg hab, List.cons_append]
        exact congrArg _ ih

theorem changes_ne {hist : List α} {p : α × α} (h : p ∈ changes hist) : p.1 ≠ p.2 := by
  induction hist with
  | nil => cases h
  | cons a hist ih =>
    cases hist with
    | nil => cases h
    | cons b rest =>
      rw [changes_cons_cons] at h
      split at h
      · exact ih h
      · rename_i hab
        rcases List.mem_cons.mp h with rfl | h
        · exact hab
        · exact ih h

/-- The chain starts at the first value of the history. -/
theorem changes_head {a : α} {rest : List α} {p : α × α} {ps : List (α × α)}
    (h : changes (a :: rest) = p :: ps) : p.1 = a := by
  induction rest generalizing a with
  | nil => cases h
  | cons b rest ih =>
    rw [changes_cons_cons] at h
    split at h
    · rename_i hab
      rw [hab]
      exact ih h
    · obtain ⟨rfl, -⟩ := List.cons.inj h
      rfl

theorem changes_isChain (hist : List α) : (changes hist).IsChain fun p q => p.2 = q.1 := by
  induction hist with
  | nil => exact List.isChain_nil
  | cons a hist ih =>
    cases hist with
    | nil => exact List.isChain_nil
    | cons b rest =>
      rw [changes_cons_cons]
      split
      · exact ih
      · refine ih.cons fun q hq => ?_
        cases hc : changes (b :: rest) with
        | nil => rw [hc] at hq; cases hq
        | cons p ps =>
          rw [hc] at hq
          obtain rfl := Option.some.inj hq
          exact (changes_head hc).symm

/-- No entry: the value never changed. -/
theorem changes_eq_nil {a : α} {rest : List α} (h : changes (a :: rest) = []) :
    ∀ b ∈ a :: rest, b = a := by
  induction rest generalizing a with
  | nil => simp
  | cons c rest ih =>
    rw [changes_cons_cons] at h
    split at h
    · rename_i hac
      subst hac
      intro b hb
      rcases List.mem_cons.mp hb with rfl | hb
      · rfl
      · exact ih h b hb
    · cases h

/-- The chain ends at the last value of the history. -/
theorem changes_getLast {hist : List α} {p : α × α} (h : (changes hist).getLast? = some p) :
    hist.getLast? = some p.2 := by
  induction hist with
  | nil => cases h
  | cons a hist ih =>
    cases hist with
    | nil => cases h
    | cons b rest =>
      rw [List.getLast?_cons_cons]
      rw [changes_cons_cons] at h
      split at h
      · exact ih h
      · cases hc : changes (b :: rest) with
        | cons q qs =>
          rw [hc, List.getLast?_cons_cons] at h
          exact ih (hc ▸ h)
        | nil =>
          rw [hc] at h
          obtain rfl := Option.some.inj h
          -- No further change: the rest of the history is `b` throughout.
          rw [List.getLast?_eq_some_getLast (List.cons_ne_nil b rest),
            changes_eq_nil hc _ (List.getLast_mem _)]
          rfl

end Changes
