/-
  Interleavings of sequences.

  A scheduler picks, at each step, one of the sequences that still have something to do; its picks
  determine the run.  `interleave picks ls` is that run, `none` when a pick names a finished sequence
  or something is left over, so an interleaving can be evaluated as well as quantified over.

  A system of parties keeps a list with one entry for each: a step replaces the entry of one
  (`getElem?_set_cases`, `pairs_set`, `sum_set`), a party that joins is put at the end
  (`getElem?_concat_cases`, `pairs_concat`).

  A pick that names a finished sequence could have been a step that does nothing.  It answers `none`
  instead, so that a run along picks is a run of exactly the steps of the sequences, each once and
  in the order of its own sequence, and `mem_interleave` says so of membership: a step is in the run
  when it is in one of the sequences.  It is by induction on the picks, and `mem_set_tail` is its
  step.
-/
import Mathlib.Algebra.GroupWithZero.Nat
import Mathlib.Data.List.Basic

namespace Interleaving

variable {α : Type}

/-! ## One entry for each party -/

/-- An entry of the list after one of them is replaced. -/
theorem getElem?_set_cases {l : List α} {i j : Nat} {a b : α} (h : (l.set i b)[j]? = some a) :
    (j = i ∧ a = b) ∨ (j ≠ i ∧ l[j]? = some a) := by
  rw [List.getElem?_set] at h
  split at h
  · rename_i hij
    split at h
    · exact Or.inl ⟨hij.symm, (Option.some.inj h).symm⟩
    · cases h
  · rename_i hij
    exact Or.inr ⟨fun heq => hij heq.symm, h⟩

/-- An entry of the list after one is put at its end. -/
theorem getElem?_concat_cases {l : List α} {j : Nat} {a b : α} (h : (l ++ [b])[j]? = some a) :
    l[j]? = some a ∨ a = b := by
  rcases Nat.lt_or_ge j l.length with hlt | hge
  · rw [List.getElem?_append_left hlt] at h
    exact Or.inl h
  · rw [List.getElem?_append_right hge] at h
    exact Or.inr (List.mem_singleton.mp (List.mem_of_getElem? h))

/-- What holds between any two entries, after one of them is replaced. -/
theorem pairs_set {R : α → α → Prop} {l : List α}
    (h : ∀ (j k : Nat) (a b : α), j ≠ k → l[j]? = some a → l[k]? = some b → R a b) {i : Nat} {c : α}
    (hnew : ∀ (j : Nat) (a : α), j ≠ i → l[j]? = some a → R a c ∧ R c a) (j k : Nat) (a b : α)
    (hjk : j ≠ k) (ha : (l.set i c)[j]? = some a) (hb : (l.set i c)[k]? = some b) : R a b := by
  rcases getElem?_set_cases ha with ⟨rfl, rfl⟩ | ⟨hj, hold⟩
  · rcases getElem?_set_cases hb with ⟨rfl, -⟩ | ⟨hk, hold'⟩
    · exact absurd rfl hjk
    · exact (hnew k b hk hold').2
  · rcases getElem?_set_cases hb with ⟨rfl, rfl⟩ | ⟨-, hold'⟩
    · exact (hnew j a hj hold).1
    · exact h j k a b hjk hold hold'

/-- … and after one that agrees with all is put at the end. -/
theorem pairs_concat {R : α → α → Prop} {l : List α}
    (h : ∀ (j k : Nat) (a b : α), j ≠ k → l[j]? = some a → l[k]? = some b → R a b) {c : α}
    (hnew : ∀ a, R a c ∧ R c a) (j k : Nat) (a b : α) (hjk : j ≠ k)
    (ha : (l ++ [c])[j]? = some a) (hb : (l ++ [c])[k]? = some b) : R a b := by
  rcases getElem?_concat_cases ha with ha | rfl
  · rcases getElem?_concat_cases hb with hb | rfl
    · exact h j k a b hjk ha hb
    · exact (hnew a).1
  · exact (hnew b).2

/-- A sum over the entries, after one of them is replaced. -/
theorem sum_set (f : α → Nat) {l : List α} {i : Nat} {a : α} (b : α) (hi : l[i]? = some a) :
    ((l.set i b).map f).sum + f a = (l.map f).sum + f b := by
  induction l generalizing i with
  | nil => cases hi
  | cons head l ih =>
    cases i with
    | zero =>
      obtain rfl : head = a := Option.some.inj hi
      simp only [List.set_cons_zero, List.map_cons, List.sum_cons]
      omega
    | succ i =>
      have hrest := ih hi
      simp only [List.set_cons_succ, List.map_cons, List.sum_cons]
      omega

/-! ## Interleavings -/

/-- The sequences run one step at a time, in the order of the picks. -/
def interleave : List Nat → List (List α) → Option (List α)
  | [], ls => if ls.all (·.isEmpty) then some [] else none
  | k :: picks, ls =>
    match ls[k]? with
    | some (a :: as) => (interleave picks (ls.set k as)).map (a :: ·)
    | _ => none

/-- What a pick takes from the sequences: its head, and nothing else. -/
theorem mem_set_tail {ls : List (List α)} {k : Nat} {a b : α} {as : List α}
    (hk : ls[k]? = some (a :: as)) :
    (∃ l ∈ ls, b ∈ l) ↔ b = a ∨ ∃ l ∈ ls.set k as, b ∈ l := by
  have hlt : k < ls.length := (List.getElem?_eq_some_iff.mp hk).1
  constructor
  · rintro ⟨l, hl, hb⟩
    obtain ⟨i, hi⟩ := List.mem_iff_getElem?.mp hl
    by_cases hik : k = i
    · subst hik
      obtain rfl : a :: as = l := Option.some.inj (hk.symm.trans hi)
      rcases List.mem_cons.mp hb with rfl | hb
      · exact Or.inl rfl
      · exact Or.inr ⟨as, List.mem_set hlt as, hb⟩
    · refine Or.inr ⟨l, List.mem_iff_getElem?.mpr ⟨i, ?_⟩, hb⟩
      rw [List.getElem?_set_ne hik]
      exact hi
  · rintro (rfl | ⟨l, hl, hb⟩)
    · exact ⟨_, List.mem_of_getElem? hk, List.mem_cons_self⟩
    · rcases List.mem_or_eq_of_mem_set hl with hl | rfl
      · exact ⟨l, hl, hb⟩
      · exact ⟨_, List.mem_of_getElem? hk, List.mem_cons_of_mem _ hb⟩

/-- **Every step of every sequence is taken, and nothing else.** -/
theorem mem_interleave {picks : List Nat} {ls : List (List α)} {l : List α}
    (h : interleave picks ls = some l) (b : α) : b ∈ l ↔ ∃ xs ∈ ls, b ∈ xs := by
  induction picks generalizing ls l with
  | nil =>
    unfold interleave at h
    split at h
    -- All lists are used up.
    · rename_i hempty
      obtain rfl := Option.some.inj h
      constructor
      · intro hb
        cases hb
      · rintro ⟨xs, hxs, hb⟩
        have hnil : xs = [] := by simpa using List.all_eq_true.mp hempty xs hxs
        rw [hnil] at hb
        cases hb
    · cases h
  | cons k picks ih =>
    unfold interleave at h
    split at h
    -- The next element is the head of the list picked.
    · rename_i a as hk
      obtain ⟨rest, hrest, rfl⟩ := Option.map_eq_some_iff.mp h
      rw [List.mem_cons, ih hrest, mem_set_tail hk]
    · cases h

end Interleaving
