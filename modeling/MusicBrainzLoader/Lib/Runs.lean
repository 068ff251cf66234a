/-
  Runs of a transition system whose actions are labelled and may be disabled.

  A system is a partial function `step : σ → α → Option σ` (`none`: the action is not enabled in
  that state), so a run is a list of actions and can be EVALUATED: a counterexample is a list on
  which `run` returns a state, checked by the kernel.

  The induction rules used throughout:

  * `run_invariant`  — what every enabled step preserves holds after every run;
  * `run_reads`      — what each step makes of one part of the state, whatever the rest, is folded over
    the run, and `run_reads_perm` says when the order of the actions does not matter to it;
  * `run_rel`        — a simulation: related actions that keep related states related, and are enabled
    together, do so over runs;
  * `run_writes`     — a cell that a step either writes freshly or leaves alone is, after a run,
    fresh if the run wrote it and untouched if it did not;
  * `Meets.invariant` — the same when a step only preserves it under a condition `ok` on the state
    before the step and the action, and every step of the run meets that condition;
  * `Drives.append` — such runs are put together, to show that one exists.

  A condition on a run (`Meets`) is stated on the states before its steps and never on those after:
  what a step does is then a consequence and no assumption.  It is decided by running, and splits
  wherever the run does (`Meets.prefix`, `Meets.suffix`).

  `run_reads` and `run_writes` are the two ways a whole run is read off its actions without
  following the state: the first for a part that every step takes on its own, as a table that each
  step inserts into; the second for a cell, where all that matters is whether some step wrote it.
-/
import Mathlib.Data.List.Basic
import Mathlib.Data.List.Forall2
import Mathlib.Data.List.Induction

namespace Runs

variable {σ α : Type} (step : σ → α → Option σ)

/-- The state after a list of actions, if each was enabled in its turn. -/
def run : σ → List α → Option σ
  | s, [] => some s
  | s, a :: as => (step s a).bind fun s' => run s' as

/-- Every step of the run from `s` along `as` meets `ok`, a condition on the state before it. -/
def Meets (ok : σ → α → Prop) : σ → List α → Prop
  | _, [] => True
  | s, a :: as => ok s a ∧ ∀ s', step s a = some s' → Meets ok s' as

variable {step}

@[simp] theorem run_nil (s : σ) : run step s [] = some s := rfl

theorem run_cons (s : σ) (a : α) (as : List α) :
    run step s (a :: as) = (step s a).bind fun s' => run step s' as := rfl

theorem run_cons_eq_some {s s' : σ} {a : α} {as : List α} :
    run step s (a :: as) = some s' ↔ ∃ m, step s a = some m ∧ run step m as = some s' := by
  rw [run_cons, Option.bind_eq_some_iff]

theorem run_append (s : σ) (as bs : List α) :
    run step s (as ++ bs) = (run step s as).bind fun m => run step m bs := by
  induction as generalizing s with
  | nil => rfl
  | cons a as ih =>
    rw [List.cons_append, run_cons, run_cons, Option.bind_assoc]
    exact congrArg _ (funext ih)

theorem run_append_eq_some {s s' : σ} {as bs : List α} :
    run step s (as ++ bs) = some s' ↔ ∃ m, run step s as = some m ∧ run step m bs = some s' := by
  rw [run_append, Option.bind_eq_some_iff]

/-- The last step of a run. -/
theorem run_concat {s s' : σ} {as : List α} {a : α} :
    run step s (as ++ [a]) = some s' ↔ ∃ m, run step s as = some m ∧ step m a = some s' := by
  simp only [run_append_eq_some, run_cons_eq_some, run_nil, Option.some.injEq, exists_eq_right]

/-- A system whose every action is enabled runs as a fold. -/
theorem run_total (next : σ → α → σ) (s : σ) (as : List α) :
    run (fun s a => some (next s a)) s as = some (as.foldl next s) := by
  induction as generalizing s with
  | nil => rfl
  | cons a as ih => exact ih (next s a)

/-- The invariant rule: what each step preserves, a whole run preserves. -/
theorem run_invariant {Inv : σ → Prop}
    (hstep : ∀ s a s', Inv s → step s a = some s' → Inv s') {s s' : σ} {as : List α}
    (hs : Inv s) (hrun : run step s as = some s') : Inv s' := by
  induction as generalizing s with
  | nil => cases hrun; exact hs
  | cons a as ih =>
    obtain ⟨m, ha, hm⟩ := run_cons_eq_some.mp hrun
    exact ih (hstep s a m hs ha) hm

/-- The reading rule: a part of the state that every step takes on its own runs as a fold. -/
theorem run_reads {ρ : Type} (read : σ → ρ) (next : ρ → α → ρ)
    (hstep : ∀ s a s', step s a = some s' → read s' = next (read s) a) {s s' : σ} {as : List α}
    (hrun : run step s as = some s') : read s' = as.foldl next (read s) := by
  induction as generalizing s with
  | nil =>
    obtain rfl := Option.some.inj hrun
    rfl
  | cons a as ih =>
    obtain ⟨m, ha, hm⟩ := run_cons_eq_some.mp hrun
    rw [ih hm, hstep s a m ha, List.foldl_cons]

/-- The order rule: when the steps commute on such a part, runs along the same actions in another order
    agree on it. -/
theorem run_reads_perm {ρ : Type} (read : σ → ρ) (next : ρ → α → ρ)
    (hstep : ∀ s a s', step s a = some s' → read s' = next (read s) a) {s s' s'' : σ}
    {as bs : List α} (hperm : as.Perm bs)
    (hcomm : ∀ a ∈ as, ∀ b ∈ as, a ≠ b → ∀ r, next (next r a) b = next (next r b) a)
    (hrun : run step s as = some s') (hrun' : run step s bs = some s'') : read s' = read s'' := by
  rw [run_reads read next hstep hrun, run_reads read next hstep hrun']
  refine hperm.foldl_eq' (fun a ha b hb r => ?_) (read s)
  by_cases hab : a = b
  · rw [hab]
  · exact hcomm a ha b hb hab r

theorem run_eq_foldlM (s : σ) (as : List α) : run step s as = as.foldlM step s := by
  induction as generalizing s with
  | nil => rfl
  | cons a as ih =>
    rw [run_cons, List.foldlM_cons]
    exact congrArg _ (funext ih)

/-- The simulation rule: two systems whose steps keep their states related, and stop together, run
    together. -/
theorem run_rel {τ β : Type} {step' : τ → β → Option τ} {R : σ → τ → Prop} {A : α → β → Prop}
    (hstep : ∀ s t a b, R s t → A a b → Option.Rel R (step s a) (step' t b)) {s : σ} {t : τ}
    {as : List α} {bs : List β} (hlabels : List.Forall₂ A as bs) (hst : R s t) :
    Option.Rel R (run step s as) (run step' t bs) := by
  induction hlabels generalizing s t with
  | nil => exact .some hst
  | cons hab _ ih =>
    have hnext := hstep s t _ _ hst hab
    rw [run_cons, run_cons]
    generalize step s _ = next, step' t _ = next' at hnext ⊢
    cases hnext with
    | some hrel => exact ih hrel
    | none => exact .none

/-- The cell rule: every step of the run writes a cell of the state and leaves it fresh, or does not
    write it and leaves it alone. -/
theorem run_writes {κ ρ : Type} (read : σ → κ → ρ) (writes : α → κ → Prop) (fresh : ρ → Prop)
    {s s' : σ} {as : List α}
    (hstep : ∀ a ∈ as, ∀ m m', step m a = some m' → ∀ k,
      (writes a k ∧ fresh (read m' k)) ∨ (¬ writes a k ∧ read m' k = read m k))
    (hrun : run step s as = some s') (k : κ) :
    ((∃ a ∈ as, writes a k) → fresh (read s' k)) ∧
      ((¬ ∃ a ∈ as, writes a k) → read s' k = read s k) := by
  -- From the end: the last step writes the key, or what was known before it stands.
  induction as using List.reverseRecOn generalizing s' with
  | nil =>
    cases hrun
    constructor
    · rintro ⟨a, ha, -⟩
      cases ha
    · exact fun _ => rfl
  | append_singleton as a ih =>
    obtain ⟨m, hm, ha⟩ := run_concat.mp hrun
    obtain ⟨hwritten, hother⟩ := ih (fun b hb => hstep b (List.mem_append_left _ hb)) hm
    have hlast : a ∈ as ++ [a] := List.mem_append_right _ (List.mem_singleton_self a)
    rcases hstep a hlast m s' ha k with ⟨hwrites, hfresh⟩ | ⟨hnot, hsame⟩
    · exact ⟨fun _ => hfresh, fun habsent => absurd ⟨a, hlast, hwrites⟩ habsent⟩
    · rw [hsame]
      constructor
      · rintro ⟨b, hb, hwrites⟩
        rcases List.mem_append.mp hb with hb | hb
        · exact hwritten ⟨b, hb, hwrites⟩
        · obtain rfl := List.mem_singleton.mp hb
          exact absurd hwrites hnot
      · intro habsent
        apply hother
        rintro ⟨b, hb, hwrites⟩
        exact habsent ⟨b, List.mem_append_left _ hb, hwrites⟩

section Meets

variable {ok : σ → α → Prop}

theorem Meets.head {s : σ} {a : α} {as : List α} (h : Meets step ok s (a :: as)) : ok s a := h.1

theorem Meets.tail {s m : σ} {a : α} {as : List α} (h : Meets step ok s (a :: as))
    (ha : step s a = some m) : Meets step ok m as := h.2 m ha

theorem Meets.mono {ok' : σ → α → Prop} (himp : ∀ s a, ok s a → ok' s a) {s : σ} {as : List α}
    (h : Meets step ok s as) : Meets step ok' s as := by
  induction as generalizing s with
  | nil => trivial
  | cons a as ih => exact ⟨himp s a h.head, fun m ha => ih (h.tail ha)⟩

theorem Meets.prefix {s : σ} {as bs : List α} (h : Meets step ok s (as ++ bs)) :
    Meets step ok s as := by
  induction as generalizing s with
  | nil => trivial
  | cons a as ih => exact ⟨h.head, fun m ha => ih (h.tail ha)⟩

theorem Meets.suffix {s m : σ} {as bs : List α} (h : Meets step ok s (as ++ bs))
    (hm : run step s as = some m) : Meets step ok m bs := by
  induction as generalizing s with
  | nil => cases hm; exact h
  | cons a as ih =>
    obtain ⟨k, hk, hkm⟩ := run_cons_eq_some.mp hm
    exact ih (h.tail hk) hkm

/-- The guarded invariant rule: `Inv` is preserved by the actions of the run where they meet `ok`, so
    it holds after the run when every step does. -/
theorem Meets.invariant_mem (Inv : σ → Prop) {s s' : σ} {as : List α}
    (hstep : ∀ a ∈ as, ∀ m m', Inv m → ok m a → step m a = some m' → Inv m')
    (hok : Meets step ok s as) (hs : Inv s) (hrun : run step s as = some s') : Inv s' := by
  induction as generalizing s with
  | nil => cases hrun; exact hs
  | cons a as ih =>
    obtain ⟨m, ha, hm⟩ := run_cons_eq_some.mp hrun
    have hstep' : ∀ b ∈ as, ∀ m m', Inv m → ok m b → step m b = some m' → Inv m' :=
      fun b hb => hstep b (List.mem_cons_of_mem a hb)
    exact ih hstep' (hok.tail ha) (hstep a List.mem_cons_self s m hs hok.head ha) hm

/-- The same when every action preserves `Inv`. -/
theorem Meets.invariant {Inv : σ → Prop}
    (hstep : ∀ s a s', Inv s → ok s a → step s a = some s' → Inv s') {s s' : σ} {as : List α}
    (hok : Meets step ok s as) (hs : Inv s) (hrun : run step s as = some s') : Inv s' :=
  hok.invariant_mem Inv (fun a _ m m' => hstep m a m') hs hrun

/-- An invariant that the actions of the run preserve holds before each of its steps. -/
theorem Meets.of_invariant {Inv : σ → Prop} {s : σ} {as : List α}
    (hstep : ∀ a ∈ as, ∀ m m', Inv m → step m a = some m' → Inv m') (hs : Inv s) :
    Meets step (fun m a => Inv m ∧ a ∈ as) s as := by
  induction as generalizing s with
  | nil => trivial
  | cons a as ih =>
    refine ⟨⟨hs, List.mem_cons_self⟩, fun m ha => ?_⟩
    have hm : Inv m := hstep a List.mem_cons_self s m hs ha
    have htail := ih (fun b hb => hstep b (List.mem_cons_of_mem a hb)) hm
    exact htail.mono fun _ b ⟨hinv, hb⟩ => ⟨hinv, List.mem_cons_of_mem a hb⟩

/-- The run from `s` along `as` meets `ok` and comes to `s'`. -/
structure Drives (step : σ → α → Option σ) (ok : σ → α → Prop) (s : σ) (as : List α) (s' : σ) :
    Prop where
  meets : Meets step ok s as
  run : run step s as = some s'

theorem Drives.nil (s : σ) : Drives step ok s [] s := ⟨trivial, rfl⟩

theorem Drives.cons {s m s' : σ} {a : α} {as : List α} (hok : ok s a) (ha : step s a = some m)
    (h : Drives step ok m as s') : Drives step ok s (a :: as) s' := by
  constructor
  · refine ⟨hok, fun m' hm' => ?_⟩
    obtain rfl := Option.some.inj (ha.symm.trans hm')
    exact h.meets
  · exact run_cons_eq_some.mpr ⟨m, ha, h.run⟩

theorem Drives.append {s m s' : σ} {as bs : List α} (h : Drives step ok s as m)
    (h' : Drives step ok m bs s') : Drives step ok s (as ++ bs) s' := by
  induction as generalizing s with
  | nil =>
    obtain rfl := Option.some.inj h.run
    exact h'
  | cons a as ih =>
    obtain ⟨k, ha, hk⟩ := run_cons_eq_some.mp h.run
    exact Drives.cons h.meets.head ha (ih ⟨h.meets.tail ha, hk⟩)

/-- `Meets` on a concrete run is decided by running it. -/
instance decidableMeets [∀ s a, Decidable (ok s a)] : ∀ s as, Decidable (Meets step ok s as)
  | _, [] => isTrue trivial
  | s, a :: as =>
    match h : step s a with
    | none => decidable_of_iff (ok s a) (by simp [Meets, h])
    | some m =>
      have := decidableMeets m as
      decidable_of_iff (ok s a ∧ Meets step ok m as) (by simp [Meets, h])

end Meets

end Runs
