/-
  Keyed tables: the finite maps a relational table with one unique key denotes.

  `Table κ ρ` is Mathlib's `Finmap`, so two tables are EQUAL when they hold the same rows under the
  same keys, whatever the order of the statements that wrote them.  `Finmap` already has point
  lookup, insertion and erasure; this file adds the bulk operations SQL has and `Finmap` lacks:

  * `keep` / `deleteWhere` — `DELETE ... WHERE`, by a predicate on key and row;
  * `mapRows`              — an `UPDATE` (or a projection) of every row;
  * `count`, `countWhere`  — `SELECT count(*)`, with and without a `WHERE`;
  * `upsert`               — `INSERT ... ON CONFLICT DO UPDATE`, the new row a function of the old;
  * `insertIfAbsent`       — `INSERT ... ON CONFLICT DO NOTHING`;
  * `insertNew`            — a plain `INSERT`, `none` on a duplicate key;
  * `keysDesc`             — `SELECT ... ORDER BY key DESC`, the keys alone.

  Every operation comes with its `lookup` lemma, which is all that later proofs use.

  Sameness of tables is what makes the rest easy to state: a rollback, an idempotent write, two
  orders of one batch all come to an equation, and an equation is proved by looking up one key
  (`ext_lookup`).  What an operation does in SQL to a set of rows is then a case split on whether
  this key is among them.
-/
import Mathlib.Data.Finmap
import Mathlib.Data.Finset.Sort
import Mathlib.Data.Finset.Card
import Mathlib.Order.Defs.LinearOrder

/-- A table of rows `ρ` under the unique key `κ`. -/
abbrev Table (κ ρ : Type) : Type := Finmap fun _ : κ => ρ

namespace Table

variable {κ ρ τ : Type} [DecidableEq κ]

/-- Two tables with the same rows are the same table. -/
theorem ext_lookup {t u : Table κ ρ} (h : ∀ k, t.lookup k = u.lookup k) : t = u :=
  Finmap.ext_lookup h

theorem lookup_insert_eq (t : Table κ ρ) (k k' : κ) (r : ρ) :
    (t.insert k r).lookup k' = if k' = k then some r else t.lookup k' := by
  by_cases h : k' = k
  · subst h; simp
  · rw [if_neg h, Finmap.lookup_insert_of_ne _ h]

@[simp] theorem erase_empty (k : κ) : (∅ : Table κ ρ).erase k = ∅ := by
  refine ext_lookup fun k' => ?_
  rw [Finmap.lookup_empty, Finmap.lookup_eq_none]
  exact fun h => Finmap.notMem_empty (Finmap.mem_erase.mp h).2

theorem lookup_union (t u : Table κ ρ) (k : κ) : (t ∪ u).lookup k = (t.lookup k).or (u.lookup k) := by
  by_cases h : k ∈ t
  · obtain ⟨r, hr⟩ := Finmap.mem_iff.mp h
    rw [Finmap.lookup_union_left h, hr, Option.some_or]
  · rw [Finmap.lookup_union_right h, Finmap.lookup_eq_none.mpr h, Option.none_or]

/-! ## Bulk deletion and update -/

/-- The rows that satisfy `p`. -/
def keep (p : κ → ρ → Bool) (t : Table κ ρ) : Table κ ρ :=
  Finmap.keysLookupEquiv.symm
    ⟨(t.keys.filter fun k => (t.lookup k).any (p k), fun k => (t.lookup k).filter (p k)), by
      intro k
      simp only [Finset.mem_filter, Finmap.mem_keys, ← Finmap.lookup_isSome]
      cases t.lookup k <;> simp [Option.filter]⟩

/-- `DELETE ... WHERE p`. -/
def deleteWhere (p : κ → ρ → Bool) (t : Table κ ρ) : Table κ ρ :=
  t.keep fun k r => !p k r

/-- Every row replaced by its image. -/
def mapRows (f : ρ → τ) (t : Table κ ρ) : Table κ τ :=
  Finmap.keysLookupEquiv.symm
    ⟨(t.keys, fun k => (t.lookup k).map f), by simp [Finmap.lookup_isSome, Finmap.mem_keys]⟩

@[simp] theorem lookup_keep (p : κ → ρ → Bool) (t : Table κ ρ) (k : κ) :
    (t.keep p).lookup k = (t.lookup k).filter (p k) := by simp [keep]

@[simp] theorem lookup_deleteWhere (p : κ → ρ → Bool) (t : Table κ ρ) (k : κ) :
    (t.deleteWhere p).lookup k = (t.lookup k).filter fun r => !p k r := by simp [deleteWhere]

@[simp] theorem lookup_mapRows (f : ρ → τ) (t : Table κ ρ) (k : κ) :
    (t.mapRows f).lookup k = (t.lookup k).map f := by simp [mapRows]

/-- A table with changes laid over it: under each changed key, the row written there or none. -/
def overlay (changes : Table κ (Option ρ)) (t : Table κ ρ) : Table κ ρ :=
  Finmap.keysLookupEquiv.symm
    ⟨((changes.keys ∪ t.keys).filter fun k => ((changes.lookup k).getD (t.lookup k)).isSome,
      fun k => (changes.lookup k).getD (t.lookup k)), by
      intro k
      simp only [Finset.mem_filter, Finset.mem_union, Finmap.mem_keys, ← Finmap.lookup_isSome]
      cases changes.lookup k <;> simp⟩

@[simp] theorem lookup_overlay (changes : Table κ (Option ρ)) (t : Table κ ρ) (k : κ) :
    (overlay changes t).lookup k = (changes.lookup k).getD (t.lookup k) := by simp [overlay]

@[simp] theorem overlay_empty (t : Table κ ρ) : overlay ∅ t = t :=
  ext_lookup fun k => by simp

/-- One more change is written over what was seen. -/
theorem overlay_insert (changes : Table κ (Option ρ)) (t : Table κ ρ) (k : κ) (r : ρ) :
    overlay (changes.insert k (some r)) t = (overlay changes t).insert k r := by
  refine ext_lookup fun k' => ?_
  rw [lookup_overlay, lookup_insert_eq, lookup_insert_eq, lookup_overlay]
  split <;> rfl

/-- The rows seen that satisfy `p`, deleted. -/
theorem overlay_delete (changes : Table κ (Option ρ)) (t : Table κ ρ) (p : κ → ρ → Bool) :
    overlay (((overlay changes t).keep p).mapRows (fun _ => none) ∪ changes) t =
      (overlay changes t).deleteWhere p := by
  refine ext_lookup fun k => ?_
  rw [lookup_overlay, lookup_union, lookup_mapRows, lookup_keep, lookup_deleteWhere, lookup_overlay]
  cases hseen : (changes.lookup k).getD (t.lookup k) with
  | none =>
    show (changes.lookup k).getD (t.lookup k) = none
    exact hseen
  | some r =>
    cases hp : p k r with
    | true => simp [Option.filter, hp]
    | false =>
      simp only [Option.filter, hp, Bool.false_eq_true, if_false, Option.map_none, Option.none_or]
      rw [hseen]
      rfl

/-- A deletion that matches no row leaves the table alone. -/
theorem deleteWhere_eq_self {p : κ → ρ → Bool} {t : Table κ ρ}
    (h : ∀ k r, t.lookup k = some r → p k r = false) : t.deleteWhere p = t := by
  refine ext_lookup fun k => ?_
  rw [lookup_deleteWhere]
  cases hk : t.lookup k with
  | none => rfl
  | some r => simp [Option.filter, h k r hk]

theorem lookup_deleteWhere_eq_some {p : κ → ρ → Bool} {t : Table κ ρ} {k : κ} {r : ρ} :
    (t.deleteWhere p).lookup k = some r ↔ t.lookup k = some r ∧ p k r = false := by
  rw [lookup_deleteWhere, Option.filter_eq_some_iff, Bool.not_eq_true']

theorem mem_deleteWhere {p : κ → ρ → Bool} {t : Table κ ρ} {k : κ} :
    k ∈ t.deleteWhere p ↔ ∃ r, t.lookup k = some r ∧ p k r = false := by
  rw [Finmap.mem_iff]
  simp only [lookup_deleteWhere, Option.filter_eq_some_iff, Bool.not_eq_true']

/-! ## Counting -/

/-- `SELECT count(*)`. -/
def count (t : Table κ ρ) : Nat := t.keys.card

/-- `SELECT count(*) ... WHERE p`. -/
def countWhere (p : κ → ρ → Bool) (t : Table κ ρ) : Nat := (t.keep p).count

theorem countWhere_eq_zero {p : κ → ρ → Bool} {t : Table κ ρ} :
    t.countWhere p = 0 ↔ ∀ k r, t.lookup k = some r → p k r = false := by
  rw [countWhere, count, Finset.card_eq_zero, Finset.eq_empty_iff_forall_notMem]
  simp only [Finmap.mem_keys, Finmap.mem_iff, lookup_keep, Option.filter_eq_some_iff]
  constructor
  · intro h k r hk
    by_contra hp
    exact h k ⟨r, hk, by simpa using hp⟩
  · rintro h k ⟨r, hk, hp⟩
    simp [h k r hk] at hp

/-- Rows that are all counted in another table are no more than are counted there. -/
theorem countWhere_le_countWhere {p q : κ → ρ → Bool} {t u : Table κ ρ}
    (h : ∀ k r, t.lookup k = some r → p k r = true → u.lookup k = some r ∧ q k r = true) :
    t.countWhere p ≤ u.countWhere q := by
  refine Finset.card_le_card fun k hk => ?_
  rw [Finmap.mem_keys, Finmap.mem_iff] at hk ⊢
  obtain ⟨r, hr⟩ := hk
  rw [lookup_keep, Option.filter_eq_some_iff] at hr
  refine ⟨r, ?_⟩
  rw [lookup_keep, Option.filter_eq_some_iff]
  exact h k r hr.1 hr.2

theorem count_eq_zero {t : Table κ ρ} : t.count = 0 ↔ t = ∅ := by
  rw [count, Finset.card_eq_zero]
  constructor
  · intro h
    refine ext_lookup fun k => ?_
    rw [Finmap.lookup_empty, Finmap.lookup_eq_none, ← Finmap.mem_keys, h]
    exact Finset.notMem_empty k
  · rintro rfl
    rfl

/-! ## Insertion, by what it does on a conflict -/

/-- `INSERT ... ON CONFLICT DO UPDATE`: `f` is given the row already there, if any. -/
def upsert (k : κ) (f : Option ρ → ρ) (t : Table κ ρ) : Table κ ρ :=
  t.insert k (f (t.lookup k))

/-- `INSERT ... ON CONFLICT DO NOTHING`. -/
def insertIfAbsent (k : κ) (r : ρ) (t : Table κ ρ) : Table κ ρ :=
  if k ∈ t then t else t.insert k r

/-- A plain `INSERT`: `none` when the key is already there. -/
def insertNew (k : κ) (r : ρ) (t : Table κ ρ) : Option (Table κ ρ) :=
  if k ∈ t then none else some (t.insert k r)

theorem lookup_upsert (k k' : κ) (f : Option ρ → ρ) (t : Table κ ρ) :
    (t.upsert k f).lookup k' = if k' = k then some (f (t.lookup k)) else t.lookup k' :=
  lookup_insert_eq t k k' _

@[simp] theorem lookup_upsert_self (k : κ) (f : Option ρ → ρ) (t : Table κ ρ) :
    (t.upsert k f).lookup k = some (f (t.lookup k)) := by rw [lookup_upsert, if_pos rfl]

theorem lookup_upsert_of_ne {k k' : κ} (h : k' ≠ k) (f : Option ρ → ρ) (t : Table κ ρ) :
    (t.upsert k f).lookup k' = t.lookup k' := by rw [lookup_upsert, if_neg h]

/-- The row of an `ON CONFLICT DO NOTHING`: the one already there wins. -/
theorem lookup_insertIfAbsent (k k' : κ) (r : ρ) (t : Table κ ρ) :
    (t.insertIfAbsent k r).lookup k' =
      if k' = k then some ((t.lookup k).getD r) else t.lookup k' := by
  unfold insertIfAbsent
  split
  · rename_i hmem
    obtain ⟨r', hr'⟩ := Finmap.mem_iff.mp hmem
    split
    · rename_i hk; subst hk; rw [hr']; rfl
    · rfl
  · rename_i hmem
    rw [lookup_insert_eq, Finmap.lookup_eq_none.mpr hmem]
    rfl

theorem insertNew_eq_some {k : κ} {r : ρ} {t u : Table κ ρ} :
    t.insertNew k r = some u ↔ k ∉ t ∧ u = t.insert k r := by
  unfold insertNew
  split
  · rename_i hmem; simp [hmem]
  · rename_i hmem; simp [hmem, eq_comm]

/-! ## Batches

  A batch of writes is a list of keyed rows folded into the table.  Its effect on one key is read
  off the list: the LAST row for the key when rows overwrite, the FIRST when they do not.  Either way
  writing the batch a second time changes nothing. -/

/-- The rows of a batch, each overwriting what was there. -/
def insertAll (batch : List (κ × ρ)) (t : Table κ ρ) : Table κ ρ :=
  batch.foldl (fun t row => t.insert row.1 row.2) t

/-- The rows of a batch, each yielding to what was there. -/
def insertAllIfAbsent (batch : List (κ × ρ)) (t : Table κ ρ) : Table κ ρ :=
  batch.foldl (fun t row => t.insertIfAbsent row.1 row.2) t

theorem lookup_insertAll (batch : List (κ × ρ)) (t : Table κ ρ) (k : κ) :
    (t.insertAll batch).lookup k = (batch.reverse.lookup k).or (t.lookup k) := by
  induction batch generalizing t with
  | nil => rfl
  | cons row batch ih =>
    show (insertAll batch (t.insert row.1 row.2)).lookup k = _
    rw [ih, lookup_insert_eq, List.reverse_cons, List.lookup_append, Option.or_assoc]
    congr 1
    obtain ⟨key, value⟩ := row
    by_cases hk : k = key
    · simp [hk]
    · have hbeq : (k == key) = false := beq_eq_false_iff_ne.mpr hk
      simp [List.lookup_cons, hk, hbeq]

theorem lookup_insertAllIfAbsent (batch : List (κ × ρ)) (t : Table κ ρ) (k : κ) :
    (t.insertAllIfAbsent batch).lookup k = (t.lookup k).or (batch.lookup k) := by
  induction batch generalizing t with
  | nil => exact (Option.or_none).symm
  | cons row batch ih =>
    show (insertAllIfAbsent batch (t.insertIfAbsent row.1 row.2)).lookup k = _
    rw [ih, lookup_insertIfAbsent]
    obtain ⟨key, value⟩ := row
    by_cases hk : k = key
    · subst hk
      cases t.lookup k <;> simp
    · have hbeq : (k == key) = false := beq_eq_false_iff_ne.mpr hk
      simp [List.lookup_cons, hk, hbeq]

theorem mem_insertIfAbsent {k k' : κ} {r : ρ} {t : Table κ ρ} :
    k' ∈ t.insertIfAbsent k r ↔ k' = k ∨ k' ∈ t := by
  unfold insertIfAbsent
  split
  · rename_i hmem
    refine ⟨Or.inr, ?_⟩
    rintro (rfl | h)
    · exact hmem
    · exact h
  · exact Finmap.mem_insert

theorem mem_insertAllIfAbsent {batch : List (κ × ρ)} {t : Table κ ρ} {k : κ} :
    k ∈ t.insertAllIfAbsent batch ↔ k ∈ t ∨ k ∈ batch.map (·.1) := by
  induction batch generalizing t with
  | nil => exact ⟨Or.inl, fun h => h.resolve_right List.not_mem_nil⟩
  | cons row batch ih =>
    show k ∈ insertAllIfAbsent batch (t.insertIfAbsent row.1 row.2) ↔ _
    rw [ih, mem_insertIfAbsent, List.map_cons, List.mem_cons, or_assoc, or_left_comm]

/-- A key no row of the batch has is left alone. -/
theorem lookup_insertAll_of_notMem {batch : List (κ × ρ)} {k : κ} (h : k ∉ batch.map (·.1))
    (t : Table κ ρ) : (t.insertAll batch).lookup k = t.lookup k := by
  induction batch generalizing t with
  | nil => rfl
  | cons row batch ih =>
    obtain ⟨hne, hrest⟩ : k ≠ row.1 ∧ k ∉ batch.map (·.1) := by
      simpa only [List.map_cons, List.mem_cons, not_or] using h
    show (insertAll batch (t.insert row.1 row.2)).lookup k = _
    rw [ih hrest, Finmap.lookup_insert_of_ne _ hne]

/-- A batch of distinct keys stores each of its rows. -/
theorem lookup_insertAll_of_mem {batch : List (κ × ρ)} (hnodup : (batch.map (·.1)).Nodup)
    {k : κ} {r : ρ} (h : (k, r) ∈ batch) (t : Table κ ρ) :
    (t.insertAll batch).lookup k = some r := by
  induction batch generalizing t with
  | nil => cases h
  | cons row batch ih =>
    obtain ⟨hnew, hnodup⟩ : row.1 ∉ batch.map (·.1) ∧ (batch.map (·.1)).Nodup := by
      simpa only [List.map_cons, List.nodup_cons] using hnodup
    show (insertAll batch (t.insert row.1 row.2)).lookup k = _
    rcases List.mem_cons.mp h with rfl | h
    · rw [lookup_insertAll_of_notMem hnew, Finmap.lookup_insert]
    · exact ih hnodup h _

/-- Writing a batch again changes nothing. -/
theorem insertAll_insertAll (batch : List (κ × ρ)) (t : Table κ ρ) :
    (t.insertAll batch).insertAll batch = t.insertAll batch := by
  refine ext_lookup fun k => ?_
  simp only [lookup_insertAll]
  cases batch.reverse.lookup k <;> rfl

theorem insertAllIfAbsent_insertAllIfAbsent (batch : List (κ × ρ)) (t : Table κ ρ) :
    (t.insertAllIfAbsent batch).insertAllIfAbsent batch = t.insertAllIfAbsent batch := by
  refine ext_lookup fun k => ?_
  simp only [lookup_insertAllIfAbsent]
  cases t.lookup k <;> cases batch.lookup k <;> rfl

/-- Batches written one after the other are one batch. -/
theorem foldl_insertAll {α : Type} (f : α → List (κ × ρ)) (xs : List α) (t : Table κ ρ) :
    xs.foldl (fun t x => t.insertAll (f x)) t = t.insertAll (xs.flatMap f) :=
  (List.foldl_flatMap).symm

theorem foldl_insertAllIfAbsent {α : Type} (f : α → List (κ × ρ)) (xs : List α) (t : Table κ ρ) :
    xs.foldl (fun t x => t.insertAllIfAbsent (f x)) t = t.insertAllIfAbsent (xs.flatMap f) :=
  (List.foldl_flatMap).symm

/-- The row found in a batch is one of its rows. -/
theorem mem_of_lookup {batch : List (κ × ρ)} {k : κ} {r : ρ} (h : batch.lookup k = some r) :
    (k, r) ∈ batch := by
  obtain ⟨before, after, rfl, -⟩ := List.lookup_eq_some_iff.mp h
  exact List.mem_append_right _ List.mem_cons_self

/-- Batches that agree on the keys they share may be written in either order. -/
theorem insertAll_comm {a b : List (κ × ρ)}
    (h : ∀ row ∈ a, ∀ row' ∈ b, row.1 = row'.1 → row.2 = row'.2) (t : Table κ ρ) :
    (t.insertAll a).insertAll b = (t.insertAll b).insertAll a := by
  refine ext_lookup fun k => ?_
  simp only [lookup_insertAll]
  cases ha : a.reverse.lookup k with
  | none => rfl
  | some r =>
    cases hb : b.reverse.lookup k with
    | none => rfl
    | some r' =>
      have hr : (k, r) ∈ a := List.mem_reverse.mp (mem_of_lookup ha)
      have hr' : (k, r') ∈ b := List.mem_reverse.mp (mem_of_lookup hb)
      have heq : r = r' := h _ hr _ hr' rfl
      rw [heq]

theorem insertAllIfAbsent_comm {a b : List (κ × ρ)}
    (h : ∀ row ∈ a, ∀ row' ∈ b, row.1 = row'.1 → row.2 = row'.2) (t : Table κ ρ) :
    (t.insertAllIfAbsent a).insertAllIfAbsent b = (t.insertAllIfAbsent b).insertAllIfAbsent a := by
  refine ext_lookup fun k => ?_
  simp only [lookup_insertAllIfAbsent, Option.or_assoc]
  congr 1
  cases ha : a.lookup k with
  | none => exact (Option.or_none).symm
  | some r =>
    cases hb : b.lookup k with
    | none => rfl
    | some r' =>
      have heq : r = r' := h _ (mem_of_lookup ha) _ (mem_of_lookup hb) rfl
      rw [heq]

/-- Projecting every row commutes with writing one. -/
theorem mapRows_insert (f : ρ → τ) (t : Table κ ρ) (k : κ) (r : ρ) :
    mapRows f (t.insert k r) = (mapRows f t).insert k (f r) := by
  refine ext_lookup fun k' => ?_
  rw [lookup_mapRows, lookup_insert_eq, lookup_insert_eq, lookup_mapRows]
  split <;> rfl

/-! ## Rows in key order -/

section Ordered

variable {κ κ' ρ ρ' : Type} [LinearOrder κ] [LinearOrder κ']

/-- The keys, the greatest first. -/
def keysDesc (t : Table κ ρ) : List κ := t.keys.sort (· ≥ ·)

@[simp] theorem mem_keysDesc {t : Table κ ρ} {k : κ} : k ∈ t.keysDesc ↔ k ∈ t :=
  (Finset.mem_sort _).trans Finmap.mem_keys

theorem keysDesc_single (k : κ) (r : ρ) : keysDesc ((∅ : Table κ ρ).insert k r) = [k] := by
  have hkeys : ((∅ : Table κ ρ).insert k r).keys = {k} := by
    ext k'
    rw [Finmap.mem_keys, Finmap.mem_insert, Finset.mem_singleton]
    exact or_iff_left Finmap.notMem_empty
  unfold keysDesc
  rw [hkeys, Finset.sort_singleton]

/-- A strictly monotone map that takes the keys of one table onto those of another takes them in
    order. -/
theorem map_keysDesc {t : Table κ ρ} {u : Table κ' ρ'} {f : κ → κ'}
    (hmono : ∀ k ∈ t, ∀ k' ∈ t, k < k' → f k < f k') (hkeys : ∀ k', k' ∈ u ↔ ∃ k ∈ t, f k = k') :
    t.keysDesc.map f = u.keysDesc := by
  have hsorted : (t.keysDesc.map f).SortedGT := by
    refine List.Pairwise.sortedGT (List.pairwise_map.mpr ?_)
    refine (Finset.sortedGT_sort t.keys).pairwise.imp_of_mem ?_
    intro k k' hk hk' hlt
    exact hmono k' (mem_keysDesc.mp hk') k (mem_keysDesc.mp hk) hlt
  refine hsorted.eq_of_mem_iff (Finset.sortedGT_sort u.keys) fun k' => ?_
  rw [List.mem_map]
  refine Iff.trans ?_ mem_keysDesc.symm
  rw [hkeys]
  exact exists_congr fun k => and_congr_left fun _ => mem_keysDesc

end Ordered

end Table
