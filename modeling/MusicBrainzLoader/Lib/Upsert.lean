/-
  `INSERT INTO t (columns) VALUES (...) ON CONFLICT (key) DO UPDATE SET ...`, by the columns it names.

  * **Rows** are read by column; a column nothing has been stored in, and which has no default, reads as
    none.
  * **`Statement`** — the column list, the conflict target and the `SET` list.  `exec` stores the row it
    inserts, or the one the `SET` list makes of a row that is already there.
  * **`Refreshing`** — the `SET` list names every column that is not of the key, and nothing else comes
    of the old row: whatever was stored, the columns then hold the values that were sent
    (`stored_of_mem`), and every other column is as it was (`stored_of_notMem`).
  * **`Untouched`** — the rows a run of statements leaves, outside the columns they name.
  * **`Represents`** — a table read by columns stands for one of records, and an upsert of each keeps it
    so.

  A statement can fail to refresh in two ways that look alike in its text: a column that is missing
  from the `SET` list keeps what it held, and a column that is missing from the insert itself is set
  to a default the first time and kept after.  `Refreshing` excludes the first and is decided by
  looking at the lists; the second is no fault, and `Untouched` is what is left to say of it.

  Both kinds of table are keyed, so what `Represents` relates is rows under corresponding keys, and
  only those: the relation says nothing of a raw row whose key is no record's.  `Represents.exec`
  carries it over a statement, and needs that different records have different raw keys.
-/
import MusicBrainzLoader.Lib.Table

namespace Upsert

/-- What each column holds. -/
abbrev Row (C V : Type) := C → Option V

/-- What a `SET` assigns. -/
inductive Source (C : Type) where
  | excluded (column : C)
  | now
deriving DecidableEq

structure Statement (C : Type) where
  columns : List C
  key : List C
  sets : List (C × Source C)

section Rows

variable {C V : Type} [DecidableEq C]

/-- The row an insert stores: the values it assigns, the defaults elsewhere. -/
def insertRow (defaults : Row C V) (assigned : List (C × V)) : Row C V :=
  fun c => (assigned.lookup c).or (defaults c)

/-- The row a `SET` list makes of an old one. -/
def updateRow (sets : List (C × Source C)) (now : V) (excluded old : Row C V) : Row C V := fun c =>
  match sets.lookup c with
  | some (.excluded c') => excluded c'
  | some .now => some now
  | none => old c

/-- What a row is stored under. -/
def keyOf (key : List C) (row : Row C V) : List (Option V) := key.map row

/-- The row that is stored, from the one that was. -/
def Statement.stored (s : Statement C) (now : V) (new : Row C V) (old : Option (Row C V)) : Row C V :=
  old.elim new (updateRow s.sets now new)

/-- The statement, with the values it assigns. -/
def Statement.exec [DecidableEq V] (s : Statement C) (defaults : Row C V) (now : V)
    (assigned : List (C × V)) (t : Table (List (Option V)) (Row C V)) :
    Table (List (Option V)) (Row C V) :=
  let new := insertRow defaults assigned
  t.upsert (keyOf s.key new) (s.stored now new)

/-- Every column is of the key or is set to what was sent, and a key that is set is set to itself. -/
def Statement.Refreshing (s : Statement C) : Prop :=
  (∀ c ∈ s.columns, c ∈ s.key ∨ s.sets.lookup c = some (.excluded c)) ∧
    ∀ c ∈ s.key, s.sets.lookup c = none ∨ s.sets.lookup c = some (.excluded c)

instance (s : Statement C) : Decidable s.Refreshing := inferInstanceAs (Decidable (_ ∧ _))

variable {s : Statement C} {defaults new : Row C V} {old : Option (Row C V)} {now v : V}
  {assigned : List (C × V)} {c : C}

omit [DecidableEq C] in
theorem lookup_of_mem [BEq C] [LawfulBEq C] (hnodup : (assigned.map (·.1)).Nodup)
    (h : (c, v) ∈ assigned) : assigned.lookup c = some v := by
  induction assigned with
  | nil => cases h
  | cons p assigned ih =>
    obtain ⟨c', v'⟩ := p
    rw [List.map_cons, List.nodup_cons] at hnodup
    rcases List.mem_cons.mp h with heq | hmem
    · cases heq
      rw [List.lookup_cons_self]
    · have hne : c ≠ c' := by
        rintro rfl
        exact hnodup.1 (List.mem_map.mpr ⟨(c, v), hmem, rfl⟩)
      rw [List.lookup_cons, beq_eq_false_iff_ne.mpr hne]
      exact ih hnodup.2 hmem

theorem insertRow_of_mem (hnodup : (assigned.map (·.1)).Nodup) (h : (c, v) ∈ assigned) :
    insertRow defaults assigned c = some v := by
  unfold insertRow
  rw [lookup_of_mem hnodup h, Option.some_or]

theorem insertRow_of_notMem (h : c ∉ assigned.map (·.1)) :
    insertRow defaults assigned c = defaults c := by
  have hnone : assigned.lookup c = none := by
    rw [List.lookup_eq_none_iff]
    intro p hp
    refine bne_iff_ne.mpr fun heq => h ?_
    exact List.mem_map.mpr ⟨p, hp, heq.symm⟩
  unfold insertRow
  rw [hnone, Option.none_or]

/-- **Nothing of an old row is left in the statement's columns.** -/
theorem stored_of_mem (hrefreshing : s.Refreshing)
    (hkey : ∀ row, old = some row → keyOf s.key row = keyOf s.key new) (hc : c ∈ s.columns) :
    s.stored now new old c = new c := by
  cases old with
  | none => rfl
  | some row =>
    show updateRow s.sets now new row c = new c
    have hsame (h : c ∈ s.key) : row c = new c := List.map_inj_left.mp (hkey row rfl) c h
    unfold updateRow
    rcases hrefreshing.1 c hc with h | h
    · rcases hrefreshing.2 c h with hset | hset
      · rw [hset]
        exact hsame h
      · rw [hset]
    · rw [h]

/-- A column that is not set keeps what it held. -/
theorem stored_of_notMem {row : Row C V} (hc : s.sets.lookup c = none) :
    s.stored now new (some row) c = row c := by
  show updateRow s.sets now new row c = row c
  unfold updateRow
  rw [hc]

/-- A column that is set to `NOW()`. -/
theorem stored_of_now (hc : s.sets.lookup c = some .now) (hnew : new c = some now) :
    s.stored now new old c = some now := by
  cases old with
  | none => exact hnew
  | some row =>
    show updateRow s.sets now new row c = some now
    unfold updateRow
    rw [hc]

/-- The key of the row that is stored is the one it is stored under. -/
theorem keyOf_stored (hrefreshing : s.Refreshing) (hcolumns : s.key ⊆ s.columns)
    (hkey : ∀ row, old = some row → keyOf s.key row = keyOf s.key new) :
    keyOf s.key (s.stored now new old) = keyOf s.key new :=
  List.map_congr_left fun _ hc => stored_of_mem hrefreshing hkey (hcolumns hc)

end Rows

/-! ## What a statement leaves alone -/

section Untouched

variable {C V : Type} [DecidableEq V]

/-- Every row is still there, and what it holds outside the columns. -/
def Untouched (columns : List C) (t t' : Table (List (Option V)) (Row C V)) : Prop :=
  ∀ key row, t.lookup key = some row →
    ∃ row', t'.lookup key = some row' ∧ ∀ c, c ∉ columns → row' c = row c

variable {columns : List C} {t t' t'' : Table (List (Option V)) (Row C V)}

theorem Untouched.refl (columns : List C) (t : Table (List (Option V)) (Row C V)) :
    Untouched columns t t :=
  fun _ row hrow => ⟨row, hrow, fun _ _ => rfl⟩

theorem Untouched.trans (h : Untouched columns t t') (h' : Untouched columns t' t'') :
    Untouched columns t t'' := by
  intro key row hrow
  obtain ⟨row', hrow', hsame⟩ := h key row hrow
  obtain ⟨row'', hrow'', hsame'⟩ := h' key row' hrow'
  exact ⟨row'', hrow'', fun c hc => (hsame' c hc).trans (hsame c hc)⟩

theorem untouched_exec [DecidableEq C] {s : Statement C} {defaults : Row C V} {now : V}
    {assigned : List (C × V)} (hsets : ∀ c, c ∉ columns → s.sets.lookup c = none) :
    Untouched columns t (s.exec defaults now assigned t) := by
  intro key row hrow
  show ∃ row', (t.upsert _ _).lookup key = some row' ∧ _
  rw [Table.lookup_upsert]
  split
  next heq =>
    rw [← heq, hrow]
    exact ⟨_, rfl, fun c hc => stored_of_notMem (hsets c hc)⟩
  next => exact ⟨row, hrow, fun _ _ => rfl⟩

end Untouched

/-! ## A table of columns standing for one of records -/

section Represents

variable {C V κ ρ : Type} [DecidableEq V] [DecidableEq κ]

/-- The row under each record's key is the record's. -/
def Represents (rawKey : κ → List (Option V)) (rep : κ → Row C V → ρ → Prop)
    (raw : Table (List (Option V)) (Row C V)) (t : Table κ ρ) : Prop :=
  ∀ k, Option.Rel (rep k) (raw.lookup (rawKey k)) (t.lookup k)

variable {rawKey : κ → List (Option V)} {rep : κ → Row C V → ρ → Prop}
  {raw : Table (List (Option V)) (Row C V)} {t : Table κ ρ}

/-- **Upserts on both sides**: it is enough that each makes of what is there a row for the other's. -/
theorem Represents.upsert (h : Represents rawKey rep raw t) (hinj : Function.Injective rawKey)
    {k : κ} {f : Option (Row C V) → Row C V} {g : Option ρ → ρ}
    (hrep : ∀ old old', Option.Rel (rep k) old old' → rep k (f old) (g old')) :
    Represents rawKey rep (raw.upsert (rawKey k) f) (t.upsert k g) := by
  intro k'
  rw [Table.lookup_upsert, Table.lookup_upsert]
  by_cases hk : k' = k
  · subst hk
    rw [if_pos rfl, if_pos rfl]
    exact .some (hrep _ _ (h k'))
  · rw [if_neg hk, if_neg fun heq => hk (hinj heq)]
    exact h k'

/-- **The statement, on a table that stands for one of records**: a row that is already there is the one
    of its key, so nothing of it is left in the statement's columns. -/
theorem Represents.exec [DecidableEq C] (h : Represents rawKey rep raw t)
    (hinj : Function.Injective rawKey) {s : Statement C} (hrefreshing : s.Refreshing)
    (hcolumns : s.key ⊆ s.columns) {defaults : Row C V} {now : V} {assigned : List (C × V)} {k : κ}
    {g : Option ρ → ρ} (hnew : keyOf s.key (insertRow defaults assigned) = rawKey k)
    (hkeys : ∀ row r, rep k row r → keyOf s.key row = rawKey k)
    (hrep : ∀ old old', Option.Rel (rep k) old old' →
      keyOf s.key (s.stored now (insertRow defaults assigned) old) = rawKey k →
      (∀ c ∈ s.columns, s.stored now (insertRow defaults assigned) old c =
        insertRow defaults assigned c) →
      rep k (s.stored now (insertRow defaults assigned) old) (g old')) :
    Represents rawKey rep (s.exec defaults now assigned raw) (t.upsert k g) := by
  show Represents rawKey rep (raw.upsert (keyOf s.key (insertRow defaults assigned)) _) _
  rw [hnew]
  refine h.upsert hinj fun old old' hold => ?_
  have hkey (row : Row C V) (hrow : old = some row) :
      keyOf s.key row = keyOf s.key (insertRow defaults assigned) := by
    subst hrow
    cases hold with
    | some hrow => rw [hnew, hkeys _ _ hrow]
  exact hrep old old' hold ((keyOf_stored hrefreshing hcolumns hkey).trans hnew)
    fun c hc => stored_of_mem hrefreshing hkey hc

end Represents

end Upsert
