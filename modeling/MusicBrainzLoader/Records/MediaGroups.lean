/-
  `media_edge_rows` against its grouping specification.

  The code accumulates the rows in one pass, with skips and defaults; the specification says what one
  medium's row is from that medium's items alone (`groupOf`): there is a row when the group has an item,
  its family is the first item's, and its quantity is the sum over the group.  So permuting the items
  leaves media and quantities as they are, and appending items adds up.

  The accumulator is a list of rows in the order the media first come up, sorted at the very end, and an
  item may add to a row anywhere in it.  Comparing the list with the groups while it grows would need the
  order; what is compared is the quantity it has for one medium (`rowQty`), to which an item of the medium
  adds its units and any other item nothing.  Family and order are proved apart: a row's family is
  decided when the row is made, and the sort only permutes.
-/
import MusicBrainzLoader.Records.Media

namespace Records

/-! ## The specification -/

/-- A non-empty string. -/
def nonEmptyString : Json → Bool
  | .str s => s != ""
  | _ => false

/-- The item counts towards this medium: both its medium and its family are non-empty strings. -/
def usable (item : Json) (medium : String) : Bool :=
  item.isObj && nonEmptyString (item.get "family") && nonEmptyString (item.get "medium") &&
    decide (item.get "medium" = .str medium)

/-- **`GROUP BY medium`**: one medium's items. -/
def groupOf (items : List Json) (medium : String) : List Json := items.filter (usable · medium)

/-- An item of the medium heads its group. -/
theorem groupOf_cons_of_usable {item : Json} {medium : String} (h : usable item medium = true)
    (items : List Json) : groupOf (item :: items) medium = item :: groupOf items medium :=
  List.filter_cons_of_pos h

/-- Any other item is left out of it. -/
theorem groupOf_cons_of_not {item : Json} {medium : String} (h : ¬ usable item medium = true)
    (items : List Json) : groupOf (item :: items) medium = groupOf items medium :=
  List.filter_cons_of_neg h

/-- An item's units. -/
def itemUnits (item : Json) : Nat := mediumQuantity (item.get "qty")

/-- The rows are the groups' rows, in the order of their media. -/
structure GroupsBy (items : List Json) (rows : List MediaRow) : Prop where
  sorted : (rows.map (·.medium)).Pairwise (· < ·)
  media : ∀ medium, medium ∈ rows.map (·.medium) ↔ groupOf items medium ≠ []
  qty : ∀ row ∈ rows, row.qty = ((groupOf items row.medium).map itemUnits).sum
  family : ∀ row ∈ rows,
    (groupOf items row.medium).head?.map (·.get "family") = some (.str row.family)

/-- The items of a block: its `items` list, none when it is absent or null. -/
def HasItems (media : Json) (items : List Json) : Prop :=
  media.get "items" = .arr items ∨ media.get "items" = .null ∧ items = []

/-- The units of a medium among some rows. -/
def units (rows : List MediaRow) (medium : String) : Nat := (rowQty rows medium).getD 0

/-! ## Items and entries -/

/-- `_medium_quantity`: an integer within the bounds is itself, anything else counts as one. -/
theorem mediumQuantity_spec (value : Json) :
    (∃ n : Int, value = .int n ∧ 1 ≤ n ∧ n ≤ 999999999 ∧ (mediumQuantity value : Int) = n) ∨
      (¬ ∃ n : Int, value = .int n ∧ 1 ≤ n ∧ n ≤ 999999999) ∧ mediumQuantity value = 1 := by
  cases value with
  | int n =>
    by_cases hrange : 1 ≤ n ∧ n ≤ 999999999
    · refine .inl ⟨n, rfl, hrange.1, hrange.2, ?_⟩
      show ((if 1 ≤ n ∧ n ≤ 999999999 then n.toNat else 1 : Nat) : Int) = n
      rw [if_pos hrange]
      omega
    · refine .inr ⟨?_, if_neg hrange⟩
      rintro ⟨m, hm, hbounds⟩
      obtain rfl := Json.int.inj hm
      exact hrange hbounds
  | _ => exact .inr ⟨fun ⟨_, h, _⟩ => Json.noConfusion h, rfl⟩

/-- A quantity that is too large to be one counts as one unit. -/
theorem mediumQuantity_le (value : Json) : mediumQuantity value ≤ 999999999 := by
  rcases mediumQuantity_spec value with ⟨n, -, -, hle, heq⟩ | ⟨-, heq⟩ <;> omega

/-- `isinstance(value, str) and value`. -/
theorem nonEmptyString_iff {value : Json} :
    nonEmptyString value = true ↔ ∃ s, value = .str s ∧ s ≠ "" := by
  cases value with
  | str s => simp [nonEmptyString]
  | _ => simp [nonEmptyString]

/-- What the code's tests of an item come to. -/
theorem usable_iff {item : Json} {medium : String} :
    usable item medium = true ↔ item.isObj = true ∧ item.get "medium" = .str medium ∧ medium ≠ "" ∧
      ∃ family, item.get "family" = .str family ∧ family ≠ "" := by
  unfold usable
  rw [Bool.and_eq_true, Bool.and_eq_true, Bool.and_eq_true, nonEmptyString_iff, nonEmptyString_iff,
    decide_eq_true_eq]
  constructor
  · rintro ⟨⟨⟨hobject, hfamily⟩, s, hs, hne⟩, hmedium⟩
    obtain rfl := Json.str.inj (hs.symm.trans hmedium)
    exact ⟨hobject, hmedium, hne, hfamily⟩
  · rintro ⟨hobject, hmedium, hne, hfamily⟩
    exact ⟨⟨⟨hobject, hfamily⟩, medium, hmedium, hne⟩, hmedium⟩

/-- The entry an item contributes is the specification's reading of it. -/
theorem mediaEntry_eq_some {item : Json} {entry : String × String × Nat} :
    mediaEntry item = some entry ↔ usable item entry.1 = true ∧
      item.get "family" = .str entry.2.1 ∧ entry.2.2 = itemUnits item := by
  obtain ⟨medium, family, qty⟩ := entry
  rw [usable_iff]
  unfold mediaEntry
  -- Both labels are read before either is tested for being empty.
  split
  · rename_i m f hobject hm hf
    rw [hobject, hm, hf]
    split
    · rename_i hempty
      constructor
      · intro h
        cases h
      · rintro ⟨⟨-, hmedium, hne, family', hfamily', hne'⟩, -, -⟩
        obtain rfl := Json.str.inj hmedium
        obtain rfl := Json.str.inj hfamily'
        exact absurd hempty (not_or.mpr ⟨hne, hne'⟩)
    · rename_i hempty
      obtain ⟨hne, hne'⟩ := not_or.mp hempty
      rw [Option.some.injEq]
      constructor
      · intro h
        cases h
        exact ⟨⟨rfl, rfl, hne, _, rfl, hne'⟩, rfl, rfl⟩
      · rintro ⟨⟨-, hmedium, -, -⟩, hfamily, hqty⟩
        obtain rfl := Json.str.inj hmedium
        obtain rfl := Json.str.inj hfamily
        obtain rfl : qty = itemUnits item := hqty
        rfl
  · -- No object, or one of the two labels is no string.
    rename_i hother
    constructor
    · intro h
      cases h
    · rintro ⟨⟨hobject, hmedium, -⟩, hfamily, -⟩
      exact absurd hfamily (hother _ _ hobject hmedium)

/-- An item that is usable for a medium has an entry for it. -/
theorem mediaEntry_of_usable {item : Json} {medium : String} (h : usable item medium = true) :
    ∃ family, mediaEntry item = some (medium, family, itemUnits item) ∧
      item.get "family" = .str family := by
  obtain ⟨-, -, -, family, hfamily, -⟩ := usable_iff.mp h
  exact ⟨family, mediaEntry_eq_some.mpr ⟨h, hfamily, rfl⟩, hfamily⟩

/-- One medium's entries are its group's. -/
theorem entries_of_group (items : List Json) (medium : String) :
    (items.filterMap mediaEntry).filter (·.1 = medium) = (groupOf items medium).filterMap mediaEntry := by
  induction items with
  | nil => rfl
  | cons item items ih =>
    -- An item without an entry is in no group.
    cases hentry : mediaEntry item with
    | none =>
      have hunusable : ¬ usable item medium = true := by
        intro h
        obtain ⟨family, hsome, -⟩ := mediaEntry_of_usable h
        rw [hentry] at hsome
        cases hsome
      rw [List.filterMap_cons_none hentry, ih, groupOf_cons_of_not hunusable]
    | some entry =>
      rw [List.filterMap_cons_some hentry]
      -- An entry is in its own medium's group, and in no other.
      by_cases hmedium : entry.1 = medium
      · have husable : usable item medium = true := hmedium ▸ (mediaEntry_eq_some.mp hentry).1
        rw [List.filter_cons_of_pos (by simpa using hmedium), ih, groupOf_cons_of_usable husable,
          List.filterMap_cons_some hentry]
      · have hunusable : ¬ usable item medium = true := by
          intro h
          obtain ⟨family, hsome, -⟩ := mediaEntry_of_usable h
          rw [hentry] at hsome
          exact hmedium (congrArg Prod.fst (Option.some.inj hsome))
        rw [List.filter_cons_of_neg (by simpa using hmedium), ih, groupOf_cons_of_not hunusable]

/-- So a medium's units are its group's. -/
theorem entryTotal_eq (items : List Json) (medium : String) :
    entryTotal (items.filterMap mediaEntry) medium = ((groupOf items medium).map itemUnits).sum := by
  unfold entryTotal
  rw [entries_of_group, List.map_filterMap]
  congr 1
  rw [← List.filterMap_eq_map]
  refine List.filterMap_congr fun item hitem => ?_
  obtain ⟨family, hentry, -⟩ := mediaEntry_of_usable (List.mem_filter.mp hitem).2
  rw [hentry]
  rfl

/-! ## The family of a medium -/

/-- The family some rows have for a medium. -/
def rowFamily (rows : List MediaRow) (medium : String) : Option String :=
  (rows.find? (·.medium = medium)).map (·.family)

/-- Counting an entry in gives a family to a medium that has none yet. -/
theorem rowFamily_addMediaEntry (ext : Externals) (rows : List MediaRow)
    (entry : String × String × Nat) (medium : String) :
    rowFamily (addMediaEntry ext rows entry) medium =
      (rowFamily rows medium).or (if entry.1 = medium then some entry.2.1 else none) := by
  unfold addMediaEntry
  split
  · -- The medium has a row: no row's medium or family changes.
    rename_i hany
    have hsame : ((fun row : MediaRow => decide (row.medium = medium)) ∘ fun row : MediaRow =>
        if row.medium = entry.1 then { row with qty := row.qty + entry.2.2 } else row) =
          fun row => decide (row.medium = medium) := by
      funext row
      show decide ((if row.medium = entry.1 then { row with qty := row.qty + entry.2.2 }
        else row).medium = medium) = _
      split <;> rfl
    have hfamily : rowFamily (rows.map fun row =>
        if row.medium = entry.1 then { row with qty := row.qty + entry.2.2 } else row) medium =
          rowFamily rows medium := by
      unfold rowFamily
      rw [List.find?_map, hsame, Option.map_map]
      refine congrArg (fun f => Option.map f _) (funext fun row => ?_)
      show (if row.medium = entry.1 then { row with qty := row.qty + entry.2.2 } else row).family = _
      split <;> rfl
    rw [hfamily]
    split
    · rename_i hmedium
      obtain ⟨row, hrow, hrowMedium⟩ := List.any_eq_true.mp hany
      have hsome : (rowFamily rows medium).isSome = true := by
        unfold rowFamily
        rw [Option.isSome_map, List.find?_isSome]
        exact ⟨row, hrow, by rw [← hmedium]; exact hrowMedium⟩
      obtain ⟨family, hf⟩ := Option.isSome_iff_exists.mp hsome
      rw [hf]
      rfl
    · rw [Option.or_none]
  · -- A new medium: its row is appended.
    unfold rowFamily
    rw [List.find?_append, List.find?_singleton]
    by_cases hmedium : entry.1 = medium
    · rw [if_pos (by simpa using hmedium), if_pos hmedium]
      cases rows.find? (·.medium = medium) <;> rfl
    · rw [if_neg (by simpa using hmedium), if_neg hmedium, Option.or_none, Option.or_none]

/-- The accumulated rows have the family they had, or the first entry's. -/
theorem rowFamily_foldl (ext : Externals) (entries : List (String × String × Nat))
    (rows : List MediaRow) (medium : String) :
    rowFamily (entries.foldl (addMediaEntry ext) rows) medium =
      (rowFamily rows medium).or
        ((entries.filter (·.1 = medium)).head?.map fun entry => entry.2.1) := by
  induction entries generalizing rows with
  | nil => exact (Option.or_none).symm
  | cons entry entries ih =>
    rw [List.foldl_cons, ih, rowFamily_addMediaEntry, Option.or_assoc]
    congr 1
    by_cases hmedium : entry.1 = medium
    · rw [if_pos hmedium, List.filter_cons_of_pos (by simpa using hmedium)]
      rfl
    · rw [if_neg hmedium, List.filter_cons_of_neg (by simpa using hmedium), Option.none_or]

/-- With one row per medium, the row found for a medium is the one that has it. -/
theorem findRow_eq_some {rows : List MediaRow} (hnodup : (rows.map (·.medium)).Nodup)
    {medium : String} {row : MediaRow} :
    rows.find? (·.medium = medium) = some row ↔ row ∈ rows ∧ row.medium = medium := by
  constructor
  · intro h
    exact ⟨List.mem_of_find?_eq_some h, by simpa using List.find?_some h⟩
  · rintro ⟨hrow, rfl⟩
    cases hfind : rows.find? (·.medium = row.medium) with
    | none => exact absurd (List.find?_eq_none.mp hfind row hrow) (by simp)
    | some found =>
      have hmedium : found.medium = row.medium := by simpa using List.find?_some hfind
      rw [List.inj_on_of_nodup_map hnodup (List.mem_of_find?_eq_some hfind) hrow hmedium]

/-- So a medium's family is its row's. -/
theorem rowFamily_of_mem {rows : List MediaRow} (hnodup : (rows.map (·.medium)).Nodup)
    {row : MediaRow} (hrow : row ∈ rows) : rowFamily rows row.medium = some row.family := by
  unfold rowFamily
  rw [(findRow_eq_some hnodup).mpr ⟨hrow, rfl⟩]
  rfl

/-- The order of the rows does not matter then. -/
theorem rowFamily_perm {rows rows' : List MediaRow} (hnodup : (rows.map (·.medium)).Nodup)
    (hperm : rows'.Perm rows) (medium : String) : rowFamily rows' medium = rowFamily rows medium := by
  have hnodup' : (rows'.map (·.medium)).Nodup := (hperm.map _).nodup_iff.mpr hnodup
  have hfind : rows'.find? (·.medium = medium) = rows.find? (·.medium = medium) := by
    refine Option.ext fun row => ?_
    rw [findRow_eq_some hnodup', findRow_eq_some hnodup, hperm.mem_iff]
  unfold rowFamily
  rw [hfind]

/-! ## The rows are the groups -/

section Rows

variable {ext : Externals} {media media' : Json} {items items' : List Json}
  {rows rows' : List MediaRow}

/-- A block with these items has rows. -/
theorem mediaItems_of_hasItems (h : HasItems media items) : mediaItems media = some items := by
  unfold mediaItems
  rcases h with h | ⟨h, rfl⟩
  · rw [h]
    cases items <;> rfl
  · rw [h]
    rfl

/-- A block with items is read to its end. -/
theorem mediaEdgeRows_of_hasItems (ext : Externals) (h : HasItems media items) :
    mediaEdgeRows ext media = some (((items.filterMap mediaEntry).foldl (addMediaEntry ext) []
      ).insertionSort fun a b => a.medium ≤ b.medium) := by
  unfold mediaEdgeRows
  rw [mediaItems_of_hasItems h]
  rfl

/-- The rows come in the order of their media. -/
theorem mediaEdgeRows_sorted (h : mediaEdgeRows ext media = some rows) :
    (rows.map (·.medium)).Pairwise (· < ·) := by
  have hnodup := mediaEdgeRows_nodup h
  obtain ⟨items, -, hrows⟩ := Option.bind_eq_some_iff.mp h
  obtain rfl := Option.some.inj hrows
  have hsorted : ((((items.filterMap mediaEntry).foldl (addMediaEntry ext) []).insertionSort
      fun a b => a.medium ≤ b.medium).map (·.medium)).Pairwise (· ≤ ·) := by
    have hmap := List.map_insertionSort (fun a b : MediaRow => a.medium ≤ b.medium)
      (fun a b : String => a ≤ b) MediaRow.medium
      ((items.filterMap mediaEntry).foldl (addMediaEntry ext) []) fun _ _ _ _ => Iff.rfl
    rw [hmap]
    exact List.pairwise_insertionSort _ _
  have hboth := hsorted.and hnodup
  exact hboth.imp fun h => lt_of_le_of_ne h.1 h.2

/-- A medium's quantity, from its group. -/
theorem rowQty_of_hasItems (hitems : HasItems media items) (h : mediaEdgeRows ext media = some rows)
    (medium : String) : rowQty rows medium = group ((groupOf items medium).map itemUnits).sum := by
  rw [rowQty_mediaEdgeRows h, blockTotal, mediaEntries, mediaItems_of_hasItems hitems,
    Option.getD_some, entryTotal_eq]

/-- A group with an item has units. -/
theorem groupUnits_pos {medium : String} :
    ((groupOf items medium).map itemUnits).sum = 0 ↔ groupOf items medium = [] := by
  cases hgroup : groupOf items medium with
  | nil => exact ⟨fun _ => rfl, fun _ => rfl⟩
  | cons item rest =>
    have hpos : 0 < itemUnits item := mediumQuantity_pos _
    rw [List.map_cons, List.sum_cons]
    refine ⟨fun hzero => ?_, fun hnil => absurd hnil (List.cons_ne_nil _ _)⟩
    omega

/-- The family of a medium is its first item's. -/
theorem rowFamily_of_hasItems (hitems : HasItems media items)
    (h : mediaEdgeRows ext media = some rows) (medium : String) :
    (rowFamily rows medium).map .str = (groupOf items medium).head?.map (·.get "family") := by
  have hnodup := mediaEdgeRows_nodup h
  rw [mediaEdgeRows_of_hasItems ext hitems] at h
  obtain rfl := Option.some.inj h
  have hperm := List.perm_insertionSort (fun a b : MediaRow => a.medium ≤ b.medium)
    ((items.filterMap mediaEntry).foldl (addMediaEntry ext) [])
  have hunsorted := (hperm.map (·.medium)).nodup_iff.mp hnodup
  rw [rowFamily_perm hunsorted hperm, rowFamily_foldl, entries_of_group]
  show Option.map Json.str (((groupOf items medium).filterMap mediaEntry).head?.map _) = _
  cases hgroup : groupOf items medium with
  | nil => rfl
  | cons item rest =>
    have hitem : item ∈ groupOf items medium := hgroup ▸ List.mem_cons_self
    obtain ⟨family, hentry, hfamily⟩ := mediaEntry_of_usable (List.mem_filter.mp hitem).2
    rw [List.filterMap_cons_some hentry]
    show some (Json.str family) = some (item.get "family")
    rw [hfamily]

/-- **`media_edge_rows` is the grouping.** -/
theorem groupsBy_mediaEdgeRows (hitems : HasItems media items)
    (h : mediaEdgeRows ext media = some rows) : GroupsBy items rows := by
  have hnodup := mediaEdgeRows_nodup h
  -- A row's quantity is its group's, which is not zero.
  have hqty (row : MediaRow) (hrow : row ∈ rows) :
      group ((groupOf items row.medium).map itemUnits).sum = some row.qty := by
    rw [← rowQty_of_hasItems hitems h]
    exact (rowQty_eq_some hnodup).mpr ⟨row, hrow, rfl, rfl⟩
  refine ⟨mediaEdgeRows_sorted h, fun medium => ?_, fun row hrow => ?_, fun row hrow => ?_⟩
  · -- A medium has a row when its group has units, and so an item.
    have hrowQty := rowQty_of_hasItems hitems h medium
    constructor
    · intro hmem hempty
      obtain ⟨row, hrow, rfl⟩ := List.mem_map.mp hmem
      have hsome := hqty row hrow
      rw [group, if_pos (groupUnits_pos.mpr hempty)] at hsome
      cases hsome
    · intro hnonempty
      rw [group, if_neg fun hzero => hnonempty (groupUnits_pos.mp hzero)] at hrowQty
      obtain ⟨row, hrow, hmedium, -⟩ := (rowQty_eq_some hnodup).mp hrowQty
      exact List.mem_map.mpr ⟨row, hrow, hmedium⟩
  -- The quantity.
  · have hsome := hqty row hrow
    unfold group at hsome
    split at hsome
    · cases hsome
    · exact (Option.some.inj hsome).symm
  -- The family: the group's first item has it.
  · rw [← rowFamily_of_hasItems hitems h, rowFamily_of_mem hnodup hrow]
    rfl

/-! ## Bounds, permutations, concatenations -/

/-- A sum of quantities is at least their number, and at most so many maxima. -/
theorem length_le_sum (items : List Json) :
    items.length ≤ (items.map itemUnits).sum ∧
      (items.map itemUnits).sum ≤ items.length * 999999999 := by
  induction items with
  | nil => exact ⟨le_refl 0, Nat.zero_le _⟩
  | cons item items ih =>
    have hpos : 0 < itemUnits item := mediumQuantity_pos _
    have hle : itemUnits item ≤ 999999999 := mediumQuantity_le _
    rw [List.map_cons, List.sum_cons, List.length_cons]
    omega

/-- Rows are decided by their media and quantities. -/
theorem rows_ext (hsorted : (rows.map (·.medium)).Pairwise (· < ·))
    (hsorted' : (rows'.map (·.medium)).Pairwise (· < ·))
    (hsame : ∀ medium, rowQty rows medium = rowQty rows' medium) :
    rows.map (fun row => (row.medium, row.qty)) = rows'.map fun row => (row.medium, row.qty) := by
  have hmem {rows : List MediaRow} (hsorted : (rows.map (·.medium)).Pairwise (· < ·))
      (p : String × Nat) : p ∈ rows.map (fun row => (row.medium, row.qty)) ↔
        rowQty rows p.1 = some p.2 := by
    rw [rowQty_eq_some (hsorted.imp ne_of_lt), List.mem_map]
    constructor
    · rintro ⟨row, hrow, rfl⟩
      exact ⟨row, hrow, rfl, rfl⟩
    · rintro ⟨row, hrow, hmedium, hqty⟩
      exact ⟨row, hrow, Prod.ext hmedium hqty⟩
  have hpairwise {rows : List MediaRow} (hsorted : (rows.map (·.medium)).Pairwise (· < ·)) :
      (rows.map fun row => (row.medium, row.qty)).Pairwise fun p q => p.1 < q.1 := by
    rw [List.pairwise_map] at hsorted ⊢
    exact hsorted
  -- Two sorted lists with the same members are the same list.
  refine List.Perm.eq_of_pairwise (fun p q _ _ hpq hqp => absurd hpq (lt_asymm hqp))
    (hpairwise hsorted) (hpairwise hsorted') ?_
  have hnodup {rows : List MediaRow} (hsorted : (rows.map (·.medium)).Pairwise (· < ·)) :
      (rows.map fun row => (row.medium, row.qty)).Nodup :=
    (hpairwise hsorted).imp fun {p q} hlt heq => absurd (congrArg Prod.fst heq) (ne_of_lt hlt)
  refine (List.perm_ext_iff_of_nodup (hnodup hsorted) (hnodup hsorted')).mpr fun p => ?_
  rw [hmem hsorted, hmem hsorted', hsame]

/-- Permuted items give the same media and quantities. -/
theorem mediaEdgeRows_perm (hitems : HasItems media items) (hitems' : HasItems media' items')
    (hperm : items'.Perm items) (h : mediaEdgeRows ext media = some rows)
    (h' : mediaEdgeRows ext media' = some rows') :
    rows'.map (fun row => (row.medium, row.qty)) = rows.map fun row => (row.medium, row.qty) := by
  refine rows_ext (mediaEdgeRows_sorted h') (mediaEdgeRows_sorted h) fun medium => ?_
  have hgroup : (groupOf items' medium).Perm (groupOf items medium) := hperm.filter _
  rw [rowQty_of_hasItems hitems' h', rowQty_of_hasItems hitems h, (hgroup.map itemUnits).sum_eq]

/-- A medium's units are its group's. -/
theorem units_of_hasItems (hitems : HasItems media items) (h : mediaEdgeRows ext media = some rows)
    (medium : String) : units rows medium = ((groupOf items medium).map itemUnits).sum := by
  unfold units
  rw [rowQty_of_hasItems hitems h]
  unfold group
  split
  · rename_i hzero
    rw [hzero]
    rfl
  · rfl

/-- **`media_edge_rows` is `GROUP BY medium … SUM(qty)`.**  A block's rows are its groups', in the order
    of their media; every quantity is normalized, is at least the number of entries it sums, and fits
    the column for as many items as a message could hold; no primary key is inserted twice; permuted
    items give the same media and quantities, and those of two blocks add up. -/
theorem media_edge_rows_group (ext : Externals) {media : Json} {items : List Json}
    (hitems : HasItems media items) :
    ∃ rows, mediaEdgeRows ext media = some rows ∧ GroupsBy items rows ∧
      (∀ value, (∃ n : Int, value = .int n ∧ 1 ≤ n ∧ n ≤ 999999999 ∧ (mediumQuantity value : Int) = n) ∨
        (¬ ∃ n : Int, value = .int n ∧ 1 ≤ n ∧ n ≤ 999999999) ∧ mediumQuantity value = 1) ∧
      (∀ row ∈ rows, (groupOf items row.medium).length ≤ row.qty ∧
        (items.length ≤ 2 ^ 33 → row.qty < 2 ^ 63)) ∧
      (∀ releaseId, ((mediaEdges releaseId rows).map (·.1)).Nodup) ∧
      (∀ media' items' rows', HasItems media' items' → items'.Perm items →
        mediaEdgeRows ext media' = some rows' →
          rows'.map (fun row => (row.medium, row.qty)) = rows.map fun row => (row.medium, row.qty)) ∧
      ∀ media' items' rows' joined both, HasItems media' items' → HasItems joined (items ++ items') →
        mediaEdgeRows ext media' = some rows' → mediaEdgeRows ext joined = some both →
          ∀ medium, units both medium = units rows medium + units rows' medium := by
  have h := mediaEdgeRows_of_hasItems ext hitems
  have hgroups := groupsBy_mediaEdgeRows hitems h
  refine ⟨_, h, hgroups, mediumQuantity_spec, fun row hrow => ?_, fun releaseId => ?_, ?_, ?_⟩
  -- Each unit counts one at least, and 999999999 at most, so 2^33 items do not reach 2^63.
  · obtain ⟨hlower, hupper⟩ := length_le_sum (groupOf items row.medium)
    have hlength : (groupOf items row.medium).length ≤ items.length := List.length_filter_le _ _
    rw [hgroups.qty row hrow]
    refine ⟨hlower, fun hmany => ?_⟩
    omega
  -- Keys differ as media do.
  · have hnodup := mediaEdgeRows_nodup h
    unfold mediaEdges
    rw [List.map_map]
    refine List.Nodup.of_map (fun key : IssuedOnKey => key.mediumId) ?_
    rw [List.map_map]
    exact hnodup
  · intro media' items' rows' hitems' hperm h'
    exact mediaEdgeRows_perm hitems hitems' hperm h h'
  -- Groups of a joined list are joined, so their units add up.
  · intro media' items' rows' joined both hitems' hjoined h' hboth medium
    have hgroup : groupOf (items ++ items') medium = groupOf items medium ++ groupOf items' medium :=
      List.filter_append _ _
    rw [units_of_hasItems hjoined hboth, units_of_hasItems hitems h, units_of_hasItems hitems' h',
      hgroup, List.map_append, List.sum_append]

end Rows

/-- A record on a CD and five LPs, its LPs counted in two items. -/
def lpItems : List Json :=
  [.obj [("family", .str "vinyl"), ("medium", .str "lp"), ("qty", .int 2)],
    .obj [("family", .str "disc"), ("medium", .str "cd"), ("qty", .int 1)], .null,
    .obj [("family", .str "vinyl"), ("medium", .str "lp"), ("qty", .int 3)]]

theorem media_edge_rows_group_lp :
    ∃ rows, mediaEdgeRows sampleExternals (.obj [("items", .arr lpItems)]) = some rows ∧
      rows.map (fun row => (row.medium, row.qty)) = [("cd", 1), ("lp", 5)] ∧ GroupsBy lpItems rows := by
  have hitems : HasItems (.obj [("items", .arr lpItems)]) lpItems := .inl rfl
  obtain ⟨rows, h, hgroups, -⟩ := media_edge_rows_group sampleExternals hitems
  have hrows : (mediaEdgeRows sampleExternals (.obj [("items", .arr lpItems)])).map
      (·.map fun row => (row.medium, row.qty)) = some [("cd", 1), ("lp", 5)] := by
    decide +kernel
  rw [h] at hrows
  exact ⟨rows, h, Option.some.inj hrows, hgroups⟩

end Records
