/-
  Records that run at the same time: which native id each of them writes.

  * **A transaction** (`Tx`) goes from identity call to identity call.  What it inserts is its own
    until it commits: no other transaction sees it, and one that would insert the same reference waits
    for it to end.  It can be rolled back anywhere, and its aliases with it.
  * **Other loaders** insert aliases, and change or delete none.
  * **`common.identity`** is given anew at each call, since what it mints is up to the call.  Of each
    call two things are assumed: nothing is overwritten (`Identity.Additive`), and a MusicBrainz alias
    that is resolved and not there is minted (`Identity.Mints`).

  That a later message writes the item its alias names does not follow from the alias being there when
  it commits: the id was read at some earlier call, perhaps before the alias was committed.  What saves
  it is that an id read that early comes from the message's own insert, and no two transactions hold an
  insert of one reference, nor one that is committed already (`Exclusive`).  So a message that resolved
  its alias first holds the insert itself, and whoever commits the alias in between cannot be another.
  With that, the item a reference names is decided once (`native_identity_is_stable`).  A transaction
  left alone does what `process` says (`process_alone`).
-/
import MusicBrainzLoader.Lib.Interleaving
import MusicBrainzLoader.Lib.Runs
import MusicBrainzLoader.Records.Redelivery

namespace Records

namespace NativeIds

open Interleaving

/-! ## Transactions -/

/-- How far a transaction has come.  The stages are the places between two awaits of
    `common.identity`: what has been read so far is in the stage, since the code keeps it in its
    locals until the row is written. -/
inductive Stage where
  | starting
  /-- The Discogs alias named this item, which the MusicBrainz alias is to be attached to. -/
  | attaching (discogsItem : Item)
  /-- The Discogs alias named none: the MusicBrainz alias is resolved. -/
  | resolving
  /-- `_native_id` has returned: the pipeline, and then a release's identifiers. -/
  | writing (gmItemId : Option Item)
  | attached (gmItemId : Option Item)
  | ended
deriving DecidableEq

structure Tx where
  kind : EntityKind
  record : Json
  stage : Stage := .starting
  /-- The item its Discogs alias named. -/
  discogsItem : Option Item := none
  /-- The aliases it has inserted. -/
  inserted : Aliases := ∅

/-- The alias a record's native id is kept under. -/
def Tx.ref (tx : Tx) : AliasRef := ⟨"musicbrainz", tx.kind.identityKind, mbid tx.record⟩

/-- What everybody sees, and the transactions under way or ended.  An ended one keeps its place, so
    that the place of a transaction is its name. -/
structure State where
  /-- What is committed. -/
  db : Database := {}
  txs : List Tx := []

/-- The aliases a transaction sees: its own and the committed ones. -/
def State.seen (s : State) (tx : Tx) : Aliases := tx.inserted ∪ s.db.aliases

/-- What a transaction has come to, and the aliases it sees, after its next identity call: the calls
    of `_native_id` one at a time, and then those for a release's identifiers in one. -/
def nextCall (ext : Externals) (tx : Tx) (aliases : Aliases) :
    Option (Aliases × Stage × Option Item) :=
  match tx.stage with
  | .starting =>
    let discogsId := tx.record.get tx.kind.discogsColumn
    if !(mbid tx.record).truthy then some (aliases, .writing none, none)
    else if discogsId.truthy then
      match ext.identity.resolve aliases ⟨"discogs", tx.kind.identityKind, .str discogsId.pyStr⟩ with
      | (aliases, some discogsItem) => some (aliases, .attaching discogsItem, some discogsItem)
      | (aliases, none) => some (aliases, .resolving, none)
    else
      let (aliases, gmItemId) := ext.identity.resolve aliases tx.ref
      some (aliases, .writing gmItemId, none)
  | .attaching discogsItem =>
    let (aliases, attached) := ext.identity.attach aliases [(tx.ref, discogsItem)]
    some (aliases, .writing (some ((attached.lookup tx.ref).getD discogsItem)), tx.discogsItem)
  | .resolving =>
    let (aliases, gmItemId) := ext.identity.resolve aliases tx.ref
    some (aliases, .writing gmItemId, tx.discogsItem)
  | .writing gmItemId =>
    (attachAliases ext tx.kind aliases tx.record gmItemId).map fun aliases =>
      (aliases, .attached gmItemId, tx.discogsItem)
  | .attached _ | .ended => none

inductive Action where
  | begin (kind : EntityKind) (record : Json)
  /-- The next identity call of the `i`-th transaction. -/
  | call (i : Nat) (identity : Identity)
  | commit (i : Nat) (now : Instant)
  | rollback (i : Nat)
  /-- Another loader commits an alias. -/
  | insert (ref : AliasRef) (item : Item)

/-- What a call has inserted: the references it sees now that are not committed. -/
def insertedBy (committed aliases : Aliases) : Aliases :=
  aliases.keep fun ref _ => decide (ref ∉ committed)

/-- No other transaction holds an insert of these references; one that does is waited for.  The step
    is refused then, and taken when the other has ended: an `ON CONFLICT DO NOTHING` on the alias
    table's unique index waits in the same way. -/
def free (txs : List Tx) (i : Nat) (refs : Finset AliasRef) : Bool :=
  (txs.eraseIdx i).all fun tx => decide (Disjoint tx.inserted.keys refs)

/-- A transaction after a call: what it has come to, and what it has inserted. -/
def Tx.after (tx : Tx) (committed : Aliases) (r : Aliases × Stage × Option Item) : Tx :=
  { tx with stage := r.2.1, discogsItem := r.2.2, inserted := insertedBy committed r.1 }

/-- A transaction that has come to its end. -/
def Tx.closed (tx : Tx) : Tx := { tx with stage := .ended, inserted := ∅ }

/-- One step.  A commit is of the row and of the aliases together, the lock of the MBID among its
    statements; a rollback leaves nothing, whether it is the code's own or a connection's. -/
def step (ext : Externals) (refresh : Bool) (s : State) : Action → Option State
  | .begin kind record => some { s with txs := s.txs ++ [{ kind, record }] }
  | .call i identity => do
    let tx ← s.txs[i]?
    let r ← nextCall { ext with identity } tx (s.seen tx)
    let tx := tx.after s.db.aliases r
    if free s.txs i tx.inserted.keys then return { s with txs := s.txs.set i tx } else none
  | .commit i now => do
    let tx ← s.txs[i]?
    match tx.stage with
    | .attached gmItemId =>
      let db ← execAll ext.casts refresh now s.db (firstLock tx.kind tx.record)
      let statements ← recordStatements ext tx.kind tx.record gmItemId
      let db ← execAll ext.casts refresh now db statements
      return { db := { db with aliases := s.seen tx }, txs := s.txs.set i tx.closed }
    | _ => none
  | .rollback i => s.txs[i]?.map fun tx => { s with txs := s.txs.set i tx.closed }
  | .insert ref item =>
    if ref ∉ s.db.aliases ∧ free s.txs s.txs.length {ref} then
      some { s with db := { s.db with aliases := s.db.aliases.insert ref item } }
    else none

/-! ## What a call does -/

section Call

variable {ext : Externals} {tx : Tx} {aliases aliases' committed : Aliases} {stage : Stage}
  {discogsItem : Option Item}

/-- A resolution keeps what every reference names. -/
theorem resolve_extends {identity : Identity} (law : identity.Additive) (ref : AliasRef)
    {other : AliasRef} {item : Item} (h : aliases.lookup other = some item) :
    (identity.resolve aliases ref).1.lookup other = some item := by
  by_cases hsame : other = ref
  · subst hsame
    rw [law.resolve_existing aliases other item h]
    exact h
  · rw [law.resolve_frame aliases ref other hsame, h]

/-- No call changes the item a reference names. -/
theorem nextCall_extends (ext : Externals) (law : ext.identity.Additive)
    (h : nextCall ext tx aliases = some (aliases', stage, discogsItem)) {ref : AliasRef} {item : Item}
    (hlook : aliases.lookup ref = some item) : aliases'.lookup ref = some item := by
  unfold nextCall at h
  split at h
  · -- The first call: none at all, the Discogs alias, or the MusicBrainz alias.
    dsimp only at h
    split at h
    · cases h
      exact hlook
    · split at h
      · have hextends := resolve_extends law ⟨"discogs", tx.kind.identityKind,
          .str (tx.record.get tx.kind.discogsColumn).pyStr⟩ hlook
        split at h <;> rename_i hresolve <;> cases h <;> rwa [hresolve] at hextends
      · cases h
        exact resolve_extends law _ hlook
  -- The attach of its own ref, which keeps what is there.
  · cases h
    rw [law.attach_lookup, hlook, Option.some_or]
    exact List.nodup_singleton tx.ref
  -- The resolve of its own ref, after no Discogs item was found.
  · cases h
    exact resolve_extends law _ hlook
  -- The aliases of a release's identifiers, each an attach.
  · obtain ⟨attached, hattached, h⟩ := Option.map_eq_some_iff.mp h
    cases h
    exact (attachAliases_again law hattached).1 ref item hlook
  -- Nothing is called once these are attached.
  · cases h
  · cases h

/-- What is committed is nobody's insert, though its transaction sees it. -/
theorem lookup_insertedBy (committed aliases : Aliases) (ref : AliasRef) :
    (insertedBy committed aliases).lookup ref =
      if ref ∈ committed then none else aliases.lookup ref := by
  unfold insertedBy
  rw [Table.lookup_keep]
  by_cases h : ref ∈ committed
  · cases aliases.lookup ref <;> simp [h]
  · cases aliases.lookup ref <;> simp [h]

theorem mem_insertedBy {ref : AliasRef} :
    ref ∈ insertedBy committed aliases ↔ ref ∉ committed ∧ ref ∈ aliases := by
  rw [← Finmap.lookup_isSome, lookup_insertedBy]
  by_cases h : ref ∈ committed
  · simp [h]
  · simp [h, Finmap.lookup_isSome]

/-- With what it inserted set apart, a transaction still sees what its call left. -/
theorem insertedBy_union (h : ∀ ref item, committed.lookup ref = some item →
    aliases.lookup ref = some item) : insertedBy committed aliases ∪ committed = aliases := by
  refine Table.ext_lookup fun ref => ?_
  rw [Table.lookup_union, lookup_insertedBy]
  by_cases hmem : ref ∈ committed
  · obtain ⟨item, hitem⟩ := Finmap.mem_iff.mp hmem
    rw [if_pos hmem, Option.none_or, hitem, h ref item hitem]
  · rw [if_neg hmem, Finmap.lookup_eq_none.mpr hmem, Option.or_none]

end Call

/-! ## One transaction -/

/-- Its native id is decided: it is the item its alias names, and the Discogs item if the alias is
    its own insert; and with an MBID there is one.  The last is where `Identity.Mints` comes in:
    without it a row could be written with no native id although its alias is committed in the
    meantime. -/
structure Decided (committed : Aliases) (tx : Tx) (gmItemId : Option Item) : Prop where
  minted : (mbid tx.record).truthy = true → gmItemId ≠ none
  names : ∀ item, gmItemId = some item → (tx.inserted ∪ committed).lookup tx.ref = some item
  shares : ∀ discogsItem, tx.discogsItem = some discogsItem →
    gmItemId ≠ none ∧ (tx.ref ∈ tx.inserted → tx.inserted.lookup tx.ref = some discogsItem)

/-- What each stage of a transaction knows.  Before it has resolved its alias it has not inserted
    it; the item of the Discogs alias is kept beside, as the native id is to be that one. -/
def Sound (committed : Aliases) (tx : Tx) : Prop :=
  match tx.stage with
  | .starting => tx.ref ∉ tx.inserted ∧ tx.discogsItem = none
  | .attaching discogsItem => tx.ref ∉ tx.inserted ∧ tx.discogsItem = some discogsItem
  | .resolving => tx.ref ∉ tx.inserted ∧ tx.discogsItem = none
  | .writing gmItemId => Decided committed tx gmItemId
  | .attached gmItemId => Decided committed tx gmItemId
  | .ended => True

section OneTx

variable {ext : Externals} {tx : Tx} {aliases committed committed' : Aliases} {stage : Stage}
  {discogsItem : Option Item}

/-- A decided native id stays decided while others commit: the alias is found before or it is the
    transaction's own, and its own comes first. -/
theorem Decided.mono {gmItemId : Option Item} (h : Decided committed tx gmItemId)
    (hextends : ∀ ref item, committed.lookup ref = some item → committed'.lookup ref = some item) :
    Decided committed' tx gmItemId := by
  refine ⟨h.minted, fun item hitem => ?_, h.shares⟩
  have hnames := h.names item hitem
  rw [Table.lookup_union] at hnames ⊢
  cases hown : tx.inserted.lookup tx.ref with
  | some own => rwa [hown] at hnames
  | none =>
    rw [hown, Option.none_or] at hnames
    rw [Option.none_or, hextends tx.ref item hnames]

/-- More committed aliases take nothing from what a transaction knows. -/
theorem Sound.mono (h : Sound committed tx)
    (hextends : ∀ ref item, committed.lookup ref = some item → committed'.lookup ref = some item) :
    Sound committed' tx := by
  unfold Sound at h ⊢
  split <;> rename_i hstage <;> rw [hstage] at h
  · exact h
  · exact h
  · exact h
  · exact Decided.mono h hextends
  · exact Decided.mono h hextends
  · trivial

/-- Its own resolution decides a transaction's native id. -/
theorem decided_resolve {identity : Identity} (law : identity.Additive) (mints : identity.Mints)
    (hdiscogs : discogsItem = none)
    (hextends : ∀ ref item, committed.lookup ref = some item →
      (identity.resolve aliases tx.ref).1.lookup ref = some item) :
    Decided committed { tx with
      stage := .writing (identity.resolve aliases tx.ref).2
      discogsItem
      inserted := insertedBy committed (identity.resolve aliases tx.ref).1 }
      (identity.resolve aliases tx.ref).2 := by
  constructor
  · exact fun _ => mints aliases tx.kind.identityKind (mbid tx.record)
  · intro item hitem
    show (insertedBy committed _ ∪ committed).lookup tx.ref = some item
    rw [insertedBy_union hextends, ← law.resolve_answer, hitem]
  · intro d hd
    rw [hdiscogs] at hd
    cases hd

/-- **One identity call** keeps what the transaction knows.  The cases are those of `nextCall`: only
    the second stage can attach a Discogs item, and only where the alias was not there. -/
theorem sound_nextCall (ext : Externals) (law : ext.identity.Additive)
    (mints : ext.identity.Mints) (hsound : Sound committed tx)
    (hcall : nextCall ext tx (tx.inserted ∪ committed) = some (aliases, stage, discogsItem))
    (hextends : ∀ ref item, committed.lookup ref = some item → aliases.lookup ref = some item) :
    Sound committed (tx.after committed (aliases, stage, discogsItem)) := by
  -- A reference the call leaves alone is as new to the transaction as before.
  have hkept : tx.ref ∉ tx.inserted →
      aliases.lookup tx.ref = (tx.inserted ∪ committed).lookup tx.ref →
        tx.ref ∉ insertedBy committed aliases := by
    intro hnew hsame hmem
    obtain ⟨hout, hin⟩ := mem_insertedBy.mp hmem
    rw [Table.lookup_union, Finmap.lookup_eq_none.mpr hnew, Finmap.lookup_eq_none.mpr hout] at hsame
    exact absurd hin (Finmap.lookup_eq_none.mp hsame)
  unfold nextCall at hcall
  unfold Sound at hsound
  split at hcall <;> rename_i hstage <;> rw [hstage] at hsound
  · obtain ⟨hnew, hdiscogs⟩ := hsound
    dsimp only at hcall
    split at hcall
    · -- Without an MBID there is no native id.
      rename_i hfalsy
      cases hcall
      refine ⟨fun hmbid => ?_, nofun, nofun⟩
      rw [show (mbid tx.record).truthy = true from hmbid] at hfalsy
      cases hfalsy
    · split at hcall
      · have hframe := law.resolve_frame (tx.inserted ∪ committed) ⟨"discogs", tx.kind.identityKind,
          .str (tx.record.get tx.kind.discogsColumn).pyStr⟩ tx.ref (by simp [Tx.ref])
        split at hcall <;> rename_i hresolve <;> cases hcall <;> rw [hresolve] at hframe
        · exact ⟨hkept hnew hframe, rfl⟩
        · exact ⟨hkept hnew hframe, rfl⟩
      · cases hcall
        exact decided_resolve law mints rfl hextends
  · rename_i item
    obtain ⟨hnew, hdiscogs⟩ := hsound
    cases hcall
    obtain ⟨hanswer, hnames⟩ := attach_one law (tx.inserted ∪ committed) tx.ref item
    refine ⟨fun _ => Option.some_ne_none _, fun item' hitem' => ?_,
      fun d hd => ⟨Option.some_ne_none _, fun hown => ?_⟩⟩
    · show (insertedBy committed _ ∪ committed).lookup tx.ref = some item'
      rw [insertedBy_union hextends, hnames, ← hanswer]
      exact hitem'
    · -- The alias is its own insert, so it was absent and got the Discogs item.
      have hout : tx.ref ∉ committed := (mem_insertedBy.mp hown).1
      obtain rfl : item = d := Option.some.inj (hdiscogs.symm.trans hd)
      show (insertedBy committed _).lookup tx.ref = some item
      rw [lookup_insertedBy, if_neg hout, hnames, Table.lookup_union, Finmap.lookup_eq_none.mpr hnew,
        Finmap.lookup_eq_none.mpr hout]
      rfl
  · cases hcall
    exact decided_resolve law mints hsound.2 hextends
  · rename_i gmItemId
    obtain ⟨attached, hattached, h⟩ := Option.map_eq_some_iff.mp hcall
    cases h
    have hseen := (attachAliases_again law hattached).1
    refine ⟨hsound.minted, fun item hitem => ?_,
      fun d hd => ⟨(hsound.shares d hd).1, fun hown => ?_⟩⟩
    · show (insertedBy committed _ ∪ committed).lookup tx.ref = some item
      rw [insertedBy_union hextends]
      exact hseen tx.ref item (hsound.names item hitem)
    · have hout : tx.ref ∉ committed := (mem_insertedBy.mp hown).1
      obtain ⟨item, hitem⟩ := Option.ne_none_iff_exists'.mp (hsound.shares d hd).1
      have hnames := hsound.names item hitem
      have hmem : tx.ref ∈ tx.inserted := by
        by_contra hnew
        rw [Table.lookup_union, Finmap.lookup_eq_none.mpr hnew, Finmap.lookup_eq_none.mpr hout] at hnames
        cases hnames
      show (insertedBy committed _).lookup tx.ref = some d
      rw [lookup_insertedBy, if_neg hout]
      refine hseen tx.ref d ?_
      rw [Table.lookup_union, (hsound.shares d hd).2 hmem, Option.some_or]
  · cases hcall
  · cases hcall

end OneTx

/-! ## Every transaction -/

/-- No reference is inserted twice: not by two transactions, and not when it is committed.  Each
    transaction's own knowledge is carried along, as it speaks of the committed aliases too. -/
structure Exclusive (s : State) : Prop where
  uncommitted : ∀ (i : Nat) (tx : Tx), s.txs[i]? = some tx → ∀ ref ∈ tx.inserted, ref ∉ s.db.aliases
  apart : ∀ (i j : Nat) (tx tx' : Tx), i ≠ j → s.txs[i]? = some tx → s.txs[j]? = some tx' →
    ∀ ref ∈ tx.inserted, ref ∉ tx'.inserted
  sound : ∀ (i : Nat) (tx : Tx), s.txs[i]? = some tx → Sound s.db.aliases tx

section Step

variable {ext : Externals} {refresh : Bool} {s s' : State} {a : Action}

/-- The wait, transaction by transaction. -/
theorem free_iff {txs : List Tx} {i : Nat} {refs : Finset AliasRef} :
    free txs i refs = true ↔
      ∀ j tx, j ≠ i → txs[j]? = some tx → ∀ ref ∈ tx.inserted, ref ∉ refs := by
  unfold free
  simp only [List.all_eq_true, decide_eq_true_eq, List.mem_eraseIdx_iff_getElem?,
    Finset.disjoint_left, Finmap.mem_keys]
  constructor
  · exact fun h j tx hj htx => h tx ⟨j, hj, htx⟩
  · rintro h tx ⟨j, hj, htx⟩
    exact h j tx hj htx

/-- **What a step does.** -/
theorem step_cases (h : step ext refresh s a = some s') :
    (∃ kind record, a = .begin kind record ∧ s' = { s with txs := s.txs ++ [{ kind, record }] }) ∨
    (∃ i identity tx r, a = .call i identity ∧ s.txs[i]? = some tx ∧
      nextCall { ext with identity } tx (s.seen tx) = some r ∧
      free s.txs i (tx.after s.db.aliases r).inserted.keys = true ∧
      s' = { s with txs := s.txs.set i (tx.after s.db.aliases r) }) ∨
    (∃ i now tx gmItemId pl, a = .commit i now ∧ s.txs[i]? = some tx ∧
      tx.stage = .attached gmItemId ∧ plan ext tx.kind tx.record = some pl ∧
      s' = { db := pl.apply tx.kind refresh now (sourceRef tx.record) gmItemId (s.seen tx) s.db,
             txs := s.txs.set i tx.closed }) ∨
    (∃ i tx, a = .rollback i ∧ s.txs[i]? = some tx ∧ s' = { s with txs := s.txs.set i tx.closed }) ∨
    (∃ ref item, a = .insert ref item ∧ ref ∉ s.db.aliases ∧
      free s.txs s.txs.length {ref} = true ∧
      s' = { s with db := { s.db with aliases := s.db.aliases.insert ref item } }) := by
  cases a with
  | begin kind record => exact Or.inl ⟨kind, record, rfl, (Option.some.inj h).symm⟩
  | call i identity =>
    obtain ⟨tx, htx, h⟩ := Option.bind_eq_some_iff.mp h
    obtain ⟨r, hcall, h⟩ := Option.bind_eq_some_iff.mp h
    -- The call is made only if no other transaction has inserted what it inserts: the unique index
    -- would make it wait.
    dsimp only at h
    split at h
    · rename_i hfree
      exact Or.inr (Or.inl ⟨i, identity, tx, r, rfl, htx, hcall, hfree, (Option.some.inj h).symm⟩)
    · cases h
  | commit i now =>
    obtain ⟨tx, htx, h⟩ := Option.bind_eq_some_iff.mp h
    -- A commit needs the identifiers attached, and its statements castable.
    split at h
    · rename_i gmItemId hstage
      rw [execAll_firstLock] at h
      obtain ⟨db₀, hdb₀, h⟩ := Option.bind_eq_some_iff.mp h
      obtain rfl := Option.some.inj hdb₀
      obtain ⟨statements, hstatements, h⟩ := Option.bind_eq_some_iff.mp h
      obtain ⟨db, hdb, h⟩ := Option.bind_eq_some_iff.mp h
      obtain ⟨pl, hpl, rfl⟩ := execAll_recordStatements.mp ⟨statements, hstatements, hdb⟩
      exact Or.inr (Or.inr (Or.inl ⟨i, now, tx, gmItemId, pl, rfl, htx, hstage, hpl,
        (Option.some.inj h).symm⟩))
    · cases h
  | rollback i =>
    obtain ⟨tx, htx, h⟩ := Option.map_eq_some_iff.mp h
    exact Or.inr (Or.inr (Or.inr (Or.inl ⟨i, tx, rfl, htx, h.symm⟩)))
  | insert ref item =>
    simp only [step] at h
    split at h
    · rename_i hnew
      exact Or.inr (Or.inr (Or.inr (Or.inr ⟨ref, item, rfl, hnew.1, hnew.2,
        (Option.some.inj h).symm⟩)))
    · cases h

/-- A commit whose record has a plan is made. -/
theorem step_commit {i : Nat} {now : Instant} {tx : Tx} {gmItemId : Option Item} {pl : Plan}
    (htx : s.txs[i]? = some tx) (hstage : tx.stage = .attached gmItemId)
    (hpl : plan ext tx.kind tx.record = some pl) :
    step ext refresh s (.commit i now) = some
      { db := pl.apply tx.kind refresh now (sourceRef tx.record) gmItemId (s.seen tx) s.db,
        txs := s.txs.set i tx.closed } := by
  obtain ⟨statements, hstatements, hdb⟩ : ∃ statements,
      recordStatements ext tx.kind tx.record gmItemId = some statements ∧
        execAll ext.casts refresh now s.db statements = some (pl.apply tx.kind refresh now
          (sourceRef tx.record) gmItemId s.db.aliases s.db) :=
    execAll_recordStatements.mpr ⟨pl, hpl, rfl⟩
  simp only [step, htx, hstage, execAll_firstLock, hstatements, hdb, Option.bind_eq_bind,
    Option.bind_some]
  rfl

/-- One transaction moves on: it is enough that what it holds is not committed and nobody else's,
    and that it knows what its stage says. -/
theorem Exclusive.set (h : Exclusive s) {i : Nat} (tx : Tx)
    (huncommitted : ∀ ref ∈ tx.inserted, ref ∉ s.db.aliases)
    (hfree : ∀ j tx', j ≠ i → s.txs[j]? = some tx' → ∀ ref ∈ tx'.inserted, ref ∉ tx.inserted)
    (hsound : Sound s.db.aliases tx) : Exclusive { s with txs := s.txs.set i tx } := by
  refine ⟨?_, ?_, ?_⟩
  · intro j tx' htx'
    rcases getElem?_set_cases htx' with ⟨-, rfl⟩ | ⟨-, htx'⟩
    · exact huncommitted
    · exact h.uncommitted j tx' htx'
  · refine pairs_set h.apart fun j tx' hj htx' => ⟨hfree j tx' hj htx', ?_⟩
    exact fun ref hmem hmem' => hfree j tx' hj htx' ref hmem' hmem
  · intro j tx' htx'
    rcases getElem?_set_cases htx' with ⟨-, rfl⟩ | ⟨-, htx'⟩
    · exact hsound
    · exact h.sound j tx' htx'

/-- An ended transaction holds nothing. -/
theorem Exclusive.close (h : Exclusive s) (i : Nat) (tx : Tx) :
    Exclusive { s with txs := s.txs.set i tx.closed } := by
  refine h.set tx.closed ?_ ?_ trivial
  · intro ref hmem
    exact absurd hmem Finmap.notMem_empty
  · intro j tx' _ _ ref _
    exact Finmap.notMem_empty

/-- A transaction begins with nothing inserted. -/
theorem Exclusive.join (h : Exclusive s) (kind : EntityKind) (record : Json) :
    Exclusive { s with txs := s.txs ++ [{ kind, record }] } := by
  refine ⟨?_, ?_, ?_⟩
  · intro j tx htx ref hmem
    rcases getElem?_concat_cases htx with htx | rfl
    · exact h.uncommitted j tx htx ref hmem
    · exact absurd hmem Finmap.notMem_empty
  · refine pairs_concat h.apart fun tx => ⟨fun ref _ => Finmap.notMem_empty, ?_⟩
    exact fun ref hmem => absurd hmem Finmap.notMem_empty
  · intro j tx htx
    rcases getElem?_concat_cases htx with htx | rfl
    · exact h.sound j tx htx
    · exact ⟨Finmap.notMem_empty, rfl⟩

/-- More is committed, and nothing a transaction holds.  What the others know is kept, as they lose
    no alias by it (`Sound.mono`). -/
theorem Exclusive.grow (h : Exclusive s) (db : Database)
    (hextends : ∀ ref item, s.db.aliases.lookup ref = some item → db.aliases.lookup ref = some item)
    (huncommitted : ∀ (i : Nat) (tx : Tx), s.txs[i]? = some tx → ∀ ref ∈ tx.inserted,
      ref ∉ db.aliases) :
    Exclusive { s with db } :=
  ⟨huncommitted, h.apart, fun i tx htx => (h.sound i tx htx).mono hextends⟩

/-- What is assumed of the identity of each call. -/
def Lawful : Action → Prop
  | .call _ identity => identity.Additive ∧ identity.Mints
  | _ => True

/-- A commit keeps what is committed: what it adds was not. -/
theorem seen_extends (h : Exclusive s) {i : Nat} {tx : Tx} (htx : s.txs[i]? = some tx)
    {ref : AliasRef} {item : Item} (hlook : s.db.aliases.lookup ref = some item) :
    (s.seen tx).lookup ref = some item := by
  have hout : ref ∉ tx.inserted := fun hmem =>
    h.uncommitted i tx htx ref hmem (Finmap.mem_of_lookup_eq_some hlook)
  unfold State.seen
  rw [Finmap.lookup_union_right hout, hlook]

/-- **No step changes the item a committed alias names.** -/
theorem step_aliases (h : Exclusive s) (hstep : step ext refresh s a = some s') {ref : AliasRef}
    {item : Item} (hlook : s.db.aliases.lookup ref = some item) :
    s'.db.aliases.lookup ref = some item := by
  rcases step_cases hstep with ⟨kind, record, -, rfl⟩ | ⟨i, identity, tx, r, -, -, -, -, rfl⟩ |
    ⟨i, now, tx, gmItemId, pl, -, htx, -, -, rfl⟩ | ⟨i, tx, -, -, rfl⟩ |
    ⟨ref', item', -, hnew, -, rfl⟩
  · exact hlook
  · exact hlook
  · exact seen_extends h htx hlook
  · exact hlook
  · have hne : ref ≠ ref' := by
      rintro rfl
      exact hnew (Finmap.mem_of_lookup_eq_some hlook)
    show (s.db.aliases.insert ref' item').lookup ref = some item
    rw [Finmap.lookup_insert_of_ne _ hne, hlook]

/-- **One step** keeps every insert exclusive, and what each transaction knows.  A begin and a
    rollback hold nothing; a call inserts only what nobody holds; a commit takes what it holds from
    the transaction to the table, where the others may not have it because they were apart
    before. -/
theorem exclusive_step (hlawful : Lawful a) (h : Exclusive s)
    (hstep : step ext refresh s a = some s') : Exclusive s' := by
  rcases step_cases hstep with ⟨kind, record, -, rfl⟩ |
    ⟨i, identity, tx, ⟨aliases, stage, discogsItem⟩, rfl, htx, hcall, hfree, rfl⟩ |
    ⟨i, now, tx, gmItemId, pl, -, htx, -, -, rfl⟩ | ⟨i, tx, -, -, rfl⟩ |
    ⟨ref, item, -, hnew, hfree, rfl⟩
  -- A transaction that joins has inserted nothing.
  · exact h.join kind record
  -- A call: what it inserts no other transaction has inserted, for it would have waited.
  · obtain ⟨hlaw, hmints⟩ : identity.Additive ∧ identity.Mints := hlawful
    have hextends : ∀ ref item, s.db.aliases.lookup ref = some item →
        aliases.lookup ref = some item := fun ref item hlook =>
      nextCall_extends { ext with identity } hlaw hcall (seen_extends h htx hlook)
    refine h.set _ ?_ ?_ (sound_nextCall { ext with identity } hlaw hmints (h.sound i tx htx) hcall
      hextends)
    · exact fun ref hmem => (mem_insertedBy.mp hmem).1
    · intro j tx' hj htx' ref hmem hmem'
      exact free_iff.mp hfree j tx' hj htx' ref hmem (Finmap.mem_keys.mpr hmem')
  -- A commit: what it makes everybody's was nobody's but its own.
  · refine (h.close i tx).grow _ (fun ref item => seen_extends h htx) ?_
    intro j tx' htx' ref hmem
    rcases getElem?_set_cases htx' with ⟨-, rfl⟩ | ⟨hj, htx'⟩
    · exact absurd hmem Finmap.notMem_empty
    · show ref ∉ tx.inserted ∪ s.db.aliases
      rw [Finmap.mem_union, not_or]
      exact ⟨h.apart j i tx' tx hj htx' htx ref hmem, h.uncommitted j tx' htx' ref hmem⟩
  · exact h.close i tx
  -- Another loader's insert is a transaction of one statement, and waits like the others.
  · refine h.grow { s.db with aliases := s.db.aliases.insert ref item }
      (fun ref' item' hlook => step_aliases h hstep hlook) ?_
    intro j tx htx ref' hmem
    have hne : ref' ≠ ref := by
      rintro rfl
      have hj : j ≠ s.txs.length := by
        rintro rfl
        simp at htx
      exact free_iff.mp hfree j tx hj htx ref' hmem (Finset.mem_singleton_self ref')
    show ref' ∉ s.db.aliases.insert ref item
    rw [Finmap.mem_insert, not_or]
    exact ⟨hne, h.uncommitted j tx htx ref' hmem⟩

/-- What a transaction sees after its call it saw before, and the call has changed none of it. -/
theorem seen_call (h : Exclusive s) {i : Nat} {identity : Identity} {tx tx' : Tx}
    (hlaw : identity.Additive) (htx : s.txs[i]? = some tx)
    (hstep : step ext refresh s (.call i identity) = some s') (htx' : s'.txs[i]? = some tx')
    {ref : AliasRef} {item : Item} (hlook : (s.seen tx).lookup ref = some item) :
    (s'.seen tx').lookup ref = some item := by
  rcases step_cases hstep with ⟨kind, record, ha, -⟩ | ⟨j, identity', tx₀, r, ha, htx₀, hr, -, rfl⟩ |
    ⟨j, now', tx₀, gmItemId, pl, ha, -⟩ | ⟨j, tx₀, ha, -⟩ | ⟨ref', item', ha, -⟩
  · cases ha
  · cases ha
    obtain rfl : tx₀ = tx := Option.some.inj (htx₀.symm.trans htx)
    rcases getElem?_set_cases htx' with ⟨-, rfl⟩ | ⟨hne, -⟩
    · have hextends : ∀ ref item, s.db.aliases.lookup ref = some item → r.1.lookup ref = some item :=
        fun ref item hcommitted => nextCall_extends { ext with identity } hlaw hr
          (seen_extends h htx hcommitted)
      show (insertedBy s.db.aliases r.1 ∪ s.db.aliases).lookup ref = some item
      rw [insertedBy_union hextends]
      exact nextCall_extends { ext with identity } hlaw hr hlook
    · exact absurd rfl hne
  · cases ha
  · cases ha
  · cases ha

/-- The native id a transaction is about to write is decided by what it sees. -/
theorem decided_attached (h : Exclusive s) {i : Nat} {tx : Tx} {gmItemId : Option Item}
    (htx : s.txs[i]? = some tx) (hstage : tx.stage = .attached gmItemId) :
    Decided s.db.aliases tx gmItemId := by
  have hsound := h.sound i tx htx
  unfold Sound at hsound
  rwa [hstage] at hsound

/-- The row a commit writes carries the native id its transaction decided.  The upsert sets
    `gm_item_id` whether the row is new or not, so an older row's id does not matter here. -/
theorem commit_row {i : Nat} {now : Instant} {tx : Tx}
    (hstep : step ext refresh s (.commit i now) = some s') (htx : s.txs[i]? = some tx) :
    ∃ gmItemId uuid row, tx.stage = .attached gmItemId ∧
      ext.casts.uuid (mbid tx.record) = some uuid ∧
      (s'.db.entities tx.kind).lookup uuid = some row ∧ row.gmItemId = gmItemId ∧
      s'.db.aliases = s.seen tx := by
  rcases step_cases hstep with ⟨kind, record, ha, -⟩ | ⟨j, identity, tx', r, ha, -⟩ |
    ⟨j, now', tx', gmItemId, pl, ha, htx', hstage, hpl, rfl⟩ | ⟨j, tx', ha, -⟩ | ⟨ref, item, ha, -⟩
  · cases ha
  · cases ha
  · cases ha
    obtain rfl : tx' = tx := Option.some.inj (htx'.symm.trans htx)
    obtain ⟨-, -, -, -, -, huuid, -⟩ := plan_eq_some.mp hpl
    refine ⟨gmItemId, pl.mbid, pl.entityRow gmItemId now, hstage, huuid, ?_, rfl, rfl⟩
    show (Function.update s.db.entities tx'.kind _ tx'.kind).lookup pl.mbid = _
    rw [Function.update_self, Finmap.lookup_insert]
  · cases ha
  · cases ha

/-- **The first commit shares the item of its Discogs alias**: the new alias names it too.  As the
    alias was not there, it is the transaction's own insert, which was made with that item. -/
theorem commit_shares (h : Exclusive s) {i : Nat} {now : Instant} {tx : Tx} {discogsItem : Item}
    (htx : s.txs[i]? = some tx) (hnew : s.db.aliases.lookup tx.ref = none)
    (hdiscogs : tx.discogsItem = some discogsItem)
    (hstep : step ext refresh s (.commit i now) = some s') :
    s'.db.aliases.lookup tx.ref = some discogsItem := by
  obtain ⟨gmItemId, uuid, row, hstage, -, -, -, haliases⟩ := commit_row hstep htx
  have hdecided := decided_attached h htx hstage
  obtain ⟨hne, hown⟩ := hdecided.shares discogsItem hdiscogs
  obtain ⟨gm, rfl⟩ := Option.ne_none_iff_exists'.mp hne
  have hnames := hdecided.names gm rfl
  rw [Table.lookup_union, hnew, Option.or_none] at hnames
  rw [haliases]
  unfold State.seen
  rw [Table.lookup_union, hown (Finmap.mem_of_lookup_eq_some hnames), Option.some_or]

end Step

/-! ## Runs -/

/-- What a run keeps, by induction on its steps: every insert is exclusive, and every alias names the
    item it named. -/
theorem run_keeps {ext : Externals} {refresh : Bool} {s s' : State} {actions : List Action}
    (hlawful : ∀ a ∈ actions, Lawful a) (h : Exclusive s)
    (hrun : Runs.run (step ext refresh) s actions = some s') :
    Exclusive s' ∧
    ∀ ref item, s.db.aliases.lookup ref = some item → s'.db.aliases.lookup ref = some item := by
  induction actions generalizing s with
  | nil =>
    obtain rfl := Option.some.inj hrun
    exact ⟨h, fun _ _ hlook => hlook⟩
  | cons a actions ih =>
    obtain ⟨m, ha, hrun⟩ := Runs.run_cons_eq_some.mp hrun
    have hm : Exclusive m := exclusive_step (hlawful a List.mem_cons_self) h ha
    obtain ⟨hs', haliases⟩ := ih (fun b hb => hlawful b (List.mem_cons_of_mem a hb)) hm hrun
    exact ⟨hs', fun ref item hlook => haliases ref item (step_aliases h ha hlook)⟩

/-- **Native identity is stable and shared.**  Over any interleaving of transactions, and of other
    loaders' inserts: no alias ever names another item, for those who see it; once a record's
    MusicBrainz alias names an item, every commit of a record with that alias writes that item; and
    the first such record whose Discogs alias named an item makes the alias name that. -/
theorem native_identity_is_stable (ext : Externals) (refresh : Bool) (s₀ s : State)
    (before : List Action) (hempty : s₀.txs = []) (hlawful : ∀ a ∈ before, Lawful a)
    (huuid : ∀ v : Json, v.truthy = false → ext.casts.uuid v = none)
    (hbefore : Runs.run (step ext refresh) s₀ before = some s) :
    (∀ (after : List Action) (s' : State), (∀ a ∈ after, Lawful a) →
      Runs.run (step ext refresh) s after = some s' →
      (∀ ref item, s.db.aliases.lookup ref = some item → s'.db.aliases.lookup ref = some item) ∧
      ∀ (i : Nat) (now : Instant) (s'' : State) (tx : Tx) (item : Item), s'.txs[i]? = some tx →
        s.db.aliases.lookup tx.ref = some item → step ext refresh s' (.commit i now) = some s'' →
        ∃ uuid row, ext.casts.uuid (mbid tx.record) = some uuid ∧
          (s''.db.entities tx.kind).lookup uuid = some row ∧ row.gmItemId = some item) ∧
    (∀ (i : Nat) (identity : Identity) (s' : State) (tx tx' : Tx),
      identity.Additive → s.txs[i]? = some tx →
      step ext refresh s (.call i identity) = some s' → s'.txs[i]? = some tx' →
      ∀ ref item, (s.seen tx).lookup ref = some item → (s'.seen tx').lookup ref = some item) ∧
    ∀ (i : Nat) (now : Instant) (s' : State) (tx : Tx) (discogsItem : Item),
      s.txs[i]? = some tx → s.db.aliases.lookup tx.ref = none →
      tx.discogsItem = some discogsItem → step ext refresh s (.commit i now) = some s' →
      s'.db.aliases.lookup tx.ref = some discogsItem := by
  have hstart : Exclusive s₀ := by
    refine ⟨?_, ?_, ?_⟩ <;> intro i <;> simp [hempty]
  obtain ⟨hs, -⟩ := run_keeps hlawful hstart hbefore
  refine ⟨?_, ?_, ?_⟩
  · intro after s' hlawful' hafter
    obtain ⟨hs', haliases⟩ := run_keeps hlawful' hs hafter
    refine ⟨haliases, ?_⟩
    intro i now s'' tx item htx hnames hcommit
    obtain ⟨gmItemId, uuid, row, hstage, hcast, hrow, hgm, -⟩ := commit_row hcommit htx
    refine ⟨uuid, row, hcast, hrow, ?_⟩
    have hdecided := decided_attached hs' htx hstage
    -- A value that casts to a UUID is no empty one, so the message has come to some item.
    have hmbid : (mbid tx.record).truthy = true := by
      by_contra hfalsy
      rw [huuid _ (Bool.not_eq_true _ ▸ hfalsy)] at hcast
      cases hcast
    obtain ⟨gm, rfl⟩ := Option.ne_none_iff_exists'.mp (hdecided.minted hmbid)
    -- The id was read off the alias table, where the alias names the item already.
    have hseen : (s'.seen tx).lookup tx.ref = some gm := hdecided.names gm rfl
    rw [seen_extends hs' htx (haliases _ _ hnames)] at hseen
    exact hgm.trans hseen.symm
  · intro i identity s' tx tx' hlaw htx hcall htx' ref item hlook
    exact seen_call hs hlaw htx hcall htx' hlook
  · intro i now s' tx discogsItem htx hnew hdiscogs hcommit
    exact commit_shares hs htx hnew hdiscogs hcommit

/-! ## A transaction left alone -/

section Alone

variable {ext : Externals} {refresh : Bool} {s : State}

/-- With nobody else holding an insert, the next call is made. -/
theorem call_alone (refresh : Bool) (hlaw : ext.identity.Additive)
    (hidle : ∀ tx ∈ s.txs, tx.inserted = ∅) {tx : Tx}
    (hown : ∀ ref ∈ tx.inserted, ref ∉ s.db.aliases) {r : Aliases × Stage × Option Item}
    (hcall : nextCall ext tx (s.seen tx) = some r) :
    step ext refresh { s with txs := s.txs ++ [tx] } (.call s.txs.length ext.identity) =
        some { s with txs := s.txs ++ [tx.after s.db.aliases r] } ∧
      s.seen (tx.after s.db.aliases r) = r.1 ∧
      ∀ ref ∈ (tx.after s.db.aliases r).inserted, ref ∉ s.db.aliases := by
  -- With nobody else's insert in the way the call goes through; what it sees then is its own result;
  -- and what it has inserted was not there.
  refine ⟨?_, ?_, fun ref hmem => (mem_insertedBy.mp hmem).1⟩
  · have hfree : free (s.txs ++ [tx]) s.txs.length (tx.after s.db.aliases r).inserted.keys = true := by
      refine free_iff.mpr fun j tx' hj htx' ref hmem => ?_
      -- Every other transaction of the list is an older one.
      have hlt : j < s.txs.length := by
        have := (List.getElem?_eq_some_iff.mp htx').1
        rw [List.length_append, List.length_singleton] at this
        omega
      rw [List.getElem?_append_left hlt] at htx'
      rw [hidle tx' (List.mem_of_getElem? htx')] at hmem
      exact absurd hmem Finmap.notMem_empty
    have hthis : (s.txs ++ [tx])[s.txs.length]? = some tx := List.getElem?_concat_length
    have hset : (s.txs ++ [tx]).set s.txs.length (tx.after s.db.aliases r) =
        s.txs ++ [tx.after s.db.aliases r] := by
      rw [List.set_append_right _ _ le_rfl, Nat.sub_self]
      rfl
    simp only [step, hthis, Option.bind_eq_bind, Option.bind_some]
    show ((nextCall ext tx (s.seen tx)).bind fun r => _) = _
    rw [hcall, Option.bind_some, if_pos hfree, hset]
    rfl
  · refine insertedBy_union fun ref item hlook => nextCall_extends ext hlaw hcall ?_
    have hout : ref ∉ tx.inserted := fun hmem => hown ref hmem (Finmap.mem_of_lookup_eq_some hlook)
    unfold State.seen
    rw [Finmap.lookup_union_right hout, hlook]

/-- The transaction has come to the native id that `process` gives this record, and sees the aliases
    `process` has by then.  It is what the two machines have in common between the identity calls
    and the row. -/
structure Resolved (ext : Externals) (s : State) (kind : EntityKind) (record : Json) (tx : Tx) :
    Prop where
  kind_eq : tx.kind = kind
  record_eq : tx.record = record
  stage : tx.stage = .writing (recordIdentity ext kind s.db.aliases record).2
  seen : s.seen tx = (recordIdentity ext kind s.db.aliases record).1
  uncommitted : ∀ ref ∈ tx.inserted, ref ∉ s.db.aliases

/-- The state with one more transaction. -/
def State.joined (s : State) (tx : Tx) : State := { s with txs := s.txs ++ [tx] }

/-- One call decides the id.  With an empty transaction it sees what is committed, as `process`
    does. -/
theorem resolved_by_one (hlaw : ext.identity.Additive) (hidle : ∀ tx ∈ s.txs, tx.inserted = ∅)
    {kind : EntityKind} {record : Json} {r : Aliases × Stage × Option Item}
    (hr : nextCall ext { kind, record } s.db.aliases = some r)
    (hstage : r.2.1 = .writing (recordIdentity ext kind s.db.aliases record).2)
    (haliases : r.1 = (recordIdentity ext kind s.db.aliases record).1) :
    ∃ n tx, Runs.run (step ext refresh) (s.joined { kind, record })
        (List.replicate n (.call s.txs.length ext.identity)) = some (s.joined tx) ∧
      Resolved ext s kind record tx := by
  have hseen : s.seen { kind, record } = s.db.aliases := Finmap.empty_union
  obtain ⟨hrun, hsees, hown⟩ := call_alone refresh hlaw hidle
    (fun ref hmem => absurd hmem Finmap.notMem_empty) (hseen ▸ hr)
  exact ⟨1, _, Runs.run_cons_eq_some.mpr ⟨_, hrun, rfl⟩, rfl, rfl, hstage, hsees.trans haliases, hown⟩

/-- A second call decides it. -/
theorem resolved_by_two (hlaw : ext.identity.Additive) (hidle : ∀ tx ∈ s.txs, tx.inserted = ∅)
    {kind : EntityKind} {record : Json} {r₁ r₂ : Aliases × Stage × Option Item}
    (hr₁ : nextCall ext { kind, record } s.db.aliases = some r₁)
    (hr₂ : nextCall ext (Tx.after { kind, record } s.db.aliases r₁) r₁.1 = some r₂)
    (hstage : r₂.2.1 = .writing (recordIdentity ext kind s.db.aliases record).2)
    (haliases : r₂.1 = (recordIdentity ext kind s.db.aliases record).1) :
    ∃ n tx, Runs.run (step ext refresh) (s.joined { kind, record })
        (List.replicate n (.call s.txs.length ext.identity)) = some (s.joined tx) ∧
      Resolved ext s kind record tx := by
  have hseen : s.seen { kind, record } = s.db.aliases := Finmap.empty_union
  obtain ⟨hrun₁, hsees₁, hown₁⟩ := call_alone refresh hlaw hidle
    (fun ref hmem => absurd hmem Finmap.notMem_empty) (hseen ▸ hr₁)
  obtain ⟨hrun₂, hsees₂, hown₂⟩ := call_alone refresh hlaw hidle hown₁ (hsees₁ ▸ hr₂)
  exact ⟨2, _, Runs.run_cons_eq_some.mpr ⟨_, hrun₁, Runs.run_cons_eq_some.mpr ⟨_, hrun₂, rfl⟩⟩, rfl,
    rfl, hstage, hsees₂.trans haliases, hown₂⟩

/-- Left alone, a transaction resolves its native id as `process` does.  How many calls that takes
    depends on the record, and for the Discogs id on what is found under it. -/
theorem native_alone (refresh : Bool) (hlaw : ext.identity.Additive)
    (hidle : ∀ tx ∈ s.txs, tx.inserted = ∅) (kind : EntityKind) (record : Json) :
    ∃ n tx, Runs.run (step ext refresh) (s.joined { kind, record })
        (List.replicate n (.call s.txs.length ext.identity)) = some (s.joined tx) ∧
      Resolved ext s kind record tx := by
  -- By the calls `_native_id` comes to: none without an MBID, one without a Discogs id, and two with
  -- one, the second depending on what the first found.
  cases hmbid : (mbid record).truthy with
  | false =>
    refine resolved_by_one hlaw hidle (r := (s.db.aliases, .writing none, none)) ?_ ?_ ?_
    all_goals simp [nextCall, recordIdentity, nativeId, hmbid]
  | true =>
    cases hdiscogs : (record.get kind.discogsColumn).truthy with
    | false =>
      refine resolved_by_one hlaw hidle (r := ((ext.identity.resolve s.db.aliases
        (Tx.ref { kind, record })).1, .writing (ext.identity.resolve s.db.aliases
        (Tx.ref { kind, record })).2, none)) ?_ ?_ ?_
      all_goals simp [nextCall, recordIdentity, nativeId, hmbid, hdiscogs, Tx.ref]
    | true =>
      cases hresolve : ext.identity.resolve s.db.aliases
        ⟨"discogs", kind.identityKind, .str (record.get kind.discogsColumn).pyStr⟩ with
      | mk aliases answer =>
        cases answer with
        | none =>
          have hfirst : nextCall ext { kind, record } s.db.aliases =
              some (aliases, .resolving, none) := by
            simp [nextCall, hmbid, hdiscogs, hresolve]
          refine resolved_by_two hlaw hidle hfirst rfl ?_ ?_
          all_goals simp [recordIdentity, nativeId, hmbid, hdiscogs, hresolve, Tx.ref, Tx.after]
        | some item =>
          have hfirst : nextCall ext { kind, record } s.db.aliases =
              some (aliases, .attaching item, some item) := by
            simp [nextCall, hmbid, hdiscogs, hresolve]
          refine resolved_by_two hlaw hidle hfirst rfl ?_ ?_
          all_goals simp [recordIdentity, nativeId, hmbid, hdiscogs, hresolve, Tx.ref, Tx.after]

/-- **Left alone, a transaction does what `process` says.** So the machine adds interleaving to the
    one-step model and takes nothing away from it. -/
theorem process_alone (hlaw : ext.identity.Additive) (hidle : ∀ tx ∈ s.txs, tx.inserted = ∅)
    {kind : EntityKind} {record : Json} {now : Instant} {db' : Database}
    (h : process ext kind refresh record now s.db = some db') :
    ∃ calls txs, (∀ a ∈ calls, a = .call s.txs.length ext.identity) ∧
      Runs.run (step ext refresh) s
        (.begin kind record :: (calls ++ [.commit s.txs.length now])) = some ⟨db', txs⟩ := by
  -- What the one-step `process` has done is what the calls do, one after the other, followed by the
  -- commit.
  obtain ⟨pl, aliases, hpl, haliases, rfl⟩ := process_eq_some.mp h
  obtain ⟨n, tx, hrun, hresolved⟩ := native_alone refresh hlaw hidle kind record
  obtain ⟨rfl, rfl⟩ : tx.kind = kind ∧ tx.record = record := ⟨hresolved.kind_eq, hresolved.record_eq⟩
  set gm := (recordIdentity ext tx.kind s.db.aliases tx.record).2
  -- The last call attaches the identifiers, to the item the calls before it have found.
  have hlast : nextCall ext tx (s.seen tx) = some (aliases, .attached gm, tx.discogsItem) := by
    unfold nextCall
    rw [hresolved.stage, hresolved.seen]
    show (attachAliases ext tx.kind _ tx.record gm).map _ = _
    rw [haliases]
    rfl
  obtain ⟨hcall, hsees, -⟩ := call_alone refresh hlaw hidle hresolved.uncommitted hlast
  set tx' := tx.after s.db.aliases (aliases, .attached gm, tx.discogsItem)
  have hthis : (s.joined tx').txs[s.txs.length]? = some tx' := List.getElem?_concat_length
  have hcommit : step ext refresh (s.joined tx') (.commit s.txs.length now) = some _ :=
    step_commit hthis rfl hpl
  have hseen : (s.joined tx').seen tx' = aliases := hsees
  rw [hseen] at hcommit
  refine ⟨List.replicate n (.call s.txs.length ext.identity) ++ [.call s.txs.length ext.identity],
    (s.txs ++ [tx']).set s.txs.length tx'.closed, ?_, Runs.run_cons_eq_some.mpr
      ⟨s.joined { kind := tx.kind, record := tx.record }, rfl, ?_⟩⟩
  · intro a ha
    rcases List.mem_append.mp ha with ha | ha
    · exact List.eq_of_mem_replicate ha
    · exact List.mem_singleton.mp ha
  · exact Runs.run_concat.mpr ⟨s.joined tx', Runs.run_concat.mpr ⟨s.joined tx, hrun, hcall⟩, hcommit⟩

end Alone

/-! ## Two messages of one artist -/

theorem sampleIdentity_mints : sampleIdentity.Mints := by
  intro aliases entityKind externalId
  unfold sampleIdentity
  dsimp only
  split
  · exact Option.some_ne_none _
  · rw [if_pos rfl]
    exact Option.some_ne_none _

/-- An artist's record with this Discogs id. -/
def artist (discogsId : Json) : Json :=
  .obj [("discogs_artist_id", discogsId), ("id", .str "5b1c7e0a-2f4d-4a6b-8c3e-9d0f1a2b3c4d"),
    ("name", .str "Artist")]

/-- Another loader has an item for the Discogs artist.  The first message is linked to it and commits;
    the second, without the link, is under way meanwhile. -/
def firstMessage : List Action :=
  [.insert ⟨"discogs", "artist", .str "77"⟩ 5, .begin .artist (artist (.int 77)),
    .begin .artist (artist .null), .call 0 sampleIdentity, .call 0 sampleIdentity,
    .call 0 sampleIdentity, .commit 0 1]

/-- The second message goes on, and writes the first one's item. -/
theorem native_identity_of_two_messages :
    ∃ s s' s'' row, Runs.run (step sampleExternals true) {} firstMessage = some s ∧
      Runs.run (step sampleExternals true) s [.call 1 sampleIdentity, .call 1 sampleIdentity] =
        some s' ∧
      step sampleExternals true s' (.commit 1 2) = some s'' ∧
      (s''.db.entities .artist).lookup "5b1c7e0a-2f4d-4a6b-8c3e-9d0f1a2b3c4d" = some row ∧
      row.gmItemId = some 5 := by
  -- The run is evaluated for the alias that is there by then, and for which record the second
  -- transaction has.
  have hrun : ((Runs.run (step sampleExternals true) {} firstMessage).bind fun s =>
      (Runs.run (step sampleExternals true) s
        [.call 1 sampleIdentity, .call 1 sampleIdentity]).bind fun s' =>
          (step sampleExternals true s' (.commit 1 2)).map fun s'' =>
            decide (s.db.aliases.lookup (Tx.ref { kind := .artist, record := artist .null }) = some 5 ∧
              (s'.txs[1]?.map (·.record)) = some (artist .null) ∧
              (s'.txs[1]?.map (·.kind)) = some .artist)) = some true := by
    decide +kernel
  obtain ⟨s, hs, hrun⟩ := Option.bind_eq_some_iff.mp hrun
  obtain ⟨s', hs', hrun⟩ := Option.bind_eq_some_iff.mp hrun
  obtain ⟨s'', hs'', hrun⟩ := Option.map_eq_some_iff.mp hrun
  obtain ⟨hnames, hrecord, hkind⟩ := of_decide_eq_true hrun
  obtain ⟨tx, htx, hrecord⟩ := Option.map_eq_some_iff.mp hrecord
  rw [htx] at hkind
  have hkind : tx.kind = .artist := Option.some.inj hkind
  have hidentity : sampleIdentity.Additive ∧ sampleIdentity.Mints :=
    ⟨sampleIdentity_lawful.additive, sampleIdentity_mints⟩
  -- The sample's `uuid` cast reads no empty value, which is what the theorem asks of it.
  have hfalsy : ∀ v : Json, v.truthy = false → sampleExternals.casts.uuid v = none := by
    intro v hv
    cases v with
    | str text =>
      obtain rfl : text = "" := by simpa [Json.truthy] using hv
      rfl
    | _ => rfl
  -- The theorem, from the state in which the first message is stored.
  obtain ⟨hlater, -⟩ := native_identity_is_stable sampleExternals true {} s firstMessage rfl
    (by simp [firstMessage, Lawful, hidentity]) hfalsy hs
  obtain ⟨-, hcommits⟩ := hlater _ s' (by simp [Lawful, hidentity]) hs'
  have href : tx.ref = Tx.ref { kind := .artist, record := artist .null } := by
    unfold Tx.ref
    rw [hkind, hrecord]
  obtain ⟨uuid, row, huuid, hrow, hgm⟩ := hcommits 1 2 s'' tx 5 htx (href ▸ hnames) hs''
  rw [hrecord] at huuid
  -- The row is that of the MBID in the message.
  obtain rfl : "5b1c7e0a-2f4d-4a6b-8c3e-9d0f1a2b3c4d" = uuid :=
    Option.some.inj ((by decide +kernel : sampleExternals.casts.uuid (mbid (artist .null)) = _).symm.trans
      huuid)
  rw [hkind] at hrow
  exact ⟨s, s', s'', row, hs, hs', hs'', hrow, hgm⟩

end NativeIds

end Records
