/-
  The locks of concurrent record transactions.

  A transaction of `process_artist`, `process_label`, `process_release` or `process_release_group`
  takes its locks statement by statement and holds them to its end.  They come in STAGES:

      the advisory lock of a release's media < its entity row
        < `graph.media_family` < `graph.medium` < `graph.issued_on`
        < `musicbrainz.relationships` < `musicbrainz.external_links`

  One order over all locks would do, and there is none: the rows of one stage are taken in the order of
  the statements, and three of the stages are not sorted.  So each stage needs its own reason.

  1. **The program** — `Writer.lockProgram` reads the locks off the statements the code sends.
  2. **Every stage but one is in order.**  The vocabulary's rows are sorted; a transaction has one
     entity row; the rows of `graph.issued_on` and of `external_links` stand behind a lock no other
     transaction can hold at the same time: whoever deletes or inserts edges of a release holds its
     advisory lock, and whoever inserts an external link of an entity holds the entity's row.
  3. **The relationships are in the order of the record's own list**, so two lists can cross, and the
     canonical row of a relationship belongs to both of its ends.
     `deadlock_free_iff_no_crossing` is exact about when they do.

  A deadlock is then a standoff (`Locking.Standoff`), read off the programs: ranks bring it down to one
  stage, the guards exclude all but the relationships, and a standoff there is a crossing.  For the other
  direction a crossing's transactions are run up to it one after the other, which they can be because
  what they hold by then has no lock in common (`Crossing`).
-/
import Mathlib.Data.Prod.Lex
import MusicBrainzLoader.Lib.Locking
import MusicBrainzLoader.Records.Reconciliation

namespace Records

namespace LockOrder

open Locking

/-! ## Locks

  A statement takes the locks of the rows it writes or deletes, and a transaction those of its
  statements up to the first that fails. A delete's rows are the range's as it finds them, so they are
  given with the writer. -/

/-- What a transaction of the loader locks. -/
inductive Lock where
  /-- `pg_advisory_xact_lock`, on a 64-bit key. -/
  | advisory (key : Int)
  | entity (kind : EntityKind) (mbid : Uuid)
  | mediaFamily (name : String)
  | medium (mediumId : String)
  | issuedOn (key : IssuedOnKey)
  | relationship (key : RelationshipKey)
  | externalLink (key : ExternalLinkKey)
deriving DecidableEq

/-- The text `lock_release_media` hashes to its key. -/
def mediaLockText (releaseId source : String) : String :=
  "graph.issued_on:" ++ source ++ ":" ++ releaseId

/-- A record in its transaction. -/
structure Writer where
  kind : EntityKind
  record : Json
  gmItemId : Option Item
  /-- The media of the rows that its delete on `graph.issued_on` finds. -/
  deleted : List String

section Programs

-- `hashtext` is `hashtextextended(·, 0)`
variable (ext : Externals) (hashtext : String → Int)

/-- The locks a statement takes, in order; none when one of its casts fails. -/
def locksOf (deleted : List String) : Statement → Option (List Lock)
  | .upsertEntity kind values =>
    (ext.casts.entityRow kind values 0).map fun row => [.entity kind row.1]
  | .lockReleaseMedia releaseId source =>
    some [.advisory (hashtext (mediaLockText releaseId source))]
  | .upsertMediaFamily name => some [.mediaFamily name]
  | .upsertMedium mediumId _ _ => some [.medium mediumId]
  | .deleteReleaseMedia releaseId source =>
    some (deleted.map fun mediumId => .issuedOn { releaseId, mediumId, source })
  | .insertReleaseMedium releaseId mediumId source _ =>
    some [.issuedOn { releaseId, mediumId, source }]
  | .upsertRelationship values =>
    (ext.casts.relationship values).map fun row => [.relationship row.1]
  | .upsertExternalLink values =>
    (ext.casts.externalLinkKey values).map fun key => [.externalLink key]

/-- The locks of statements one after the other: a failed cast aborts the transaction. -/
def locks (deleted : List String) : List Statement → List Lock
  | [] => []
  | statement :: statements =>
    match locksOf ext hashtext deleted statement with
    | none => []
    | some taken => taken ++ locks deleted statements

/-- **The locks of a transaction, in the order it takes them.** -/
def Writer.lockProgram (w : Writer) : List Lock :=
  locks ext hashtext w.deleted (sentStatements ext w.kind w.record w.gmItemId)

/-- The statements before the relationships. -/
def Writer.upToMedia (w : Writer) : List Statement :=
  firstLock w.kind w.record ++ .upsertEntity w.kind (entityValues ext w.kind w.record w.gmItemId) ::
    (mediaStatements ext w.kind w.record).getD []

/-- The locks a transaction holds when it comes to its relationships. -/
def Writer.locksBefore (w : Writer) : List Lock := locks ext hashtext w.deleted (w.upToMedia ext)

/-- Whether it comes to them: its entity row is stored, its media block is readable. -/
def Writer.comesToRelationships (w : Writer) : Bool :=
  (ext.casts.entityRow w.kind (entityValues ext w.kind w.record w.gmItemId) 0).isSome &&
    (mediaStatements ext w.kind w.record).isSome

/-- The natural keys of relationships, up to the first whose casts fail. -/
def storedKeys : List RelationshipValues → List RelationshipKey
  | [] => []
  | values :: rest =>
    match ext.casts.relationship values with
    | none => []
    | some row => row.1 :: storedKeys rest

/-- **The canonical relationship rows a record upserts**, in the order of its list. -/
def Writer.relationshipKeys (w : Writer) : List RelationshipKey :=
  if w.comesToRelationships ext then
    storedKeys ext ((relationshipRows (mbid w.record) w.kind.entityType
      (w.record.getD "relations" (.arr []))).getD [])
  else []

end Programs

/-! ## The order of the stages -/

/-- The stages, in their order. -/
def Lock.stage : Lock → Nat
  | .advisory _ => 0
  | .entity _ _ => 1
  | .mediaFamily _ => 2
  | .medium _ => 3
  | .issuedOn _ => 4
  | .relationship _ => 5
  | .externalLink _ => 6

/-- The rows of the vocabulary are ordered by their keys. -/
def Lock.name : Lock → String
  | .mediaFamily name | .medium name => name
  | _ => ""

/-- The order of all locks, as far as there is one. -/
def Lock.rank (lock : Lock) : ℕ ×ₗ String := toLex (lock.stage, lock.name)

/-- The stage of the locks a statement takes, and their place in it. -/
def stage : Statement → Nat
  | .lockReleaseMedia _ _ => 0
  | .upsertEntity _ _ => 1
  | .upsertMediaFamily _ => 2
  | .upsertMedium _ _ _ => 3
  | .deleteReleaseMedia _ _ | .insertReleaseMedium _ _ _ _ => 4
  | .upsertRelationship _ => 5
  | .upsertExternalLink _ => 6

def name : Statement → String
  | .upsertMediaFamily name | .upsertMedium name _ _ => name
  | _ => ""

/-! ## The locks of a list of statements -/

section Locks

variable {ext : Externals} {hashtext : String → Int} {deleted : List String}

/-- A lock is of its statement's stage. -/
theorem locksOf_stage {statement : Statement} {taken : List Lock}
    (h : locksOf ext hashtext deleted statement = some taken) {lock : Lock} (hmem : lock ∈ taken) :
    lock.stage = stage statement ∧ lock.name = name statement := by
  cases statement with
  | upsertEntity kind values =>
    obtain ⟨row, -, rfl⟩ := Option.map_eq_some_iff.mp h
    obtain rfl := List.mem_singleton.mp hmem
    exact ⟨rfl, rfl⟩
  | upsertRelationship values =>
    obtain ⟨row, -, rfl⟩ := Option.map_eq_some_iff.mp h
    obtain rfl := List.mem_singleton.mp hmem
    exact ⟨rfl, rfl⟩
  | upsertExternalLink values =>
    obtain ⟨key, -, rfl⟩ := Option.map_eq_some_iff.mp h
    obtain rfl := List.mem_singleton.mp hmem
    exact ⟨rfl, rfl⟩
  -- The delete is the one statement that takes several rows, all of one release.
  | deleteReleaseMedia releaseId source =>
    obtain rfl := Option.some.inj h
    obtain ⟨mediumId, -, rfl⟩ := List.mem_map.mp hmem
    exact ⟨rfl, rfl⟩
  | _ =>
    obtain rfl := Option.some.inj h
    obtain rfl := List.mem_singleton.mp hmem
    exact ⟨rfl, rfl⟩

/-- Every lock is one statement's. -/
theorem mem_locks {statements : List Statement} {lock : Lock}
    (h : lock ∈ locks ext hashtext deleted statements) :
    ∃ statement ∈ statements, ∃ taken, locksOf ext hashtext deleted statement = some taken ∧
      lock ∈ taken := by
  induction statements with
  | nil => cases h
  | cons statement statements ih =>
    unfold locks at h
    split at h
    · cases h
    · rename_i taken htaken
      rcases List.mem_append.mp h with h | h
      · exact ⟨statement, List.mem_cons_self, taken, htaken, h⟩
      · obtain ⟨other, hother, hlock⟩ := ih h
        exact ⟨other, List.mem_cons_of_mem _ hother, hlock⟩

/-- Statements whose casts hold are followed by the others. -/
theorem locks_append {as : List Statement} (bs : List Statement)
    (h : ∀ statement ∈ as, (locksOf ext hashtext deleted statement).isSome) :
    locks ext hashtext deleted (as ++ bs) =
      locks ext hashtext deleted as ++ locks ext hashtext deleted bs := by
  induction as with
  | nil => rfl
  | cons statement as ih =>
    obtain ⟨taken, htaken⟩ := Option.isSome_iff_exists.mp (h statement List.mem_cons_self)
    have hrest := ih fun other hother => h other (List.mem_cons_of_mem _ hother)
    simp only [List.cons_append, locks, htaken, hrest, List.append_assoc]

/-- A statement whose casts fail is the last. -/
theorem locks_failed {as : List Statement} (bs : List Statement) {statement : Statement}
    (hmem : statement ∈ as) (h : locksOf ext hashtext deleted statement = none) :
    locks ext hashtext deleted (as ++ bs) = locks ext hashtext deleted as := by
  induction as with
  | nil => cases hmem
  | cons first as ih =>
    rw [List.cons_append, locks, locks]
    rcases List.mem_cons.mp hmem with rfl | hmem
    · simp only [h]
    · rw [ih hmem]

/-- A statement follows another: in the order of the stages, or it is the media lock, which a
    release takes a second time. -/
def Follows (a b : Statement) : Prop :=
  toLex (stage a, name a) ≤ toLex (stage b, name b) ∨
    ∃ releaseId source, b = .lockReleaseMedia releaseId source

/-- Statements of two stages are in order. -/
theorem Follows.of_stage {a b : Statement} (h : stage a < stage b) : Follows a b :=
  Or.inl (Prod.Lex.toLex_le_toLex.mpr (Or.inl h))

/-- And so are those of one stage that is sorted. -/
theorem Follows.of_name {a b : Statement} (h : stage a = stage b) (hname : name a ≤ name b) :
    Follows a b :=
  Or.inl (Prod.Lex.toLex_le_toLex.mpr (Or.inr ⟨h, hname⟩))

/-- Statements in order take their locks in order. -/
theorem locks_pairwise {statements : List Statement} (h : statements.Pairwise Follows) :
    (locks ext hashtext deleted statements).Pairwise fun a b => a.rank ≤ b.rank ∨ b.stage = 0 := by
  induction statements with
  | nil => exact List.Pairwise.nil
  | cons statement statements ih =>
    rw [List.pairwise_cons] at h
    -- A statement that cannot be cast takes no lock, and nothing after it does.
    unfold locks
    split
    · exact List.Pairwise.nil
    · rename_i taken htaken
      refine List.pairwise_append.mpr ⟨?_, ih h.2, ?_⟩
      -- The locks of one statement have one rank.
      · refine List.pairwise_of_forall_mem_list fun a ha b hb => Or.inl ?_
        obtain ⟨hstage, hname⟩ := locksOf_stage htaken ha
        obtain ⟨hstage', hname'⟩ := locksOf_stage htaken hb
        unfold Lock.rank
        rw [hstage, hname, hstage', hname']
      · intro a ha b hb
        obtain ⟨other, hother, taken', htaken', hb⟩ := mem_locks hb
        obtain ⟨hstage, hname⟩ := locksOf_stage htaken ha
        obtain ⟨hstage', hname'⟩ := locksOf_stage htaken' hb
        -- A later statement ranks no lower, or takes an advisory lock, which is stage 0 wherever it
        -- comes.
        rcases h.1 other hother with hle | ⟨releaseId, source, rfl⟩
        · unfold Lock.rank
          rw [hstage, hname, hstage', hname']
          exact Or.inl hle
        · exact Or.inr hstage'

end Locks

/-! ## The statements of a record

  What is sent, in the order it is sent in, and that this is the order of the stages. -/

section Statements

variable (ext : Externals) (w : Writer)

/-- A release with a Discogs id takes the lock of its range first, and has the media of its block;
    another record has neither. -/
theorem media_cases (kind : EntityKind) (record : Json) :
    (firstLock kind record = [] ∧ mediaPlan ext kind record = some none) ∨
    ∃ releaseId, firstLock kind record = [.lockReleaseMedia releaseId MEDIA_SOURCE] ∧
      mediaPlan ext kind record = (mediaEdgeRows ext (releaseMediaBlock ext record)).map fun rows =>
        some ⟨releaseId, rows⟩ := by
  cases kind with
  | release =>
    unfold firstLock mediaPlan
    cases record.get "discogs_release_id" with
    | null => exact Or.inl ⟨rfl, rfl⟩
    | _ => exact Or.inr ⟨_, rfl, by cases mediaEdgeRows ext (releaseMediaBlock ext record) <;> rfl⟩
  | _ => exact Or.inl ⟨rfl, rfl⟩

/-- The rows of a media block are ordered by their medium. -/
theorem mediaEdgeRows_sorted {media : Json} {rows : List MediaRow}
    (h : mediaEdgeRows ext media = some rows) : rows.Pairwise fun a b => a.medium ≤ b.medium := by
  obtain ⟨items, -, hrows⟩ := Option.bind_eq_some_iff.mp h
  obtain rfl := Option.some.inj hrows
  exact List.pairwise_insertionSort _ _

/-- What a release's media statements are, and the range they keep to. -/
theorem mem_mediaStatements {m : MediaPlan} {statement : Statement} (h : statement ∈ m.statements) :
    (∃ family, statement = .upsertMediaFamily family) ∨
    (∃ medium family label, statement = .upsertMedium medium family label) ∨
    statement = .lockReleaseMedia m.releaseId MEDIA_SOURCE ∨
    statement = .deleteReleaseMedia m.releaseId MEDIA_SOURCE ∨
    ∃ medium qty, statement = .insertReleaseMedium m.releaseId medium MEDIA_SOURCE qty := by
  simp only [MediaPlan.statements, List.mem_append, List.mem_map, List.mem_cons,
    List.not_mem_nil, or_false] at h
  rcases h with ((⟨family, -, rfl⟩ | ⟨row, -, rfl⟩) | rfl | rfl) | ⟨row, -, rfl⟩
  · exact Or.inl ⟨family, rfl⟩
  · exact Or.inr (Or.inl ⟨_, _, _, rfl⟩)
  · exact Or.inr (Or.inr (Or.inl rfl))
  · exact Or.inr (Or.inr (Or.inr (Or.inl rfl)))
  · exact Or.inr (Or.inr (Or.inr (Or.inr ⟨_, _, rfl⟩)))

/-- Two blocks of statements, one after the other. -/
theorem follows_append {as bs : List Statement} (n : Nat) (has : as.Pairwise Follows)
    (hbs : bs.Pairwise Follows) (hlow : ∀ a ∈ as, stage a < n)
    (hhigh : ∀ b ∈ bs, n ≤ stage b ∨ ∃ releaseId source, b = .lockReleaseMedia releaseId source) :
    (as ++ bs).Pairwise Follows := by
  refine List.pairwise_append.mpr ⟨has, hbs, fun a ha b hb => ?_⟩
  rcases hhigh b hb with hstage | hlock
  · exact Follows.of_stage (Nat.lt_of_lt_of_le (hlow a ha) hstage)
  · exact Or.inr hlock

/-- **The vocabulary's rows are sorted, and the range comes after them.** -/
theorem mediaStatements_pairwise {media : Json} {releaseId : String} {rows : List MediaRow}
    (hrows : mediaEdgeRows ext media = some rows) :
    (MediaPlan.statements ⟨releaseId, rows⟩).Pairwise Follows := by
  -- Families and media are upserted in sorted order, each list in its own stage.
  have hfamilies : (((rows.map (·.family)).dedup.insertionSort (· ≤ ·)).map
      Statement.upsertMediaFamily).Pairwise Follows := by
    have hsorted := List.pairwise_insertionSort (· ≤ ·) (rows.map (·.family)).dedup
    refine List.pairwise_map.mpr (hsorted.imp ?_)
    intro family family' hle
    exact Follows.of_name rfl hle
  have hmedia : (rows.map fun row =>
      Statement.upsertMedium row.medium row.family row.label).Pairwise Follows := by
    refine List.pairwise_map.mpr ((mediaEdgeRows_sorted ext hrows).imp ?_)
    intro row row' hle
    exact Follows.of_name rfl hle
  -- The edges are of one release, and so of one name: their own order is free.
  have hinserts : (rows.map fun row =>
      Statement.insertReleaseMedium releaseId row.medium MEDIA_SOURCE row.qty).Pairwise Follows :=
    List.pairwise_map.mpr (List.pairwise_of_forall fun _ _ => Follows.of_name rfl le_rfl)
  have hrange : (([.lockReleaseMedia releaseId MEDIA_SOURCE,
      .deleteReleaseMedia releaseId MEDIA_SOURCE] : List Statement) ++
        rows.map fun (row : MediaRow) =>
          Statement.insertReleaseMedium releaseId row.medium MEDIA_SOURCE row.qty).Pairwise
      Follows := by
    refine List.pairwise_append.mpr ⟨?_, hinserts, ?_⟩
    · rw [List.pairwise_pair]
      exact Follows.of_stage (Nat.succ_pos 3)
    · intro a ha b hb
      obtain ⟨row, -, rfl⟩ := List.mem_map.mp hb
      rcases List.mem_pair.mp ha with rfl | rfl
      · exact Follows.of_stage (Nat.succ_pos 3)
      · exact Follows.of_name rfl le_rfl
  -- Stage 2, stage 3, and then the range, which opens with the lock the transaction holds already.
  have hvocabulary := follows_append 3 hfamilies hmedia
    (fun a ha => by obtain ⟨_, -, rfl⟩ := List.mem_map.mp ha; exact Nat.lt_succ_self 2)
    (fun b hb => by obtain ⟨_, -, rfl⟩ := List.mem_map.mp hb; exact Or.inl le_rfl)
  unfold MediaPlan.statements
  rw [List.append_assoc]
  refine follows_append 4 hvocabulary hrange ?_ ?_
  · intro a ha
    rcases List.mem_append.mp ha with ha | ha
    · obtain ⟨_, -, rfl⟩ := List.mem_map.mp ha
      exact Nat.lt_add_of_pos_right Nat.two_pos
    · obtain ⟨_, -, rfl⟩ := List.mem_map.mp ha
      exact Nat.lt_succ_self 3
  · intro b hb
    rcases List.mem_append.mp hb with hb | hb
    · rcases List.mem_pair.mp hb with rfl | rfl
      · exact Or.inr ⟨_, _, rfl⟩
      · exact Or.inl le_rfl
    · obtain ⟨_, -, rfl⟩ := List.mem_map.mp hb
      exact Or.inl le_rfl

/-- The statements before the relationships: its lock, its entity row, its media. -/
theorem upToMedia_cases : (w.upToMedia ext =
      [.upsertEntity w.kind (entityValues ext w.kind w.record w.gmItemId)]) ∨
    ∃ releaseId media, w.upToMedia ext = .lockReleaseMedia releaseId MEDIA_SOURCE ::
        .upsertEntity w.kind (entityValues ext w.kind w.record w.gmItemId) :: media ∧
      media.Pairwise Follows ∧ ∀ statement ∈ media,
        (∃ family, statement = .upsertMediaFamily family) ∨
        (∃ medium family label, statement = .upsertMedium medium family label) ∨
        statement = .lockReleaseMedia releaseId MEDIA_SOURCE ∨
        statement = .deleteReleaseMedia releaseId MEDIA_SOURCE ∨
        ∃ medium qty, statement = .insertReleaseMedium releaseId medium MEDIA_SOURCE qty := by
  unfold Writer.upToMedia
  rw [mediaStatements_eq]
  rcases media_cases ext w.kind w.record with ⟨hfirst, hplan⟩ | ⟨releaseId, hfirst, hplan⟩
  · rw [hfirst, hplan]
    -- No media: the entity's row is all it comes to.
    exact Or.inl rfl
  · rw [hfirst, hplan]
    right
    cases hrows : mediaEdgeRows ext (releaseMediaBlock ext w.record) with
    -- An unreadable block ends the transaction after the entity's row.
    | none =>
      exact ⟨releaseId, [], rfl, List.Pairwise.nil, fun _ hmem => absurd hmem List.not_mem_nil⟩
    | some rows =>
      exact ⟨releaseId, MediaPlan.statements ⟨releaseId, rows⟩, rfl,
        mediaStatements_pairwise ext hrows, fun _ hmem => mem_mediaStatements hmem⟩

/-- Before its relationships a transaction's statements are in order. -/
theorem upToMedia_pairwise : (w.upToMedia ext).Pairwise Follows := by
  rcases upToMedia_cases ext w with h | ⟨releaseId, media, h, hmedia, hshape⟩
  · rw [h]
    exact List.pairwise_singleton _ _
  · rw [h, List.pairwise_cons, List.pairwise_cons]
    -- What follows the entity's row is of a higher stage, or is the advisory lock once more.
    have hlater (n : Nat) (hn : n < 2) (statement : Statement) (hmem : statement ∈ media) :
        n < stage statement ∨
          ∃ releaseId source, statement = .lockReleaseMedia releaseId source := by
      rcases hshape statement hmem with ⟨_, rfl⟩ | ⟨_, _, _, rfl⟩ | rfl | rfl | ⟨_, _, rfl⟩
      · exact Or.inl hn
      · exact Or.inl (show n < 3 by omega)
      · exact Or.inr ⟨_, _, rfl⟩
      · exact Or.inl (show n < 4 by omega)
      · exact Or.inl (show n < 4 by omega)
    refine ⟨?_, ?_, hmedia⟩
    · intro statement hmem
      rcases List.mem_cons.mp hmem with rfl | hmem
      · exact Follows.of_stage Nat.zero_lt_one
      · rcases hlater 0 (by decide) statement hmem with hstage | hlock
        · exact Follows.of_stage hstage
        · exact Or.inr hlock
    · intro statement hmem
      rcases hlater 1 (by decide) statement hmem with hstage | hlock
      · exact Follows.of_stage hstage
      · exact Or.inr hlock

end Statements

/-! ## The program of a record

  The same of the locks, and where a transaction stands that has come to its relationships. -/

section Program

variable (ext : Externals) (hashtext : String → Int) (w : Writer)

/-- The statements of a transaction that comes to its relationships, and of one that does not. -/
theorem sentStatements_upToMedia : ∃ children, sentStatements ext w.kind w.record w.gmItemId =
    w.upToMedia ext ++ children ∧
    (w.comesToRelationships ext = true → children =
      match relationshipRows (mbid w.record) w.kind.entityType
        (w.record.getD "relations" (.arr [])) with
      | none => []
      | some relationships => relationships.map .upsertRelationship ++
        match externalLinkRows (mbid w.record) w.kind.entityType
          (w.record.getD "external_links" (.arr [])) with
        | none => []
        | some links => links.map .upsertExternalLink) := by
  unfold sentStatements Writer.upToMedia Writer.comesToRelationships
  cases hmedia : mediaStatements ext w.kind w.record with
  | none =>
    refine ⟨[], by simp, fun h => ?_⟩
    rw [Option.isSome_none, Bool.and_false] at h
    cases h
  | some media =>
    exact ⟨_, (List.append_assoc (firstLock w.kind w.record) (_ :: media) _).symm, fun _ => rfl⟩

/-- The entity row is among what comes before. -/
theorem upsertEntity_mem :
    .upsertEntity w.kind (entityValues ext w.kind w.record w.gmItemId) ∈ w.upToMedia ext :=
  List.mem_append_right _ List.mem_cons_self

/-- A transaction that comes to its relationships has taken every lock before them. -/
theorem upToMedia_castable (h : w.comesToRelationships ext = true) {statement : Statement}
    (hmem : statement ∈ w.upToMedia ext) :
    (locksOf ext hashtext w.deleted statement).isSome := by
  obtain ⟨hentity, -⟩ := Bool.and_eq_true_iff.mp h
  have hstored : (locksOf ext hashtext w.deleted
      (.upsertEntity w.kind (entityValues ext w.kind w.record w.gmItemId))).isSome := by
    show ((ext.casts.entityRow _ _ 0).map _).isSome
    rw [Option.isSome_map]
    exact hentity
  rcases upToMedia_cases ext w with hcases | ⟨releaseId, media, hcases, -, hshape⟩
  · rw [hcases] at hmem
    obtain rfl := List.mem_singleton.mp hmem
    exact hstored
  · rw [hcases] at hmem
    rcases List.mem_cons.mp hmem with rfl | hmem
    · rfl
    rcases List.mem_cons.mp hmem with rfl | hmem
    · exact hstored
    rcases hshape statement hmem with ⟨_, rfl⟩ | ⟨_, _, _, rfl⟩ | rfl | rfl | ⟨_, _, rfl⟩ <;> rfl

/-- A transaction that does not come to its relationships takes no lock after them. -/
theorem lockProgram_short (h : w.comesToRelationships ext = false) :
    w.lockProgram ext hashtext = w.locksBefore ext hashtext := by
  unfold Writer.lockProgram Writer.locksBefore
  cases hmedia : mediaStatements ext w.kind w.record with
  | none =>
    unfold sentStatements Writer.upToMedia
    rw [hmedia]
    rfl
  | some media =>
    obtain ⟨children, hsent, -⟩ := sentStatements_upToMedia ext w
    rw [hsent]
    refine locks_failed children (upsertEntity_mem ext w) ?_
    unfold Writer.comesToRelationships at h
    rw [hmedia, Option.isSome_some, Bool.and_true, Option.isSome_eq_false_iff] at h
    show (ext.casts.entityRow _ _ 0).map _ = none
    rw [Option.isNone_iff_eq_none.mp h]
    rfl

/-- The locks of relationships: their keys, and what follows unless a cast fails. -/
theorem locks_relationships (values : List RelationshipValues) (statements : List Statement) :
    ∃ more, locks ext hashtext w.deleted (values.map .upsertRelationship ++ statements) =
        (storedKeys ext values).map .relationship ++ more ∧
      (more = [] ∨ more = locks ext hashtext w.deleted statements) := by
  induction values with
  | nil => exact ⟨_, rfl, Or.inr rfl⟩
  | cons v values ih =>
    obtain ⟨more, hmore, hcases⟩ := ih
    simp only [List.map_cons, List.cons_append, locks, locksOf, storedKeys]
    cases ext.casts.relationship v with
    | none => exact ⟨[], rfl, Or.inl rfl⟩
    | some row =>
      refine ⟨more, ?_, hcases⟩
      simp only [Option.map_some, hmore, List.map_cons, List.cons_append, List.nil_append]

/-- The locks of external links are keys of them. -/
theorem locks_links (values : List ExternalLinkValues) :
    ∃ keys : List ExternalLinkKey,
      locks ext hashtext w.deleted (values.map .upsertExternalLink) = keys.map .externalLink ∧
      ∀ key ∈ keys, ∃ v ∈ values, ext.casts.externalLinkKey v = some key := by
  induction values with
  | nil => exact ⟨[], rfl, fun _ hmem => absurd hmem List.not_mem_nil⟩
  | cons v values ih =>
    obtain ⟨keys, hkeys, hmem⟩ := ih
    simp only [List.map_cons, locks, locksOf]
    cases hkey : ext.casts.externalLinkKey v with
    | none => exact ⟨[], rfl, fun _ hmem => absurd hmem List.not_mem_nil⟩
    | some key =>
      refine ⟨key :: keys, by simp [hkeys], fun key' hkey' => ?_⟩
      rcases List.mem_cons.mp hkey' with rfl | hkey'
      · exact ⟨v, List.mem_cons_self, hkey⟩
      · obtain ⟨v', hv', hcast⟩ := hmem key' hkey'
        exact ⟨v', List.mem_cons_of_mem _ hv', hcast⟩

/-- An entity row is stored under its MBID. -/
theorem entityRow_uuid {casts : Casts} {kind : EntityKind} {values : EntityValues} {now : Instant}
    {row : Uuid × EntityRow} (h : casts.entityRow kind values now = some row) :
    casts.uuid values.mbid = some row.1 := by
  obtain ⟨uuid, huuid, h⟩ := Option.bind_eq_some_iff.mp h
  obtain ⟨columns, -, h⟩ := Option.bind_eq_some_iff.mp h
  obtain ⟨discogsId, -, h⟩ := Option.bind_eq_some_iff.mp h
  obtain rfl := Option.some.inj h
  exact huuid

/-- The entity row is locked under the record's MBID. -/
theorem entity_mem_locksBefore {uuid : Uuid} (h : w.comesToRelationships ext = true)
    (huuid : ext.casts.uuid (mbid w.record) = some uuid) :
    .entity w.kind uuid ∈ w.locksBefore ext hashtext := by
  obtain ⟨hentity, -⟩ := Bool.and_eq_true_iff.mp h
  obtain ⟨row, hrow⟩ := Option.isSome_iff_exists.mp hentity
  have hkey : row.1 = uuid := by
    have hstored := entityRow_uuid hrow
    rw [entityValues_mbid] at hstored
    exact Option.some.inj (hstored.symm.trans huuid)
  have htaken : locksOf ext hashtext w.deleted
      (.upsertEntity w.kind (entityValues ext w.kind w.record w.gmItemId)) =
        some [.entity w.kind uuid] := by
    show (ext.casts.entityRow _ _ 0).map _ = _
    rw [hrow, ← hkey]
    rfl
  have hfirst : ∀ statement ∈ firstLock w.kind w.record,
      (locksOf ext hashtext w.deleted statement).isSome := fun statement hmem =>
    upToMedia_castable ext hashtext w h (List.mem_append_left _ hmem)
  unfold Writer.locksBefore Writer.upToMedia
  rw [locks_append _ hfirst, locks, htaken]
  exact List.mem_append_right _ List.mem_cons_self

/-- **The program**: the locks before the relationships, the canonical rows of the record's list,
    the record's external links. -/
theorem lockProgram_eq : ∃ links : List ExternalLinkKey, w.lockProgram ext hashtext =
      w.locksBefore ext hashtext ++ ((w.relationshipKeys ext).map .relationship ++
        links.map .externalLink) ∧
    ∀ key ∈ links, .entity w.kind key.mbid ∈ w.locksBefore ext hashtext ∧
      ext.casts.scalar "musicbrainz.external_links" "entity_type" (.str w.kind.entityType) =
        some key.entityType := by
  have hnone : ∀ key ∈ ([] : List ExternalLinkKey), Lock.entity w.kind key.mbid ∈
      w.locksBefore ext hashtext ∧ ext.casts.scalar "musicbrainz.external_links" "entity_type"
        (.str w.kind.entityType) = some key.entityType := fun _ hmem => absurd hmem List.not_mem_nil
  -- Whether it comes to its relationships is a matter of casts: one that cannot be made ends it before.
  cases hcomes : w.comesToRelationships ext with
  | false =>
    refine ⟨[], ?_, hnone⟩
    rw [lockProgram_short ext hashtext w hcomes, Writer.relationshipKeys, hcomes]
    simp
  | true =>
    obtain ⟨children, hsent, hchildren⟩ := sentStatements_upToMedia ext w
    have hprogram : w.lockProgram ext hashtext =
        w.locksBefore ext hashtext ++ locks ext hashtext w.deleted children := by
      unfold Writer.lockProgram
      rw [hsent]
      exact locks_append children fun statement => upToMedia_castable ext hashtext w hcomes
    rw [hprogram, hchildren hcomes, Writer.relationshipKeys, hcomes, if_pos rfl]
    cases relationshipRows (mbid w.record) w.kind.entityType
      -- An unreadable list of relationships ends it there; an unreadable list of links ends it after
      -- the relationships.
      (w.record.getD "relations" (.arr [])) with
    | none => exact ⟨[], by simp [storedKeys, locks], hnone⟩
    | some relationships =>
      cases hlinks : externalLinkRows (mbid w.record) w.kind.entityType
          (w.record.getD "external_links" (.arr [])) with
      | none =>
        obtain ⟨more, hmore, hcases⟩ := locks_relationships ext hashtext w relationships []
        have hempty : more = [] := by rcases hcases with rfl | rfl <;> rfl
        rw [hempty, List.append_nil, List.append_nil] at hmore
        exact ⟨[], by simp [hmore], hnone⟩
      | some links =>
        obtain ⟨more, hmore, hcases⟩ := locks_relationships ext hashtext w relationships
          (links.map .upsertExternalLink)
        simp only [hmore, Option.getD_some]
        -- Some relationship cannot be cast, and no link is sent; or all are, and the links are.
        rcases hcases with rfl | rfl
        · exact ⟨[], rfl, hnone⟩
        · obtain ⟨keys, hkeys, hmem⟩ := locks_links ext hashtext w links
          -- A link's key is of the record's own entity, whose row is locked by then.
          refine ⟨keys, by rw [hkeys], fun key hkey => ?_⟩
          obtain ⟨v, hv, hcast⟩ := hmem key hkey
          obtain ⟨entries, entry, -, -, hrow⟩ := (mem_of_filtered hlinks v).mp hv
          have hnames := externalLinkRow_key.mp ⟨v, hrow, hcast⟩
          have huuid := hnames.mbid
          rw [← mbid_eq_ownMbid] at huuid
          exact ⟨entity_mem_locksBefore ext hashtext w hcomes huuid, hnames.entityType⟩

/-- These are the keys of the rows its transaction writes, when it commits.  This checks the lock order,
    which is read off the statements as they are sent, against the rows that `process` stores. -/
theorem relationshipKeys_plan {pl : Plan} (h : plan ext w.kind w.record = some pl) :
    w.relationshipKeys ext = pl.relationships.map (·.1) := by
  obtain ⟨relationships, links, hmedia, hrels, -, hmbid, hcolumns, hdiscogs, hrows, -, -⟩ :=
    plan_eq_some.mp h
  -- A transaction with a plan has had every cast made.
  have hcomes : w.comesToRelationships ext = true := by
    unfold Writer.comesToRelationships Casts.entityRow
    rw [mediaStatements_eq, hmedia, entityValues_mbid, hmbid, (entityValues_columns ext _ _ _).1,
      hcolumns, entityValues_discogsId, hdiscogs]
    rfl
  have hstored (values : List RelationshipValues) (rows : List (RelationshipKey × Json))
      (hrows : values.mapM ext.casts.relationship = some rows) :
      storedKeys ext values = rows.map (·.1) := by
    -- Along the rows, none of which ends the list.
    induction values generalizing rows with
    | nil =>
      obtain rfl := Option.some.inj hrows
      rfl
    | cons v values ih =>
      rw [List.mapM_cons] at hrows
      obtain ⟨row, hrow, hrows⟩ := Option.bind_eq_some_iff.mp hrows
      obtain ⟨rest, hrest, hrows⟩ := Option.bind_eq_some_iff.mp hrows
      obtain rfl := Option.some.inj hrows
      simp only [storedKeys, hrow, ih rest hrest, List.map_cons]
  rw [Writer.relationshipKeys, hcomes, if_pos rfl, hrels]
  exact hstored relationships pl.relationships hrows

/-- Nothing that comes before is of the relationships' stage, or a later one. -/
theorem locksBefore_stage {lock : Lock} (h : lock ∈ w.locksBefore ext hashtext) :
    lock.stage < 5 := by
  obtain ⟨statement, hmem, taken, htaken, hlock⟩ := mem_locks h
  rw [(locksOf_stage htaken hlock).1]
  rcases upToMedia_cases ext w with hcases | ⟨releaseId, media, hcases, -, hshape⟩
  · rw [hcases] at hmem
    obtain rfl := List.mem_singleton.mp hmem
    exact show 1 < 5 by omega
  · rw [hcases] at hmem
    rcases List.mem_cons.mp hmem with rfl | hmem
    · exact show 0 < 5 by omega
    rcases List.mem_cons.mp hmem with rfl | hmem
    · exact show 1 < 5 by omega
    rcases hshape statement hmem with ⟨_, rfl⟩ | ⟨_, _, _, rfl⟩ | rfl | rfl | ⟨_, _, rfl⟩
    · exact show 2 < 5 by omega
    · exact show 3 < 5 by omega
    · exact show 0 < 5 by omega
    · exact show 4 < 5 by omega
    · exact show 4 < 5 by omega

/-- And a lock of an earlier stage comes before. -/
theorem mem_locksBefore {lock : Lock} (h : lock ∈ w.lockProgram ext hashtext)
    (hstage : lock.stage < 5) : lock ∈ w.locksBefore ext hashtext := by
  obtain ⟨links, hprogram, -⟩ := lockProgram_eq ext hashtext w
  rw [hprogram] at h
  rcases List.mem_append.mp h with h | h
  · exact h
  rcases List.mem_append.mp h with h | h
  · obtain ⟨key, -, rfl⟩ := List.mem_map.mp h
    exact absurd hstage (show ¬ 5 < 5 by omega)
  · obtain ⟨key, -, rfl⟩ := List.mem_map.mp h
    exact absurd hstage (show ¬ 6 < 5 by omega)

/-- In particular no relationship does. -/
theorem relationship_notMem (key : RelationshipKey) :
    Lock.relationship key ∉ w.locksBefore ext hashtext :=
  fun hmem => absurd (locksBefore_stage ext hashtext w hmem) (show ¬ 5 < 5 by omega)

/-- Nor an external link. -/
theorem externalLink_notMem (key : ExternalLinkKey) :
    Lock.externalLink key ∉ w.locksBefore ext hashtext :=
  fun hmem => absurd (locksBefore_stage ext hashtext w hmem) (show ¬ 6 < 5 by omega)

/-- Who holds a lock of a child row holds all that its program takes before the relationships. -/
theorem holds_before {held : List Lock} {lock : Lock} (h : held <+: w.lockProgram ext hashtext)
    (hmem : lock ∈ held) (hnot : lock ∉ w.locksBefore ext hashtext) :
    w.locksBefore ext hashtext <+: held := by
  obtain ⟨links, hprogram, -⟩ := lockProgram_eq ext hashtext w
  rw [hprogram] at h
  exact holds_first _ h hmem hnot

/-- And so does who stands before such a lock. -/
theorem stands_before {held : List Lock} {lock : Lock}
    (h : held ++ [lock] <+: w.lockProgram ext hashtext)
    (hnot : lock ∉ w.locksBefore ext hashtext) : w.locksBefore ext hashtext <+: held := by
  obtain ⟨links, hprogram, -⟩ := lockProgram_eq ext hashtext w
  rw [hprogram] at h
  obtain ⟨later, rfl, -⟩ := stands_behind _ h hnot
  exact List.prefix_append _ later

/-- An external link is of the transaction's own entity, whose row it upserts first. -/
theorem externalLink_entity {key : ExternalLinkKey}
    (h : .externalLink key ∈ w.lockProgram ext hashtext) :
    .entity w.kind key.mbid ∈ w.locksBefore ext hashtext ∧
      ext.casts.scalar "musicbrainz.external_links" "entity_type" (.str w.kind.entityType) =
        some key.entityType := by
  obtain ⟨links, hprogram, hlinks⟩ := lockProgram_eq ext hashtext w
  refine hlinks key ?_
  rw [hprogram] at h
  simpa [externalLink_notMem ext hashtext w key] using h

/-- **Behind the media lock**: who locks rows of `graph.issued_on`, or an advisory lock at all, has
    begun with the lock of their range. -/
theorem range_first {lock : Lock} (h : lock ∈ w.lockProgram ext hashtext)
    (hstage : lock.stage = 0 ∨ lock.stage = 4) :
    ∃ releaseId rest, w.lockProgram ext hashtext =
        .advisory (hashtext (mediaLockText releaseId MEDIA_SOURCE)) :: rest ∧
      (lock = .advisory (hashtext (mediaLockText releaseId MEDIA_SOURCE)) ∨
        ∃ mediumId, lock = .issuedOn ⟨releaseId, mediumId, MEDIA_SOURCE⟩) := by
  obtain ⟨links, hprogram, -⟩ := lockProgram_eq ext hashtext w
  have hbefore := mem_locksBefore ext hashtext w h (by omega)
  -- The lock is some statement's, of the same stage. Only a release with media has such statements, and
  -- then the advisory lock comes first.
  obtain ⟨statement, hmem, taken, htaken, hlock⟩ := mem_locks hbefore
  rw [(locksOf_stage htaken hlock).1] at hstage
  rcases upToMedia_cases ext w with hcases | ⟨releaseId, media, hcases, -, hshape⟩
  · rw [hcases] at hmem
    obtain rfl := List.mem_singleton.mp hmem
    exact absurd hstage (show ¬ (1 = 0 ∨ 1 = 4) by omega)
  · refine ⟨releaseId, ?_⟩
    have hhead : ∃ rest, w.lockProgram ext hashtext =
        .advisory (hashtext (mediaLockText releaseId MEDIA_SOURCE)) :: rest := by
      rw [hprogram, Writer.locksBefore, hcases]
      exact ⟨_, rfl⟩
    obtain ⟨rest, hhead⟩ := hhead
    refine ⟨rest, hhead, ?_⟩
    rw [hcases] at hmem
    rcases List.mem_cons.mp hmem with rfl | hmem
    · obtain rfl := Option.some.inj htaken
      exact Or.inl (List.mem_singleton.mp hlock)
    rcases List.mem_cons.mp hmem with rfl | hmem
    · exact absurd hstage (show ¬ (1 = 0 ∨ 1 = 4) by omega)
    -- Family, medium, the lock once more, the delete, an insert.
    rcases hshape statement hmem with ⟨_, rfl⟩ | ⟨_, _, _, rfl⟩ | rfl | rfl | ⟨_, _, rfl⟩
    · exact absurd hstage (show ¬ (2 = 0 ∨ 2 = 4) by omega)
    · exact absurd hstage (show ¬ (3 = 0 ∨ 3 = 4) by omega)
    · obtain rfl := Option.some.inj htaken
      exact Or.inl (List.mem_singleton.mp hlock)
    · obtain rfl := Option.some.inj htaken
      obtain ⟨mediumId, -, rfl⟩ := List.mem_map.mp hlock
      exact Or.inr ⟨mediumId, rfl⟩
    · obtain rfl := Option.some.inj htaken
      exact Or.inr ⟨_, List.mem_singleton.mp hlock⟩

/-- A transaction has one entity row. -/
theorem entity_unique {kind : EntityKind} {uuid : Uuid}
    (h : .entity kind uuid ∈ w.lockProgram ext hashtext) :
    kind = w.kind ∧ ext.casts.uuid (mbid w.record) = some uuid := by
  have hbefore := mem_locksBefore ext hashtext w h (show 1 < 5 by omega)
  obtain ⟨statement, hmem, taken, htaken, hlock⟩ := mem_locks hbefore
  have hentity : statement =
      .upsertEntity w.kind (entityValues ext w.kind w.record w.gmItemId) := by
    -- Stage 1 is the entity's row alone.
    have hstage : 1 = stage statement := (locksOf_stage htaken hlock).1
    rcases upToMedia_cases ext w with hcases | ⟨releaseId, media, hcases, -, hshape⟩
    · rw [hcases] at hmem
      exact List.mem_singleton.mp hmem
    · rw [hcases] at hmem
      rcases List.mem_cons.mp hmem with rfl | hmem
      · cases hstage
      rcases List.mem_cons.mp hmem with hmem | hmem
      · exact hmem
      rcases hshape statement hmem with ⟨_, rfl⟩ | ⟨_, _, _, rfl⟩ | rfl | rfl | ⟨_, _, rfl⟩ <;>
        cases hstage
  subst hentity
  obtain ⟨row, hrow, rfl⟩ := Option.map_eq_some_iff.mp htaken
  obtain ⟨rfl, rfl⟩ := Lock.entity.inj (List.mem_singleton.mp hlock)
  have hstored := entityRow_uuid hrow
  rw [entityValues_mbid] at hstored
  exact ⟨rfl, hstored⟩

/-- **A transaction takes its locks in the order of the stages.** -/
theorem lockProgram_ordered : Ordered Lock.rank (w.lockProgram ext hashtext) := by
  have hbefore : (w.locksBefore ext hashtext).Pairwise fun a b => a.rank ≤ b.rank ∨ b.stage = 0 :=
    locks_pairwise (upToMedia_pairwise ext w)
  -- Between stages the order is that of the stages.
  have hlater {a b : Lock} (h : a.stage < b.stage) : a.rank ≤ b.rank ∨ b.stage = 0 :=
    Or.inl (Prod.Lex.toLex_le_toLex.mpr (Or.inl h))
  refine ordered_of_pairwise (fun lock => lock.stage = 0) ?_ ?_
  · obtain ⟨links, hprogram, -⟩ := lockProgram_eq ext hashtext w
    rw [hprogram]
    refine List.pairwise_append.mpr ⟨hbefore, List.pairwise_append.mpr ⟨?_, ?_, ?_⟩, ?_⟩
    · exact List.pairwise_map.mpr (List.pairwise_of_forall fun _ _ => Or.inl le_rfl)
    · exact List.pairwise_map.mpr (List.pairwise_of_forall fun _ _ => Or.inl le_rfl)
    -- A relationship comes before a link.
    · intro a ha b hb
      obtain ⟨_, -, rfl⟩ := List.mem_map.mp ha
      obtain ⟨_, -, rfl⟩ := List.mem_map.mp hb
      exact hlater (Nat.lt_succ_self 5)
    -- And everything before them is of a lower stage than either.
    · intro a ha b hb
      have hstage := locksBefore_stage ext hashtext w ha
      rcases List.mem_append.mp hb with hb | hb
      · obtain ⟨_, -, rfl⟩ := List.mem_map.mp hb
        exact hlater hstage
      · obtain ⟨_, -, rfl⟩ := List.mem_map.mp hb
        exact hlater (Nat.lt_succ_of_lt hstage)
  -- The advisory lock may come twice, and is held from the first time on.
  · intro lock hmem hstage
    obtain ⟨releaseId, rest, hhead, hlock⟩ := range_first ext hashtext w hmem (Or.inl hstage)
    rcases hlock with rfl | ⟨mediumId, rfl⟩
    · rw [hhead]
      rfl
    · cases hstage

end Program

/-! ## Where two transactions can wait for each other -/

section Crossings

variable {ext : Externals} {hashtext : String → Int}

/-- The `entity_type` column of `musicbrainz.external_links` tells the kinds apart. -/
def KindsApart (casts : Casts) : Prop :=
  ∀ (k k' : EntityKind) (stored : Json),
    casts.scalar "musicbrainz.external_links" "entity_type" (.str k.entityType) = some stored →
    casts.scalar "musicbrainz.external_links" "entity_type" (.str k'.entityType) = some stored →
    k = k'

/-- **Only at relationships** can one transaction hold what another waits for, while it waits for a
    lock of the same rank itself. -/
theorem waits_at_relationship (hkinds : KindsApart ext.casts)
    {w w' : Writer} {held held' : List Lock} {next next' : Lock}
    (hp : held ++ [next] <+: w.lockProgram ext hashtext)
    (hp' : held' ++ [next'] <+: w'.lockProgram ext hashtext) (hrank : next.rank = next'.rank)
    (hmem : next ∈ held') (hnew' : next' ∉ held') (hapart : List.Disjoint held held') :
    ∃ key, next = .relationship key := by
  have hstage : next.stage = next'.stage := congrArg (fun rank => (ofLex rank).1) hrank
  have hname : next.name = next'.name := congrArg (fun rank => (ofLex rank).2) hrank
  have hheld' : held' <+: w'.lockProgram ext hashtext :=
    (List.prefix_append held' [next']).trans hp'
  have hnext : next ∈ w.lockProgram ext hashtext :=
    hp.subset (List.mem_append_right _ (List.mem_singleton_self next))
  have hnext' : next' ∈ w'.lockProgram ext hashtext :=
    hp'.subset (List.mem_append_right _ (List.mem_singleton_self next'))
  cases next with
  | relationship key => exact ⟨key, rfl⟩
  | advisory key =>
    -- an advisory lock is the first of its program, so the one who waits for it holds nothing
    obtain ⟨releaseId, rest, hhead, hlock⟩ :=
      range_first ext hashtext w' hnext' (Or.inl hstage.symm)
    rcases hlock with rfl | ⟨mediumId, rfl⟩
    · rw [hhead] at hp'
      cases held' with
      | nil => cases hmem
      | cons first held' =>
        obtain rfl : first = _ := (List.cons_prefix_cons.mp hp').1
        exact absurd List.mem_cons_self hnew'
    · cases hstage
  | entity kind uuid =>
    cases next' with
    | entity kind' uuid' =>
      obtain ⟨rfl, huuid⟩ := entity_unique ext hashtext w' (hheld'.subset hmem)
      obtain ⟨rfl, huuid'⟩ := entity_unique ext hashtext w' hnext'
      obtain rfl := Option.some.inj (huuid.symm.trans huuid')
      exact absurd hmem hnew'
    | _ => cases hstage
  | mediaFamily family =>
    cases next' with
    | mediaFamily family' =>
      obtain rfl : family = family' := hname
      exact absurd hmem hnew'
    | _ => cases hstage
  | medium mediumId =>
    cases next' with
    | medium mediumId' =>
      obtain rfl : mediumId = mediumId' := hname
      exact absurd hmem hnew'
    | _ => cases hstage
  | issuedOn key =>
    -- both have begun with the media lock of the release
    obtain ⟨releaseId, rest, hhead, hlock⟩ := range_first ext hashtext w hnext (Or.inr rfl)
    obtain ⟨releaseId', rest', hhead', hlock'⟩ :=
      range_first ext hashtext w' (hheld'.subset hmem) (Or.inr rfl)
    rcases hlock with hlock | ⟨mediumId, hlock⟩
    · cases hlock
    rcases hlock' with hlock' | ⟨mediumId', hlock'⟩
    · cases hlock'
    obtain rfl := Lock.issuedOn.inj hlock
    obtain ⟨rfl, rfl, -⟩ := IssuedOnKey.mk.inj (Lock.issuedOn.inj hlock')
    rw [hhead] at hp
    rw [hhead'] at hheld'
    obtain ⟨later, rfl, -⟩ := stands_behind [_] hp (by simp)
    have hfirst := holds_first [_] hheld' hmem (by simp)
    exact absurd (hfirst.subset (List.mem_singleton_self _)) (hapart List.mem_cons_self)
  | externalLink key =>
    -- both have upserted the entity row of the link
    obtain ⟨hentity, htype⟩ := externalLink_entity ext hashtext w hnext
    obtain ⟨hentity', htype'⟩ := externalLink_entity ext hashtext w' (hheld'.subset hmem)
    have hfirst := stands_before ext hashtext w hp (externalLink_notMem ext hashtext w key)
    have hfirst' := holds_before ext hashtext w' hheld' hmem (externalLink_notMem ext hashtext w' key)
    rw [hkinds w.kind w'.kind key.entityType htype htype'] at hentity
    exact absurd (hfirst'.subset hentity') (hapart (hfirst.subset hentity))

/-- The rows `a` and `b` come in this order: somebody who has no `b` yet has an `a`. -/
def ComesBefore {α : Type} (a b : α) (l : List α) : Prop :=
  ∃ earlier, earlier ++ [b] <+: l ∧ b ∉ earlier ∧ a ∈ earlier

variable (ext hashtext) in
/-- **Records whose relationship lists cross**: the `i`-th of them has listed `earlier i` and comes
    to `next i`, which another of them has listed by then.  Before that they share no lock: they
    name different entities, different Discogs releases, no common medium or media family. -/
structure Crossing (writers : List Writer) (S : Finset Nat) (earlier : Nat → List RelationshipKey)
    (next : Nat → RelationshipKey) : Prop where
  lists : Standoff (writers.map fun w => w.relationshipKeys ext) S earlier next
  before : ∀ i ∈ S, ∀ j ∈ S, i ≠ j → ∀ w w' : Writer, writers[i]? = some w → writers[j]? = some w' →
    List.Disjoint (w.locksBefore ext hashtext) (w'.locksBefore ext hashtext)

/-- Who stands before a relationship has come through all that precedes them, and some of its
    list. -/
theorem stands_at_relationship {w : Writer} {held : List Lock} {key : RelationshipKey} :
    held ++ [.relationship key] <+: w.lockProgram ext hashtext ↔
      ∃ earlier, held = w.locksBefore ext hashtext ++ earlier.map .relationship ∧
        earlier ++ [key] <+: w.relationshipKeys ext := by
  obtain ⟨links, hprogram, -⟩ := lockProgram_eq ext hashtext w
  rw [hprogram]
  constructor
  · intro h
    obtain ⟨later, rfl, hlater⟩ := stands_behind _ h (relationship_notMem ext hashtext w key)
    have hwithin := stands_within hlater (by simp)
    obtain ⟨keys, hkeys, hsplit⟩ := List.prefix_map_iff.mp hwithin
    obtain ⟨earlier, last, rfl, rfl, hlast⟩ := List.append_eq_map_iff.mp hsplit
    obtain ⟨key', rfl, hkey⟩ := List.map_eq_singleton_iff.mp hlast
    obtain rfl := Lock.relationship.inj hkey
    exact ⟨earlier, rfl, hkeys⟩
  · rintro ⟨earlier, rfl, rest, hrest⟩
    refine ⟨rest.map .relationship ++ links.map .externalLink, ?_⟩
    rw [← hrest]
    simp

/-- The relationship rows of a transaction come in the order of its record's list. -/
theorem comesBefore_lockProgram {w : Writer} {a b : RelationshipKey} :
    ComesBefore (.relationship a) (.relationship b) (w.lockProgram ext hashtext) ↔
      ComesBefore a b (w.relationshipKeys ext) := by
  have hmem (key : RelationshipKey) (earlier : List RelationshipKey) : Lock.relationship key ∈
      w.locksBefore ext hashtext ++ earlier.map .relationship ↔ key ∈ earlier := by
    simp [relationship_notMem ext hashtext w key]
  constructor
  · rintro ⟨held, hprefix, hb, ha⟩
    obtain ⟨earlier, rfl, hearlier⟩ := stands_at_relationship.mp hprefix
    rw [hmem] at ha hb
    exact ⟨earlier, hearlier, hb, ha⟩
  · rintro ⟨earlier, hearlier, hb, ha⟩
    refine ⟨_, stands_at_relationship.mpr ⟨earlier, rfl, hearlier⟩, ?_, ?_⟩
    · rw [hmem]
      exact hb
    · rw [hmem]
      exact ha

/-- Crossing lists are a standoff of the transactions. -/
theorem Crossing.standoff {writers : List Writer} {S : Finset Nat}
    {earlier : Nat → List RelationshipKey} {next : Nat → RelationshipKey}
    (h : Crossing ext hashtext writers S earlier next) :
    ∃ held, Standoff (writers.map fun w => w.lockProgram ext hashtext) S held
      fun i => .relationship (next i) := by
  -- Who is in the crossing has its locks before the relationships, and the relationships up to where it
  -- stands.
  have hpick (i : Nat) : ∃ held, i ∈ S → ∃ w : Writer, writers[i]? = some w ∧
      held = w.locksBefore ext hashtext ++ (earlier i).map .relationship ∧
      earlier i ++ [next i] <+: w.relationshipKeys ext := by
    by_cases hi : i ∈ S
    · obtain ⟨keys, hkeys, hprefix⟩ := h.lists.program i hi
      rw [List.getElem?_map] at hkeys
      obtain ⟨w, hw, rfl⟩ := Option.map_eq_some_iff.mp hkeys
      exact ⟨_, fun _ => ⟨w, hw, rfl, hprefix⟩⟩
    · exact ⟨[], fun hi' => absurd hi' hi⟩
  choose held hheld using hpick
  refine ⟨held, h.lists.nonempty, ?_, ?_, ?_⟩
  · intro i hi
    obtain ⟨w, hw, hsplit, hprefix⟩ := hheld i hi
    refine ⟨w.lockProgram ext hashtext, by rw [List.getElem?_map, hw]; rfl, ?_⟩
    exact stands_at_relationship.mpr ⟨earlier i, hsplit, hprefix⟩
  -- No lock is held by two: not before the relationships, by the crossing's own condition, nor among
  -- the relationships, where the two lists have come apart; and a relationship is no other lock.
  · intro i hi j hj hij lock hlock hlock'
    obtain ⟨w, hw, hsplit, -⟩ := hheld i hi
    obtain ⟨w', hw', hsplit', -⟩ := hheld j hj
    rw [hsplit] at hlock
    rw [hsplit'] at hlock'
    rcases List.mem_append.mp hlock with hlock | hlock
    · rcases List.mem_append.mp hlock' with hlock' | hlock'
      · exact h.before i hi j hj hij w w' hw hw' hlock hlock'
      · obtain ⟨key, -, rfl⟩ := List.mem_map.mp hlock'
        exact absurd hlock (relationship_notMem ext hashtext w key)
    · obtain ⟨key, hkey, rfl⟩ := List.mem_map.mp hlock
      rcases List.mem_append.mp hlock' with hlock' | hlock'
      · exact absurd hlock' (relationship_notMem ext hashtext w' key)
      · obtain ⟨key', hkey', heq⟩ := List.mem_map.mp hlock'
        obtain rfl := Lock.relationship.inj heq
        exact h.lists.apart i hi j hj hij hkey hkey'
  -- Each waits for a relationship another has passed.
  · intro i hi
    obtain ⟨j, hj, hji, hlock⟩ := h.lists.waits i hi
    obtain ⟨w, -, hsplit, -⟩ := hheld j hj
    refine ⟨j, hj, hji, ?_⟩
    rw [hsplit]
    exact List.mem_append_right _ (List.mem_map_of_mem hlock)

/-- A standoff of the transactions comes down to crossing lists. -/
theorem crossing_of_standoff (hkinds : KindsApart ext.casts)
    {writers : List Writer} {S : Finset Nat} {held : Nat → List Lock} {next : Nat → Lock}
    (h : Standoff (writers.map fun w => w.lockProgram ext hashtext) S held next) :
    ∃ T earlier next, Crossing ext hashtext writers T earlier next := by
  have hordered : ∀ program ∈ writers.map (fun w => w.lockProgram ext hashtext),
      Ordered Lock.rank program := by
    intro program hmem
    obtain ⟨w, -, rfl⟩ := List.mem_map.mp hmem
    exact lockProgram_ordered ext hashtext w
  -- Ranks bring the standoff down to one rank, so to locks of one stage and name.
  obtain ⟨T, r, hT, hlevel⟩ := h.level Lock.rank hordered
  have hwriter (i : Nat) (hi : i ∈ T) :
      ∃ w, writers[i]? = some w ∧ held i ++ [next i] <+: w.lockProgram ext hashtext := by
    obtain ⟨program, hprogram, hprefix⟩ := hT.program i hi
    rw [List.getElem?_map] at hprogram
    obtain ⟨w, hw, rfl⟩ := Option.map_eq_some_iff.mp hprogram
    exact ⟨w, hw, hprefix⟩
  -- Two that wait for each other in one stage cannot be inside a guarded range, so they are at their
  -- relationships (`waits_at_relationship`).
  have hstands (i : Nat) (hi : i ∈ T) : ∃ (earlier : List RelationshipKey) (key : RelationshipKey),
      next i = .relationship key ∧ ∃ w : Writer, writers[i]? = some w ∧
        held i = w.locksBefore ext hashtext ++ earlier.map .relationship ∧
        earlier ++ [key] <+: w.relationshipKeys ext := by
    obtain ⟨j, hj, hji, hlock⟩ := hT.waits i hi
    obtain ⟨w, hw, hp⟩ := hwriter i hi
    obtain ⟨w', hw', hp'⟩ := hwriter j hj
    obtain ⟨key, hkey⟩ := waits_at_relationship hkinds hp hp'
      ((hlevel i hi).trans (hlevel j hj).symm) hlock (hT.next_notMem hj)
      (hT.apart i hi j hj hji.symm)
    rw [hkey] at hp
    obtain ⟨earlier, hsplit, hprefix⟩ := stands_at_relationship.mp hp
    exact ⟨earlier, key, hkey, w, hw, hsplit, hprefix⟩
  obtain ⟨i₀, hi₀⟩ := hT.nonempty
  obtain ⟨_, key₀, -⟩ := hstands i₀ hi₀
  -- `choose!` wants some relationship to stand for those outside the crossing.
  have : Nonempty RelationshipKey := ⟨key₀⟩
  choose! earlier key hstands using hstands
  refine ⟨T, earlier, key, ⟨hT.nonempty, ?_, ?_, ?_⟩, ?_⟩
  · intro i hi
    obtain ⟨-, w, hw, -, hprefix⟩ := hstands i hi
    exact ⟨_, by rw [List.getElem?_map, hw]; rfl, hprefix⟩
  -- Apart, waiting, and apart before: each is the standoff's, read off the split programs.
  · intro i hi j hj hij a ha ha'
    obtain ⟨-, w, -, hsplit, -⟩ := hstands i hi
    obtain ⟨-, w', -, hsplit', -⟩ := hstands j hj
    have hdisjoint := hT.apart i hi j hj hij
    rw [hsplit, hsplit'] at hdisjoint
    exact hdisjoint (List.mem_append_right _ (List.mem_map_of_mem ha))
      (List.mem_append_right _ (List.mem_map_of_mem ha'))
  · intro i hi
    obtain ⟨j, hj, hji, hlock⟩ := hT.waits i hi
    obtain ⟨hkey, -⟩ := hstands i hi
    obtain ⟨-, w', -, hsplit', -⟩ := hstands j hj
    rw [hkey, hsplit'] at hlock
    refine ⟨j, hj, hji, ?_⟩
    -- What is waited for is a relationship, so it is held as one.
    rcases List.mem_append.mp hlock with hlock | hlock
    · exact absurd hlock (relationship_notMem ext hashtext w' _)
    · obtain ⟨key', hkey', heq⟩ := List.mem_map.mp hlock
      obtain rfl := Lock.relationship.inj heq
      exact hkey'
  · intro i hi j hj hij w₁ w₂ hw₁ hw₂
    obtain ⟨-, w, hw, hsplit, -⟩ := hstands i hi
    obtain ⟨-, w', hw', hsplit', -⟩ := hstands j hj
    obtain rfl := Option.some.inj (hw.symm.trans hw₁)
    obtain rfl := Option.some.inj (hw'.symm.trans hw₂)
    have hdisjoint := hT.apart i hi j hj hij
    rw [hsplit, hsplit'] at hdisjoint
    intro lock hlock hlock'
    exact hdisjoint (List.mem_append_left _ hlock) (List.mem_append_left _ hlock')

/-- Lists in one common order do not cross. -/
theorem not_crossing_of_common_order {α : Type} [LinearOrder α] (order : RelationshipKey → α)
    {writers : List Writer}
    (hinj : Set.InjOn order {key | ∃ w ∈ writers, key ∈ w.relationshipKeys ext})
    (hsorted : ∀ w ∈ writers, (w.relationshipKeys ext).Pairwise fun a b => order a ≤ order b) :
    ¬ ∃ S earlier next, Crossing ext hashtext writers S earlier next := by
  rintro ⟨S, earlier, next, h⟩
  refine not_standoff_of_injOn order ?_ ?_ h.lists
  · rintro a ⟨_, hkeys, ha⟩ b ⟨_, hkeys', hb⟩ heq
    obtain ⟨w, hw, rfl⟩ := List.mem_map.mp hkeys
    obtain ⟨w', hw', rfl⟩ := List.mem_map.mp hkeys'
    exact hinj ⟨w, hw, ha⟩ ⟨w', hw', hb⟩ heq
  · intro keys hkeys
    obtain ⟨w, hw, rfl⟩ := List.mem_map.mp hkeys
    exact ordered_of_pairwise (fun _ => False) ((hsorted w hw).imp Or.inl) fun _ _ h => h.elim

/-- **Concurrent record transactions deadlock exactly when their relationship lists can cross**, for
    any number of transactions over any records; and two of them take the canonical rows they share
    in one order exactly when their records list them so. -/
theorem deadlock_free_iff_no_crossing (ext : Externals) (hashtext : String → Int)
    (hkinds : KindsApart ext.casts) (writers : List Writer) :
    ((∀ txs, Reachable (writers.map fun w => w.lockProgram ext hashtext) txs → ¬ Deadlocked txs) ↔
      ¬ ∃ S earlier next, Crossing ext hashtext writers S earlier next) ∧
    ∀ w ∈ writers, ∀ w' ∈ writers,
      (∀ a b, ¬ (ComesBefore (.relationship a) (.relationship b) (w.lockProgram ext hashtext) ∧
        ComesBefore (.relationship b) (.relationship a) (w'.lockProgram ext hashtext))) ↔
      ∀ a b, ¬ (ComesBefore a b (w.relationshipKeys ext) ∧
        ComesBefore b a (w'.relationshipKeys ext)) := by
  constructor
  -- A reachable deadlock is a standoff, and a standoff among these programs is a crossing.
  · have hiff : (∃ txs, Reachable (writers.map fun w => w.lockProgram ext hashtext) txs ∧
        Deadlocked txs) ↔ ∃ S earlier next, Crossing ext hashtext writers S earlier next := by
      rw [deadlock_iff_standoff]
      constructor
      · rintro ⟨S, held, next, h⟩
        exact crossing_of_standoff hkinds h
      · rintro ⟨S, earlier, next, h⟩
        obtain ⟨held, hstandoff⟩ := h.standoff
        exact ⟨S, held, _, hstandoff⟩
    rw [← hiff]
    constructor
    · rintro hfree ⟨txs, hreach, hdead⟩
      exact hfree txs hreach hdead
    · intro hnone txs hreach hdead
      exact hnone ⟨txs, hreach, hdead⟩
  -- Pairwise: the program orders two relationships as the list of keys does.
  · intro w _ w' _
    simp only [comesBefore_lockProgram]

end Crossings

/-! ## Two artists with two relationships -/

/-- An artist with these relationships to another one: type and direction of each. -/
def artistRecord (mbid target : String) (relations : List (String × String)) : Json :=
  .obj [("mbid", .str mbid), ("name", .str "Artist"),
    ("relations", .arr (relations.map fun (type, direction) =>
      .obj [("target_mbid", .str target), ("target_type", .str "artist"), ("type", .str type),
        ("direction", .str direction)]))]

def firstArtist : Uuid := "11111111-1111-1111-1111-111111111111"

def secondArtist : Uuid := "22222222-2222-2222-2222-222222222222"

/-- The first artist's message. -/
def forwardMessage : Writer where
  kind := .artist
  record := artistRecord firstArtist secondArtist
    [("member of band", "forward"), ("collaboration", "forward")]
  gmItemId := none
  deleted := []

/-- The second artist's: the same two relationships, seen from the other end. -/
def backwardMessage (types : List String) : Writer where
  kind := .artist
  record := artistRecord secondArtist firstArtist (types.map fun type => (type, "backward"))
  gmItemId := none
  deleted := []

/-- The canonical row of both messages. -/
def sharedRow (type : String) : RelationshipKey where
  sourceMbid := firstArtist
  sourceEntityType := .str "artist"
  targetMbid := secondArtist
  targetEntityType := .str "artist"
  relationshipType := .str type
  attributes := .arr []
  beginDate := .null
  endDate := .null

/-- **The two endpoints list their relationships in opposite orders**, and each comes to wait for
    the other: both entity rows are upserted, each message then locks the row it lists first. -/
theorem two_endpoints_deadlock :
    (∃ txs, Reachable
        ([forwardMessage, backwardMessage ["collaboration", "member of band"]].map fun w =>
          w.lockProgram sampleExternals fun _ => 0) txs ∧ Deadlocked txs) ∧
      ComesBefore (.relationship (sharedRow "member of band"))
        (.relationship (sharedRow "collaboration"))
        (forwardMessage.lockProgram sampleExternals fun _ => 0) ∧
      ComesBefore (.relationship (sharedRow "collaboration"))
        (.relationship (sharedRow "member of band"))
        ((backwardMessage ["collaboration", "member of band"]).lockProgram sampleExternals
          fun _ => 0) := by
  -- The two programs, computed from the messages: the shared rows come in opposite orders.
  have hforward : forwardMessage.lockProgram sampleExternals (fun _ => 0) =
      [.entity .artist firstArtist, .relationship (sharedRow "member of band"),
        .relationship (sharedRow "collaboration")] := by
    decide +kernel
  have hbackward : (backwardMessage ["collaboration", "member of band"]).lockProgram sampleExternals
      (fun _ => 0) = [.entity .artist secondArtist, .relationship (sharedRow "collaboration"),
        .relationship (sharedRow "member of band")] := by
    decide +kernel
  simp only [List.map_cons, List.map_nil, hforward, hbackward]
  -- Each takes its own artist's row and the relationship it lists first; now each waits for the
  -- other's.
  refine ⟨⟨[
      ⟨[.entity .artist firstArtist, .relationship (sharedRow "member of band")],
        [.relationship (sharedRow "collaboration")]⟩,
      ⟨[.entity .artist secondArtist, .relationship (sharedRow "collaboration")],
        [.relationship (sharedRow "member of band")]⟩],
    ⟨[.acquire 0, .acquire 1, .acquire 0, .acquire 1], by decide +kernel⟩, 0, ?_⟩, ?_, ?_⟩
  · refine Relation.TransGen.head (b := 1) ?_ (Relation.TransGen.single ?_)
    · exact ⟨by decide, _, _, _, _, rfl, rfl, rfl, by simp⟩
    · exact ⟨by decide, _, _, _, _, rfl, rfl, rfl, by simp⟩
  · exact ⟨[.entity .artist firstArtist, .relationship (sharedRow "member of band")], by simp,
      by decide +kernel, by simp⟩
  · exact ⟨[.entity .artist secondArtist, .relationship (sharedRow "collaboration")], by simp,
      by decide +kernel, by simp⟩

/-- Listed in one order, they cannot. -/
theorem same_order_does_not_deadlock :
    ¬ ∃ txs, Reachable
      ([forwardMessage, backwardMessage ["member of band", "collaboration"]].map fun w =>
        w.lockProgram sampleExternals fun _ => 0) txs ∧ Deadlocked txs := by
  rintro ⟨txs, hreach, hdead⟩
  refine (deadlock_free_iff_no_crossing sampleExternals (fun _ => 0) ?_
    [forwardMessage, backwardMessage ["member of band", "collaboration"]]).1.mpr ?_ txs hreach hdead
  -- The sample's casts keep the kinds' names apart.
  · intro k k' stored h h'
    have hsame : Json.str k.entityType = Json.str k'.entityType :=
      (Option.some.inj h).trans (Option.some.inj h').symm
    cases k <;> cases k' <;> first | rfl | exact absurd hsame (by decide)
  -- Both lists follow one order, so no lists cross.
  · let order (key : RelationshipKey) : Nat := if key = sharedRow "member of band" then 0 else 1
    refine not_crossing_of_common_order order ?_ ?_
    · have hkeys : ∀ key,
          (∃ w ∈ [forwardMessage, backwardMessage ["member of band", "collaboration"]],
            key ∈ w.relationshipKeys sampleExternals) →
          key ∈ [sharedRow "member of band", sharedRow "collaboration"] := by
        rintro key ⟨w, hw, hkey⟩
        have hall : ∀ w ∈ [forwardMessage, backwardMessage ["member of band", "collaboration"]],
            w.relationshipKeys sampleExternals =
              [sharedRow "member of band", sharedRow "collaboration"] := by
          decide +kernel
        rw [← hall w hw]
        exact hkey
      intro a ha b hb heq
      rcases List.mem_pair.mp (hkeys a ha) with rfl | rfl
      · rcases List.mem_pair.mp (hkeys b hb) with rfl | rfl
        · rfl
        · exact absurd heq (by decide +kernel)
      · rcases List.mem_pair.mp (hkeys b hb) with rfl | rfl
        · exact absurd heq (by decide +kernel)
        · rfl
    · decide +kernel

end LockOrder

end Records
