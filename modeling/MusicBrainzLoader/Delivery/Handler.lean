/-
  `_handle_data_message`, from the body of a delivery to its first await.

  The order of the checks is the code's: the body is decoded; the type's completion and grace timer are
  withdrawn unless the message is a control message; the two control messages are handled; what is left
  is a record, whose `id` must be there, not be empty and name a UUID, and whose type must have a
  processor.  Each check that fails rejects the delivery and marks the type's reconciliation.

  `orjson.loads` is a parameter.  It decodes any JSON value, and `data.get` needs an object.

  What an error says is part of the code, and stands here with the check that raises it.  A body
  that decodes to something other than an object is an error of another kind: `data.get` raises it,
  before any check of the code's own, and nothing in the handler catches it.  So such a delivery is
  not rejected here and leaves no mark; it goes to the classifier, which knows the error as neither
  transient nor permanent.

  The equivalence (`undeliverable_rejected_iff`) is over all bodies, decoded or not, so it is proved
  from the handler's cases and not from a list of bad bodies: for each way a body can be
  undeliverable, what the handler comes to.
-/
import MusicBrainzLoader.Broker.Machine
import MusicBrainzLoader.Delivery.Budget
import MusicBrainzLoader.Lib.Uuid
import MusicBrainzLoader.Purge.Object
import MusicBrainzLoader.Records.Database

namespace Delivery

open Purge (DataType StaleChildRowPurge)
open Records (EntityKind)

/-! ## The handler -/

/-- `orjson.loads`: the value, or the name of the error's type. -/
abbrev Loads := ByteArray → Except String Json

/-- `DeliveryResult`. -/
structure DeliveryResult where
  settlement : Settlement
  outcome : String
  errorType : Option String := none
deriving DecidableEq, Repr

/-- The globals the handler reads and writes. -/
structure Service where
  broker : Broker.State := {}
  staleRowPurge : Option StaleChildRowPurge := none
  connectionPool : Bool := true
  writeAdmission : Bool := true

/-- What a call comes to: its end, or its first await. -/
inductive Handled where
  | returned (result : DeliveryResult)
  | raised (error : Error)
  /-- It awaits `_reconcile_deleted_child_rows`. -/
  | reconciling (data : Json)
  /-- It awaits a slot, and then runs the processor in a transaction. -/
  | processing (kind : EntityKind) (data : Json)
deriving DecidableEq

/-- `PROCESSORS`, by the kind each of them upserts. -/
def PROCESSORS (dataType : DataType) : Option EntityKind :=
  if dataType = "artists" then some .artist
  else if dataType = "labels" then some .label
  else if dataType = "release-groups" then some .releaseGroup
  else if dataType = "releases" then some .release
  else none

/-- `uuid.UUID(value)`: anything but a string raises an `AttributeError`. -/
def uuidOf (value : Json) : Option Int := value.asStr?.bind Uuid.parse

/-- `_reject`: the mark is made before the result is returned. -/
def reject (s : Service) (dataType : DataType) (errorType : String) : Service × Handled :=
  ({ s with staleRowPurge := s.staleRowPurge.map (·.recordDeadLetter dataType) },
    .returned { settlement := .reject, outcome := "failed", errorType := some errorType })

/-- The record path, up to the slot. -/
def handleRecord (s : Service) (dataType : DataType) (data : Json) : Service × Handled :=
  if !data.has "id" then reject s dataType "ValidationError"
  else if !(data.get "id").truthy then reject s dataType "ValidationError"
  else if (uuidOf (data.get "id")).isNone then reject s dataType "ValidationError"
  else match PROCESSORS dataType with
    | none => reject s dataType "UnknownEntity"
    | some kind =>
      if !s.connectionPool then (s, .raised { name := "RuntimeError" })
      else if !s.writeAdmission then (s, .raised { name := "RuntimeError" })
      else (s, .processing kind data)

/-- The completion and the grace timer of the message's type. -/
def Service.bookkeeping (s : Service) (delay : Nat) (dataType : DataType) (message : Broker.Message) :
    Service :=
  { s with broker := Broker.handleDataMessage delay s.broker dataType message }

/-- `_handle_data_message` up to its first await; `delay` is `CONSUMER_CANCEL_DELAY`. -/
def handleDataMessage (loads : Loads) (delay : Nat) (s : Service) (body : ByteArray)
    (dataType : DataType) : Service × Handled :=
  match loads body with
  | .error errorType => reject s dataType errorType
  | .ok data =>
    -- `data.get("type")` is the first thing read, and only an object has it.
    if !data.isObj then (s, .raised { name := "AttributeError" })
    else if data.get "type" = .str "file_complete" then
      (s.bookkeeping delay dataType .fileComplete, .returned { settlement := .ack, outcome := "skipped" })
    else if data.get "type" = .str "extraction_complete" then
      (s.bookkeeping delay dataType .extractionComplete, .reconciling data)
    else handleRecord (s.bookkeeping delay dataType .record) dataType data

/-! ## What cannot be delivered -/

/-- A control message. -/
def isControl (data : Json) : Bool :=
  decide (data.get "type" = .str "file_complete" ∨ data.get "type" = .str "extraction_complete")

/-- An `id` that is there, is not empty and names a UUID. -/
def NamesUuid (data : Json) : Prop :=
  ∃ id, data.get "id" = .str id ∧ id ≠ "" ∧ (Uuid.parse id).isSome

/-- **A body that no processor can take**: it is not JSON; or no object; or an object that is no control
    message and has no usable `id`, or whose type has no processor. -/
inductive Undeliverable (loads : Loads) (body : ByteArray) (dataType : DataType) : Prop where
  | undecodable (errorType : String) (h : loads body = .error errorType)
  | notObject (data : Json) (h : loads body = .ok data) (hvalue : data.isObj = false)
  | invalid (data : Json) (h : loads body = .ok data) (hobject : data.isObj = true)
      (hrecord : isControl data = false) (hid : ¬ NamesUuid data ∨ PROCESSORS dataType = none)

/-- Rejected at once, with the veto first: the call returns REJECT, and the purge, if there is one, has
    the type's mark. -/
def RejectedWithVeto (s : Service) (dataType : DataType) (r : Service × Handled) : Prop :=
  (∃ outcome errorType,
      r.2 = .returned { settlement := .reject, outcome, errorType := some errorType }) ∧
    r.1.staleRowPurge = s.staleRowPurge.map (·.recordDeadLetter dataType)

/-- The body decodes to an object, if it decodes to anything. -/
def ObjectOrUndecodable (loads : Loads) (body : ByteArray) : Prop :=
  ∀ data, loads body = .ok data → data.isObj = true

/-! ## Rejections -/

section Rejections

variable {loads : Loads} {delay : Nat} {s : Service} {body : ByteArray} {dataType : DataType}

theorem reject_rejected (s : Service) (dataType : DataType) (errorType : String) :
    RejectedWithVeto s dataType (reject s dataType errorType) :=
  ⟨⟨"failed", errorType, rfl⟩, rfl⟩

theorem uuidOf_str (id : String) : uuidOf (.str id) = Uuid.parse id := by
  have hstr : (Json.str id).asStr? = some id := rfl
  unfold uuidOf
  rw [hstr, Option.bind_some]

/-- The three checks of an `id` come to this. -/
theorem namesUuid_iff {data : Json} :
    NamesUuid data ↔ data.has "id" = true ∧ (data.get "id").truthy = true ∧
      (uuidOf (data.get "id")).isSome = true := by
  constructor
  · rintro ⟨id, hid, hne, huuid⟩
    refine ⟨?_, ?_, ?_⟩
    -- `"id" in data`: a member that is read as a string is there.
    · cases data with
      | obj members =>
        show (members.lookup "id").isSome = true
        have hread : (members.lookup "id").getD .null = .str id := hid
        cases hmember : members.lookup "id" with
        | none =>
          rw [hmember] at hread
          cases hread
        | some value => rfl
      | _ => cases hid
    · rw [hid]
      exact bne_iff_ne.mpr hne
    · rw [hid, uuidOf_str]
      exact huuid
  · rintro ⟨-, htruthy, huuid⟩
    -- Only a string can be a UUID, and a truthy one is not empty.
    cases hid : data.get "id" with
    | str id =>
      rw [hid] at htruthy huuid
      rw [uuidOf_str] at huuid
      exact ⟨id, hid, bne_iff_ne.mp htruthy, huuid⟩
    | _ =>
      rw [hid] at huuid
      cases huuid

/-- A record without a usable `id`, or of a type without a processor, is rejected. -/
theorem handleRecord_rejected {data : Json} (h : ¬ NamesUuid data ∨ PROCESSORS dataType = none) :
    RejectedWithVeto s dataType (handleRecord s dataType data) := by
  unfold handleRecord
  split
  · exact reject_rejected s dataType _
  rename_i hmember
  split
  · exact reject_rejected s dataType _
  rename_i htruthy
  split
  · exact reject_rejected s dataType _
  rename_i huuid
  -- All three checks passed, so it is the processor that is missing.
  have hnames : NamesUuid data :=
    namesUuid_iff.mpr ⟨by simpa using hmember, by simpa using htruthy,
      Option.isSome_iff_ne_none.mpr fun hnone => huuid (Option.isNone_iff_eq_none.mpr hnone)⟩
  rcases h with hunnamed | hprocessor
  · exact absurd hnames hunnamed
  · rw [hprocessor]
    exact reject_rejected s dataType _

/-- Where the body is no object, the call raises and the purge is left as it was. -/
theorem handleDataMessage_notObject {data : Json} (hloads : loads body = .ok data)
    (hvalue : data.isObj = false) :
    handleDataMessage loads delay s body dataType = (s, .raised { name := "AttributeError" }) := by
  unfold handleDataMessage
  rw [hloads]
  show (if (!data.isObj) = true then _ else _) = _
  rw [hvalue]
  rfl

theorem handleDataMessage_undecodable {errorType : String} (hloads : loads body = .error errorType) :
    handleDataMessage loads delay s body dataType = reject s dataType errorType := by
  unfold handleDataMessage
  rw [hloads]

/-- A record reaches the record path, with its completion and timer withdrawn. -/
theorem handleDataMessage_record {data : Json} (hloads : loads body = .ok data)
    (hobject : data.isObj = true) (hrecord : isControl data = false) :
    handleDataMessage loads delay s body dataType =
      handleRecord (s.bookkeeping delay dataType .record) dataType data := by
  obtain ⟨hfile, hextraction⟩ := not_or.mp (of_decide_eq_false hrecord)
  unfold handleDataMessage
  rw [hloads]
  show (if (!data.isObj) = true then _ else if _ then _ else if _ then _ else _) = _
  have hread : ¬ (!data.isObj) = true := by rw [hobject]; exact Bool.false_ne_true
  rw [if_neg hread, if_neg hfile, if_neg hextraction]

/-- **An undeliverable body is rejected at once, with the veto first, exactly when it is not a JSON value
    other than an object.**  Those reach `data.get`, and raise. -/
theorem undeliverable_rejected_iff (h : Undeliverable loads body dataType) :
    RejectedWithVeto s dataType (handleDataMessage loads delay s body dataType) ↔
      ObjectOrUndecodable loads body := by
  cases h with
  -- Not JSON: rejected, and there is nothing to ask of its value.
  | undecodable errorType hloads =>
    rw [handleDataMessage_undecodable hloads]
    refine ⟨fun _ data hdata => ?_, fun _ => reject_rejected s dataType errorType⟩
    rw [hloads] at hdata
    cases hdata
  -- Not an object: it raises, so neither side holds.
  | notObject data hloads hvalue =>
    rw [handleDataMessage_notObject hloads hvalue]
    constructor
    · rintro ⟨⟨outcome, errorType, hreturned⟩, -⟩
      cases hreturned
    · intro hobject
      rw [hobject data hloads] at hvalue
      cases hvalue
  -- A record without a usable `id`, which is an object.
  | invalid data hloads hobject hrecord hid =>
    rw [handleDataMessage_record hloads hobject hrecord]
    refine ⟨fun _ value hvalue => ?_, fun _ => handleRecord_rejected hid⟩
    rw [hloads] at hvalue
    obtain rfl := Except.ok.inj hvalue
    exact hobject

end Rejections

/-- The bytes of `[]`. -/
def emptyArray : ByteArray := ⟨#[91, 93]⟩

/-- The bytes of an object without members. -/
def emptyObject : ByteArray := ⟨#[123, 125]⟩

/-- What `orjson.loads` does with the two. -/
def loadsEmpty : Loads := fun body =>
  if body.data = emptyArray.data then .ok (.arr [])
  else if body.data = emptyObject.data then .ok (.obj [])
  else .error "JSONDecodeError"

/-- What the handler raises on `[]` the classifier takes for a transient failure, for as long as there is
    budget left; nothing is marked. -/
theorem emptyArray_requeued :
    handleDataMessage loadsEmpty 0 { staleRowPurge := some {} } emptyArray "artists" =
        ({ staleRowPurge := some {} }, .raised { name := "AttributeError" }) ∧
      failureKind 499 { name := "AttributeError" } = .transient ∧
      ¬ ∀ (loads : Loads) (delay : Nat) (s : Service) (body : ByteArray) (dataType : DataType),
        Undeliverable loads body dataType →
          RejectedWithVeto s dataType (handleDataMessage loads delay s body dataType) := by
  refine ⟨rfl, by decide, fun hclaim => ?_⟩
  have hundeliverable : Undeliverable loadsEmpty emptyArray "artists" :=
    .notObject (.arr []) rfl rfl
  obtain ⟨⟨outcome, errorType, hreturned⟩, -⟩ :=
    hclaim loadsEmpty 0 { staleRowPurge := some {} } _ _ hundeliverable
  cases hreturned

/-- An object without an `id` is rejected, and its type marked. -/
theorem emptyObject_rejected :
    RejectedWithVeto { staleRowPurge := some {} } "artists"
      (handleDataMessage loadsEmpty 0 { staleRowPurge := some {} } emptyObject "artists") := by
  have hloads : loadsEmpty emptyObject = .ok (.obj []) := rfl
  refine (undeliverable_rejected_iff (.invalid (.obj []) hloads rfl rfl (.inl ?_))).mpr ?_
  · rintro ⟨id, hid, -⟩
    cases hid
  · intro data hdata
    rw [hloads] at hdata
    obtain rfl := Except.ok.inj hdata
    rfl

end Delivery
