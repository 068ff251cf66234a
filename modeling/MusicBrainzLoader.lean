import MusicBrainzLoader.Lib.Table
import MusicBrainzLoader.Lib.Runs
import MusicBrainzLoader.Lib.Upsert
import MusicBrainzLoader.Lib.Amqp
import MusicBrainzLoader.Lib.Changes
import MusicBrainzLoader.Lib.Interleaving
import MusicBrainzLoader.Lib.Locking
import MusicBrainzLoader.Lib.Scopes
import MusicBrainzLoader.Lib.Iso8601
import MusicBrainzLoader.Lib.Latest
import MusicBrainzLoader.Lib.Uuid
import MusicBrainzLoader.Json
import MusicBrainzLoader.Purge.Object
import MusicBrainzLoader.Purge.Collection
import MusicBrainzLoader.Purge.Calls
import MusicBrainzLoader.Purge.Marks
import MusicBrainzLoader.Purge.Latch
import MusicBrainzLoader.Purge.Overlap
import MusicBrainzLoader.Records.Database
import MusicBrainzLoader.Records.Mapping
import MusicBrainzLoader.Records.Process
import MusicBrainzLoader.Records.Mirrored
import MusicBrainzLoader.Records.Nulls
import MusicBrainzLoader.Records.Ledger
import MusicBrainzLoader.Records.Redelivery
import MusicBrainzLoader.Records.NativeIds
import MusicBrainzLoader.Records.Media
import MusicBrainzLoader.Records.MediaGroups
import MusicBrainzLoader.Records.MediaRace
import MusicBrainzLoader.Records.Carried
import MusicBrainzLoader.Records.Reconciliation
import MusicBrainzLoader.Records.PurgeTables
import MusicBrainzLoader.Records.LockOrder
import MusicBrainzLoader.Records.Import
import MusicBrainzLoader.Records.Sent
import MusicBrainzLoader.Records.Positional
import MusicBrainzLoader.Service.Machine
import MusicBrainzLoader.Service.RecordedVeto
import MusicBrainzLoader.Service.LiveRows
import MusicBrainzLoader.Service.NextExtraction
import MusicBrainzLoader.Service.VetoCount
import MusicBrainzLoader.Broker.Machine
import MusicBrainzLoader.Broker.Coherence
import MusicBrainzLoader.Broker.Completion
import MusicBrainzLoader.Broker.Recovery
import MusicBrainzLoader.Broker.GraceTimers
import MusicBrainzLoader.Broker.Alarm
import MusicBrainzLoader.Broker.Subsiding
import MusicBrainzLoader.Broker.Restart
import MusicBrainzLoader.Lifecycle.Machine
import MusicBrainzLoader.Lifecycle.Retained
import MusicBrainzLoader.Lifecycle.Subscribed
import MusicBrainzLoader.Queues.Names
import MusicBrainzLoader.Queues.Declared
import MusicBrainzLoader.Service.FailedAttempt
import MusicBrainzLoader.Delivery.Budget
import MusicBrainzLoader.Delivery.Handler
import MusicBrainzLoader.Delivery.Identifier
import MusicBrainzLoader.Delivery.Admission
