import Herald.Main
import Herald.Text.Slug
import Herald.Journal.Subscriber
import Herald.Proofs.InstantOrder
import Herald.Proofs.KeyedOrder
import Herald.Proofs.RegistrySound
import Herald.Proofs.Roster
import Herald.Proofs.ServiceCall
import Herald.Proofs.Calendar
import Herald.Proofs.Digits
import Herald.Proofs.InstantText
import Herald.Proofs.JsonText
import Herald.Proofs.FileTree
import Herald.Proofs.PathParts
import Herald.Proofs.SnapshotText
import Herald.Proofs.FileMaking
import Herald.Proofs.SavedFile
import Herald.Proofs.StoreRecord
import Herald.Proofs.Flush
import Herald.Proofs.Follower
import Herald.Proofs.Uninterrupted
import Herald.Proofs.Persisting
import Herald.Proofs.Teardowns
import Herald.Proofs.Workers
import Herald.Proofs.Presence
import Herald.Proofs.Calm
import Herald.Proofs.Lifetime
import Herald.Proofs.Restart
import Herald.Proofs.CallGrammar
import Herald.Proofs.BackendAgreement
import Herald.Proofs.Crowd
import Herald.Proofs.Isolation
import Herald.Proofs.Reached
import Herald.Proofs.Alone
import Herald.Proofs.DirectCall
import Herald.Proofs.Layering
import Herald.Proofs.Accounts
import Herald.Proofs.SendCommand
import Herald.Proofs.ChatMarkup
import Herald.Proofs.Numbering
import Herald.Proofs.OtherVersions
import Herald.Proofs.RunningMaximum
import Herald.Proofs.PointwiseMaximum
import Herald.Proofs.Silence
import Herald.Proofs.Closing
import Herald.Proofs.Assembly
import Herald.Proofs.CommandCall
import Herald.Proofs.FeatureNames
import Herald.Proofs.Recency
import Herald.Proofs.EntryWriting
import Herald.Proofs.FieldDemand
import Herald.Proofs.Journaling
import Herald.Proofs.Escaping
import Herald.Proofs.Slugs
import Herald.Proofs.Acceptance
import Herald.Proofs.Addressing
