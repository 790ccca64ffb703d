import RunnerGateway.Main
import RunnerGateway.Gateway.Service
import RunnerGateway.Log
import RunnerGateway.Proofs.Discipline
import RunnerGateway.Proofs.Conduct
import RunnerGateway.Proofs.Dict
import RunnerGateway.Proofs.Freshness
import RunnerGateway.Proofs.Routing
import RunnerGateway.Proofs.DecodedConfig
import RunnerGateway.Proofs.Persistence
import RunnerGateway.Proofs.Forms
import RunnerGateway.Proofs.NullMembers
import RunnerGateway.Proofs.Forwarding
import RunnerGateway.Proofs.Admission
import RunnerGateway.Proofs.Turns
import RunnerGateway.Proofs.Threads
import RunnerGateway.Proofs.Sequence
import RunnerGateway.Proofs.Answers
import RunnerGateway.Proofs.Rejection
import RunnerGateway.Proofs.Disabled
import RunnerGateway.Proofs.Confidentiality
import RunnerGateway.Proofs.BackendErrors
import RunnerGateway.Proofs.Numerals
import RunnerGateway.Proofs.Updating
import RunnerGateway.Proofs.Saving
import RunnerGateway.Proofs.Moments
import RunnerGateway.Proofs.Rounds
import RunnerGateway.Proofs.Origin
import RunnerGateway.Proofs.Entries
import RunnerGateway.Proofs.UnknownModels
import RunnerGateway.Proofs.Selection
import RunnerGateway.Proofs.Versions
import RunnerGateway.Proofs.Chats
import RunnerGateway.Proofs.Calendar
import RunnerGateway.Proofs.Timestamps
import RunnerGateway.Proofs.Rereading
import RunnerGateway.Proofs.Streaming
import RunnerGateway.Proofs.Pieces
import RunnerGateway.Proofs.Directories
import RunnerGateway.Proofs.Seeding
import RunnerGateway.Proofs.Trials
import RunnerGateway.Proofs.Locations
import RunnerGateway.Proofs.Opening
import RunnerGateway.Proofs.Overtaking
import RunnerGateway.Proofs.Privileges
import RunnerGateway.Proofs.Conveyance
