import HostCall.Main
import HostCall.Session
import HostCall.Proofs.Declaration
import HostCall.Proofs.Emission
import HostCall.Proofs.Identifier
import HostCall.Proofs.Checklist
import HostCall.Proofs.Assembly
import HostCall.Proofs.Pass
import HostCall.Proofs.MarshalIn
import HostCall.Proofs.Isolation
import HostCall.Proofs.Growth
import HostCall.Proofs.Policies
import HostCall.Proofs.Rollback
import HostCall.Proofs.Lookup
import HostCall.Proofs.Rearrangement
import HostCall.Proofs.Operations
import HostCall.Proofs.Events
import HostCall.Proofs.Requests
import HostCall.Proofs.Warning
import HostCall.Proofs.Execution
import HostCall.Proofs.Planning
import HostCall.Proofs.ObjectRecord
import HostCall.Proofs.DescriptorText
import HostCall.Proofs.DescriptorRoundTrip
import HostCall.Proofs.DeclaredNames
import HostCall.Proofs.Drafting
import HostCall.Proofs.DraftedEmission
import HostCall.Proofs.Acceptance
import HostCall.Proofs.Outcome
import HostCall.Proofs.TomlText
import HostCall.Proofs.TableRecord
import HostCall.Proofs.ConfigText
import HostCall.Proofs.ConfigWriting
import HostCall.Proofs.LocalUse
import HostCall.Proofs.LocalIdentifiers
import HostCall.Proofs.Repetition
import HostCall.Proofs.Resolution
import HostCall.Proofs.OverwrittenTables
import HostCall.Proofs.PassLog
import HostCall.Proofs.HandOff
import HostCall.Proofs.MissingField
import HostCall.Proofs.LiteralText
import HostCall.Proofs.Substitution
