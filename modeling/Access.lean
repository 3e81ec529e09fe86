import Access.Authority
import Access.AuthorityClient
import Access.BaselineController
import Access.Cedar
import Access.ChaserAccess
import Access.Checked
import Access.Claims
import Access.CommercialDocking
import Access.Crates
import Access.Docking
import Access.Engine
import Access.EntitlementVerifier
import Access.FileReplayState
import Access.Observers
import Access.Peers
import Access.Protocol
import Access.ProtocolProfile
import Access.ReadinessMonitor
import Access.Reference
import Access.Runs
import Access.Session
import Access.SessionGateway
import Access.SessionGatewayHandler
import Access.StateMachine
import Access.StationAccess
import Access.Std.Cbor
import Access.Std.Checked
import Access.Std.Control
import Access.Std.Ensures
import Access.Std.Floats
import Access.Std.Json
import Access.Std.LineJournal
import Access.Std.Policies
import Access.Std.Python
import Access.Std.Run
import Access.Std.Saturating
import Access.Std.Table
import Access.Std.Text
import Access.Theory.StageLedger
import Access.Theory.Storage
import Access.TransitionChannel
import Access.Transitions
import Access.VerifierClient
import Access.Verify.Agreement
import Access.Verify.Authenticity
import Access.Verify.Authority
import Access.Verify.AuthorityClient
import Access.Verify.AuthorityRestarts
import Access.Verify.AuthorityTrust
import Access.Verify.BaselineController
import Access.Verify.Cedar
import Access.Verify.ChaserPresentations
import Access.Verify.Checked
import Access.Verify.Clock
import Access.Verify.CommercialDocking
import Access.Verify.Consumption
import Access.Verify.ControllerProgress
import Access.Verify.ControllerResets
import Access.Verify.CredentialProfiles
import Access.Verify.Credentials
import Access.Verify.Docking
import Access.Verify.DockingEvidence
import Access.Verify.EntitlementVerifier
import Access.Verify.Entitlements
import Access.Verify.Envelopes
import Access.Verify.Establishment
import Access.Verify.HandlerReturns
import Access.Verify.HardDock
import Access.Verify.Issuing
import Access.Verify.Lifetime
import Access.Verify.Observers
import Access.Verify.Peers
import Access.Verify.Presentations
import Access.Verify.Protocol
import Access.Verify.ProtocolProfile
import Access.Verify.Provenance
import Access.Verify.ReadinessMonitor
import Access.Verify.Readings
import Access.Verify.Redemptions
import Access.Verify.Release
import Access.Verify.ReplayCache
import Access.Verify.ReplayJournal
import Access.Verify.RequestBinding
import Access.Verify.Requests
import Access.Verify.Runs
import Access.Verify.Session
import Access.Verify.SessionGateway
import Access.Verify.SessionGatewayHandler
import Access.Verify.StageOrder
import Access.Verify.StationAccess
import Access.Verify.StationDecisions
import Access.Verify.StationReturns
import Access.Verify.StationRuns
import Access.Verify.StationStatus
import Access.Verify.TransitionChannel
import Access.Verify.Transitions
import Access.Verify.VerifierRuns
import Access.Verify.Windows
