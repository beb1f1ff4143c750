import SoftAp.KeyTable.File
import SoftAp.Main
import SoftAp.Proofs.Admission
import SoftAp.Proofs.BandFlags
import SoftAp.Proofs.ClientSearch
import SoftAp.Proofs.Companion
import SoftAp.Proofs.Disconnection
import SoftAp.Proofs.DryRun
import SoftAp.Proofs.EmptyRecords
import SoftAp.Proofs.FailedRequest
import SoftAp.Proofs.FanOut
import SoftAp.Proofs.FrequencyList
import SoftAp.Proofs.GroupRemoval
import SoftAp.Proofs.Handshake
import SoftAp.Proofs.KeyManagement
import SoftAp.Proofs.LinkCalls
import SoftAp.Proofs.LinkRemoval
import SoftAp.Proofs.LogTime
import SoftAp.Proofs.OperatingWidth
import SoftAp.Proofs.OptionValues
import SoftAp.Proofs.PhaseVisits
import SoftAp.Proofs.Refusals
import SoftAp.Proofs.RoundTrip
import SoftAp.Proofs.SecondaryChannel
import SoftAp.Proofs.SetupReports
import SoftAp.Proofs.SharedFiles
import SoftAp.Proofs.StartupOrder
import SoftAp.Proofs.Teardown
import SoftAp.Proofs.TrailingOnes
import SoftAp.Testbed.Basic
import SoftAp.Testbed.Rigged
