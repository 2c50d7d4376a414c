import MeshStar.SecureChannel
import MeshStar.Node.IdentityBinding
import MeshStar.Node.ForwardingLaw
import MeshStar.Node.Rekeying
import MeshStar.NoiseEnvelope
import MeshStar.NoiseFailure
import MeshStar.Node.Recovery
import MeshStar.Node.SimultaneousOpen
import MeshStar.Node.Vouching
import MeshStar.Deduplication
import MeshStar.Node.LeafTransit
import MeshStar.Node.HostKnowledge
import MeshStar.Node.AdvertisementFairness
import MeshStar.Node.DiscoveryFailure
import MeshStar.Node.EnvelopeProgress
import MeshStar.Node.RefusedSend
import MeshStar.Node.WakeTime
import MeshStar.DutyCycle
import MeshStar.AwakeWindow
import MeshStar.Interop.Provenance
import MeshStar.Interop.Confinement
import MeshStar.Interop.MeshCore.Adverts
import MeshStar.HopConfirmation
import MeshStar.Interop.MeshCore.GroupText
import MeshStar.Interop.ScanSchedule
import MeshStar.BeaconSignature
import MeshStar.Node.HandshakeStart
import MeshStar.ZoneRuns
