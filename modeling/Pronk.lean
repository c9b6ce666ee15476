import Pronk.Actor.Notices
import Pronk.BackendHost.Convergence
import Pronk.Capture.Chunking
import Pronk.Capture.Leaks
import Pronk.Capture.Timeline
import Pronk.CastDisplay.MutualWait
import Pronk.CastDisplay.PublicState
import Pronk.CastKms.CecTransmits
import Pronk.Chromiacast.Backend
import Pronk.Chromiacast.Negotiation
import Pronk.Chromiacast.SenderGenerations
import Pronk.Chromiacast.StopMedia
import Pronk.Chromiacast.VideoPath
import Pronk.DeviceSession.SingleSession
import Pronk.DisplaySetup.Sessions
import Pronk.Edid.Advertised
import Pronk.GrantHelper.Agreement
import Pronk.Manager.Acceptance
import Pronk.Manager.SlotClaims
import Pronk.MediaDriver.Ports
import Pronk.MediaGraph.Monotonic
import Pronk.MediaGraph.SegmentGaps
import Pronk.MediaPolicy.Attempts
import Pronk.MediaSession.Supersession
import Pronk.PipeWire.Reconnect
