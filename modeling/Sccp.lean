import Sccp.Safety.Addressing
import Sccp.Safety.Audio
import Sccp.Safety.BridgeOwner
import Sccp.Safety.CallSwitching
import Sccp.Safety.CallbackUpdates
import Sccp.Safety.CaptureStreams
import Sccp.Safety.CodecMutation
import Sccp.Safety.ConferenceListing
import Sccp.Safety.DndSchedule
import Sccp.Safety.DndText
import Sccp.Safety.Enbloc
import Sccp.Safety.Features
import Sccp.Safety.ForwardingEntry
import Sccp.Safety.GatewayPolicy
import Sccp.Safety.HangupRollback
import Sccp.Safety.InboundOffers
import Sccp.Safety.Includes
import Sccp.Safety.Inheritance
import Sccp.Safety.MediaAnchors
import Sccp.Safety.MobilityInstances
import Sccp.Safety.MusicRuns
import Sccp.Safety.NoAnswer
import Sccp.Safety.ParkingSettlement
import Sccp.Safety.ParticipantIndexes
import Sccp.Safety.Party
import Sccp.Safety.PortAllocator
import Sccp.Safety.QosRuns
import Sccp.Safety.Realtime
import Sccp.Safety.Reconfigure
import Sccp.Safety.RegisterLayout
import Sccp.Safety.Registration
import Sccp.Safety.Reload
import Sccp.Safety.ResourceBinding
import Sccp.Safety.SerialOwners
import Sccp.Safety.SipStack
import Sccp.Safety.Sorcery
import Sccp.Safety.StationTexts
import Sccp.Safety.Tokens
import Sccp.Safety.TransferStart
