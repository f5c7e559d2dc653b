import WebRtc.Dcsctp.Packet.ChunkValidators
import WebRtc.Dcsctp.System.OrderedDelivery
import WebRtc.Dcsctp.Socket.AdvertisedWindow
import WebRtc.Dcsctp.Socket.StateMachine
import WebRtc.Dcsctp.Socket.PacketSizes
import WebRtc.Dcsctp.Socket.ShutdownData
import WebRtc.Dcsctp.System.ForwardTsn
import WebRtc.Dcsctp.System.LifecycleEvents
import WebRtc.Dcsctp.System.MessageRanges
import WebRtc.Dcsctp.Socket.HandoverMessages
import WebRtc.Dcsctp.Socket.RepeatedRequests
import WebRtc.VideoCoding.Vp9References
import WebRtc.VideoCoding.PaddingRuns
import WebRtc.Pacing.PacketLifetime
import WebRtc.Pacing.QueueRuns
import WebRtc.Pc.JsepTransportCollection
import WebRtc.Stun.MessageIntegrity
import WebRtc.Stun.DictionaryWriter
import WebRtc.Stun.DictionaryView
import WebRtc.VideoCoding.PacketBufferRuns
import WebRtc.VideoCoding.FrameBufferRuns
import WebRtc.VideoCoding.FrameDependencies
import WebRtc.VideoCoding.SimulcastRateAllocator
import WebRtc.Call.DemuxerRuns
import WebRtc.CommonVideo.H264
import WebRtc.Rtp.RtpFormat
import WebRtc.Rtp.FlexfecHeader
import WebRtc.Rtp.TransportFeedback
import WebRtc.Rtp.ReceiveStatistics
import WebRtc.CongestionControl.FeedbackAttribution
import WebRtc.CongestionControl.FeedbackTracker
import WebRtc.P2p.PingRotation
import WebRtc.P2p.ConnectionRanking
import WebRtc.Numerics.SeqNumModulus
