import SeamlessServer.Agency.Whereabouts
import SeamlessServer.Agency.Departures
import SeamlessServer.Agency.Listening
import SeamlessServer.Agency.Delivery
import SeamlessServer.Agency.Records
import SeamlessServer.Agency.Refused
import SeamlessServer.Agency.Snapshot
import SeamlessServer.Concurrent.LinearWorkQueue
import SeamlessServer.Engine.Assertions
import SeamlessServer.Engine.CloseRequest
import SeamlessServer.Engine.Cleanness
import SeamlessServer.Engine.Credentials
import SeamlessServer.Engine.Dispatch
import SeamlessServer.Engine.Heartbeats
import SeamlessServer.Engine.Isolation
import SeamlessServer.Engine.Loopback
import SeamlessServer.Engine.LoopbackDecoder
import SeamlessServer.Engine.Malformed
import SeamlessServer.Engine.OnTick
import SeamlessServer.Engine.Ordering
import SeamlessServer.Engine.ReadBuffers
import SeamlessServer.Engine.Resolution
import SeamlessServer.Engine.Shutdown
import SeamlessServer.Engine.Unregistering
import SeamlessServer.Control.Handshake
import SeamlessServer.Control.Membership
import SeamlessServer.Control.SectorOwners
import SeamlessServer.Game.Answers
import SeamlessServer.Game.Chase
import SeamlessServer.Game.Authority
import SeamlessServer.Game.Connected
import SeamlessServer.Game.Cooldown
import SeamlessServer.Game.DeadReckoning
import SeamlessServer.Game.GrayZone
import SeamlessServer.Game.MoveRequests
import SeamlessServer.Game.PostingHistory
import SeamlessServer.Game.Registrations
import SeamlessServer.Game.Links
import SeamlessServer.Game.SectorLookup
import SeamlessServer.Memory.IntrusivePtr
import SeamlessServer.Memory.ObjectPool
import SeamlessServer.Network.AcceptSlots
import SeamlessServer.Network.StreamPlaces
import SeamlessServer.Play.ObjectIds
import SeamlessServer.Play.Worker
import SeamlessServer.Supervisor.Balance
import SeamlessServer.Supervisor.Reissue
