import S1Client.Steps
import S1Client.SlotMap
import S1Client.Registry
import S1Client.Logs
import S1Client.Region
import S1Client.Narrowing
import S1Client.Deferred
import S1Client.Pursuit
import S1Client.Cursor
import S1Client.Reader
import S1Client.Base128
import S1Client.Tagged
import S1Client.Codecs
import S1Client.Countdown
import S1Client.Protocol
import S1Client.RecvWorker
import S1Client.Framing
import S1Client.Decoding
import S1Client.BufferCursor
import S1Client.RoundTrip
import S1Client.SendBuffer
import S1Client.SendWorker
import S1Client.SendLoop
import S1Client.Actors
import S1Client.GameInstance
import S1Client.Text
import S1Client.Connection
import S1Client.Effects
import S1Client.Lobby
import S1Client.PacketHandler
import S1Client.Invariants
import S1Client.Faults
import S1Client.MoveMap
import S1Client.Despawning
import S1Client.EnemyIds
import S1Client.RoomClearing
import S1Client.RoomRequests
import S1Client.WorldRegistry
import S1Client.LocalPlayer
import S1Client.Ticks
import S1Client.Interpolation
import S1Client.Identity
import S1Client.Presence
import S1Client.History
import S1Client.RoomChange
import S1Client.LeaveGame
import S1Client.Steering
import S1Client.Score
import S1Client.Atomicity
import S1Client.Utf8
import S1Client.WireFormat
import S1Client.UnknownFields
import S1Client.FieldTypes
import S1Client.Messages
import S1Client.MessageLite
import S1Client.Payloads
import S1Client.GameThread
import S1Client.PacketSizes
import S1Client.Client
import S1Client.Outgoing
import S1Client.ClientFaults
import S1Client.Delivery
import S1Client.MoveRate
