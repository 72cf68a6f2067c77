import PerOxo.Lib.Machine
import PerOxo.Lib.Chan
import PerOxo.Lib.HashMap
import PerOxo.Lib.Clustered
import PerOxo.Lib.Latest
import PerOxo.Lib.Repeat
import PerOxo.Lib.Expiring
import PerOxo.Lib.Uuid
import PerOxo.Lib.UuidText
import PerOxo.Lib.Decimal
import PerOxo.Lib.Arena
import PerOxo.Lib.Cql
import PerOxo.Lib.Json
import PerOxo.ChatService.Migrations
import PerOxo.ChatService.Queries
import PerOxo.ChatService.Service
import PerOxo.ChatService.Conversations
import PerOxo.Chat
import PerOxo.Persistence
import PerOxo.Retry
import PerOxo.MongoDb
import PerOxo.Actors.State
import PerOxo.Actors.Router
import PerOxo.Actors.Room
import PerOxo.Actors.Session
import PerOxo.Actors.System
import PerOxo.Actors.Clocked
import PerOxo.Actors.Socket
import PerOxo.Proof.Registry
import PerOxo.Proof.OnlineUsers
import PerOxo.Proof.Parts
import PerOxo.Proof.Senders
import PerOxo.Proof.Isolation
import PerOxo.Proof.Membership
import PerOxo.Proof.Delivery
import PerOxo.Proof.Routing
import PerOxo.Proof.Acks
import PerOxo.Proof.Recipient
import PerOxo.Proof.Reads
import PerOxo.Proof.History
import PerOxo.Proof.Paging
import PerOxo.Proof.Partition
import PerOxo.Proof.OneConversation
import PerOxo.Proof.Stored
import PerOxo.Proof.Fate
import PerOxo.Proof.Sync
import PerOxo.Proof.Deployed
import PerOxo.Proof.LastWord
import PerOxo.Proof.Ids
import PerOxo.Proof.Spoofing
import PerOxo.Proof.Direct
import PerOxo.Proof.Joins
import PerOxo.Proof.TotalOrder
import PerOxo.Proof.Writes
import PerOxo.Proof.LastActivity
import PerOxo.Proof.Retries
import PerOxo.Proof.ConversationIndex
import PerOxo.Proof.RoomHistory
import PerOxo.Proof.Departed
import PerOxo.Proof.Leaving
import PerOxo.Proof.Pipelining
import PerOxo.Proof.MongoDb
import PerOxo.Proof.HasMore
import PerOxo.Proof.MongoOrder
import PerOxo.Proof.InboundFrames
import PerOxo.Proof.Integrity
import PerOxo.Proof.Live
import PerOxo.Proof.Drafts
import PerOxo.Proof.LiveOrder
import PerOxo.AuthService.Redis
import PerOxo.AuthService.Handlers
import PerOxo.AuthService.System
import PerOxo.AuthService.RateLimiter
import PerOxo.Proof.Tokens
import PerOxo.Proof.RateLimit
import PerOxo.RabbitConsumer.Handlers
import PerOxo.RabbitConsumer.Consumer
import PerOxo.Proof.Consumer
import PerOxo.Proof.RateLimitBound
import PerOxo.Proof.LimiterSteps
import PerOxo.Lib.Work
import PerOxo.Gateway
import PerOxo.Proof.Grants
import PerOxo.Proof.Admission
import PerOxo.Proof.Work
import PerOxo.Proof.Owed
import PerOxo.Proof.Rest
import PerOxo.Actors.Metrics
import PerOxo.Proof.Metrics
import PerOxo.AuthService.Tenants
import PerOxo.Proof.Quota
import PerOxo.Proof.ReadBack
import PerOxo.ChatService.Startup
import PerOxo.Proof.Startup
import PerOxo.Proof.Drained
