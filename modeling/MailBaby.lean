import MailBaby.Lib.Eff
import MailBaby.Lib.Transition
import MailBaby.Lib.Wildcard
import MailBaby.Config
import MailBaby.Sender.Email
import MailBaby.World
import MailBaby.Queue.Registry
import MailBaby.Driver.Kafka
import MailBaby.Driver.Memory
import MailBaby.Driver.NATS
import MailBaby.Driver.Pulsar
import MailBaby.Driver.RabbitMQ
import MailBaby.Driver.Redis
import MailBaby.Driver.RocketMQ
import MailBaby.Driver.SQS
import MailBaby.Runtime.Engine
import MailBaby.App
import MailBaby.Proofs.Retry
import MailBaby.Proofs.Pipeline
import MailBaby.Proofs.AtLeastOnce
import MailBaby.Driver.Redelivery
import MailBaby.Proofs.Shutdown
import MailBaby.Proofs.Redelivery
import MailBaby.Proofs.Requeue
import MailBaby.Proofs.Routing
import MailBaby.Proofs.DeadLetters
import MailBaby.Proofs.RedisEnvelope
import MailBaby.Lib.Threads
import MailBaby.Queue.Settlement
import MailBaby.Proofs.Settlement
import MailBaby.Sender.Pool
import MailBaby.Proofs.Pool
import MailBaby.Driver.MemoryQueue
import MailBaby.Proofs.DelayedPublish
import MailBaby.Runtime.Lifecycle
import MailBaby.Proofs.Lifecycle
import MailBaby.Proofs.StopReturns
import MailBaby.Lib.Encoding
import MailBaby.Lib.Json
import MailBaby.Lib.Unmarshal
import MailBaby.Proofs.ListIngestion
import MailBaby.Lib.Mime
import MailBaby.Lib.MimeRoundTrip
import MailBaby.Sender.Mime
import MailBaby.Proofs.Mime
import MailBaby.Proofs.MimeRoundTrip
import MailBaby.Driver.Broker
import MailBaby.Proofs.Brokers
import MailBaby.Lib.Timestamp
import MailBaby.Lib.Marshal
import MailBaby.Auth
import MailBaby.Proofs.Auth
import MailBaby.Handler.Email
import MailBaby.Rpc.Server
import MailBaby.SendApi
import MailBaby.Proofs.SendApi
import MailBaby.Driver.MemoryConsumer
import MailBaby.Proofs.DrainedClose
import MailBaby.Runtime.Invocations
import MailBaby.Proofs.Accounting
import MailBaby.Handler.RateLimit
import MailBaby.Proofs.RateLimit
import MailBaby.Metrics
import MailBaby.Proofs.Labels
import MailBaby.Lib.Regex
import MailBaby.Logger
import MailBaby.Proofs.Redaction
import MailBaby.Proofs.Tracing
import MailBaby.Proofs.Batches
import MailBaby.Proofs.Headers
import MailBaby.Lib.Address
import MailBaby.Smtp
import MailBaby.Sender.Account
import MailBaby.Proofs.Accounts
import MailBaby.Lib.AddressSyntax
import MailBaby.Proofs.Sending
import MailBaby.Lib.DisplayNames
import MailBaby.Proofs.FromHeader
import MailBaby.Lib.Int64
import MailBaby.Proofs.Backoff
import MailBaby.Proofs.RetryBudget
import MailBaby.Proofs.Statistics
import MailBaby.Proofs.Consumers
import MailBaby.Lib.History
import MailBaby.Proofs.Reuse
import MailBaby.Lib.Attempt
import MailBaby.Sender.Client
import MailBaby.Lib.Fold
import MailBaby.Proofs.Credentials
import MailBaby.Lib.Wire
import MailBaby.Proofs.LineLimit
import MailBaby.Sender.EmailJson
import MailBaby.Proofs.SizeLimit
import MailBaby.Handler.Gate
import MailBaby.Proofs.LimiterState
import MailBaby.Proofs.RetryAfter
import MailBaby.Lib.Unique
import MailBaby.Proofs.Recipients
import MailBaby.Logger.Async
import MailBaby.Proofs.Flush
import MailBaby.Driver.MemoryPublish
import MailBaby.Proofs.Isolation
import MailBaby.Driver.MemoryTraffic
import MailBaby.Lib.Ledger
import MailBaby.Proofs.TrafficSteps
import MailBaby.Proofs.Conservation
import MailBaby.Proofs.EndedContext
import MailBaby.Proofs.DelayedClose
import MailBaby.Proofs.RequeueDeadlock
import MailBaby.Sender.Batch
import MailBaby.Proofs.BatchSteps
import MailBaby.Proofs.BatchCalls
import MailBaby.Proofs.BatchTotals
import MailBaby.Proofs.PoolCalls
import MailBaby.Proofs.BatchPools
import MailBaby.Proofs.BatchProgress
import MailBaby.Proofs.ExactBatches
import MailBaby.Driver.Backoff
import MailBaby.Proofs.ReceiveBackoff
import MailBaby.Metrics.PushGateway
import MailBaby.Proofs.PushGateway
import MailBaby.Metrics.StatsD
import MailBaby.Proofs.StatsD
import MailBaby.Proofs.HeaderText
import MailBaby.Proofs.LogLines
import MailBaby.Proofs.Transaction
