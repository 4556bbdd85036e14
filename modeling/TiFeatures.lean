import TiFeatures.CircularBuffer
import TiFeatures.Config
import TiFeatures.Library.Arrays
import TiFeatures.Library.Layout
import TiFeatures.Library.Mealy
import TiFeatures.Library.Window
import TiFeatures.MemoryPool
import TiFeatures.Stats
import TiFeatures.Packet
import TiFeatures.State
import TiFeatures.Basic
import TiFeatures.Behavior
import TiFeatures.Iat
import TiFeatures.Protocol
import TiFeatures.Payload
import TiFeatures.Burst
import TiFeatures.Sequence
import TiFeatures.FreqDomain
import TiFeatures.Store
import TiFeatures.Traffic
import TiFeatures.PoolLayout
import TiFeatures.StoreContents
import TiFeatures.StoreAccess
import TiFeatures.StoreUpgrade
import TiFeatures.Accesses
import TiFeatures.Reachable
import TiFeatures.Bounds
import TiFeatures.Tiers
import TiFeatures.Streams
import TiFeatures.Calls
import TiFeatures.Rings
import TiFeatures.UpgradeLoss
import TiFeatures.Directions
import TiFeatures.Gaps
import TiFeatures.Alignment
import TiFeatures.Groups
import TiFeatures.Gates
import TiFeatures.Independence
import TiFeatures.Collection
import TiFeatures.Masters
import TiFeatures.Arithmetic
import TiFeatures.Coupling
import TiFeatures.Library.Ledger
import TiFeatures.Lifecycle
import TiFeatures.Slots
import TiFeatures.WindowRates
import TiFeatures.Bitrates
import TiFeatures.Bursts
import TiFeatures.BurstDivisions
import TiFeatures.BurstTimes
import TiFeatures.Conservation
import TiFeatures.ActiveTime
import TiFeatures.LogIats
import TiFeatures.Headers
import TiFeatures.BoundedQueue
import TiFeatures.PoolRuns
import TiFeatures.Library.Marks
import TiFeatures.Keys
import TiFeatures.Samples
import TiFeatures.Summaries
import TiFeatures.Library.Moments
import TiFeatures.Moments
import TiFeatures.PayloadBytes
import TiFeatures.Windows
import TiFeatures.Histogram
import TiFeatures.WindowCopies
import TiFeatures.Squares
import TiFeatures.Responses
import TiFeatures.TimeRanges
import TiFeatures.Guards
import TiFeatures.Schema
import TiFeatures.Library.OrderStatistics
import TiFeatures.Quartiles
import TiFeatures.SizeClasses
import TiFeatures.TcpStreams
import TiFeatures.Exchanges
import TiFeatures.Chunks
import TiFeatures.Rates
import TiFeatures.LayerSplit
import TiFeatures.Library.Rounding
import TiFeatures.Library.Texts
import TiFeatures.Formatting
import TiFeatures.Lossless
import TiFeatures.RunLengths
import TiFeatures.Library.Phrases
import TiFeatures.Phrases
import TiFeatures.Library.Covariance
import TiFeatures.Correlations
import TiFeatures.Autocorrelations
import TiFeatures.Library.Selection
import TiFeatures.TopK
import TiFeatures.FftMoments
import TiFeatures.Library.Interpolation
import TiFeatures.Medians
import TiFeatures.Library.Custody
import TiFeatures.Library.Dependents
import TiFeatures.Bridges
import TiFeatures.Means
import TiFeatures.Library.Exchange
import TiFeatures.BigramRanks
import TiFeatures.Library.Tenants
import TiFeatures.Isolation
import TiFeatures.Lockstep
import TiFeatures.ClockShift
import TiFeatures.Kafka
import TiFeatures.Plugin
import TiFeatures.CompoundFlags
import TiFeatures.Library.Pairing
import TiFeatures.Mirror
import TiFeatures.MirrorOutput
import TiFeatures.Library.Postbox
import TiFeatures.ServerNames
import TiFeatures.Library.Entropy
import TiFeatures.Entropies
import TiFeatures.Library.Plane
import TiFeatures.Spectra
