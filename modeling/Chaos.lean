import Chaos.Runs
import Chaos.NumberedList
import Chaos.PriorityQueue
import Chaos.Service
import Chaos.ServiceLifecycle
import Chaos.BatchCommand
import Chaos.Sandbox
import Chaos.SandboxPlaces
import Chaos.SandboxEvents
import Chaos.Executor
import Chaos.CommandHistory
import Chaos.AppendStore
import Chaos.DataFile
import Chaos.StageScanner
import Chaos.WriteReports
import Chaos.StageBlocks
import Chaos.BlockSelection
import Chaos.BlockUpdates
import Chaos.FileRegistry
import Chaos.OrderedScan
import Chaos.IndexCursor
import Chaos.PagedReading
import Chaos.CursorPaging
import Chaos.Regions
import Chaos.ManagedMemory
import Chaos.SlabChunks
import Chaos.LinkedHeap
import Chaos.KeyValueHash
import Chaos.HashMapLaws
import Chaos.DirectIO
import Chaos.EndpointSlots
import Chaos.MessageRouting
import Chaos.LittleEndian
import Chaos.DirectIOWire
import Chaos.Decimals
import Chaos.Tokens
import Chaos.ByteOrder
import Chaos.DottedFields
import Chaos.SnapshotDatasets
import Chaos.SnapshotRoundTrip
import Chaos.SnapshotProducers
import Chaos.SocketWrites
import Chaos.HeaderEndianness
import Chaos.TrafficPaths
import Chaos.Regexes
import Chaos.DirectIOUrls
import Chaos.BufferAccess
import Chaos.EventAccesses
import Chaos.MessageIsolation
import Chaos.DeviceChannel
import Chaos.QueryFuture
import Chaos.QueryDelivery
import Chaos.OpenBlocks
import Chaos.StageBlockSize
import Chaos.WaitSemaphore
import Chaos.SyncRequests
import Chaos.EntityDB
import Chaos.BinaryHeap
import Chaos.CommonBuffer
import Chaos.BufferChain
import Chaos.BufferGarbage
import Chaos.BufferSafety
import Chaos.BufferDelivery
import Chaos.ServiceFeeder
import Chaos.FeederSlots
import Chaos.QueryEngine
import Chaos.QueryPacks
import Chaos.QueryAnswers
import Chaos.ConnectionManager
import Chaos.UniqueIndex
import Chaos.DomainRegistry
import Chaos.PutAccounting
import Chaos.DataWorker
import Chaos.Bson
import Chaos.QueryMessages
import Chaos.FutureWaiting
import Chaos.SnapshotDriver
import Chaos.SnapshotIsolation
import Chaos.QueryConnections
import Chaos.ConnectionRelease
import Chaos.DataBlockCache
import Chaos.BlockUseCounts
import Chaos.IndexStates
import Chaos.QuerableIndexes
import Chaos.SandboxNumbers
import Chaos.CommandStateAnswer
import Chaos.AlertEvents
import Chaos.AttributesCoherence
import Chaos.AttributeSlots
import Chaos.SandboxHeartbeats
import Chaos.SlabConservation
import Chaos.ProcessingFates
import Chaos.HandoverKept
import Chaos.CacheReferences
import Chaos.CacheRefusals
import Chaos.KeyGroupCache
import Chaos.KeyIndependence
import Chaos.HighResIterators
import Chaos.TrackerBuffers
import Chaos.TrackerReleases
import Chaos.RangeChecks
import Chaos.DriverAnswers
import Chaos.DriverSharing
import Chaos.UniqueUnits
import Chaos.ActionAnswers
import Chaos.RegistryAgreement
import Chaos.StreamFraming
import Chaos.ClientMessages
import Chaos.AttributeIndependence
import Chaos.CommandTimeout
import Chaos.FailedInstall
import Chaos.HistoryCapping
import Chaos.CommandIds
import Chaos.SandboxFrames
import Chaos.RuleTable
import Chaos.CheckerStop
import Chaos.StopNotification
import Chaos.DatasetPack
import Chaos.DatasetTables
import Chaos.DatasetReading
import Chaos.DatasetRebuild
import Chaos.DatasetRoundTrip
import Chaos.CommandFeatures
import Chaos.SubmissionOrder
import Chaos.QueryOrder
import Chaos.FileStream
import Chaos.BlockReads
import Chaos.DataPackScanner
import Chaos.ScanTurns
import Chaos.ScanDelivery
import Chaos.ScanBuffer
import Chaos.CircularBuffer
import Chaos.AttributeChange
import Chaos.ChangeAtomicity
import Chaos.DatasetPush
import Chaos.PublishedStrings
import Chaos.PushOnChange
import Chaos.UnitLifecycle
import Chaos.AccessorAccounts
import Chaos.ManagerShutdown
import Chaos.PropertyWrites
import Chaos.AttributeWrites
import Chaos.UniqueProperties
import Chaos.RoundRobin
import Chaos.ObjectSlot
import Chaos.SchemaWrites
import Chaos.SchemaQueries
import Chaos.ChildLookups
import Chaos.AttributeListings
import Chaos.QueryEffects
import Chaos.EventDispatching
import Chaos.SemaphoreKeys
import Chaos.RpcExchange
import Chaos.BSONObjects
import Chaos.DataWrapper
import Chaos.UnitServers
import Chaos.Pipelining
import Chaos.LiveDatasets
