import HuntersGuild.AccountConsistency
import HuntersGuild.Accounts
import HuntersGuild.AffineFamilies
import HuntersGuild.AfsArchives
import HuntersGuild.AsciiFields
import HuntersGuild.AttributeUpgrades
import HuntersGuild.BankAmounts
import HuntersGuild.BankConservation
import HuntersGuild.BankCounter
import HuntersGuild.BankOperations
import HuntersGuild.BattleLevelUps
import HuntersGuild.BattleMaps
import HuntersGuild.BattleRecordFiles
import HuntersGuild.BattleRecordStart
import HuntersGuild.BattleRecords
import HuntersGuild.BattleRules
import HuntersGuild.Bc0Compression
import HuntersGuild.Bc0Decompression
import HuntersGuild.BinaryScales
import HuntersGuild.BitCounts
import HuntersGuild.BlueBurstSession
import HuntersGuild.BoundedSearch
import HuntersGuild.ByteStreams
import HuntersGuild.CallTrace
import HuntersGuild.CappedGrowth
import HuntersGuild.CardPlacement
import HuntersGuild.ChallengeRankTexts
import HuntersGuild.ChallengeTimes
import HuntersGuild.ChannelFraming
import HuntersGuild.Channels
import HuntersGuild.CharacterFile
import HuntersGuild.CheckedLoops
import HuntersGuild.Checksums
import HuntersGuild.CipherDetection
import HuntersGuild.CipherFirstWord
import HuntersGuild.ColorEscapes
import HuntersGuild.CommonPrefix
import HuntersGuild.ComparatorSet
import HuntersGuild.Conversations
import HuntersGuild.DcSerialChecks
import HuntersGuild.DcSerialIteration
import HuntersGuild.DcSerialNumbers
import HuntersGuild.DcSerialTables
import HuntersGuild.DeckInvariants
import HuntersGuild.DeckOperations
import HuntersGuild.DeckPile
import HuntersGuild.DirectoryWalks
import HuntersGuild.DownloadQuests
import HuntersGuild.EditPaths
import HuntersGuild.EditScripts
import HuntersGuild.EnemyFloorLookups
import HuntersGuild.EnemySetLookups
import HuntersGuild.EquipFrame
import HuntersGuild.EquipInvariant
import HuntersGuild.EventItems
import HuntersGuild.ExceptionRules
import HuntersGuild.ExchangeAtomicity
import HuntersGuild.ExchangeCommands
import HuntersGuild.ExchangePayments
import HuntersGuild.ExchangeSteps
import HuntersGuild.ExperienceGains
import HuntersGuild.ExpressionGrammar
import HuntersGuild.ExpressionParsing
import HuntersGuild.ExpressionRoundTrip
import HuntersGuild.ExpressionScans
import HuntersGuild.FeistelNetwork
import HuntersGuild.FloorItemBookkeeping
import HuntersGuild.FloorItemRuns
import HuntersGuild.FloorItems
import HuntersGuild.ForwardRelaxation
import HuntersGuild.FuelLoop
import HuntersGuild.GslArchives
import HuntersGuild.HdlcClients
import HuntersGuild.HdlcFrames
import HuntersGuild.HdlcReassembly
import HuntersGuild.HdlcRoundTrip
import HuntersGuild.HeadCounts
import HuntersGuild.InterleavedStream
import HuntersGuild.InventoryConservation
import HuntersGuild.InventoryOperations
import HuntersGuild.InventorySorting
import HuntersGuild.IpRangeLookups
import HuntersGuild.IpRangeSets
import HuntersGuild.IpRangeTexts
import HuntersGuild.ItemDescriptions
import HuntersGuild.ItemEncoding
import HuntersGuild.ItemIds
import HuntersGuild.ItemParameterHistory
import HuntersGuild.ItemParameters
import HuntersGuild.ItemRoundTrip
import HuntersGuild.ItemStocks
import HuntersGuild.Items
import HuntersGuild.JsonValues
import HuntersGuild.KeyDetection
import HuntersGuild.KeyedLists
import HuntersGuild.KeyedTotals
import HuntersGuild.KnockoutBracket
import HuntersGuild.LazyCaches
import HuntersGuild.LevelTables
import HuntersGuild.Lobbies
import HuntersGuild.LobbyMoves
import HuntersGuild.MagEvolutions
import HuntersGuild.MagFeeding
import HuntersGuild.MagFeedingBounds
import HuntersGuild.MagGrowth
import HuntersGuild.MapStateEnemies
import HuntersGuild.MapStateFloors
import HuntersGuild.MapStateRares
import HuntersGuild.MapStates
import HuntersGuild.MesetaBounds
import HuntersGuild.MessageStreams
import HuntersGuild.MovementExactness
import HuntersGuild.MovementProgress
import HuntersGuild.MovementSearch
import HuntersGuild.MovementWalks
import HuntersGuild.NetworkFrames
import HuntersGuild.Numerals
import HuntersGuild.OrderedMaps
import HuntersGuild.PagedLayouts
import HuntersGuild.PatchSessions
import HuntersGuild.PileTracking
import HuntersGuild.PlacementLegality
import HuntersGuild.PositionalDigits
import HuntersGuild.PrimaryIdentifiers
import HuntersGuild.PrsCommands
import HuntersGuild.PrsCompression
import HuntersGuild.PrsDecoding
import HuntersGuild.PrsDecompression
import HuntersGuild.PrsEncoding
import HuntersGuild.PrsOptimality
import HuntersGuild.PrsStreaming
import HuntersGuild.PrsStreamingLogs
import HuntersGuild.PrsStreamingOutput
import HuntersGuild.PrsStreamingRoundTrip
import HuntersGuild.PsoBbEncryption
import HuntersGuild.PsoLfgEncryption
import HuntersGuild.QuestExpressions
import HuntersGuild.QuestFiles
import HuntersGuild.RandomPrograms
import HuntersGuild.RareItemSets
import HuntersGuild.RareRates
import HuntersGuild.RareTableArchives
import HuntersGuild.RareTableFiles
import HuntersGuild.RareTableRoundTrips
import HuntersGuild.ReversibleWalks
import HuntersGuild.RingBuffer
import HuntersGuild.SRankDescriptions
import HuntersGuild.SaveSections
import HuntersGuild.SaveShuffles
import HuntersGuild.ScatteredWrites
import HuntersGuild.Segments
import HuntersGuild.SequenceNumbers
import HuntersGuild.ShopCommands
import HuntersGuild.ShopDraws
import HuntersGuild.SlidingCopy
import HuntersGuild.SpecialExchange
import HuntersGuild.StatefulPrograms
import HuntersGuild.StringReaders
import HuntersGuild.SuperMapLinks
import HuntersGuild.SuperMaps
import HuntersGuild.TcpOptions
import HuntersGuild.TeamConsistency
import HuntersGuild.TeamFiles
import HuntersGuild.TeamMembers
import HuntersGuild.TeamReloads
import HuntersGuild.Teams
import HuntersGuild.TekkerAdjustments
import HuntersGuild.TextSets
import HuntersGuild.ThresholdClimbs
import HuntersGuild.TournamentAtomicity
import HuntersGuild.TournamentBracket
import HuntersGuild.TournamentOperations
import HuntersGuild.TournamentPersistence
import HuntersGuild.TournamentRegistration
import HuntersGuild.TournamentSafety
import HuntersGuild.TournamentStart
import HuntersGuild.TournamentStorage
import HuntersGuild.VirtualTcp
import HuntersGuild.VirtualTcpDelivery
import HuntersGuild.VirtualTcpInbound
import HuntersGuild.VirtualTcpOutbound
import HuntersGuild.VirtualTcpPushSizes
import HuntersGuild.WeaponShopLegality
import HuntersGuild.WeaponShops
import HuntersGuild.WebSockets
import HuntersGuild.WeightedChoice
import HuntersGuild.WeightedTables
import HuntersGuild.WindowExactness
import HuntersGuild.WindowSearch
import HuntersGuild.WordBytes
import HuntersGuild.WordCiphers
import HuntersGuild.WordStreams
