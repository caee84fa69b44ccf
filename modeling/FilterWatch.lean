import FilterWatch.Draft.Table
import FilterWatch.Event.Reader
import FilterWatch.Main
import FilterWatch.Proofs.Accounts
import FilterWatch.Proofs.AddressRanges
import FilterWatch.Proofs.AddressTexts
import FilterWatch.Proofs.Attempts
import FilterWatch.Proofs.BlockForms
import FilterWatch.Proofs.BlockLayout
import FilterWatch.Proofs.BlockTiling
import FilterWatch.Proofs.ByteReading
import FilterWatch.Proofs.ChainFilter
import FilterWatch.Proofs.ChainIndex
import FilterWatch.Proofs.ChainRuns
import FilterWatch.Proofs.ClearedTables
import FilterWatch.Proofs.Conversation
import FilterWatch.Proofs.Decoding
import FilterWatch.Proofs.DecodingFaults
import FilterWatch.Proofs.DraftAnatomy
import FilterWatch.Proofs.DraftHooks
import FilterWatch.Proofs.DraftLayout
import FilterWatch.Proofs.DraftPlaces
import FilterWatch.Proofs.DraftRecords
import FilterWatch.Proofs.DraftTargets
import FilterWatch.Proofs.DrawnTables
import FilterWatch.Proofs.EventLines
import FilterWatch.Proofs.HookData
import FilterWatch.Proofs.HookSpans
import FilterWatch.Proofs.InfoEncoding
import FilterWatch.Proofs.JsonStrings
import FilterWatch.Proofs.JsonTexts
import FilterWatch.Proofs.JumpResolution
import FilterWatch.Proofs.LastSettings
import FilterWatch.Proofs.ListItems
import FilterWatch.Proofs.Observations
import FilterWatch.Proofs.Outcomes
import FilterWatch.Proofs.Passages
import FilterWatch.Proofs.Places
import FilterWatch.Proofs.PortBlocks
import FilterWatch.Proofs.PortColumns
import FilterWatch.Proofs.PortLists
import FilterWatch.Proofs.PortRanges
import FilterWatch.Proofs.PortTexts
import FilterWatch.Proofs.PrefixMasks
import FilterWatch.Proofs.QuietCollecting
import FilterWatch.Proofs.RecordPlacement
import FilterWatch.Proofs.RecordRoles
import FilterWatch.Proofs.RecordRuns
import FilterWatch.Proofs.RepeatedPasses
import FilterWatch.Proofs.RoundTrip
import FilterWatch.Proofs.Sessions
import FilterWatch.Proofs.SinglePasses
import FilterWatch.Proofs.SnapshotGrammar
import FilterWatch.Proofs.Snapshots
import FilterWatch.Proofs.SourceAgreement
import FilterWatch.Proofs.Strictness
import FilterWatch.Proofs.SwitchedTables
import FilterWatch.Proofs.TableRequests
import FilterWatch.Proofs.TargetFaults
import FilterWatch.Proofs.TargetPresence
import FilterWatch.Proofs.TextParts
import FilterWatch.Proofs.UnreachedFaults
import FilterWatch.Proofs.UnreadBytes
import FilterWatch.Proofs.UserChains
import FilterWatch.Proofs.Verbosity
import FilterWatch.Proofs.Walking
import FilterWatch.Proofs.WholeTables
import FilterWatch.Walk
