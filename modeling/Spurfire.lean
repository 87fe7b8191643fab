import Spurfire.Lib.Word
import Spurfire.Lib.Runs
import Spurfire.Lib.Wire
import Spurfire.Lib.Binary64
import Spurfire.Lib.TreeMap
import Spurfire.Lib.Sha256
import Spurfire.Lib.OrderedSet
import Spurfire.Protocol.Identity
import Spurfire.Protocol.Election
import Spurfire.Protocol.Combat
import Spurfire.Protocol.Gameplay
import Spurfire.Protocol.Bounty
import Spurfire.Net.Checkpoint
import Spurfire.Net.Messages
import Spurfire.Net.State
import Spurfire.Net.Fragments
import Spurfire.Net.Canonical
import Spurfire.Net.Session
import Spurfire.Net.Admission
import Spurfire.Net.Succession
import Spurfire.Net.Authority
import Spurfire.Net.Agreement
import Spurfire.Net.Replay
import Spurfire.Net.Receipts
import Spurfire.Net.Preference
import Spurfire.Net.Preimage
import Spurfire.Net.Replication
import Spurfire.Game.SpreadSync
import Spurfire.Protocol.Roster
import Spurfire.Game.ManifestPin
import Spurfire.Net.KeyframeWire
import Spurfire.Server.Store
import Spurfire.Server.Lease
import Spurfire.Server.Grants
import Spurfire.Server.Idempotency
import Spurfire.Server.Service
import Spurfire.Server.Moves
import Spurfire.Server.Walk
import Spurfire.Control.Inventory
import Spurfire.Server.Vault
import Spurfire.Server.Ledger
import Spurfire.Server.Receipt
import Spurfire.Server.Sessions
import Spurfire.Server.Cleanup
import Spurfire.Server.Broker
import Spurfire.Server.BrokerClient
import Spurfire.Server.Custody
import Spurfire.Server.Orphans
import Spurfire.Lib.JsonScan
import Spurfire.Server.Responses
import Spurfire.Client.ExtractSecret
import Spurfire.Protocol.ElectionInput
import Spurfire.Protocol.ElectionScore
import Spurfire.Protocol.Spur
import Spurfire.Net.Pending
import Spurfire.Net.Presentation
import Spurfire.Lib.Loop
import Spurfire.Protocol.BountyCatchUp
import Spurfire.Protocol.BountyScores
import Spurfire.Protocol.SaddleGeometry
import Spurfire.Lib.FirstOrBest
import Spurfire.Protocol.Placement
import Spurfire.Protocol.SaddleDive
import Spurfire.Protocol.DiveTelemetry
import Spurfire.Protocol.DiveLifecycle
import Spurfire.Lib.Chunks
import Spurfire.Net.FragmentSets
import Spurfire.Lib.FloorNorm
import Spurfire.Protocol.OnFoot
import Spurfire.Protocol.Horse
import Spurfire.Protocol.Recall
import Spurfire.Protocol.Actor
import Spurfire.Protocol.Rounds
import Spurfire.Protocol.FireLaw
import Spurfire.Protocol.ShotRuns
import Spurfire.Protocol.Targets
import Spurfire.Protocol.M3Combat
import Spurfire.Protocol.MountedFire
import Spurfire.Game.ClientFire
import Spurfire.Control.DnsName
import Spurfire.Control.Policy
import Spurfire.Server.CreatorAccess
import Spurfire.Server.LeaveFrame
import Spurfire.Server.StandingAuthority
import Spurfire.Server.StateMachine
import Spurfire.Server.EpochAuthority
import Spurfire.Server.RateBudgets
import Spurfire.Server.ReadLimits
import Spurfire.Game.Restore
import Spurfire.Protocol.Falloff
import Spurfire.Protocol.IntegerSqrt
import Spurfire.Server.VaultEncoding
import Spurfire.Server.Base64Url
import Spurfire.Protocol.HorseRunout
import Spurfire.Protocol.DeathCensor
import Spurfire.Protocol.LandingDamage
import Spurfire.Protocol.ShotAccounting
import Spurfire.Protocol.DiveEdits
import Spurfire.Protocol.LandingSlope
import Spurfire.Protocol.LaunchCone
import Spurfire.Protocol.CombatRoster
import Spurfire.Protocol.BountyLives
import Spurfire.Game.MatchAuthority
import Spurfire.Protocol.Rewind
import Spurfire.Noise.Pipeline
import Spurfire.Game.PacketChannel
import Spurfire.Protocol.TextForms
