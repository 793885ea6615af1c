import BombMission.Files.Tree
import BombMission.Main
import BombMission.Proofs.Catalog.Identity
import BombMission.Proofs.Catalog.Keywords
import BombMission.Proofs.Catalog.Lookup
import BombMission.Proofs.CommandLine.Spellings
import BombMission.Proofs.Files.Profiles
import BombMission.Proofs.Files.Snapshots
import BombMission.Proofs.Mission.Brackets
import BombMission.Proofs.Mission.Capability
import BombMission.Proofs.Mission.Chance
import BombMission.Proofs.Mission.Contents
import BombMission.Proofs.Mission.Duplicates
import BombMission.Proofs.Mission.Failure
import BombMission.Proofs.Mission.Naming
import BombMission.Proofs.Mission.Packing
import BombMission.Proofs.Mission.Phrasing
import BombMission.Proofs.Mission.Provenance
import BombMission.Proofs.Mission.Requests
import BombMission.Proofs.Mission.Sanity
import BombMission.Proofs.Mission.Scopes
import BombMission.Proofs.Mission.Solvable
import BombMission.Proofs.Mission.Summary
import BombMission.Proofs.Mission.Words
import BombMission.Proofs.Outline.References
import BombMission.Proofs.Outline.Words
import BombMission.Proofs.Pool.Naming
import BombMission.Proofs.Pool.Unique
import BombMission.Proofs.Token.Lookahead
import BombMission.Proofs.Token.Quoting
import BombMission.Proofs.Token.Recognition
import BombMission.Proofs.Token.Words
import BombMission.Random.SplitMix
import BombMission.Proofs.Outline.Reachable
import BombMission.Proofs.Report.TimeLimit
import BombMission.Proofs.CommandLine.Deciding
import BombMission.Proofs.CommandLine.Exit
