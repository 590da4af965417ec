import JumpMacros.Main
import JumpMacros.Proofs.BareNames
import JumpMacros.Proofs.BoundLabels
import JumpMacros.Proofs.CallAccounts
import JumpMacros.Proofs.CommandAgreement
import JumpMacros.Proofs.FilledBlocks
import JumpMacros.Proofs.FlagSearch
import JumpMacros.Proofs.FlagUses
import JumpMacros.Proofs.HookInstallation
import JumpMacros.Proofs.Idempotence
import JumpMacros.Proofs.LabelResolution
import JumpMacros.Proofs.Locations
import JumpMacros.Proofs.MacroLookups
import JumpMacros.Proofs.MeaningPreservation
import JumpMacros.Proofs.NameCapture
import JumpMacros.Proofs.PrintedNames
import JumpMacros.Proofs.RecordOrder
import JumpMacros.Proofs.ReorderedScopes
import JumpMacros.Proofs.RestoredSessions
import JumpMacros.Proofs.ScopeIsolation
import JumpMacros.Proofs.SkippedModules
import JumpMacros.Proofs.SourceRoundTrip
import JumpMacros.Script.Inspect
import JumpMacros.Tree.Outline
