import GroupInterfaces.Main
import GroupInterfaces.Proofs.Outcome
import GroupInterfaces.Proofs.Annotations
import GroupInterfaces.Proofs.Recording
import GroupInterfaces.Proofs.Parts
import GroupInterfaces.Proofs.Agreement
import GroupInterfaces.Proofs.Associations
import GroupInterfaces.Proofs.Placeholders
import GroupInterfaces.Proofs.Nesting
import GroupInterfaces.Proofs.Completion
import GroupInterfaces.Proofs.Frame
import GroupInterfaces.Proofs.Integrity
import GroupInterfaces.Proofs.AccessorNames
import GroupInterfaces.Proofs.Regeneration
import GroupInterfaces.Proofs.Reordering
import GroupInterfaces.Proofs.Failing
import GroupInterfaces.Proofs.Hierarchy
import GroupInterfaces.Proofs.BuilderHierarchy
import GroupInterfaces.Proofs.Kinds
import GroupInterfaces.Proofs.Reuse
import GroupInterfaces.Proofs.SettingsChange
import GroupInterfaces.Proofs.MoreCompiled
import GroupInterfaces.Proofs.Histories
import GroupInterfaces.Proofs.Mirroring
import GroupInterfaces.Proofs.Implementations
import GroupInterfaces.Proofs.Rereading
import GroupInterfaces.Proofs.OwnReferences
import GroupInterfaces.Proofs.Supertypes
import GroupInterfaces.Proofs.Positions
import GroupInterfaces.Proofs.SameFragments
import GroupInterfaces.Proofs.Documentation
import GroupInterfaces.Proofs.LoadingOnce
import GroupInterfaces.Proofs.PackageNames
import GroupInterfaces.Proofs.Publishing
import GroupInterfaces.Proofs.QualifiedNames
import GroupInterfaces.Proofs.Words
import GroupInterfaces.Proofs.BothDirections
