import SealedEnum.Host.Layout
import SealedEnum.Main
import SealedEnum.Proofs.Config.Resolution
import SealedEnum.Proofs.Config.Substitution
import SealedEnum.Proofs.Generation.Batch
import SealedEnum.Proofs.Generation.OwnLicense
import SealedEnum.Proofs.Generation.UpToDate
import SealedEnum.Proofs.Spec.FirstViolation
import SealedEnum.Proofs.Tool.Agreement
import SealedEnum.Proofs.Tool.Footprint
import SealedEnum.Proofs.Tool.Prediction
import SealedEnum.Proofs.Config.Destinations
import SealedEnum.Proofs.Source.Mentions
import SealedEnum.Proofs.Source.References
import SealedEnum.Proofs.Source.Layout
import SealedEnum.Proofs.Tool.Emission
import SealedEnum.Proofs.Config.EmptyDestination
import SealedEnum.Proofs.Config.Expansion
import SealedEnum.Proofs.Config.Reloading
import SealedEnum.Proofs.Source.LicenseLines
import SealedEnum.Proofs.Text.SnakeCase
import SealedEnum.Proofs.Config.DefaultDestination
import SealedEnum.Proofs.Generation.Selection
import SealedEnum.Proofs.Path.Ancestors
import SealedEnum.Proofs.Host.Entry
import SealedEnum.Proofs.Config.Search
import SealedEnum.Proofs.Source.Columns
import SealedEnum.Proofs.Source.Decoding
