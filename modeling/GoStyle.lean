import GoStyle.Main
import GoStyle.Proofs.Faults
import GoStyle.Proofs.Independence
import GoStyle.Proofs.Provenance
import GoStyle.Proofs.FileOrder
import GoStyle.Proofs.Agreement
import GoStyle.Proofs.RecursiveTargets
import GoStyle.Proofs.SkippedFiles
import GoStyle.Proofs.AllOrNothing
import GoStyle.Proofs.Clashes
import GoStyle.Proofs.Spelling
import GoStyle.Proofs.TidyLines
import GoStyle.Proofs.TypeDocs
import GoStyle.Proofs.WrittenComments
import GoStyle.Proofs.FuncDocs
import GoStyle.Proofs.ReceiverNames
import GoStyle.Proofs.PackageDocs
import GoStyle.Proofs.ValueRemarks
import GoStyle.Proofs.Replacements
import GoStyle.Proofs.Stuttering
import GoStyle.Proofs.PackageGroups
import GoStyle.Proofs.Collecting
import GoStyle.Proofs.NearestConfig
import GoStyle.Proofs.RoundTrip
