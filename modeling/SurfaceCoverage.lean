import SurfaceCoverage.Main
import SurfaceCoverage.Proofs.Classification
import SurfaceCoverage.Proofs.Scoring
import SurfaceCoverage.Proofs.Evidence
import SurfaceCoverage.Proofs.Layout
import SurfaceCoverage.Proofs.Bases
import SurfaceCoverage.Proofs.Growth
import SurfaceCoverage.Proofs.Reproducible
import SurfaceCoverage.Proofs.Gaps
import SurfaceCoverage.Proofs.NumberText
import SurfaceCoverage.Proofs.DocumentText
import SurfaceCoverage.Proofs.ReportText
import SurfaceCoverage.Proofs.Families
import SurfaceCoverage.Proofs.Slots
import SurfaceCoverage.Proofs.Reporting
import SurfaceCoverage.Proofs.Ancestry
import SurfaceCoverage.Proofs.Sections
import SurfaceCoverage.Proofs.Endings
import SurfaceCoverage.Proofs.LowerCase
import SurfaceCoverage.Proofs.Scanning
import SurfaceCoverage.Proofs.Joining
import SurfaceCoverage.Proofs.SimpleNames
import SurfaceCoverage.Proofs.Emission
import SurfaceCoverage.Proofs.Totals
import SurfaceCoverage.Proofs.Traversal
import SurfaceCoverage.Proofs.Unmatched
import SurfaceCoverage.Proofs.Ownership
import SurfaceCoverage.Proofs.Supertypes
