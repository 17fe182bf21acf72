import FacetedSearch.Payload.Query
import FacetedSearch.Request.Rendering
import FacetedSearch.Proofs.Request.Sections
import FacetedSearch.Proofs.Request.Counts
import FacetedSearch.Proofs.Request.Exclusions
import FacetedSearch.Proofs.Request.CountKeys
import FacetedSearch.Proofs.Request.Terms
import FacetedSearch.Proofs.Filter.UniqueReading
import FacetedSearch.Proofs.Payload.Culprits
import FacetedSearch.Proofs.Payload.FilterLanguage
import FacetedSearch.Proofs.Payload.Rereading
import FacetedSearch.Proofs.Query.Independence
import FacetedSearch.Proofs.Payload.Building
import FacetedSearch.Proofs.Request.Refusals
import FacetedSearch.Proofs.Request.Shape
import FacetedSearch.Proofs.DateMath.Reading
import FacetedSearch.Proofs.Filter.Compilation
import FacetedSearch.Proofs.Request.Intervals
import FacetedSearch.Proofs.Payload.AbsoluteBounds
import FacetedSearch.Proofs.Payload.Compositional
import FacetedSearch.Proofs.Payload.Omissions
import FacetedSearch.Proofs.Payload.Ignored
import FacetedSearch.Proofs.Payload.Paging
import FacetedSearch.Proofs.Payload.Restoring
