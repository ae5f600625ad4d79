import SmartForm.Catalog.Choices
import SmartForm.Cells.Network
import SmartForm.Files.Tree
import SmartForm.Main
import SmartForm.Proofs.Catalog.Verbatim
import SmartForm.Proofs.CommandLine.Inspect
import SmartForm.Proofs.CommandLine.Search
import SmartForm.Proofs.Form.Rebuild
import SmartForm.Proofs.Loading.Supersession
import SmartForm.Proofs.Search.Query
import SmartForm.Proofs.Search.Quiet
import SmartForm.Proofs.Search.Timed
import SmartForm.Proofs.Validation.Anchors
import SmartForm.Proofs.Catalog.Merging
import SmartForm.Proofs.Form.Materialized
import SmartForm.Proofs.Search.Crew
import SmartForm.Proofs.Json.Leaves
import SmartForm.Proofs.Json.RoundTrip
import SmartForm.Proofs.Decoding.Stable
import SmartForm.Proofs.Decoding.Parts
import SmartForm.Proofs.Schema.RoundTrip
import SmartForm.Proofs.Schema.Numbers
import SmartForm.Proofs.Form.Resetting
import SmartForm.Proofs.Form.Footprint
import SmartForm.Proofs.Search.Addressing
import SmartForm.Proofs.Pattern.Language
import SmartForm.Proofs.Validation.Email
import SmartForm.Proofs.Catalog.Negation
import SmartForm.Proofs.Form.Commuting
import SmartForm.Proofs.Settings.Exactness
import SmartForm.Proofs.Search.Joining
import SmartForm.Proofs.Validation.Chain
import SmartForm.Proofs.Loading.Phases
import SmartForm.Proofs.Cells.Delivery
import SmartForm.Proofs.Form.ParentsFirst
import SmartForm.Proofs.Validation.Bounds
