import MovieCatalog.Main
import MovieCatalog.Proofs.Hex
import MovieCatalog.Proofs.Utf8
import MovieCatalog.Proofs.Uuid
import MovieCatalog.Proofs.Routes
import MovieCatalog.Proofs.Spelling
import MovieCatalog.Proofs.Json.Numbers
import MovieCatalog.Proofs.Json.Strings
import MovieCatalog.Proofs.Json.Values
import MovieCatalog.Proofs.Json.Records
import MovieCatalog.Proofs.Store
import MovieCatalog.Proofs.StoredBody
import MovieCatalog.Proofs.Statements
import MovieCatalog.Proofs.Runs
import MovieCatalog.Proofs.Soundness
import MovieCatalog.Proofs.Listing
import MovieCatalog.Proofs.PageToken
import MovieCatalog.Proofs.QueryString
import MovieCatalog.Proofs.StaticWalk
import MovieCatalog.Proofs.InterleavedWalk
import MovieCatalog.Proofs.Operations
import MovieCatalog.Proofs.History
import MovieCatalog.Proofs.Rollback
import MovieCatalog.Proofs.ProperRows
import MovieCatalog.Proofs.PatchAsPut
import MovieCatalog.Proofs.Statuses
import MovieCatalog.Proofs.TokenSpelling
import MovieCatalog.Proofs.WriteEffects
import MovieCatalog.Proofs.Commutation
import MovieCatalog.Proofs.Refusals
import MovieCatalog.Proofs.PlanWrites
import MovieCatalog.Proofs.PatchMerge
import MovieCatalog.Proofs.Select
import MovieCatalog.Proofs.ReferencePage
import MovieCatalog.Proofs.Respelling
import MovieCatalog.Proofs.Json.Skipping
import MovieCatalog.Proofs.Json.Objects
import MovieCatalog.Proofs.Answers
import MovieCatalog.Proofs.ListQueries
import MovieCatalog.Proofs.SentBodies
import MovieCatalog.Proofs.StoredAnswers
import MovieCatalog.Proofs.IdentifierOrder
import MovieCatalog.Proofs.IdentifierReading
import MovieCatalog.Proofs.StoredKinds
import MovieCatalog.Proofs.Bootstrap
import MovieCatalog.Proofs.Replacements
import MovieCatalog.Proofs.Housing
import MovieCatalog.Proofs.Sessions
import MovieCatalog.Proofs.Toml.Values
import MovieCatalog.Proofs.Toml.Documents
import MovieCatalog.Proofs.Configuration
