import AttributeQuery.Schema.Document
import AttributeQuery.Settings.Source
import AttributeQuery.Query.Statement
import AttributeQuery.Proofs.Filter.Grammar
import AttributeQuery.Proofs.Query.Candidates
import AttributeQuery.Proofs.Query.Chains
import AttributeQuery.Proofs.Query.Checks
import AttributeQuery.Proofs.Query.Exchange
import AttributeQuery.Proofs.Query.Hostnames
import AttributeQuery.Proofs.Query.Safety
import AttributeQuery.Proofs.Query.Canonical
import AttributeQuery.Proofs.Settings.Precedence
import AttributeQuery.Proofs.Settings.Merging
import AttributeQuery.Proofs.Query.Substrings
import AttributeQuery.Proofs.Query.Legality
import AttributeQuery.Proofs.Query.Assembly
import AttributeQuery.Proofs.Query.Aliases
import AttributeQuery.Proofs.Query.Networks
import AttributeQuery.Proofs.Query.Mirroring
import AttributeQuery.Proofs.Query.Integers
import AttributeQuery.Proofs.Text.Closing
import AttributeQuery.Proofs.Text.Quoted
import AttributeQuery.Proofs.Text.Escaping
import AttributeQuery.Proofs.Sql.Construction
import AttributeQuery.Proofs.Query.Fitting
import AttributeQuery.Proofs.Settings.Validation
