import SqlBuilder.Bind.Convert
import SqlBuilder.Bind.Tagged
import SqlBuilder.Database.Pool
import SqlBuilder.Dialect.Registry
import SqlBuilder.Entity
import SqlBuilder.Script
import SqlBuilder.Proofs.Agreement
import SqlBuilder.Proofs.Bookkeeping
import SqlBuilder.Proofs.Composition
import SqlBuilder.Proofs.Kinds
import SqlBuilder.Proofs.Numbering
import SqlBuilder.Proofs.Pins
import SqlBuilder.Proofs.Quoting
import SqlBuilder.Proofs.Reading
import SqlBuilder.Proofs.Replacement
import SqlBuilder.Proofs.Reordering
import SqlBuilder.Proofs.Sessions
import SqlBuilder.Proofs.Labels
import SqlBuilder.Proofs.Scoping
import SqlBuilder.Proofs.Alignment
import SqlBuilder.Proofs.Spelling
import SqlBuilder.Proofs.Appending
import SqlBuilder.Proofs.Targets
import SqlBuilder.Proofs.Exchange
import SqlBuilder.Proofs.Omissions
import SqlBuilder.Proofs.Redirection
import SqlBuilder.Proofs.Unwrapping
import SqlBuilder.Proofs.Naming
import SqlBuilder.Proofs.Admission
import SqlBuilder.Proofs.Casting
import SqlBuilder.Proofs.Conversion
import SqlBuilder.Proofs.Rounding
import SqlBuilder.Proofs.DateText
import SqlBuilder.Proofs.JsonReading
import SqlBuilder.Proofs.Tagging
import SqlBuilder.Proofs.Sorting
import SqlBuilder.Proofs.Derivation
import SqlBuilder.Proofs.TableNames
import SqlBuilder.Proofs.RawNames
import SqlBuilder.Proofs.Splicing
