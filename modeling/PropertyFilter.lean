import PropertyFilter.Main
import PropertyFilter.Pattern.Search
import PropertyFilter.Proofs.Condition.Compound
import PropertyFilter.Proofs.Predicate.Independence
import PropertyFilter.Proofs.Predicate.Refusal
import PropertyFilter.Proofs.Statement.Binding
import PropertyFilter.Proofs.Filter.Reading
import PropertyFilter.Proofs.Filter.Pairing
import PropertyFilter.Proofs.Condition.Blank
import PropertyFilter.Proofs.Token.Segmentation
import PropertyFilter.Proofs.Session.History
import PropertyFilter.Proofs.Condition.Roundtrip
import PropertyFilter.Proofs.Token.Extension
import PropertyFilter.Proofs.Condition.Wildcard
import PropertyFilter.Proofs.Condition.Spacing
import PropertyFilter.Proofs.Condition.Refusal
import PropertyFilter.Proofs.Condition.Key
import PropertyFilter.Proofs.Calendar.Roundtrip
import PropertyFilter.Proofs.Condition.Numeral
import PropertyFilter.Proofs.Condition.Reporting
