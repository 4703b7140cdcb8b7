import LazyStyles.Edit
import LazyStyles.Plugin
import LazyStyles.Proofs.Filter.Directory
import LazyStyles.Proofs.Hosts.Outcomes
import LazyStyles.Proofs.Hosts.Settled
import LazyStyles.Proofs.Meaning.Lazy
import LazyStyles.Proofs.Module.Recognition
import LazyStyles.Proofs.Options.Config
import LazyStyles.Proofs.Source.Extraction
import LazyStyles.Proofs.Source.Fidelity
import LazyStyles.Proofs.Filter.Faults
import LazyStyles.Proofs.Filter.Separators
import LazyStyles.Proofs.Module.Agreement
import LazyStyles.Proofs.Position.Lines
import LazyStyles.Proofs.Hosts.Moved
