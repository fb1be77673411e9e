import Crabedence.Properties.AbiAgreement
import Crabedence.Properties.AtMostOnce
import Crabedence.Properties.AttemptCeiling
import Crabedence.Properties.DigestBinding
import Crabedence.Properties.ExportDigest
import Crabedence.Properties.EvidenceBinding
import Crabedence.Properties.EvidenceDigest
import Crabedence.Properties.Fencing
import Crabedence.Properties.Finalization
import Crabedence.Properties.GrantDigest
import Crabedence.Properties.GrantGenerations
import Crabedence.Properties.LeaseRevision
import Crabedence.Properties.Ledger
import Crabedence.Properties.Lifecycle
import Crabedence.Properties.LocatorNames
import Crabedence.Properties.ProviderGate
import Crabedence.Properties.RegistryDigest
import Crabedence.Properties.ResourceScope
import Crabedence.Properties.ResultDigest
import Crabedence.Properties.RunProjection
import Crabedence.Properties.SchemaKeywords
import Crabedence.Properties.StatusAgreement
import Crabedence.Properties.OrgKeys
