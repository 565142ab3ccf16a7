import Provisioner.Access
import Provisioner.Base64
import Provisioner.Controller.Basic
import Provisioner.Controller.Manager
import Provisioner.Credentials
import Provisioner.Decimal.Binary64
import Provisioner.Decimal.Literal
import Provisioner.Decimal.Shortest
import Provisioner.Demo
import Provisioner.Dict
import Provisioner.Error
import Provisioner.Executor.Inputs
import Provisioner.Executor.Job
import Provisioner.Executor.Progress
import Provisioner.Gzip.Checksum
import Provisioner.Gzip.Inflate
import Provisioner.Gzip.Member
import Provisioner.Idna.Composition
import Provisioner.Idna.Direction
import Provisioner.Idna.Joining
import Provisioner.Idna.Label
import Provisioner.Idna.Mapping
import Provisioner.Idna.Punycode
import Provisioner.Json.Basic
import Provisioner.Json.Decode
import Provisioner.Json.MergePatch
import Provisioner.Json.Reader
import Provisioner.Json.Shape
import Provisioner.Json.Writer
import Provisioner.Kind
import Provisioner.Metadata
import Provisioner.Names
import Provisioner.Object
import Provisioner.ObjectKey
import Provisioner.Outputs
import Provisioner.Proofs.Agreement
import Provisioner.Proofs.Alignment
import Provisioner.Proofs.Amounts
import Provisioner.Proofs.ApplyGate
import Provisioner.Proofs.ApplySteps
import Provisioner.Proofs.AtMostOnce
import Provisioner.Proofs.Backends
import Provisioner.Proofs.Backoff
import Provisioner.Proofs.Changes
import Provisioner.Proofs.Commutation
import Provisioner.Proofs.Converging
import Provisioner.Proofs.CreationTime
import Provisioner.Proofs.CredentialLookup
import Provisioner.Proofs.Debounce
import Provisioner.Proofs.DestroyGate
import Provisioner.Proofs.DestroyNotices
import Provisioner.Proofs.Dispatch
import Provisioner.Proofs.Encodings
import Provisioner.Proofs.Endurance
import Provisioner.Proofs.Fingerprint
import Provisioner.Proofs.FixedPoint
import Provisioner.Proofs.Footprints
import Provisioner.Proofs.Harvest
import Provisioner.Proofs.History
import Provisioner.Proofs.Identity
import Provisioner.Proofs.Lifecycle
import Provisioner.Proofs.ManagerRuns
import Provisioner.Proofs.Mending
import Provisioner.Proofs.Notices
import Provisioner.Proofs.Operations
import Provisioner.Proofs.Ownership
import Provisioner.Proofs.PassOutcomes
import Provisioner.Proofs.PassRuns
import Provisioner.Proofs.PassSteps
import Provisioner.Proofs.Places
import Provisioner.Proofs.Pods
import Provisioner.Proofs.Quantities
import Provisioner.Proofs.QueueRuns
import Provisioner.Proofs.Quiescence
import Provisioner.Proofs.Reachability
import Provisioner.Proofs.ReadBack
import Provisioner.Proofs.Readiness
import Provisioner.Proofs.Reading
import Provisioner.Proofs.Recording
import Provisioner.Proofs.Remit
import Provisioner.Proofs.Rendering
import Provisioner.Proofs.Replacements
import Provisioner.Proofs.Repositories
import Provisioner.Proofs.Resemblance
import Provisioner.Proofs.Retention
import Provisioner.Proofs.SecretReadings
import Provisioner.Proofs.Separation
import Provisioner.Proofs.SilentWrites
import Provisioner.Proofs.Stability
import Provisioner.Proofs.StoreWrites
import Provisioner.Proofs.Triggering
import Provisioner.Proofs.VariableChanges
import Provisioner.Proofs.Verdicts
import Provisioner.Proofs.WrittenForm
import Provisioner.Proofs.WrittenKeys
import Provisioner.Quantity
import Provisioner.Queue.Basic
import Provisioner.Queue.Schedule
import Provisioner.Reconcile.Apply
import Provisioner.Reconcile.ConfigurationPass
import Provisioner.Reconcile.Convergence
import Provisioner.Reconcile.Destroy
import Provisioner.Reconcile.Outcome
import Provisioner.Reconcile.ProviderPass
import Provisioner.Reconcile.Status
import Provisioner.Resource.Access
import Provisioner.Resource.ConfigMap
import Provisioner.Resource.Configuration
import Provisioner.Resource.Job
import Provisioner.Resource.Pod
import Provisioner.Resource.Provider
import Provisioner.Resource.Reference
import Provisioner.Resource.Secret
import Provisioner.Settings
import Provisioner.Sha256
import Provisioner.Store.Basic
import Provisioner.Store.Write
import Provisioner.Target
import Provisioner.Terraform.Replacement
import Provisioner.Terraform.Source
import Provisioner.Terraform.State
import Provisioner.Terraform.Variables
import Provisioner.Text.Blank
import Provisioner.Text.Digit
import Provisioner.Text.Hidden
import Provisioner.Text.Quoted
import Provisioner.Text.Utf8
import Provisioner.Timestamp
import Provisioner.Url.Address
import Provisioner.Url.Basic
import Provisioner.Url.Domain
import Provisioner.Yaml.Document
import Provisioner.Yaml.Entries
import Provisioner.Yaml.Fault
import Provisioner.Yaml.ScalarText
import Provisioner.Yaml.ScalarType
import Provisioner.Yaml.Token
import Provisioner.Yaml.Tokens
