import ApiPlatform.Catalog.Backend
import ApiPlatform.Catalog.Capabilities
import ApiPlatform.Catalog.Component
import ApiPlatform.Catalog.Databases
import ApiPlatform.Catalog.External
import ApiPlatform.Catalog.Gateways
import ApiPlatform.Catalog.Images
import ApiPlatform.Catalog.Names
import ApiPlatform.Catalog.Parts
import ApiPlatform.Catalog.System
import ApiPlatform.Catalog.Zync
import ApiPlatform.Collections.OrderedMap
import ApiPlatform.Collections.SortedMap
import ApiPlatform.CommandLine.Grammar
import ApiPlatform.CommandLine.Invocation
import ApiPlatform.CommandLine.Scan
import ApiPlatform.CommandLine.Usage
import ApiPlatform.Decimal.Shortest
import ApiPlatform.Decimal.Text
import ApiPlatform.Failure
import ApiPlatform.Gateway.Definition
import ApiPlatform.Gateway.Desired
import ApiPlatform.Gateway.Endpoint
import ApiPlatform.Gateway.Reconcile
import ApiPlatform.Gateway.Report
import ApiPlatform.Gateway.Resource
import ApiPlatform.Json.Basic
import ApiPlatform.Json.Codec
import ApiPlatform.Json.Number
import ApiPlatform.Json.Printer
import ApiPlatform.Json.Reader
import ApiPlatform.Json.Sorted
import ApiPlatform.Main
import ApiPlatform.Options.Schema
import ApiPlatform.Proofs.Catalog.Outline
import ApiPlatform.Proofs.Catalog.Platform
import ApiPlatform.Proofs.Catalog.Texts
import ApiPlatform.Proofs.Gateway.Confidentiality
import ApiPlatform.Proofs.Gateway.Convergence
import ApiPlatform.Proofs.Gateway.Endpoint
import ApiPlatform.Proofs.Gateway.Errors
import ApiPlatform.Proofs.Gateway.Frame
import ApiPlatform.Proofs.Gateway.Independence
import ApiPlatform.Proofs.Gateway.Inputs
import ApiPlatform.Proofs.Gateway.Placing
import ApiPlatform.Proofs.Gateway.Reading
import ApiPlatform.Proofs.Gateway.Recovery
import ApiPlatform.Proofs.Gateway.Run
import ApiPlatform.Proofs.Gateway.Wiring
import ApiPlatform.Proofs.Json.Every
import ApiPlatform.Proofs.Json.Strings
import ApiPlatform.Proofs.Options.LastValues
import ApiPlatform.Proofs.Reconcile.Agreement
import ApiPlatform.Proofs.Reconcile.Likeness
import ApiPlatform.Proofs.Reconcile.Linearization
import ApiPlatform.Proofs.Reconcile.MinimalCopy
import ApiPlatform.Proofs.Reconcile.Outcome
import ApiPlatform.Proofs.Reconcile.Protocol
import ApiPlatform.Proofs.Reconcile.SecretContent
import ApiPlatform.Proofs.Reconcile.SecretValues
import ApiPlatform.Proofs.Reconcile.Settling
import ApiPlatform.Proofs.Reconcile.Stages
import ApiPlatform.Proofs.Store.Fidelity
import ApiPlatform.Proofs.Store.Histories
import ApiPlatform.Proofs.Store.Interleaving
import ApiPlatform.Proofs.Store.Kept
import ApiPlatform.Proofs.Store.Reachable
import ApiPlatform.Proofs.Store.Refusals
import ApiPlatform.Proofs.Store.Running
import ApiPlatform.Proofs.Store.Transcript
import ApiPlatform.Proofs.Store.Writes
import ApiPlatform.Proofs.Template.Assembled
import ApiPlatform.Proofs.Template.Coherence
import ApiPlatform.Proofs.Template.Compatible
import ApiPlatform.Proofs.Template.Confinement
import ApiPlatform.Proofs.Template.Edits
import ApiPlatform.Proofs.Template.Effective
import ApiPlatform.Proofs.Template.Faults
import ApiPlatform.Proofs.Template.Fillable
import ApiPlatform.Proofs.Template.Filling
import ApiPlatform.Proofs.Template.Generators
import ApiPlatform.Proofs.Template.Influence
import ApiPlatform.Proofs.Template.Pieces
import ApiPlatform.Proofs.Template.Placeholders
import ApiPlatform.Proofs.Template.ReadingBack
import ApiPlatform.Proofs.Template.Referable
import ApiPlatform.Proofs.Template.References
import ApiPlatform.Proofs.Template.Resolution
import ApiPlatform.Proofs.Template.Separation
import ApiPlatform.Proofs.Template.Variants
import ApiPlatform.Proofs.Text.Ascii
import ApiPlatform.Proofs.Text.Utf8
import ApiPlatform.Proofs.Transform.Accounted
import ApiPlatform.Proofs.Transform.Adaptable
import ApiPlatform.Proofs.Transform.Availability
import ApiPlatform.Proofs.Transform.Commutation
import ApiPlatform.Proofs.Transform.Databases
import ApiPlatform.Proofs.Transform.Entries
import ApiPlatform.Proofs.Transform.Extension
import ApiPlatform.Proofs.Transform.Fate
import ApiPlatform.Proofs.Transform.FloatingTag
import ApiPlatform.Proofs.Transform.Idempotence
import ApiPlatform.Proofs.Transform.ObjectStorage
import ApiPlatform.Proofs.Transform.Order
import ApiPlatform.Proofs.Transform.ProductImages
import ApiPlatform.Proofs.Transform.Run
import ApiPlatform.Proofs.Transform.Staging
import ApiPlatform.Proofs.Transform.Steady
import ApiPlatform.Proofs.Transform.Steps
import ApiPlatform.Proofs.Transform.Storage
import ApiPlatform.Proofs.Transform.Strings
import ApiPlatform.Proofs.Transform.Variables
import ApiPlatform.Proofs.Url.Percent
import ApiPlatform.Reconcile.Object
import ApiPlatform.Reconcile.Significant
import ApiPlatform.Resource.Composition
import ApiPlatform.Resource.Dynamic
import ApiPlatform.Resource.Images
import ApiPlatform.Resource.Kind
import ApiPlatform.Resource.Labels
import ApiPlatform.Resource.Metadata
import ApiPlatform.Resource.Network
import ApiPlatform.Resource.Object
import ApiPlatform.Resource.Owner
import ApiPlatform.Resource.Pod
import ApiPlatform.Resource.Settings
import ApiPlatform.Resource.Workload
import ApiPlatform.Store.Error
import ApiPlatform.Store.Key
import ApiPlatform.Store.Memory
import ApiPlatform.Store.Program
import ApiPlatform.Store.Remote
import ApiPlatform.Template.Assembly
import ApiPlatform.Template.Bundle
import ApiPlatform.Template.Contributions
import ApiPlatform.Template.Document
import ApiPlatform.Template.Generator
import ApiPlatform.Template.Parameter
import ApiPlatform.Template.Placeholder
import ApiPlatform.Template.Processing
import ApiPlatform.Template.Request
import ApiPlatform.Template.Variant
import ApiPlatform.Text.Base64
import ApiPlatform.Text.Bytes
import ApiPlatform.Text.Digits
import ApiPlatform.Text.Printable
import ApiPlatform.Text.Quoted
import ApiPlatform.Transform.Chain
import ApiPlatform.Transform.Evaluation
import ApiPlatform.Transform.ExternalStorage
import ApiPlatform.Transform.HighAvailability
import ApiPlatform.Transform.Productized
import ApiPlatform.Unicode.CombiningClass
import ApiPlatform.Unicode.Composition
import ApiPlatform.Unicode.Direction
import ApiPlatform.Unicode.Joining
import ApiPlatform.Unicode.Marks
import ApiPlatform.Unicode.Normalization
import ApiPlatform.Unicode.Table
import ApiPlatform.Url.Address
import ApiPlatform.Url.Basic
import ApiPlatform.Url.Domain
import ApiPlatform.Url.Error
import ApiPlatform.Url.Label
import ApiPlatform.Url.Mapping
import ApiPlatform.Url.Percent
import ApiPlatform.Url.Punycode
import ApiPlatform.Yaml.Document
import ApiPlatform.Yaml.File
import ApiPlatform.Yaml.Resolution
import ApiPlatform.Yaml.Scalar
