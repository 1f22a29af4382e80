import BeanConstraints.Bootstrap.Basic
import BeanConstraints.Bootstrap.Collection
import BeanConstraints.Bootstrap.Registration
import BeanConstraints.CommandLine.Arguments
import BeanConstraints.CommandLine.Complaint
import BeanConstraints.CommandLine.Log
import BeanConstraints.CommandLine.Report
import BeanConstraints.CommandLine.Run
import BeanConstraints.CommandLine.Setting
import BeanConstraints.Component.Kind
import BeanConstraints.Component.Loader
import BeanConstraints.Component.Registry
import BeanConstraints.Constraint.Basic
import BeanConstraints.Constraint.Interner
import BeanConstraints.Constraint.Registry
import BeanConstraints.Diagnostic
import BeanConstraints.Extraction
import BeanConstraints.Factory.Basic
import BeanConstraints.Factory.Build
import BeanConstraints.Factory.Configuration
import BeanConstraints.Factory.Flags
import BeanConstraints.Factory.Settings
import BeanConstraints.Fault
import BeanConstraints.FileTree
import BeanConstraints.Journal
import BeanConstraints.Json.Basic
import BeanConstraints.Json.Printer
import BeanConstraints.Json.Reader
import BeanConstraints.Locked
import BeanConstraints.Main
import BeanConstraints.Mapping.Basic
import BeanConstraints.Mapping.Element
import BeanConstraints.Metadata.Bean
import BeanConstraints.Metadata.Manager
import BeanConstraints.Metadata.Source
import BeanConstraints.Metadata.Store
import BeanConstraints.MethodRules
import BeanConstraints.Proofs.Attempts
import BeanConstraints.Proofs.Bean
import BeanConstraints.Proofs.Blocks
import BeanConstraints.Proofs.Bootstrap
import BeanConstraints.Proofs.CallOrder
import BeanConstraints.Proofs.Catalogue
import BeanConstraints.Proofs.Collection
import BeanConstraints.Proofs.Colours
import BeanConstraints.Proofs.Contention
import BeanConstraints.Proofs.Contexts
import BeanConstraints.Proofs.ContributorOrder
import BeanConstraints.Proofs.Crashes
import BeanConstraints.Proofs.Decision
import BeanConstraints.Proofs.Decoding
import BeanConstraints.Proofs.Definitions
import BeanConstraints.Proofs.ElementNames
import BeanConstraints.Proofs.Enrolment
import BeanConstraints.Proofs.Failures
import BeanConstraints.Proofs.Filing
import BeanConstraints.Proofs.Freshness
import BeanConstraints.Proofs.Identities
import BeanConstraints.Proofs.Influence
import BeanConstraints.Proofs.Inspection
import BeanConstraints.Proofs.Interning
import BeanConstraints.Proofs.JsonText
import BeanConstraints.Proofs.JsonTokens
import BeanConstraints.Proofs.Layers
import BeanConstraints.Proofs.Layouts
import BeanConstraints.Proofs.NameList
import BeanConstraints.Proofs.Outline
import BeanConstraints.Proofs.Overlay
import BeanConstraints.Proofs.Placements
import BeanConstraints.Proofs.Provenance
import BeanConstraints.Proofs.Registration
import BeanConstraints.Proofs.Release
import BeanConstraints.Proofs.Resolution
import BeanConstraints.Proofs.Serving
import BeanConstraints.Proofs.Session
import BeanConstraints.Proofs.Sharing
import BeanConstraints.Proofs.Spelling
import BeanConstraints.Proofs.Store
import BeanConstraints.Proofs.Table
import BeanConstraints.Proofs.Turns
import BeanConstraints.Proofs.Updates
import BeanConstraints.Proofs.Workshop
import BeanConstraints.Property.File
import BeanConstraints.Property.Key
import BeanConstraints.Property.Names
import BeanConstraints.Property.Value
import BeanConstraints.Provider
import BeanConstraints.Table
import BeanConstraints.Text.Blank
import BeanConstraints.Text.Digits
import BeanConstraints.Text.Printable
import BeanConstraints.Text.Quoted
import BeanConstraints.Text.Terminal
import BeanConstraints.Toml.Basic
import BeanConstraints.Toml.Document
import BeanConstraints.Toml.Lexeme
import BeanConstraints.Toml.Moment
import BeanConstraints.Toml.Scalar
import BeanConstraints.Proofs.Obstacles
import BeanConstraints.Proofs.Reports
