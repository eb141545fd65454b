import AccountRecovery.Account
import AccountRecovery.Api.Application
import AccountRecovery.Api.Model
import AccountRecovery.Api.Request
import AccountRecovery.Api.Response
import AccountRecovery.Channel.Basic
import AccountRecovery.Channel.Eligibility
import AccountRecovery.Channel.Masking
import AccountRecovery.Channel.Selection
import AccountRecovery.Collaborators
import AccountRecovery.Database.Migration
import AccountRecovery.Database.Pool
import AccountRecovery.Database.Statement
import AccountRecovery.Database.Store
import AccountRecovery.Dialogue
import AccountRecovery.Directory.Basic
import AccountRecovery.Directory.Seed
import AccountRecovery.Failure
import AccountRecovery.Form.Basic
import AccountRecovery.Form.Field
import AccountRecovery.Json.Reader
import AccountRecovery.Json.Value
import AccountRecovery.Log
import AccountRecovery.Names
import AccountRecovery.Pattern.Basic
import AccountRecovery.Pattern.Match
import AccountRecovery.Pattern.Reader
import AccountRecovery.Pattern.Scanner
import AccountRecovery.Planned
import AccountRecovery.Record
import AccountRecovery.Recovery.Clearance
import AccountRecovery.Recovery.Issue
import AccountRecovery.Recovery.Lookup
import AccountRecovery.Recovery.Offer
import AccountRecovery.Recovery.Service
import AccountRecovery.Recovery.Validation
import AccountRecovery.Settings.Basic
import AccountRecovery.Settings.EnvFile
import AccountRecovery.Store.Code
import AccountRecovery.Store.Memory
import AccountRecovery.Text.Blank
import AccountRecovery.Text.Case
import AccountRecovery.Text.CaseTable
import AccountRecovery.Text.CharacterNames
import AccountRecovery.Text.IdentifierTable
import AccountRecovery.Text.Integer
import AccountRecovery.Text.PrintableTable
import AccountRecovery.Text.Quoted
import AccountRecovery.Text.Split
import AccountRecovery.Text.Word
import AccountRecovery.Text.WordTable
import AccountRecovery.Proofs.Conduct
import AccountRecovery.Proofs.Stages
import AccountRecovery.Proofs.Records
import AccountRecovery.Proofs.Session
import AccountRecovery.Proofs.LifeCycle
import AccountRecovery.Proofs.Resolution
import AccountRecovery.Proofs.Clearance
import AccountRecovery.Proofs.Requests
import AccountRecovery.Proofs.Selection
import AccountRecovery.Proofs.Endpoints
import AccountRecovery.Proofs.History
import AccountRecovery.Proofs.Interleaving
import AccountRecovery.Proofs.Racing
import AccountRecovery.Proofs.Casing
import AccountRecovery.Proofs.SearchScope
import AccountRecovery.Proofs.Refusals
import AccountRecovery.Proofs.Reports
import AccountRecovery.Proofs.Attribution
import AccountRecovery.Proofs.Probing
import AccountRecovery.Proofs.Connections
import AccountRecovery.Proofs.Transactions
import AccountRecovery.Proofs.Expiry
import AccountRecovery.Proofs.Columns
import AccountRecovery.Proofs.Tenants
import AccountRecovery.Proofs.Consulting
import AccountRecovery.Proofs.Discretion
import AccountRecovery.Proofs.Answers
import AccountRecovery.Proofs.Matching
import AccountRecovery.Proofs.Masking
import AccountRecovery.Proofs.Addresses
import AccountRecovery.Proofs.Eligibility
import AccountRecovery.Proofs.Issuing
import AccountRecovery.Proofs.Substitution
import AccountRecovery.Proofs.Numbers
import AccountRecovery.Proofs.NormalForm
import AccountRecovery.Proofs.Loading
import AccountRecovery.Proofs.Roles
import AccountRecovery.Proofs.SchemaChanges
import AccountRecovery.Proofs.Lifetime
import AccountRecovery.Proofs.Inquiries
import AccountRecovery.Proofs.Spellings
