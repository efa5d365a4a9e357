import Troubleshoot.Describe
import Troubleshoot.Main
import Troubleshoot.Proofs.Session.Discipline
import Troubleshoot.Proofs.Session.Genuine
import Troubleshoot.Proofs.Session.Replay
import Troubleshoot.Proofs.Session.Walk
import Troubleshoot.Session.Script
import Troubleshoot.Proofs.Session.Occasion
import Troubleshoot.Proofs.Session.Counter
import Troubleshoot.Proofs.Fact.Finish
import Troubleshoot.Proofs.Fact.Balance
import Troubleshoot.Proofs.Rule.Trial
import Troubleshoot.Proofs.Rule.Log
import Troubleshoot.Proofs.Rule.Accounts
import Troubleshoot.Proofs.Fact.Foretold
import Troubleshoot.Proofs.Rule.Meaning
import Troubleshoot.Proofs.Rule.Declared
import Troubleshoot.Proofs.Rule.Order
import Troubleshoot.Proofs.Fact.Lockstep
import Troubleshoot.Proofs.Rule.Lockstep
import Troubleshoot.Proofs.Session.Lenience
import Troubleshoot.Proofs.Rule.View
import Troubleshoot.Proofs.Session.Inputs
import Troubleshoot.Proofs.Session.Preset
import Troubleshoot.Proofs.Record.Shown
import Troubleshoot.Proofs.Record.Reading
import Troubleshoot.Proofs.Record.Trimmed
import Troubleshoot.Proofs.Record.ReadBack
import Troubleshoot.Proofs.Rule.Shape
import Troubleshoot.Proofs.Rule.Written
import Troubleshoot.Proofs.Session.Lifecycle
import Troubleshoot.Proofs.Session.Reference
import Troubleshoot.Proofs.Session.Ledger
import Troubleshoot.Proofs.Session.Deliberation
import Troubleshoot.Proofs.Session.Override
import Troubleshoot.Proofs.Session.Memory
import Troubleshoot.Proofs.Session.Observed
import Troubleshoot.Proofs.Rule.Unknown
import Troubleshoot.Proofs.Session.Chronicle
import Troubleshoot.Proofs.Catalogue.Lookup
import Troubleshoot.Proofs.Rule.Equality
import Troubleshoot.Proofs.Session.Answer
import Troubleshoot.Proofs.Console.Shorthand
import Troubleshoot.Proofs.Rule.Comparison
