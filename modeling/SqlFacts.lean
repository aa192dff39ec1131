import SqlFacts.Main
import SqlFacts.Proofs.Command.Outcome
import SqlFacts.Proofs.Facts.AlteredTable
import SqlFacts.Proofs.Facts.AssignmentList
import SqlFacts.Proofs.Facts.BatchInsertion
import SqlFacts.Proofs.Facts.CalledName
import SqlFacts.Proofs.Facts.ClosingFormat
import SqlFacts.Proofs.Facts.DefinedObject
import SqlFacts.Proofs.Facts.FormatUse
import SqlFacts.Proofs.Facts.Guards
import SqlFacts.Proofs.Facts.JoinColumn
import SqlFacts.Proofs.Facts.LiteralSettings
import SqlFacts.Proofs.Facts.Nested
import SqlFacts.Proofs.Facts.ObjectWord
import SqlFacts.Proofs.Facts.Outline
import SqlFacts.Proofs.Facts.Parentheses
import SqlFacts.Proofs.Facts.Placeholders
import SqlFacts.Proofs.Facts.Places
import SqlFacts.Proofs.Facts.RecordedObject
import SqlFacts.Proofs.Facts.Redirections
import SqlFacts.Proofs.Facts.SearchedTarget
import SqlFacts.Proofs.Journal.Cleanup
import SqlFacts.Proofs.Journal.LineFields
import SqlFacts.Proofs.Journal.Projects
import SqlFacts.Proofs.Lexeme.BareWords
import SqlFacts.Proofs.Lexeme.Nesting
import SqlFacts.Proofs.Script.Coverage
import SqlFacts.Proofs.Script.InPlace
import SqlFacts.Proofs.Script.Isolation
import SqlFacts.Proofs.Statement.Sameness
