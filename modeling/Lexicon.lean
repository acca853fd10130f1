import Lexicon.Main
import Lexicon.Storage.Tree
import Lexicon.Proofs.Lexer.Lines
import Lexicon.Proofs.Lexer.Lossless
import Lexicon.Proofs.Lexer.Policies
import Lexicon.Proofs.Lexer.RejectedLine
import Lexicon.Proofs.Lexer.Reports
import Lexicon.Proofs.Symbol
import Lexicon.Proofs.Namespace
import Lexicon.Proofs.Assignment
import Lexicon.Proofs.Command.BindNames
import Lexicon.Proofs.Lexer.Independence
import Lexicon.Proofs.Unicode.CanonicalOrder
import Lexicon.Proofs.Unicode.Decomposition
import Lexicon.Proofs.Unicode.Idempotence
import Lexicon.Proofs.Unicode.IdentifierClosure
import Lexicon.Proofs.Unicode.NameEquality
import Lexicon.Proofs.Lexer.NormalizedName
import Lexicon.Proofs.Lexer.Calls
import Lexicon.Proofs.Lexer.Iteration
import Lexicon.Proofs.Lexer.Termination
import Lexicon.Proofs.Lexer.Respelling
import Lexicon.Proofs.Lexer.Encoding
import Lexicon.Proofs.Lexer.WrittenTokens
import Lexicon.Proofs.Lexer.Excerpts
import Lexicon.Proofs.Command.Verdict
import Lexicon.Proofs.Command.OrderedSum
import Lexicon.Proofs.Command.ListedPrefix
import Lexicon.Proofs.Lexer.LongestMatch
import Lexicon.Proofs.Lexer.Resumption
import Lexicon.Proofs.Namespace.Session
import Lexicon.Proofs.Source.ColumnOrder
import Lexicon.Proofs.Source.Terminators
import Lexicon.Proofs.Command.SingleIdentifier
import Lexicon.Proofs.Listing.Spelling
import Lexicon.Proofs.Listing.Rows
