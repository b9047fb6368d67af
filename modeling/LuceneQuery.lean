import LuceneQuery.Main
import LuceneQuery.Proofs.Clause.NormalForm
import LuceneQuery.Proofs.Clause.Unescape
import LuceneQuery.Proofs.Config.Layering
import LuceneQuery.Proofs.Store.Session
import LuceneQuery.Proofs.Store.Change
import LuceneQuery.Proofs.Store.LastSetting
import LuceneQuery.Proofs.Store.WellFormed
import LuceneQuery.Proofs.Store.Weight
import LuceneQuery.Proofs.Config.Boost
import LuceneQuery.Proofs.Config.Closure
import LuceneQuery.Proofs.Command.Delivery
import LuceneQuery.Proofs.Command.Failure
import LuceneQuery.Proofs.Config.Sparse
import LuceneQuery.Proofs.Config.EscapeFlag
import LuceneQuery.Proofs.Clause.Leafless
import LuceneQuery.Proofs.Store.Leafless
import LuceneQuery.Proofs.Command.Leafless
import LuceneQuery.Proofs.Output.Json.Lexer
import LuceneQuery.Proofs.Output.Json.Parser
import LuceneQuery.Proofs.Text.Utf8
import LuceneQuery.Proofs.Output.Json.Document
import LuceneQuery.Proofs.Command.Saved
import LuceneQuery.Proofs.Log.Mirror
import LuceneQuery.Proofs.Clause.Quoted
import LuceneQuery.Proofs.Config.Grouping
