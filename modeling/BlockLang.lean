import BlockLang.Console.Arguments
import BlockLang.Console.Diagnostic
import BlockLang.Console.Run
import BlockLang.Console.Style
import BlockLang.Evaluation.Arithmetic
import BlockLang.Evaluation.Run
import BlockLang.Evaluation.Script
import BlockLang.Grammar.Automaton
import BlockLang.Grammar.Expression
import BlockLang.Grammar.Parse
import BlockLang.Grammar.ParseError
import BlockLang.Grammar.Program
import BlockLang.Grammar.Terminal
import BlockLang.Main
import BlockLang.Number.Decimal
import BlockLang.Number.Exact
import BlockLang.Proofs.Console.Arguments
import BlockLang.Proofs.Console.Outcome
import BlockLang.Proofs.Console.RunMode
import BlockLang.Proofs.Console.SourceMode
import BlockLang.Proofs.Evaluation.Access
import BlockLang.Proofs.Evaluation.Assignments
import BlockLang.Proofs.Evaluation.Locality
import BlockLang.Proofs.Evaluation.StackMachine
import BlockLang.Proofs.Evaluation.Uncovered
import BlockLang.Proofs.Grammar.Acceptance
import BlockLang.Proofs.Grammar.Completion
import BlockLang.Proofs.Grammar.Derivation
import BlockLang.Proofs.Grammar.Descent
import BlockLang.Proofs.Grammar.DescentResult
import BlockLang.Proofs.Grammar.Expected
import BlockLang.Proofs.Grammar.Expression
import BlockLang.Proofs.Grammar.FirstError
import BlockLang.Proofs.Grammar.Joining
import BlockLang.Proofs.Grammar.Layout
import BlockLang.Proofs.Grammar.OperatorChain
import BlockLang.Proofs.Grammar.Piece
import BlockLang.Proofs.Grammar.Program
import BlockLang.Proofs.Grammar.Progress
import BlockLang.Proofs.Grammar.Resumption
import BlockLang.Proofs.Grammar.Run
import BlockLang.Proofs.Grammar.Spelling
import BlockLang.Proofs.Grammar.TooLarge
import BlockLang.Proofs.Text.Location
import BlockLang.Proofs.Token.Place
import BlockLang.Proofs.Token.Reading
import BlockLang.Proofs.Token.Respelling
import BlockLang.Proofs.Token.Transcript
import BlockLang.Proofs.Token.Word
import BlockLang.Proofs.Token.Wording
import BlockLang.Proofs.Tree.LispUnique
import BlockLang.Proofs.Tree.Normal
import BlockLang.Proofs.Tree.PostfixCode
import BlockLang.Proofs.Tree.PostfixUnique
import BlockLang.Proofs.Tree.Printable
import BlockLang.Proofs.Tree.ReadBack
import BlockLang.Proofs.Tree.Reparse
import BlockLang.Text.CharClass
import BlockLang.Text.Location
import BlockLang.Text.Quoted
import BlockLang.Token.Basic
import BlockLang.Token.Cursor
import BlockLang.Token.Lexeme
import BlockLang.Tree.Basic
import BlockLang.Tree.Lisp
import BlockLang.Tree.Operator
import BlockLang.Tree.Outline
import BlockLang.Tree.Postfix
import BlockLang.Tree.Source
import BlockLang.Unicode.Alphabetic
import BlockLang.Unicode.DefaultIgnorable
import BlockLang.Unicode.GraphemeExtend
import BlockLang.Unicode.Numeric
import BlockLang.Unicode.Ranges
import BlockLang.Unicode.Unprintable
import BlockLang.Unicode.WhiteSpace
