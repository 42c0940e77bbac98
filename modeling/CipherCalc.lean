import CipherCalc.Text.Blank
import CipherCalc.Text.Bytes
import CipherCalc.Decimal.Binary64
import CipherCalc.Decimal.Numeral
import CipherCalc.Decimal.Shortest
import CipherCalc.Decimal.Positional
import CipherCalc.Expr.Error
import CipherCalc.Expr.Token
import CipherCalc.Expr.Token.Scan
import CipherCalc.Expr.Postfix
import CipherCalc.Expr.Arithmetic
import CipherCalc.Expr.Value
import CipherCalc.Expr.Evaluation
import CipherCalc.Cipher.Alphabet
import CipherCalc.Cipher.Rotation
import CipherCalc.Cipher.Words
import CipherCalc.Cipher.Listing
import CipherCalc.Files
import CipherCalc.Settings
import CipherCalc.Settings.Table
import CipherCalc.Settings.File
import CipherCalc.Session.Answer
import CipherCalc.Session.Question
import CipherCalc.Session.Reply
import CipherCalc.Session.Transcript
import CipherCalc.CommandLine.Options
import CipherCalc.CommandLine.Program
import CipherCalc.Readers.ControlSequence
import CipherCalc.Readers.Refusal
import CipherCalc.Readers.Arguments
import CipherCalc.Readers.Value
import CipherCalc.Readers.Key
import CipherCalc.Readers.Document
import CipherCalc.Readers.Grapheme.Ranges
import CipherCalc.Readers.Grapheme
import CipherCalc.Readers.Backspace
import CipherCalc.Readers.Input
import CipherCalc.Readers
import CipherCalc.Proofs.Text.Runs
import CipherCalc.Proofs.Expr.Scanner
import CipherCalc.Proofs.Expr.ScanParts
import CipherCalc.Proofs.Expr.Conversion
import CipherCalc.Proofs.Expr.Substitution
import CipherCalc.Proofs.Expr.Derivation
import CipherCalc.Proofs.Expr.DerivationValue
import CipherCalc.Proofs.Decimal.Literal
import CipherCalc.Proofs.Expr.Sentence
import CipherCalc.Proofs.Expr.Balance
import CipherCalc.Proofs.Expr.OutputOrder
import CipherCalc.Proofs.Expr.Computation
import CipherCalc.Proofs.Cipher.Rotation
import CipherCalc.Proofs.Text.Trim
import CipherCalc.Proofs.Cipher.Listing
import CipherCalc.Proofs.Session.Answer
import CipherCalc.Proofs.Session.Exchanges
import CipherCalc.Proofs.Session.Succession
import CipherCalc.Proofs.Session.Ending
import CipherCalc.Proofs.Session.Capacity
import CipherCalc.Proofs.Expr.ScanFailure
import CipherCalc.Proofs.Session.Causality
import CipherCalc.Proofs.Session.Isolation
import CipherCalc.Proofs.Text.Bytes
import CipherCalc.Proofs.Text.Lines
import CipherCalc.Proofs.CommandLine.LineReader
import CipherCalc.Proofs.Readers.Input
import CipherCalc.Proofs.CommandLine.Program
import CipherCalc.Proofs.Expr.Stages
import CipherCalc.Proofs.Expr.Rescan
import CipherCalc.Proofs.Expr.OperatorStack
import CipherCalc.Proofs.Decimal.Word
import CipherCalc.Proofs.Decimal.Rounding
import CipherCalc.Proofs.Decimal.Positional
import CipherCalc.Proofs.Expr.ResultText
import CipherCalc.Proofs.Session.Counters
import CipherCalc.Proofs.Session.Expressions
import CipherCalc.Proofs.Session.Repetition
import CipherCalc.Proofs.Session.TextSource
import CipherCalc.Proofs.Session.RoundTrip
import CipherCalc.Proofs.Cipher.Words
import CipherCalc.Proofs.Session.Shift
import CipherCalc.Proofs.CommandLine.Spelling
import CipherCalc.Proofs.Readers.Arguments
import CipherCalc.Proofs.CommandLine.Occurrences
import CipherCalc.Proofs.Settings.Value
import CipherCalc.Proofs.Readers.Value
import CipherCalc.Proofs.Settings.Line
import CipherCalc.Proofs.Readers.Document
import CipherCalc.Proofs.Settings.Document
