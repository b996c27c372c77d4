import Sexpr.Form.Same
import Sexpr.Logging
import Sexpr.Main
import Sexpr.Proofs.Token.Gap
import Sexpr.Proofs.Token.Spelling
import Sexpr.Proofs.Token.Run
import Sexpr.Proofs.Form.Reading
import Sexpr.Proofs.Double.Decimal
import Sexpr.Proofs.Form.Alike
import Sexpr.Proofs.Form.Linear
import Sexpr.Proofs.Form.Grammar
import Sexpr.Proofs.Form.Nesting
import Sexpr.Proofs.Form.Readable
import Sexpr.Proofs.Form.RoundTrip
import Sexpr.Proofs.Form.Machine
import Sexpr.Proofs.Position
import Sexpr.Proofs.Token.Layout
import Sexpr.Proofs.Token.LongestMatch
import Sexpr.Proofs.Token.Continuation
import Sexpr.Proofs.Token.Spaced
import Sexpr.Proofs.Token.Below
import Sexpr.Proofs.Token.Closing
import Sexpr.Proofs.Token.Outcomes
import Sexpr.Proofs.Form.Placement
import Sexpr.Proofs.Form.Continuation
import Sexpr.Proofs.Form.Calls
import Sexpr.Proofs.Form.Sequence
import Sexpr.Proofs.Form.DumpReading
import Sexpr.Proofs.Text.Lines
import Sexpr.Proofs.Form.OneLine
import Sexpr.Proofs.Fixture.Recorded
import Sexpr.Proofs.Session
import Sexpr.Proofs.Form.Dump
import Sexpr.Proofs.Response
import Sexpr.Proofs.Token.Trailing
import Sexpr.Proofs.Form.LineEnd
import Sexpr.Proofs.Double.Rational
import Sexpr.Proofs.Form.Numbers
import Sexpr.Proofs.Form.Canonical
import Sexpr.Proofs.Fixture.Account
import Sexpr.Proofs.Double.Equality
import Sexpr.Proofs.Fixture.Running
import Sexpr.Proofs.Form.Equality
