import DateCalc.Main
import DateCalc.Parts
import DateCalc.Report.Reading
import DateCalc.Report.Theme
import DateCalc.Proofs.Grammar.Prefixes
import DateCalc.Proofs.Grammar.OptionalColon
import DateCalc.Proofs.Evaluation
import DateCalc.Proofs.Calendar.Walks
import DateCalc.Proofs.Grammar.Canonical
import DateCalc.Proofs.Grammar.Order
import DateCalc.Proofs.Calculation.Reference
import DateCalc.Proofs.Calculation.Warnings
import DateCalc.Proofs.Calculation.Replay
import DateCalc.Proofs.Grammar.ClockForms
import DateCalc.Proofs.Calculation.SentencesAsShifts
import DateCalc.Proofs.Calculation.FailurePositions
import DateCalc.Proofs.Grammar.Failures
import DateCalc.Proofs.Grammar.Choice
import DateCalc.Proofs.Report.ConsoleLines
import DateCalc.Proofs.Report.ShownExpressions
import DateCalc.Proofs.Value.JsonRoundTrip
import DateCalc.Proofs.Report.OutputModes
import DateCalc.Proofs.Config.Layering
import DateCalc.Proofs.Grammar.Spellings
import DateCalc.Proofs.Grammar.TrailingBlanks
import DateCalc.Proofs.Grammar.ReferenceYear
import DateCalc.Proofs.Differences
import DateCalc.Proofs.Calculation.Override
import DateCalc.Proofs.Grammar.PrecedingText
import DateCalc.Proofs.Grammar.Exhaustion
import DateCalc.Proofs.Config.Discovery
