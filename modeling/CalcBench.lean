import CalcBench.CommandLine.Disk
import CalcBench.CommandLine.Outcome
import CalcBench.CommandLine.Request
import CalcBench.CommandLine.Tool
import CalcBench.Device
import CalcBench.Device.Model
import CalcBench.Device.Replay
import CalcBench.Expression.Evaluation
import CalcBench.Expression.Infix
import CalcBench.Expression.Postfix
import CalcBench.Expression.Symbol
import CalcBench.Failure
import CalcBench.Log
import CalcBench.Main
import CalcBench.Operator
import CalcBench.Proofs.AnswerFile
import CalcBench.Proofs.CommandLine.Answer
import CalcBench.Proofs.CommandLine.Check
import CalcBench.Proofs.CommandLine.Disk
import CalcBench.Proofs.CommandLine.Path
import CalcBench.Proofs.Device.Calls
import CalcBench.Proofs.Device.Model
import CalcBench.Proofs.Device.Replay
import CalcBench.Proofs.Device.Trace
import CalcBench.Proofs.Device.TraceForm
import CalcBench.Proofs.Expression.Barrier
import CalcBench.Proofs.Expression.BytePort
import CalcBench.Proofs.Expression.Conservation
import CalcBench.Proofs.Expression.Datapath
import CalcBench.Proofs.Expression.Diagnosis
import CalcBench.Proofs.Expression.Extension
import CalcBench.Proofs.Expression.FoldLog
import CalcBench.Proofs.Expression.InfixValue
import CalcBench.Proofs.Expression.Levels
import CalcBench.Proofs.Expression.Literals
import CalcBench.Proofs.Expression.PostfixForm
import CalcBench.Proofs.Expression.ProgramForm
import CalcBench.Proofs.Expression.Received
import CalcBench.Proofs.Expression.Relocation
import CalcBench.Proofs.Expression.Replacement
import CalcBench.Proofs.Expression.Scanning
import CalcBench.Proofs.Expression.Spacing
import CalcBench.Proofs.Expression.TokenOrder
import CalcBench.Proofs.Expression.Transitions
import CalcBench.Proofs.Register
import CalcBench.Proofs.Report
import CalcBench.Proofs.Testbench.Cases
import CalcBench.Proofs.Testbench.Frame
import CalcBench.Proofs.Testbench.GoldenDevice
import CalcBench.Proofs.Testbench.Logging
import CalcBench.Proofs.Testbench.Protocol
import CalcBench.Proofs.Testbench.Replay
import CalcBench.Proofs.Testbench.Reporting
import CalcBench.Proofs.Testbench.Splitting
import CalcBench.Proofs.Text.Bytes
import CalcBench.Proofs.Text.Lines
import CalcBench.Proofs.Verdict
import CalcBench.Report
import CalcBench.Response
import CalcBench.Testbench
import CalcBench.Text.Reading
import CalcBench.Text.Shown
import CalcBench.Text.Unprintable
