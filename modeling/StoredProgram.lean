import StoredProgram.Proofs.Assembly.Acceptance
import StoredProgram.Proofs.Controller.Drive
import StoredProgram.Proofs.Controller.Range
import StoredProgram.Proofs.Controller.Refusal
import StoredProgram.Proofs.Controller.Signal
import StoredProgram.Proofs.Machine.Alike
import StoredProgram.Proofs.Machine.Dispatch
import StoredProgram.Proofs.Machine.Repeat
import StoredProgram.Proofs.Session.Fault
import StoredProgram.Proofs.Session.Interrupt
import StoredProgram.Proofs.Session.Shape
import StoredProgram.Proofs.Session.Speed
import StoredProgram.Proofs.Session.Undo
import StoredProgram.Settings.File
import StoredProgram.Proofs.Loading.Warning
import StoredProgram.Proofs.Assembly.Append
import StoredProgram.Proofs.Assembly.Printing
import StoredProgram.Proofs.Assembly.Report
import StoredProgram.Proofs.Machine.View
import StoredProgram.Proofs.Program.Start
import StoredProgram.Proofs.Program.Counter
import StoredProgram.Proofs.Program.StraightLine
import StoredProgram.Proofs.Program.Fibonacci
import StoredProgram.Proofs.Machine.Edit
import StoredProgram.Proofs.Machine.Display
import StoredProgram.Proofs.Settings.Rejection
import StoredProgram.Proofs.Value.Text
