import SM83.Machine
import SM83.Main
import SM83.Memory
import SM83.TraceTool
import SM83.Proofs.Alu.PackedDecimal
import SM83.Proofs.Execute.Divergence
import SM83.Proofs.Execute.UnusedFlags
import SM83.Proofs.Run.CallStack
import SM83.Proofs.Run.Dependence
import SM83.Proofs.Execute.Frame
import SM83.Proofs.Assembly.ReadBack
import SM83.Proofs.Alu.MultiByte
import SM83.Proofs.TraceTool.Answer
import SM83.Proofs.Run.Operations
import SM83.Proofs.Run.Log
import SM83.Proofs.Run.StraightLine
import SM83.Proofs.Numeral.AddressText
import SM83.Proofs.Run.Destination
import SM83.Proofs.Checked.Arithmetic
import SM83.Proofs.Checked.Execution
import SM83.Proofs.Run.FlagByte
import SM83.Proofs.Alu.WordAdder
import SM83.Proofs.Alu.CarryBit
import SM83.Proofs.Execute.Synonyms
import SM83.Proofs.Registers.Independent
import SM83.Proofs.Memory.Writes
import SM83.Proofs.Alu.ThroughCarry
import SM83.Proofs.Execute.SingleBits
import SM83.Proofs.Alu.Rotations
