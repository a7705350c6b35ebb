import SM83.Bus
import SM83.Instruction.Opcode

/-!
Decoding from memory. The bytes behind an opcode are read only when the opcode calls for them, so
an illegal opcode costs one read.
-/

namespace SM83

def decode (address : UInt16) : Action (Except IllegalOpcode Instruction) := do
  let opcode ← Action.readByte address
  match Opcode.template opcode with
  | .complete instruction => return .ok instruction
  | .withByte build =>
    let value ← Action.readByte (address + 1)
    return .ok (build value)
  | .withWord build =>
    let value ← Action.readWord (address + 1)
    return .ok (build value)
  | .illegal => return .error ⟨opcode, address⟩

end SM83
