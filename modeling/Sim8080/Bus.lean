
namespace Sim8080

/-- Memory and port access as the processor sees it. -/
class Bus (β : Type) where
  read : β → UInt16 → UInt8 × β
  write : β → UInt16 → UInt8 → β
  input : β → UInt8 → UInt8 × β
  output : β → UInt8 → UInt8 → β

end Sim8080
