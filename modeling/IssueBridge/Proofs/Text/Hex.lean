import IssueBridge.Text.Hex

/-! # Hexadecimal texts that are read back -/

namespace IssueBridge.Text.Hex

end IssueBridge.Text.Hex
