import SasMigration.Fault
import SasMigration.Value.Reader

namespace SasMigration

namespace JsonFault

def toFault : JsonFault → Fault
  | .malformed => .malformedDocument
  | .longInteger digits => .longNumeral digits
  | .deepList => .deepDocument "array"
  | .deepObject => .deepDocument "object"

end JsonFault

namespace Value

def load (t : Text) : Except Fault Value := (ofJson t).mapError JsonFault.toFault

end Value

end SasMigration
