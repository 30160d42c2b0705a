import SqlBridge.Proofs.Connection.Beginning
import SqlBridge.Proofs.Connection.Request

namespace SqlBridge

namespace Engine

variable {e : Engine}

end Engine

end SqlBridge
