import Gatehouse.Chain.World

/-!
# Tracing requests

The outermost layer opens a span of the trace for a request. Whatever the
layers behind it do for the request is done within that span.
-/

namespace Gatehouse.Chain

/-- **Answers** within a span. -/
def trace {m : Type → Type} (w : World m) (next : Handler m) : Handler m :=
  fun r => w.inSpan r (next r)

end Gatehouse.Chain
