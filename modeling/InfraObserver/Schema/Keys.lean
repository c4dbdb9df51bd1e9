import InfraObserver.Rules.Rule
import InfraObserver.Schema.Limits
import InfraObserver.State.Spec

/-!
# Keys of entities

A state record, a rule, a series and an observation are each found again by a text
that is made of the device and of labels. Neither the device nor a label value is
escaped in it, so the text tells two entities apart only by what is left of them when
it is cut at the separators.
-/

namespace InfraObserver

variable {F : Type} {leftID rightID : String} {left right : StringMap String}

end InfraObserver

namespace InfraObserver

attribute [local instance] Platform.plain GoFloat.integer

end InfraObserver
