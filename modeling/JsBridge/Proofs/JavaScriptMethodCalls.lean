import JsBridge.Proofs.DuktapeArguments
import JsBridge.Proofs.QuickJsJavaScriptMethod

/-!
# Both backends hand JS the arguments of spec §4.4

For every fitting Java argument array, `JavaScriptMethod::invoke` on either backend calls the JS
function once with `jsArguments` (the fixed arguments converted, then the varargs array's
elements spread) when their conversion succeeds and not at all otherwise, without undefined
behaviour; on QuickJS the loop that fills `jsArgs` assigns each of its `numJsArguments` slots
exactly once.
-/

namespace JsBridge

variable {P T : Type}

end JsBridge
