import SealedEnum.Proofs.Config.Loading
import SealedEnum.Proofs.Host.Entry
import SealedEnum.Proofs.Path.Ancestors

namespace SealedEnum.Session

/-! The search for a configuration file stops at the first directory on its way up that has one,
and gives up at the top. -/

variable {session : Session} {start found directory : Path}

end SealedEnum.Session
