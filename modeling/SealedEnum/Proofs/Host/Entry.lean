import SealedEnum.Proofs.Host.Readable
import SealedEnum.Proofs.Path.Join

namespace SealedEnum

open SealedEnum.Text

/-! The entries of a directory, seen through a path to the directory and their names. -/

namespace Path

variable {directory path : Path}

end Path

namespace Disk

variable {disk : Disk} {directory place : Place} {folder : Path} {name : String}

end Disk

end SealedEnum
