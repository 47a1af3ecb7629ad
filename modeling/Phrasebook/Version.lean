/-!
The version of the library.
-/

namespace Phrasebook

def version : String := "0.1.0"

end Phrasebook
