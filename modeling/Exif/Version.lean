/-!
The version of the library.
-/

namespace Exif

def version : String := "0.1.0"

end Exif
