/-
Reading URLs with the standard conversion of domains.
-/
import Switchyard.Idna.Domain
import Switchyard.Url.Parser

namespace Switchyard.Url

/-- Reads a URL. -/
def parse (input : List Char) : Except UrlError Url := parseWith Idna.toAscii input

end Switchyard.Url
